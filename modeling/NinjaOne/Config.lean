import NinjaOne.ApiClient

/-!
`config.py`: the settings of a deployment, and which host a request is for.

Two headers may say where a tenant's data is: `X-Ninja-Base-Url` names the host,
`X-Ninja-Region` a key into a fixed table. The first wins unless it is blank.

* `resolveBaseUrl_cases`: what comes out is the trimmed header, or one of the six
  hosts of the table.
* `init_resolveBaseUrl`: the client changes nothing of it.
-/

namespace NinjaOne

/-! ### Text -/

/-- The characters `str.strip` removes. -/
def isSpace (c : Char) : Bool :=
  c.toNat ∈ [0x20, 0x85, 0xA0, 0x1680, 0x2028, 0x2029, 0x202F, 0x205F, 0x3000] ||
    (0x09 ≤ c.toNat && c.toNat ≤ 0x0D) || (0x1C ≤ c.toNat && c.toNat ≤ 0x1F) ||
    (0x2000 ≤ c.toNat && c.toNat ≤ 0x200A)

/-- `s.strip()`. -/
def strip (s : String) : String :=
  String.ofList (((s.toList.dropWhile isSpace).reverse.dropWhile isSpace).reverse)

/-! ### Settings -/

/-- `Settings`. -/
structure Settings where
  enable_script_execution : Bool
  callback_public_base_url : String

/-! ### Hosts -/

/-- `REGION_BASE_URLS`. -/
def REGION_BASE_URLS : List (String × String) :=
  [("us", "https://app.ninjarmm.com"), ("eu", "https://eu.ninjarmm.com"),
    ("oc", "https://oc.ninjarmm.com"), ("ca", "https://ca.ninjarmm.com"),
    ("us2", "https://us2.ninjarmm.com"), ("fed", "https://fed.ninjarmm.com")]

def DEFAULT_REGION : String := "us"

/-- `REGION_BASE_URLS[DEFAULT_REGION]`. -/
def defaultBaseUrl : String := "https://app.ninjarmm.com"

/-- `region_base_url`. -/
def regionBaseUrl (py : PyText) (region : String) : String :=
  let key := py.lower (strip (if region = "" then DEFAULT_REGION else region))
  (REGION_BASE_URLS.lookup key).getD defaultBaseUrl

/-- `resolve_base_url`. -/
def resolveBaseUrl (py : PyText) (base_url region : String) : String :=
  if strip base_url ≠ "" then rstripSlash (strip base_url) else regionBaseUrl py region

example : REGION_BASE_URLS.lookup DEFAULT_REGION = some defaultBaseUrl := by decide

example : resolveBaseUrl .ascii " https://eu.ninjarmm.com/ " "us2" = "https://eu.ninjarmm.com" := by
  decide

/-! ### What a base URL may be -/

/-- The hosts of the table. -/
def regionHosts : List String := REGION_BASE_URLS.map Prod.snd

theorem regionBaseUrl_mem (py : PyText) (region : String) :
    regionBaseUrl py region ∈ regionHosts := by
  rw [regionBaseUrl]
  cases found : REGION_BASE_URLS.lookup
      (py.lower (strip (if region = "" then DEFAULT_REGION else region))) with
  | none =>
      rw [Option.getD_none]
      exact List.mem_cons_self
  | some url =>
      obtain ⟨before, after, table, _⟩ := List.lookup_eq_some_iff.mp found
      rw [regionHosts, table, List.map_append, List.map_cons]
      exact List.mem_append_right _ List.mem_cons_self

theorem resolveBaseUrl_cases (py : PyText) (base_url region : String) :
    strip base_url ≠ "" ∧ resolveBaseUrl py base_url region = rstripSlash (strip base_url) ∨
      strip base_url = "" ∧ resolveBaseUrl py base_url region ∈ regionHosts := by
  unfold resolveBaseUrl
  split
  · rename_i given
    exact Or.inl ⟨given, rfl⟩
  · rename_i blank
    exact Or.inr ⟨not_not.mp blank, regionBaseUrl_mem py region⟩

theorem rstripSlash_of_stripped {s : String} (stripped : s.toList.getLast? ≠ some '/') :
    rstripSlash s = s := by
  have kept : s.toList.reverse.dropWhile (fun c => decide (c = '/')) = s.toList.reverse := by
    cases rev : s.toList.reverse with
    | nil => rfl
    | cons c rest =>
        rw [← List.head?_reverse, rev, List.head?_cons] at stripped
        have other : c ≠ '/' := fun same => stripped (congrArg some same)
        exact List.dropWhile_cons_of_neg (by simpa using other)
  rw [rstripSlash, kept, List.reverse_reverse, String.ofList_toList]

/-- The base URL of a client is the one resolved. -/
theorem init_resolveBaseUrl (py : PyText) (token base_url region : String) :
    (NinjaOneClient.init token (resolveBaseUrl py base_url region)).base_url =
      resolveBaseUrl py base_url region := by
  refine rstripSlash_of_stripped ?_
  rcases resolveBaseUrl_cases py base_url region with ⟨_, eq⟩ | ⟨_, mem⟩
  · rw [eq]
    exact rstripSlash_stripped _
  · have stripped : ∀ url ∈ regionHosts, url.toList.getLast? ≠ some '/' := by decide
    exact stripped _ mem

end NinjaOne
