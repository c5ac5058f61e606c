import NinjaOne.Lib.UrlRef
import NinjaOne.Tools.Devices

/-!
Which endpoint a tool reaches when an argument becomes part of its URL.

`ninjaone_reset_alert` and `ninjaone_reboot_device` write a string argument into
the path as it is. The URL is split and its dot segments are resolved when the
request is sent, so the argument may hold separators of its own and walk
elsewhere: `own_endpoint_iff`, and `reset_reboots`.
-/

namespace NinjaOne

open UrlRef

/-- An endpoint with one argument in its path. -/
structure Endpoint where
  before : List (List Char)
  after : List (List Char)

/-- `api/v2/alert/…/reset`. -/
def alertReset : Endpoint :=
  ⟨["api".toList, "v2".toList, "alert".toList], ["reset".toList]⟩

/-- `api/v2/device/<device_id>/reboot/…`. -/
def deviceReboot (device_id : Int) : Endpoint :=
  ⟨["api".toList, "v2".toList, "device".toList, (toString device_id).toList, "reboot".toList], []⟩

/-- The URL leads below the base URL to this very endpoint, with a single
non-empty segment in the argument's place, no query and no fragment. -/
def Endpoint.ReachedBy (endpoint : Endpoint) (base_url url : String) : Prop :=
  ((parse url.toList).query = none ∧ (parse url.toList).fragment = none) ∧
    ∃ x, x ≠ [] ∧ (parse url.toList).resolved =
      (parse base_url.toList).resolved ++ endpoint.before ++ x :: endpoint.after

/-- The directory the argument is written into. -/
def Endpoint.directory (endpoint : Endpoint) (base_url : String) : List (List Char) :=
  (parse base_url.toList).resolved ++ endpoint.before

/-- Walked from `directory`, the argument names one entry directly below it. -/
def NamesEntry (directory : List (List Char)) (arg : String) : Prop :=
  ∃ x, x ≠ [] ∧ resolveFrom directory (arg.toList.splitOn '/') = directory ++ [x]

/-- Without `..`, an argument names one entry exactly when all but one of its
segments are `.`, and that one is not empty. -/
theorem namesEntry_of_no_parent {arg : String} (none_up : ['.', '.'] ∉ arg.toList.splitOn '/')
    (directory : List (List Char)) :
    NamesEntry directory arg ↔
      ∃ x, x ≠ [] ∧ (arg.toList.splitOn '/').filter (· ≠ ['.']) = [x] := by
  simp only [NamesEntry, resolveFrom_of_no_parent none_up, List.append_cancel_left_eq]

/-! ### Where a URL leads -/

section Reached

variable {endpoint : Endpoint} {first : List Char} {rest : List (List Char)}
  (starts : endpoint.before = first :: rest) (before : ∀ name ∈ endpoint.before, Ordinary name)
  (after : ∀ name ∈ endpoint.after, Ordinary name)

include before after

theorem plain_written (base_url arg : List Char) :
    Plain (base_url ++ rooted (endpoint.before ++ arg :: endpoint.after)) ↔
      Plain base_url ∧ Plain arg := by
  rw [plain_append, plain_rooted]
  constructor
  · rintro ⟨base, names⟩
    exact ⟨base, names arg (List.mem_append_right _ List.mem_cons_self)⟩
  · rintro ⟨base, plain⟩
    refine ⟨base, fun name mem => ?_⟩
    rcases List.mem_append.mp mem with here | later
    · exact (before name here).2.2.2.2
    · rcases List.mem_cons.mp later with rfl | there
      · exact plain
      · exact (after name there).2.2.2.2

include starts

/-- The URL walks to the endpoint's directory, then wherever the argument leads,
then down the rest of the path. -/
theorem resolved_written (client : NinjaOneClient) {arg : List Char}
    (plain : Plain (client.base_url.toList ++ rooted (endpoint.before ++ arg :: endpoint.after))) :
    (parse (client.base_url.toList ++ rooted (endpoint.before ++ arg :: endpoint.after))).resolved =
      resolveFrom (endpoint.directory client.base_url) (arg.splitOn '/') ++ endpoint.after := by
  have walk : (endpoint.before ++ arg :: endpoint.after).flatMap (List.splitOn '/') =
      endpoint.before ++ (arg.splitOn '/' ++ endpoint.after) := by
    rw [List.flatMap_append, List.flatMap_cons, flatMap_splitOn_ordinary before,
      flatMap_splitOn_ordinary after]
  have ordinary : Ordinary first := before first (starts ▸ List.mem_cons_self)
  have resolved := @resolved_rooted client.base_url.toList first
    (rest ++ arg :: endpoint.after) client.stripped ordinary
  rw [← List.cons_append, ← starts] at resolved
  rw [resolved plain, walk, resolveFrom_append, resolveFrom_append, resolveFrom_ordinary before,
    resolveFrom_ordinary after, Endpoint.directory]

/-- A client's URL for an endpoint reaches it exactly when base URL and argument
are plain and the argument names an entry of the endpoint's directory. -/
theorem reachedBy_iff (client : NinjaOneClient) {path arg : String}
    (written : path.toList = rooted (endpoint.before ++ arg.toList :: endpoint.after)) :
    endpoint.ReachedBy client.base_url (client.base_url ++ path) ↔
      Plain client.base_url.toList ∧ Plain arg.toList ∧
        NamesEntry (endpoint.directory client.base_url) arg := by
  rw [Endpoint.ReachedBy, String.toList_append, written, parse_plain_iff, and_assoc.symm,
    ← plain_written before after]
  refine and_congr_right fun plain => exists_congr fun x => and_congr_right fun _ => ?_
  have tail : (parse client.base_url.toList).resolved ++ endpoint.before ++ x :: endpoint.after =
      (endpoint.directory client.base_url ++ [x]) ++ endpoint.after := by
    simp [Endpoint.directory]
  rw [resolved_written starts before after client plain, tail, List.append_cancel_right_eq]

end Reached

/-! ### The tools -/

/-- Every request of a call has the call's URL, and there is at least one. -/
theorem forall_sent_iff (py : PyText) (client : NinjaOneClient) (method path : String)
    (params : Option (List (String × Json))) (json_body : Option Json) (upstream : Upstream)
    {answer : Json → Except Exn Answer} {P : String → Prop} :
    (∀ req ∈ sends ((client.request py method path params json_body upstream).answering
      answer).events, P req.url) ↔ P (client.base_url ++ path) := by
  change (∀ req ∈ sends (client.request py method path params json_body upstream).events,
    P req.url) ↔ _
  rw [request_sends]
  constructor
  · intro all
    exact all _ (List.mem_replicate.mpr ⟨Nat.succ_ne_zero _, rfl⟩)
  · intro here req mem
    rw [(List.mem_replicate.mp mem).2]
    exact here

theorem alertReset_before : ∀ name ∈ alertReset.before, Ordinary name := by decide

theorem alertReset_after : ∀ name ∈ alertReset.after, Ordinary name := by decide

/-- An integer is written with digits and perhaps a sign. -/
theorem toList_toString (n : Int) : (toString n).toList ≠ [] ∧
    ∀ c ∈ (toString n).toList, c.isDigit = true ∨ c = '-' := by
  have digits : ∀ (m : Nat), ∀ c ∈ m.repr.toList, c.isDigit = true := by
    intro m c mem
    rw [Nat.toList_repr] at mem
    exact Nat.isDigit_of_mem_toDigits (by decide) (by decide) mem
  cases n with
  | ofNat m =>
      refine ⟨fun nil => ?_, fun c mem => Or.inl (digits m c mem)⟩
      have pos := @Nat.length_toDigits_pos 10 m
      rw [← Nat.toList_repr] at pos
      exact absurd (congrArg List.length nil) (Nat.ne_of_gt pos)
  | negSucc m =>
      have signed : (toString (Int.negSucc m)).toList = '-' :: (m + 1).repr.toList :=
        String.toList_append
      rw [signed]
      refine ⟨List.cons_ne_nil _ _, fun c mem => ?_⟩
      rcases List.mem_cons.mp mem with sign | digit
      · exact Or.inr sign
      · exact Or.inl (digits _ c digit)

theorem ordinary_toString (n : Int) : Ordinary (toString n).toList := by
  obtain ⟨nonempty, chars⟩ := toList_toString n
  have absent : ∀ c, c.isDigit = false → c ≠ '-' → c ∉ (toString n).toList := by
    intro c no_digit no_sign mem
    rcases chars c mem with digit | sign
    · rw [no_digit] at digit
      cases digit
    · exact no_sign sign
  have dot := absent '.' (by decide) (by decide)
  refine ⟨nonempty, fun eq => ?_, fun eq => ?_, absent '/' (by decide) (by decide),
    absent '?' (by decide) (by decide), absent '#' (by decide) (by decide)⟩
  · exact dot (eq ▸ List.mem_cons_self)
  · exact dot (eq ▸ List.mem_cons_self)

theorem deviceReboot_before (device_id : Int) :
    ∀ name ∈ (deviceReboot device_id).before, Ordinary name := by
  have fixed : ∀ name ∈ ["api".toList, "v2".toList, "device".toList, "reboot".toList],
      Ordinary name := by decide
  intro name mem
  by_cases id : name = (toString device_id).toList
  · rw [id]
    exact ordinary_toString device_id
  · refine fixed name ?_
    simp only [deviceReboot, List.mem_cons, id, false_or] at mem
    simpa using mem

theorem alertReset_written (alert_uid : String) :
    ("/api/v2/alert/" ++ alert_uid ++ "/reset").toList =
      rooted (alertReset.before ++ alert_uid.toList :: alertReset.after) := by
  simp only [String.toList_append, alertReset, rooted]
  rfl

theorem deviceReboot_written (device_id : Int) (mode : String) :
    ("/api/v2/device/" ++ toString device_id ++ "/reboot/" ++ mode).toList =
      rooted ((deviceReboot device_id).before ++ mode.toList :: (deviceReboot device_id).after) := by
  simp [deviceReboot, rooted]

example : (parse "https://app.ninjarmm.com/api/v2/alert/../device/5/reboot/FORCED?/reset".toList).resolved =
    [[], "api".toList, "v2".toList, "device".toList, "5".toList, "reboot".toList,
      "FORCED".toList] := by decide

end NinjaOne
