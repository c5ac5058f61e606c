import NinjaOne.Callbacks.Store
import NinjaOne.Tools.Common

/-!
`tools/callbacks.py`: what its tools ask of the store, and what they answer.

`ninjaone_callback_wait` makes the two operations of the store's `wait`:
`waitCall` is what it starts, `waitAnswer` what it makes of the results. Of the
other two tools, `createAnswer` and `expireAnswer` are what they answer.
-/

namespace NinjaOne

def MAX_WAIT_SECONDS : Int := 60

/-- `list(dict.fromkeys(items))`. -/
def fromKeys (items : List String) : List String :=
  (items.foldl (fun d item => d.set item ()) (Dict.empty : Dict String Unit)).entries.map Prod.fst

/-- `list(dict.fromkeys(pair_ids))[:50]`. -/
def waitIds (pair_ids : List String) : List String := (fromKeys pair_ids).take 50

/-- `max(0, min(MAX_WAIT_SECONDS, int(wait_seconds)))`. -/
def clampWait (wait_seconds : Int) : Int := max 0 (min MAX_WAIT_SECONDS wait_seconds)

/-- The start of `ninjaone_callback_wait`. -/
def waitCall (purged now : Time) (pair_ids : List String) (wait_seconds : Int) : Op :=
  .waitStart purged now (waitIds pair_ids) (clampWait wait_seconds)

/-- The items of the dictionary that `status` returns. -/
def StatusReply.fields : StatusReply → List (String × Json)
  | .unknown => [("status", .str "unknown")]
  | .received content_type body =>
      [("status", .str "received"), ("content_type", .ofStr? content_type), ("body", .ofStr? body)]
  | .malformed content_type body =>
      [("status", .str "malformed"), ("content_type", .ofStr? content_type), ("body", .ofStr? body)]
  | .expired => [("status", .str "expired")]
  | .pending expires_at => [("status", .str "pending"), ("expires_at", .int expires_at)]

/-- `{"pair_id": p, **r}`. -/
def resultEntry (p : String) (r : StatusReply) : Json := .obj (("pair_id", .str p) :: r.fields)

/-- The entries of `results`. -/
def resultEntries (results : List (String × StatusReply)) : List Json :=
  results.map fun result => resultEntry result.1 result.2

/-- The end of `ninjaone_callback_wait`. -/
def waitAnswer (results : List (String × StatusReply)) : Answer :=
  dumpJsonCapped (.obj [("results", .arr (resultEntries results))])

/-- `callback_url`. -/
def callbackUrl (base_url token : String) : String := rstripSlash base_url ++ "/cb/" ++ token

/-- What `ninjaone_callback_create_pair` tells of a pair; `isoformat` writes the time
of the deadline. -/
def createdFields (isoformat : Time → String) (public_base_url : String) (pair : Pair) :
    List (String × Json) :=
  [("pair_id", .str pair.pair_id),
    ("get_url", .str (callbackUrl public_base_url pair.get_token)),
    ("post_url", .str (callbackUrl public_base_url pair.post_token)),
    ("expires_at", .str (isoformat pair.expires_at))]

/-- The end of `ninjaone_callback_create_pair`. -/
def createAnswer (isoformat : Time → String) (public_base_url : String) (pair : Pair) : Answer :=
  dumpJsonCapped (.obj (createdFields isoformat public_base_url pair))

/-- The string `expire` has for an id. -/
def ExpireReply.status : ExpireReply → String
  | .unknown => "unknown"
  | .expired => "expired"

/-- `{"pair_id": p, "status": s}`. -/
def expireEntry (p : String) (r : ExpireReply) : Json :=
  .obj [("pair_id", .str p), ("status", .str r.status)]

/-- The entries of `results`. -/
def expireEntries (results : List (String × ExpireReply)) : List Json :=
  results.map fun result => expireEntry result.1 result.2

/-- The end of `ninjaone_callback_expire`. -/
def expireAnswer (results : List (String × ExpireReply)) : Answer :=
  dumpJsonCapped (.obj [("results", .arr (expireEntries results))])

/-! ### `dict.fromkeys` -/

theorem mem_fromKeys {items : List String} {p : String} : p ∈ fromKeys items ↔ p ∈ items := by
  rw [fromKeys, Dict.mem_keys_foldl_set]
  exact or_iff_right List.not_mem_nil

theorem nodup_fromKeys (items : List String) : (fromKeys items).Nodup :=
  Dict.nodup _

end NinjaOne
