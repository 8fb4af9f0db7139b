import WalletReplay.Number.Shortest
import WalletReplay.Settings.Basic
import WalletReplay.Settings.Environment

/-!
# From values to settings

A tree of values becomes settings when all its sections and fields are known and each field has a
value of its kind. A scalar of another kind is converted where that is possible: a text field takes
any scalar as it is written, and a count takes truth values, numbers with a fraction and texts.

A section is a table of its fields, or an array of them in their order, of which what is more than
the fields is ignored.
-/

namespace WalletReplay

namespace Value

/-- A value as a text. -/
def asText : Value → Option String
  | text s => some s
  | bool b => some (if b then "true" else "false")
  | int n => some (String.ofList (Text.Decimal.ofInt n))
  | float x => some (String.ofList x.text)
  | nil | array _ | table _ => none

/-- The greatest count. -/
def maxCount : Nat := 18446744073709551615

/-- A text as a count: a word for yes or no, or a number. -/
def countOfText (s : String) : Option Nat :=
  let lower := s.toList.map Environment.lowerChar
  if lower ∈ ["true".toList, "on".toList, "yes".toList] then some 1
  else if lower ∈ ["false".toList, "off".toList, "no".toList] then some 0
  else (Text.Decimal.unsigned? s.toList).filter (· ≤ maxCount)

/-- A value as a count. -/
def asCount : Value → Option Nat
  | int (.ofNat n) => some n
  | int (.negSucc _) => none
  | bool b => some (if b then 1 else 0)
  | float x => some (min (x.round?.getD maxCount) maxCount)
  | text s => countOfText s
  | nil | array _ | table _ => none

/-- A field that need not be set: `nil` says that it is not. -/
def optional (decode : Value → Option α) : Value → Option (Option α)
  | nil => some none
  | v => (decode v).map some

/-- The values of the fields of a section, `nil` for those that are not there. -/
def fieldsOf (names : List String) : Value → Option (List Value)
  | table es =>
    if es.all fun e => names.contains e.1 then
      some (names.map fun name => (es.lookup name).getD nil)
    else none
  | array vs => if names.length ≤ vs.length then some (vs.take names.length) else none
  | _ => none

end Value

namespace Settings

/-- A count of 32 bits. -/
def smallCount (v : Value) : Option Nat :=
  v.asCount.filter (· < 4294967296)

/-- The settings with those of the section on checkpoints. -/
def withCheckpoints (s : Settings) (v : Value) : Option Settings := do
  match ← v.fieldsOf ["path"] with
  | [path] => return { s with checkpointsPath := ← path.optional Value.asText }
  | _ => none

/-- The settings with those of the section on consensus. -/
def withConsensus (s : Settings) (v : Value) : Option Settings := do
  match ← v.fieldsOf ["network"] with
  | [network] => return { s with network := ← NetworkKind.ofName? (← network.asText) }
  | _ => none

/-- The settings with those of the section on replays. -/
def withReplay (s : Settings) (v : Value) : Option Settings := do
  match ← v.fieldsOf ["tick_interval_ms", "max_retries", "retry_backoff_ms"] with
  | [tick, retries, backoff] =>
    return { s with
      tickInterval := ← tick.optional Value.asCount
      maxRetries := ← retries.optional smallCount
      retryBackoff := ← backoff.optional Value.asCount }
  | _ => none

/-- The settings with those of a section, if it is there. -/
def withSection (s : Settings) (root : Value) (name : String)
    (decode : Settings → Value → Option Settings) : Option Settings :=
  match root.get? name with
  | some v => decode s v
  | none => some s

/-- The settings that a tree of values gives. -/
def ofValue? (root : Value) : Option Settings := do
  if root.entries.all fun e => ["checkpoints", "consensus", "replay"].contains e.1 then
    let s ← withSection {} root "checkpoints" withCheckpoints
    let s ← withSection s root "consensus" withConsensus
    withSection s root "replay" withReplay
  else none

/-- Puts settings under keys into a tree, in the order in which they are listed. Where the paths of
two keys overlap, the later one goes over the earlier. -/
def layer (root : Value) (settings : List (String × Value)) : Value :=
  settings.foldl (fun root e => Value.put e.2 (KeyPath.ofKey e.1) root) root

/-- The settings of one source, each key once: of several with one key, the last. -/
def gather : List (String × Value) → List (String × Value)
  | [] => []
  | e :: settings =>
    if settings.any (·.1 = e.1) then gather settings else e :: gather settings

/-- The settings that the keys of a document and of environment variables give when they are put into
a tree in these orders, the variables on top of the document. -/
def ofLayers? (document overrides : List (String × Value)) : Option Settings :=
  ofValue? (layer (layer (.table []) document) overrides)

end Settings

end WalletReplay
