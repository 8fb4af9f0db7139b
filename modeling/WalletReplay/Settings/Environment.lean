import WalletReplay.Number.Reader
import WalletReplay.Settings.KeyPath

/-!
# Settings in environment variables

A variable sets something if its name begins with `REWIND_`, in upper or lower case. The rest of the
name, in lower case and with a point for each double underscore, is the key that it sets. Its value
is taken for what it looks like: a truth value, an integer of 64 bits, a number with a fraction, or
else a text.
-/

namespace WalletReplay.Environment

/-- An ASCII letter in lower case. The Kelvin sign is the one other character whose lower case is an
ASCII letter. -/
def lowerChar (c : Char) : Char :=
  if c.toNat = 0x212A then 'k' else c.toLower

/-- What the names of variables that set something begin with, in lower case. -/
def marker : List Char :=
  "rewind_".toList

/-- Points for double underscores, from the left. -/
def pointed : List Char → List Char
  | '_' :: '_' :: cs => '.' :: pointed cs
  | c :: cs => c :: pointed cs
  | [] => []

/-- The key that a variable sets. -/
def key? (name : String) : Option String :=
  let lower := name.toList.map lowerChar
  if marker.isPrefixOf lower then some (String.ofList (pointed (lower.drop marker.length)))
  else none

/-- What the value of a variable is taken for. -/
def value (s : String) : Value :=
  let lower := s.toList.map lowerChar
  if lower = "true".toList then .bool true
  else if lower = "false".toList then .bool false
  else
    match Text.Decimal.int64? s.toList with
    | some n => .int n
    | none =>
      match Binary64.read? s.toList with
      | some x => .float x
      | none => .text s

/-- The settings that variables make, in order. -/
def settings (bindings : List (String × String)) : List (String × Value) :=
  bindings.filterMap fun v => (key? v.1).map fun key => (key, value v.2)

end WalletReplay.Environment
