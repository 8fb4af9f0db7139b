import WalletReplay.Number.Binary64

/-!
# Trees of values

Settings are gathered in a tree of values before they are given a meaning: scalars, arrays, and
tables of named entries. A value is put into a tree at a path of keys and array positions. What
stands on the way and is no table, or no array, is replaced by an empty one, and entries that are
not there are made.

Putting a table merges it: each of its entries is put where the table goes, and what else is there
stays. Anything else replaces what was there.
-/

namespace WalletReplay

/-- A tree of values. -/
inductive Value where
  /-- No value. -/
  | nil
  /-- A truth value. -/
  | bool (b : Bool)
  /-- An integer. -/
  | int (n : Int)
  /-- A number with a fraction. -/
  | float (x : Binary64)
  /-- A text. -/
  | text (s : String)
  /-- Values in a row. -/
  | array (items : List Value)
  /-- Values under names, each name once. -/
  | table (entries : List (String × Value))

/-- One step of a path into a tree. -/
inductive PathStep where
  /-- To the entry of that name. -/
  | key (name : String)
  /-- To the item at that position, a negative one counted from the end. -/
  | index (position : Int)
  deriving DecidableEq, Repr

namespace Value

/-- The entries of a table; anything else has none. -/
def entries : Value → List (String × Value)
  | table es => es
  | _ => []

/-- The items of an array; anything else has none. -/
def items : Value → List Value
  | array vs => vs
  | _ => []

/-- The value under a name. -/
def get? (v : Value) (name : String) : Option Value :=
  v.entries.lookup name

/-- Changes the value under a name, which is `nil` at first if there is none. -/
def modifyEntry (f : Value → Value) (name : String) :
    List (String × Value) → List (String × Value)
  | [] => [(name, f nil)]
  | (k, v) :: es => if k = name then (k, f v) :: es else (k, v) :: modifyEntry f name es

/-- An array made long enough for a position, and where the position is in it. -/
def reach (vs : List Value) : Int → List Value × Nat
  | .ofNat i => (vs ++ List.replicate (i + 1 - vs.length) nil, i)
  | .negSucc n =>
    if n < vs.length then (vs, vs.length - (n + 1))
    else (List.replicate (n + 1 - vs.length) nil ++ vs, 0)

/-- Changes the value at a path. -/
def modifyAt (f : Value → Value) : List PathStep → Value → Value
  | [], v => f v
  | .key name :: path, v => table (modifyEntry (modifyAt f path) name v.entries)
  | .index position :: path, v =>
    let (vs, i) := reach v.items position
    array (vs.modify i (modifyAt f path))

mutual

/-- What stands where a value is put on top of another. -/
def merge : Value → Value → Value
  | table es, old =>
    match old with
    | nil => mergeEntries es (table [])
    | old => mergeEntries es old
  | new, _ => new

/-- Puts entries one after another. -/
def mergeEntries : List (String × Value) → Value → Value
  | [], old => old
  | (name, v) :: es, old => mergeEntries es (table (modifyEntry (merge v) name old.entries))

end

/-- Puts a value at a path. -/
def put (v : Value) (path : List PathStep) (root : Value) : Value :=
  modifyAt (merge v) path root

end Value

end WalletReplay
