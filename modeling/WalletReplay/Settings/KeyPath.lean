import WalletReplay.Settings.Value
import WalletReplay.Text.Decimal

/-!
# Keys that are paths

A key such as `replay.max_retries` or `list[0].name` is a path: a name, followed by names behind
points and positions in brackets. Names are made of ASCII letters, digits, underscores and hyphens;
spaces may stand only around a position.
A key that is no path stands for the one entry of exactly that name.
-/

namespace WalletReplay.KeyPath

/-- Whether a character can stand in a name. -/
def isNameChar (c : Char) : Bool :=
  c.isAlphanum || c = '_' || c = '-'

/-- The name that a text begins with, and the rest. -/
def name? (cs : List Char) : Option (String × List Char) :=
  match cs.takeWhile isNameChar with
  | [] => none
  | name => some (String.ofList name, cs.dropWhile isNameChar)

/-- Space and tab. -/
def isSpace (c : Char) : Bool :=
  c = ' ' || c = '\t'

/-- Without the spaces at the front and at the end. -/
def trimSpaces (cs : List Char) : List Char :=
  ((cs.dropWhile isSpace).reverse.dropWhile isSpace).reverse

/-- The position that stands between brackets: digits, which may have a minus sign before them, with
spaces around. -/
def position? (cs : List Char) : Option Int :=
  match trimSpaces cs with
  | '+' :: _ => none
  | digits => Text.Decimal.int64? digits

/-- The steps that follow the first name, at most so many. -/
def moreSteps : Nat → List Char → Option (List PathStep)
  | _, [] => some []
  | 0, _ => none
  | fuel + 1, '.' :: cs => do
    let (name, rest) ← name? cs
    let steps ← moreSteps fuel rest
    return .key name :: steps
  | fuel + 1, '[' :: cs => do
    let position ← position? (cs.takeWhile (· ≠ ']'))
    match cs.dropWhile (· ≠ ']') with
    | [] => none
    | _ :: rest => do
      let steps ← moreSteps fuel rest
      return .index position :: steps
  | _, _ => none

/-- The steps of a key that is a path. -/
def steps? (key : List Char) : Option (List PathStep) := do
  let (name, rest) ← name? key
  let steps ← moreSteps rest.length rest
  return .key name :: steps

/-- The path that a key stands for. -/
def ofKey (key : String) : List PathStep :=
  (steps? key.toList).getD [.key key]

end WalletReplay.KeyPath
