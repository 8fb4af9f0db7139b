/-!
# Blank characters and fields

A line is read as fields separated by blanks. Which characters are blank is the Unicode property
`White_Space`, given here as a table of ranges of code points. `fields` cuts a text into its maximal
runs of other characters, so leading, trailing and repeated blanks leave no trace.
-/

namespace WalletReplay.Text

/-- The ranges of code points with the property `White_Space`, both ends included. -/
def blankRanges : List (Nat × Nat) :=
  [(0x09, 0x0D), (0x20, 0x20), (0x85, 0x85), (0xA0, 0xA0), (0x1680, 0x1680), (0x2000, 0x200A),
    (0x2028, 0x2029), (0x202F, 0x202F), (0x205F, 0x205F), (0x3000, 0x3000)]

/-- A character is blank when its code point lies in one of the ranges. -/
def isBlank (c : Char) : Bool :=
  blankRanges.any fun r => r.1 ≤ c.toNat && c.toNat ≤ r.2

/-- What a word in hand contributes once it ends: itself, unless it is empty. -/
def finish (word : List Char) (rest : List (List Char)) : List (List Char) :=
  if word.isEmpty then rest else word :: rest

/-- The fields of a text that continues the word in hand. -/
def fieldsFrom (word : List Char) : List Char → List (List Char)
  | [] => finish word []
  | c :: cs => if isBlank c then finish word (fieldsFrom [] cs) else fieldsFrom (word ++ [c]) cs

/-- The fields of a text: its maximal runs of characters that are not blank, in order. -/
def fields (cs : List Char) : List (List Char) :=
  fieldsFrom [] cs

end WalletReplay.Text
