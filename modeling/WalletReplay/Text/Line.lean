/-!
# Lines

A line ends at a line feed; one carriage return before the line feed belongs to the line's end, not
to the line. A text that ends in a line feed has an empty last line, which holds nothing.
-/

namespace WalletReplay.Text

/-- The pieces between line feeds, at least one. -/
def splitLines : List Char → List (List Char)
  | [] => [[]]
  | c :: cs =>
    if c = '\n' then [] :: splitLines cs
    else
      match splitLines cs with
      | [] => [[c]]
      | l :: ls => (c :: l) :: ls

/-- A line without the carriage return that ends it, if one does. -/
def dropReturn : List Char → List Char
  | [] => []
  | [c] => if c = '\r' then [] else [c]
  | c :: d :: cs => c :: dropReturn (d :: cs)

/-- The lines of a text, without their ends. -/
def lines (cs : List Char) : List (List Char) :=
  (splitLines cs).map dropReturn

/-- Lines written one after another, each ended by a line feed. -/
def unlines (ls : List (List Char)) : List Char :=
  ls.flatMap (· ++ ['\n'])

/-- A piece without line feed, then a line feed, is the first piece. -/
theorem splitLines_append_newline {l : List Char} (h : '\n' ∉ l) (cs : List Char) :
    splitLines (l ++ '\n' :: cs) = l :: splitLines cs := by
  induction l with
  | nil => simp [splitLines]
  | cons c l ih =>
    simp only [List.mem_cons, not_or] at h
    simp [splitLines, ih h.2, Ne.symm h.1]

end WalletReplay.Text
