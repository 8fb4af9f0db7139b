import WalletReplay.Proofs.Text.Lines

/-!
# The first lines of a text

A text that ends with a line feed has no further line behind it, and otherwise its last line ends
where the text ends. So a text can be cut behind each of its lines, with or without what ends that
line: what is left has the lines up to there, and no others.

## What is proved

* `exists_hasLines` — every text has lines.
* `hasLines_firstLines` — a text that is cut behind the end of one of its lines has the lines up to
  that one.
-/

namespace WalletReplay.Text

/-- The text has the lines: they are those that it is cut into, less the empty one behind a line feed
that ends the text. -/
def HasLines (text : List Char) (ls : List (List Char)) : Prop :=
  Cut text (ls ++ [[]]) ∨ Cut text ls ∧ ls.getLast? ≠ some []

/-- A text up to the end of its line of the given number. -/
def firstLines : Nat → List Char → List Char
  | 0, _ => []
  | _ + 1, [] => []
  | n + 1, c :: text => c :: if c = '\n' then firstLines n text else firstLines (n + 1) text

variable {line text : List Char} {ls : List (List Char)} {n : Nat}

/-- **Every text has lines.** -/
theorem exists_hasLines (text : List Char) : ∃ ls, HasLines text ls := by
  obtain ⟨ls, hcut⟩ := exists_cut text
  by_cases hlast : ls.getLast? = some []
  · obtain ⟨front, rfl⟩ := List.getLast?_eq_some_iff.mp hlast
    exact ⟨front, Or.inl hcut⟩
  · exact ⟨ls, Or.inr ⟨hcut, hlast⟩⟩

/-! ### Cutting behind a line -/

theorem firstLines_zero (text : List Char) : firstLines 0 text = [] := by
  cases text <;> rfl

/-- A text that is cut before its first line is empty. -/
theorem cut_firstLines_zero (text : List Char) : Cut (firstLines 0 text) [[]] := by
  rw [firstLines_zero]
  exact .last (by simp)

theorem firstLines_append_newline (hline : '\n' ∉ line) (n : Nat) (text : List Char) :
    firstLines (n + 1) (line ++ '\n' :: text) = line ++ '\n' :: firstLines n text := by
  induction line with
  | nil => rfl
  | cons c line ih =>
    rw [List.mem_cons, not_or] at hline
    rw [List.cons_append, firstLines, if_neg (Ne.symm hline.1), ih hline.2, List.cons_append]

theorem firstLines_of_notMem (hline : '\n' ∉ line) (n : Nat) : firstLines (n + 1) line = line := by
  induction line with
  | nil => rfl
  | cons c line ih =>
    rw [List.mem_cons, not_or] at hline
    rw [firstLines, if_neg (Ne.symm hline.1), ih hline.2]

/-- A text that is cut behind one of its lines but the last ends with the end of that line. -/
theorem cut_firstLines (h : Cut text ls) (hn : n < ls.length) :
    Cut (firstLines n text) (ls.take n ++ [[]]) := by
  induction h generalizing n with
  | last =>
    obtain rfl : n = 0 := by simpa using hn
    exact cut_firstLines_zero _
  | feed hline hreturn _ ih =>
    cases n with
    | zero => exact cut_firstLines_zero _
    | succ n =>
      rw [firstLines_append_newline hline]
      exact .feed hline hreturn (ih (Nat.lt_of_succ_lt_succ hn))
  | @returnFeed line text lines hline _ ih =>
    cases n with
    | zero => exact cut_firstLines_zero _
    | succ n =>
      have hreturn : '\n' ∉ line ++ ['\r'] := by simp [hline]
      rw [List.append_cons, firstLines_append_newline hreturn, List.append_assoc]
      exact .returnFeed hline (ih (Nat.lt_of_succ_lt_succ hn))

theorem firstLines_eq_self (h : Cut text ls) (hn : ls.length ≤ n) : firstLines n text = text := by
  induction h generalizing n with
  | last hline =>
    obtain ⟨n, rfl⟩ := Nat.exists_eq_add_of_le' hn
    exact firstLines_of_notMem hline n
  | feed hline _ _ ih =>
    cases n with
    | zero => exact absurd hn (Nat.not_succ_le_zero _)
    | succ n => rw [firstLines_append_newline hline, ih (Nat.le_of_succ_le_succ hn)]
  | @returnFeed line text lines hline _ ih =>
    cases n with
    | zero => exact absurd hn (Nat.not_succ_le_zero _)
    | succ n =>
      have hreturn : '\n' ∉ line ++ ['\r'] := by simp [hline]
      rw [List.append_cons, firstLines_append_newline hreturn, ih (Nat.le_of_succ_le_succ hn)]

/-- **A text that is cut behind one of its lines has the lines up to that one.** -/
theorem hasLines_firstLines (h : HasLines text ls) (n : Nat) :
    HasLines (firstLines n text) (ls.take n) := by
  rcases h with hcut | ⟨hcut, hlast⟩
  · refine Or.inl ?_
    rcases Nat.lt_or_ge n (ls ++ [[]]).length with hn | hn
    · have hle : n ≤ ls.length := by simpa [Nat.lt_succ_iff] using hn
      rw [← List.take_append_of_le_length hle]
      exact cut_firstLines hcut hn
    · rw [firstLines_eq_self hcut hn, List.take_of_length_le]
      · exact hcut
      · rw [List.length_append] at hn
        omega
  · rcases Nat.lt_or_ge n ls.length with hn | hn
    · exact Or.inl (cut_firstLines hcut hn)
    · rw [firstLines_eq_self hcut hn, List.take_of_length_le hn]
      exact Or.inr ⟨hcut, hlast⟩

end WalletReplay.Text
