import Mathlib.Data.List.Forall2
import Mathlib.Tactic.Common
import WalletReplay.Text.Line

/-!
# Texts of lines

Which lines a text has is said here from its front: the text up to the first line feed, less one
carriage return, is the first line, and the text behind it has the other lines. What follows the last
line feed is a line too, and keeps its carriage return.

The lines that `lines` gives differ from these only in that they drop a carriage return from the last
line as well.

## What is proved

* `exists_cut` — every text has lines.
* `Cut.lines` — they are those that `lines` gives, but for a carriage return.
* `cut_unlines` — lines that are written one after another are the lines of what is written.
-/

namespace WalletReplay.Text

/-- The text is cut into the lines. -/
inductive Cut : List Char → List (List Char) → Prop where
  /-- A text without a line feed is one line. -/
  | last {line : List Char} (hline : '\n' ∉ line) : Cut line [line]
  /-- A line that ends with a line feed. -/
  | feed {line text : List Char} {lines : List (List Char)} (hline : '\n' ∉ line)
      (hreturn : line.getLast? ≠ some '\r') (h : Cut text lines) :
      Cut (line ++ '\n' :: text) (line :: lines)
  /-- A line that ends with a carriage return and a line feed. -/
  | returnFeed {line text : List Char} {lines : List (List Char)} (hline : '\n' ∉ line)
      (h : Cut text lines) : Cut (line ++ '\r' :: '\n' :: text) (line :: lines)

variable {line text : List Char} {ls : List (List Char)}

/-! ### The end of a line -/

theorem dropReturn_append_return (line : List Char) : dropReturn (line ++ ['\r']) = line := by
  induction line with
  | nil => rfl
  | cons c line ih =>
    cases line with
    | nil => rfl
    | cons d line =>
      rw [List.cons_append, List.cons_append, dropReturn]
      exact congrArg (c :: ·) ih

theorem dropReturn_of_getLast?_ne (h : line.getLast? ≠ some '\r') : dropReturn line = line := by
  induction line with
  | nil => rfl
  | cons c line ih =>
    cases line with
    | nil =>
      have hc : c ≠ '\r' := by simpa using h
      rw [dropReturn, if_neg hc]
    | cons d line =>
      rw [List.getLast?_cons_cons] at h
      rw [dropReturn, ih h]

/-- A line is as it was without its carriage return, or ended with one. -/
theorem dropReturn_cases (line : List Char) :
    dropReturn line = line ∨ line = dropReturn line ++ ['\r'] := by
  by_cases h : line.getLast? = some '\r'
  · obtain ⟨front, rfl⟩ := List.getLast?_eq_some_iff.mp h
    exact Or.inr (by rw [dropReturn_append_return])
  · exact Or.inl (dropReturn_of_getLast?_ne h)

/-! ### The lines of a text -/

theorem lines_append_newline (hline : '\n' ∉ line) (text : List Char) :
    lines (line ++ '\n' :: text) = dropReturn line :: lines text := by
  rw [lines, splitLines_append_newline hline]
  rfl

theorem lines_of_notMem (hline : '\n' ∉ line) : lines line = [dropReturn line] := by
  have hsplit : splitLines line = [line] := by
    induction line with
    | nil => rfl
    | cons c line ih =>
      rw [List.mem_cons, not_or] at hline
      rw [splitLines, if_neg (Ne.symm hline.1), ih hline.2]
  rw [lines, hsplit]
  rfl

/-- A text that goes on from a character has the same lines, but for the first. -/
theorem Cut.exists_cons (h : Cut text ls) {c : Char} (hc : c ≠ '\n') :
    ∃ ls, Cut (c :: text) ls := by
  have hnot {line : List Char} (hline : '\n' ∉ line) : '\n' ∉ c :: line := by
    simp [hline, Ne.symm hc]
  cases h with
  | last hline => exact ⟨_, .last (hnot hline)⟩
  | @feed line text lines hline hreturn h =>
    -- A carriage return before an empty first line becomes part of the end of that line.
    by_cases hbare : line = [] ∧ c = '\r'
    · obtain ⟨rfl, rfl⟩ := hbare
      exact ⟨_, @Cut.returnFeed [] _ _ hline h⟩
    · refine ⟨_, .feed (hnot hline) ?_ h⟩
      cases line with
      | nil => simpa using hbare
      | cons d line => rwa [List.getLast?_cons_cons]
  | returnFeed hline h => exact ⟨_, .returnFeed (hnot hline) h⟩

/-- **Every text has lines.** -/
theorem exists_cut (text : List Char) : ∃ ls, Cut text ls := by
  induction text with
  | nil => exact ⟨_, .last (by simp)⟩
  | cons c text ih =>
    obtain ⟨ls, hls⟩ := ih
    by_cases hc : c = '\n'
    · subst hc
      exact ⟨_, @Cut.feed [] _ _ (by simp) (by simp) hls⟩
    · exact hls.exists_cons hc

/-- **The lines of a text are those that `lines` gives**, but for a carriage return. -/
theorem Cut.lines (h : Cut text ls) :
    List.Forall₂ (fun line line' => line' = line ∨ line = line' ++ ['\r']) ls (lines text) := by
  induction h with
  | @last line hline =>
    rw [lines_of_notMem hline]
    exact .cons (dropReturn_cases line) .nil
  | feed hline hreturn _ ih =>
    rw [lines_append_newline hline, dropReturn_of_getLast?_ne hreturn]
    exact .cons (Or.inl rfl) ih
  | @returnFeed line text _ hline _ ih =>
    have hline' : '\n' ∉ line ++ ['\r'] := by simp [hline]
    rw [List.append_cons, lines_append_newline hline', dropReturn_append_return]
    exact .cons (Or.inl rfl) ih

/-- **Written lines are the lines of what is written**, and an empty line follows the last. -/
theorem cut_unlines (h : ∀ line ∈ ls, '\n' ∉ line ∧ line.getLast? ≠ some '\r') :
    Cut (unlines ls) (ls ++ [[]]) := by
  induction ls with
  | nil => exact .last (by simp [unlines])
  | cons line ls ih =>
    obtain ⟨hline, hreturn⟩ := h line (by simp)
    have htail := ih fun l hl => h l (List.mem_cons_of_mem line hl)
    have hunlines : unlines (line :: ls) = line ++ '\n' :: unlines ls := by simp [unlines]
    rw [hunlines]
    exact .feed hline hreturn htail

end WalletReplay.Text
