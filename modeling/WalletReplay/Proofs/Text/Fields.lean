import Mathlib.Tactic.Common
import WalletReplay.Text.Blank

/-!
# Texts of fields

Which fields a text has is said here without cutting it up: a text is spaced out into words if it is
a run of blanks, or a run of blanks, a word and a text that is spaced out into the other words. A word
ends where the text ends or a blank follows, so that two words have at least one blank between them.

## What is proved

* `fields_append_blank` — a text can be cut at any blank.
* `fields_eq_iff` — the fields of a text are the words that it is spaced out into.
-/

namespace WalletReplay.Text

/-- A run of blanks, which may be empty. -/
def IsGap (cs : List Char) : Prop :=
  ∀ c ∈ cs, isBlank c = true

/-- A word: it is not empty and has no blank in it. -/
structure IsWord (cs : List Char) : Prop where
  ne_nil : cs ≠ []
  solid : ∀ c ∈ cs, isBlank c = false

/-- A text that ends a word before it: it is empty or begins with a blank. -/
def Breaks (cs : List Char) : Prop :=
  ∀ c ∈ cs.head?, isBlank c = true

/-- The text is spaced out into the words. -/
inductive Spaced : List (List Char) → List Char → Prop where
  /-- Blanks hold no word. -/
  | gap {gap : List Char} (hgap : IsGap gap) : Spaced [] gap
  /-- Blanks, the first word, and a text of the other words. -/
  | word {gap word rest : List Char} {words : List (List Char)} (hgap : IsGap gap) (hword : IsWord word)
      (hbreaks : Breaks rest) (hrest : Spaced words rest) :
      Spaced (word :: words) (gap ++ (word ++ rest))

variable {c : Char} {cs gap word rest : List Char} {words : List (List Char)}

/-! ### Cutting a text at a blank -/

theorem finish_append (word : List Char) (first next : List (List Char)) :
    finish word (first ++ next) = finish word first ++ next := by
  unfold finish
  split <;> rfl

theorem fieldsFrom_append_blank (hc : isBlank c = true) (word first next : List Char) :
    fieldsFrom word (first ++ c :: next) = fieldsFrom word first ++ fields next := by
  induction first generalizing word with
  | nil =>
    simp only [List.nil_append, fieldsFrom, hc, if_true]
    exact finish_append word [] (fields next)
  | cons d first ih =>
    simp only [List.cons_append, fieldsFrom, ih]
    split
    · exact finish_append word _ _
    · rfl

/-- **A text can be cut at any blank**: its fields are those before the blank and those after it. -/
theorem fields_append_blank (hc : isBlank c = true) (first next : List Char) :
    fields (first ++ c :: next) = fields first ++ fields next :=
  fieldsFrom_append_blank hc [] first next

theorem fields_nil : fields [] = [] := rfl

theorem fields_cons_blank (hc : isBlank c = true) (cs : List Char) : fields (c :: cs) = fields cs :=
  fields_append_blank hc [] cs

/-- Blanks in front of a text leave no trace. -/
theorem fields_gap_append (hgap : IsGap gap) (cs : List Char) : fields (gap ++ cs) = fields cs := by
  induction gap with
  | nil => rfl
  | cons c gap ih =>
    rw [List.cons_append, fields_cons_blank (hgap c (by simp))]
    exact ih fun d hd => hgap d (List.mem_cons_of_mem c hd)

theorem fields_gap (hgap : IsGap gap) : fields gap = [] := by
  rw [← List.append_nil gap, fields_gap_append hgap, fields_nil]

/-! ### Words -/

/-- A word that is read on from the word in hand is one field with it. -/
theorem fieldsFrom_solid (hcs : ∀ c ∈ cs, isBlank c = false) (word : List Char) :
    fieldsFrom word cs = finish (word ++ cs) [] := by
  induction cs generalizing word with
  | nil => rw [fieldsFrom, List.append_nil]
  | cons c cs ih =>
    have hc : ¬ isBlank c = true := by simp [hcs c (by simp)]
    rw [fieldsFrom, if_neg hc, ih fun d hd => hcs d (List.mem_cons_of_mem c hd), List.append_assoc]
    rfl

theorem fields_word (hword : IsWord word) : fields word = [word] := by
  have hsolid := fieldsFrom_solid hword.solid []
  have hne : word.isEmpty = false := by simpa using hword.ne_nil
  rwa [List.nil_append, finish, if_neg (by simp [hne])] at hsolid

/-- A word is the first field of a text that it begins, if the text goes on with a blank or not at
all. -/
theorem fields_word_append (hword : IsWord word) (hbreaks : Breaks rest) :
    fields (word ++ rest) = word :: fields rest := by
  cases rest with
  | nil => rw [List.append_nil, fields_word hword, fields_nil]
  | cons c rest =>
    have hc : isBlank c = true := hbreaks c rfl
    rw [fields_append_blank hc, fields_word hword, fields_cons_blank hc]
    rfl

/-! ### The fields of a text -/

theorem Spaced.fields_eq (h : Spaced words cs) : fields cs = words := by
  induction h with
  | gap hgap => exact fields_gap hgap
  | word hgap hword hbreaks _ ih => rw [fields_gap_append hgap, fields_word_append hword hbreaks, ih]

theorem Spaced.cons_blank (hc : isBlank c = true) (h : Spaced words cs) : Spaced words (c :: cs) := by
  have grow {gap : List Char} (hgap : IsGap gap) : IsGap (c :: gap) := by
    intro d hd
    rcases List.mem_cons.mp hd with rfl | hd
    · exact hc
    · exact hgap d hd
  cases h with
  | gap hgap => exact .gap (grow hgap)
  | word hgap hword hbreaks hrest => exact .word (grow hgap) hword hbreaks hrest

theorem Spaced.of_word (hword : IsWord word) (hbreaks : Breaks rest) (hrest : Spaced words rest) :
    Spaced (word :: words) (word ++ rest) :=
  @Spaced.word [] word rest words (by simp [IsGap]) hword hbreaks hrest

theorem spaced_nil : Spaced [] [] :=
  .gap (by simp [IsGap])

theorem IsWord.spaced (hword : IsWord word) : Spaced [word] word := by
  have hspaced : Spaced [word] (word ++ []) := .of_word hword (by simp [Breaks]) spaced_nil
  rwa [List.append_nil] at hspaced

/-- A word, one blank, and a text of the other words. -/
theorem IsWord.spaced_append (hword : IsWord word) (hc : isBlank c = true) (h : Spaced words cs) :
    Spaced (word :: words) (word ++ c :: cs) :=
  .of_word hword (by simpa [Breaks] using hc) (h.cons_blank hc)

/-- A text that goes on from a word in hand is spaced out, with that word, into its fields. -/
theorem spaced_fieldsFrom (hsolid : ∀ c ∈ word, isBlank c = false) (cs : List Char) :
    Spaced (fieldsFrom word cs) (word ++ cs) := by
  induction cs generalizing word with
  | nil =>
    rw [List.append_nil]
    cases word with
    | nil => exact spaced_nil
    | cons d word => exact IsWord.spaced ⟨by simp, hsolid⟩
  | cons c cs ih =>
    rw [fieldsFrom]
    split
    · rename_i hc
      have hcs : Spaced (fieldsFrom [] cs) cs := @ih [] (by simp)
      cases word with
      | nil => exact hcs.cons_blank hc
      | cons d word => exact IsWord.spaced_append ⟨by simp, hsolid⟩ hc hcs
    · rename_i hc
      rw [List.append_cons word c cs]
      refine ih fun d hd => ?_
      rcases List.mem_append.mp hd with hd | hd
      · exact hsolid d hd
      · rw [List.mem_singleton.mp hd]
        simpa using hc

/-- **The fields of a text are the words that it is spaced out into.** -/
theorem fields_eq_iff : fields cs = words ↔ Spaced words cs := by
  refine ⟨?_, Spaced.fields_eq⟩
  rintro rfl
  exact @spaced_fieldsFrom [] (by simp) cs

end WalletReplay.Text
