import Mathlib.Tactic.Common
import WalletReplay.Checkpoint.Resolve

/-!
# The checkpoint below a height

The search by halving finds the first index at which a test fails, if the test does not hold again
after it has failed. Heights ascend, so the test whether a checkpoint is below a height is such a
test, and the checkpoint before the index that is found is the highest one below that height.

A checkpoint is never below its own height. A replay that is asked for at the height at which another
one starts therefore starts at the checkpoint before, unless there is nothing before the first block.

## What is proved

* `partitionPoint_spec` — the test holds before the index that is found and fails from it on.
* `beforeHeight_spec` — what is resolved from a height is the highest checkpoint below it, or genesis
  if none is below it.
* `resolve_empty` — without checkpoints, every target resolves to genesis.
* `height_resolve_height_lt`, `height_resolve_height_zero` — it is below the height that was asked
  for, unless that is zero.
-/

namespace WalletReplay

/-! ### Searching by halving -/

/-- The test holds before the index that is found, and fails from it on. -/
theorem partitionPoint_spec {p : Nat → Bool} (hp : ∀ i j, i ≤ j → p j = true → p i = true)
    {lo hi : Nat} (hle : lo ≤ hi) (hlo : ∀ i < lo, p i = true) (hhi : ∀ i, hi ≤ i → p i = false) :
    (∀ i < partitionPoint p lo hi, p i = true) ∧ ∀ i, partitionPoint p lo hi ≤ i → p i = false := by
  fun_induction partitionPoint p lo hi with
  | case1 lo hi hlt mid hmid ih =>
    refine ih (by omega) (fun i hi => ?_) hhi
    exact hp i mid (by omega) hmid
  | case2 lo hi hlt mid hmid ih =>
    refine ih (by omega) hlo fun i hi => ?_
    by_contra hi'
    exact hmid (hp mid i hi (by simpa using hi'))
  | case3 lo hi hlt =>
    obtain rfl : lo = hi := by omega
    exact ⟨hlo, hhi⟩

namespace Checkpoints

variable {cs : Checkpoints} {c : Checkpoint} {h : Height}

theorem isBelow_of_getElem? {i : Nat} (hc : cs.toList[i]? = some c) :
    cs.isBelow h i = true ↔ c.height < h := by
  simp [isBelow, hc]

/-- A checkpoint is below a height if one after it is. -/
theorem isBelow_of_le {i j : Nat} (hle : i ≤ j) (hj : cs.isBelow h j = true) :
    cs.isBelow h i = true := by
  cases hd : cs.toList[j]? with
  | none => simp [isBelow, hd] at hj
  | some d =>
    have hdh := (isBelow_of_getElem? hd).mp hj
    obtain ⟨hlt, rfl⟩ := List.getElem?_eq_some_iff.mp hd
    refine (isBelow_of_getElem? (List.getElem?_eq_getElem (Nat.lt_of_le_of_lt hle hlt))).mpr ?_
    rcases Nat.eq_or_lt_of_le hle with rfl | hij
    · exact hdh
    · exact Fin.lt_trans (List.pairwise_iff_getElem.mp cs.ascending i j _ hlt hij) hdh

/-- The indices before the one that the search finds are those of checkpoints below the height. -/
theorem isBelow_iff_lt {i : Nat} :
    cs.isBelow h i = true ↔ i < partitionPoint (cs.isBelow h) 0 cs.size := by
  have hend : ∀ j, cs.size ≤ j → cs.isBelow h j = false := by
    intro j hj
    simp [isBelow, List.getElem?_eq_none hj]
  obtain ⟨hbefore, hfrom⟩ := partitionPoint_spec (fun _ _ hle hj => isBelow_of_le hle hj)
    (Nat.zero_le _) (fun _ hj => absurd hj (Nat.not_lt_zero _)) hend
  refine ⟨fun hbelow => ?_, hbefore i⟩
  by_contra hge
  simp [hfrom i (Nat.not_lt.mp hge)] at hbelow

/-- **What is resolved from a height** is the highest checkpoint below it, or genesis if none is
below it. -/
theorem beforeHeight_spec (cs : Checkpoints) (h : Height) :
    (cs.beforeHeight h ∈ cs.toList ∧ (cs.beforeHeight h).height < h ∧
        ∀ c ∈ cs.toList, c.height < h → c.height ≤ (cs.beforeHeight h).height) ∨
      cs.beforeHeight h = .genesis ∧ ∀ c ∈ cs.toList, ¬ c.height < h := by
  have index {c : Checkpoint} (hc : c ∈ cs.toList) (hlt : c.height < h) :
      ∃ i, cs.toList[i]? = some c ∧ i < partitionPoint (cs.isBelow h) 0 cs.size := by
    obtain ⟨i, hi⟩ := List.mem_iff_getElem?.mp hc
    exact ⟨i, hi, isBelow_iff_lt.mp ((isBelow_of_getElem? hi).mpr hlt)⟩
  unfold beforeHeight
  cases hn : partitionPoint (cs.isBelow h) 0 cs.size with
  | zero =>
    refine Or.inr ⟨rfl, fun c hc hlt => ?_⟩
    obtain ⟨i, -, hi⟩ := index hc hlt
    omega
  | succ n =>
    have hbelow : cs.isBelow h n = true := isBelow_iff_lt.mpr (by omega)
    cases hlast : cs.toList[n]? with
    | none => simp [isBelow, hlast] at hbelow
    | some last =>
      simp only [hlast, Option.getD_some]
      refine Or.inl ⟨List.mem_of_getElem? hlast, (isBelow_of_getElem? hlast).mp hbelow, ?_⟩
      intro c hc hlt
      obtain ⟨i, hi, hin⟩ := index hc hlt
      obtain ⟨hlen, rfl⟩ := List.getElem?_eq_some_iff.mp hi
      obtain ⟨hlen', rfl⟩ := List.getElem?_eq_some_iff.mp hlast
      rcases Nat.eq_or_lt_of_le (Nat.le_of_lt_succ (hn ▸ hin)) with rfl | hin
      · exact Fin.le_refl _
      · exact Fin.le_of_lt (List.pairwise_iff_getElem.mp cs.ascending i n hlen hlen' hin)

/-! ### Resolving a target -/

/-- Without checkpoints, every target resolves to genesis. -/
theorem resolve_empty (target : Target) : empty.resolve target = .genesis := by
  cases target with
  | genesis | time t => rfl
  | height h =>
    rcases beforeHeight_spec empty h with ⟨hmem, -⟩ | ⟨hgenesis, -⟩
    · cases hmem
    · exact hgenesis

theorem height_resolve_height_zero (cs : Checkpoints) :
    (cs.resolve (.height .zero)).height = .zero := by
  rcases cs.beforeHeight_spec .zero with ⟨-, hlt, -⟩ | ⟨hgenesis, -⟩
  · exact absurd hlt (Nat.not_lt_zero _)
  · rw [resolve, hgenesis]
    rfl

/-- A replay from a height starts below it. -/
theorem height_resolve_height_lt (cs : Checkpoints) (hh : h ≠ .zero) :
    (cs.resolve (.height h)).height < h := by
  rcases cs.beforeHeight_spec h with ⟨-, hlt, -⟩ | ⟨hgenesis, -⟩
  · exact hlt
  · rw [resolve, hgenesis]
    exact Nat.pos_of_ne_zero fun hval => hh (Fin.ext hval)

end Checkpoints

end WalletReplay
