import Mathlib.Data.List.Nodup
import WalletReplay.Checkpoint.File
import WalletReplay.Proofs.Checkpoint.Descent
import WalletReplay.Proofs.Checkpoint.Resolution

/-!
# The best checkpoint

The best checkpoint for a target is the highest one strictly before it, or genesis where none is. Which
one that is does not depend on how it is looked for. Of the checkpoints below a height it is found by
halving, of those before a time by looking at them all; looking at one checkpoint after another, with
any test, finds it as well.

Since heights ascend no two checkpoints have the same height, so that there is one best checkpoint and
no other. It can only become higher if more checkpoints are before the target, be it because the target
is later or because there are more checkpoints.

## What is proved

* `obtained_iff` — what collections hold are the lists of ascending heights.
* `isBest_scan`, `isBest_resolve` — what is found by looking at one checkpoint after another, and what
  a target resolves to, is the best checkpoint.
* `IsBest.height_le` — with more checkpoints before the target, the best one is no lower.
* `resolve_eq_iff_isBest` — a target resolves to the best checkpoint, as by a scan, and to no other.
* `resolve_mono` — resolving is monotone in the target and in the collection, and for a checkpoint's
  own time and height it is the same, if times ascend with heights.
-/

namespace WalletReplay

/-! ### The best checkpoint -/

/-- The checkpoint is strictly before the target. None is before the start of the chain. -/
def Checkpoint.IsBefore (c : Checkpoint) : Target → Prop
  | .genesis => False
  | .time t => c.time < t
  | .height h => c.height < h

instance (c : Checkpoint) (target : Target) : Decidable (c.IsBefore target) :=
  match target with
  | .genesis => inferInstanceAs (Decidable False)
  | .time t => inferInstanceAs (Decidable (c.time < t))
  | .height h => inferInstanceAs (Decidable (c.height < h))

/-- The checkpoint is one from which a replay to the target best starts. -/
inductive IsBest (cs : List Checkpoint) (target : Target) : Checkpoint → Prop where
  /-- It is the highest of those before the target. -/
  | highest {best : Checkpoint} (hmem : best ∈ cs) (hbefore : best.IsBefore target)
      (hle : ∀ c ∈ cs, c.IsBefore target → c.height ≤ best.height) : IsBest cs target best
  /-- None is before the target. -/
  | genesis (hnone : ∀ c ∈ cs, ¬ c.IsBefore target) : IsBest cs target .genesis

/-- The better of two checkpoints: the second, if it is before the target and no lower. -/
def better (target : Target) (best c : Checkpoint) : Checkpoint :=
  if c.IsBefore target ∧ best.height ≤ c.height then c else best

/-- What is found by looking at one checkpoint after another and keeping the best so far. -/
def scan (target : Target) (cs : List Checkpoint) : Checkpoint :=
  cs.foldl (better target) .genesis

/-- There is a collection to be had that holds the checkpoints. -/
inductive Obtained : List Checkpoint → Prop where
  /-- The one without checkpoints. -/
  | empty : Obtained Checkpoints.empty.toList
  /-- One from a list. -/
  | ofList {l : List Checkpoint} {cs : Checkpoints} (h : Checkpoints.ofList l = .ok cs) :
      Obtained cs.toList
  /-- One from a text. -/
  | read {text : List Char} {cs : Checkpoints} (h : Checkpoints.read text = .ok cs) :
      Obtained cs.toList
  /-- One from a file. -/
  | load {file : FileState} {cs : Checkpoints} (h : Checkpoints.load file = .ok cs) :
      Obtained cs.toList

variable {cs ds : List Checkpoint} {c d : Checkpoint} {target target' : Target} {h : Height}

theorem genesis_height_le (c : Checkpoint) : Checkpoint.genesis.height ≤ c.height :=
  Nat.zero_le c.height.val

/-- Checkpoints of ascending heights are told apart by their heights. -/
theorem Ascending.eq_of_height_eq (hcs : Ascending cs) (hc : c ∈ cs) (hd : d ∈ cs)
    (heq : c.height = d.height) : c = d := by
  have hnodup : (cs.map (·.height)).Nodup := List.pairwise_map.mpr (hcs.imp Fin.ne_of_lt)
  exact List.inj_on_of_nodup_map hnodup hc hd heq

namespace IsBest

/-- **With more checkpoints before the target, the best one is no lower.** -/
theorem height_le (hc : IsBest cs target c) (hd : IsBest ds target' d)
    (hmore : ∀ a ∈ cs, a.IsBefore target → a ∈ ds ∧ a.IsBefore target') : c.height ≤ d.height := by
  cases hc with
  | genesis => exact genesis_height_le d
  | highest hmem hbefore =>
    obtain ⟨hmem', hbefore'⟩ := hmore c hmem hbefore
    cases hd with
    | genesis hnone => exact absurd hbefore' (hnone c hmem')
    | highest _ _ hle => exact hle c hmem' hbefore'

/-- There is one best checkpoint at most. -/
theorem unique (hcs : Ascending cs) (hc : IsBest cs target c) (hd : IsBest cs target d) : c = d := by
  cases hc with
  | genesis hnone =>
    cases hd with
    | genesis => rfl
    | highest hmem hbefore => exact absurd hbefore (hnone d hmem)
  | highest hmem hbefore hle =>
    cases hd with
    | genesis hnone => exact absurd hbefore (hnone c hmem)
    | highest hmem' hbefore' hle' =>
      exact hcs.eq_of_height_eq hmem hmem'
        (Fin.le_antisymm (hle' c hmem hbefore) (hle d hmem' hbefore'))

theorem congr (hiff : ∀ a ∈ cs, a.IsBefore target ↔ a.IsBefore target') (hc : IsBest cs target c) :
    IsBest cs target' c := by
  cases hc with
  | genesis hnone => exact .genesis fun a ha => (hiff a ha).not.mp (hnone a ha)
  | highest hmem hbefore hle =>
    refine .highest hmem ((hiff c hmem).mp hbefore) fun a ha hbefore' => ?_
    exact hle a ha ((hiff a ha).mpr hbefore')

end IsBest

/-! ### Looking at one checkpoint after another -/

theorem IsBest.le (hd : IsBest cs target d) (hc : c ∈ cs) (hbefore : c.IsBefore target) :
    c.height ≤ d.height := by
  cases hd with
  | genesis hnone => exact absurd hbefore (hnone c hc)
  | highest _ _ hle => exact hle c hc hbefore

/-- The better of the best so far and the next checkpoint is the best of both. -/
theorem IsBest.concat (hd : IsBest cs target d) (c : Checkpoint) :
    IsBest (cs ++ [c]) target (better target d c) := by
  unfold better
  split_ifs with hbetter
  · refine .highest (by simp) hbetter.1 fun a ha hbefore => ?_
    rcases List.mem_append.mp ha with ha | ha
    · exact Fin.le_trans (hd.le ha hbefore) hbetter.2
    · obtain rfl : a = c := List.mem_singleton.mp ha
      exact Fin.le_refl _
  · cases hd with
    | genesis hnone =>
      refine .genesis fun a ha hbefore => ?_
      rcases List.mem_append.mp ha with ha | ha
      · exact hnone a ha hbefore
      · rw [List.mem_singleton.mp ha] at hbefore
        exact hbetter ⟨hbefore, genesis_height_le c⟩
    | highest hmem hbefore hle =>
      refine .highest (List.mem_append_left _ hmem) hbefore fun a ha hbefore' => ?_
      rcases List.mem_append.mp ha with ha | ha
      · exact hle a ha hbefore'
      · rw [List.mem_singleton.mp ha] at hbefore' ⊢
        exact Fin.le_of_lt (Fin.not_le.mp fun hge => hbetter ⟨hbefore', hge⟩)

theorem IsBest.foldl_better (hd : IsBest cs target d) (es : List Checkpoint) :
    IsBest (cs ++ es) target (es.foldl (better target) d) := by
  induction es generalizing cs d with
  | nil => rwa [List.append_nil]
  | cons c es ih =>
    rw [List.append_cons]
    exact ih (hd.concat c)

theorem isBest_scan (target : Target) (cs : List Checkpoint) : IsBest cs target (scan target cs) := by
  have hnone : IsBest [] target .genesis := .genesis (by simp)
  exact hnone.foldl_better cs

namespace Checkpoints

/-! ### The highest of those before a time -/

theorem le_higher (c d : Checkpoint) :
    c.height ≤ (higher c d).height ∧ d.height ≤ (higher c d).height := by
  unfold higher
  split_ifs with h
  · exact ⟨Fin.le_refl _, Fin.le_of_lt h⟩
  · exact ⟨Fin.not_lt.mp h, Fin.le_refl _⟩

theorem higher_eq (c d : Checkpoint) : higher c d = c ∨ higher c d = d := by
  unfold higher
  split_ifs
  · exact Or.inl rfl
  · exact Or.inr rfl

theorem foldl_higher_spec (c : Checkpoint) (cs : List Checkpoint) :
    cs.foldl higher c ∈ c :: cs ∧ ∀ d ∈ c :: cs, d.height ≤ (cs.foldl higher c).height := by
  induction cs generalizing c with
  | nil => simp
  | cons a cs ih =>
    obtain ⟨hmem, hle⟩ := ih (higher c a)
    obtain ⟨hc, ha⟩ := le_higher c a
    have hfirst := hle (higher c a) List.mem_cons_self
    refine ⟨?_, fun d hd => ?_⟩
    · rcases List.mem_cons.mp hmem with heq | hmem
      · rw [List.foldl_cons, heq]
        rcases higher_eq c a with heq | heq <;> simp [heq]
      · exact List.mem_cons_of_mem _ (List.mem_cons_of_mem _ hmem)
    · rcases List.mem_cons.mp hd with rfl | hd
      · exact Fin.le_trans hc hfirst
      · rcases List.mem_cons.mp hd with rfl | hd
        · exact Fin.le_trans ha hfirst
        · exact hle d (List.mem_cons_of_mem _ hd)

/-- What is resolved from a time is the best checkpoint for it. -/
theorem isBest_beforeTime (cs : Checkpoints) (t : Timestamp) :
    IsBest cs.toList (.time t) (cs.beforeTime t) := by
  have hmem {c : Checkpoint} : c ∈ cs.toList.filter (·.time < t) ↔
      c ∈ cs.toList ∧ c.IsBefore (.time t) := by simp [Checkpoint.IsBefore]
  unfold beforeTime
  cases hfound : cs.toList.filter (·.time < t) with
  | nil =>
    refine .genesis fun c hc hbefore => ?_
    have hnone := hmem.mpr ⟨hc, hbefore⟩
    rw [hfound] at hnone
    cases hnone
  | cons c ds =>
    rw [hfound] at hmem
    obtain ⟨hbest, hle⟩ := foldl_higher_spec c ds
    obtain ⟨hbest, hbefore⟩ := hmem.mp hbest
    exact .highest hbest hbefore fun d hd hbefore' => hle d (hmem.mpr ⟨hd, hbefore'⟩)

/-! ### Resolving a target -/

/-- **What a target resolves to is the best checkpoint for it.** -/
theorem isBest_resolve (cs : Checkpoints) (target : Target) :
    IsBest cs.toList target (cs.resolve target) := by
  cases target with
  | genesis => exact .genesis fun _ _ => id
  | time t => exact cs.isBest_beforeTime t
  | height h =>
    rcases cs.beforeHeight_spec h with ⟨hmem, hbefore, hle⟩ | ⟨hgenesis, hnone⟩
    · exact .highest hmem hbefore hle
    · rw [resolve, hgenesis]
      exact .genesis hnone

theorem resolve_eq_iff {cs : Checkpoints} {best : Checkpoint} :
    cs.resolve target = best ↔ IsBest cs.toList target best := by
  refine ⟨?_, fun hbest => (cs.isBest_resolve target).unique cs.ascending hbest⟩
  rintro rfl
  exact cs.isBest_resolve target

/-- What collections hold are the lists of checkpoints whose heights ascend. -/
theorem obtained_iff {l : List Checkpoint} : Obtained l ↔ Ascending l := by
  constructor
  · intro h
    cases h with
    | empty | ofList | read | load => exact ascending _
  · intro h
    obtain ⟨cs, hcs⟩ := exists_ofList_iff.mpr h
    rw [← ofList_eq_ok_iff.mp hcs]
    exact .ofList hcs

/-- **A target resolves to the best checkpoint for it, and to no other.** A collection can be had of the
checkpoints whose heights ascend, and of no others. In each, a target resolves to what is found by
looking at one checkpoint after another, and that is the one checkpoint that is the highest of those
before the target, or genesis if none is before it. -/
theorem resolve_eq_iff_isBest :
    (∀ l, Obtained l ↔ Ascending l) ∧ ∀ (cs : Checkpoints) (target : Target),
      cs.resolve target = scan target cs.toList ∧
        ∀ best, cs.resolve target = best ↔ IsBest cs.toList target best :=
  ⟨fun _ => obtained_iff, fun cs target =>
    ⟨resolve_eq_iff.mpr (isBest_scan target cs.toList), fun _ => resolve_eq_iff⟩⟩

/-! ### Two targets, two collections -/

/-- The later target, or the larger collection, resolves to no lower height. -/
theorem height_resolve_le {cs ds : Checkpoints}
    (hmore : ∀ c ∈ cs.toList, c.IsBefore target → c ∈ ds.toList ∧ c.IsBefore target') :
    (cs.resolve target).height ≤ (ds.resolve target').height :=
  (cs.isBest_resolve target).height_le (ds.isBest_resolve target') hmore

/-- Times ascend with heights. -/
def TimesAscend (cs : Checkpoints) : Prop :=
  ∀ c ∈ cs.toList, ∀ d ∈ cs.toList, c.height < d.height → c.time < d.time

/-- The checkpoints before another's time are those below its height, if times ascend with heights. -/
theorem TimesAscend.isBefore_iff {cs : Checkpoints} (htimes : cs.TimesAscend) {c d : Checkpoint}
    (hc : c ∈ cs.toList) (hd : d ∈ cs.toList) :
    d.IsBefore (.time c.time) ↔ d.IsBefore (.height c.height) := by
  refine ⟨fun hbefore => Fin.not_le.mp fun hle => ?_, htimes d hd c hc⟩
  rcases Fin.lt_or_eq_of_le hle with hlt | heq
  · exact Int.lt_asymm (htimes c hc d hd hlt) hbefore
  · rw [cs.ascending.eq_of_height_eq hc hd heq] at hbefore
    exact Int.lt_irrefl _ hbefore

/-- A checkpoint's own time resolves to what its height resolves to, if times ascend with heights. -/
theorem TimesAscend.resolve_time_eq {cs : Checkpoints} (htimes : cs.TimesAscend) {c : Checkpoint}
    (hc : c ∈ cs.toList) : cs.resolve (.time c.time) = cs.resolve (.height c.height) :=
  resolve_eq_iff.mpr <| (cs.isBest_resolve (.height c.height)).congr fun _ hd =>
    (htimes.isBefore_iff hc hd).symm

/-- What is below the checkpoint that a time resolves to is before that time, if times ascend with
heights. -/
theorem TimesAscend.time_lt {cs : Checkpoints} (htimes : cs.TimesAscend) {t : Timestamp}
    {c : Checkpoint} (hc : c ∈ cs.toList) (hlt : c.height < (cs.resolve (.time t)).height) :
    c.time < t := by
  generalize hbest : cs.resolve (.time t) = best at hlt
  cases resolve_eq_iff.mp hbest with
  | genesis => exact absurd hlt (Nat.not_lt_zero _)
  | highest hmem hbefore => exact Int.lt_trans (htimes c hc best hmem hlt) hbefore

/-- **Asking for more history never starts a replay later.** A replay from a lower height, or from an
earlier time, starts no higher, whether times ascend with heights or not; and with more checkpoints it
starts no lower. If times ascend with heights, then the time of a checkpoint resolves to what its
height resolves to, and no checkpoint from a time on is below the one that the time resolves to. -/
theorem resolve_mono (cs : Checkpoints) :
    (∀ h h' : Height, h ≤ h' →
      (cs.resolve (.height h)).height ≤ (cs.resolve (.height h')).height) ∧
    (∀ t t' : Timestamp, t ≤ t' →
      (cs.resolve (.time t)).height ≤ (cs.resolve (.time t')).height) ∧
    (∀ ds : Checkpoints, cs.toList ⊆ ds.toList → ∀ target,
      (cs.resolve target).height ≤ (ds.resolve target).height) ∧
    (cs.TimesAscend →
      (∀ c ∈ cs.toList, cs.resolve (.time c.time) = cs.resolve (.height c.height)) ∧
      ∀ t, ∀ c ∈ cs.toList, c.height < (cs.resolve (.time t)).height → c.time < t) := by
  refine ⟨fun h h' hle => ?_, fun t t' hle => ?_, fun ds hsub target => ?_, fun htimes => ?_⟩
  · exact height_resolve_le fun c hc hbefore => ⟨hc, Fin.lt_of_lt_of_le hbefore hle⟩
  · exact height_resolve_le fun c hc hbefore => ⟨hc, Int.lt_of_lt_of_le hbefore hle⟩
  · exact height_resolve_le fun c hc hbefore => ⟨hsub hc, hbefore⟩
  · exact ⟨fun c hc => htimes.resolve_time_eq hc, fun t c hc => htimes.time_lt hc⟩

/-- Three checkpoints of which the lowest is later than the next one, and the two others alone. -/
theorem resolve_mono_of_unordered :
    let a : Checkpoint := ⟨⟨100, by decide⟩, .ofSeconds 20, none⟩
    let b : Checkpoint := ⟨⟨200, by decide⟩, .ofSeconds 10, none⟩
    let c : Checkpoint := ⟨⟨300, by decide⟩, .ofSeconds 30, none⟩
    let cs : Checkpoints := ⟨[a, b, c], by decide⟩
    let es : Checkpoints := ⟨[b, c], by decide⟩
    ¬ cs.TimesAscend ∧
      (cs.resolve (.height b.height)).height ≤ (cs.resolve (.height c.height)).height ∧
      (cs.resolve (.time b.time)).height ≤ (cs.resolve (.time a.time)).height ∧
      (∀ target, (es.resolve target).height ≤ (cs.resolve target).height) ∧
      es.TimesAscend ∧ es.resolve (.time c.time) = es.resolve (.height c.height) ∧
      b.height < (es.resolve (.time (.ofSeconds 31))).height ∧ b.time < .ofSeconds 31 := by
  intro a b c cs es
  have hnot : ¬ cs.TimesAscend := by
    unfold TimesAscend
    decide
  have htimes : es.TimesAscend := by
    unfold TimesAscend
    decide
  have hlt : b.height < (es.resolve (.time (.ofSeconds 31))).height := by decide
  obtain ⟨hheights, htargets, -, -⟩ := resolve_mono cs
  obtain ⟨-, -, hmore, hagree⟩ := resolve_mono es
  obtain ⟨hown, hbelow⟩ := hagree htimes
  exact ⟨hnot, hheights _ _ (by decide), htargets _ _ (by decide),
    hmore cs (List.subset_cons_self a [b, c]), htimes, hown c (by decide), hlt,
    hbelow _ b (by decide) hlt⟩

end Checkpoints

end WalletReplay
