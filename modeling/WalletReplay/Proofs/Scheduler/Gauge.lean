import WalletReplay.Proofs.Scheduler.Percent

/-!
# How far a download is

The percentage of a download is taken of the way from its start to its end. It depends on no more than
how far the download has come and how far it has to go: who has come further, and has no further to
go, shows no less. Both orders that matter come down to this. A floor that grows moves the end away.
A later report of the same download is about a greater height, and about an end that is no further
off; where the height is below the start, the download has not moved, and the blocks that are left
are no more than before.

## What is proved

* `percentComplete_le_percentComplete` — further on the way, and no further to go, is no less.
* `percentInWords?_eq` — no step of the computation leaves words of 64 bits, or divides by zero.
* `percent_progress_le` — what a wallet shows does not fall from one report to the next.
* `percentComplete_laws` — these, the bound, and when a download shows that all is done.
-/

namespace WalletReplay

/-- The height under which the end of a download is not put. -/
def floorHeight (floor : Option Height) : Nat :=
  floor.elim 0 Fin.val

/-! ### In words of a machine -/

/-- A number, if it fits a word of 64 bits. -/
def word? (n : Nat) : Option Nat :=
  if n < 18446744073709551616 then some n else none

/-- A number, if it fits a byte. -/
def byte? (n : Nat) : Option Nat :=
  if n < 256 then some n else none

/-- The difference of two words, if it is one. -/
def difference? (m n : Nat) : Option Nat :=
  if n ≤ m then some (m - n) else none

/-- The quotient of two words, rounded down, if there is one. -/
def quotient? (m n : Nat) : Option Nat :=
  if n = 0 then none else some (m / n)

/-- The percentage of a download, computed in words of 64 bits and given out as a byte. There is none
if a step leaves the words or divides by zero, or if the byte would lose a digit. -/
def percentInWords? (start height : Height) (left : BlockCount) (floor : Option Height) :
    Option Nat := do
  let reached := max height.val start.val
  let ahead ← word? (reached + left.val)
  let target := max ahead (floorHeight floor)
  if target ≤ start.val then byte? 100
  else
    let done ← difference? reached start.val
    let scaled ← word? (done * 100)
    let way ← difference? target start.val
    byte? (← quotient? scaled way)

/-! ### The way that is done, and the whole way -/

variable {start height height' : Height} {left left' : BlockCount} {floor floor' : Option Height}

theorem downloadEnd_eq (reached : Nat) (left : BlockCount) (floor : Option Height) :
    downloadEnd reached left floor = max (reached + left.val) (floorHeight floor) := by
  cases floor <;> rfl

theorem floorHeight_lt (floor : Option Height) : floorHeight floor < 4294967296 := by
  cases floor with
  | none => decide
  | some h => exact h.isLt

/-- A download has not come further than its end. -/
theorem le_downloadEnd (reached : Nat) (left : BlockCount) (floor : Option Height) :
    reached ≤ downloadEnd reached left floor := by
  rw [downloadEnd_eq]
  omega

/-- Where there is no way to go, all of it is done. -/
theorem percentComplete_of_le
    (h : downloadEnd (max height.val start.val) left floor ≤ start.val) :
    percentComplete start height left floor = 100 :=
  if_pos h

theorem percentComplete_of_lt
    (h : start.val < downloadEnd (max height.val start.val) left floor) :
    percentComplete start height left floor = (max height.val start.val - start.val) * 100 /
      (downloadEnd (max height.val start.val) left floor - start.val) :=
  if_neg (Nat.not_le.mpr h)

theorem percentComplete_le_hundred (start height : Height) (left : BlockCount)
    (floor : Option Height) : percentComplete start height left floor ≤ 100 := by
  have hreached := le_downloadEnd (max height.val start.val) left floor
  rcases Nat.lt_or_ge start.val (downloadEnd (max height.val start.val) left floor) with h | h
  · rw [percentComplete_of_lt h]
    refine Nat.div_le_of_le_mul ?_
    rw [Nat.mul_comm _ 100, Nat.mul_comm _ 100]
    exact Nat.mul_le_mul_left 100 (Nat.sub_le_sub_right hreached _)
  · rw [percentComplete_of_le h]

/-- All is done if and only if the download has come to its end. -/
theorem percentComplete_eq_hundred_iff_reached :
    percentComplete start height left floor = 100 ↔
      downloadEnd (max height.val start.val) left floor = max height.val start.val := by
  have hreached := le_downloadEnd (max height.val start.val) left floor
  rcases Nat.lt_or_ge start.val (downloadEnd (max height.val start.val) left floor) with h | h
  · rw [percentComplete_of_lt h]
    generalize downloadEnd (max height.val start.val) left floor = target at h hreached
    have hway : 0 < target - start.val := Nat.sub_pos_of_lt h
    constructor
    · intro hfull
      have hall : 100 * (target - start.val) ≤ (max height.val start.val - start.val) * 100 :=
        (Nat.le_div_iff_mul_le hway).mp (Nat.le_of_eq hfull.symm)
      omega
    · intro htarget
      rw [← htarget, Nat.mul_comm]
      exact Nat.mul_div_left 100 hway
  · refine iff_of_true (percentComplete_of_le h) ?_
    omega

/-- **Further on the way, and no further to go, is no less.** -/
theorem percentComplete_le_percentComplete
    (hreached : max height.val start.val ≤ max height'.val start.val)
    (hend : downloadEnd (max height'.val start.val) left' floor' ≤
      downloadEnd (max height.val start.val) left floor) :
    percentComplete start height left floor ≤ percentComplete start height' left' floor' := by
  rcases Nat.lt_or_ge start.val (downloadEnd (max height'.val start.val) left' floor') with h | h
  · rw [percentComplete_of_lt h, percentComplete_of_lt (Nat.lt_of_lt_of_le h hend)]
    exact Nat.div_le_div (Nat.mul_le_mul_right 100 (Nat.sub_le_sub_right hreached _))
      (Nat.sub_le_sub_right hend _) (Nat.sub_ne_zero_of_lt h)
  · rw [percentComplete_of_le h]
    exact percentComplete_le_hundred start height left floor

/-- A floor that grows moves the end away. -/
theorem percentComplete_anti_floor (hfloor : floorHeight floor ≤ floorHeight floor') :
    percentComplete start height left floor' ≤ percentComplete start height left floor := by
  refine percentComplete_le_percentComplete (Nat.le_refl _) ?_
  rw [downloadEnd_eq, downloadEnd_eq]
  omega

/-- A later report of a download shows no less. -/
theorem percentComplete_mono_report (hheight : height ≤ height')
    (hend : height'.val + left'.val ≤ height.val + left.val) :
    percentComplete start height left floor ≤ percentComplete start height' left' floor := by
  have hval : height.val ≤ height'.val := hheight
  refine percentComplete_le_percentComplete (by omega) ?_
  rw [downloadEnd_eq, downloadEnd_eq]
  -- The end that is ahead is no further off, whether the heights are above the start or below it.
  have hahead : max height'.val start.val + left'.val ≤ max height.val start.val + left.val := by
    omega
  omega

/-- No step of the computation leaves the words, or divides by zero. -/
theorem percentInWords?_eq (start height : Height) (left : BlockCount) (floor : Option Height) :
    percentInWords? start height left floor = some (percentComplete start height left floor) := by
  have hstart := start.isLt
  have hheight := height.isLt
  have hleft := left.isLt
  have hfloor := floorHeight_lt floor
  have hhundred := percentComplete_le_hundred start height left floor
  have hahead : word? (max height.val start.val + left.val) =
      some (max height.val start.val + left.val) := if_pos (by omega)
  have hbyte {n : Nat} (hn : n ≤ 100) : byte? n = some n := if_pos (by omega)
  simp only [percentInWords?, hahead, Option.bind_eq_bind, Option.bind_some, ← downloadEnd_eq]
  have hreached := le_downloadEnd (max height.val start.val) left floor
  have hlt : downloadEnd (max height.val start.val) left floor < 8589934592 := by
    rw [downloadEnd_eq]
    omega
  split
  · rename_i h
    rw [percentComplete_of_le h, hbyte (Nat.le_refl _)]
  · rename_i h
    have h : start.val < downloadEnd (max height.val start.val) left floor := Nat.not_le.mp h
    rw [percentComplete_of_lt h] at hhundred ⊢
    generalize downloadEnd (max height.val start.val) left floor = target at h hreached hlt hhundred
    have hdone : difference? (max height.val start.val) start.val =
        some (max height.val start.val - start.val) := if_pos (Nat.le_max_right _ _)
    have hscaled : word? ((max height.val start.val - start.val) * 100) =
        some ((max height.val start.val - start.val) * 100) := if_pos (by omega)
    have hway : difference? target start.val = some (target - start.val) := if_pos (Nat.le_of_lt h)
    have hquotient (n : Nat) : quotient? n (target - start.val) = some (n / (target - start.val)) :=
      if_neg (Nat.sub_ne_zero_of_lt h)
    simp only [hdone, hscaled, hway, hquotient, Option.bind_some, hbyte hhundred]

/-! ### What wallets show -/

namespace Ledger

/-- A wallet for which several values are meant shows one of them, and which one does not depend on
the ledger. -/
theorem exists_percent_foldl {α : Type} {wallet : α → Wallet} {w : Wallet} {as : List α}
    (h : ∃ a ∈ as, (wallet a).key = w.key) :
    ∃ a ∈ as, ∀ (l : Ledger) (value : α → Nat), w.key < l.size →
      ((as.foldl (fun l a => l.modify (wallet a) (·.setPercent (some (value a)))) l).get w).percent =
        some (value a) := by
  induction as with
  | nil => simp at h
  | cons b as ih =>
    by_cases hlater : ∃ a ∈ as, (wallet a).key = w.key
    · obtain ⟨a, ha, hshown⟩ := ih hlater
      refine ⟨a, List.mem_cons_of_mem b ha, fun l value hsize => ?_⟩
      exact hshown _ value (by rwa [size_modify])
    · have hb : (wallet b).key = w.key := by
        obtain ⟨a, ha, hkey⟩ := h
        rcases List.mem_cons.mp ha with rfl | ha
        · exact hkey
        · exact absurd ⟨a, ha, hkey⟩ hlater
      refine ⟨b, List.mem_cons_self, fun l value hsize => ?_⟩
      rw [List.foldl_cons, get_foldl_modify_of_ne fun a ha hkey => hlater ⟨a, ha, hkey⟩, get_modify,
        if_pos ⟨hb, hsize⟩]
      rfl

end Ledger

namespace Scheduler

variable {s s' : Scheduler} {w : Wallet}

/-- What a listener of the network shows does not fall from one report to the next. -/
theorem percent_progress_le (hlisteners : s'.client.listeners = s.client.listeners)
    (hlistens : ∃ l ∈ s.client.listeners, l.wallet = w) (hsize : w.key < s.roster.ledger.size)
    (hsize' : w.key < s'.roster.ledger.size) (hheight : height ≤ height')
    (hend : height'.val + left'.val ≤ height.val + left.val) :
    ∃ shown shown', (s.progress height left).percent w = some shown ∧
      (s'.progress height' left').percent w = some shown' ∧ shown ≤ shown' := by
  have hkey : ∃ l ∈ s.client.listeners, l.wallet.key = w.key := by
    obtain ⟨l, hl, rfl⟩ := hlistens
    exact ⟨l, hl, rfl⟩
  obtain ⟨l, -, hshown⟩ := Ledger.exists_percent_foldl hkey
  refine ⟨_, _, hshown _ (fun p => percentComplete p.start height left p.floor) hsize, ?_,
    percentComplete_mono_report hheight hend⟩
  rw [← hlisteners] at hshown
  exact hshown _ (fun p => percentComplete p.start height' left' p.floor) hsize'

end Scheduler

/-- **The percentage of a download.** For all heights, numbers of blocks and floors it can be
computed in words of 64 bits and given out as a byte. It is at most 100, and is 100 if and only if
no blocks are left and the floor is reached. It does not grow when the floor grows. A later report,
about no lesser height and no further end, gives no lesser percentage, and in any run a wallet that
listens shows no less after it. -/
theorem percentComplete_laws :
    (∀ (start height : Height) (left : BlockCount) (floor : Option Height),
      percentInWords? start height left floor = some (percentComplete start height left floor) ∧
        percentComplete start height left floor ≤ 100 ∧
        (percentComplete start height left floor = 100 ↔
          left.val = 0 ∧ floorHeight floor ≤ max height.val start.val) ∧
        ∀ floor', floorHeight floor ≤ floorHeight floor' →
          percentComplete start height left floor' ≤ percentComplete start height left floor) ∧
      ∀ (height height' : Height) (left left' : BlockCount), height ≤ height' →
        height'.val + left'.val ≤ height.val + left.val →
        (∀ start floor,
          percentComplete start height left floor ≤ percentComplete start height' left' floor) ∧
          ∀ (checkpoints : Checkpoints) (retry : RetryPolicy) (interval : Nat)
            (synced : Option Height) (before between : List Action) (w : Wallet),
            let s₀ := Scheduler.fresh checkpoints retry interval synced
            let s := s₀.run before
            let s₁ := s.progress height left
            let s₂ := s₁.run between
            w ∈ s₀.madeWallets before → (∃ l ∈ s.client.listeners, l.wallet = w) →
              s₂.client.listeners = s.client.listeners →
              ∃ shown shown', s₁.percent w = some shown ∧
                (s₂.progress height' left').percent w = some shown' ∧ shown ≤ shown' := by
  refine ⟨fun start height left floor => ?_, fun height height' left left' hheight hend => ?_⟩
  · refine ⟨percentInWords?_eq start height left floor,
      percentComplete_le_hundred start height left floor, ?_,
      fun floor' hfloor => percentComplete_anti_floor hfloor⟩
    rw [percentComplete_eq_hundred_iff_reached, downloadEnd_eq]
    omega
  · refine ⟨fun start floor => percentComplete_mono_report hheight hend, ?_⟩
    intro checkpoints retry interval synced before between w s₀ s s₁ s₂ hmade hlistens hlisteners
    have hticks₀ := Scheduler.ticksDriven_fresh checkpoints retry interval synced
    have hparted := Scheduler.parted_fresh checkpoints retry interval synced
    have hsize : w.key < s.roster.ledger.size := (hparted.run hticks₀ before).known.lt_size hmade
    have hsize' : w.key < s₂.roster.ledger.size := by
      have hrun := (hparted.run hticks₀ before).run (hticks₀.run before)
        (.progress height left :: between)
      exact hrun.known.lt_size (List.mem_append_left _ hmade)
    exact Scheduler.percent_progress_le hlisteners hlistens hsize hsize' hheight hend

/-- A download from height 1000 up to a floor of 5500 is reported to be at 900, and then at 5000 with
as many blocks left as end where the first report put the end. Only what comes up to the floor is all.
A wallet that listens to a download shows no less after a second report than after a first. -/
theorem percentComplete_laws_of_floor :
    let start : Height := ⟨1000, by decide⟩
    let floor : Option Height := some ⟨5500, by decide⟩
    let before : List Action := [.own (.make "savings" "w1" {}), .offer ["savings"] .genesis,
      .create "tick" .tick, .poll "tick", .poll "tick", .poll "tick", .poll "tick", .poll "tick",
      .poll "tick"]
    let s := (Scheduler.fresh .empty {} 200 none).run before
    let s₁ := s.progress ⟨10, by decide⟩ 10
    let s₂ := s₁.run [.wait 5]
    percentComplete start ⟨900, by decide⟩ 5000 floor ≤
        percentComplete start ⟨5000, by decide⟩ 900 floor ∧
      percentComplete start ⟨5000, by decide⟩ 0 floor ≠ 100 ∧
      percentComplete start ⟨5500, by decide⟩ 0 floor = 100 ∧
      percentInWords? start ⟨5500, by decide⟩ 0 floor = some 100 ∧
      ∃ shown shown', s₁.percent ⟨0, "w1"⟩ = some shown ∧
        (s₂.progress ⟨15, by decide⟩ 5).percent ⟨0, "w1"⟩ = some shown' ∧ shown ≤ shown' := by
  intro start floor before s s₁ s₂
  obtain ⟨hvalues, hreports⟩ := percentComplete_laws
  obtain ⟨-, -, hpart, -⟩ := hvalues start ⟨5000, by decide⟩ 0 floor
  obtain ⟨hwords, -, hall, -⟩ := hvalues start ⟨5500, by decide⟩ 0 floor
  have hfull : percentComplete start ⟨5500, by decide⟩ 0 floor = 100 := hall.mpr (by decide)
  refine ⟨?_, fun h => absurd (hpart.mp h) (by decide), hfull, hfull ▸ hwords, ?_⟩
  · exact (hreports ⟨900, by decide⟩ ⟨5000, by decide⟩ 5000 900 (by decide) (by decide)).1 start floor
  · exact (hreports ⟨10, by decide⟩ ⟨15, by decide⟩ 10 5 (by decide) (by decide)).2 .empty {} 200 none
      before [.wait 5] ⟨0, "w1"⟩ (by decide) (by decide) (by decide)

end WalletReplay
