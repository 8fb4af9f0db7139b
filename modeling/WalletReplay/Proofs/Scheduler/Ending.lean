import WalletReplay.Proofs.Scheduler.Round

/-!
# Drivers end after a shutdown

A driver tells a shutdown from the number of shutdown calls that there were when it was spawned. It
compares when it selects, and a call of shutdown summons the drivers that wait. So a driver ends
after a shutdown that is called after it was spawned. A driver that is spawned later never hears of
that shutdown, and goes on to tick.

How long it takes a driver to end is counted in turns of whoever it waits for: of itself, or, while
its tick is in line, of whoever holds the chain. Each of these turns brings it nearer to its end, and
nothing takes it further away.

## What is proved

* `Driven.act` — ticks of drivers are in line, and a driver that does not have to wait is to run.
* `Driven.loops_act` — a driver sees no shutdown but those before it was spawned.
* `Driven.toGo_act` — a turn of whoever a driver waits for is one of those that it takes to its end.
* `run_drivers_end` — when drivers end, in any run.
-/

namespace WalletReplay

theorem Action.eq_drive {a : Action} {d : Nat} (h : a.caller? = some (.driver d)) : a = .drive d := by
  cases a <;> simp [caller?] at h
  rw [h]

namespace Scheduler

open Relation

variable {s s' t : Scheduler} {k : Caller} {d e n seen due : Nat} {told : Bool} {driver : Driver}
  {a : Action}

/-! ### Who is to run -/

theorem mem_turns_summonAll {ds : List Nat} (hd : d ∈ ds) : d ∈ (s.summonAll ds).turns := by
  induction ds generalizing s with
  | nil => simp at hd
  | cons e ds ih =>
    rcases List.mem_cons.mp hd with rfl | hd
    · have hsummoned : [d] ⊆ (s.summon d).turns := by simpa using s.mem_turns_summon d
      exact subset_turns_summonAll hsummoned ds List.mem_cons_self
    · exact ih hd

/-- Whoever waits when shutdown is called is to run. -/
theorem mem_turns_callShutdown (hd : s.drivers[d]? = some (.waiting seen due told)) :
    d ∈ s.callShutdown.turns := by
  have hlt : d < s.drivers.length := (List.getElem?_eq_some_iff.mp hd).1
  unfold callShutdown
  apply mem_turns_summonAll
  refine List.mem_map.mpr ⟨(d, due), List.mem_filterMap.mpr ⟨d, List.mem_range.mpr hlt, ?_⟩, rfl⟩
  simp [hd]

/-- A poll is no call of shutdown, or whoever waits is to run. -/
theorem shutdownCount_poll_or (k : Caller) (hd : s.drivers[d]? = some (.waiting seen due told)) :
    (s.poll k).1.shutdownCount = s.shutdownCount ∨ d ∈ (s.poll k).1.turns := by
  by_cases hcall : s.calls.get? k = some (.fresh .shutdown)
  · right
    have hpoll : s.poll k = s.callShutdown.joinLine k .shutdown := by simp [poll, hcall, beginCall]
    rw [hpoll]
    apply turns_subset_of_steps (steps_joinLine s.callShutdown k .shutdown)
    exact mem_turns_callShutdown hd
  · exact Or.inl (shutdownCount_poll hcall)

/-- While it is not its turn, a driver that is to run stays so. -/
theorem mem_turns_act (hd : d ∈ s.turns) (ha : a.caller? ≠ some (.driver d)) :
    d ∈ (s.act a).1.turns := by
  cases a with
  | own | listen | inject | progress | setHeight | wait => exact hd
  | offer handles target => exact (s.aside_offer _).turns hd
  | notify task => exact ((Aside.refl s).notifyCompleted task).turns hd
  | finish => exact s.aside_finishDownload.turns hd
  | create name kind | cancel name => exact s.turns_subset_cancel (.named name) hd
  | poll name => exact s.turns_subset_poll (.named name) hd
  | spawn => exact subset_turns_summon (List.Subset.refl _) _ hd
  | drive e =>
    have hne : d ≠ e := by
      rintro rfl
      exact ha rfl
    obtain ⟨turns, hsub, hturn⟩ := s.exists_takeTurn e
    simp only [act]
    rw [hturn]
    apply hsub
    apply (tends_pollDriver _ e).turns
    exact (List.mem_erase_of_ne hne).mpr hd

/-- A driver that has to choose keeps its turn. -/
theorem mem_turns_takeTurn (hd : (s.takeTurn d).drivers[d]? = some (.choosing seen due)) :
    d ∈ (s.takeTurn d).turns := by
  simp only [takeTurn] at hd ⊢
  split
  · exact List.mem_cons_self
  · rename_i hne
    split at hd
    · rename_i h
      exact absurd h (hne _ _)
    · exact absurd hd (hne _ _)

/-! ### What is right about drivers -/

/-- The ticks of drivers that are at their ticks are in line, and a driver that does not have to
wait is to run. -/
structure Driven (s : Scheduler) : Prop where
  inLine : s.InLine
  ticksDriven : s.TicksDriven
  line : ∀ d seen, s.post? d = some (.ticking seen) → .driver d ∈ s.line
  prompt : ∀ d driver, s.standing d = some driver → driver.isUrgent s.shutdownCount = true →
    d ∈ s.turns

namespace Driven

/-- A driver does not call shutdown. -/
theorem shutdownCount_takeTurn (hs : s.Driven) (d : Nat) :
    (s.takeTurn d).shutdownCount = s.shutdownCount := by
  cases s.round_takeTurn d with
  | idle _ hkeeps | start _ hkeeps | leave _ _ hkeeps | wait _ _ hkeeps => exact hkeeps.shutdownCount
  | @tick seen t _ _ hkeeps hrun =>
    have hcall : (t.create (.driver d) .tick).calls.get? (.driver d) ≠ some (.fresh .shutdown) := by
      simp [create, Table.get?_set_self]
    calc (s.takeTurn d).shutdownCount
      _ = (t.create (.driver d) .tick).shutdownCount :=
        hrun.keeps.shutdownCount.trans (shutdownCount_poll hcall)
      _ = s.shutdownCount := hkeeps.shutdownCount
  | @resume seen t h hkeeps hrun =>
    have hcall : t.calls.get? (.driver d) ≠ some (.fresh .shutdown) := by
      obtain ⟨c, hc, hbegun⟩ := (hs.inLine.mem_iff _).mp (hs.line d seen h)
      rw [hkeeps.calls, hc]
      rintro hfresh
      obtain rfl := Option.some.inj hfresh
      simp [Call.isBegun] at hbegun
    calc (s.takeTurn d).shutdownCount
      _ = t.shutdownCount := hrun.keeps.shutdownCount.trans (shutdownCount_poll hcall)
      _ = s.shutdownCount := hkeeps.shutdownCount

/-- Shutdown is not called, or whoever waits is to run. -/
theorem shutdownCount_act_or (hs : s.Driven) (a : Action)
    (hd : s.drivers[d]? = some (.waiting seen due told)) :
    (s.act a).1.shutdownCount = s.shutdownCount ∨ d ∈ (s.act a).1.turns := by
  have hcancel (name : String) : (s.cancel (.named name)).1.shutdownCount = s.shutdownCount := by
    cases hcall : s.calls.get? (.named name) with
    | none => rw [cancel_of_none hcall]
    | some c => rw [cancel_of_some hcall]
  cases a with
  | own | listen | inject | progress | setHeight | wait => exact Or.inl rfl
  | offer handles target => exact Or.inl (s.aside_offer _).shutdownCount
  | notify task => exact Or.inl ((Aside.refl s).notifyCompleted task).shutdownCount
  | finish => exact Or.inl s.aside_finishDownload.shutdownCount
  | create name kind | cancel name => exact Or.inl (hcancel name)
  | poll name => exact shutdownCount_poll_or (.named name) hd
  | spawn =>
    left
    simp only [act, Scheduler.spawn]
    rw [summon_eq]
  | drive e => exact Or.inl (hs.shutdownCount_takeTurn e)

theorem line_takeTurn (hs : s.Driven) (h : (s.takeTurn d).post? d = some (.ticking seen)) :
    .driver d ∈ (s.takeTurn d).line := by
  cases s.round_takeTurn d with
  | idle hbefore _ hnext =>
    rw [hnext] at h
    simp [h] at hbefore
  | start _ _ hnext | wait _ _ _ hnext => simp [post?_of_getElem? hnext, Driver.post] at h
  | leave _ _ _ hnext => simp [hnext] at h
  | @tick m t hbefore _ hkeeps hrun =>
    have hnone : t.calls.get? (.driver d) = none := by
      rw [hkeeps.calls]
      exact hs.ticksDriven.eq_none_of_post hbefore (by simp)
    have ht : t.InLine := hs.inLine.congr hkeeps.line hkeeps.calls
    exact hrun.mem_line (ht.make hnone rfl rfl) h
  | resume _ hkeeps hrun => exact hrun.mem_line (hs.inLine.congr hkeeps.line hkeeps.calls) h

/-- A driver that has had its turn has to choose, if it does not have to wait. -/
theorem prompt_takeTurn (h : (s.takeTurn d).standing d = some driver)
    (hurgent : driver.isUrgent (s.takeTurn d).shutdownCount = true) : d ∈ (s.takeTurn d).turns := by
  have hpost : (s.takeTurn d).post? d = some driver.post := by
    rw [post?_eq_map, h]
    rfl
  have hended (hnext : (s.takeTurn d).post? d = some .ended) : False := by
    rw [hpost] at hnext
    simp [Driver.isUrgent_of_ended (Option.some.inj hnext)] at hurgent
  have hran {m : Nat} {t : Scheduler} (hrun : Ran d m t (s.takeTurn d)) :
      d ∈ (s.takeTurn d).turns := by
    by_cases hpending : (t.poll (.driver d)).2 = .pending
    · obtain ⟨due, hticking⟩ := hrun.pending hpending
      rw [post?_of_getElem? hticking] at hpost
      simp [Driver.isUrgent_of_ticking (Option.some.inj hpost).symm] at hurgent
    · obtain ⟨due, hchoosing⟩ := hrun.gone hpending
      exact mem_turns_takeTurn hchoosing
  cases s.round_takeTurn d with
  | idle hbefore _ hnext =>
    rcases hbefore with hnone | hbefore
    · rw [hnext, hnone] at hpost
      simp at hpost
    · exact (hended (hnext.trans hbefore)).elim
  | start _ _ hnext => exact mem_turns_takeTurn hnext
  | leave _ _ _ hnext => exact (hended hnext).elim
  | wait _ hearly hkeeps hnext =>
    rw [standing_of_getElem? hnext] at h
    obtain rfl := Option.some.inj h
    rw [hkeeps.shutdownCount] at hurgent
    exact absurd (by simpa [Driver.untold, Driver.isUrgent] using hurgent) hearly
  | tick _ _ _ hrun | resume _ _ hrun => exact hran hrun

/-- **Actions keep ticks in line**, and whoever does not have to wait to run. -/
theorem act (hs : s.Driven) (a : Action) : (s.act a).1.Driven where
  inLine := moves_invariant (fun hs h => hs.move h) hs.inLine
    (act_moves hs.ticksDriven (within_default s a))
  ticksDriven := hs.ticksDriven.act a
  line := by
    intro d seen hd
    by_cases ha : a.caller? = some (.driver d)
    · obtain rfl := Action.eq_drive ha
      exact hs.line_takeTurn hd
    · by_cases hold : a = .spawn → d < s.drivers.length
      · rw [post?_of_standing (standing_act ha hold)] at hd
        exact (through_act_le hs.inLine hs.ticksDriven (hs.line d seen hd) ha).1
      · obtain ⟨rfl, hnew⟩ := Classical.not_imp.mp hold
        rw [post?_eq_map] at hd
        obtain ⟨driver, hstands, hpost⟩ := Option.map_eq_some_iff.mp hd
        obtain ⟨-, rfl⟩ := standing_spawn (Nat.not_lt.mp hnew) hstands
        simp [Driver.post] at hpost
  prompt := by
    intro d driver hd hurgent
    by_cases ha : a.caller? = some (.driver d)
    · obtain rfl := Action.eq_drive ha
      exact prompt_takeTurn hd hurgent
    · by_cases hold : a = .spawn → d < s.drivers.length
      · rw [standing_act ha hold] at hd
        by_cases hbefore : driver.isUrgent s.shutdownCount = true
        · exact mem_turns_act (hs.prompt d driver hd hbefore) ha
        · -- Only who waits comes not to have to, by a call of shutdown.
          obtain ⟨driver, hdriver, rfl⟩ := Option.map_eq_some_iff.mp hd
          cases driver with
          | spawned | choosing => exact absurd rfl hbefore
          | ticking | ended => simp [Driver.untold, Driver.isUrgent] at hurgent
          | waiting seen due told =>
            rcases hs.shutdownCount_act_or a hdriver with hcount | hrun
            · rw [hcount] at hurgent
              exact absurd hurgent hbefore
            · exact hrun
      · obtain ⟨rfl, hnew⟩ := Classical.not_imp.mp hold
        obtain ⟨rfl, -⟩ := standing_spawn (Nat.not_lt.mp hnew) hd
        exact mem_turns_summon _ _

end Driven

theorem driven_fresh (checkpoints : Checkpoints) (retry : RetryPolicy) (interval : Nat)
    (synced : Option Height) : (fresh checkpoints retry interval synced).Driven where
  inLine := inLine_fresh checkpoints retry interval synced
  ticksDriven := ticksDriven_fresh checkpoints retry interval synced
  line := by cases synced <;> simp [fresh, start, startSynced, post?]
  prompt := by cases synced <;> simp [fresh, start, startSynced, standing]

theorem Driven.run (hs : s.Driven) (actions : List Action) : (s.run actions).Driven := by
  induction actions generalizing s with
  | nil => exact hs
  | cons a actions ih => exact ih (hs.act a)

/-! ### Where a driver can be -/

/-- The driver is where one can be that had seen so many shutdown calls when it was spawned. -/
def Loops (d n : Nat) (s : Scheduler) : Prop :=
  ∃ post, s.post? d = some post ∧ post.Fits n s.shutdownCount

namespace Driven

theorem shutdownCount_act_le (hs : s.Driven) (a : Action) :
    s.shutdownCount ≤ (s.act a).1.shutdownCount :=
  moves_invariant (I := fun t => s.shutdownCount ≤ t.shutdownCount)
    (fun hle h => Nat.le_trans hle h.shutdownCount_le) (Nat.le_refl _)
    (act_moves (p := {}) hs.ticksDriven (within_default s a))

/-- **A driver sees no shutdown but those before it was spawned**, and ends only after another. -/
theorem loops_act (hs : s.Driven) (h : s.Loops d n) (a : Action) : (s.act a).1.Loops d n := by
  have hcount := hs.shutdownCount_act_le a
  obtain ⟨post, hpost, hfits⟩ := h
  by_cases ha : a.caller? = some (.driver d)
  · obtain rfl := Action.eq_drive ha
    have hround : Round d s (s.act (.drive d)).1 := s.round_takeTurn d
    cases hround with
    | idle _ _ hnext => exact ⟨post, hnext.trans hpost, hfits.mono hcount⟩
    | start h _ hnext | wait h _ _ hnext =>
      obtain rfl := Option.some.inj (hpost.symm.trans h)
      exact ⟨.selecting _, post?_of_getElem? hnext, hfits⟩
    | leave h hlate _ hnext =>
      obtain rfl := Option.some.inj (hpost.symm.trans h)
      refine ⟨.ended, hnext, Nat.lt_of_lt_of_le ?_ hcount⟩
      exact hfits ▸ hlate
    | tick h _ _ hrun | resume h _ hrun =>
      obtain rfl := Option.some.inj (hpost.symm.trans h)
      rcases hrun.post? with hnext | hnext
      · exact ⟨.ticking _, hnext, hfits⟩
      · exact ⟨.selecting _, hnext, hfits⟩
  · exact ⟨post, post?_act hpost ha, hfits.mono hcount⟩

end Driven

/-! ### Turns that are left -/

/-- Who has to run so that a driver gets on: whoever holds the chain if its tick is in progress, and
otherwise the driver itself. -/
def awaited (s : Scheduler) (d : Nat) : Caller :=
  match s.post? d with
  | some (.ticking _) => s.line.head?.getD (.driver d)
  | _ => .driver d

/-- The turns that it takes until a driver ends, at most, once shutdown was called. -/
def toGo (s : Scheduler) (d : Nat) : Nat :=
  match s.post? d with
  | some (.spawned _) => 2
  | some (.selecting _) => 1
  | some (.ticking _) => s.through (.driver d) + 1
  | some .ended | none => 0

/-- How many turns of a run are those of whom a driver waits for at the time. -/
def turnsFor (s : Scheduler) (d : Nat) : List Action → Nat
  | [] => 0
  | a :: actions =>
    (if a.caller? = some (s.awaited d) then 1 else 0) + turnsFor (s.act a).1 d actions

theorem toGo_of_ended (h : s.post? d = some .ended) : s.toGo d = 0 := by
  simp [toGo, h]

theorem toGo_of_selecting (h : s.post? d = some (.selecting seen)) : s.toGo d = 1 := by
  simp [toGo, h]

theorem toGo_of_ticking (h : s.post? d = some (.ticking seen)) :
    s.toGo d = s.through (.driver d) + 1 := by
  simp [toGo, h]

theorem awaited_of_ticking (h : s.post? d = some (.ticking seen)) (hd : .driver d ∈ s.line) :
    s.line.head? = some (s.awaited d) := by
  cases hline : s.line with
  | nil => simp [hline] at hd
  | cons k rest => simp [awaited, h, hline]

/-- A call that waits in line and does not hold the chain gets no further. -/
theorem poll_of_behind (hs : s.InLine) (hk : k ∈ s.line) (hne : s.line.head? ≠ some k) :
    s.poll k = (s, .pending) := by
  obtain ⟨c, hc, hbegun⟩ := (hs.mem_iff k).mp hk
  cases c with
  | fresh => simp [Call.isBegun] at hbegun
  | waiting errand => simp [poll, hc, hne]
  | working w => exact absurd (hs.head_of_working hc) hne

namespace Driven

theorem toGo_le (hs : s.Driven) (d : Nat) : s.toGo d ≤ 8 * s.line.length + 2 := by
  have hthrough := hs.inLine.through_le (.driver d)
  unfold toGo
  split <;> omega

/-- A driver goes on with its tick. If it holds the chain, that is one of the turns that it takes to
its end. -/
theorem toGo_resume (hs : s.Driven) (h : s.post? d = some (.ticking seen)) (hkeeps : Keeps s t)
    (hrun : Ran d seen t s') :
    s'.toGo d ≤ s.toGo d - if some (.driver d) = some (s.awaited d) then 1 else 0 := by
  have hline : .driver d ∈ s.line := hs.line d seen h
  have hhead := awaited_of_ticking h hline
  have ht : t.InLine := hs.inLine.congr hkeeps.line hkeeps.calls
  have htline : .driver d ∈ t.line := hkeeps.line ▸ hline
  have hbefore : t.through (.driver d) = s.through (.driver d) :=
    through_congr hkeeps.line hkeeps.calls
  have hafter : s'.through (.driver d) = (t.poll (.driver d)).1.through (.driver d) :=
    through_congr hrun.keeps.line hrun.keeps.calls
  rw [toGo_of_ticking h]
  rcases hrun.post? with hnext | hnext
  · rw [toGo_of_ticking hnext, hafter]
    have hmem := hrun.mem_line ht hnext
    rw [hrun.keeps.line] at hmem
    split
    · rename_i hself
      rw [← hself, ← hkeeps.line] at hhead
      have hlt := through_poll_lt ht hhead htline hmem
      omega
    · -- It waits for the chain behind others, and the poll changes nothing.
      rename_i hother
      have hbehind : t.line.head? ≠ some (.driver d) := by
        rw [hkeeps.line, hhead]
        exact fun heq => hother heq.symm
      rw [poll_of_behind ht htline hbehind]
      show t.through (.driver d) + 1 ≤ _
      omega
  · have hpos := hs.inLine.through_pos hline
    rw [toGo_of_selecting hnext]
    split <;> omega

/-- The turn of a driver that shutdown was called for is one of those that it takes to its end, but
while it waits for the chain. -/
theorem toGo_takeTurn (hs : s.Driven) (h : s.Loops d n) (hcalled : n < s.shutdownCount) :
    (s.takeTurn d).toGo d ≤ s.toGo d - if some (.driver d) = some (s.awaited d) then 1 else 0 := by
  obtain ⟨post, hpost, hfits⟩ := h
  have hseen {seen : Nat} (h : s.post? d = some (.selecting seen)) : seen < s.shutdownCount := by
    obtain rfl := Option.some.inj (hpost.symm.trans h)
    exact hfits ▸ hcalled
  cases s.round_takeTurn d with
  | idle hidle _ hnext =>
    have hnone : (s.takeTurn d).toGo d = 0 := by
      rcases hidle with h | h <;> simp [toGo, hnext, h]
    omega
  | start h _ hnext =>
    rw [toGo_of_selecting (post?_of_getElem? hnext)]
    simp only [toGo, h]
    split <;> omega
  | leave _ _ _ hnext =>
    rw [toGo_of_ended hnext]
    exact Nat.zero_le _
  | wait h hearly | tick h hearly => exact absurd (hseen h) hearly
  | resume h hkeeps hrun => exact hs.toGo_resume h hkeeps hrun

/-- **A turn of whoever a driver waits for is one of those that it takes to its end**, and nothing
adds to them. -/
theorem toGo_act (hs : s.Driven) (h : s.Loops d n) (hcalled : n < s.shutdownCount) (a : Action) :
    (s.act a).1.toGo d ≤ s.toGo d - if a.caller? = some (s.awaited d) then 1 else 0 := by
  by_cases ha : a.caller? = some (.driver d)
  · obtain rfl := Action.eq_drive ha
    exact hs.toGo_takeTurn h hcalled
  · obtain ⟨post, hpost, -⟩ := h
    have hnext := post?_act hpost ha
    cases post with
    | spawned seen | selecting seen | ended =>
      have hself : s.awaited d = .driver d := by simp [awaited, hpost]
      have hsame : (s.act a).1.toGo d = s.toGo d := by simp [toGo, hpost, hnext]
      rw [hself, if_neg ha, hsame]
      exact Nat.le_refl _
    | ticking seen =>
      have hline := hs.line d seen hpost
      have hhead := awaited_of_ticking hpost hline
      rw [toGo_of_ticking hpost, toGo_of_ticking hnext]
      split
      · rename_i hturn
        have hlt := through_act_lt hs.inLine hs.ticksDriven hline ha (hturn.trans hhead.symm)
        omega
      · have hle := (through_act_le hs.inLine hs.ticksDriven hline ha).2
        omega

theorem toGo_run (hs : s.Driven) (h : s.Loops d n) (hcalled : n < s.shutdownCount)
    (actions : List Action) : (s.run actions).toGo d ≤ s.toGo d - s.turnsFor d actions := by
  induction actions generalizing s with
  | nil => exact Nat.le_refl _
  | cons a actions ih =>
    have hstep := hs.toGo_act h hcalled a
    have hrest := ih (hs.act a) (hs.loops_act h a)
      (Nat.lt_of_lt_of_le hcalled (hs.shutdownCount_act_le a))
    simp only [run_cons, turnsFor]
    omega

/-- A driver that shutdown was called for, and that is not at a tick, never ticks again. -/
theorem ne_ticking_run (hs : s.Driven) (h : s.Loops d n) (hcalled : n < s.shutdownCount)
    (hidle : ∀ seen, s.post? d ≠ some (.ticking seen)) (actions : List Action) :
    ∀ seen, (s.run actions).post? d ≠ some (.ticking seen) := by
  induction actions generalizing s with
  | nil => exact hidle
  | cons a actions ih =>
    refine ih (hs.act a) (hs.loops_act h a) (Nat.lt_of_lt_of_le hcalled (hs.shutdownCount_act_le a)) ?_
    obtain ⟨post, hpost, hfits⟩ := h
    intro seen hticking
    by_cases ha : a.caller? = some (.driver d)
    · obtain rfl := Action.eq_drive ha
      have hround : Round d s (s.act (.drive d)).1 := s.round_takeTurn d
      cases hround with
      | idle _ _ hnext => exact hidle seen (hnext.symm.trans hticking)
      | start _ _ hnext => simp [post?_of_getElem? hnext, Driver.post] at hticking
      | leave _ _ _ hnext => simp [hnext] at hticking
      | wait h hearly | tick h hearly =>
        obtain rfl := Option.some.inj (hpost.symm.trans h)
        exact hearly (hfits ▸ hcalled)
      | resume h => exact hidle _ h
    · rw [post?_act hpost ha, ← hpost] at hticking
      exact hidle seen hticking

end Driven

/-! ### Runs -/

theorem post?_spawn (s : Scheduler) :
    s.spawn.post? s.drivers.length = some (.spawned s.shutdownCount) := by
  rw [spawn, summon_eq]
  simp [post?, Driver.post]

/-- A first poll of a shutdown calls it. -/
theorem shutdownCount_lt_poll (h : s.calls.get? k = some (.fresh .shutdown)) :
    s.shutdownCount < (s.poll k).1.shutdownCount := by
  have hpoll : s.poll k = s.callShutdown.joinLine k .shutdown := by simp [poll, h, beginCall]
  have hstand : (s.callShutdown.stand k .shutdown).calls.get? k ≠ some (.fresh .shutdown) := by
    simp [stand, Table.get?_set_self]
  rw [hpoll, shutdownCount_of_steps (steps_joinLine s.callShutdown k .shutdown) hstand, stand,
    callShutdown_eq]
  exact Nat.lt_succ_self _

namespace Driven

theorem shutdownCount_run_le (hs : s.Driven) (actions : List Action) :
    s.shutdownCount ≤ (s.run actions).shutdownCount := by
  induction actions generalizing s with
  | nil => exact Nat.le_refl _
  | cons a actions ih => exact Nat.le_trans (hs.shutdownCount_act_le a) (ih (hs.act a))

theorem loops_run (hs : s.Driven) (h : s.Loops d n) (actions : List Action) :
    (s.run actions).Loops d n := by
  induction actions generalizing s with
  | nil => exact h
  | cons a actions ih => exact ih (hs.act a) (hs.loops_act h a)

/-- A driver that was just spawned has seen the shutdown calls that there were. -/
theorem loops_spawn (s : Scheduler) : s.spawn.Loops s.drivers.length s.shutdownCount := by
  refine ⟨_, s.post?_spawn, ?_⟩
  rfl

/-- A driver that shutdown was called for ends in its turn, if it selects. -/
theorem leave_takeTurn (h : s.post? d = some (.selecting seen)) (hlate : seen < s.shutdownCount) :
    (s.takeTurn d).post? d = some .ended ∧ Keeps s (s.takeTurn d) := by
  cases s.round_takeTurn d with
  | leave _ _ hkeeps hnext => exact ⟨hnext, hkeeps⟩
  | wait h' hearly | tick h' hearly =>
    obtain rfl := Post.selecting.inj (Option.some.inj (h.symm.trans h'))
    exact absurd hlate hearly
  | idle h' | start h' | resume h' => simp [h] at h'

/-- A driver that has not begun is to run, and one that selects too once shutdown was called. -/
theorem mem_turns (hs : s.Driven) (hcalled : n < s.shutdownCount)
    (h : s.post? d = some (.spawned n) ∨ s.post? d = some (.selecting n)) : d ∈ s.turns := by
  rw [post?_eq_map] at h
  rcases h with h | h
  · obtain ⟨driver, hstands, hpost⟩ := Option.map_eq_some_iff.mp h
    refine hs.prompt d driver hstands ?_
    cases driver <;> simp [Driver.post] at hpost
    rfl
  · obtain ⟨driver, hstands, hpost⟩ := Option.map_eq_some_iff.mp h
    refine hs.prompt d driver hstands ?_
    cases driver <;> simp [Driver.post] at hpost
    · rfl
    · subst hpost
      simpa [Driver.isUrgent] using hcalled

/-- A driver has ended when it has no turn left. -/
theorem ended_of_toGo (h : s.Loops d n) (hzero : s.toGo d = 0) : s.post? d = some .ended := by
  obtain ⟨post, hpost, -⟩ := h
  cases post with
  | spawned | selecting | ticking => simp [toGo, hpost] at hzero
  | ended => exact hpost

end Driven

/-- **A driver ends after a shutdown that is called after it was spawned**, and after no other. If
shutdown was called since, the driver is to run unless it is at a tick, ends in its turn when it
selects, and never ticks again; and it has ended when those whom it waits for have had so many
turns, whatever else happens. It waits for whoever holds the chain while it is at its tick. -/
theorem run_drivers_end (checkpoints : Checkpoints) (retry : RetryPolicy) (interval : Nat)
    (synced : Option Height) (before after : List Action) :
    let s := (fresh checkpoints retry interval synced).run before
    let d := s.drivers.length
    let n := s.shutdownCount
    let t := (s.act .spawn).1.run after
    (t.post? d = some (.spawned n) ∨ t.post? d = some (.selecting n) ∨
        t.post? d = some (.ticking n) ∨ t.post? d = some .ended ∧ n < t.shutdownCount) ∧
      (∀ name, t.calls.get? (.named name) = some (.fresh .shutdown) →
        n < (t.act (.poll name)).1.shutdownCount) ∧
      (n < t.shutdownCount →
        (t.post? d = some (.spawned n) ∨ t.post? d = some (.selecting n) → d ∈ t.turns) ∧
        (t.post? d = some (.selecting n) →
          let t₁ := (t.act (.drive d)).1
          t₁.post? d = some .ended ∧ Keeps t t₁) ∧
        ((∀ seen, t.post? d ≠ some (.ticking seen)) →
          ∀ (more : List Action) seen, (t.run more).post? d ≠ some (.ticking seen)) ∧
        ∀ more : List Action, 8 * t.line.length + 2 ≤ t.turnsFor d more →
          (t.run more).post? d = some .ended) := by
  intro s d n t
  have hspawned : (s.act .spawn).1.Driven :=
    ((driven_fresh checkpoints retry interval synced).run before).act .spawn
  have hcount : n ≤ t.shutdownCount := by
    have hspawn : (s.act .spawn).1.shutdownCount = n := by
      simp only [act, spawn]
      rw [summon_eq]
    exact hspawn ▸ hspawned.shutdownCount_run_le after
  have ht : t.Driven := hspawned.run after
  have hloops : t.Loops d n := hspawned.loops_run (Driven.loops_spawn s) after
  refine ⟨?_, ?_, ?_⟩
  · obtain ⟨post, hpost, hfits⟩ := hloops
    cases post with
    | spawned m | selecting m | ticking m =>
      obtain rfl : m = n := hfits
      simp [hpost]
    | ended => exact Or.inr (Or.inr (Or.inr ⟨hpost, hfits⟩))
  · intro name hname
    exact Nat.lt_of_le_of_lt hcount (shutdownCount_lt_poll hname)
  · intro hcalled
    refine ⟨ht.mem_turns hcalled, ?_, ht.ne_ticking_run hloops hcalled, ?_⟩
    · intro hselecting
      exact Driven.leave_takeTurn hselecting hcalled
    · intro more hmore
      have hgo := ht.toGo_run hloops hcalled more
      have hmost := ht.toGo_le d
      apply Driven.ended_of_toGo (ht.loops_run hloops more)
      omega

/-- A driver is at a tick when shutdown is called. It goes on with the tick, then selects, and ends. -/
theorem run_drivers_end_of_tick :
    let before : List Action := [.own (.make "savings" "w1" {}), .offer ["savings"] .genesis]
    let asked : List Action := [.drive 0, .drive 0, .create "stop" .shutdown]
    let called := asked ++ [.poll "stop"]
    let ticked := called ++ List.replicate 5 (.drive 0)
    let more : List Action := List.replicate 18 (.drive 0)
    let s := (fresh .empty {} 200 none).run before
    let r := (s.act .spawn).1.run asked
    let t := (s.act .spawn).1.run called
    let u := (s.act .spawn).1.run ticked
    r.calls.get? (.named "stop") = some (.fresh .shutdown) ∧
      0 < (r.act (.poll "stop")).1.shutdownCount ∧ 0 < t.shutdownCount ∧
      t.post? 0 = some (.ticking 0) ∧ (t.run more).post? 0 = some .ended ∧
      u.post? 0 = some (.selecting 0) ∧ 0 ∈ u.turns ∧ (u.act (.drive 0)).1.post? 0 = some .ended ∧
      ∀ (rest : List Action) seen, (u.run rest).post? 0 ≠ some (.ticking seen) := by
  intro before asked called ticked more s r t u
  have hs : (fresh .empty {} 200 none).run before = s := rfl
  have hr : (s.act .spawn).1.run asked = r := rfl
  have ht : (s.act .spawn).1.run called = t := rfl
  have hu : (s.act .spawn).1.run ticked = u := rfl
  have hd : s.drivers.length = 0 := by decide
  have hn : s.shutdownCount = 0 := by decide
  have hasked : r.calls.get? (.named "stop") = some (.fresh .shutdown) := by decide
  have hcalled : 0 < t.shutdownCount := by decide
  have hcalled' : 0 < u.shutdownCount := by decide
  have hlength : t.line.length = 2 := by decide
  have hturns : t.turnsFor 0 more = 18 := by decide
  have hticking : t.post? 0 = some (.ticking 0) := by decide
  have hselecting : u.post? 0 = some (.selecting 0) := by decide
  obtain ⟨-, hcalls, -⟩ := run_drivers_end .empty {} 200 none before asked
  obtain ⟨-, -, hends⟩ := run_drivers_end .empty {} 200 none before called
  obtain ⟨-, -, hends'⟩ := run_drivers_end .empty {} 200 none before ticked
  rw [hs, hn, hr] at hcalls
  rw [hs, hd, hn, ht] at hends
  rw [hs, hd, hn, hu] at hends'
  obtain ⟨-, -, -, hafter⟩ := hends hcalled
  obtain ⟨hrun, hleave, hnever, -⟩ := hends' hcalled'
  refine ⟨hasked, hcalls "stop" hasked, hcalled, hticking, ?_, hselecting, hrun (Or.inr hselecting),
    (hleave hselecting).1, ?_⟩
  · apply hafter more
    rw [hlength, hturns]
  · apply hnever
    simp [hselecting]

/-- A driver that is spawned after the shutdown does not hear of it. In its turn it ticks, and as
long as shutdown is not called again it never ends. -/
theorem unended_of_spawned_late :
    let late : List Action := [.create "stop" .shutdown, .poll "stop", .spawn, .drive 0]
    let s := (fresh .empty {} 200 none).run late
    s.isShutDown = true ∧ s.drivers = [.choosing 1 0] ∧
      (s.act (.drive 0)).1.drivers = [.choosing 1 200] ∧
      ∀ more : List Action, (s.run more).shutdownCount = 1 → (s.run more).post? 0 ≠ some .ended := by
  intro late s
  have hs : s.Driven := (driven_fresh .empty {} 200 none).run late
  have hloops : s.Loops 0 1 := ⟨.selecting 1, by decide, rfl⟩
  refine ⟨by decide, by decide, by decide, ?_⟩
  intro more hcount hended
  obtain ⟨post, hpost, hfits⟩ := hs.loops_run hloops more
  obtain rfl := Option.some.inj (hpost.symm.trans hended)
  rw [hcount] at hfits
  exact Nat.lt_irrefl 1 hfits

end Scheduler

end WalletReplay
