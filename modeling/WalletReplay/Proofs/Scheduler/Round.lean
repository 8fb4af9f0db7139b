import WalletReplay.Proofs.Scheduler.Remaining
import WalletReplay.Proofs.Scheduler.Waking

/-!
# Rounds of a driver's loop

In its turn a driver goes a step round its loop: it begins; it selects, and then ends, waits, or
begins a tick; or it goes on with its tick. It ends if shutdown was called more often than it has
seen. While it is not its turn it stays where it is, but that it may be told of a wake-up.

## What is proved

* `round_takeTurn` — what a driver does in its turn.
* `standing_act` — what is not its turn leaves a driver where it stands.
* `through_act_le`, `through_act_lt` — what is not its turn leaves the tick of a driver in line, with
  no more before it; a turn of whoever holds the chain leaves less.
-/

namespace WalletReplay

open Relation

/-- Where a driver is in its loop, with the number of shutdown calls that it has seen. -/
inductive Post where
  /-- It has not run yet. -/
  | spawned (seen : Nat)
  /-- It chooses what to do next, or waits for something to do. -/
  | selecting (seen : Nat)
  /-- Its tick is in progress. -/
  | ticking (seen : Nat)
  /-- It has left the loop. -/
  | ended
  deriving DecidableEq

/-- A driver that had seen so many shutdown calls when it was spawned can be there after so many: it
has seen no other, and has ended only if there was one. -/
def Post.Fits (seen count : Nat) : Post → Prop
  | spawned m | selecting m | ticking m => m = seen
  | ended => seen < count

theorem Post.Fits.mono {post : Post} {seen count count' : Nat} (h : post.Fits seen count)
    (hle : count ≤ count') : post.Fits seen count' := by
  cases post with
  | spawned | selecting | ticking => exact h
  | ended => exact Nat.lt_of_lt_of_le h hle

namespace Driver

/-- Where a driver is in its loop. -/
def post : Driver → Post
  | spawned seen => .spawned seen
  | choosing seen _ | waiting seen _ _ => .selecting seen
  | ticking seen _ => .ticking seen
  | ended => .ended

/-- A driver as it stands, but for what it was told. -/
def untold : Driver → Driver
  | waiting seen due _ => waiting seen due false
  | driver => driver

theorem post_untold (driver : Driver) : driver.untold.post = driver.post := by
  cases driver <;> rfl

/-- Whether a driver does not have to wait for an interval or a wake-up: it has to choose, or
shutdown was called so many times that it ends. -/
def isUrgent (count : Nat) : Driver → Bool
  | spawned _ | choosing _ _ => true
  | waiting seen _ _ => seen < count
  | ticking _ _ | ended => false

theorem isUrgent_of_ticking {driver : Driver} {seen : Nat} (h : driver.post = .ticking seen)
    (count : Nat) : driver.isUrgent count = false := by
  cases driver <;> simp [post] at h
  rfl

theorem isUrgent_of_ended {driver : Driver} (h : driver.post = .ended) (count : Nat) :
    driver.isUrgent count = false := by
  cases driver <;> simp [post] at h
  rfl

end Driver

/-- The caller whose turn an action is, if it is one's turn. -/
def Action.caller? : Action → Option Caller
  | poll name => some (.named name)
  | drive d => some (.driver d)
  | _ => none

namespace Scheduler

variable {s s' t : Scheduler} {d e seen due : Nat} {driver : Driver} {a : Action}

/-- Where a driver is in its loop, if there is such a driver. -/
def post? (s : Scheduler) (d : Nat) : Option Post :=
  s.drivers[d]?.map Driver.post

/-- Where a driver stands, but for what it was told. -/
def standing (s : Scheduler) (d : Nat) : Option Driver :=
  s.drivers[d]?.map Driver.untold

theorem post?_of_getElem? (h : s.drivers[d]? = some driver) : s.post? d = some driver.post := by
  simp [post?, h]

theorem standing_of_getElem? (h : s.drivers[d]? = some driver) :
    s.standing d = some driver.untold := by
  simp [standing, h]

theorem post?_eq_map (s : Scheduler) (d : Nat) : s.post? d = (s.standing d).map Driver.post := by
  simp [post?, standing, Function.comp_def, Driver.post_untold]

theorem post?_of_standing (h : s'.standing d = s.standing d) : s'.post? d = s.post? d := by
  rw [post?_eq_map, post?_eq_map, h]

theorem standing_congr (h : s'.drivers = s.drivers) (d : Nat) : s'.standing d = s.standing d := by
  simp only [standing, h]

/-! ### What leaves a driver where it stands -/

@[simp]
theorem standing_wakeOne (s : Scheduler) (d : Nat) : s.wakeOne.standing d = s.standing d := by
  unfold wakeOne
  split
  · rfl
  · rename_i e rest _
    rw [summon_eq]
    simp only [standing, List.getElem?_modify]
    cases s.drivers[d]? with
    | none => rfl
    | some driver =>
      by_cases he : e = d
      · cases driver <;> simp [he, Driver.untold]
      · simp [he]

@[simp]
theorem standing_forgo (s : Scheduler) (e : Nat) (told : Bool) (d : Nat) :
    (s.forgo e told).standing d = s.standing d := by
  unfold forgo
  split
  · exact s.standing_wakeOne d
  · rfl

theorem standing_setDriver (hne : d ≠ e) (driver : Driver) :
    (s.setDriver e driver).standing d = s.standing d := by
  simp [standing, setDriver, List.getElem?_set_ne (Ne.symm hne)]

theorem standing_runTick (hne : d ≠ e) (seen due : Nat) :
    (s.runTick e seen due).standing d = s.standing d := by
  obtain ⟨driver, -, hrun⟩ := s.exists_runTick e seen due
  rw [hrun, standing_setDriver hne]
  exact standing_congr (poll_untouched s _).drivers d

theorem standing_pollDriver (hne : d ≠ e) : (s.pollDriver e).standing d = s.standing d := by
  unfold pollDriver
  split
  · rfl
  · rfl
  · exact standing_setDriver hne _
  · split
    · exact standing_setDriver hne _
    · split
      · exact standing_runTick hne _ _
      · split
        · exact standing_runTick hne _ _
        · exact standing_setDriver hne _
  · split
    · rw [standing_forgo, standing_setDriver hne]
    · split
      · refine (standing_runTick hne _ _).trans ?_
        show (forgo _ e _).standing d = _
        rw [standing_forgo, standing_setDriver hne]
      · split
        · exact standing_runTick hne _ _
        · rfl
  · exact standing_runTick hne _ _

theorem standing_takeTurn (hne : d ≠ e) : (s.takeTurn e).standing d = s.standing d := by
  obtain ⟨turns, -, hturn⟩ := s.exists_takeTurn e
  rw [hturn]
  exact standing_pollDriver hne

/-- Nothing happens to calls, nobody loses a turn, and at most a driver is told of a wake-up. -/
structure Aside (s s' : Scheduler) : Prop where
  line : s'.line = s.line
  calls : s'.calls = s.calls
  shutdownCount : s'.shutdownCount = s.shutdownCount
  standing : ∀ d, s'.standing d = s.standing d
  turns : s.turns ⊆ s'.turns

namespace Aside

theorem refl (s : Scheduler) : Aside s s := ⟨rfl, rfl, rfl, fun _ => rfl, List.Subset.refl _⟩

/-- A driver is woken after something else that concerns neither calls nor drivers. -/
theorem wakeOne {u : Scheduler} (h : Aside s t) (hline : u.line = t.line) (hcalls : u.calls = t.calls)
    (hcount : u.shutdownCount = t.shutdownCount) (hdrivers : u.drivers = t.drivers)
    (hturns : u.turns = t.turns) : Aside s u.wakeOne where
  line := by
    rw [wakeOne_eq]
    exact hline.trans h.line
  calls := by
    rw [wakeOne_eq]
    exact hcalls.trans h.calls
  shutdownCount := by
    rw [wakeOne_eq]
    exact hcount.trans h.shutdownCount
  standing := by
    intro d
    rw [standing_wakeOne, standing_congr hdrivers]
    exact h.standing d
  turns := by
    have hsub := u.subset_turns_wakeOne
    rw [hturns] at hsub
    exact List.Subset.trans h.turns hsub

theorem notifyCompleted (h : Aside s t) (id : TaskId) : Aside s (t.notifyCompleted id).1 := by
  rcases t.notifyCompleted_cases id with hnone | ⟨head, -, -, -, hsome⟩
  · rw [hnone]
    exact h
  · rw [hsome]
    simp only [complete]
    split
    · exact h.wakeOne rfl rfl rfl rfl rfl
    · exact h.wakeOne rfl rfl rfl rfl rfl

end Aside

theorem aside_offer (s : Scheduler) (request : Request) : Aside s (s.offer request).1 := by
  have hsame := Aside.refl s
  unfold offer
  split
  · simp only [enroll]
    split
    · exact hsame.wakeOne rfl rfl rfl rfl rfl
    · exact hsame.wakeOne rfl rfl rfl rfl rfl
  · exact hsame

theorem aside_finishDownload (s : Scheduler) : Aside s s.finishDownload.1 := by
  unfold finishDownload
  split
  · exact .refl s
  · have hended : Aside s (clearPercents { s with client := { s.client with download := none } }) :=
      ⟨rfl, rfl, rfl, fun _ => rfl, List.Subset.refl _⟩
    simp only
    split
    · exact hended
    · exact hended.notifyCompleted _

theorem drivers_cancel (s : Scheduler) (k : Caller) : (s.cancel k).1.drivers = s.drivers := by
  cases hcall : s.calls.get? k with
  | none => rw [cancel_of_none hcall]
  | some c => rw [cancel_of_some hcall]

/-- What is not its turn leaves a driver where it stands. -/
theorem standing_act (ha : a.caller? ≠ some (.driver d)) (hd : a = .spawn → d < s.drivers.length) :
    (s.act a).1.standing d = s.standing d := by
  cases a with
  | own | listen | inject | progress | setHeight | wait => rfl
  | offer handles target => exact (s.aside_offer _).standing d
  | notify task => exact ((Aside.refl s).notifyCompleted task).standing d
  | finish => exact s.aside_finishDownload.standing d
  | create name | cancel name => exact standing_congr (s.drivers_cancel (.named name)) d
  | poll name => exact standing_congr (poll_untouched s _).drivers d
  | spawn =>
    simp only [act, spawn]
    rw [summon_eq]
    simp [standing, List.getElem?_append_left (hd rfl)]
  | drive e =>
    refine standing_takeTurn ?_
    rintro rfl
    exact ha rfl

theorem lt_length_of_post? {post : Post} (h : s.post? d = some post) : d < s.drivers.length := by
  obtain ⟨driver, hd, -⟩ := Option.map_eq_some_iff.mp h
  exact (List.getElem?_eq_some_iff.mp hd).1

/-- A driver that there was not before has just been spawned. -/
theorem standing_spawn (hd : s.drivers.length ≤ d) (h : s.spawn.standing d = some driver) :
    d = s.drivers.length ∧ driver = .spawned s.shutdownCount := by
  obtain ⟨driver, hdriver, rfl⟩ := Option.map_eq_some_iff.mp h
  rw [spawn, summon_eq] at hdriver
  obtain ⟨hlt, -⟩ := List.getElem?_eq_some_iff.mp hdriver
  obtain rfl : d = s.drivers.length := by
    simp at hlt
    omega
  simp at hdriver
  subst hdriver
  exact ⟨rfl, rfl⟩

theorem post?_act {post : Post} (h : s.post? d = some post) (ha : a.caller? ≠ some (.driver d)) :
    (s.act a).1.post? d = some post := by
  rw [post?_of_standing (standing_act ha fun _ => lt_length_of_post? h)]
  exact h

/-! ### What a driver does in its turn -/

/-- Nothing differs but how drivers are woken, where they stand, and who is to run. -/
def Keeps (s s' : Scheduler) : Prop :=
  ∃ wake drivers turns, s' = { s with wake, drivers, turns }

namespace Keeps

theorem refl (s : Scheduler) : Keeps s s := ⟨s.wake, s.drivers, s.turns, rfl⟩

theorem trans (h : Keeps s t) (h' : Keeps t s') : Keeps s s' := by
  obtain ⟨wake, drivers, turns, rfl⟩ := h
  obtain ⟨wake', drivers', turns', rfl⟩ := h'
  exact ⟨wake', drivers', turns', rfl⟩

theorem line (h : Keeps s s') : s'.line = s.line := by
  obtain ⟨wake, drivers, turns, rfl⟩ := h
  rfl

theorem calls (h : Keeps s s') : s'.calls = s.calls := by
  obtain ⟨wake, drivers, turns, rfl⟩ := h
  rfl

theorem shutdownCount (h : Keeps s s') : s'.shutdownCount = s.shutdownCount := by
  obtain ⟨wake, drivers, turns, rfl⟩ := h
  rfl

end Keeps

theorem keeps_setDriver (s : Scheduler) (d : Nat) (driver : Driver) : Keeps s (s.setDriver d driver) :=
  ⟨s.wake, _, s.turns, rfl⟩

theorem keeps_forgo (s : Scheduler) (d : Nat) (driver : Driver) (told : Bool) :
    Keeps s ((s.setDriver d driver).forgo d told) := by
  rw [forgo_eq]
  exact ⟨_, _, _, rfl⟩

theorem getElem?_setDriver (hd : d < s.drivers.length) (driver : Driver) :
    (s.setDriver d driver).drivers[d]? = some driver := by
  simp [setDriver, hd]

/-- The tick of a driver was run to where it waits next; if it is over, its driver has to choose. -/
structure Ran (d seen : Nat) (s s' : Scheduler) : Prop where
  keeps : Keeps (s.poll (.driver d)).1 s'
  pending : (s.poll (.driver d)).2 = .pending → ∃ due, s'.drivers[d]? = some (.ticking seen due)
  gone : (s.poll (.driver d)).2 ≠ .pending → ∃ due, s'.drivers[d]? = some (.choosing seen due)

theorem ran_runTick (hd : d < s.drivers.length) (seen due : Nat) :
    Ran d seen s (s.runTick d seen due) := by
  have hlength : d < (s.poll (.driver d)).1.drivers.length := by
    rw [(poll_untouched s _).drivers]
    exact hd
  unfold runTick
  split
  · rename_i t hpoll
    rw [hpoll] at hlength
    refine ⟨?_, fun _ => ⟨due, getElem?_setDriver hlength _⟩, ?_⟩
    · rw [hpoll]
      exact keeps_setDriver t d _
    · rw [hpoll]
      exact fun h => absurd rfl h
  · rename_i t result hpending hpoll
    rw [hpoll] at hlength
    refine ⟨?_, ?_, fun _ => ⟨due, getElem?_setDriver hlength _⟩⟩
    · rw [hpoll]
      exact keeps_setDriver t d _
    · rw [hpoll]
      exact fun h => absurd h hpending

theorem ran_driverTick (hd : d < s.drivers.length) (seen due : Nat) :
    Ran d seen (s.create (.driver d) .tick) (s.driverTick d seen due) :=
  ran_runTick (s := s.create (.driver d) .tick) hd seen due

theorem Ran.post? (h : Ran d seen s s') :
    s'.post? d = some (.ticking seen) ∨ s'.post? d = some (.selecting seen) := by
  by_cases hpending : (s.poll (.driver d)).2 = .pending
  · obtain ⟨due, hticking⟩ := h.pending hpending
    exact Or.inl (post?_of_getElem? hticking)
  · obtain ⟨due, hchoosing⟩ := h.gone hpending
    exact Or.inr (post?_of_getElem? hchoosing)

/-- A driver that is at its tick afterwards is in line. -/
theorem Ran.mem_line (h : Ran d seen s s') (hs : s.InLine) {n : Nat}
    (hticking : s'.post? d = some (.ticking n)) : .driver d ∈ s'.line := by
  by_cases hpending : (s.poll (.driver d)).2 = .pending
  · rw [h.keeps.line]
    exact hs.mem_line_of_pending hpending
  · obtain ⟨due, hchoosing⟩ := h.gone hpending
    simp [post?_of_getElem? hchoosing, Driver.post] at hticking

/-- What a driver does in its turn. -/
inductive Round (d : Nat) (s s' : Scheduler) : Prop
  /-- There is no such driver, or it has ended. -/
  | idle (h : s.post? d = none ∨ s.post? d = some .ended) (hkeeps : Keeps s s')
      (hnext : s'.post? d = s.post? d)
  /-- It begins. -/
  | start {seen due : Nat} (h : s.post? d = some (.spawned seen)) (hkeeps : Keeps s s')
      (hnext : s'.drivers[d]? = some (.choosing seen due))
  /-- Shutdown was called after what it has seen, so it ends. -/
  | leave {seen : Nat} (h : s.post? d = some (.selecting seen)) (hlate : seen < s.shutdownCount)
      (hkeeps : Keeps s s') (hnext : s'.post? d = some .ended)
  /-- It waits. -/
  | wait {seen due : Nat} {told : Bool} (h : s.post? d = some (.selecting seen))
      (hearly : ¬ seen < s.shutdownCount) (hkeeps : Keeps s s')
      (hnext : s'.drivers[d]? = some (.waiting seen due told))
  /-- It begins a tick. -/
  | tick {seen : Nat} {t : Scheduler} (h : s.post? d = some (.selecting seen))
      (hearly : ¬ seen < s.shutdownCount) (hkeeps : Keeps s t)
      (hrun : Ran d seen (t.create (.driver d) .tick) s')
  /-- It goes on with its tick. -/
  | resume {seen : Nat} {t : Scheduler} (h : s.post? d = some (.ticking seen)) (hkeeps : Keeps s t)
      (hrun : Ran d seen t s')

theorem round_pollDriver (s : Scheduler) (d : Nat) : Round d s (s.pollDriver d) := by
  have lt_length {driver : Driver} (hd : s.drivers[d]? = some driver) : d < s.drivers.length :=
    (List.getElem?_eq_some_iff.mp hd).1
  unfold pollDriver
  split
  · rename_i hd
    exact .idle (Or.inl (by simp [post?, hd])) (.refl s) rfl
  · rename_i hd
    exact .idle (Or.inr (post?_of_getElem? hd)) (.refl s) rfl
  · rename_i seen hd
    exact .start (post?_of_getElem? hd) (keeps_setDriver s d _) (getElem?_setDriver (lt_length hd) _)
  · rename_i seen due hd
    have hlt := lt_length hd
    have hpost : s.post? d = some (.selecting seen) := post?_of_getElem? hd
    split
    · rename_i hlate
      exact .leave hpost hlate (keeps_setDriver s d _) (post?_of_getElem? (getElem?_setDriver hlt _))
    · rename_i hearly
      split
      · exact .tick hpost hearly (.refl s) (ran_driverTick hlt _ _)
      · split
        · have hunkept : Keeps s { s with wake := { s.wake with kept := false } } :=
            ⟨_, s.drivers, s.turns, rfl⟩
          refine .tick hpost hearly hunkept ?_
          apply ran_driverTick
          exact hlt
        · exact .wait hpost hearly ⟨_, _, s.turns, rfl⟩ (getElem?_setDriver hlt _)
  · rename_i seen due told hd
    have hlt := lt_length hd
    have hpost : s.post? d = some (.selecting seen) := post?_of_getElem? hd
    split
    · rename_i hlate
      refine .leave hpost hlate (keeps_forgo s d .ended told) ?_
      rw [post?_of_standing (standing_forgo _ d told d)]
      exact post?_of_getElem? (getElem?_setDriver hlt _)
    · rename_i hearly
      split
      · refine .tick hpost hearly (keeps_forgo s d (.choosing seen due) told) ?_
        refine ran_driverTick ?_ _ _
        simpa [setDriver] using hlt
      · split
        · exact .tick hpost hearly (.refl s) (ran_driverTick hlt _ _)
        · exact .wait hpost hearly (.refl s) hd
  · rename_i seen due hd
    exact .resume (post?_of_getElem? hd) (.refl s) (ran_runTick (lt_length hd) _ _)

/-- **What a driver does in its turn** is to go a step round its loop. -/
theorem round_takeTurn (s : Scheduler) (d : Nat) : Round d s (s.takeTurn d) := by
  obtain ⟨turns, -, hturn⟩ := s.exists_takeTurn d
  rw [hturn]
  have hbefore : Keeps s { s with turns := s.turns.erase d } := ⟨s.wake, s.drivers, _, rfl⟩
  have hafter (u : Scheduler) : Keeps u { u with turns } := ⟨u.wake, u.drivers, _, rfl⟩
  cases round_pollDriver { s with turns := s.turns.erase d } d with
  | idle h hkeeps hnext => exact .idle h ((hbefore.trans hkeeps).trans (hafter _)) hnext
  | start h hkeeps hnext => exact .start h ((hbefore.trans hkeeps).trans (hafter _)) hnext
  | leave h hlate hkeeps hnext => exact .leave h hlate ((hbefore.trans hkeeps).trans (hafter _)) hnext
  | wait h hearly hkeeps hnext => exact .wait h hearly ((hbefore.trans hkeeps).trans (hafter _)) hnext
  | tick h hearly hkeeps hrun =>
    exact .tick h hearly (hbefore.trans hkeeps) ⟨hrun.keeps.trans (hafter _), hrun.pending, hrun.gone⟩
  | resume h hkeeps hrun =>
    exact .resume h (hbefore.trans hkeeps) ⟨hrun.keeps.trans (hafter _), hrun.pending, hrun.gone⟩

/-! ### Ticks in line -/

/-- A driver that is not at its tick has none in progress. -/
theorem TicksDriven.eq_none_of_post {post : Post} (hs : s.TicksDriven) (h : s.post? d = some post)
    (hpost : ∀ seen, post ≠ .ticking seen) : s.calls.get? (.driver d) = none := by
  obtain ⟨driver, hd, rfl⟩ := Option.map_eq_some_iff.mp h
  refine hs.eq_none hd ?_
  rintro seen due rfl
  exact hpost seen rfl

/-- What other drivers do in their turns takes the tick of a driver out of the line no more than it
adds to what is before it. -/
theorem through_takeTurn_le (hs : s.InLine) (hticks : s.TicksDriven) (hd : .driver d ∈ s.line)
    (hne : d ≠ e) : .driver d ∈ (s.takeTurn e).line ∧
      (s.takeTurn e).through (.driver d) ≤ s.through (.driver d) := by
  have hcaller : Caller.driver d ≠ .driver e := by simpa using hne
  cases s.round_takeTurn e with
  | idle _ hkeeps | start _ hkeeps | leave _ _ hkeeps | wait _ _ hkeeps =>
    exact through_le_of_eq hkeeps.line hkeeps.calls hd
  | @tick seen t h _ hkeeps hrun =>
    have ht : t.InLine := hs.congr hkeeps.line hkeeps.calls
    have hnone : t.calls.get? (.driver e) = none := by
      rw [hkeeps.calls]
      exact hticks.eq_none_of_post h (by simp)
    obtain ⟨hmem, hle⟩ := through_le_of_eq hkeeps.line hkeeps.calls hd
    obtain ⟨hmem₁, hle₁⟩ := through_create_le ht hnone .tick hmem
    have hcreated : (t.create (.driver e) .tick).InLine := ht.make hnone rfl rfl
    obtain ⟨hmem₂, hle₂⟩ := through_poll_le hcreated hmem₁ hcaller
    obtain ⟨hmem₃, hle₃⟩ := through_le_of_eq hrun.keeps.line hrun.keeps.calls hmem₂
    exact ⟨hmem₃, by omega⟩
  | @resume seen t h hkeeps hrun =>
    have ht : t.InLine := hs.congr hkeeps.line hkeeps.calls
    obtain ⟨hmem, hle⟩ := through_le_of_eq hkeeps.line hkeeps.calls hd
    obtain ⟨hmem₁, hle₁⟩ := through_poll_le ht hmem hcaller
    obtain ⟨hmem₂, hle₂⟩ := through_le_of_eq hrun.keeps.line hrun.keeps.calls hmem₁
    exact ⟨hmem₂, by omega⟩

theorem get?_cancel_self (s : Scheduler) (k : Caller) : (s.cancel k).1.calls.get? k = none := by
  cases hcall : s.calls.get? k with
  | none =>
    rw [cancel_of_none hcall]
    exact hcall
  | some c =>
    rw [cancel_of_some hcall]
    exact Table.get?_erase_self _ _

/-- What is not its turn leaves the tick of a driver in line, with no more before it. -/
theorem through_act_le (hs : s.InLine) (hticks : s.TicksDriven) (hd : .driver d ∈ s.line)
    (ha : a.caller? ≠ some (.driver d)) : .driver d ∈ (s.act a).1.line ∧
      (s.act a).1.through (.driver d) ≤ s.through (.driver d) := by
  have hsame {t : Scheduler} (h : Aside s t) := through_le_of_eq h.line h.calls hd
  cases a with
  | own | listen | inject | progress | setHeight | wait => exact through_le_of_eq rfl rfl hd
  | offer handles target => exact hsame (s.aside_offer _)
  | notify task => exact hsame ((Aside.refl s).notifyCompleted task)
  | finish => exact hsame s.aside_finishDownload
  | create name kind =>
    obtain ⟨hmem, hle⟩ := through_cancel_le (k := .named name) hs hd (by simp)
    obtain ⟨hmem₁, hle₁⟩ :=
      through_create_le (hs.cancel (.named name)) (s.get?_cancel_self _) kind hmem
    exact ⟨hmem₁, Nat.le_trans hle₁ hle⟩
  | poll name => exact through_poll_le hs hd (by simp)
  | cancel name => exact through_cancel_le hs hd (by simp)
  | spawn =>
    simp only [act, spawn]
    rw [summon_eq]
    exact through_le_of_eq rfl rfl hd
  | drive e =>
    refine through_takeTurn_le hs hticks hd ?_
    rintro rfl
    exact ha rfl

/-- A turn of whoever holds the chain lowers what is before the tick of a driver. -/
theorem through_act_lt (hs : s.InLine) (hticks : s.TicksDriven) (hd : .driver d ∈ s.line)
    (ha : a.caller? ≠ some (.driver d)) (hhead : a.caller? = s.line.head?) :
    (s.act a).1.through (.driver d) < s.through (.driver d) := by
  have hmem := (through_act_le hs hticks hd ha).1
  have hsome : s.line.head? ≠ none := by
    intro hnone
    rw [List.head?_eq_none_iff.mp hnone] at hd
    exact List.not_mem_nil hd
  cases a with
  | poll name => exact through_poll_lt hs hhead.symm hd hmem
  | drive e =>
    have he : s.line.head? = some (.driver e) := hhead.symm
    obtain ⟨c, hc, -⟩ := (hs.mem_iff _).mp (List.mem_of_head? he)
    obtain ⟨seen, due, htick⟩ := hticks e (by simp [hc])
    have hpost : s.post? e = some (.ticking seen) := post?_of_getElem? htick
    have hround : Round e s (s.act (.drive e)).1 := s.round_takeTurn e
    cases hround with
    | idle h => simp [hpost] at h
    | start h | leave h | wait h | tick h => simp [hpost] at h
    | @resume seen t h hkeeps hrun =>
      have ht : t.InLine := hs.congr hkeeps.line hkeeps.calls
      have htd : .driver d ∈ t.line := hkeeps.line ▸ hd
      have hhead' : t.line.head? = some (.driver e) := hkeeps.line ▸ he
      have hmem' : .driver d ∈ (t.poll (.driver e)).1.line := hrun.keeps.line ▸ hmem
      rw [through_congr hrun.keeps.line hrun.keeps.calls, ← through_congr hkeeps.line hkeeps.calls]
      exact through_poll_lt ht hhead' htd hmem'
  | own | listen | offer | notify | create | cancel | spawn | inject | progress | finish | setHeight
  | wait => exact absurd hhead.symm hsome

end Scheduler

end WalletReplay
