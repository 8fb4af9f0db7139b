import WalletReplay.Proofs.Scheduler.Shift
import WalletReplay.Proofs.Scheduler.Shutdown

/-!
# Regular downloads

A regular download asks for the chain, and once it has got hold of it works with the stack that it
finds there, whichever attempt has left it. All it does is to start the network, unless that runs
already, and to ask it to download. It touches neither the queue nor any wallet, and whatever fails
and wherever it is given up, the same stack stays in the place of the chain.

Whoever holds the chain keeps the others off it, so that a network which is being asked to download
has been started and runs, though others have had their turns meanwhile.

## What is proved

* `Placed.run` — a network that is being started or asked to download is that of the stack in place.
* `poll_regular` — what a poll makes of a regular download.
* `run_regular` — regular downloads touch nothing else, and no more do their ends.
-/

namespace WalletReplay

/-- The network that is to be in the place of the chain, if work is done on one. -/
def Work.network? : Work → Option Network
  | replay _ _ (.starting n) | starting n => some ⟨n, false⟩
  | replay _ _ (.resuming n) | resuming n => some ⟨n, true⟩
  | replay _ _ _ | stopping _ | closing _ => none

namespace Work

variable {slot : Option Stack} {c : Client} {w next : Work} {network : Network}

/-- The network that is worked on is in the place of the chain. -/
def Placed (w : Work) (slot : Option Stack) : Prop :=
  ∀ network, w.network? = some network → slot.map (·.network) = some network

theorem placed_of_none (h : w.network? = none) : w.Placed slot :=
  fun network hnetwork => by simp [h] at hnetwork

/-- A network that is started runs. -/
theorem placed_setRunning {n : Nat} (h : slot.map (·.network) = some ⟨n, false⟩)
    (hw : w.network? = some ⟨n, true⟩) : w.Placed (slot.map (·.setRunning true)) := by
  intro network hnetwork
  obtain rfl := Option.some.inj (hw.symm.trans hnetwork)
  obtain ⟨stack, rfl, hstack⟩ := Option.map_eq_some_iff.mp h
  simp [Stack.setRunning, hstack]

theorem Placed.succeed (hnext : (w.succeed slot c).next = some next) (h : w.Placed slot) :
    next.Placed (w.succeed slot c).slot := by
  cases w with
  | replay task floor stage =>
    cases stage with
    | stopping | closing | creating | building =>
      obtain rfl := Option.some.inj hnext
      exact placed_of_none rfl
    | connecting store chain =>
      obtain rfl := Option.some.inj hnext
      exact fun network hnetwork => hnetwork
    | starting n =>
      obtain rfl := Option.some.inj hnext
      exact placed_setRunning (h _ rfl) rfl
    | resuming n => simp [Work.succeed, Stage.succeed] at hnext
  | starting n =>
    obtain rfl := Option.some.inj hnext
    exact placed_setRunning (h _ rfl) rfl
  | stopping stack =>
    obtain rfl := Option.some.inj hnext
    exact placed_of_none rfl
  | resuming | closing => simp [Work.succeed] at hnext

end Work

namespace Scheduler

variable {s t : Scheduler} {k : Caller} {c : Call} {w : Work}

/-! ### The network that is worked on -/

/-- Whoever begins to work on a network finds it in the place of the chain. -/
theorem placed_opening {errand : Errand} {slot : Option Stack}
    (h : t.opening errand = some (w, slot)) : w.Placed slot := by
  cases errand with
  | replay task =>
    simp only [opening] at h
    split_ifs at h
    obtain ⟨rfl, -⟩ := Prod.mk.inj (Option.some.inj h)
    refine Work.placed_of_none ?_
    cases t.slot <;> rfl
  | regular =>
    simp only [opening] at h
    split_ifs at h
    obtain ⟨stack, -, heq⟩ := Option.map_eq_some_iff.mp h
    obtain ⟨rfl, rfl⟩ := Prod.mk.inj heq
    have hnetwork : (if stack.network.running then Work.resuming stack.network.number
        else .starting stack.network.number).network? = some stack.network := by
      obtain ⟨store, chain, number, running⟩ := stack
      cases running <;> rfl
    exact fun network hw => hnetwork.symm.trans hw
  | shutdown =>
    obtain ⟨stack, -, heq⟩ := Option.map_eq_some_iff.mp h
    obtain ⟨rfl, -⟩ := Prod.mk.inj heq
    exact Work.placed_of_none rfl

/-- Whoever works on a network works on that of the stack in its place. -/
def Placed (s : Scheduler) : Prop :=
  ∀ k w, s.AtWork k w → w.Placed s.slot

theorem Placed.run (h : s.Placed) (hs : s.InLine) (hticks : s.TicksDriven) (actions : List Action) :
    (s.run actions).Placed :=
  shift_invariant (p := {})
    (fun _ hline hshift h => hshift.forall_atWork placed_opening Work.Placed.succeed hline h) hs
    hticks (along_default s actions) h

theorem placed_fresh (checkpoints : Checkpoints) (retry : RetryPolicy) (interval : Nat)
    (synced : Option Height) : (fresh checkpoints retry interval synced).Placed := by
  intro k w hw
  cases synced <;> simp [AtWork, fresh, start, startSynced, Table.get?] at hw

/-! ### What a poll makes of a regular download -/

/-- Nobody else holds the chain. -/
def FreeFor (s : Scheduler) (k : Caller) : Prop :=
  ∀ l, s.line.head? = some l → l = k

/-- What a poll makes of the regular download of a caller, and what it shows. -/
inductive RegularTurn (k : Caller) (s s' : Scheduler) : Poll → Prop where
  /-- Another holds the chain, and it waits. -/
  | wait (hheld : ¬ s.FreeFor k) (hslot : s'.slot = s.slot) (hclient : s'.client = s.client)
      (htraffic : s'.traffic = s.traffic) (hcall : s'.calls.get? k = some (.waiting .regular)) :
      RegularTurn k s s' .pending
  /-- It gets hold of the chain after a shutdown. -/
  | shutDown (hfree : s.FreeFor k) (hclosed : s.isShutDown = true) (hslot : s'.slot = s.slot)
      (hclient : s'.client = s.client) (htraffic : s'.traffic = s.traffic ++ [.acquired k])
      (hover : s'.calls.get? k = none) : RegularTurn k s s' (.done (some .shutDown))
  /-- It gets hold of the chain, and there is none. -/
  | noChain (hfree : s.FreeFor k) (hopen : s.isShutDown = false) (hnone : s.slot = none)
      (hslot : s'.slot = none) (hclient : s'.client = s.client)
      (htraffic : s'.traffic = s.traffic ++ [.acquired k]) (hover : s'.calls.get? k = none) :
      RegularTurn k s s' (.done (some .noChain))
  /-- It gets hold of the chain, and makes a client call: it starts the network if that does not
  run, and otherwise asks it to download. -/
  | begin {stack : Stack} (hfree : s.FreeFor k) (hopen : s.isShutDown = false)
      (hstack : s.slot = some stack) (hslot : s'.slot = some stack)
      (hclient : s'.client = s.client.enter) (htraffic : s'.traffic = s.traffic ++ [.acquired k])
      (hwork : s'.AtWork k (if stack.network.running then .resuming stack.network.number
        else .starting stack.network.number)) : RegularTurn k s s' .pending
  /-- The network is started, and asked to download. -/
  | started {stack : Stack} {n : Nat} (hcall : s.AtWork k (.starting n))
      (hstack : s.slot = some stack) (hnetwork : stack.network = ⟨n, false⟩)
      (hslot : s'.slot = some (stack.setRunning true))
      (hclient : s'.client = (s.clientAfter (.starting n)).enter)
      (htraffic : s'.traffic = s.traffic ++ [.answered k (.startNetwork n) true])
      (hwork : s'.AtWork k (.resuming n)) : RegularTurn k s s' .pending
  /-- The network downloads. -/
  | resumed {stack : Stack} {n : Nat} (hcall : s.AtWork k (.resuming n))
      (hstack : s.slot = some stack) (hnetwork : stack.network = ⟨n, true⟩)
      (hslot : s'.slot = some stack)
      (hclient : s'.client = { s.clientAfter (.resuming n) with download := some .regular })
      (htraffic : s'.traffic = s.traffic ++ [.answered k (.resumeDownload n) true])
      (hover : s'.calls.get? k = none) : RegularTurn k s s' (.done none)
  /-- The client fails. -/
  | failed {stack : Stack} {w : Work} (hcall : s.AtWork k w) (hstack : s.slot = some stack)
      (hnetwork : w.network? = some stack.network) (hslot : s'.slot = some stack)
      (hclient : s'.client = s.clientAfter w)
      (htraffic : s'.traffic = s.traffic ++ [.answered k w.call false])
      (hover : s'.calls.get? k = none) : RegularTurn k s s' (.done (some (.client w.call.step)))

/-- A regular download that has come to hold the chain. -/
theorem enterChain_regular (hfree : s.FreeFor k) (line : List Caller) :
    let r := enterChain { s with line } k .regular
    r.1.queue = s.queue ∧ r.1.roster = s.roster ∧ RegularTurn k s r.1 r.2 := by
  let t : Scheduler := { s with line }
  cases hshut : s.isShutDown with
  | true =>
    have ht : t.isShutDown = true := hshut
    have hturned : t.enterChain k .regular =
        ((t.record [.acquired k]).depart k, .done (some .shutDown)) := by
      simp only [enterChain, beginRegular, isShutDown_record, ht, if_true]
      rfl
    change let r := t.enterChain k .regular; _
    rw [hturned, depart_eq]
    exact ⟨rfl, rfl, .shutDown hfree hshut rfl rfl (s.traffic_acquire k)
      (Table.get?_erase_self _ _)⟩
  | false =>
    have ht : t.isShutDown = false := hshut
    rcases Option.eq_none_or_eq_some s.slot with hnone | ⟨stack, hstack⟩
    · have htnone : t.slot = none := hnone
      have hturned : t.enterChain k .regular =
          ((t.record [.acquired k]).depart k, .done (some .noChain)) := by
        simp only [enterChain, beginRegular, isShutDown_record, slot_record, ht, htnone,
          Bool.false_eq_true, if_false]
        rfl
      change let r := t.enterChain k .regular; _
      rw [hturned, depart_eq]
      exact ⟨rfl, rfl, .noChain hfree hshut hnone hnone rfl (s.traffic_acquire k)
        (Table.get?_erase_self _ _)⟩
    · have htstack : t.slot = some stack := hstack
      have hbegun : t.enterChain k .regular = (t.record [.acquired k]).work k
          (if stack.network.running then .resuming stack.network.number
            else .starting stack.network.number) := by
        simp only [enterChain, beginRegular, isShutDown_record, slot_record, ht, htstack,
          Bool.false_eq_true, if_false]
        split <;> rfl
      change let r := t.enterChain k .regular; _
      rw [hbegun]
      exact ⟨rfl, rfl, .begin hfree hshut hstack hstack rfl (s.traffic_acquire k)
        (Table.get?_set_self _ _ _)⟩

/-- A regular download that asks for the chain. -/
theorem joinLine_regular (hs : s.InLine) (hcall : s.calls.get? k = some (.fresh .regular)) :
    let r := s.joinLine k .regular
    r.1.queue = s.queue ∧ r.1.roster = s.roster ∧ RegularTurn k s r.1 r.2 := by
  by_cases hline : s.line = []
  · have hfree : s.FreeFor k := fun l hl => by simp [hline] at hl
    have hjoin : s.joinLine k .regular = enterChain { s with line := s.line ++ [k] } k .regular := by
      simp [joinLine, hline]
    rw [hjoin]
    exact enterChain_regular hfree _
  · obtain ⟨l, hl⟩ := Option.isSome_iff_exists.mp (List.isSome_head?.mpr hline)
    have hheld : ¬ s.FreeFor k := by
      intro hfree
      obtain rfl := hfree l hl
      exact hs.notMem_of_fresh hcall (List.mem_of_mem_head? hl)
    have hjoin : s.joinLine k .regular = (s.stand k .regular, .pending) := by
      simp [joinLine, hline, stand]
    rw [hjoin]
    exact ⟨rfl, rfl, .wait hheld rfl rfl rfl (Table.get?_set_self _ _ _)⟩

/-- A regular download that the client fails. -/
theorem abort_regular (hs : s.Placed) (hw : s.AtWork k w) {network : Network}
    (hnetwork : w.network? = some network) (hkind : w.kind = .regular) :
    let r := (s.hear k w false).abort k w
    r.1.queue = s.queue ∧ r.1.roster = s.roster ∧ RegularTurn k s r.1 r.2 := by
  obtain ⟨stack, hstack, rfl⟩ := Option.map_eq_some_iff.mp (hs k w hw network hnetwork)
  have hslot : w.slotAfterFailure s.slot = s.slot := by
    cases w with
    | replay => simp [Work.kind] at hkind
    | starting | resuming | stopping | closing => rfl
  simp only [abort_eq]
  rw [depart_eq]
  exact ⟨rfl, rfl, .failed hw hstack hnetwork (hslot.trans hstack) rfl (s.traffic_hear k w false)
    (Table.get?_erase_self _ _)⟩

/-- A regular download that the client answers. -/
theorem pursue_regular (hs : s.Placed) (hw : s.AtWork k w) (hkind : w.kind = .regular) :
    let r := s.pursue k w
    r.1.queue = s.queue ∧ r.1.roster = s.roster ∧ RegularTurn k s r.1 r.2 := by
  rw [pursue_eq]
  cases w with
  | replay | stopping | closing => simp [Work.kind] at hkind
  | starting n =>
    obtain ⟨stack, hstack, hnetwork⟩ := Option.map_eq_some_iff.mp (hs k _ hw _ rfl)
    split
    · exact ⟨rfl, rfl, .started hw hstack hnetwork
        (congrArg (Option.map (Stack.setRunning · true)) hstack) rfl (s.traffic_hear k _ true)
        (Table.get?_set_self _ _ _)⟩
    · exact abort_regular hs hw rfl hkind
  | resuming n =>
    obtain ⟨stack, hstack, hnetwork⟩ := Option.map_eq_some_iff.mp (hs k _ hw _ rfl)
    split
    · have hadvance : ((s.hear k (.resuming n) true).advance k (.resuming n)) =
          (((s.hear k (.resuming n) true).setDownload (some .regular)).depart k, .done none) := rfl
      rw [hadvance, depart_eq]
      exact ⟨rfl, rfl, .resumed hw hstack hnetwork hstack rfl (s.traffic_hear k _ true)
        (Table.get?_erase_self _ _)⟩
    · exact abort_regular hs hw rfl hkind

/-- **What a poll makes of a regular download.** -/
theorem poll_regular (hs : s.InLine) (hplaced : s.Placed) (hcall : s.calls.get? k = some c)
    (hkind : c.kind = .regular) :
    let r := s.poll k
    r.1.queue = s.queue ∧ r.1.roster = s.roster ∧ RegularTurn k s r.1 r.2 := by
  cases c with
  | fresh kind =>
    obtain rfl : kind = .regular := hkind
    simp only [poll, hcall]
    exact joinLine_regular hs hcall
  | waiting errand =>
    obtain rfl : errand = .regular := by cases errand <;> simp [Call.kind, Errand.kind] at hkind ⊢
    simp only [poll, hcall]
    split
    · rename_i hhead
      exact enterChain_regular (fun l hl => Option.some.inj (hl.symm.trans hhead)) s.line
    · rename_i hhead
      obtain ⟨l, hl⟩ : ∃ l, s.line.head? = some l :=
        Option.isSome_iff_exists.mp (List.isSome_head?.mpr
          (List.ne_nil_of_mem ((hs.mem_iff k).mpr ⟨_, hcall, rfl⟩)))
      exact ⟨rfl, rfl, .wait (fun hfree => hhead (hfree l hl ▸ hl)) rfl rfl rfl hcall⟩
  | working w =>
    have htask : w.task? = none := by
      cases w with
      | replay => simp [Call.kind, Work.kind] at hkind
      | starting | resuming | stopping | closing => rfl
    simp only [poll, hcall, receive_of_no_task htask]
    exact pursue_regular hplaced hcall hkind

/-! ### The end of a regular download -/

/-- **Regular downloads touch nothing else.** In any state of any run, a poll of a regular download
leaves the queue and all wallets alone, and makes of the chain and of the client what `RegularTurn`
tells: at most the network in its place is started and asked to download. To give it up changes
nothing of that. When it has caught up, at most the percentages of wallets cease to be shown. -/
theorem run_regular (checkpoints : Checkpoints) (retry : RetryPolicy) (interval : Nat)
    (synced : Option Height) (actions : List Action) :
    let s := (fresh checkpoints retry interval synced).run actions
    (∀ k c, s.calls.get? k = some c → c.kind = .regular →
      let t := (s.poll k).1
      let u := (s.cancel k).1
      (t.queue = s.queue ∧ t.roster = s.roster ∧ RegularTurn k s t (s.poll k).2) ∧
        u.queue = s.queue ∧ u.roster = s.roster ∧ u.slot = s.slot ∧ u.traffic = s.traffic ∧
        u.client = c.letGo s.client) ∧
    (s.client.download = some .regular →
      let t := s.finishDownload.1
      t = { s with
        client := { s.client with download := none }
        roster := { s.roster with ledger := t.roster.ledger } } ∧
      ∀ w, t.roster.ledger.get w = s.roster.ledger.get w ∨
        t.roster.ledger.get w = (s.roster.ledger.get w).setPercent none) := by
  intro s
  have hline₀ := inLine_fresh checkpoints retry interval synced
  have hticks₀ := ticksDriven_fresh checkpoints retry interval synced
  have hline : s.InLine := hline₀.run hticks₀ actions
  have hplaced : s.Placed :=
    (placed_fresh checkpoints retry interval synced).run hline₀ hticks₀ actions
  refine ⟨fun k c hcall hkind => ⟨poll_regular hline hplaced hcall hkind, ?_⟩, fun hdownload => ?_⟩
  · rw [cancel_of_some hcall]
    exact ⟨rfl, rfl, rfl, rfl, rfl⟩
  · have hfinish : s.finishDownload.1 =
        clearPercents { s with client := { s.client with download := none } } := by
      simp only [finishDownload, hdownload]
    rw [hfinish]
    exact ⟨rfl, get_clearPercents _⟩

/-- An attempt has left a stack whose network could not be started. The regular download starts it
and asks it to download, and the task waits to be tried again, also when the download has caught
up. -/
theorem run_regular_of_failure :
    let before : List Action := [.own (.make "savings" "w1" {}), .offer ["savings"] .genesis,
      .inject .startNetwork 1, .create "tick" .tick, .poll "tick", .poll "tick", .poll "tick",
      .poll "tick", .poll "tick", .create "sync" .regular, .poll "sync"]
    let after : List Action := before ++ [.poll "sync", .poll "sync"]
    let stack : Stack := ⟨⟨0, .genesis⟩, ⟨["w1"]⟩, ⟨0, false⟩⟩
    let s := (fresh .empty {} 200 none).run before
    let t := (s.poll (.named "sync")).1
    s.calls.get? (.named "sync") = some (.working (.starting 0)) ∧ s.slot = some stack ∧
      t.queue = s.queue ∧ t.roster = s.roster ∧
      RegularTurn (.named "sync") s t (s.poll (.named "sync")).2 ∧
      t.slot = some (stack.setRunning true) ∧ t.AtWork (.named "sync") (.resuming 0) ∧
      ((fresh .empty {} 200 none).run after).client.download = some .regular ∧
      ((fresh .empty {} 200 none).run after).finishDownload.1.queue = s.queue := by
  intro before after stack s t
  have hcall : s.calls.get? (.named "sync") = some (.working (.starting 0)) := by decide +kernel
  have hstack : s.slot = some stack := by decide +kernel
  have hkept : ((fresh .empty {} 200 none).run after).queue = s.queue := by decide +kernel
  have hdownload : ((fresh .empty {} 200 none).run after).client.download = some .regular := by
    decide +kernel
  obtain ⟨⟨hqueue, hroster, hturn⟩, -⟩ :=
    (run_regular .empty {} 200 none before).1 (.named "sync") (.working (.starting 0)) hcall rfl
  obtain ⟨hfinish, -⟩ := (run_regular .empty {} 200 none after).2 hdownload
  have hstarted : t.slot = some (stack.setRunning true) := by decide +kernel
  have hwork : t.AtWork (.named "sync") (.resuming 0) := by
    unfold AtWork
    decide +kernel
  exact ⟨hcall, hstack, hqueue, hroster, hturn, hstarted, hwork, hdownload,
    (congrArg Scheduler.queue hfinish).trans hkept⟩

end Scheduler

end WalletReplay
