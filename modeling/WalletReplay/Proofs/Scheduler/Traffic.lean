import WalletReplay.Proofs.Scheduler.Live

/-!
# The traffic with the client

Two kinds of entries in the journal are about the chain client: a caller gets hold of the chain, and
the client answers a call. Of all moves only steps of a call that holds the chain add such an entry,
and each adds one. An action polls at most one call, so it adds at most one entry, and what else it
does lets nobody begin to work.

## What is proved

* `Move.cases` — a move is silent, or a loud step, or gives up a call that waits for the client.
* `act_quiet_or_loud` — an action is quiet, or has one loud step.
* `act_adds` — what an action adds to the journal.
-/

namespace WalletReplay

/-- Whether an occurrence is about the chain client. -/
def Occurrence.isTraffic : Occurrence → Bool
  | acquired _ | answered _ _ _ => true
  | accepted _ | dispatched _ _ | attempted _ | failed _ _ _ | completed _ | retired _
  | heard _ _ => false

/-- Whether nothing but a new store gives the chain of the client a height. -/
def Terms.KeepsHeight (p : Terms) : Prop :=
  (∀ c, ¬ p.progress c) ∧ ¬ p.setHeight

/-- Nothing is made by the client, and at most its download ends and its chain gets another height,
each under terms that allow it. -/
structure Client.Stays (p : Terms) (c c' : Client) : Prop where
  stores : c'.storeCount = c.storeCount
  networks : c'.networkCount = c.networkCount
  listeners : c'.listeners = c.listeners
  download : c'.download = c.download ∨ p.report ∧ c'.download = none
  height : p.KeepsHeight → c'.bestHeight = c.bestHeight

/-- Nothing happens to the client that counts, and no call begins or ends. -/
structure Client.Rests (p : Terms) (c c' : Client) : Prop extends c.Stays p c' where
  inFlight : c'.inFlight = c.inFlight
  maxInFlight : c'.maxInFlight = c.maxInFlight

namespace Client

variable {p q : Terms} {c c' c'' : Client}

theorem Stays.refl (p : Terms) (c : Client) : c.Stays p c :=
  ⟨rfl, rfl, rfl, Or.inl rfl, fun _ => rfl⟩

theorem Stays.trans (h : c.Stays p c') (h' : c'.Stays p c'') : c.Stays p c'' where
  stores := h'.stores.trans h.stores
  networks := h'.networks.trans h.networks
  listeners := h'.listeners.trans h.listeners
  download := by
    rcases h'.download with heq | hended
    · rw [heq]
      exact h.download
    · exact Or.inr hended
  height hkeeps := (h'.height hkeeps).trans (h.height hkeeps)

/-- Only whether the terms allow reports and keep the height counts. -/
theorem Stays.mono (h : c.Stays q c') (hreport : q.report → p.report)
    (hheight : p.KeepsHeight → q.KeepsHeight) : c.Stays p c' :=
  ⟨h.stores, h.networks, h.listeners, h.download.imp_right (And.imp_left hreport),
    fun hp => h.height (hheight hp)⟩

theorem stays_enter (p : Terms) (c : Client) : c.Stays p c.enter :=
  ⟨rfl, rfl, rfl, Or.inl rfl, fun _ => rfl⟩

theorem stays_leave (p : Terms) (c : Client) : c.Stays p c.leave :=
  ⟨rfl, rfl, rfl, Or.inl rfl, fun _ => rfl⟩

theorem stays_answer (p : Terms) (c : Client) (step : ClientStep) :
    c.Stays p (c.answer step).1 := by
  unfold answer
  split <;> exact ⟨rfl, rfl, rfl, Or.inl rfl, fun _ => rfl⟩

theorem Rests.refl (p : Terms) (c : Client) : c.Rests p c :=
  ⟨.refl p c, rfl, rfl⟩

end Client

theorem Client.inFlight_answer (c : Client) (step : ClientStep) :
    (c.answer step).1.inFlight = c.inFlight ∧ (c.answer step).1.maxInFlight = c.maxInFlight := by
  unfold Client.answer
  split <;> exact ⟨rfl, rfl⟩

/-- What comes of an answer begins and ends no call of the client. -/
theorem Work.inFlight_succeed (slot : Option Stack) (c : Client) (w : Work) :
    (w.succeed slot c).client.inFlight = c.inFlight ∧
      (w.succeed slot c).client.maxInFlight = c.maxInFlight := by
  cases w with
  | replay task floor stage => cases stage <;> exact ⟨rfl, rfl⟩
  | starting | resuming | stopping | closing => exact ⟨rfl, rfl⟩

namespace Scheduler

open Relation

variable {s s' t t' : Scheduler} {k : Caller} {p : Terms}

/-- Who got hold of the chain and what the client answered, oldest first. -/
def traffic (s : Scheduler) : List Occurrence :=
  s.journal.filter Occurrence.isTraffic

/-- Whether the call of a caller holds the chain and waits for the client. -/
def AtWork (s : Scheduler) (k : Caller) (w : Work) : Prop :=
  s.calls.get? k = some (.working w)

/-- A call does one thing at a time. -/
theorem AtWork.unique {v w : Work} (hv : s.AtWork k v) (hw : s.AtWork k w) : v = w := by
  rw [AtWork, hv] at hw
  exact Call.working.inj (Option.some.inj hw)

theorem traffic_of_journal (news : List Occurrence) {new : List Occurrence}
    (h : s'.journal = s.journal ++ news) (hnew : news.filter Occurrence.isTraffic = new) :
    s'.traffic = s.traffic ++ new := by
  rw [traffic, h, List.filter_append, hnew]
  rfl

/-! ### Silent moves -/

/-- A move that has nothing to do with the client: nobody begins to work or ceases to. -/
structure Silent (p : Terms) (s s' : Scheduler) : Prop where
  traffic : s'.traffic = s.traffic
  slot : s'.slot = s.slot
  client : s.client.Rests p s'.client
  working : ∀ l w, s'.AtWork l w ↔ s.AtWork l w

/-- What is recorded is not about the client. -/
theorem silent_of_news (news : List Occurrence) (hjournal : s'.journal = s.journal ++ news)
    (hnews : news.filter Occurrence.isTraffic = []) (hslot : s'.slot = s.slot)
    (hclient : s.client.Rests p s'.client) (hworking : ∀ l w, s'.AtWork l w ↔ s.AtWork l w) :
    Silent p s s' :=
  ⟨by rw [traffic_of_journal _ hjournal hnews, List.append_nil], hslot, hclient, hworking⟩

/-- Nothing is recorded. -/
theorem silent_of_eq (hjournal : s'.journal = s.journal) (hslot : s'.slot = s.slot)
    (hclient : s.client.Rests p s'.client) (hworking : ∀ l w, s'.AtWork l w ↔ s.AtWork l w) :
    Silent p s s' :=
  silent_of_news [] (by rw [hjournal, List.append_nil]) rfl hslot hclient hworking

theorem atWork_congr (hcalls : s'.calls = s.calls) (l : Caller) (w : Work) :
    s'.AtWork l w ↔ s.AtWork l w := by
  rw [AtWork, AtWork, hcalls]

/-- A call that is not at work moves on to something else than work. -/
theorem atWork_of_set {c : Call} (hk : ∀ w, ¬ s.AtWork k w) (hc : ∀ w, c ≠ .working w)
    (hcalls : s'.calls = s.calls.set k c) (l : Caller) (w : Work) :
    s'.AtWork l w ↔ s.AtWork l w := by
  rw [AtWork, hcalls, Table.get?_set]
  split_ifs with hl
  · subst hl
    simp [hc w, hk w]
  · rfl

/-- A call that is not at work is over. -/
theorem atWork_of_erase (hk : ∀ w, ¬ s.AtWork k w) (hcalls : s'.calls = s.calls.erase k)
    (l : Caller) (w : Work) : s'.AtWork l w ↔ s.AtWork l w := by
  rw [AtWork, hcalls, Table.get?_erase]
  split_ifs with hl
  · subst hl
    simp [hk w]
  · rfl

theorem not_atWork_of_get? {c : Option Call} (h : s.calls.get? k = c)
    (hc : ∀ w, c ≠ some (.working w)) (w : Work) : ¬ s.AtWork k w := by
  rw [AtWork, h]
  exact hc w

/-- What busy listeners are told is not about the client. -/
theorem filter_isTraffic_told (told : List (String × Bool)) :
    (told.map fun h => Occurrence.heard h.1 h.2).filter Occurrence.isTraffic = [] := by
  rw [List.filter_map]
  exact List.map_eq_nil_iff.mpr (List.filter_eq_nil_iff.mpr fun _ _ => Bool.false_ne_true)

/-! ### Loud steps -/

/-- What a caller that holds the chain waits for first on its errand, and what it leaves in the
place of the chain; none if it is turned away. -/
def opening (s : Scheduler) : Errand → Option (Work × Option Stack)
  | .replay task =>
    if s.isShutDown then none else some (.attempt task s.slot s.bestHeight?, none)
  | .regular =>
    if s.isShutDown then none
    else s.slot.map fun stack =>
      (if stack.network.running then .resuming stack.network.number
        else .starting stack.network.number, some stack)
  | .shutdown => s.slot.map fun stack => (.stopping stack, none)

/-- The client once it has answered what is waited for. -/
def clientAfter (s : Scheduler) (w : Work) : Client :=
  (s.client.leave.answer w.call.step).1

/-- A step that is about the client, with what it makes of the chain's place, of the client, of the
calls and of the traffic. -/
inductive Loud (k : Caller) (s s' : Scheduler) : Prop where
  /-- The call gets hold of the chain and is turned away. -/
  | decline {errand : Errand} (hcall : s.Holds k errand) (hopening : s.opening errand = none)
      (hslot : s'.slot = s.slot) (hclient : s'.client = s.client)
      (hcalls : s'.calls = s.calls.erase k) (htraffic : s'.traffic = s.traffic ++ [.acquired k])
  /-- The call gets hold of the chain and begins to work. -/
  | begin {errand : Errand} {w : Work} (hcall : s.Holds k errand)
      (hopening : s.opening errand = some (w, s'.slot)) (hclient : s'.client = s.client.enter)
      (hcalls : s'.calls = s.calls.set k (.working w))
      (htraffic : s'.traffic = s.traffic ++ [.acquired k])
  /-- The client has answered well, and the call goes on. -/
  | goOn {w next : Work} (hcall : s.AtWork k w)
      (hnext : (w.succeed s.slot (s.clientAfter w)).next = some next)
      (hslot : s'.slot = (w.succeed s.slot (s.clientAfter w)).slot)
      (hclient : s'.client = (w.succeed s.slot (s.clientAfter w)).client.enter)
      (hcalls : s'.calls = s.calls.set k (.working next))
      (htraffic : s'.traffic = s.traffic ++ [.answered k w.call true])
  /-- The client has answered well, and the call is over. -/
  | finish {w : Work} (hcall : s.AtWork k w)
      (hnext : (w.succeed s.slot (s.clientAfter w)).next = none)
      (hslot : s'.slot = (w.succeed s.slot (s.clientAfter w)).slot)
      (hclient : s'.client = (w.succeed s.slot (s.clientAfter w)).client)
      (hcalls : s'.calls = s.calls.erase k)
      (htraffic : s'.traffic = s.traffic ++ [.answered k w.call true])
  /-- The client has failed, and the call is over. -/
  | fail {w : Work} (hcall : s.AtWork k w) (hslot : s'.slot = w.slotAfterFailure s.slot)
      (hclient : s'.client = s.clientAfter w) (hcalls : s'.calls = s.calls.erase k)
      (htraffic : s'.traffic = s.traffic ++ [.answered k w.call false])

theorem Loud.length_traffic (h : Loud k s s') : s'.traffic.length = s.traffic.length + 1 := by
  cases h with
  | decline _ _ _ _ _ htraffic | begin _ _ _ _ htraffic | goOn _ _ _ _ _ htraffic
  | finish _ _ _ _ _ htraffic | fail _ _ _ _ htraffic =>
    rw [htraffic, List.length_append, List.length_singleton]

@[simp]
theorem traffic_depart (s : Scheduler) (k : Caller) : (s.depart k).traffic = s.traffic := by
  rw [depart_eq]
  rfl

theorem traffic_acquire (s : Scheduler) (k : Caller) :
    (s.record [.acquired k]).traffic = s.traffic ++ [.acquired k] :=
  traffic_of_journal _ rfl rfl

theorem traffic_hear (s : Scheduler) (k : Caller) (w : Work) (succeeded : Bool) :
    (s.hear k w succeeded).traffic = s.traffic ++ [.answered k w.call succeeded] :=
  traffic_of_journal [.answered k w.call succeeded] rfl rfl

@[simp]
theorem traffic_countFailure (s : Scheduler) (task : Option Task) :
    (s.countFailure task).traffic = s.traffic := by
  cases task with
  | none => rfl
  | some task => exact (traffic_of_journal _ rfl rfl).trans (List.append_nil _)

/-- A call that is turned away changes nothing else. -/
theorem loud_decline {errand : Errand} (hcall : s.Holds k errand)
    (hopening : s.opening errand = none) (ht : t.slot = s.slot) (htclient : t.client = s.client)
    (htcalls : t.calls = s.calls) (httraffic : t.traffic = s.traffic ++ [.acquired k]) :
    Loud k s (t.depart k) := by
  refine .decline hcall hopening ?_ ?_ ?_ (by rw [traffic_depart, httraffic])
  · rw [depart_eq, ht]
  · rw [depart_eq, htclient]
  · rw [calls_depart, htcalls]

/-- A step is silent, if the call has not begun, or loud. -/
theorem Step.silent_or_loud (h : Step k s s') :
    (∃ kind, s.calls.get? k = some (.fresh kind)) ∧ Silent p s s' ∨ Loud k s s' := by
  cases h with
  | rest hcall =>
    exact Or.inl ⟨⟨_, hcall⟩, silent_of_eq rfl rfl (.refl p _)
      (atWork_of_erase (not_atWork_of_get? hcall (by simp)) rfl)⟩
  | retire hcall =>
    refine Or.inl ⟨⟨_, hcall⟩, silent_of_news _ rfl ?_ rfl (.refl p _) (atWork_congr rfl)⟩
    cases s.queue.retire.2 <;> rfl
  | dispatch hcall =>
    exact Or.inl ⟨⟨_, hcall⟩, silent_of_news _ rfl rfl rfl (.refl p _)
      (atWork_of_set (not_atWork_of_get? hcall (by simp)) (by simp) rfl)⟩
  | askRegular hcall =>
    exact Or.inl ⟨⟨_, hcall⟩, silent_of_eq rfl rfl (.refl p _)
      (atWork_of_set (not_atWork_of_get? hcall (by simp)) (by simp) rfl)⟩
  | askShutdown hcall =>
    rw [callShutdown_eq]
    exact Or.inl ⟨⟨_, hcall⟩, silent_of_eq rfl rfl (.refl p _)
      (atWork_of_set (not_atWork_of_get? hcall (by simp)) (by simp) rfl)⟩
  | refuse hcall hclosed =>
    exact Or.inr (loud_decline hcall (by simp [opening, hclosed]) rfl rfl rfl
      (traffic_of_journal [.acquired k] rfl rfl))
  | @attempt task hcall hopen =>
    exact Or.inr (.begin hcall (by simp [opening, hopen, engage, work, record]) rfl rfl
      (traffic_of_journal [.acquired k, .attempted task.id] rfl rfl))
  | declineRegular hcall h =>
    refine Or.inr (loud_decline hcall ?_ rfl rfl rfl (traffic_acquire s k))
    rcases h with hclosed | hslot
    · simp [opening, hclosed]
    · simp [opening, hslot]
  | beginRegular hcall hopen hslot =>
    exact Or.inr (.begin hcall (by simp [opening, hopen, hslot, engage, work, record]) rfl rfl
      (traffic_acquire s k))
  | declineShutdown hcall hslot =>
    exact Or.inr (loud_decline hcall (by simp [opening, hslot]) rfl rfl rfl (traffic_acquire s k))
  | beginShutdown hcall hslot =>
    exact Or.inr (.begin hcall (by simp [opening, hslot, engage, work, record]) rfl rfl
      (traffic_of_journal [.acquired k] rfl rfl))
  | @succeed w hcall =>
    cases hnext : (w.succeed s.slot (s.hear k w true).client).next with
    | some next => exact Or.inr (.goOn hcall hnext rfl rfl rfl (s.traffic_hear k w true))
    | none =>
      rw [goOn, depart_eq]
      exact Or.inr (.finish hcall hnext rfl rfl rfl (s.traffic_hear k w true))
  | @fail w hcall =>
    refine Or.inr (.fail hcall ?_ ?_ ?_ ?_)
    · rw [depart_eq, countFailure_eq]
    · rw [depart_eq, countFailure_eq]
      rfl
    · rw [calls_depart, countFailure_eq]
      rfl
    · rw [traffic_depart, traffic_countFailure]
      exact s.traffic_hear k w false

/-! ### Who is at work -/

theorem Loud.others (h : Loud k s s') {l : Caller} (hl : l ≠ k) :
    s'.calls.get? l = s.calls.get? l := by
  cases h with
  | decline _ _ _ _ hcalls | finish _ _ _ _ hcalls | fail _ _ _ hcalls =>
    rw [hcalls, Table.get?_erase_of_ne _ hl]
  | begin _ _ _ hcalls | goOn _ _ _ _ hcalls => rw [hcalls, Table.get?_set_of_ne _ hl]

/-- A loud step is a step of the call that holds the chain. -/
theorem Loud.head (hs : s.InLine) (h : Loud k s s') : s.line.head? = some k := by
  cases h with
  | decline hcall | begin hcall => exact hcall.2
  | goOn hcall | finish hcall | fail hcall => exact hs.head_of_working hcall

/-- After a loud step only the call that took it is at work. -/
theorem Loud.eq_of_atWork (hs : s.InLine) (h : Loud k s s') {l : Caller} {w : Work}
    (hw : s'.AtWork l w) : l = k := by
  by_contra hl
  rw [AtWork, h.others hl] at hw
  exact hl (hs.eq_of_working (h.head hs) hw)

/-- While a caller holds the chain that has not yet noticed, nobody is at work. -/
theorem Holds.not_atWork (hs : s.InLine) {errand : Errand} (h : s.Holds k errand) (l : Caller)
    (w : Work) : ¬ s.AtWork l w := by
  intro hw
  obtain rfl := hs.eq_of_working h.2 hw
  rw [AtWork, h.1] at hw
  simp at hw

theorem not_atWork_of_erase (h : s'.calls = s.calls.erase k) (w : Work) : ¬ s'.AtWork k w := by
  rw [AtWork, h, Table.get?_erase_self]
  simp

/-- When the call that took a loud step is over, nobody is at work. -/
theorem Loud.not_atWork (hs : s.InLine) (h : Loud k s s') (hcalls : s'.calls = s.calls.erase k)
    (l : Caller) (w : Work) : ¬ s'.AtWork l w := by
  intro hw
  obtain rfl := h.eq_of_atWork hs hw
  exact not_atWork_of_erase hcalls w hw

theorem atWork_of_set_working {w : Work} (h : s'.calls = s.calls.set k (.working w)) :
    s'.AtWork k w := by
  rw [AtWork, h, Table.get?_set_self]

/-! ### Moves -/

/-- **A move is silent, or a loud step, or gives up a call that waits for the client.** -/
theorem Move.cases (h : Move p s s') : Silent p s s' ∨ (∃ k, Loud k s s') ∨
    p.drop ∧ ∃ k w, s.AtWork k w ∧ s' = (s.cancel k).1 := by
  cases h with
  | step h => exact h.silent_or_loud.imp And.right fun h => Or.inl ⟨_, h⟩
  | create kind h =>
    exact Or.inl (silent_of_eq rfl rfl (.refl p _)
      (atWork_of_set (not_atWork_of_get? h (by simp)) (by simp) rfl))
  | discard h =>
    rw [cancel_of_some h]
    exact Or.inl (silent_of_eq rfl rfl (.refl p _)
      (atWork_of_erase (not_atWork_of_get? h (by simp)) rfl))
  | @drop k c hp h hbegun =>
    cases c with
    | fresh kind => simp [Call.isBegun] at hbegun
    | waiting errand =>
      rw [cancel_of_some h]
      exact Or.inl (silent_of_eq rfl rfl (.refl p _)
        (atWork_of_erase (not_atWork_of_get? h (by simp)) rfl))
    | working w => exact Or.inr (Or.inr ⟨hp, k, w, h, rfl⟩)
  | enroll =>
    obtain ⟨told, hjournal⟩ := journal_enroll s _
    rw [enroll_eq] at hjournal ⊢
    exact Or.inl (silent_of_news _ hjournal (filter_isTraffic_told told) rfl (.refl p _)
      (atWork_congr rfl))
  | @complete head =>
    obtain ⟨told, hjournal⟩ :=
      journal_complete { s with queue := { s.queue with phase := .completing head.id } } head
    rw [complete_eq] at hjournal ⊢
    exact Or.inl (silent_of_news _ hjournal (filter_isTraffic_told told) rfl (.refl p _)
      (atWork_congr rfl))
  | endDownload _ hp =>
    exact Or.inl (silent_of_eq rfl rfl ⟨⟨rfl, rfl, rfl, Or.inr ⟨hp, rfl⟩, fun _ => rfl⟩, rfl, rfl⟩
      (atWork_congr rfl))
  | progress height left hp =>
    exact Or.inl (silent_of_eq rfl rfl
      ⟨⟨rfl, rfl, rfl, Or.inl rfl, fun hkeeps => absurd hp (hkeeps.1 _)⟩, rfl, rfl⟩
      (atWork_congr rfl))
  | setHeight height hp =>
    exact Or.inl (silent_of_eq rfl rfl
      ⟨⟨rfl, rfl, rfl, Or.inl rfl, fun hkeeps => absurd hp hkeeps.2⟩, rfl, rfl⟩
      (atWork_congr rfl))
  | own | listen | inject | wait | drivers =>
    exact Or.inl (silent_of_eq rfl rfl ⟨⟨rfl, rfl, rfl, Or.inl rfl, fun _ => rfl⟩, rfl, rfl⟩
      (atWork_congr rfl))

theorem Step.length_traffic_le (h : Step k s s') : s'.traffic.length ≤ s.traffic.length + 1 := by
  rcases h.silent_or_loud (p := {}) with ⟨-, h⟩ | h
  · rw [h.traffic]
    exact Nat.le_succ _
  · exact Nat.le_of_eq h.length_traffic

theorem Move.traffic_eq_or_loud (h : Move p s s') : s'.traffic = s.traffic ∨ ∃ k, Loud k s s' := by
  rcases h.cases with h | h | ⟨-, k, w, hcall, rfl⟩
  · exact Or.inl h.traffic
  · exact Or.inr h
  · exact Or.inl (by rw [cancel_of_some hcall]; rfl)

/-! ### Quiet moves -/

/-- A move that adds nothing to the traffic. -/
def Hushed (p : Terms) (s s' : Scheduler) : Prop :=
  Move p s s' ∧ s'.traffic = s.traffic

/-- Nobody begins to work without anything being added. -/
theorem Hushed.atWork (h : Hushed p s s') {l : Caller} {w : Work} (hw : s'.AtWork l w) :
    s.AtWork l w := by
  rcases h.1.cases with hsilent | ⟨k, hloud⟩ | ⟨-, k, v, hcall, rfl⟩
  · exact (hsilent.working l w).mp hw
  · have hlength := hloud.length_traffic
    rw [h.2] at hlength
    omega
  · rw [AtWork, cancel_of_some hcall, Table.get?_erase] at hw
    split_ifs at hw
    exact hw

/-- Moves that add nothing to the traffic, one after another. -/
def Quiet (p : Terms) : Scheduler → Scheduler → Prop :=
  ReflTransGen (Hushed p)

theorem Quiet.traffic (h : Quiet p s s') : s'.traffic = s.traffic := by
  induction h with
  | refl => rfl
  | tail _ h ih => exact h.2.trans ih

theorem Quiet.atWork (h : Quiet p s s') {l : Caller} {w : Work} (hw : s'.AtWork l w) :
    s.AtWork l w := by
  induction h with
  | refl => exact hw
  | tail _ h ih => exact ih (h.atWork hw)

/-- Unless a call is given up, whoever is at work stays so as long as nothing is added. -/
theorem Quiet.kept (hdrop : ¬ p.drop) (h : Quiet p s s') {l : Caller} {w : Work}
    (hw : s.AtWork l w) : s'.AtWork l w := by
  induction h with
  | refl => exact hw
  | tail _ h ih =>
    rcases h.1.cases with hsilent | ⟨k, hloud⟩ | ⟨hp, -⟩
    · exact (hsilent.working l w).mpr ih
    · have hlength := hloud.length_traffic
      rw [h.2] at hlength
      omega
    · exact absurd hp hdrop

/-- A move that adds nothing to the traffic leaves the chain in its place. -/
theorem Hushed.stays (h : Hushed p s s') : s'.slot = s.slot ∧ s.client.Stays p s'.client := by
  rcases h.1.cases with hsilent | ⟨k, hloud⟩ | ⟨-, k, v, hcall, rfl⟩
  · exact ⟨hsilent.slot, hsilent.client.toStays⟩
  · have hlength := hloud.length_traffic
    rw [h.2] at hlength
    omega
  · rw [cancel_of_some hcall]
    exact ⟨rfl, Client.stays_leave p s.client⟩

theorem Quiet.stays (h : Quiet p s s') : s'.slot = s.slot ∧ s.client.Stays p s'.client := by
  induction h with
  | refl => exact ⟨rfl, .refl p _⟩
  | tail _ h ih => exact ⟨h.stays.1.trans ih.1, ih.2.trans h.stays.2⟩

theorem Quiet.moves (h : Quiet p s s') : ReflTransGen (Move p) s s' :=
  ReflTransGen.mono (fun _ _ h => h.1) _ _ h

/-- The traffic only grows. -/
theorem length_traffic_le_of_moves (h : ReflTransGen (Move p) s s') :
    s.traffic.length ≤ s'.traffic.length := by
  induction h with
  | refl => exact Nat.le_refl _
  | tail _ h ih =>
    rcases h.traffic_eq_or_loud with heq | ⟨k, hloud⟩
    · rwa [heq]
    · rw [hloud.length_traffic]
      exact Nat.le_succ_of_le ih

theorem quiet_of_moves (h : ReflTransGen (Move p) s s')
    (hlength : s'.traffic.length ≤ s.traffic.length) : Quiet p s s' := by
  induction h with
  | refl => exact .refl
  | @tail t u hpast h ih =>
    rcases h.traffic_eq_or_loud with heq | ⟨k, hloud⟩
    · rw [heq] at hlength
      exact (ih hlength).tail ⟨h, heq⟩
    · have hle := length_traffic_le_of_moves hpast
      rw [hloud.length_traffic] at hlength
      omega

/-- Moves that add at most one entry to the traffic have at most one loud step. -/
theorem quiet_or_loud_of_moves (h : ReflTransGen (Move p) s s')
    (hlength : s'.traffic.length ≤ s.traffic.length + 1) :
    Quiet p s s' ∨ ∃ k t t', Quiet p s t ∧ Move p t t' ∧ Loud k t t' ∧ Quiet p t' s' := by
  induction h with
  | refl => exact Or.inl .refl
  | @tail t u hpast h ih =>
    rcases h.traffic_eq_or_loud with heq | ⟨k, hloud⟩
    · rw [heq] at hlength
      rcases ih hlength with hquiet | ⟨k, v, v', hbefore, hmove, hloud, hafter⟩
      · exact Or.inl (hquiet.tail ⟨h, heq⟩)
      · exact Or.inr ⟨k, v, v', hbefore, hmove, hloud, hafter.tail ⟨h, heq⟩⟩
    · rw [hloud.length_traffic] at hlength
      exact Or.inr ⟨k, t, u, quiet_of_moves hpast (by omega), h, hloud, .refl⟩

/-! ### Actions -/

theorem length_traffic_joinLine (s : Scheduler) (k : Caller) (errand : Errand) :
    (s.joinLine k errand).1.traffic.length ≤ s.traffic.length + 1 := by
  rcases s.joinLine_cases k errand with hjoin | ⟨hholds, hjoin⟩
  · rw [hjoin]
    exact Nat.le_succ _
  · rw [hjoin]
    exact (step_enterChain hholds).length_traffic_le

/-- What happens to the tasks is not about the client. -/
theorem traffic_retire (s : Scheduler) :
    (record { s with queue := s.queue.retire.1 } (retirement s.queue.retire.2)).traffic =
      s.traffic := by
  refine (traffic_of_journal _ rfl ?_).trans (List.append_nil _)
  cases s.queue.retire.2 <;> rfl

theorem length_traffic_beginTick (s : Scheduler) (k : Caller) :
    (s.beginTick k).1.traffic.length ≤ s.traffic.length + 1 := by
  unfold beginTick
  split
  · exact Nat.le_succ _
  · simp only
    rw [← traffic_retire s]
    generalize record { s with queue := s.queue.retire.1 } (retirement s.queue.retire.2) = t
    split
    · exact Nat.le_succ _
    · rename_i queue task hdispatch
      have hquiet : (record { t with queue } [.dispatched task.id t.clock]).traffic = t.traffic :=
        (traffic_of_journal _ rfl rfl).trans (List.append_nil _)
      rw [← hquiet]
      exact length_traffic_joinLine _ k _

/-- A poll adds at most one entry to the traffic. -/
theorem length_traffic_poll (s : Scheduler) (k : Caller) :
    (s.poll k).1.traffic.length ≤ s.traffic.length + 1 := by
  unfold poll
  split
  · exact Nat.le_succ _
  · rename_i kind h
    cases kind with
    | tick => exact length_traffic_beginTick s k
    | regular => exact length_traffic_joinLine s k .regular
    | shutdown =>
      have hquiet : s.callShutdown.traffic = s.traffic := by
        rw [callShutdown_eq]
        rfl
      rw [← hquiet]
      exact length_traffic_joinLine s.callShutdown k .shutdown
  · rename_i errand h
    split
    · rename_i hhead
      exact (step_enterChain ⟨h, hhead⟩).length_traffic_le
    · exact Nat.le_succ _
  · rename_i w h
    exact (step_receive h).length_traffic_le

theorem length_traffic_runTick (s : Scheduler) (d seen due : Nat) :
    (s.runTick d seen due).traffic.length ≤ s.traffic.length + 1 := by
  have hpoll := s.length_traffic_poll (.driver d)
  unfold runTick
  split <;> rename_i h <;> rw [h] at hpoll <;> exact hpoll

theorem traffic_forgo (s : Scheduler) (d : Nat) (told : Bool) :
    (s.forgo d told).traffic = s.traffic := by
  rw [forgo_eq]
  rfl

theorem length_traffic_pollDriver (s : Scheduler) (d : Nat) :
    (s.pollDriver d).traffic.length ≤ s.traffic.length + 1 := by
  have htick (t : Scheduler) (seen due : Nat) (ht : t.traffic = s.traffic) :
      (t.driverTick d seen due).traffic.length ≤ s.traffic.length + 1 := by
    rw [← ht]
    exact length_traffic_runTick (t.create (.driver d) .tick) d seen due
  unfold pollDriver
  split
  · exact Nat.le_succ _
  · exact Nat.le_succ _
  · exact Nat.le_succ _
  · split_ifs
    · exact Nat.le_succ _
    · exact htick s _ _ rfl
    · exact htick _ _ _ rfl
    · exact Nat.le_succ _
  · rename_i seen due told hd
    split_ifs
    · rw [traffic_forgo]
      exact Nat.le_succ _
    · exact htick _ _ _ (traffic_forgo _ d told)
    · exact htick s _ _ rfl
    · exact Nat.le_succ _
  · exact length_traffic_runTick s d _ _

theorem length_traffic_takeTurn (s : Scheduler) (d : Nat) :
    (s.takeTurn d).traffic.length ≤ s.traffic.length + 1 := by
  have hpoll := length_traffic_pollDriver { s with turns := s.turns.erase d } d
  simp only [takeTurn]
  split <;> exact hpoll

theorem traffic_cancel (s : Scheduler) (k : Caller) : (s.cancel k).1.traffic = s.traffic := by
  cases h : s.calls.get? k with
  | none => rw [cancel_of_none h]
  | some c =>
    rw [cancel_of_some h]
    rfl

theorem traffic_notifyCompleted (s : Scheduler) (id : TaskId) :
    (s.notifyCompleted id).1.traffic = s.traffic := by
  rcases s.notifyCompleted_cases id with h | ⟨head, -, -, -, h⟩
  · rw [h]
  · rw [h]
    obtain ⟨told, hjournal⟩ :=
      journal_complete { s with queue := { s.queue with phase := .completing head.id } } head
    exact (traffic_of_journal _ hjournal (filter_isTraffic_told told)).trans (List.append_nil _)

theorem traffic_finishDownload (s : Scheduler) : s.finishDownload.1.traffic = s.traffic := by
  unfold finishDownload
  split
  · rfl
  · simp only
    split
    · rfl
    · exact traffic_notifyCompleted _ _

/-- An action adds at most one entry to the traffic. -/
theorem length_traffic_act (s : Scheduler) (a : Action) :
    (s.act a).1.traffic.length ≤ s.traffic.length + 1 := by
  have hquiet {t : Scheduler} (h : t.traffic = s.traffic) :
      t.traffic.length ≤ s.traffic.length + 1 := by
    rw [h]
    exact Nat.le_succ _
  cases a with
  | poll name => exact length_traffic_poll s _
  | drive d => exact length_traffic_takeTurn s d
  | offer handles target =>
    simp only [act, offer]
    split
    · obtain ⟨told, hjournal⟩ := journal_enroll s _
      exact hquiet ((traffic_of_journal _ hjournal (filter_isTraffic_told told)).trans
        (List.append_nil _))
    · exact hquiet rfl
  | notify task => exact hquiet (traffic_notifyCompleted s task)
  | create name kind | cancel name => exact hquiet (traffic_cancel s _)
  | finish => exact hquiet (traffic_finishDownload s)
  | spawn =>
    simp only [act, spawn]
    rw [summon_eq]
    exact hquiet rfl
  | own | listen | inject | progress | setHeight | wait => exact hquiet rfl

/-- **An action is quiet, or has one loud step.** -/
theorem act_quiet_or_loud (hticks : s.TicksDriven) {a : Action} (h : Within p s a) :
    Quiet p s (s.act a).1 ∨
      ∃ k t t', Quiet p s t ∧ Move p t t' ∧ Loud k t t' ∧ Quiet p t' (s.act a).1 :=
  quiet_or_loud_of_moves (act_moves hticks h) (length_traffic_act s a)

theorem exists_news_of_moves (hs : s.Ordered) (h : ReflTransGen (Move p) s s') :
    ∃ news, s'.journal = s.journal ++ news := by
  induction h with
  | refl => exact ⟨[], (List.append_nil _).symm⟩
  | @tail t u hpast h ih =>
    have ht : t.Ordered := moves_invariant (fun hs h => hs.move h) hs hpast
    obtain ⟨news, hnews⟩ := ih
    have hcourse := h.course ht.inLine ht.headMatches
    obtain ⟨more, hmore⟩ := hcourse.journal_prefix
    exact ⟨news ++ more, by rw [← hmore, hnews, List.append_assoc]⟩

theorem mem_of_filter_traffic {news new : List Occurrence}
    (hnews : news.filter Occurrence.isTraffic = new) {o : Occurrence} (ho : o ∈ news)
    (htraffic : o.isTraffic = true) : o ∈ new :=
  hnews ▸ List.mem_filter.mpr ⟨ho, htraffic⟩

/-- An action that gives up a call is quiet. -/
theorem traffic_of_givesUp {a : Action} (h : s.GivesUp a) : (s.act a).1.traffic = s.traffic := by
  cases a with
  | create name kind | cancel name => exact traffic_cancel s _
  | own | listen | offer | notify | poll | spawn | drive | inject | progress | finish | setHeight
  | wait => exact h.elim

/-- What is added to the journal from one state to the next: whoever gets hold of the chain was not
at work, whoever the client answers was waiting for that answer, and whoever is at work was before
or gets hold of the chain. -/
structure Adds (s s' : Scheduler) (news : List Occurrence) : Prop where
  journal : s'.journal = s.journal ++ news
  acquired : ∀ k, .acquired k ∈ news → ∀ w, ¬ s.AtWork k w
  answered : ∀ k call succeeded, .answered k call succeeded ∈ news →
    ∃ w, s.AtWork k w ∧ w.call = call
  working : ∀ k w, s'.AtWork k w → (∃ v, s.AtWork k v) ∨ .acquired k ∈ news

theorem adds_of_quiet {news : List Occurrence} (hjournal : s'.journal = s.journal ++ news)
    (h : Quiet p s s') : Adds s s' news := by
  have hnone : news.filter Occurrence.isTraffic = [] := by
    have htraffic := traffic_of_journal _ hjournal rfl
    rw [h.traffic] at htraffic
    exact List.self_eq_append_right.mp htraffic
  refine ⟨hjournal, fun k hk => ?_, fun k call succeeded hk => ?_,
    fun k w hw => Or.inl ⟨w, h.atWork hw⟩⟩
  · exact absurd (mem_of_filter_traffic hnone hk rfl) List.not_mem_nil
  · exact absurd (mem_of_filter_traffic hnone hk rfl) List.not_mem_nil

/-- One loud step among quiet moves that give up no call. -/
theorem adds_of_loud {news : List Occurrence} (hjournal : s'.journal = s.journal ++ news)
    (hs : s.InLine) (hdrop : ¬ p.drop) (hbefore : Quiet p s t) (hloud : Loud k t t')
    (hafter : Quiet p t' s') : Adds s s' news := by
  have hline : t.InLine := moves_invariant (fun hs h => hs.move h) hs hbefore.moves
  have hnew {o : Occurrence} (ho : t'.traffic = t.traffic ++ [o]) :
      news.filter Occurrence.isTraffic = [o] := by
    have htraffic := traffic_of_journal _ hjournal rfl
    rw [hafter.traffic, ho, hbefore.traffic] at htraffic
    exact (List.append_cancel_left htraffic).symm
  -- Whoever is at work afterwards took the loud step.
  have honly {l : Caller} {w : Work} (hw : s'.AtWork l w) : l = k :=
    hloud.eq_of_atWork hline (hafter.atWork hw)
  cases hloud with
  | decline hcall _ _ _ _ htraffic | begin hcall _ _ _ htraffic =>
    refine ⟨hjournal, fun l _ w hw => ?_, fun l call succeeded hl => ?_, fun l w hw => Or.inr ?_⟩
    · exact hcall.not_atWork hline l w (hbefore.kept hdrop hw)
    · have hmem := mem_of_filter_traffic (hnew htraffic) hl rfl
      simp at hmem
    · obtain rfl := honly hw
      have hmem : .acquired l ∈ news.filter Occurrence.isTraffic := by simp [hnew htraffic]
      exact (List.mem_filter.mp hmem).1
  | @goOn w _ hcall _ _ _ _ htraffic | @finish w hcall _ _ _ _ htraffic
  | @fail w hcall _ _ _ htraffic =>
    refine ⟨hjournal, fun l hl => ?_, fun l call succeeded hl => ?_, fun l v hv => Or.inl ?_⟩
    · have hmem := mem_of_filter_traffic (hnew htraffic) hl rfl
      simp at hmem
    · have hmem := mem_of_filter_traffic (hnew htraffic) hl rfl
      obtain ⟨rfl, rfl, -⟩ := by simpa using hmem
      exact ⟨w, hbefore.atWork hcall, rfl⟩
    · obtain rfl := honly hv
      exact ⟨w, hbefore.atWork hcall⟩

/-- **What an action adds to the journal.** -/
theorem act_adds (hs : s.Ordered) (hticks : s.TicksDriven) (a : Action) :
    ∃ news, Adds s (s.act a).1 news := by
  have hmoves := act_moves hticks (within_default s a)
  obtain ⟨news, hjournal⟩ := exists_news_of_moves hs hmoves
  refine ⟨news, ?_⟩
  -- No action both gives up a call and lets another get hold of the chain.
  by_cases hgives : s.GivesUp a
  · exact adds_of_quiet hjournal
      (quiet_of_moves hmoves (Nat.le_of_eq (by rw [traffic_of_givesUp hgives])))
  · rcases act_quiet_or_loud hticks (within_noDrop hgives) with
      hquiet | ⟨k, t, t', hbefore, -, hloud, hafter⟩
    · exact adds_of_quiet hjournal hquiet
    · exact adds_of_loud hjournal hs.inLine not_false hbefore hloud hafter

end Scheduler

end WalletReplay
