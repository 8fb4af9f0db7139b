import WalletReplay.Proofs.Scheduler.Shutdown

/-!
# The inventory of networks and stores

What the client has answered tells what there is: which stores and networks were made, which network
was built on which store, which networks run, and which stores were asked to close. An inventory
keeps count of this. It fits the place of the chain and the client when the stack in its place is
whole, and it says what a call must find when it comes to a stage: the old stack or the parts of a
new one that the call carries along, or the stack in its place.

Whatever the client then answers, the inventory still fits and the call finds what it needs next.
This is the part of the argument that does not depend on who is polled when.

## What is proved

* `Inventory.mem_running_iff` — the inventory knows which networks run.
* `Inventory.inTime_of_allows` — it knows which calls are in time.
* `Work.allows_of_lawful` — a call that finds what it needs is in time.
* `Inventory.Fits.succeed` and `Inventory.Fits.fail` — what the client answers keeps the inventory
  fitting.
-/

namespace WalletReplay

/-! ### What the client answered -/

/-- Whether a network was started and not stopped since. -/
def Runs (traffic : List Occurrence) (n : Nat) : Prop :=
  ∃ past k rest, traffic = past ++ .answered k (.startNetwork n) true :: rest ∧
    ∀ l, .answered l (.stopNetwork n) true ∉ rest

theorem runs_concat {traffic : List Occurrence} {o : Occurrence} {n : Nat} :
    Runs (traffic ++ [o]) n ↔ (∃ k, o = .answered k (.startNetwork n) true) ∨
      Runs traffic n ∧ ∀ k, o ≠ .answered k (.stopNetwork n) true := by
  constructor
  · rintro ⟨past, k, rest, hsplit, hrest⟩
    rcases split_of_concat hsplit with ⟨rfl, rfl, -⟩ | ⟨rest, rfl, rfl⟩
    · exact Or.inl ⟨k, rfl⟩
    · refine Or.inr ⟨⟨past, k, rest, rfl, fun l hl => hrest l (List.mem_append_left _ hl)⟩, ?_⟩
      rintro l rfl
      exact hrest l (List.mem_append_right _ (List.mem_singleton_self _))
  · rintro (⟨k, rfl⟩ | ⟨⟨past, k, rest, rfl, hrest⟩, ho⟩)
    · exact ⟨traffic, k, [], rfl, fun l => List.not_mem_nil⟩
    · refine ⟨past, k, rest ++ [o], by simp, fun l hl => ?_⟩
      rcases List.mem_append.mp hl with hl | hl
      · exact hrest l hl
      · exact ho l (List.mem_singleton.mp hl).symm

/-- Whoever gets hold of the chain starts and stops nothing. -/
theorem runs_append_acquired {traffic : List Occurrence} (callers : List Caller) {n : Nat} :
    Runs (traffic ++ callers.map .acquired) n ↔ Runs traffic n := by
  induction callers using List.reverseRecOn with
  | nil => simp
  | append_singleton callers k ih =>
    rw [List.map_append, ← List.append_assoc, List.map_singleton, runs_concat, ih]
    simp

/-- Whether a call to the client is in time, by what the client has answered before and which
network was built on which store. -/
def InTime (homes : List (Nat × Nat)) (past : List Occurrence) : ClientCall → Prop
  | .createStore _ => ∀ n, ¬ Runs past n
  | .startNetwork n => ¬ Runs past n
  | .resumeDownload n => Runs past n
  | .closeStore m => (∀ k succeeded, .answered k (.closeStore m) succeeded ∉ past) ∧
      (∃ n, (n, m) ∈ homes) ∧
      ∀ n, (n, m) ∈ homes → (∃ k, .answered k (.stopNetwork n) true ∈ past) ∧ ¬ Runs past n
  | .buildChain _ | .buildNetwork | .stopNetwork _ => True

/-! ### Inventories -/

/-- What there is, by what the client has answered. -/
structure Inventory where
  /-- How many stores were created. -/
  stores : Nat := 0
  /-- How many networks were built. -/
  networks : Nat := 0
  /-- Each network that was built, with the store it was built on: the newest at that time. -/
  homes : List (Nat × Nat) := []
  /-- The networks that were started and not stopped since. -/
  running : List Nat := []
  /-- The networks that were ever stopped. -/
  stopped : List Nat := []
  /-- The stores that were asked to close, whether they did or not. -/
  closed : List Nat := []

namespace Inventory

/-- What there is at first. If a chain was synced before, there is a store with a network. -/
def initial (synced : Bool) : Inventory :=
  if synced then { stores := 1, networks := 1, homes := [(0, 0)] } else {}

/-- What there is after one more answer. -/
def note (i : Inventory) : Occurrence → Inventory
  | .answered _ (.createStore _) true => { i with stores := i.stores + 1 }
  | .answered _ .buildNetwork true =>
    { i with networks := i.networks + 1, homes := i.homes ++ [(i.networks, i.stores - 1)] }
  | .answered _ (.startNetwork n) true => { i with running := i.running ++ [n] }
  | .answered _ (.stopNetwork n) true =>
    { i with running := i.running.filter (· ≠ n), stopped := i.stopped ++ [n] }
  | .answered _ (.closeStore m) _ => { i with closed := i.closed ++ [m] }
  | _ => i

/-- What there is after more traffic. -/
def tally (i : Inventory) (traffic : List Occurrence) : Inventory :=
  traffic.foldl note i

/-- Whether a call to the client is in time, by the inventory. -/
def Allows (i : Inventory) : ClientCall → Prop
  | .createStore _ => i.running = []
  | .startNetwork n => n ∉ i.running
  | .resumeDownload n => n ∈ i.running
  | .closeStore m => m ∉ i.closed ∧ (∃ n, (n, m) ∈ i.homes) ∧
      ∀ n, (n, m) ∈ i.homes → n ∈ i.stopped ∧ n ∉ i.running
  | .buildChain _ | .buildNetwork | .stopNetwork _ => True

@[simp]
theorem tally_nil (i : Inventory) : i.tally [] = i := rfl

@[simp]
theorem tally_concat (i : Inventory) (traffic : List Occurrence) (o : Occurrence) :
    i.tally (traffic ++ [o]) = (i.tally traffic).note o := by
  simp [tally]

@[simp]
theorem note_acquired (i : Inventory) (k : Caller) : i.note (.acquired k) = i := rfl

theorem mem_running_note {i : Inventory} {o : Occurrence} {n : Nat} :
    n ∈ (i.note o).running ↔ (∃ k, o = .answered k (.startNetwork n) true) ∨
      n ∈ i.running ∧ ∀ k, o ≠ .answered k (.stopNetwork n) true := by
  cases o with
  | answered k call succeeded => cases call <;> cases succeeded <;> simp [note] <;> grind
  | accepted | dispatched | attempted | failed | completed | retired | acquired | heard =>
    simp [note]

/-- **The networks that run are those that were started and not stopped since.** -/
theorem mem_running_iff {i : Inventory} {n : Nat} (hi : n ∉ i.running) (traffic : List Occurrence) :
    n ∈ (i.tally traffic).running ↔ Runs traffic n := by
  induction traffic using List.reverseRecOn with
  | nil =>
    refine ⟨fun h => absurd h hi, ?_⟩
    rintro ⟨past, k, rest, h, -⟩
    simp at h
  | append_singleton traffic o ih => rw [tally_concat, mem_running_note, runs_concat, ih]

theorem mem_closed_note {i : Inventory} {o : Occurrence} {m : Nat} :
    m ∈ (i.note o).closed ↔
      m ∈ i.closed ∨ ∃ k succeeded, o = .answered k (.closeStore m) succeeded := by
  cases o with
  | answered k call succeeded => cases call <;> cases succeeded <;> simp [note, eq_comm]
  | accepted | dispatched | attempted | failed | completed | retired | acquired | heard =>
    simp [note]

theorem mem_stopped_note {i : Inventory} {o : Occurrence} {n : Nat} :
    n ∈ (i.note o).stopped ↔ n ∈ i.stopped ∨ ∃ k, o = .answered k (.stopNetwork n) true := by
  cases o with
  | answered k call succeeded => cases call <;> cases succeeded <;> simp [note, eq_comm]
  | accepted | dispatched | attempted | failed | completed | retired | acquired | heard =>
    simp [note]

/-- What every occurrence can only add to is what was there or was added by one of them. -/
theorem mem_tally {f : Inventory → List Nat} {adds : Occurrence → Nat → Prop}
    (hnote : ∀ i o n, n ∈ f (i.note o) ↔ n ∈ f i ∨ adds o n) (i : Inventory)
    (traffic : List Occurrence) (n : Nat) :
    n ∈ f (i.tally traffic) ↔ n ∈ f i ∨ ∃ o ∈ traffic, adds o n := by
  induction traffic using List.reverseRecOn with
  | nil => simp
  | append_singleton traffic o ih =>
    rw [tally_concat, hnote, ih]
    simp only [List.mem_append, List.mem_singleton, or_and_right, exists_or, exists_eq_left, or_assoc]

/-- A call that the inventory allows is in time. -/
theorem inTime_of_allows {synced : Bool} {past : List Occurrence} {call : ClientCall}
    (h : ((initial synced).tally past).Allows call) :
    InTime ((initial synced).tally past).homes past call := by
  have hfirst : (initial synced).running = [] ∧ (initial synced).closed = [] ∧
      (initial synced).stopped = [] := by cases synced <;> exact ⟨rfl, rfl, rfl⟩
  obtain ⟨hrunning, hclosed, hstopped⟩ := hfirst
  have hruns (n : Nat) : n ∈ ((initial synced).tally past).running ↔ Runs past n :=
    mem_running_iff (by simp [hrunning]) past
  cases call with
  | createStore start =>
    intro n hn
    have hmem := (hruns n).mpr hn
    rw [show ((initial synced).tally past).running = [] from h] at hmem
    exact List.not_mem_nil hmem
  | startNetwork n => exact fun hn => h ((hruns n).mpr hn)
  | resumeDownload n => exact (hruns n).mp h
  | closeStore m =>
    obtain ⟨hunclosed, hhome, hall⟩ := h
    rw [mem_tally (fun _ _ _ => mem_closed_note), hclosed] at hunclosed
    refine ⟨fun k succeeded hmem => hunclosed (Or.inr ⟨_, hmem, k, succeeded, rfl⟩), hhome,
      fun n hn => ?_⟩
    obtain ⟨hn, hnot⟩ := hall n hn
    rw [mem_tally (fun _ _ _ => mem_stopped_note), hstopped] at hn
    obtain ⟨o, hmem, k, rfl⟩ := hn.resolve_left List.not_mem_nil
    exact ⟨⟨k, hmem⟩, fun hruns' => hnot ((hruns n).mpr hruns')⟩
  | buildChain | buildNetwork | stopNetwork => trivial

/-! ### What is kept where -/

/-- Each store has at most one network, and only what is there counts. -/
structure Sound (i : Inventory) : Prop where
  unique : ∀ {n n' m}, (n, m) ∈ i.homes → (n', m) ∈ i.homes → n = n'
  home_lt : ∀ {n m}, (n, m) ∈ i.homes → n < i.networks ∧ m < i.stores
  closed_lt : ∀ {m}, m ∈ i.closed → m < i.stores

/-- A stack that is whole: its network was built on its store, the store was not asked to close, and
nothing runs but its network, if that does. -/
structure Keeps (i : Inventory) (stack : Stack) : Prop where
  home : (stack.network.number, stack.store.number) ∈ i.homes
  unclosed : stack.store.number ∉ i.closed
  running : i.running = if stack.network.running then [stack.network.number] else []

/-- A stack whose network was stopped, and whose store is next. -/
structure Halted (i : Inventory) (stack : Stack) : Prop where
  home : (stack.network.number, stack.store.number) ∈ i.homes
  unclosed : stack.store.number ∉ i.closed
  stopped : stack.network.number ∈ i.stopped
  running : i.running = []

/-- The newest store, which has no network yet. -/
structure Bare (i : Inventory) (store : Store) : Prop where
  newest : store.number + 1 = i.stores
  homeless : ∀ n, (n, store.number) ∉ i.homes
  unclosed : store.number ∉ i.closed
  running : i.running = []

/-- The inventory fits the place of the chain and the client. -/
structure Fits (i : Inventory) (slot : Option Stack) (c : Client) : Prop where
  sound : i.Sound
  stores : c.storeCount = i.stores
  networks : c.networkCount = i.networks
  kept : ∀ {stack}, slot = some stack → i.Keeps stack
  download : c.download ≠ none → i.running ≠ []

theorem sound_initial (synced : Bool) : (initial synced).Sound := by
  cases synced <;> exact ⟨by simp [initial], by simp [initial], by simp [initial]⟩

theorem Keeps.length_running_le {i : Inventory} {stack : Stack} (h : i.Keeps stack) :
    i.running.length ≤ 1 := by
  rw [h.running]
  split <;> simp

namespace Fits

variable {i : Inventory} {slot : Option Stack} {c : Client} {k : Caller}

/-- Only what was made and whether a download runs counts of the client. -/
theorem congr (h : i.Fits slot c) {c' : Client} (hstores : c'.storeCount = c.storeCount)
    (hnetworks : c'.networkCount = c.networkCount)
    (hdownload : c'.download = c.download ∨ c'.download = none) : i.Fits slot c' where
  sound := h.sound
  stores := hstores.trans h.stores
  networks := hnetworks.trans h.networks
  kept := h.kept
  download hc := by
    rcases hdownload with heq | hnone
    · exact h.download (heq ▸ hc)
    · exact absurd hnone hc

/-- The stack may be taken out of its place. -/
theorem of_slot (h : i.Fits slot c) {slot' : Option Stack}
    (hslot : ∀ {stack}, slot' = some stack → slot = some stack) : i.Fits slot' c :=
  ⟨h.sound, h.stores, h.networks, fun hstack => h.kept (hslot hstack), h.download⟩

/-- When nothing runs, no download does. -/
theorem download_eq_none (h : i.Fits slot c) (hrunning : i.running = []) : c.download = none := by
  by_contra hc
  exact h.download hc hrunning

/-- The network of an old stack is stopped. -/
theorem stop (h : i.Fits none c) {old : Stack} (hold : i.Keeps old) :
    (i.note (.answered k (.stopNetwork old.network.number) true)).Fits none
        { c with download := none } ∧
      (i.note (.answered k (.stopNetwork old.network.number) true)).Halted
        (old.setRunning false) := by
  refine ⟨⟨⟨h.sound.unique, h.sound.home_lt, h.sound.closed_lt⟩, h.stores, h.networks, by simp,
    by simp⟩, hold.home, hold.unclosed, List.mem_append_right _ (List.mem_singleton_self _), ?_⟩
  change i.running.filter (· ≠ old.network.number) = []
  rw [hold.running]
  split <;> simp

/-- The store of an old stack is asked to close. -/
theorem close (h : i.Fits none c) {old : Stack} (hold : i.Halted old) (succeeded : Bool) :
    (i.note (.answered k (.closeStore old.store.number) succeeded)).Fits none c ∧
      (i.note (.answered k (.closeStore old.store.number) succeeded)).running = [] := by
  have hnote : i.note (.answered k (.closeStore old.store.number) succeeded) =
      { i with closed := i.closed ++ [old.store.number] } := by cases succeeded <;> rfl
  rw [hnote]
  refine ⟨⟨⟨h.sound.unique, h.sound.home_lt, fun {m} hm => ?_⟩, h.stores, h.networks, by simp,
    h.download⟩, hold.running⟩
  rcases List.mem_append.mp hm with hm | hm
  · exact h.sound.closed_lt hm
  · rw [List.mem_singleton.mp hm]
    exact (h.sound.home_lt hold.home).2

/-- A store is created. -/
theorem create (h : i.Fits none c) (hrunning : i.running = []) (base : Checkpoint) :
    (i.note (.answered k (.createStore base.height) true)).Fits none (c.newStore base).2 ∧
      (i.note (.answered k (.createStore base.height) true)).Bare (c.newStore base).1 := by
  refine ⟨⟨⟨h.sound.unique, fun hhome => ?_, fun hm => Nat.lt_succ_of_lt (h.sound.closed_lt hm)⟩,
    congrArg (· + 1) h.stores, h.networks, by simp, h.download⟩, congrArg (· + 1) h.stores,
    fun n hhome => ?_, fun hm => ?_, hrunning⟩
  · obtain ⟨hn, hm⟩ := h.sound.home_lt hhome
    exact ⟨hn, Nat.lt_succ_of_lt hm⟩
  · exact absurd (h.sound.home_lt hhome).2 (by simp [Client.newStore, h.stores])
  · exact absurd (h.sound.closed_lt hm) (by simp [Client.newStore, h.stores])

/-- A network is built on the newest store, and the new stack is put in its place. -/
theorem connect (h : i.Fits none c) {store : Store} (hstore : i.Bare store) (chain : Chain)
    (listeners : List ProgressListener) :
    (i.note (.answered k .buildNetwork true)).Fits
      (some ⟨store, chain, (c.newNetwork listeners).1⟩) (c.newNetwork listeners).2 := by
  have hnewest : i.stores - 1 = store.number := by
    rw [← hstore.newest]
    rfl
  have hhomes {n m : Nat} (hhome : (n, m) ∈ (i.note (.answered k .buildNetwork true)).homes) :
      (n, m) ∈ i.homes ∨ n = i.networks ∧ m = store.number := by
    rcases List.mem_append.mp hhome with hhome | hhome
    · exact Or.inl hhome
    · exact Or.inr (by simpa [hnewest] using hhome)
  refine ⟨⟨fun {n n' m} hn hn' => ?_, fun {n m} hhome => ?_, h.sound.closed_lt⟩, h.stores,
    congrArg (· + 1) h.networks, fun {stack} hstack => ?_, h.download⟩
  · rcases hhomes hn with hn | ⟨rfl, rfl⟩ <;> rcases hhomes hn' with hn' | ⟨rfl, hm⟩
    · exact h.sound.unique hn hn'
    · exact absurd (hm ▸ hn) (hstore.homeless n)
    · exact absurd hn' (hstore.homeless n')
    · rfl
  · rcases hhomes hhome with hhome | ⟨rfl, rfl⟩
    · obtain ⟨hn, hm⟩ := h.sound.home_lt hhome
      exact ⟨Nat.lt_succ_of_lt hn, hm⟩
    · refine ⟨Nat.lt_succ_self _, ?_⟩
      change store.number < i.stores
      rw [← hstore.newest]
      exact Nat.lt_succ_self _
  · obtain rfl := Option.some.inj hstack
    refine ⟨?_, hstore.unclosed, hstore.running⟩
    change (c.networkCount, store.number) ∈ i.homes ++ [(i.networks, i.stores - 1)]
    simp [h.networks, hnewest]

/-- The network in its place is started. -/
theorem start {stack : Stack} (h : i.Fits (some stack) c)
    (hstopped : stack.network.running = false) :
    (i.note (.answered k (.startNetwork stack.network.number) true)).Fits
      (some (stack.setRunning true)) c := by
  have hkept := h.kept rfl
  have hrunning : i.running = [] := by simp [hkept.running, hstopped]
  refine ⟨⟨h.sound.unique, h.sound.home_lt, h.sound.closed_lt⟩, h.stores, h.networks,
    fun {other} hother => ?_, fun _ => by simp [note]⟩
  obtain rfl := Option.some.inj hother
  refine ⟨hkept.home, hkept.unclosed, ?_⟩
  change i.running ++ [stack.network.number] = [stack.network.number]
  rw [hrunning, List.nil_append]

/-- The network in its place, which runs, is asked to download. -/
theorem resume {stack : Stack} (h : i.Fits (some stack) c) (hrun : stack.network.running = true)
    (download : Download) : i.Fits (some stack) { c with download := some download } :=
  ⟨h.sound, h.stores, h.networks, h.kept, fun _ => by simp [(h.kept rfl).running, hrun]⟩

end Fits

end Inventory

/-! ### Calls at work -/

/-- What there must be at a stage. -/
def Stage.Lawful (i : Inventory) (slot : Option Stack) : Stage → Prop
  | stopping old => slot = none ∧ i.Keeps old
  | closing old => slot = none ∧ i.Halted old
  | creating => slot = none ∧ i.running = []
  | building store | connecting store _ => slot = none ∧ i.Bare store
  | starting n =>
    ∃ stack, slot = some stack ∧ stack.network.number = n ∧ stack.network.running = false
  | resuming n =>
    ∃ stack, slot = some stack ∧ stack.network.number = n ∧ stack.network.running = true

namespace Work

/-- The stage that work is at: a regular download is at the last ones of an attempt, and a shutdown
at the first. -/
def stage : Work → Stage
  | replay _ _ stage => stage
  | starting n => .starting n
  | resuming n => .resuming n
  | stopping stack => .stopping stack
  | closing stack => .closing stack

variable {i : Inventory} {slot : Option Stack} {c : Client} {k : Caller} {w : Work}

/-- A call that is waited for is in time. -/
theorem allows_of_lawful (h : i.Fits slot c) (hw : w.stage.Lawful i slot) : i.Allows w.call := by
  have closing {old : Stack} (hold : i.Halted old) : i.Allows (.closeStore old.store.number) := by
    refine ⟨hold.unclosed, ⟨_, hold.home⟩, fun n hn => ?_⟩
    rw [h.sound.unique hn hold.home, hold.running]
    exact ⟨hold.stopped, List.not_mem_nil⟩
  have starting {n : Nat} (hn : (Stage.starting n).Lawful i slot) : i.Allows (.startNetwork n) := by
    obtain ⟨stack, hslot, -, hstopped⟩ := hn
    simp [Inventory.Allows, (h.kept hslot).running, hstopped]
  have resuming {n : Nat} (hn : (Stage.resuming n).Lawful i slot) :
      i.Allows (.resumeDownload n) := by
    obtain ⟨stack, hslot, rfl, hrun⟩ := hn
    simp [Inventory.Allows, (h.kept hslot).running, hrun]
  cases w with
  | replay task floor stage =>
    cases stage with
    | stopping | building | connecting => trivial
    | closing old => exact closing hw.2
    | creating => exact hw.2
    | starting n => exact starting hw
    | resuming n => exact resuming hw
  | starting n => exact starting hw
  | resuming n => exact resuming hw
  | stopping => trivial
  | closing stack => exact closing hw.2

/-- At most one network runs. -/
theorem length_running_le (h : i.Fits slot c) (hw : w.stage.Lawful i slot) :
    i.running.length ≤ 1 := by
  have hnone (hrunning : i.running = []) : i.running.length ≤ 1 := by simp [hrunning]
  cases hstage : w.stage <;> rw [hstage] at hw
  case stopping old => exact hw.2.length_running_le
  case closing old => exact hnone hw.2.running
  case creating => exact hnone hw.2
  case building store => exact hnone hw.2.running
  case connecting store chain => exact hnone hw.2.running
  case starting n =>
    obtain ⟨stack, hslot, -⟩ := hw
    exact (h.kept hslot).length_running_le
  case resuming n =>
    obtain ⟨stack, hslot, -⟩ := hw
    exact (h.kept hslot).length_running_le

end Work

namespace Inventory

variable {i : Inventory} {slot : Option Stack} {c : Client} {k : Caller} {w : Work}

/-- What an answer leaves: the inventory fits, and there is what the call goes on with; if it does
not go on and leaves no stack, nothing runs. -/
structure Goes (i : Inventory) (next : Continuation) : Prop where
  fits : i.Fits next.slot next.client
  lawful : ∀ {w}, next.next = some w → w.stage.Lawful i next.slot
  rest : next.next = none → next.slot = none → i.running = []

/-- The call goes on. -/
theorem goes_on {next : Work} (h : i.Fits slot c) (hnext : next.stage.Lawful i slot) :
    i.Goes ⟨slot, c, some next⟩ :=
  ⟨h, fun heq => Option.some.inj heq ▸ hnext, fun hnone => by simp at hnone⟩

/-- **A client call that succeeds keeps the inventory fitting.** -/
theorem Fits.succeed (h : i.Fits slot c) (hw : w.stage.Lawful i slot) :
    (i.note (.answered k w.call true)).Goes (w.succeed slot c) := by
  have hstart {n : Nat} {next : Work} (hn : (Stage.starting n).Lawful i slot)
      (hnext : next.stage = .resuming n) : (i.note (.answered k (.startNetwork n) true)).Goes
        ⟨slot.map (·.setRunning true), c, some next⟩ := by
    obtain ⟨stack, rfl, rfl, hstopped⟩ := hn
    exact goes_on (h.start hstopped) (hnext ▸ ⟨stack.setRunning true, rfl, rfl, rfl⟩)
  have hresume {n : Nat} (hn : (Stage.resuming n).Lawful i slot) (download : Download) :
      i.Goes ⟨slot, { c with download := some download }, none⟩ := by
    obtain ⟨stack, rfl, -, hrun⟩ := hn
    exact ⟨h.resume hrun download, fun hnext => by simp at hnext, fun _ hslot => by simp at hslot⟩
  cases w with
  | replay task floor stage =>
    cases stage with
    | stopping old =>
      obtain ⟨rfl, hold⟩ := hw
      obtain ⟨hfits, hhalted⟩ := h.stop hold
      exact goes_on hfits ⟨rfl, hhalted⟩
    | closing old =>
      obtain ⟨rfl, hold⟩ := hw
      obtain ⟨hfits, hrunning⟩ := h.close hold true
      exact goes_on hfits ⟨rfl, hrunning⟩
    | creating =>
      obtain ⟨rfl, hrunning⟩ := hw
      obtain ⟨hfits, hbare⟩ := h.create hrunning task.start
      exact goes_on hfits ⟨rfl, hbare⟩
    | building store =>
      obtain ⟨rfl, hbare⟩ := hw
      exact goes_on h ⟨rfl, hbare⟩
    | connecting store chain =>
      obtain ⟨rfl, hbare⟩ := hw
      exact goes_on (h.connect hbare chain _) ⟨_, rfl, rfl, rfl⟩
    | starting n => exact hstart hw rfl
    | resuming n => exact hresume hw _
  | starting n => exact hstart hw rfl
  | resuming n => exact hresume hw _
  | stopping stack =>
    obtain ⟨rfl, hold⟩ := hw
    obtain ⟨hfits, hhalted⟩ := h.stop hold
    exact goes_on hfits ⟨rfl, hhalted⟩
  | closing stack =>
    obtain ⟨rfl, hold⟩ := hw
    obtain ⟨hfits, hrunning⟩ := h.close hold true
    exact ⟨hfits, fun hnext => by simp [Work.succeed] at hnext, fun _ _ => hrunning⟩

/-- **A client call that fails keeps the inventory fitting.** If it leaves no stack then nothing
runs, unless a shutdown failed to stop its network, which runs on. -/
theorem Fits.fail (h : i.Fits slot c) (hw : w.stage.Lawful i slot) :
    (i.note (.answered k w.call false)).Fits (w.slotAfterFailure slot) c ∧
      (w.slotAfterFailure slot = none → (i.note (.answered k w.call false)).running = [] ∨
        ∃ stack, w = .stopping stack ∧ stack.network.running = true ∧
          (i.note (.answered k w.call false)).running = [stack.network.number]) := by
  have hsome {stack : Stack} (hslot : slot = some stack) : slot = none → i.running = [] ∨
      ∃ stack, w = .stopping stack ∧ stack.network.running = true ∧
        i.running = [stack.network.number] := by
    rw [hslot]
    simp
  cases w with
  | replay task floor stage =>
    cases stage with
    | stopping old =>
      obtain ⟨rfl, hold⟩ := hw
      refine ⟨⟨h.sound, h.stores, h.networks, fun {stack} hstack => ?_, h.download⟩,
        fun hnone => ?_⟩
      · exact Option.some.inj hstack ▸ hold
      · simp [Work.slotAfterFailure] at hnone
    | closing old =>
      obtain ⟨rfl, hold⟩ := hw
      obtain ⟨hfits, hrunning⟩ := h.close hold false
      exact ⟨hfits, fun _ => Or.inl hrunning⟩
    | creating => exact ⟨h, fun _ => Or.inl hw.2⟩
    | building store | connecting store chain => exact ⟨h, fun _ => Or.inl hw.2.running⟩
    | starting n | resuming n =>
      obtain ⟨stack, hslot, -⟩ := hw
      exact ⟨h, hsome hslot⟩
  | starting n | resuming n =>
    obtain ⟨stack, hslot, -⟩ := hw
    exact ⟨h, hsome hslot⟩
  | stopping stack =>
    have hrunning := hw.2.running
    cases hrun : stack.network.running <;> rw [hrun] at hrunning
    · exact ⟨h, fun _ => Or.inl hrunning⟩
    · exact ⟨h, fun _ => Or.inr ⟨stack, rfl, hrun, hrunning⟩⟩
  | closing stack =>
    obtain ⟨rfl, hold⟩ := hw
    obtain ⟨hfits, hrunning⟩ := h.close hold false
    exact ⟨hfits, fun _ => Or.inl hrunning⟩

end Inventory

end WalletReplay
