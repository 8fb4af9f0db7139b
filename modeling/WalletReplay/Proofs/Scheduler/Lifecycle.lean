import WalletReplay.Proofs.Scheduler.Inventory

/-!
# The life of networks and stores

Every call to the client is made in time: no second network is started beside one that runs, no
download is asked of one that does not, a store is closed once and after its network was stopped,
and a store is created only when nothing runs.

This holds as long as no call is given up midway, for the parts that it carries along are lost with
it. It does not matter which calls of the client fail. What carries it over from one call to the
next is what is kept where: the stack in its place, or else what the call at work carries along. A
shutdown that fails to stop its network loses it while it runs, but nothing is started after that.

## What is proved

* `Accounted.move` — moves that give up no call keep the inventory fitting.
* `Accounted.orderly` — they keep the traffic in order.
* `run_lifecycle` — every call to the client is in time, in any run that gives up no call.
-/

namespace WalletReplay.Scheduler

open Relation

variable {s s' : Scheduler} {k : Caller} {p : Terms} {first : Inventory}

/-! ### The account -/

/-- What the client has answered accounts for what is in the place of the chain and for what the
call at work carries along. Something runs that nobody knows of only after a shutdown. -/
structure Accounted (first : Inventory) (s : Scheduler) : Prop extends Guarded s where
  fits : (first.tally s.traffic).Fits s.slot s.client
  lawful : ∀ {k w}, s.AtWork k w → w.stage.Lawful (first.tally s.traffic) s.slot
  rest : (∀ k w, ¬ s.AtWork k w) → s.slot = none → (first.tally s.traffic).running = [] ∨
    s.isShutDown = true ∧ (first.tally s.traffic).running.length ≤ 1

/-- The client answers without making anything. -/
theorem made_clientAfter (s : Scheduler) (w : Work) :
    (s.clientAfter w).storeCount = s.client.storeCount ∧
      (s.clientAfter w).networkCount = s.client.networkCount ∧
      (s.clientAfter w).download = s.client.download := by
  unfold clientAfter Client.answer
  split <;> exact ⟨rfl, rfl, rfl⟩

namespace Accounted

/-- A call that begins to work begins in time. -/
theorem lawful_of_opening (hs : s.Accounted first) (hidle : ∀ l w, ¬ s.AtWork l w) {errand : Errand}
    {w : Work} {slot : Option Stack} (h : s.opening errand = some (w, slot)) :
    (first.tally s.traffic).Fits slot s.client ∧ w.stage.Lawful (first.tally s.traffic) slot := by
  have hfits := hs.fits
  have htaken : (first.tally s.traffic).Fits none s.client := hfits.of_slot (by simp)
  cases errand with
  | replay task =>
    simp only [opening] at h
    split_ifs at h with hclosed
    obtain ⟨rfl, rfl⟩ := Prod.mk.inj (Option.some.inj h)
    cases hslot : s.slot with
    | none =>
      have hrunning := (hs.rest hidle hslot).resolve_right fun h => hclosed h.1
      exact ⟨htaken, rfl, hrunning⟩
    | some old => exact ⟨htaken, rfl, hfits.kept hslot⟩
  | regular =>
    simp only [opening] at h
    split_ifs at h
    obtain ⟨stack, hslot, heq⟩ := Option.map_eq_some_iff.mp h
    obtain ⟨rfl, rfl⟩ := Prod.mk.inj heq
    rw [hslot] at hfits
    refine ⟨hfits, ?_⟩
    split
    · rename_i hrun
      exact ⟨stack, rfl, rfl, hrun⟩
    · rename_i hstopped
      exact ⟨stack, rfl, rfl, Bool.not_eq_true _ ▸ hstopped⟩
  | shutdown =>
    obtain ⟨stack, hslot, heq⟩ := Option.map_eq_some_iff.mp h
    obtain ⟨rfl, rfl⟩ := Prod.mk.inj heq
    exact ⟨htaken, rfl, hfits.kept hslot⟩

/-- What the client answers well keeps the account. -/
theorem goes (hs : s.Accounted first) {w : Work} (hcall : s.AtWork k w) :
    ((first.tally s.traffic).note (.answered k w.call true)).Goes
      (w.succeed s.slot (s.clientAfter w)) := by
  obtain ⟨hstores, hnetworks, hdownload⟩ := s.made_clientAfter w
  exact (hs.fits.congr hstores hnetworks (Or.inl hdownload)).succeed (hs.lawful hcall)

/-- What the client answers badly keeps the account, but for what a shutdown loses. -/
theorem fails (hs : s.Accounted first) {w : Work} (hcall : s.AtWork k w) :
    ((first.tally s.traffic).note (.answered k w.call false)).Fits (w.slotAfterFailure s.slot)
        (s.clientAfter w) ∧
      (w.slotAfterFailure s.slot = none →
        ((first.tally s.traffic).note (.answered k w.call false)).running = [] ∨
        ∃ stack, w = .stopping stack ∧ stack.network.running = true ∧
          ((first.tally s.traffic).note (.answered k w.call false)).running =
            [stack.network.number]) := by
  obtain ⟨hstores, hnetworks, hdownload⟩ := s.made_clientAfter w
  exact (hs.fits.congr hstores hnetworks (Or.inl hdownload)).fail (hs.lawful hcall)

/-- Loud steps keep the account. -/
theorem loud (hs : s.Accounted first) (hguarded : s'.Guarded)
    (hclosed : s.isShutDown = true → s'.isShutDown = true) (h : Loud k s s') :
    s'.Accounted first := by
  -- Nobody is at work afterwards, or only the call that took the step.
  have hover := h.not_atWork hs.toInLine
  have hbusy {v : Work} (hcalls : s'.calls = s.calls.set k (.working v)) :
      (∀ {l u}, s'.AtWork l u → u = v) ∧ ¬ ∀ l u, ¬ s'.AtWork l u := by
    refine ⟨fun {l u} hu => ?_, fun hidle => hidle k v (atWork_of_set_working hcalls)⟩
    obtain rfl := h.eq_of_atWork hs.toInLine hu
    exact hu.unique (atWork_of_set_working hcalls)
  have hacquire (htraffic : s'.traffic = s.traffic ++ [.acquired k]) :
      first.tally s'.traffic = first.tally s.traffic := by
    rw [htraffic, Inventory.tally_concat, Inventory.note_acquired]
  cases h with
  | decline hholds _ hslot hclient hcalls htraffic =>
    refine ⟨hguarded, ?_, fun hv => absurd hv (hover hcalls _ _), fun _ hnone => ?_⟩
    · rw [hacquire htraffic, hslot, hclient]
      exact hs.fits
    · rw [hacquire htraffic]
      exact (hs.rest (hholds.not_atWork hs.toInLine) (hslot ▸ hnone)).imp_right
        (And.imp_left hclosed)
  | begin hholds hopening hclient hcalls htraffic =>
    obtain ⟨hfits, hlawful⟩ := hs.lawful_of_opening (hholds.not_atWork hs.toInLine) hopening
    obtain ⟨honly, hidle⟩ := hbusy hcalls
    refine ⟨hguarded, ?_, fun hv => ?_, fun hnone => absurd hnone hidle⟩
    · rw [hacquire htraffic, hclient]
      exact hfits.congr rfl rfl (Or.inl rfl)
    · rw [hacquire htraffic, honly hv]
      exact hlawful
  | @goOn w next hcall hnext hslot hclient hcalls htraffic =>
    have hgoes := hs.goes hcall
    obtain ⟨honly, hidle⟩ := hbusy hcalls
    refine ⟨hguarded, ?_, fun hv => ?_, fun hnone => absurd hnone hidle⟩
    · rw [htraffic, Inventory.tally_concat, hslot, hclient]
      exact hgoes.fits.congr rfl rfl (Or.inl rfl)
    · rw [htraffic, Inventory.tally_concat, hslot, honly hv]
      exact hgoes.lawful hnext
  | @finish w hcall hnext hslot hclient hcalls htraffic =>
    have hgoes := hs.goes hcall
    refine ⟨hguarded, ?_, fun hv => absurd hv (hover hcalls _ _), fun _ hnone => Or.inl ?_⟩
    · rw [htraffic, Inventory.tally_concat, hslot, hclient]
      exact hgoes.fits
    · rw [htraffic, Inventory.tally_concat]
      exact hgoes.rest hnext (hslot ▸ hnone)
  | @fail w hcall hslot hclient hcalls htraffic =>
    obtain ⟨hfits, hrest⟩ := hs.fails hcall
    refine ⟨hguarded, ?_, fun hv => absurd hv (hover hcalls _ _), fun _ hnone => ?_⟩
    · rw [htraffic, Inventory.tally_concat, hslot, hclient]
      exact hfits
    · rw [htraffic, Inventory.tally_concat]
      refine (hrest (hslot ▸ hnone)).imp_right ?_
      rintro ⟨stack, rfl, -, hrunning⟩
      rw [hrunning]
      exact ⟨hclosed (hs.isShutDown hcall rfl), Nat.le_refl 1⟩

/-- **Moves that give up no call keep the account.** -/
theorem move (hdrop : ¬ p.drop) (hs : s.Accounted first) (h : Move p s s') :
    s'.Accounted first := by
  have hguarded := hs.toGuarded.move h
  rcases h.cases with hsilent | ⟨k, hloud⟩ | ⟨hp, -⟩
  · refine ⟨hguarded, ?_, fun hw => ?_, fun hidle hnone => ?_⟩
    · rw [hsilent.traffic, hsilent.slot]
      exact hs.fits.congr hsilent.client.stores hsilent.client.networks
        (hsilent.client.download.imp_right And.right)
    · rw [hsilent.traffic, hsilent.slot]
      exact hs.lawful ((hsilent.working _ _).mp hw)
    · rw [hsilent.traffic]
      exact (hs.rest (fun l w hw => hidle l w ((hsilent.working l w).mpr hw))
        (hsilent.slot ▸ hnone)).imp_right (And.imp_left h.isShutDown_eq_true)
  · exact hs.loud hguarded h.isShutDown_eq_true hloud
  · exact absurd hp hdrop

/-- At most one network runs. -/
theorem length_running_le (hs : s.Accounted first) :
    (first.tally s.traffic).running.length ≤ 1 := by
  by_cases hwork : ∃ k w, s.AtWork k w
  · obtain ⟨k, w, hw⟩ := hwork
    exact Work.length_running_le hs.fits (hs.lawful hw)
  · cases hslot : s.slot with
    | some stack => exact (hs.fits.kept hslot).length_running_le
    | none =>
      rcases hs.rest (fun k w hw => hwork ⟨k, w, hw⟩) hslot with hnone | ⟨-, hle⟩
      · simp [hnone]
      · exact hle

/-- A call that is waited for is in time. -/
theorem allows (hs : s.Accounted first) {w : Work} (hcall : s.AtWork k w) :
    (first.tally s.traffic).Allows w.call :=
  Work.allows_of_lawful hs.fits (hs.lawful hcall)

/-- What the answers tell of the stack in its place. -/
theorem kept_iff (hs : s.Accounted first) (hfirst : first.running = []) {stack : Stack}
    (hslot : s.slot = some stack) :
    (stack.network.number, stack.store.number) ∈ (first.tally s.traffic).homes ∧
      (stack.network.running = true ↔ Runs s.traffic stack.network.number) := by
  have hkept := hs.fits.kept hslot
  refine ⟨hkept.home, ?_⟩
  have hruns : stack.network.number ∈ (first.tally s.traffic).running ↔ _ :=
    Inventory.mem_running_iff (by simp [hfirst]) s.traffic
  rw [← hruns, hkept.running]
  cases stack.network.running <;> simp

end Accounted

theorem accounted_fresh (checkpoints : Checkpoints) (retry : RetryPolicy) (interval : Nat)
    (synced : Option Height) :
    (fresh checkpoints retry interval synced).Accounted (.initial synced.isSome) := by
  have hguarded := guarded_fresh checkpoints retry interval synced
  have hidle (k : Caller) (w : Work) : ¬ (fresh checkpoints retry interval synced).AtWork k w := by
    cases synced <;> simp [AtWork, fresh, start, startSynced, Table.get?]
  have hsound := Inventory.sound_initial synced.isSome
  cases synced with
  | none =>
    refine ⟨hguarded, ⟨hsound, rfl, rfl, fun hstack => ?_, fun h => absurd rfl h⟩,
      fun hw => absurd hw (hidle _ _), fun _ _ => Or.inl rfl⟩
    simp [fresh, start] at hstack
  | some height =>
    refine ⟨hguarded, ⟨hsound, rfl, rfl, fun hstack => ?_, fun h => absurd rfl h⟩,
      fun hw => absurd hw (hidle _ _), fun _ _ => Or.inl rfl⟩
    obtain rfl := Option.some.inj hstack
    exact ⟨List.mem_singleton_self (0, 0), List.not_mem_nil, rfl⟩

/-! ### Orderly traffic -/

/-- At no time two networks ran, and every call that was answered was in time. -/
structure Orderly (first : Inventory) (traffic : List Occurrence) : Prop where
  single : ∀ past rest, traffic = past ++ rest → (first.tally past).running.length ≤ 1
  allowed : ∀ past k call succeeded rest, traffic = past ++ .answered k call succeeded :: rest →
    (first.tally past).Allows call

theorem orderly_nil (h : first.running.length ≤ 1) : Orderly first [] where
  single past rest hsplit := by
    rw [(List.append_eq_nil_iff.mp hsplit.symm).1]
    exact h
  allowed past k call succeeded rest hsplit := by simp at hsplit

/-- One more entry. -/
theorem Orderly.concat {traffic : List Occurrence} {o : Occurrence} (h : Orderly first traffic)
    (hsingle : (first.tally (traffic ++ [o])).running.length ≤ 1)
    (hallowed : ∀ k call succeeded, o = .answered k call succeeded →
      (first.tally traffic).Allows call) : Orderly first (traffic ++ [o]) where
  single past rest hsplit := by
    cases rest with
    | nil =>
      rw [List.append_nil] at hsplit
      exact hsplit ▸ hsingle
    | cons b rest =>
      rcases split_of_concat hsplit with ⟨rfl, -⟩ | ⟨rest, -, heq⟩
      · exact h.single _ [] (List.append_nil _).symm
      · exact h.single past _ heq
  allowed past k call succeeded rest hsplit := by
    rcases split_of_concat hsplit with ⟨rfl, rfl, -⟩ | ⟨rest, -, heq⟩
    · exact hallowed k call succeeded rfl
    · exact h.allowed past k call succeeded rest heq

/-- Moves keep the traffic orderly. -/
theorem Accounted.orderly (hdrop : ¬ p.drop) (hs : s.Accounted first)
    (hpast : Orderly first s.traffic) (h : Move p s s') : Orderly first s'.traffic := by
  have hs' := hs.move hdrop h
  rcases h.traffic_eq_or_loud with heq | ⟨k, hloud⟩
  · rw [heq]
    exact hpast
  · have hsingle := hs'.length_running_le
    cases hloud with
    | decline _ _ _ _ _ htraffic | begin _ _ _ _ htraffic =>
      rw [htraffic] at hsingle ⊢
      exact hpast.concat hsingle (by simp)
    | @goOn w _ hcall _ _ _ _ htraffic | @finish w hcall _ _ _ _ htraffic
    | @fail w hcall _ _ _ htraffic =>
      rw [htraffic] at hsingle ⊢
      refine hpast.concat hsingle fun l call succeeded ho => ?_
      obtain ⟨-, rfl, -⟩ := by simpa using ho
      exact hs.allows hcall

/-! ### Runs -/

/-- **Networks and stores live in order** in any run that gives up no call midway, whatever calls of
the client fail. At no time two networks ran. Every call that the client answered was in time, and
so is the one that it has yet to answer. It has made as many stores and networks as it answered for,
and the stack in its place has a network that was built on its store, and knows whether that runs.
-/
theorem run_lifecycle (checkpoints : Checkpoints) (retry : RetryPolicy) (interval : Nat)
    (synced : Option Height) {actions : List Action}
    (hkept : Along (fun s a => ¬ s.GivesUp a) (fresh checkpoints retry interval synced) actions) :
    let s := (fresh checkpoints retry interval synced).run actions
    let inventory := (Inventory.initial synced.isSome).tally
    (∀ past rest n n', s.traffic = past ++ rest → Runs past n → Runs past n' → n = n') ∧
      (∀ past k call succeeded rest, s.traffic = past ++ .answered k call succeeded :: rest →
        InTime (inventory past).homes past call) ∧
      (∀ k w, s.AtWork k w → InTime (inventory s.traffic).homes s.traffic w.call) ∧
      (inventory s.traffic).stores = s.client.storeCount ∧
      (inventory s.traffic).networks = s.client.networkCount ∧
      ∀ stack, s.slot = some stack →
        (stack.network.number, stack.store.number) ∈ (inventory s.traffic).homes ∧
          (stack.network.running = true ↔ Runs s.traffic stack.network.number) := by
  intro s inventory
  have hfirst : (Inventory.initial synced.isSome).running = [] := by cases synced <;> rfl
  have hstart : Orderly (.initial synced.isSome)
      (fresh checkpoints retry interval synced).traffic := by
    have hempty : (fresh checkpoints retry interval synced).traffic = [] := by cases synced <;> rfl
    rw [hempty]
    exact orderly_nil (by simp [hfirst])
  obtain ⟨hs, horderly⟩ : s.Accounted (.initial synced.isSome) ∧
      Orderly (.initial synced.isSome) s.traffic := moves_invariant
    (I := fun s => s.Accounted (.initial synced.isSome) ∧
      Orderly (.initial synced.isSome) s.traffic)
    (fun hs h => ⟨hs.1.move not_false h, hs.1.orderly not_false hs.2 h⟩)
    ⟨accounted_fresh checkpoints retry interval synced, hstart⟩
    (run_moves (ticksDriven_fresh checkpoints retry interval synced) (along_noDrop hkept))
  refine ⟨fun past rest n n' hsplit hn hn' => ?_, fun past k call succeeded rest hsplit => ?_,
    fun k w hw => Inventory.inTime_of_allows (hs.allows hw), hs.fits.stores.symm,
    hs.fits.networks.symm, fun stack => hs.kept_iff hfirst⟩
  · have hruns (n : Nat) : n ∈ (inventory past).running ↔ Runs past n :=
      Inventory.mem_running_iff (by simp [hfirst]) past
    have hle := horderly.single past rest hsplit
    rw [← hruns] at hn hn'
    obtain ⟨m, hm⟩ := List.length_eq_one_iff.mp (Nat.le_antisymm hle (List.length_pos_of_mem hn))
    rw [hm, List.mem_singleton] at hn hn'
    exact hn.trans hn'.symm
  · exact Inventory.inTime_of_allows (horderly.allowed past k call succeeded rest hsplit)

/-- A network fails to start. A regular download starts it all the same, and a shutdown stops it
before it closes the store. -/
theorem run_lifecycle_of_failure :
    let s₀ := fresh .empty {} 200 (some ⟨5000, by decide⟩)
    let actions : List Action := [.own (.make "savings" "w1" {}), .offer ["savings"] .genesis,
      .inject .startNetwork 1, .create "tick" .tick, .poll "tick", .poll "tick", .poll "tick",
      .poll "tick", .poll "tick", .poll "tick", .poll "tick", .create "download" .regular,
      .poll "download", .poll "download", .poll "download", .create "stop" .shutdown, .poll "stop",
      .poll "stop"]
    let s := s₀.run actions
    Along (fun s a => ¬ s.GivesUp a) s₀ actions ∧
      (∃ past rest, s.traffic = past ++ .answered (.named "tick") (.startNetwork 1) false :: rest ∧
        ¬ Runs past 1) ∧
      (∃ past rest,
        s.traffic = past ++ .answered (.named "download") (.resumeDownload 1) true :: rest ∧
        Runs past 1) ∧
      s.AtWork (.named "stop") (.closing ⟨⟨1, .genesis⟩, ⟨["w1"]⟩, ⟨1, false⟩⟩) ∧
      (∃ k, .answered k (.stopNetwork 1) true ∈ s.traffic) ∧ ¬ Runs s.traffic 1 := by
  intro s₀ actions s
  have hkept : Along (fun s a => ¬ s.GivesUp a) s₀ actions := by decide +kernel
  have hstart : s.traffic = s.traffic.take 6 ++
      .answered (.named "tick") (.startNetwork 1) false :: s.traffic.drop 7 := by decide +kernel
  have hresume : s.traffic = s.traffic.take 9 ++
      .answered (.named "download") (.resumeDownload 1) true :: s.traffic.drop 10 := by
    decide +kernel
  have hclosing : s.AtWork (.named "stop") (.closing ⟨⟨1, .genesis⟩, ⟨["w1"]⟩, ⟨1, false⟩⟩) := by
    unfold AtWork
    decide +kernel
  have hhome : (1, 1) ∈ ((Inventory.initial true).tally s.traffic).homes := by decide +kernel
  obtain ⟨-, hanswered, hworking, -⟩ :=
    run_lifecycle .empty {} 200 (some ⟨5000, by decide⟩) hkept
  obtain ⟨-, -, hstopped⟩ := hworking _ _ hclosing
  exact ⟨hkept, ⟨_, _, hstart, hanswered _ _ _ _ _ hstart⟩,
    ⟨_, _, hresume, hanswered _ _ _ _ _ hresume⟩, hclosing, hstopped 1 hhome⟩

end WalletReplay.Scheduler
