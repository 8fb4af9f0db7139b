import WalletReplay.Proofs.Scheduler.Claims
import WalletReplay.Proofs.Scheduler.Order

/-!
# What wallets are labelled with

A wallet that a task claims is labelled as waiting, and as downloading from the first attempt at the
task on. The completion of the task takes the label away.

A tick that is late upsets this. It waits for the chain while its task completes, gets the chain, and
labels the wallets of the task as downloading all the same: wallets that nobody claims any more, or
that another task claims, which may not even be the head. As long as no attempt begins at a task that
has completed, the labels tell what the wallets are busy with.

Owners are taken to make wallets that are not busy and have no label.

## What is proved

* `Followed.move` — a task in line was dispatched, and claims its wallets until it completes.
* `Labelled.move` — what moves keep of the labels.
* `run_labels` — after any run, what labels there are on which wallets.
-/

namespace WalletReplay

/-- An attempt has begun at a task that had completed. -/
def Late (journal : List Occurrence) : Prop :=
  ∃ past id rest, journal = past ++ .attempted id :: rest ∧ .completed id ∈ past

theorem Late.mono {journal journal' : List Occurrence} (h : Late journal)
    (hgrown : journal <+: journal') : Late journal' := by
  obtain ⟨past, id, rest, rfl, hpast⟩ := h
  obtain ⟨news, rfl⟩ := hgrown
  exact ⟨past, id, rest ++ news, by simp, hpast⟩

theorem Occurrence.notMem_asides {news : List Occurrence} (hnews : ∀ o ∈ news, o.isAside = true)
    {o : Occurrence} (ho : o.isAside = false) : o ∉ news := by
  intro hmem
  simp [hnews o hmem] at ho

namespace Scheduler

variable {s s' : Scheduler} {ws : List Wallet}

/-! ### Tasks and their ticks -/

/-- A task in line was dispatched and claims its wallets until it completes; a task that claims
wallets has not completed. -/
structure Followed (s : Scheduler) : Prop extends Ordered s where
  known : ∀ u ∈ s.lineTasks, ∃ now, .dispatched u.id now ∈ s.journal
  claiming : ∀ u ∈ s.lineTasks, u ∈ s.queue.claiming ∨ .completed u.id ∈ s.journal
  incomplete : ∀ t ∈ s.queue.claiming, .completed t.id ∉ s.journal
  completed_lt : ∀ id, .completed id ∈ s.journal → id < s.acceptedCount

namespace Followed

/-- A task in line was there before, or is dispatched. -/
theorem mem_lineTasks (h : Course s s') {u : Task} (hu : u ∈ s'.lineTasks) : u ∈ s.lineTasks ∨
    u ∈ s'.queue.claiming ∧ (∃ now, .dispatched u.id now ∈ s'.journal) ∧
      ∃ failures, s'.queue.phase = .running u.id failures := by
  cases h with
  | aside _ _ _ _ hline => exact Or.inl (hline.subset hu)
  | accept _ _ _ _ _ hline | retire _ _ _ _ hline | attempt _ _ _ _ hline
  | complete _ _ _ _ _ _ hline => exact Or.inl (hline ▸ hu)
  | @dispatch head failures hjournal _ hhead _ hqueue hline =>
    rw [hline] at hu
    rcases List.mem_append.mp hu with hu | hu
    · exact Or.inl hu
    · rw [List.mem_singleton.mp hu, hqueue]
      exact Or.inr ⟨List.mem_of_head? hhead, ⟨s.clock, by simp [hjournal]⟩, failures, rfl⟩

/-- A task that has completed had, or is the head, which claims its wallets no longer. -/
theorem completed_cases (h : Course s s') {id : TaskId} (hid : .completed id ∈ s'.journal) :
    .completed id ∈ s.journal ∨ ∃ head rest, s.queue.tasks = head :: rest ∧ head.id = id ∧
      s'.queue.claiming = rest ∧ s'.acceptedCount = s.acceptedCount := by
  cases h with
  | aside hnews hjournal =>
    rw [hjournal] at hid
    exact Or.inl ((List.mem_append.mp hid).resolve_right (Occurrence.notMem_asides hnews rfl))
  | accept hnews _ hjournal =>
    rw [hjournal] at hid
    have hnot := Occurrence.notMem_asides (o := .completed id) hnews rfl
    exact Or.inl (by simpa [hnot] using hid)
  | retire hjournal | dispatch hjournal | attempt hjournal =>
    rw [hjournal] at hid
    exact Or.inl (by simpa using hid)
  | @complete head news hnews hjournal hcount hhead _ hqueue =>
    rw [hjournal] at hid
    have hnot := Occurrence.notMem_asides (o := .completed id) hnews rfl
    rcases List.mem_append.mp hid with hid | hid
    · exact Or.inl hid
    · obtain ⟨rest, hcons⟩ := List.head?_eq_some_iff.mp hhead
      have hidhead : id = head.id := by simpa [hnot] using hid
      refine Or.inr ⟨head, rest, hcons, hidhead.symm, ?_, hcount⟩
      rw [hqueue, Queue.claiming_of_retiring rfl, hcons, List.tail_cons]

theorem acceptedCount_le (h : Course s s') : s.acceptedCount ≤ s'.acceptedCount := by
  cases h with
  | accept _ _ _ hcount =>
    rw [hcount]
    exact Nat.le_succ _
  | aside _ _ hcount | retire _ hcount | dispatch _ hcount | attempt _ hcount
  | complete _ _ hcount => exact Nat.le_of_eq hcount.symm

/-- **Moves keep tasks followed.** -/
theorem move {p : Terms} (hs : s.Followed) (h : Move p s s') : s'.Followed := by
  have hc := h.course hs.inLine hs.headMatches
  refine ⟨hs.toOrdered.move h, fun u hu => ?_, fun u hu => ?_, fun t ht hcompleted => ?_,
    fun id hid => ?_⟩
  · rcases mem_lineTasks hc hu with hu | ⟨-, hnow, -⟩
    · obtain ⟨now, hnow⟩ := hs.known u hu
      exact ⟨now, hc.journal_prefix.subset hnow⟩
    · exact hnow
  · rcases mem_lineTasks hc hu with hu | ⟨hclaiming, -⟩
    · rcases hs.claiming u hu with hclaiming | hcompleted
      · exact hc.claiming_or_completed hs.headMatches hclaiming
      · exact Or.inr (hc.journal_prefix.subset hcompleted)
    · exact Or.inl hclaiming
  · rcases completed_cases hc hcompleted with hcompleted | ⟨head, rest, hcons, hid, hclaiming, -⟩
    · rcases hc.claiming_or_accepted hs.headMatches ht with ht | ⟨hid, -⟩
      · exact hs.incomplete t ht hcompleted
      · exact absurd (hid ▸ hs.completed_lt _ hcompleted) (Nat.lt_irrefl _)
    · have hids := hs.ids_pairwise
      rw [hcons, List.pairwise_cons] at hids
      exact absurd hid (Nat.ne_of_lt (hids.1 t (hclaiming ▸ ht)))
  · rcases completed_cases hc hid with hid | ⟨head, rest, hcons, rfl, -, hcount⟩
    · exact Nat.lt_of_lt_of_le (hs.completed_lt id hid) (acceptedCount_le hc)
    · rw [hcount, ← List.mem_range, ← hs.retired, hcons]
      simp

end Followed

theorem followed_fresh (checkpoints : Checkpoints) (retry : RetryPolicy) (interval : Nat)
    (synced : Option Height) : (fresh checkpoints retry interval synced).Followed := by
  have hordered := ordered_fresh checkpoints retry interval synced
  cases synced <;> exact
    { toOrdered := hordered
      known := fun _ h => by simp [lineTasks, fresh, start, startSynced] at h
      claiming := fun _ h => by simp [lineTasks, fresh, start, startSynced] at h
      incomplete := fun _ h => by simp [fresh, start, startSynced, Queue.claiming] at h
      completed_lt := fun _ h => by simp [fresh, start, startSynced] at h }

/-! ### Labels -/

/-- The wallets that tasks claim are those that are busy. A wallet that a task claims is labelled as
waiting, or as downloading if the task was dispatched; another has no label. Wallets may besides be
labelled as downloading if an attempt has begun too late. -/
structure Labelled (ws : List Wallet) (s : Scheduler) : Prop
    extends Marked SyncState.busy (fun _ => true) false ws s where
  followed : s.Followed
  claimedLabel : ∀ t w, s.Claims t w →
    (s.roster.ledger.get w).label = some .waiting ∨
      (s.roster.ledger.get w).label = some .downloading ∧
        (Late s.journal ∨ ∃ now, .dispatched t.id now ∈ s.journal)
  freeLabel : ∀ w ∈ ws, (∀ t, ¬ s.Claims t w) →
    (s.roster.ledger.get w).label = none ∨
      (s.roster.ledger.get w).label = some .downloading ∧ Late s.journal

namespace Labelled

/-- An attempt that begins is late, or at the task that claims the wallets of its task. -/
theorem late_or_claims (hs : Labelled ws s) {k : Caller} {task : Task}
    (hcall : s.Holds k (.replay task)) {w : Wallet} (hw : w ∈ ws)
    (hwallet : ∃ v ∈ task.wallets, v.key = w.key)
    (hjournal : s'.journal = s.journal ++ [.acquired k, .attempted task.id]) :
    Late s'.journal ∨ s.Claims task w ∧ ∃ now, .dispatched task.id now ∈ s.journal := by
  obtain ⟨rest, hfirst⟩ := hcall.lineTasks_eq_cons
  have hline : task ∈ s.lineTasks := by simp [hfirst]
  rcases hs.followed.claiming task hline with hclaiming | hcompleted
  · obtain ⟨v, hv, hkey⟩ := hwallet
    obtain rfl := hs.known.eq_of_key (hs.mem_of_claiming hclaiming hv) hw hkey
    exact Or.inr ⟨⟨hclaiming, hv⟩, hs.followed.known task hline⟩
  · refine Or.inl ⟨s.journal ++ [.acquired k], task.id, [], ?_, List.mem_append_left _ hcompleted⟩
    rw [hjournal]
    simp

theorem claimedLabel_touch {p : Terms} (hs : Labelled ws s) {w : Wallet} (hw : w ∈ ws)
    (h : Touch p w s s') (hgrown : s.journal <+: s'.journal) {t : Task} (ht : s'.Claims t w) :
    (s'.roster.ledger.get w).label = some .waiting ∨
      (s'.roster.ledger.get w).label = some .downloading ∧
        (Late s'.journal ∨ ∃ now, .dispatched t.id now ∈ s'.journal) := by
  have hold (hlabel : (s'.roster.ledger.get w).label = (s.roster.ledger.get w).label)
      (ht : s.Claims t w) : (s'.roster.ledger.get w).label = some .waiting ∨
        (s'.roster.ledger.get w).label = some .downloading ∧
          (Late s'.journal ∨ ∃ now, .dispatched t.id now ∈ s'.journal) := by
    rw [hlabel]
    rcases hs.claimedLabel t w ht with h | ⟨h, hlate | ⟨now, hnow⟩⟩
    · exact Or.inl h
    · exact Or.inr ⟨h, Or.inl (hlate.mono hgrown)⟩
    · exact Or.inr ⟨h, Or.inr ⟨now, hgrown.subset hnow⟩⟩
  cases h with
  | rest hclaims hstate =>
    exact hold (by simpa using congrArg SyncState.label hstate) ((hclaims t).mp ht)
  | see _ _ hclaims hstate => exact hold (by rw [hstate]; rfl) ((hclaims t).mp ht)
  | download hcall hwallet hjournal hclaims hstate =>
    refine Or.inr ⟨by rw [hstate]; rfl, ?_⟩
    rcases hs.late_or_claims hcall hw hwallet hjournal with hlate | ⟨htask, now, hnow⟩
    · exact Or.inl hlate
    · have ht := (hclaims t).mp ht
      obtain rfl := hs.eq_of_mem ht.1 htask.1 ht.2 htask.2
      exact Or.inr ⟨now, hgrown.subset hnow⟩
  | claim _ _ _ hstate =>
    rw [hstate]
    exact Or.inl rfl
  | release _ _ hfree => exact absurd ht (hfree t)

theorem freeLabel_touch {p : Terms} (hs : Labelled ws s) {w : Wallet} (hw : w ∈ ws)
    (h : Touch p w s s') (hgrown : s.journal <+: s'.journal) (hfree : ∀ t, ¬ s'.Claims t w) :
    (s'.roster.ledger.get w).label = none ∨
      (s'.roster.ledger.get w).label = some .downloading ∧ Late s'.journal := by
  have hold (hlabel : (s'.roster.ledger.get w).label = (s.roster.ledger.get w).label)
      (hfree : ∀ t, ¬ s.Claims t w) : (s'.roster.ledger.get w).label = none ∨
        (s'.roster.ledger.get w).label = some .downloading ∧ Late s'.journal := by
    rw [hlabel]
    exact (hs.freeLabel w hw hfree).imp_right fun ⟨h, hlate⟩ => ⟨h, hlate.mono hgrown⟩
  cases h with
  | rest hclaims hstate =>
    exact hold (by simpa using congrArg SyncState.label hstate) fun t ht =>
      hfree t ((hclaims t).mpr ht)
  | see _ _ hclaims hstate =>
    exact hold (by rw [hstate]; rfl) fun t ht => hfree t ((hclaims t).mpr ht)
  | @download k task hcall hwallet hjournal hclaims hstate =>
    refine Or.inr ⟨by rw [hstate]; rfl, ?_⟩
    rcases hs.late_or_claims hcall hw hwallet hjournal with hlate | ⟨htask, -⟩
    · exact hlate
    · exact absurd ((hclaims task).mpr htask) (hfree task)
  | @claim task _ _ hclaims => exact absurd ((hclaims task).mpr rfl) (hfree task)
  | release _ _ _ hstate =>
    rw [hstate]
    exact Or.inl rfl

/-- **What moves keep of the labels.** -/
theorem move {p : Terms} (hmake : ∀ handle id state, ¬ p.own (.make handle id state))
    (hs : Labelled ws s) (h : Move p s s') : Labelled ws s' := by
  have hparted := hs.toParted.move hmake h
  have hc := h.course hs.inLine hs.headMatches
  have hgrown : s.journal <+: s'.journal := hc.journal_prefix
  refine ⟨hs.toMarked.move marks_busy hmake h, hs.followed.move h, fun t w ht => ?_,
    fun w hw hfree => ?_⟩
  · have hw := hparted.mem_of_claiming ht.1 ht.2
    exact hs.claimedLabel_touch hw (h.touch hs.toParted hw) hgrown ht
  · exact hs.freeLabel_touch hw (h.touch hs.toParted hw) hgrown hfree

/-- A wallet that is made without a label has none until a task claims it. -/
theorem make (hs : Labelled ws s) (handle : String) (id : WalletId) {state : SyncState}
    (hbusy : state.busy = false) (hlabel : state.label = none) :
    Labelled (ws ++ [⟨s.roster.ledger.size, id⟩])
      { s with roster := s.roster.own (.make handle id state) } := by
  have hkept : ∀ w ∈ ws, ((s.roster.own (.make handle id state)).ledger.get w).label =
      (s.roster.ledger.get w).label := fun w hw =>
    congrArg SyncState.label (Ledger.get_add_of_lt (hs.known.lt_size hw) id state)
  have hmove : Move {} s { s with roster := s.roster.own (.make handle id state) } := .own trivial
  refine ⟨hs.toMarked.make handle id hbusy, hs.followed.move hmove, fun t w ht => ?_,
    fun w hw hfree => ?_⟩
  · rw [hkept w (hs.mem_of_claiming ht.1 ht.2)]
    exact hs.claimedLabel t w ht
  · rcases List.mem_append.mp hw with hw | hw
    · rw [hkept w hw]
      exact hs.freeLabel w hw hfree
    · rw [List.mem_singleton.mp hw]
      refine Or.inl ((congrArg SyncState.label ?_).trans hlabel)
      exact s.roster.ledger.get_add_self id state

theorem act (hs : Labelled ws s) (hticks : s.TicksDriven) {a : Action}
    (ha : a.Makes fun state => state.busy = false ∧ state.label = none) :
    Labelled (ws ++ (s.madeWallet? a).toList) (s.act a).1 := by
  refine act_invariant hs hticks a (fun handle id state heq => ?_) fun hs h => hs.move noMaking_own h
  subst heq
  exact hs.make handle id ha.1 ha.2

theorem run (hs : Labelled ws s) (hticks : s.TicksDriven) {actions : List Action}
    (hclean : ∀ a ∈ actions, a.Makes fun state => state.busy = false ∧ state.label = none) :
    Labelled (ws ++ s.madeWallets actions) (s.run actions) :=
  run_invariant (fun hs hticks ha => hs.act hticks ha) hs hticks (along_of_forall hclean)

end Labelled

theorem labelled_fresh (checkpoints : Checkpoints) (retry : RetryPolicy) (interval : Nat)
    (synced : Option Height) : Labelled [] (fresh checkpoints retry interval synced) where
  toMarked := marked_fresh checkpoints retry interval synced
  followed := followed_fresh checkpoints retry interval synced
  claimedLabel t w ht := by
    cases synced <;> simp [Claims, fresh, start, startSynced, Queue.claiming] at ht
  freeLabel w hw := by simp at hw

/-- A task that was dispatched and claims wallets is the head. -/
theorem Followed.head_of_claiming (hs : s.Followed) {t : Task} (ht : t ∈ s.queue.claiming) {now : Nat}
    (h : .dispatched t.id now ∈ s.journal) : s.queue.head? = some t :=
  hs.head_of_dispatched (s.queue.claiming_subset ht) h

namespace Labelled

variable {w : Wallet}

/-- A wallet of the queue is busy if and only if a task claims it. -/
theorem busy_iff (hs : Labelled ws s) (hw : w ∈ ws) :
    (s.roster.ledger.get w).busy = true ↔ ∃ t, s.Claims t w := by
  constructor
  · intro hbusy
    by_contra hfree
    have hidle := hs.free w hw fun t ht => hfree ⟨t, ht⟩
    simp [hidle] at hbusy
  · rintro ⟨t, ht⟩
    exact hs.claimed t w ht

/-- A wallet that is busy has a label. -/
theorem label_of_busy (hs : Labelled ws s) (hw : w ∈ ws)
    (hbusy : (s.roster.ledger.get w).busy = true) :
    (s.roster.ledger.get w).label.isSome = true := by
  obtain ⟨t, ht⟩ := (hs.busy_iff hw).mp hbusy
  rcases hs.claimedLabel t w ht with h | ⟨h, -⟩ <;> rw [h] <;> rfl

/-- A wallet that is labelled is busy, unless as downloading by a late attempt. -/
theorem busy_of_label (hs : Labelled ws s) (hw : w ∈ ws) {label : BusyLabel}
    (hlabel : (s.roster.ledger.get w).label = some label) (h : label = .waiting ∨ ¬ Late s.journal) :
    (s.roster.ledger.get w).busy = true := by
  rw [hs.busy_iff hw]
  by_contra hfree
  rcases hs.freeLabel w hw fun t ht => hfree ⟨t, ht⟩ with hnone | ⟨hdownloading, hlate⟩
  · simp [hnone] at hlabel
  · rcases h with rfl | hnot
    · simp [hdownloading] at hlabel
    · exact hnot hlate

/-- Unless an attempt is late, a wallet of a task behind the head is labelled as waiting. -/
theorem waiting_of_ne_head (hs : Labelled ws s) (hnot : ¬ Late s.journal) {t : Task}
    (ht : s.Claims t w) (hhead : s.queue.head? ≠ some t) :
    (s.roster.ledger.get w).label = some .waiting := by
  rcases hs.claimedLabel t w ht with h | ⟨-, hlate | ⟨now, hnow⟩⟩
  · exact h
  · exact absurd hlate hnot
  · exact absurd (hs.followed.head_of_claiming ht.1 hnow) hhead

/-- Unless an attempt is late, a wallet that is labelled as downloading is one of the head, which
was dispatched and claims it. -/
theorem head_of_downloading (hs : Labelled ws s) (hnot : ¬ Late s.journal) (hw : w ∈ ws)
    (h : (s.roster.ledger.get w).label = some .downloading) :
    ∃ head, s.queue.head? = some head ∧ s.Claims head w ∧
      ∃ now, .dispatched head.id now ∈ s.journal := by
  obtain ⟨t, ht⟩ := (hs.busy_iff hw).mp (hs.busy_of_label hw h (Or.inr hnot))
  rcases hs.claimedLabel t w ht with hwaiting | ⟨-, hlate | ⟨now, hnow⟩⟩
  · simp [hwaiting] at h
  · exact absurd hlate hnot
  · exact ⟨t, hs.followed.head_of_claiming ht.1 hnow, ht, now, hnow⟩

end Labelled

/-- **Labels tell what wallets are busy with, as long as no attempt is late**, if owners make
wallets that are not busy and have no label. A busy wallet has a label, and one that waits is busy.
As long as no attempt has begun at a task that had completed, only busy wallets have labels, those
of tasks behind the head wait, and one that downloads is of the head, which was dispatched. -/
theorem run_labels (checkpoints : Checkpoints) (retry : RetryPolicy) (interval : Nat)
    (synced : Option Height) {actions : List Action}
    (hclean : ∀ a ∈ actions, a.Makes fun state => state.busy = false ∧ state.label = none) :
    let s₀ := fresh checkpoints retry interval synced
    let s := s₀.run actions
    let made := s₀.madeWallets actions
    let state := s.roster.ledger.get
    (∀ w ∈ made, ((state w).busy = true → (state w).label.isSome = true) ∧
        ((state w).label = some .waiting → (state w).busy = true)) ∧
      (¬ Late s.journal →
        (∀ w ∈ made, (state w).label.isSome = true ↔ (state w).busy = true) ∧
        (∀ t ∈ s.queue.claiming, s.queue.head? ≠ some t → ∀ w ∈ t.wallets,
          (state w).label = some .waiting) ∧
        ∀ w ∈ made, (state w).label = some .downloading →
          ∃ head ∈ s.queue.claiming, s.queue.head? = some head ∧ w ∈ head.wallets ∧
            (∃ now, .dispatched head.id now ∈ s.journal) ∧ .completed head.id ∉ s.journal) := by
  intro s₀ s made state
  have hs : Labelled made s := (labelled_fresh checkpoints retry interval synced).run
    (ticksDriven_fresh checkpoints retry interval synced) hclean
  refine ⟨fun w hw => ⟨hs.label_of_busy hw, fun h => hs.busy_of_label hw h (Or.inl rfl)⟩,
    fun hnot => ⟨fun w hw => ⟨fun h => ?_, hs.label_of_busy hw⟩, ?_, ?_⟩⟩
  · obtain ⟨label, hlabel⟩ := Option.isSome_iff_exists.mp h
    exact hs.busy_of_label hw hlabel (Or.inr hnot)
  · intro t ht hhead w hw
    exact hs.waiting_of_ne_head hnot ⟨ht, hw⟩ hhead
  · intro w hw h
    obtain ⟨head, hhead, ⟨hclaiming, hmem⟩, hnow⟩ := hs.head_of_downloading hnot hw h
    exact ⟨head, hclaiming, hhead, hmem, hnow, hs.followed.incomplete head hclaiming⟩

/-- A wallet is offered, a tick begins an attempt, and the wallet is found downloading. -/
theorem run_labels_of_tick :
    let actions : List Action := [.own (.make "savings" "w1" {}), .offer ["savings"] .genesis,
      .create "tick" .tick, .poll "tick"]
    let s := (fresh .empty {} 200 none).run actions
    let w : Wallet := ⟨0, "w1"⟩
    (∀ a ∈ actions, a.Makes fun state => state.busy = false ∧ state.label = none) ∧
      ¬ Late s.journal ∧ (s.roster.ledger.get w).busy = true ∧
      (s.roster.ledger.get w).label = some .downloading ∧
      ∃ head ∈ s.queue.claiming, s.queue.head? = some head ∧ w ∈ head.wallets := by
  intro actions s w
  have hclean : ∀ a ∈ actions, a.Makes fun state => state.busy = false ∧ state.label = none := by
    simp [actions, Action.Makes]
  have hnot : ¬ Late s.journal := by
    rintro ⟨past, id, rest, hsplit, hpast⟩
    have hcompleted : .completed id ∈ s.journal := by
      rw [hsplit]
      exact List.mem_append_left _ hpast
    have hjournal : s.journal =
        [.accepted 0, .dispatched 0 0, .acquired (.named "tick"), .attempted 0] := by decide
    simp [hjournal] at hcompleted
  have hmade : w ∈ (fresh .empty {} 200 none).madeWallets actions := by decide
  have hlabel : (s.roster.ledger.get w).label = some .downloading := by decide
  obtain ⟨-, hlabels⟩ := run_labels .empty {} 200 none hclean
  obtain ⟨hbusy, -, hhead⟩ := hlabels hnot
  obtain ⟨head, hclaiming, hfirst, hmem, -, -⟩ := hhead w hmade hlabel
  exact ⟨hclean, hnot, (hbusy w hmade).mp (by rw [hlabel]; rfl), hlabel, head, hclaiming, hfirst, hmem⟩

/-- A tick waits for the chain behind a regular download while its task completes. When it gets the
chain, the wallet is labelled as downloading, though it is no longer busy. -/
theorem downloading_of_late :
    let actions : List Action := [.own (.make "savings" "w1" {}), .offer ["savings"] .genesis,
      .create "download" .regular, .poll "download", .create "tick" .tick, .poll "tick", .notify 0,
      .poll "download", .poll "download", .poll "tick"]
    let s := (fresh .empty {} 200 (some ⟨5000, by decide⟩)).run actions
    let state := s.roster.ledger.get ⟨0, "w1"⟩
    state.busy = false ∧ state.label = some .downloading ∧ s.queue.claiming = [] := by
  decide +kernel

end Scheduler

end WalletReplay
