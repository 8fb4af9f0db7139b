import WalletReplay.CommandLine.Run
import WalletReplay.Proofs.Checkpoint.Choice
import WalletReplay.Proofs.Checkpoint.Printing
import WalletReplay.Proofs.Scheduler.Acceptance
import WalletReplay.Scheduler.Setup

/-!
# Where a replay would start

The command that shows where a replay would start reads the checkpoint file as the scheduler does,
but for one thing: if it is strict it fails where the file cannot be loaded. Otherwise such a file
counts as one that is empty, and nothing of it is used, not even the lines before the first that is
wrong.

What is shown is what a scheduler does. Its checkpoints never change once it is set up, so a task
starts at the checkpoint that is shown, whatever has happened before it is offered.

## What is proved

* `load_toUTF8` — a text that was written to a file is read from it.
* `resolve_loadOrEmpty_cases` — the checkpoint that a target resolves to in a file is genesis, or has
  a hash.
* `showCheckpoint_of_ok`, `showCheckpoint_of_error` — what is shown of a file that can be loaded, and
  of one that cannot.
* `tells_showStart` — the text that is shown names the checkpoint that the target resolves to.
* `exists_task_of_offer` — a task that a scheduler accepts starts at the checkpoint that its target
  resolves to in the file.
* `run_checkpoint` — the command, strict or not, and the scheduler agree.
-/

namespace WalletReplay

namespace Checkpoints

theorem load_toUTF8 (text : String) : load (.file text.toUTF8) = read text.toList := by
  have hvalid : String.fromUTF8? text.toUTF8 = some text := dif_pos text.isValidUTF8
  rw [load, FileState.text, hvalid]

/-- An empty file has no checkpoints. -/
theorem load_empty : load (.file .empty) = .ok empty :=
  load_toUTF8 ""

theorem loadOrEmpty_of_ok {file : FileState} {cs : Checkpoints} (h : load file = .ok cs) :
    loadOrEmpty file = cs := by
  rw [loadOrEmpty, h]

theorem loadOrEmpty_of_error {file : FileState} {e : CheckpointError} (h : load file = .error e) :
    loadOrEmpty file = empty := by
  rw [loadOrEmpty, h]

/-- Every checkpoint that is loaded has a hash. -/
theorem hash_of_mem_loadOrEmpty {file : FileState} {c : Checkpoint}
    (hc : c ∈ (loadOrEmpty file).toList) : ∃ hash, c.hash = some hash := by
  cases hload : load file with
  | error e =>
    rw [loadOrEmpty_of_error hload] at hc
    cases hc
  | ok cs =>
    rw [loadOrEmpty_of_ok hload] at hc
    unfold load at hload
    split at hload
    · obtain ⟨hwritten, -⟩ := exists_read_iff.mp ⟨cs, hload, rfl⟩
      exact Option.isSome_iff_exists.mp (hwritten.readable c hc).1.hash
    · cases hload

/-- Where a replay starts, there is genesis or a checkpoint with a hash. -/
theorem resolve_loadOrEmpty_cases (file : FileState) (target : Target) :
    (loadOrEmpty file).resolve target = .genesis ∨
      ∃ hash, ((loadOrEmpty file).resolve target).hash = some hash := by
  have hbest := isBest_resolve (loadOrEmpty file) target
  generalize (loadOrEmpty file).resolve target = start at hbest
  cases hbest with
  | genesis => exact .inl rfl
  | highest hmem => exact .inr (hash_of_mem_loadOrEmpty hmem)

end Checkpoints

/-- A task that is accepted by a scheduler starts where its target resolves to in the file that the
scheduler was set up with, whatever has happened since. -/
theorem Scheduler.exists_task_of_offer (disk : Disk Id) (settings : Settings) (directory : String)
    (synced : Option Height) (actions : List Action) {request : Request} {id : TaskId} :
    let fresh : Scheduler := init disk settings directory synced
    let s := fresh.run actions
    let file : FileState := disk.look (settings.checkpointsPathIn directory)
    (s.offer request).2 = some id → ∃ task, (s.offer request).1.queue = s.queue.push task ∧
      task.id = id ∧ task.start = (Checkpoints.loadOrEmpty file).resolve request.target := by
  intro fresh s file hid
  have hcheckpoints : s.checkpoints = Checkpoints.loadOrEmpty file :=
    checkpoints_run _ settings.retryPolicy settings.interval synced actions
  obtain ⟨-, hoffer⟩ := offer_of_eq_some hid
  rw [hoffer, hcheckpoints]
  exact ⟨_, queue_enroll _ _, rfl, rfl⟩

namespace CommandLine

open Checkpoints

variable {file : FileState} {cs : Checkpoints} {e : CheckpointError}

/-! ### Texts -/

/-- `Tells path cs start text`: the text says how many checkpoints were loaded from the path, and
that a replay starts from genesis, or from a checkpoint of some height, second and hash. -/
inductive Tells (path : String) (cs : Checkpoints) (start : Checkpoint) : String → Prop where
  /-- A replay starts from genesis. -/
  | genesis (h : start.height = .zero) : Tells path cs start
      ("Loaded " ++ toString cs.size ++ " checkpoints from " ++ path ++ "\n" ++
        "A replay to this point starts from genesis.\n")
  /-- A replay starts from a checkpoint. -/
  | checkpoint {hash : BlockHash} (h : start.height ≠ .zero) (hhash : start.hash = some hash) :
      Tells path cs start ("Loaded " ++ toString cs.size ++ " checkpoints from " ++ path ++ "\n" ++
        ("A replay to this point starts from checkpoint " ++ toString start.height.val ++ " (time " ++
          String.ofList (Text.Decimal.ofInt start.time.seconds) ++ ", hash " ++
          String.ofList hash.toHex ++ ").\n"))

theorem showStart_eq (path : String) (aim : Aim) (cs : Checkpoints) : showStart path aim cs =
    .done ("Loaded " ++ toString cs.size ++ " checkpoints from " ++ path ++ "\n" ++
      (startLine (cs.resolve aim.target) ++ "\n")) := by
  simp [showStart, Outcome.ofLines, String.join, String.append_assoc]

/-- What is shown names the checkpoint that the target resolves to. -/
theorem tells_showStart (path : String) (aim : Aim) (file : FileState) :
    ∃ text, showStart path aim (loadOrEmpty file) = .done text ∧
      Tells path (loadOrEmpty file) ((loadOrEmpty file).resolve aim.target) text := by
  rw [showStart_eq]
  refine ⟨_, rfl, ?_⟩
  have hcases := resolve_loadOrEmpty_cases file aim.target
  generalize (loadOrEmpty file).resolve aim.target = start at hcases
  by_cases h : start.height = .zero
  · have hline : startLine start = "A replay to this point starts from genesis." :=
      if_pos (decide_eq_true h)
    rw [hline]
    exact .genesis h
  · rcases hcases with rfl | ⟨hash, hhash⟩
    · exact absurd rfl h
    · have hline : startLine start ++ "\n" =
          "A replay to this point starts from checkpoint " ++ toString start.height.val ++
            " (time " ++ String.ofList (Text.Decimal.ofInt start.time.seconds) ++ ", hash " ++
            String.ofList hash.toHex ++ ").\n" := by
        simp [startLine, Checkpoint.isGenesis, h, hhash, String.append_assoc]
      rw [hline]
      exact .checkpoint h hhash

/-- Without checkpoints, a replay starts from genesis. -/
theorem showStart_empty (path : String) (aim : Aim) : showStart path aim empty =
    .done ("Loaded 0 checkpoints from " ++ path ++ "\n" ++
      "A replay to this point starts from genesis.\n") := by
  rw [showStart_eq, resolve_empty]
  rfl

/-! ### Strict and lenient -/

/-- What is shown of a file that can be loaded, strictly or not. -/
theorem showCheckpoint_of_ok (h : load file = .ok cs) (path : String) (aim : Aim) (strict : Bool) :
    showCheckpoint path file aim strict = showStart path aim cs := by
  cases strict with
  | true => simp [showCheckpoint, h]
  | false => simp [showCheckpoint, loadOrEmpty_of_ok h]

theorem showCheckpoint_of_error (h : load file = .error e) (path : String) (aim : Aim) :
    showCheckpoint path file aim true = .failed (.ofCheckpointError e) := by
  simp [showCheckpoint, h]

/-- The strict command fails where the file cannot be loaded. -/
theorem exitCode_strict_ne_zero_iff (path : String) (file : FileState) (aim : Aim) :
    (showCheckpoint path file aim true).exitCode ≠ 0 ↔ ∃ e, load file = .error e := by
  cases h : load file with
  | ok cs => simp [showCheckpoint_of_ok h, showStart_eq, Outcome.exitCode]
  | error e => simp [showCheckpoint_of_error h, Outcome.exitCode]

/-- **What is shown about a target is what a scheduler does about it**, and whether the command is
strict only matters where the checkpoint file cannot be loaded. The strict command fails exactly then,
and the lenient one then shows what it would show of an empty file. A height aims at that height, and a
date at that time: what it resolves to is shown, and is where a task with that target starts if it is
accepted by a scheduler that was set up from the same settings and disk, after any run. -/
theorem run_checkpoint (disk : Disk Id) (settings : Settings) (directory : String)
    (synced : Option Height) :
    let path := settings.checkpointsPathIn directory
    let file : FileState := disk.look path
    let outcome (disk : Disk Id) (aim : Aim) (strict : Bool) : Outcome :=
      Command.run disk settings directory (.checkpoint aim strict)
    let agree (aim : Aim) (target : Target) : Prop :=
      (∃ text, outcome disk aim false = .done text ∧
        Tells path (loadOrEmpty file) ((loadOrEmpty file).resolve target) text) ∧
      ∀ (actions : List Action) (request : WalletReplay.Request) (id : TaskId),
        request.target = target →
        let fresh : Scheduler := Scheduler.init disk settings directory synced
        let s := fresh.run actions
        (s.offer request).2 = some id → ∃ task, (s.offer request).1.queue = s.queue.push task ∧
          task.id = id ∧ task.start = (loadOrEmpty file).resolve target
    (∀ aim, ((outcome disk aim true).exitCode ≠ 0 ↔ ∃ e, load file = .error e) ∧
      ((outcome disk aim true).exitCode = 0 → outcome disk aim true = outcome disk aim false) ∧
      ∀ e, load file = .error e →
        (∀ other : Disk Id, other.look path = .file .empty →
          outcome disk aim false = outcome other aim false) ∧
        outcome disk aim false = .done ("Loaded 0 checkpoints from " ++ path ++ "\n" ++
          "A replay to this point starts from genesis.\n")) ∧
      (∀ height, agree (.height height) (.height height)) ∧
      ∀ date, agree (.date date) (.time date.time) := by
  intro path file outcome agree
  have houtcome (disk : Disk Id) (aim : Aim) (strict : Bool) :
      outcome disk aim strict = showCheckpoint path (disk.look path) aim strict := rfl
  have hlenient (disk : Disk Id) (aim : Aim) :
      outcome disk aim false = showStart path aim (loadOrEmpty (disk.look path)) := rfl
  have hagree (aim : Aim) : agree aim aim.target := by
    refine ⟨tells_showStart path aim file, ?_⟩
    intro actions request id htarget fresh s hid
    have htask := Scheduler.exists_task_of_offer disk settings directory synced actions hid
    rwa [htarget] at htask
  refine ⟨fun aim => ?_, fun height => hagree (.height height), fun date => hagree (.date date)⟩
  have hstrict := exitCode_strict_ne_zero_iff path file aim
  refine ⟨hstrict, fun hzero => ?_, fun e he => ⟨fun other hother => ?_, ?_⟩⟩
  · cases h : load file with
    | ok cs => rw [houtcome, houtcome, showCheckpoint_of_ok h, showCheckpoint_of_ok h]
    | error e => exact absurd hzero (hstrict.mpr ⟨e, h⟩)
  · rw [hlenient, hlenient, hother, loadOrEmpty_of_error he, loadOrEmpty_of_ok load_empty]
  · rw [hlenient, loadOrEmpty_of_error he, showStart_empty]

/-- A file has a checkpoint on its first line, and another file has a broken line behind it. Of the
second nothing is used; of the first, a replay starts at its checkpoint. -/
theorem run_checkpoint_of_broken_line :
    let line := "100 -5 ".toList ++ List.replicate 64 'a' ++ ['\n']
    let disk (text : List Char) : Disk Id :=
      ⟨fun _ => .file (String.ofList text).toUTF8, fun _ _ _ => .ok ()⟩
    let height : Height := ⟨150, by decide⟩
    let outcome (text : List Char) (strict : Bool) : Outcome :=
      Command.run (disk text) {} "data" (.checkpoint (.height height) strict)
    let broken := line ++ "200".toList
    let fresh : Scheduler := Scheduler.init (disk line) {} "data" none
    let s := fresh.run [.own (.make "savings" "w1" {})]
    ((outcome broken true).exitCode ≠ 0 ∧
      outcome broken false = .done ("Loaded 0 checkpoints from data/checkpoints-main.txt\n" ++
        "A replay to this point starts from genesis.\n")) ∧
      outcome line true = outcome line false ∧
      ∃ task, (s.offer ⟨[⟨0, "w1"⟩], .height height⟩).1.queue = s.queue.push task ∧ task.id = 0 ∧
        task.start.height = ⟨100, by decide⟩ := by
  intro line disk height outcome broken fresh s
  have hgood : ∃ cs, load (.file (String.ofList line).toUTF8) = .ok cs ∧
      (cs.resolve (.height height)).height = ⟨100, by decide⟩ := by
    rw [load_toUTF8, String.toList_ofList]
    exact ⟨_, rfl, by decide +kernel⟩
  have hbroken : load (.file (String.ofList broken).toUTF8) = .error (.malformed 2 .fields) := by
    rw [load_toUTF8, String.toList_ofList]
    decide
  obtain ⟨cs, hload, hheight⟩ := hgood
  obtain ⟨hcommand, -, -⟩ := run_checkpoint (disk broken) {} "data" none
  obtain ⟨hfails, -, hlenient⟩ := hcommand (.height height)
  obtain ⟨hcommand', hstarts, -⟩ := run_checkpoint (disk line) {} "data" none
  obtain ⟨hfails', hsame, -⟩ := hcommand' (.height height)
  refine ⟨⟨hfails.mpr ⟨_, hbroken⟩, (hlenient _ hbroken).2⟩, hsame ?_, ?_⟩
  · by_contra hne
    obtain ⟨e, he⟩ := hfails'.mp hne
    cases hload.symm.trans he
  · obtain ⟨task, hqueue, hid, hstart⟩ := (hstarts height).2
      [.own (.make "savings" "w1" {})] ⟨[⟨0, "w1"⟩], .height height⟩ 0 rfl (by decide)
    refine ⟨task, hqueue, hid, ?_⟩
    rw [hstart, loadOrEmpty_of_ok hload, hheight]

end CommandLine

end WalletReplay
