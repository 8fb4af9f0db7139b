import WalletReplay.Checkpoint.Collection
import WalletReplay.Text.Blank
import WalletReplay.Text.Line

/-!
# The text of a checkpoint file

One checkpoint a line: height, seconds since 1970 and hash, separated by blanks. What follows a `#`
is a comment, and a line that holds nothing else is passed over. Lines are read in order, and the
first that cannot stand where it stands ends the reading.
-/

namespace WalletReplay

namespace Checkpoint

/-- A line up to its comment. -/
def beforeComment (line : List Char) : List Char :=
  line.takeWhile (· ≠ '#')

/-- A height as a line gives it. -/
def readHeight? (cs : List Char) : Option Height :=
  (Text.Decimal.unsigned? cs).bind Height.ofNat?

/-- A time as a line gives it. -/
def readTime? (cs : List Char) : Option Timestamp :=
  (Text.Decimal.signed? cs).bind Timestamp.ofSeconds?

/-- The checkpoint that three fields denote. -/
def ofFields (height time hash : List Char) : Except LineFault Checkpoint :=
  match readHeight? height with
  | none => .error .height
  | some height =>
    match readTime? time with
    | none => .error .time
    | some time =>
      match BlockHash.ofHex? hash with
      | none => .error .hash
      | some hash => .ok { height, time, hash := some hash }

/-- The checkpoint on a line, or nothing where the line holds nothing. -/
def ofLine (line : List Char) : Except LineFault (Option Checkpoint) :=
  match Text.fields (beforeComment line) with
  | [] => .ok none
  | [height, time, hash] => (ofFields height time hash).map some
  | _ => .error .fields

end Checkpoint

namespace Checkpoints

/-- The checkpoints on the lines from the given one on, all above the last height before them. -/
def ofLines (number : Nat) (last : Option Height) :
    List (List Char) → Except CheckpointError (List Checkpoint)
  | [] => .ok []
  | line :: lines =>
    match Checkpoint.ofLine line with
    | .error fault => .error (.malformed number fault)
    | .ok none => ofLines (number + 1) last lines
    | .ok (some c) =>
      match last with
      | none => (ofLines (number + 1) (some c.height) lines).map (c :: ·)
      | some previous =>
        if c.height ≤ previous then .error (.unordered number c.height previous)
        else (ofLines (number + 1) (some c.height) lines).map (c :: ·)

/-- What is read ascends, and from above the last height before it. -/
theorem ofLines_ascending {number : Nat} {last : Option Height} {lines : List (List Char)}
    {cs : List Checkpoint} (h : ofLines number last lines = .ok cs) :
    Ascending cs ∧ ∀ previous ∈ last, ∀ c ∈ cs, previous < c.height := by
  induction lines generalizing number last cs with
  | nil =>
    simp only [ofLines, Except.ok.injEq] at h
    subst h
    exact ⟨.nil, by simp⟩
  | cons line lines ih =>
    rw [ofLines] at h
    split at h
    · cases h
    · exact ih h
    · rename_i c _
      have tail : ∀ {r}, (ofLines (number + 1) (some c.height) lines).map (c :: ·) = .ok r →
          ∃ ds, r = c :: ds ∧ Ascending (c :: ds) ∧ ∀ d ∈ ds, c.height < d.height := by
        intro r hr
        cases hd : ofLines (number + 1) (some c.height) lines with
        | error e => rw [hd] at hr; cases hr
        | ok ds =>
          rw [hd] at hr
          have hds := ih hd
          have above : ∀ d ∈ ds, c.height < d.height := hds.2 c.height rfl
          exact ⟨ds, (Except.ok.inj hr).symm, List.pairwise_cons.2 ⟨above, hds.1⟩, above⟩
      cases last with
      | none =>
        obtain ⟨ds, rfl, asc, _⟩ := tail h
        exact ⟨asc, by simp⟩
      | some previous =>
        simp only at h
        split at h
        · cases h
        · rename_i hlt
          obtain ⟨ds, rfl, asc, above⟩ := tail h
          refine ⟨asc, fun p hp d hd => ?_⟩
          obtain rfl : previous = p := by simpa using hp
          have hc : previous < c.height := by simpa [Fin.not_le] using hlt
          rcases List.mem_cons.1 hd with rfl | hd
          · exact hc
          · exact Fin.lt_trans hc (above d hd)

/-- The collection that the lines of a file give. -/
def readLines (lines : List (List Char)) : Except CheckpointError Checkpoints :=
  match h : ofLines 1 none lines with
  | .ok cs => .ok ⟨cs, (ofLines_ascending h).1⟩
  | .error e => .error e

/-- The collection that a text gives. -/
def read (text : List Char) : Except CheckpointError Checkpoints :=
  readLines (Text.lines text)

/-- Checkpoints as a text, one a line. -/
def text (cs : List Checkpoint) : List Char :=
  Text.unlines (cs.map Checkpoint.line)

end Checkpoints

end WalletReplay
