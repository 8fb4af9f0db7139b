import WalletReplay.Proofs.Settings.Tree

/-!
# The settings of a tree

Settings are decoded one by one, each from what stands for it in the tree: the entry of its name in
its section, or the item at its position if the section is an array. One that is not there is not
set; but a section on the network has to give it.

## What is proved

* `fieldsOf_eq_some_iff` — the values of the fields of a section, if it is a table of fields or an
  array of enough items.
* `withCheckpoints_eq_some_iff`, `withConsensus_eq_some_iff`, `withReplay_eq_some_iff` — when a
  section is decoded, and to what.
* `ofValue?_eq_some_iff` — when a tree is decoded, and to what.
-/

namespace WalletReplay

open Value

/-- The settings one by one. -/
inductive Field where
  /-- The path of the checkpoint file. -/
  | checkpointsPath
  /-- The network. -/
  | network
  /-- The time between two ticks. -/
  | tickInterval
  /-- How many failed attempts are followed by another. -/
  | maxRetries
  /-- How much later the next attempt may begin. -/
  | retryBackoff
  deriving DecidableEq, Repr

/-- A value is what is decoded, if there is something to decode, and else what it is unless set. -/
def Decodes {α : Type} (decode : Value → Option α) (unset : α) (v : Option Value) (a : α) : Prop :=
  v.elim (a = unset) fun v => decode v = some a

namespace Field

/-- The name of its section. -/
def group : Field → String
  | checkpointsPath => "checkpoints"
  | network => "consensus"
  | tickInterval | maxRetries | retryBackoff => "replay"

/-- The names of the fields of its section, in their order. -/
def siblings : Field → List String
  | checkpointsPath => ["path"]
  | network => ["network"]
  | tickInterval | maxRetries | retryBackoff =>
    ["tick_interval_ms", "max_retries", "retry_backoff_ms"]

/-- Its position in a section that is an array. -/
def position : Field → Nat
  | checkpointsPath | network | tickInterval => 0
  | maxRetries => 1
  | retryBackoff => 2

/-- Its name in the section. -/
def name : Field → String
  | checkpointsPath => "path"
  | network => "network"
  | tickInterval => "tick_interval_ms"
  | maxRetries => "max_retries"
  | retryBackoff => "retry_backoff_ms"

theorem exists_group_iff {group : String} :
    group ∈ ["checkpoints", "consensus", "replay"] ↔ ∃ f : Field, f.group = group := by
  constructor
  · intro h
    simp only [List.mem_cons, List.not_mem_nil, or_false] at h
    obtain rfl | rfl | rfl := h
    · exact ⟨.checkpointsPath, rfl⟩
    · exact ⟨.network, rfl⟩
    · exact ⟨.tickInterval, rfl⟩
  · rintro ⟨f, rfl⟩
    cases f <;> decide

theorem mem_siblings_iff {f : Field} {name : String} :
    name ∈ f.siblings ↔ ∃ g : Field, g.group = f.group ∧ g.name = name := by
  constructor
  · intro h
    cases f with
    | checkpointsPath => exact ⟨.checkpointsPath, rfl, (List.mem_singleton.mp h).symm⟩
    | network => exact ⟨.network, rfl, (List.mem_singleton.mp h).symm⟩
    | tickInterval | maxRetries | retryBackoff =>
      simp only [siblings, List.mem_cons, List.not_mem_nil, or_false] at h
      obtain rfl | rfl | rfl := h
      · exact ⟨.tickInterval, rfl, rfl⟩
      · exact ⟨.maxRetries, rfl, rfl⟩
      · exact ⟨.retryBackoff, rfl, rfl⟩
  · rintro ⟨g, hgroup, rfl⟩
    revert hgroup
    cases f <;> cases g <;> decide

/-- The path of its key. -/
def path (f : Field) : List PathStep :=
  [.key f.group, .key f.name]

theorem path_eq_iff {f : Field} {group name : String} :
    f.path = [.key group, .key name] ↔ f.group = group ∧ f.name = name := by
  simp [path]

/-- The name of its variable. -/
def variableName : Field → String
  | checkpointsPath => "REWIND_CHECKPOINTS__PATH"
  | network => "REWIND_CONSENSUS__NETWORK"
  | tickInterval => "REWIND_REPLAY__TICK_INTERVAL_MS"
  | maxRetries => "REWIND_REPLAY__MAX_RETRIES"
  | retryBackoff => "REWIND_REPLAY__RETRY_BACKOFF_MS"

/-- Its variable is one of a field in a section, of the field that it is. -/
theorem path_of_variableName (f : Field) :
    (Environment.key? f.variableName).map KeyPath.ofKey = some f.path := by
  cases f <;> decide +kernel

/-- What stands under its key in a tree. -/
def own? (f : Field) (tree : Value) : Option Value :=
  tree.getIn? f.group f.name

/-- What stands at its position, if its section is an array. -/
def item? (f : Field) (tree : Value) : Option Value :=
  (tree.get? f.group).bind fun entry => entry.items[f.position]?

/-- What stands for it in a tree. -/
def value? (f : Field) (tree : Value) : Option Value :=
  (f.own? tree).or (f.item? tree)

/-- Whether it is set to what it is taken from: to a text, the name of a network, or a count. -/
def IsSet (f : Field) (source : Option Value) (s : Settings) : Prop :=
  match f with
  | checkpointsPath => Decodes (optional asText) none source s.checkpointsPath
  | network => Decodes (fun v => v.asText.bind NetworkKind.ofName?) .main source s.network
  | tickInterval => Decodes (optional asCount) none source s.tickInterval
  | maxRetries => Decodes (optional Settings.smallCount) none source s.maxRetries
  | retryBackoff => Decodes (optional asCount) none source s.retryBackoff

end Field

/-! ### One section -/

namespace Value

variable {names : List String} {v : Value} {vs : List Value}

/-- What stands in a section under a name, or at a position. -/
def part? (v : Value) (name : String) (position : Nat) : Option Value :=
  (v.get? name).or v.items[position]?

/-- A section is a table of fields, or an array with an item for each. -/
def HasShape (names : List String) : Value → Prop
  | table es => ∀ name ∈ es.map Prod.fst, name ∈ names
  | array items => names.length ≤ items.length
  | nil | bool _ | int _ | float _ | text _ => False

/-- The values of the fields of a section, if it has the shape of one. -/
theorem fieldsOf_eq_some_iff : v.fieldsOf names = some vs ↔
    v.HasShape names ∧ vs = names.mapIdx fun i name => (v.part? name i).getD nil := by
  cases v with
  | table es =>
    have hall : (es.all fun e => names.contains e.1) = true ↔ (table es).HasShape names := by
      simp [HasShape]
    have hparts : (names.map fun name => (es.lookup name).getD nil) =
        names.mapIdx fun i name => ((table es).part? name i).getD nil := by
      apply List.ext_getElem?
      simp [part?, get?, entries, items]
    rw [fieldsOf, ← hparts, ← hall, Option.ite_none_right_eq_some, Option.some.injEq,
      eq_comm (b := vs)]
  | array items =>
    have hparts (hle : names.length ≤ items.length) : items.take names.length =
        names.mapIdx fun i name => ((array items).part? name i).getD nil := by
      apply List.ext_getElem (by rw [List.length_take_of_le hle, List.length_mapIdx])
      intro i _ hi
      have hlt : i < items.length := by
        rw [List.length_mapIdx] at hi
        omega
      simp [part?, get?, entries, Value.items, hlt]
    rw [fieldsOf, Option.ite_none_right_eq_some, Option.some.injEq, eq_comm (b := vs)]
    exact and_congr_right fun hle => by rw [hparts hle]
  | _ => simp [fieldsOf, HasShape]

/-- A section has no names but those of fields. -/
theorem HasShape.mem {name : String} (h : v.HasShape names) (hname : (v.get? name).isSome) :
    name ∈ names := by
  cases v with
  | table es => exact h name (mem_names.mpr hname)
  | _ => cases hname

theorem optional_of_ne_nil {α : Type} {decode : Value → Option α} (h : v ≠ nil) :
    optional decode v = (decode v).map some := by
  cases v with
  | nil => exact absurd rfl h
  | _ => rfl

/-- Every scalar can be written as a text. -/
theorem IsScalar.exists_asText (h : v.IsScalar) : ∃ t, v.asText = some t := by
  cases v with
  | nil | array | table => exact h.elim
  | _ => exact ⟨_, rfl⟩

theorem optional_getD_iff {α : Type} {decode : Value → Option α} {source : Option Value}
    {a : Option α} :
    optional decode (source.getD nil) = some a ↔ Decodes (optional decode) none source a := by
  cases source with
  | none => exact ⟨fun h => (Option.some.inj h).symm, fun h => congrArg some h.symm⟩
  | some v => exact Iff.rfl

theorem bind_asText_getD_iff {α : Type} {decode : String → Option α} {source : Option Value}
    {unset a : α} : (source.getD nil).asText.bind decode = some a ↔
      source.isSome ∧ Decodes (fun v => v.asText.bind decode) unset source a := by
  cases source with
  | none => exact ⟨nofun, nofun⟩
  | some v => exact ⟨fun h => ⟨rfl, h⟩, fun h => h.2⟩

end Value

namespace Settings

variable {s s' : Settings} {v root : Value}

theorem withCheckpoints_eq_some_iff : withCheckpoints s v = some s' ↔
    v.HasShape ["path"] ∧
      ∃ path, Decodes (optional asText) none (v.part? "path" 0) path ∧
        s' = { s with checkpointsPath := path } := by
  constructor
  · intro h
    obtain ⟨vs, hvs, h⟩ := Option.bind_eq_some_iff.mp h
    obtain ⟨hshape, rfl⟩ := fieldsOf_eq_some_iff.mp hvs
    obtain ⟨path, hpath, hs⟩ := Option.bind_eq_some_iff.mp h
    cases hs
    exact ⟨hshape, path, optional_getD_iff.mp hpath, rfl⟩
  · rintro ⟨hshape, path, hpath, rfl⟩
    exact Option.bind_eq_some_iff.mpr ⟨_, fieldsOf_eq_some_iff.mpr ⟨hshape, rfl⟩,
      Option.bind_eq_some_iff.mpr ⟨path, optional_getD_iff.mpr hpath, rfl⟩⟩

theorem withConsensus_eq_some_iff : withConsensus s v = some s' ↔
    v.HasShape ["network"] ∧ (v.part? "network" 0).isSome ∧
      ∃ network, Decodes (fun v => v.asText.bind NetworkKind.ofName?) .main
        (v.part? "network" 0) network ∧ s' = { s with network } := by
  constructor
  · intro h
    obtain ⟨vs, hvs, h⟩ := Option.bind_eq_some_iff.mp h
    obtain ⟨hshape, rfl⟩ := fieldsOf_eq_some_iff.mp hvs
    obtain ⟨text, htext, h⟩ := Option.bind_eq_some_iff.mp h
    obtain ⟨network, hnetwork, hs⟩ := Option.bind_eq_some_iff.mp h
    cases hs
    obtain ⟨hpart, hdecodes⟩ :=
      bind_asText_getD_iff.mp (Option.bind_eq_some_iff.mpr ⟨text, htext, hnetwork⟩)
    exact ⟨hshape, hpart, network, hdecodes, rfl⟩
  · rintro ⟨hshape, hpart, network, hdecodes, rfl⟩
    obtain ⟨text, htext, hnetwork⟩ :=
      Option.bind_eq_some_iff.mp (bind_asText_getD_iff.mpr ⟨hpart, hdecodes⟩)
    exact Option.bind_eq_some_iff.mpr ⟨_, fieldsOf_eq_some_iff.mpr ⟨hshape, rfl⟩,
      Option.bind_eq_some_iff.mpr ⟨text, htext,
        Option.bind_eq_some_iff.mpr ⟨network, hnetwork, rfl⟩⟩⟩

theorem withReplay_eq_some_iff : withReplay s v = some s' ↔
    v.HasShape ["tick_interval_ms", "max_retries", "retry_backoff_ms"] ∧
      ∃ tick retries backoff,
        Decodes (optional asCount) none (v.part? "tick_interval_ms" 0) tick ∧
        Decodes (optional smallCount) none (v.part? "max_retries" 1) retries ∧
        Decodes (optional asCount) none (v.part? "retry_backoff_ms" 2) backoff ∧
        s' = { s with tickInterval := tick, maxRetries := retries, retryBackoff := backoff } := by
  constructor
  · intro h
    obtain ⟨vs, hvs, h⟩ := Option.bind_eq_some_iff.mp h
    obtain ⟨hshape, rfl⟩ := fieldsOf_eq_some_iff.mp hvs
    obtain ⟨tick, htick, h⟩ := Option.bind_eq_some_iff.mp h
    obtain ⟨retries, hretries, h⟩ := Option.bind_eq_some_iff.mp h
    obtain ⟨backoff, hbackoff, hs⟩ := Option.bind_eq_some_iff.mp h
    cases hs
    exact ⟨hshape, tick, retries, backoff, optional_getD_iff.mp htick,
      optional_getD_iff.mp hretries, optional_getD_iff.mp hbackoff, rfl⟩
  · rintro ⟨hshape, tick, retries, backoff, htick, hretries, hbackoff, rfl⟩
    exact Option.bind_eq_some_iff.mpr ⟨_, fieldsOf_eq_some_iff.mpr ⟨hshape, rfl⟩,
      Option.bind_eq_some_iff.mpr ⟨tick, optional_getD_iff.mpr htick,
        Option.bind_eq_some_iff.mpr ⟨retries, optional_getD_iff.mpr hretries,
          Option.bind_eq_some_iff.mpr ⟨backoff, optional_getD_iff.mpr hbackoff, rfl⟩⟩⟩⟩

/-! ### All sections -/

/-- Without its section nothing stands for a setting. -/
theorem value?_of_none {f : Field} (h : root.get? f.group = none) : f.value? root = none := by
  simp [Field.value?, Field.own?, Field.item?, getIn?, h]

theorem value?_of_some {f : Field} (h : root.get? f.group = some v) :
    f.value? root = v.part? f.name f.position := by
  simp [Field.value?, Field.own?, Field.item?, getIn?, part?, h]

/-- A section has the shape of one, if it is there. -/
def Shaped (root : Value) (group : String) (names : List String) : Prop :=
  ∀ entry, root.get? group = some entry → entry.HasShape names

theorem exists_field_of_shaped (hgroups : ∀ group ∈ root.names, ∃ f : Field, f.group = group)
    (hshaped : ∀ f : Field, Shaped root f.group f.siblings) {group name : String}
    (h : (root.getIn? group name).isSome) : ∃ f : Field, f.group = group ∧ f.name = name := by
  obtain ⟨v, hv⟩ := Option.isSome_iff_exists.mp h
  obtain ⟨entry, hentry, hget⟩ := Option.bind_eq_some_iff.mp hv
  obtain ⟨f, rfl⟩ := hgroups group (mem_names.mpr (Option.isSome_of_eq_some hentry))
  exact Field.mem_siblings_iff.mp ((hshaped f entry hentry).mem (Option.isSome_of_eq_some hget))

/-- A section that is not there changes nothing; one that is there has the shape of one. -/
theorem withSection_eq_some_iff {group : String} {names : List String}
    {decode : Settings → Value → Option Settings} {R : Prop}
    (hnone : root.get? group = none → (R ↔ s' = s))
    (hsome : ∀ v, root.get? group = some v → (decode s v = some s' ↔ v.HasShape names ∧ R)) :
    withSection s root group decode = some s' ↔ Shaped root group names ∧ R := by
  unfold withSection Shaped
  cases h : root.get? group with
  | none => simp [hnone h, eq_comm]
  | some v => simp [hsome v h]

theorem withSection_checkpoints_iff (hunset : s.checkpointsPath = none) :
    withSection s root "checkpoints" withCheckpoints = some s' ↔
      Shaped root "checkpoints" ["path"] ∧
        ∃ path, Decodes (optional asText) none (Field.checkpointsPath.value? root) path ∧
          s' = { s with checkpointsPath := path } := by
  refine withSection_eq_some_iff (fun hnone => ?_) (fun v hv => ?_)
  · rw [value?_of_none hnone]
    constructor
    · rintro ⟨path, rfl, rfl⟩
      rw [← hunset]
    · rintro rfl
      exact ⟨none, rfl, by rw [← hunset]⟩
  · rw [value?_of_some hv]
    exact withCheckpoints_eq_some_iff

theorem withSection_consensus_iff (hunset : s.network = .main) :
    withSection s root "consensus" withConsensus = some s' ↔
      Shaped root "consensus" ["network"] ∧
        ((root.get? "consensus").isSome → (Field.network.value? root).isSome) ∧
        ∃ network, Decodes (fun v => v.asText.bind NetworkKind.ofName?) .main
          (Field.network.value? root) network ∧ s' = { s with network } := by
  refine withSection_eq_some_iff (fun hnone => ?_) (fun v hv => ?_)
  · rw [value?_of_none hnone, hnone]
    constructor
    · rintro ⟨-, network, rfl, rfl⟩
      rw [← hunset]
    · rintro rfl
      exact ⟨nofun, .main, rfl, by rw [← hunset]⟩
  · rw [value?_of_some hv, hv]
    refine withConsensus_eq_some_iff.trans (and_congr_right fun _ => and_congr_left fun _ => ?_)
    exact ⟨fun h _ => h, fun h => h rfl⟩

theorem withSection_replay_iff (htick : s.tickInterval = none) (hretries : s.maxRetries = none)
    (hbackoff : s.retryBackoff = none) :
    withSection s root "replay" withReplay = some s' ↔
      Shaped root "replay" ["tick_interval_ms", "max_retries", "retry_backoff_ms"] ∧
        ∃ tick retries backoff,
          Decodes (optional asCount) none (Field.tickInterval.value? root) tick ∧
          Decodes (optional smallCount) none (Field.maxRetries.value? root) retries ∧
          Decodes (optional asCount) none (Field.retryBackoff.value? root) backoff ∧
          s' = { s with tickInterval := tick, maxRetries := retries, retryBackoff := backoff } := by
  refine withSection_eq_some_iff (fun hnone => ?_) (fun v hv => ?_)
  · rw [value?_of_none hnone, value?_of_none hnone, value?_of_none hnone]
    obtain ⟨path, network, tick, retries, backoff⟩ := s
    cases htick
    cases hretries
    cases hbackoff
    constructor
    · rintro ⟨tick, retries, backoff, rfl, rfl, rfl, rfl⟩
      rfl
    · rintro rfl
      exact ⟨none, none, none, rfl, rfl, rfl, rfl⟩
  · rw [value?_of_some hv, value?_of_some hv, value?_of_some hv]
    exact withReplay_eq_some_iff

/-- **When a tree is decoded, and to what**: it has no other sections; each section has the shape of
one, and that on the network gives it; and each setting is decoded from what stands for it. -/
theorem ofValue?_eq_some_iff : ofValue? root = some s ↔
    (∀ group ∈ root.names, ∃ f : Field, f.group = group) ∧
      (∀ f : Field, Shaped root f.group f.siblings) ∧
      ((root.get? "consensus").isSome → (Field.network.value? root).isSome) ∧
      ∀ f : Field, f.IsSet (f.value? root) s := by
  have hall : (root.entries.all fun e =>
      ["checkpoints", "consensus", "replay"].contains e.1) = true ↔
      ∀ group ∈ root.names, ∃ f : Field, f.group = group := by
    simp only [List.all_eq_true, List.contains_iff_mem, Field.exists_group_iff, names,
      List.forall_mem_map]
  rw [ofValue?, Option.ite_none_right_eq_some, hall]
  refine and_congr_right fun _ => ?_
  constructor
  · intro h
    obtain ⟨s₁, h₁, h⟩ := Option.bind_eq_some_iff.mp h
    obtain ⟨s₂, h₂, h₃⟩ := Option.bind_eq_some_iff.mp h
    obtain ⟨hcheckpoints, path, hpath, rfl⟩ := (withSection_checkpoints_iff rfl).mp h₁
    obtain ⟨hconsensus, hgiven, network, hnetwork, rfl⟩ := (withSection_consensus_iff rfl).mp h₂
    obtain ⟨hreplay, tick, retries, backoff, htick, hretries, hbackoff, rfl⟩ :=
      (withSection_replay_iff rfl rfl rfl).mp h₃
    refine ⟨fun f => ?_, hgiven, fun f => ?_⟩
    · cases f with
      | checkpointsPath => exact hcheckpoints
      | network => exact hconsensus
      | tickInterval | maxRetries | retryBackoff => exact hreplay
    · cases f with
      | checkpointsPath => exact hpath
      | network => exact hnetwork
      | tickInterval => exact htick
      | maxRetries => exact hretries
      | retryBackoff => exact hbackoff
  · rintro ⟨hshaped, hgiven, hset⟩
    have h₁ := (withSection_checkpoints_iff (s := {}) rfl).mpr
      ⟨hshaped .checkpointsPath, _, hset .checkpointsPath, rfl⟩
    have h₂ := (withSection_consensus_iff (s := { checkpointsPath := s.checkpointsPath }) rfl).mpr
      ⟨hshaped .network, hgiven, _, hset .network, rfl⟩
    have h₃ := (withSection_replay_iff
      (s := { checkpointsPath := s.checkpointsPath, network := s.network }) rfl rfl rfl).mpr
      ⟨hshaped .tickInterval, _, _, _, hset .tickInterval, hset .maxRetries, hset .retryBackoff, rfl⟩
    exact Option.bind_eq_some_iff.mpr ⟨_, h₁, Option.bind_eq_some_iff.mpr ⟨_, h₂, h₃⟩⟩

end Settings

end WalletReplay
