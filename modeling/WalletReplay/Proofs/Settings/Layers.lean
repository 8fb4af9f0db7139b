import WalletReplay.Proofs.Settings.Variables
import WalletReplay.Proofs.Toml.Names

/-!
# Settings from a file and from environment variables

A setting is what its own variable says, or else what its own key in the document says, or else it
is not set, whatever other keys and variables there are.

A section that is written as an array is the exception. Its items are the fields in their order,
under no keys, and a variable that sets a field of the section puts a table in place of the array, so
that what the array said of the other fields is lost.

The keys of a document are put into a tree in some order. The order matters only if the paths of two
keys overlap; where no two begin with the same name it does not, and where none is a path at all the
tree is the document as it stands.

## What is proved

* `source?_of_item?` — a setting depends on its own variable and key alone, but for arrays.
* `value?_layer` — what stands in the tree for a setting once the variables are put on top.
* `ofValue?_layer_iff` — when a tree with variables on top is decoded, and to what.
* `loads_iff`, `load?_iff` — when settings are loaded, with the keys in any order and as they are
  listed.
* `load_layers` — when settings are loaded, and each setting from its own variable, key or item.
* `replay_array_sets_fields` — settings that have neither a key nor a variable.
-/

namespace WalletReplay

open Value Environment

namespace Field

/-- The settings of its section. -/
def fellows : Field → List Field
  | checkpointsPath => [checkpointsPath]
  | network => [network]
  | tickInterval | maxRetries | retryBackoff => [tickInterval, maxRetries, retryBackoff]

theorem mem_fellows_iff {f g : Field} : g ∈ f.fellows ↔ g.group = f.group := by
  cases f <;> cases g <;> decide

theorem eq_network_of_group {f : Field} (h : f.group = network.group) : f = network := by
  cases f <;> first | rfl | exact absurd h (by decide)

/-- Whether the variable of a setting of its section is there. -/
def isTouched (f : Field) (bindings : List (String × String)) : Bool :=
  bindings.any fun v => f.fellows.any fun g => SameName v.1 g.variableName

/-- What it is taken from: its own variable; or else its own key; or else the item at its position,
unless a variable sets a field of its section. -/
def source? (f : Field) (tree : Value) (bindings : List (String × String)) : Option Value :=
  (f.override? bindings).or <|
    (f.own? tree).or <|
      if f.isTouched bindings then none else f.item? tree

/-- Unless its section is an array, it is taken from its own variable or its own key and depends on
nothing else. -/
theorem source?_of_item? {f : Field} {tree : Value} (h : f.item? tree = none)
    (bindings : List (String × String)) :
    f.source? tree bindings = (f.override? bindings).or (f.own? tree) := by
  rw [source?, h, ite_self, Option.or_none]

/-- The source depends on what stands under the names in the tree. -/
theorem source?_congr {tree other : Value} (h : ∀ name, tree.get? name = other.get? name) (f : Field)
    (bindings : List (String × String)) : f.source? tree bindings = f.source? other bindings := by
  rw [source?, source?, own?, own?, item?, item?, getIn?, getIn?, h]

theorem names_of_sameName {f : Field} {name : String} (h : SameName name f.variableName) :
    Names name f.group f.name :=
  { f.names_variableName with same := h.trans f.names_variableName.same }

end Field

namespace Overrides

open Settings

variable {tree : Value} {bindings : List (String × String)} {overrides : List (String × Value)}
variable (h : Overrides bindings overrides)
  (hknown : ∀ v ∈ bindings, IsMarked v.1 → ∃ f : Field, SameName v.1 f.variableName)
include h hknown

/-! ### Variables on top of a tree -/

/-- Variables of settings put something at settings only. -/
theorem exists_ofKey_eq_path : ∀ e ∈ overrides, ∃ f : Field, KeyPath.ofKey e.1 = f.path := by
  intro e he
  obtain ⟨v, hv, group, field, hnames, rfl⟩ := h.exists_names he
  obtain ⟨f, hf⟩ := hknown v hv hnames.isMarked
  obtain ⟨rfl, rfl⟩ := (hnames.sameName_iff f).mp hf
  exact ⟨f, hnames.ofKey_eq⟩

theorem isTouched_iff (f : Field) :
    f.isTouched bindings = true ↔ ∃ e ∈ overrides, KeyPath.first e.1 = f.group := by
  simp only [Field.isTouched, List.any_eq_true, Field.mem_fellows_iff, decide_eq_true_eq]
  constructor
  · rintro ⟨v, hv, g, hg, hsame⟩
    obtain ⟨e, he, hpath⟩ := h.exists_mem_of_names hv (Field.names_of_sameName hsame)
    exact ⟨e, he, (KeyPath.first_of_ofKey hpath).trans hg⟩
  · rintro ⟨e, he, hfirst⟩
    obtain ⟨v, hv, group, field, hnames, rfl⟩ := h.exists_names he
    obtain ⟨g, hg⟩ := hknown v hv hnames.isMarked
    obtain ⟨rfl, rfl⟩ := (hnames.sameName_iff g).mp hg
    exact ⟨v, hv, g, (KeyPath.first_of_ofKey hnames.ofKey_eq).symm.trans hfirst, hg⟩

/-- What stands for a setting once the variables are put on top is its source. -/
theorem value?_layer (f : Field) (tree : Value) :
    f.value? (layer tree overrides) = f.source? tree bindings := by
  have hitem : f.item? (layer tree overrides) =
      if f.isTouched bindings then none else f.item? tree := by
    split
    case isTrue htouched =>
      obtain ⟨es, hes⟩ :=
        exists_get?_layer_eq_table h.isField ((h.isTouched_iff hknown f).mp htouched) tree
      simp [Field.item?, hes, items]
    case isFalse htouched =>
      have hne : ∀ e ∈ overrides, KeyPath.first e.1 ≠ f.group := by
        simpa using mt (h.isTouched_iff hknown f).mpr htouched
      rw [Field.item?, Field.item?, get?_layer_of_forall_ne hne]
  rw [Field.value?, Field.source?, hitem, ← Option.or_assoc, Field.own?, Field.own?,
    getIn?_layer h.isField h.isScalar, ← h.lastAt?_eq f, Field.path]

end Overrides

namespace Settings

variable {s : Settings} {tree other : Value} {bindings : List (String × String)}
variable {overrides : List (String × Value)}

/-- What a tree and variables have to be for settings to be loaded, whatever the values are. -/
structure Readable (tree : Value) (bindings : List (String × String)) : Prop where
  /-- The tree has no other sections. -/
  groups : ∀ group ∈ tree.names, ∃ f : Field, f.group = group
  /-- Its sections have no other names. -/
  names : ∀ group name, (tree.getIn? group name).isSome →
    ∃ f : Field, f.group = group ∧ f.name = name
  /-- Every variable that begins with the marker is that of a setting. -/
  known : ∀ v ∈ bindings, IsMarked v.1 → ∃ f : Field, SameName v.1 f.variableName
  /-- A section in which no variable sets a field is a table, or an array with an item for each. -/
  shapes : ∀ f : Field, f.isTouched bindings = true ∨ Shaped tree f.group f.siblings
  /-- A section on the network gives it, or a variable does. -/
  network : (tree.get? Field.network.group).isSome → (Field.network.source? tree bindings).isSome

namespace Readable

/-- Whether a tree is readable depends on what stands under its names. -/
theorem congr (h : Readable tree bindings) (hsame : ∀ name, tree.get? name = other.get? name) :
    Readable other bindings := by
  refine ⟨fun group hgroup => h.groups group ?_, fun group name hname => h.names group name ?_,
    h.known, fun f => (h.shapes f).imp_right fun hshaped entry hentry => ?_, fun hthere => ?_⟩
  · rw [mem_names, hsame]
    exact mem_names.mp hgroup
  · rwa [getIn?, hsame]
  · exact hshaped entry ((hsame f.group).trans hentry)
  · rw [← Field.source?_congr hsame]
    exact h.network (by rwa [hsame])

variable (h : Readable tree bindings) (hoverrides : Overrides bindings overrides)
include h hoverrides

theorem groups_layer {group : String} (hgroup : group ∈ (layer tree overrides).names) :
    ∃ f : Field, f.group = group := by
  obtain hgroup | ⟨e, he, rfl⟩ := mem_names_layer.mp hgroup
  · exact h.groups group hgroup
  · obtain ⟨f, hpath⟩ := hoverrides.exists_ofKey_eq_path h.known e he
    exact ⟨f, (KeyPath.first_of_ofKey hpath).symm⟩

/-- A section that a variable changes is a table, and its names are those of fields in the tree and
of variables. -/
theorem shaped_layer (f : Field) : Shaped (layer tree overrides) f.group f.siblings := by
  intro entry hentry
  by_cases htouched : ∃ e ∈ overrides, KeyPath.first e.1 = f.group
  · obtain ⟨es, hes⟩ := exists_get?_layer_eq_table hoverrides.isField htouched tree
    cases hes.symm.trans hentry
    intro name hname
    have hsome : ((layer tree overrides).getIn? f.group name).isSome := by
      rw [getIn?, hes]
      exact mem_names.mp hname
    apply Field.mem_siblings_iff.mpr
    obtain ⟨e, he, hkey⟩ | hown :=
      (isSome_getIn?_layer hoverrides.isField hoverrides.isScalar).mp hsome
    · obtain ⟨g, hpath⟩ := hoverrides.exists_ofKey_eq_path h.known e he
      exact ⟨g, Field.path_eq_iff.mp (hpath.symm.trans hkey)⟩
    · exact h.names f.group name hown
  · rw [get?_layer_of_forall_ne (by simpa using htouched)] at hentry
    have huntouched : f.isTouched bindings ≠ true :=
      mt (hoverrides.isTouched_iff h.known f).mp htouched
    exact (h.shapes f).resolve_left huntouched entry hentry

theorem network_layer (hthere : ((layer tree overrides).get? Field.network.group).isSome) :
    (Field.network.source? tree bindings).isSome := by
  obtain hgroup | ⟨e, he, hfirst⟩ := mem_names_layer.mp (mem_names.mpr hthere)
  · exact h.network (mem_names.mp hgroup)
  · obtain ⟨f, hpath⟩ := hoverrides.exists_ofKey_eq_path h.known e he
    have hf : f = .network :=
      Field.eq_network_of_group ((KeyPath.first_of_ofKey hpath).symm.trans hfirst)
    have hlast := (isSome_lastAt? _ _).mpr ⟨e, he, hf ▸ hpath⟩
    rw [hoverrides.lastAt?_eq] at hlast
    rw [Field.source?, Option.isSome_or, hlast, Bool.true_or]

end Readable

/-- What is unknown in a variable is unknown in the tree with the variables on top. -/
theorem known_of_layer (h : Overrides bindings overrides)
    (hgroups : ∀ group ∈ (layer tree overrides).names, ∃ f : Field, f.group = group)
    (hshaped : ∀ f : Field, Shaped (layer tree overrides) f.group f.siblings) :
    ∀ v ∈ bindings, IsMarked v.1 → ∃ f : Field, SameName v.1 f.variableName := by
  intro v hv hmarked
  obtain ⟨group, field, hnames⟩ := h.names v hv hmarked
  obtain ⟨f, hf⟩ := exists_field_of_shaped hgroups hshaped
    ((isSome_getIn?_layer h.isField h.isScalar).mpr (.inl (h.exists_mem_of_names hv hnames)))
  exact ⟨f, (hnames.sameName_iff f).mpr hf⟩

/-- What is unknown, or has no shape, in the tree or in a variable is so in the tree with the
variables on top. -/
theorem readable_of_layer (h : Overrides bindings overrides)
    (hgroups : ∀ group ∈ (layer tree overrides).names, ∃ f : Field, f.group = group)
    (hshaped : ∀ f : Field, Shaped (layer tree overrides) f.group f.siblings)
    (hgiven : ((layer tree overrides).get? Field.network.group).isSome →
      (Field.network.source? tree bindings).isSome) : Readable tree bindings := by
  have hknown := known_of_layer h hgroups hshaped
  refine ⟨fun group h => hgroups group (mem_names_layer.mpr (.inl h)), fun group name hname => ?_,
    hknown, fun f => ?_, fun h => ?_⟩
  · exact exists_field_of_shaped hgroups hshaped
      ((isSome_getIn?_layer h.isField h.isScalar).mpr (.inr hname))
  · by_cases htouched : ∃ e ∈ overrides, KeyPath.first e.1 = f.group
    · exact .inl ((h.isTouched_iff hknown f).mpr htouched)
    · right
      intro entry hentry
      have hsame : (layer tree overrides).get? f.group = tree.get? f.group :=
        get?_layer_of_forall_ne (by simpa using htouched) tree
      exact hshaped f entry (hsame.trans hentry)
  · exact hgiven (mem_names.mp (mem_names_layer.mpr (.inl (mem_names.mpr h))))

/-- A tree with variables on top is decoded, setting by setting, if and only if it is readable. -/
theorem ofValue?_layer_iff (h : Overrides bindings overrides) :
    ofValue? (layer tree overrides) = some s ↔
      Readable tree bindings ∧ ∀ f : Field, f.IsSet (f.source? tree bindings) s := by
  rw [ofValue?_eq_some_iff]
  constructor
  · rintro ⟨hgroups, hshaped, hgiven, hset⟩
    have hvalue (f : Field) : f.value? (layer tree overrides) = f.source? tree bindings :=
      h.value?_layer (known_of_layer h hgroups hshaped) f tree
    simp only [hvalue] at hgiven hset
    exact ⟨readable_of_layer h hgroups hshaped hgiven, hset⟩
  · rintro ⟨hreadable, hset⟩
    simp only [h.value?_layer hreadable.known]
    exact ⟨fun _ => hreadable.groups_layer h, hreadable.shaped_layer h, hreadable.network_layer h,
      hset⟩

/-! ### Loading -/

variable {file : Option FileState} {document : List (String × Value)}

/-- The document of a file has each name once, and so has an empty one. -/
theorem documentOf_eachOnce (h : documentOf file = some document) :
    (Value.table document).EachOnce := by
  unfold documentOf at h
  split at h
  · cases h
    exact .table List.nodup_nil (by simp)
  · exact Toml.read?_eachOnce h
  · cases h

/-- Settings are loaded only if the keys and the variables name no section but the three. -/
theorem Loads.groups (h : Loads file bindings s) :
    (∃ document, documentOf file = some document ∧
        ∀ e ∈ document, ∃ f : Field, f.group = KeyPath.first e.1) ∧
      ∀ v ∈ bindings, IsMarked v.1 →
        ∃ key, key? v.1 = some key ∧ ∃ f : Field, f.group = KeyPath.first key := by
  obtain ⟨document, keys, overrides, hdocument, hkeys, hoverrides, hs⟩ := h
  obtain ⟨hgroups, -⟩ := ofValue?_eq_some_iff.mp hs
  refine ⟨⟨document, hdocument, fun e he => hgroups _ (mem_names_layer.mpr (.inl ?_))⟩,
    fun v hv hmarked => ?_⟩
  · exact mem_names_layer.mpr (.inr ⟨e, hkeys.mem_iff.mpr he, rfl⟩)
  · obtain ⟨key, hkey⟩ := Option.isSome_iff_exists.mp (isSome_key?_iff.mpr hmarked)
    have hsetting : (key, value v.2) ∈ Environment.settings bindings :=
      List.mem_filterMap.mpr ⟨v, hv, by rw [hkey, Option.map_some]⟩
    obtain ⟨e, he, rfl⟩ :=
      List.mem_map.mp (mem_keys_gather.mpr (List.mem_map_of_mem (f := Prod.fst) hsetting))
    exact ⟨e.1, hkey, hgroups _ (mem_names_layer.mpr (.inr ⟨e, hoverrides.mem_iff.mpr he, rfl⟩))⟩

section Names

variable (hnames : ∀ v ∈ bindings, IsMarked v.1 → ∃ group field, Names v.1 group field)
include hnames

/-- When settings are loaded with the keys in some order. The order of the variables does not
matter. -/
theorem loads_iff : Loads file bindings s ↔ ∃ document keys, documentOf file = some document ∧
    keys.Perm document ∧ Readable (layer (.table []) keys) bindings ∧
      ∀ f : Field, f.IsSet (f.source? (layer (.table []) keys) bindings) s := by
  constructor
  · rintro ⟨document, keys, overrides, hdocument, hkeys, hoverrides, hs⟩
    exact ⟨document, keys, hdocument, hkeys, (ofValue?_layer_iff ⟨hoverrides, hnames⟩).mp hs⟩
  · rintro ⟨document, keys, hdocument, hkeys, hread⟩
    exact ⟨document, keys, _, hdocument, hkeys, .rfl, (ofValue?_layer_iff ⟨.rfl, hnames⟩).mpr hread⟩

/-- When settings are loaded with the keys as they are listed. -/
theorem load?_iff (hdocument : documentOf file = some document) : load? file bindings = some s ↔
    Readable (layer (.table []) document) bindings ∧
      ∀ f : Field, f.IsSet (f.source? (layer (.table []) document) bindings) s := by
  rw [load?, hdocument]
  exact ofValue?_layer_iff ⟨.rfl, hnames⟩

/-- If no two keys begin with the same name, settings are loaded as they are listed. -/
theorem loads_iff_load? (hdocument : documentOf file = some document)
    (hfirst : (document.map (KeyPath.first ·.1)).Nodup) :
    Loads file bindings s ↔ load? file bindings = some s := by
  refine ⟨fun h => ?_, loads_of_load?⟩
  obtain ⟨document', keys, hdocument', hkeys, hreadable, hset⟩ := (loads_iff hnames).mp h
  obtain rfl := Option.some.inj (hdocument.symm.trans hdocument')
  have hsame := get?_layer_eq_of_perm hkeys hfirst (.table [])
  refine (load?_iff hnames hdocument).mpr ⟨hreadable.congr hsame, fun f => ?_⟩
  rw [← Field.source?_congr hsame]
  exact hset f

end Names

/-- Keys that are no paths begin with different names, and the tree is the document. -/
theorem layer_document (hdocument : documentOf file = some document)
    (hplain : ∀ e ∈ document, KeyPath.ofKey e.1 = [.key e.1]) :
    (document.map (KeyPath.first ·.1)).Nodup ∧ layer (.table []) document = .table document := by
  have honce := documentOf_eachOnce hdocument
  refine ⟨?_, layer_table honce hplain⟩
  have hfirst : document.map (KeyPath.first ·.1) = document.map Prod.fst :=
    List.map_congr_left fun e he => KeyPath.first_of_ofKey (hplain e he)
  cases honce with
  | table hnodup => rwa [hfirst]

/-- **When settings are loaded, and what each is taken from.** The document and the variables name no
section but the three. If every variable is a `REWIND_<SECTION>__<FIELD>`, settings are loaded if and
only if document and variables are readable and each of the five is what its source says: its own
variable, or else its own key, or else the item at its position. The order of the document's keys
makes no difference if no two begin with the same name. -/
theorem load_layers (file : Option FileState) (bindings : List (String × String)) (s : Settings) :
    let tree (keys : List (String × Value)) := layer (.table []) keys
    (Loads file bindings s → (∃ document, documentOf file = some document ∧
        ∀ e ∈ document, ∃ f : Field, f.group = KeyPath.first e.1) ∧
      ∀ v ∈ bindings, IsMarked v.1 →
        ∃ key, key? v.1 = some key ∧ ∃ f : Field, f.group = KeyPath.first key) ∧
    ((∀ v ∈ bindings, IsMarked v.1 → ∃ group field, Names v.1 group field) →
      (Loads file bindings s ↔ ∃ document keys, documentOf file = some document ∧
        keys.Perm document ∧ Readable (tree keys) bindings ∧
        ∀ f : Field, f.IsSet (f.source? (tree keys) bindings) s) ∧
      ∀ document, documentOf file = some document →
        (document.map (KeyPath.first ·.1)).Nodup →
        (Loads file bindings s ↔ load? file bindings = some s) ∧
          (load? file bindings = some s ↔ Readable (tree document) bindings ∧
            ∀ f : Field, f.IsSet (f.source? (tree document) bindings) s)) ∧
    ∀ document, documentOf file = some document →
      (∀ e ∈ document, KeyPath.ofKey e.1 = [.key e.1]) →
      (document.map (KeyPath.first ·.1)).Nodup ∧ tree document = .table document := by
  intro tree
  refine ⟨Loads.groups, fun hnames => ⟨loads_iff hnames, fun document hdocument hfirst => ?_⟩,
    fun document => layer_document⟩
  exact ⟨loads_iff_load? hnames hdocument hfirst, load?_iff hnames hdocument⟩

/-- A file sets two fields of a section, and a variable sets one of them. It keeps the other. -/
theorem load_layers_of_variable :
    let file : Option FileState :=
      some (.file "[replay]\ntick_interval_ms = 100\nmax_retries = 3\n".toUTF8)
    let bindings := [("HOME", "/root"), ("REWIND_REPLAY__MAX_RETRIES", "5")]
    let s : Settings := { tickInterval := some 100, maxRetries := some 5 }
    Loads file bindings s ∧ (∀ v ∈ bindings, IsMarked v.1 → ∃ group field, Names v.1 group field) ∧
      ∃ document, documentOf file = some document ∧
        (∀ e ∈ document, KeyPath.ofKey e.1 = [.key e.1]) ∧
        Readable (.table document) bindings ∧
        ∀ f : Field, f.IsSet (f.source? (.table document) bindings) s := by
  intro file bindings s
  have hload : load? file bindings = some s := by decide +kernel
  have hkeys : (documentOf file).map (·.map Prod.fst) = some ["replay"] := by decide +kernel
  have hnames : ∀ v ∈ bindings, IsMarked v.1 → ∃ group field, Names v.1 group field := by
    simp only [bindings, List.forall_mem_cons, List.not_mem_nil]
    exact ⟨fun h => absurd h (by decide), fun _ => ⟨_, _, Field.maxRetries.names_variableName⟩, nofun⟩
  obtain ⟨-, hlayers, hplain⟩ := load_layers file bindings s
  obtain ⟨-, hdocuments⟩ := hlayers hnames
  cases hdocument : documentOf file with
  | none => exact absurd hkeys (by simp [hdocument])
  | some document =>
    have hplain' : ∀ e ∈ document, KeyPath.ofKey e.1 = [.key e.1] := by
      intro e he
      have hkey : e.1 = "replay" := by
        rw [hdocument] at hkeys
        simpa [Option.some.inj hkeys] using List.mem_map_of_mem (f := Prod.fst) he
      rw [hkey]
      decide +kernel
    obtain ⟨hfirst, htree⟩ := hplain document hdocument hplain'
    obtain ⟨horder, hiff⟩ := hdocuments document hdocument hfirst
    obtain ⟨hreadable, hset⟩ := hiff.mp hload
    rw [htree] at hreadable hset
    exact ⟨horder.mpr hload, hnames, document, rfl, hplain', hreadable, hset⟩

/-- A section that is an array sets its fields under no keys, and without variables. A variable of
one field then takes the others away. A name with another double underscore in it is a path below a
field, and what it sets may be gone over. -/
theorem replay_array_sets_fields :
    let file : Option FileState := some (.file "replay = [100, 3, 50]".toUTF8)
    let document := [("replay", array [.int 100, .int 3, .int 50])]
    load? file [] =
        some { tickInterval := some 100, maxRetries := some 3, retryBackoff := some 50 } ∧
      documentOf file = some document ∧
      (∀ f : Field, f.own? (layer (.table []) document) = none) ∧
      load? file [(Field.maxRetries.variableName, "5")] = some { maxRetries := some 5 } ∧
      load? none [("REWIND_REPLAY__MAX_RETRIES__LIMIT", "9"), (Field.maxRetries.variableName, "5")] =
        some { maxRetries := some 5 } := by
  intro file document
  have hdocument : documentOf file = some document := by
    with_unfolding_all rfl
  have hown (f : Field) : f.own? (layer (.table []) document) = none := by
    cases f <;> with_unfolding_all rfl
  exact ⟨by decide +kernel, hdocument, hown, by decide +kernel, by decide +kernel⟩

end Settings

end WalletReplay
