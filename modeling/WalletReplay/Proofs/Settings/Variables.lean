import Mathlib.Data.List.Infix
import Mathlib.Data.List.Nodup
import WalletReplay.Proofs.Settings.Fields
import WalletReplay.Settings.Load

/-!
# The variables of fields

A variable `REWIND_<SECTION>__<FIELD>` puts its value at the field in the section, whether its name is
in upper or in lower case. Two of them go to one place only if their names are the same but for case,
and then the later one counts. The order in which they are put does not matter, therefore.

## What is proved

* `Names.key?_eq`, `Names.ofKey_eq` — the key of a variable of a field, and its path.
* `Names.sameName_iff` — of which of the settings it is the variable.
* `lastAt?_gather`, `lastAt?_eq_of_perm` — the last that is put at a path, when each key is there once,
  and in another order.
* `Overrides.lastAt?_eq` — what variables put at a setting is the value of its own variable.
-/

namespace WalletReplay

namespace KeyPath

/-- A run of name characters is a name. -/
theorem name?_append {cs rest : List Char} (hne : cs ≠ []) (hcs : ∀ c ∈ cs, isNameChar c = true)
    (hrest : ∀ c ∈ rest.head?, isNameChar c = false) :
    name? (cs ++ rest) = some (String.ofList cs, rest) := by
  have htake : (cs ++ rest).takeWhile isNameChar = cs := by
    rw [List.takeWhile_append_of_pos hcs]
    cases rest with
    | nil => simp
    | cons c rest => simp [hrest c rfl]
  have hdrop : (cs ++ rest).dropWhile isNameChar = rest := by
    rw [List.dropWhile_append_of_pos hcs]
    cases rest with
    | nil => rfl
    | cons c rest => simp [hrest c rfl]
  rw [name?, htake, hdrop]
  cases cs with
  | nil => exact absurd rfl hne
  | cons c cs => rfl

/-- Two names with a point between them are a path. -/
theorem ofKey_pair {group field : List Char} (hgroup : group ≠ []) (hfield : field ≠ [])
    (hchars : ∀ c ∈ group ++ field, isNameChar c = true) :
    ofKey (String.ofList (group ++ '.' :: field)) =
      [.key (String.ofList group), .key (String.ofList field)] := by
  obtain ⟨hg, hf⟩ := List.forall_mem_append.mp hchars
  have hfirst : name? (group ++ '.' :: field) = some (String.ofList group, '.' :: field) :=
    name?_append hgroup hg (by simp [isNameChar])
  have hsecond : name? field = some (String.ofList field, []) := by
    simpa using @name?_append field [] hfield hf (by simp)
  have hsteps : steps? (group ++ '.' :: field) =
      some [.key (String.ofList group), .key (String.ofList field)] := by
    simp [steps?, hfirst, moreSteps, hsecond]
  rw [ofKey, String.toList_ofList, hsteps, Option.getD_some]

end KeyPath

namespace Environment

variable {name group field : String} {cs : List Char}

/-! ### Double underscores -/

theorem pointed_cons {c : Char} (h : ¬(c = '_' ∧ cs.head? = some '_')) :
    pointed (c :: cs) = c :: pointed cs := by
  cases cs with
  | nil => simp [pointed]
  | cons d cs =>
    rw [pointed]
    rintro _ rfl hd
    exact h ⟨rfl, by rw [List.head?_cons, (List.cons.inj hd).1]⟩

/-- Without double underscores there are no points. -/
theorem pointed_eq_self (h : ¬['_', '_'] <:+: cs) : pointed cs = cs := by
  induction cs with
  | nil => rfl
  | cons c cs ih =>
    have htail : ¬['_', '_'] <:+: cs := fun hcs => h (hcs.trans (List.suffix_cons c cs).isInfix)
    have hhead : ¬(c = '_' ∧ cs.head? = some '_') := by
      rintro ⟨rfl, hd⟩
      obtain ⟨ds, rfl⟩ := List.head?_eq_some_iff.mp hd
      exact h ⟨[], ds, rfl⟩
    rw [pointed_cons hhead, ih htail]

/-- The first double underscore becomes a point. -/
theorem pointed_append (h : ¬['_', '_'] <:+: cs ++ ['_']) (ds : List Char) :
    pointed (cs ++ '_' :: '_' :: ds) = cs ++ '.' :: pointed ds := by
  induction cs with
  | nil => rfl
  | cons c cs ih =>
    rw [List.cons_append] at h ⊢
    have htail : ¬['_', '_'] <:+: cs ++ ['_'] := fun hcs =>
      h (hcs.trans (List.suffix_cons c _).isInfix)
    have hhead : ¬(c = '_' ∧ (cs ++ '_' :: '_' :: ds).head? = some '_') := by
      rintro ⟨rfl, hd⟩
      have hd' : (cs ++ ['_']).head? = some '_' := by
        cases cs with
        | nil => rfl
        | cons d cs => exact hd
      obtain ⟨es, hes⟩ := List.head?_eq_some_iff.mp hd'
      rw [hes] at h
      exact h ⟨[], es, rfl⟩
    rw [pointed_cons hhead, ih htail]
    rfl

/-! ### Names of variables -/

/-- Two names that are the same but for upper and lower case. -/
def SameName (a b : String) : Prop :=
  a.toList.map lowerChar = b.toList.map lowerChar

instance (a b : String) : Decidable (SameName a b) :=
  inferInstanceAs (Decidable (_ = _))

/-- A name that begins with `REWIND_`, in upper or lower case. -/
def IsMarked (name : String) : Prop :=
  "REWIND_".toList.map lowerChar <+: name.toList.map lowerChar

instance (name : String) : Decidable (IsMarked name) :=
  inferInstanceAs (Decidable (_ <+: _))

/-- The name of a variable is `REWIND_<SECTION>__<FIELD>`, in upper or lower case. Section and field
are given in lower case. They are made of letters, digits, hyphens and underscores, and the double
underscore between them is the only one. -/
structure Names (name group field : String) : Prop where
  /-- The name, but for case. -/
  same : SameName name ("REWIND_" ++ group ++ "__" ++ field)
  /-- There is a section. -/
  group_ne_nil : group.toList ≠ []
  /-- There is a field. -/
  field_ne_nil : field.toList ≠ []
  /-- Both can be names in a path. -/
  chars : ∀ c ∈ group.toList ++ field.toList, KeyPath.isNameChar c = true
  /-- Both are in lower case. -/
  lower : ∀ c ∈ group.toList ++ field.toList, lowerChar c = c
  /-- There is no double underscore before that between them. -/
  group_single : ¬['_', '_'] <:+: group.toList ++ ['_']
  /-- There is none behind it. -/
  field_single : ¬['_', '_'] <:+: field.toList

/-- The key of a variable that begins with the marker. -/
theorem key?_eq_of_lower (h : name.toList.map lowerChar = marker ++ cs) :
    key? name = some (String.ofList (pointed cs)) := by
  rw [key?, h, if_pos (List.isPrefixOf_iff_prefix.mpr (List.prefix_append marker cs)),
    List.drop_left]

/-- A marked variable has a key, and any other has none. -/
theorem isSome_key?_iff : (key? name).isSome ↔ IsMarked name := by
  have hmarker : "REWIND_".toList.map lowerChar = marker := by decide
  rw [IsMarked, hmarker, ← List.isPrefixOf_iff_prefix, key?]
  split <;> simp_all

namespace Names

variable (h : Names name group field)
include h

theorem lower_eq : name.toList.map lowerChar =
    marker ++ (group.toList ++ '_' :: '_' :: field.toList) := by
  obtain ⟨hgroup, hfield⟩ := List.forall_mem_append.mp h.lower
  have hmarker : "REWIND_".toList.map lowerChar = marker := by decide
  have hbetween : "__".toList.map lowerChar = ['_', '_'] := by decide
  rw [h.same, String.toList_append, String.toList_append, String.toList_append, List.map_append,
    List.map_append, List.map_append, hmarker, hbetween, List.map_congr_left hgroup, List.map_id',
    List.map_congr_left hfield, List.map_id', List.append_assoc, List.append_assoc]
  rfl

/-- A variable of a field has the key `section.field`. -/
theorem key?_eq : key? name = some (String.ofList (group.toList ++ '.' :: field.toList)) := by
  rw [key?_eq_of_lower h.lower_eq, pointed_append h.group_single, pointed_eq_self h.field_single]

theorem ofKey_eq : KeyPath.ofKey (String.ofList (group.toList ++ '.' :: field.toList)) =
    [.key group, .key field] := by
  rw [KeyPath.ofKey_pair h.group_ne_nil h.field_ne_nil h.chars, String.ofList_toList,
    String.ofList_toList]

theorem isMarked : IsMarked name :=
  isSome_key?_iff.mp (Option.isSome_of_eq_some h.key?_eq)

end Names

end Environment

open Environment

namespace Field

theorem names_variableName (f : Field) : Names f.variableName f.group f.name := by
  have hchars : (f.group.toList ++ f.name.toList).all KeyPath.isNameChar = true := by
    cases f <;> decide
  have hlower : (f.group.toList ++ f.name.toList).all (fun c => lowerChar c = c) = true := by
    cases f <;> decide
  refine ⟨?_, ?_, ?_, List.all_eq_true.mp hchars,
    fun c hc => of_decide_eq_true (List.all_eq_true.mp hlower c hc), ?_, ?_⟩
  all_goals
    cases f <;> decide

end Field

/-- A variable of a field in a section is that of a setting if the names are the same but for case,
and only then. -/
theorem Environment.Names.sameName_iff {name group field : String} (h : Names name group field)
    (f : Field) : SameName name f.variableName ↔ f.group = group ∧ f.name = field := by
  constructor
  · intro hsame
    have hkey : key? name = key? f.variableName := by
      rw [key?_eq_of_lower f.names_variableName.lower_eq,
        key?_eq_of_lower (hsame.trans f.names_variableName.lower_eq)]
    rw [h.key?_eq, f.names_variableName.key?_eq] at hkey
    have hpath := f.names_variableName.ofKey_eq
    rw [← Option.some.inj hkey, h.ofKey_eq] at hpath
    simpa [eq_comm] using hpath
  · rintro ⟨rfl, rfl⟩
    exact h.lower_eq.trans f.names_variableName.lower_eq.symm

namespace Settings

variable {settings other : List (String × Value)} {path : List PathStep}

/-! ### Each key once, in any order -/

theorem mem_of_mem_gather {e : String × Value} (h : e ∈ gather settings) : e ∈ settings := by
  induction settings with
  | nil => exact h
  | cons d settings ih =>
    rw [gather] at h
    split at h
    · exact List.mem_cons_of_mem d (ih h)
    · rcases List.mem_cons.mp h with rfl | h
      · exact List.mem_cons_self
      · exact List.mem_cons_of_mem d (ih h)

theorem mem_keys_gather {key : String} :
    key ∈ (gather settings).map Prod.fst ↔ key ∈ settings.map Prod.fst := by
  induction settings with
  | nil => rfl
  | cons d settings ih =>
    rw [gather]
    split
    case isTrue h =>
      have hkey : d.1 ∈ settings.map Prod.fst := by simpa using h
      rw [ih, List.map_cons, List.mem_cons]
      exact ⟨.inr, fun hd => hd.elim (fun heq => heq ▸ hkey) id⟩
    case isFalse => rw [List.map_cons, List.map_cons, List.mem_cons, List.mem_cons, ih]

theorem nodup_keys_gather (settings : List (String × Value)) :
    ((gather settings).map Prod.fst).Nodup := by
  induction settings with
  | nil => exact List.nodup_nil
  | cons d settings ih =>
    rw [gather]
    split
    case isTrue => exact ih
    case isFalse h =>
      have hkey : d.1 ∉ settings.map Prod.fst := by simpa using h
      exact List.nodup_cons.mpr ⟨fun hd => hkey (mem_keys_gather.mp hd), ih⟩

theorem lastAt?_cons (path : List PathStep) (e : String × Value)
    (settings : List (String × Value)) : lastAt? path (e :: settings) =
      (lastAt? path settings).or (if KeyPath.ofKey e.1 = path then some e.2 else none) := by
  rw [lastAt?, List.reverse_cons, List.find?_append]
  by_cases h : KeyPath.ofKey e.1 = path <;>
    cases hfound : settings.reverse.find? (KeyPath.ofKey ·.1 = path) <;> simp [lastAt?, h, hfound]

/-- What is left out is not the last at its path. -/
theorem lastAt?_gather (path : List PathStep) (settings : List (String × Value)) :
    lastAt? path (gather settings) = lastAt? path settings := by
  induction settings with
  | nil => rfl
  | cons d settings ih =>
    rw [gather]
    split
    case isTrue h =>
      rw [ih, lastAt?_cons]
      split
      case isTrue hpath =>
        obtain ⟨e, he, hkey⟩ := List.any_eq_true.mp h
        have hlast : (lastAt? path settings).isSome :=
          (isSome_lastAt? path settings).mpr ⟨e, he, by rw [of_decide_eq_true hkey, hpath]⟩
        rw [Option.or_of_isSome hlast]
      case isFalse => exact Option.or_none.symm
    case isFalse => rw [lastAt?_cons, lastAt?_cons, ih]

/-- The only one at a path is the last. -/
theorem lastAt?_of_forall_eq {e : String × Value} (he : e ∈ settings)
    (hpath : KeyPath.ofKey e.1 = path)
    (honly : ∀ d ∈ settings, KeyPath.ofKey d.1 = path → d = e) :
    lastAt? path settings = some e.2 := by
  obtain ⟨v, hv⟩ := Option.isSome_iff_exists.mp
    ((isSome_lastAt? path settings).mpr ⟨e, he, hpath⟩)
  obtain ⟨d, hd, rfl⟩ := Option.map_eq_some_iff.mp hv
  have hmem : d ∈ settings := List.mem_reverse.mp (List.mem_of_find?_eq_some hd)
  have hd' : KeyPath.ofKey d.1 = path := by simpa using List.find?_some hd
  rw [hv, honly d hmem hd']

/-- Where one at most is put at a path, the order does not matter. -/
theorem lastAt?_eq_of_perm (hperm : settings.Perm other)
    (honly : ∀ d ∈ settings, ∀ e ∈ settings, KeyPath.ofKey d.1 = path →
      KeyPath.ofKey e.1 = path → d = e) : lastAt? path settings = lastAt? path other := by
  by_cases h : ∃ e ∈ settings, KeyPath.ofKey e.1 = path
  · obtain ⟨e, he, hpath⟩ := h
    rw [lastAt?_of_forall_eq he hpath fun d hd hd' => honly d hd e he hd' hpath,
      lastAt?_of_forall_eq (hperm.mem_iff.mp he) hpath fun d hd hd' =>
        honly d (hperm.mem_iff.mpr hd) e he hd' hpath]
  · have hnone {l : List (String × Value)} (hl : ∀ e ∈ l, e ∈ settings) : lastAt? path l = none := by
      rw [← Option.not_isSome_iff_eq_none, isSome_lastAt?]
      rintro ⟨e, he, hpath⟩
      exact h ⟨e, hl e he, hpath⟩
    rw [hnone fun _ => id, hnone fun _ => hperm.mem_iff.mpr]

end Settings

/-! ### What variables of fields put -/

theorem Environment.isScalar_value (s : String) : (value s).IsScalar := by
  unfold value
  dsimp only
  split_ifs
  · trivial
  · trivial
  · split
    · trivial
    · split <;> trivial

/-- The value of its own variable, the last one if it is given more than once. -/
def Field.override? (f : Field) (bindings : List (String × String)) : Option Value :=
  (bindings.reverse.find? fun v => SameName v.1 f.variableName).map fun v => value v.2

/-- The settings are those of the variables, each key once and in some order, and every variable that
begins with the marker is that of a field in a section. -/
structure Overrides (bindings : List (String × String)) (overrides : List (String × Value)) :
    Prop where
  /-- They are the settings of the variables. -/
  perm : overrides.Perm (Settings.overridesOf bindings)
  /-- Variables are those of fields. -/
  names : ∀ v ∈ bindings, IsMarked v.1 → ∃ group field, Names v.1 group field

namespace Overrides

open Settings

variable {bindings : List (String × String)} {overrides : List (String × Value)}

theorem exists_names (h : Overrides bindings overrides) {e : String × Value} (he : e ∈ overrides) :
    ∃ v ∈ bindings, ∃ group field, Names v.1 group field ∧
      e = (String.ofList (group.toList ++ '.' :: field.toList), value v.2) := by
  obtain ⟨v, hv, hsetting⟩ :=
    List.mem_filterMap.mp (mem_of_mem_gather (h.perm.mem_iff.mp he))
  obtain ⟨key, hkey, rfl⟩ := Option.map_eq_some_iff.mp hsetting
  obtain ⟨group, field, hnames⟩ :=
    h.names v hv (isSome_key?_iff.mp (Option.isSome_of_eq_some hkey))
  rw [hnames.key?_eq] at hkey
  exact ⟨v, hv, group, field, hnames, by rw [Option.some.inj hkey]⟩

theorem isScalar (h : Overrides bindings overrides) : ∀ e ∈ overrides, e.2.IsScalar := by
  intro e he
  obtain ⟨v, -, group, field, -, rfl⟩ := h.exists_names he
  exact isScalar_value v.2

theorem isField (h : Overrides bindings overrides) : ∀ e ∈ overrides, IsField e.1 := by
  intro e he
  obtain ⟨v, -, group, field, hnames, rfl⟩ := h.exists_names he
  exact ⟨group, field, hnames.ofKey_eq⟩

/-- A variable puts something at its field. -/
theorem exists_mem_of_names (h : Overrides bindings overrides) {v : String × String}
    (hv : v ∈ bindings) {group field : String} (hnames : Names v.1 group field) :
    ∃ e ∈ overrides, KeyPath.ofKey e.1 = [.key group, .key field] := by
  have hsetting : (String.ofList (group.toList ++ '.' :: field.toList), value v.2) ∈
      Environment.settings bindings :=
    List.mem_filterMap.mpr ⟨v, hv, by rw [hnames.key?_eq, Option.map_some]⟩
  have hkey := mem_keys_gather.mpr (List.mem_map_of_mem (f := Prod.fst) hsetting)
  obtain ⟨e, he, hfirst⟩ := List.mem_map.mp hkey
  exact ⟨e, h.perm.mem_iff.mpr he, by rw [hfirst, hnames.ofKey_eq]⟩

/-- Two that are put at one path are the same. -/
theorem eq_of_ofKey_eq (h : Overrides bindings overrides) {d e : String × Value}
    (hd : d ∈ overrides) (he : e ∈ overrides) (hpath : KeyPath.ofKey d.1 = KeyPath.ofKey e.1) :
    d = e := by
  have hkey : d.1 = e.1 := by
    obtain ⟨v, -, group, field, hnames, rfl⟩ := h.exists_names hd
    obtain ⟨w, -, group', field', hnames', rfl⟩ := h.exists_names he
    have hsteps : [PathStep.key group, .key field] = [.key group', .key field'] :=
      hnames.ofKey_eq.symm.trans (hpath.trans hnames'.ofKey_eq)
    obtain ⟨rfl, rfl⟩ : group = group' ∧ field = field' := by simpa using hsteps
    rfl
  have hnodup : (overrides.map Prod.fst).Nodup :=
    (h.perm.map Prod.fst).nodup_iff.mpr (nodup_keys_gather _)
  exact List.inj_on_of_nodup_map hnodup hd he hkey

theorem lastAt?_settings (f : Field) (hnames : ∀ v ∈ bindings, IsMarked v.1 →
    ∃ group field, Names v.1 group field) :
    lastAt? f.path (Environment.settings bindings) = f.override? bindings := by
  induction bindings using List.reverseRecOn with
  | nil => rfl
  | append_singleton bindings v ih =>
    obtain ⟨hnames, hv⟩ := List.forall_mem_append.mp hnames
    rw [Field.override?, List.reverse_append, List.reverse_singleton, List.singleton_append,
      List.find?_cons]
    cases hkey : key? v.1 with
    | none =>
      have hother : ¬SameName v.1 f.variableName := by
        intro hsame
        rw [key?_eq_of_lower (hsame.trans f.names_variableName.lower_eq)] at hkey
        cases hkey
      have hsettings : Environment.settings (bindings ++ [v]) = Environment.settings bindings := by
        simp [Environment.settings, hkey]
      rw [hsettings, ih hnames, Field.override?]
      simp [hother]
    | some key =>
      obtain ⟨group, field, hv⟩ := hv v (List.mem_singleton_self v)
        (isSome_key?_iff.mp (Option.isSome_of_eq_some hkey))
      have hsettings : Environment.settings (bindings ++ [v]) =
          Environment.settings bindings ++ [(key, value v.2)] := by
        simp [Environment.settings, hkey]
      have hpath : KeyPath.ofKey key = [.key group, .key field] := by
        rw [Option.some.inj (hkey.symm.trans hv.key?_eq), hv.ofKey_eq]
      have hsame : SameName v.1 f.variableName ↔ KeyPath.ofKey key = f.path := by
        rw [hv.sameName_iff, hpath, eq_comm (b := f.path), Field.path_eq_iff]
      rw [hsettings, lastAt?_concat, ih hnames, Field.override?]
      by_cases h : SameName v.1 f.variableName
      · simp [h, hsame.mp h]
      · simp [h, mt hsame.mpr h]

/-- **What variables put at a setting is the value of its own variable.** -/
theorem lastAt?_eq (h : Overrides bindings overrides) (f : Field) :
    lastAt? f.path overrides = f.override? bindings := by
  rw [← lastAt?_settings f h.names, ← lastAt?_gather f.path (Environment.settings bindings)]
  exact lastAt?_eq_of_perm h.perm fun d hd e he hd' he' =>
    h.eq_of_ofKey_eq hd he (hd'.trans he'.symm)

end Overrides

end WalletReplay
