import Mathlib.Data.List.Induction
import WalletReplay.Settings.Decode

/-!
# Looking into a tree after something was put into it

Every key begins with a name, so that what is put under a key changes the one entry of that name and
no other. Entries are never taken away.

## What is proved

* `lookup_modifyEntry_self`, `lookup_modifyEntry_of_ne`, `mem_names_modifyEntry` — what changing one
  entry does to that entry, to another, and to the names.
* `get?_layer_of_forall_ne`, `mem_names_layer` — the same of settings that are put one after
  another.
* `get?_layer_eq_of_perm` — their order does not matter if no two keys begin with the same name.
* `getIn?_layer` — if they all are settings of a field in a section, then the last that is put at a
  field is what stands there, and where none is put everything is as before.
* `layer_table` — settings that have each name once, and whose names are no paths, are the entries
  of the tree that they make.
-/

namespace WalletReplay

namespace Value

variable {f : Value → Value} {name other : String} {path : List PathStep}

/-- The names of the entries. -/
def names (v : Value) : List String :=
  v.entries.map Prod.fst

/-- The value under the name of a field in the entry of a section. -/
def getIn? (v : Value) (group field : String) : Option Value :=
  (v.get? group).bind fun entry => entry.get? field

theorem get?_nil : nil.get? name = none := rfl

theorem mem_names {v : Value} : name ∈ v.names ↔ (v.get? name).isSome := by
  simp [names, get?]

/-! ### One entry -/

theorem lookup_modifyEntry_self (es : List (String × Value)) :
    (modifyEntry f name es).lookup name = some (f ((es.lookup name).getD nil)) := by
  induction es with
  | nil => simp [modifyEntry]
  | cons e es ih =>
    obtain ⟨key, entry⟩ := e
    by_cases h : key = name
    · simp [modifyEntry, h]
    · simp [modifyEntry, h, List.lookup_cons, beq_false_of_ne (Ne.symm h), ih]

theorem lookup_modifyEntry_of_ne (h : other ≠ name) (es : List (String × Value)) :
    (modifyEntry f name es).lookup other = es.lookup other := by
  induction es with
  | nil => simp [modifyEntry, List.lookup_cons, beq_false_of_ne h]
  | cons e es ih =>
    obtain ⟨key, entry⟩ := e
    by_cases he : key = name
    · simp [modifyEntry, he, List.lookup_cons, beq_false_of_ne h]
    · simp [modifyEntry, he, List.lookup_cons, ih]

theorem mem_names_modifyEntry (es : List (String × Value)) :
    other ∈ (modifyEntry f name es).map Prod.fst ↔ other = name ∨ other ∈ es.map Prod.fst := by
  induction es with
  | nil => simp [modifyEntry]
  | cons e es ih =>
    by_cases he : e.1 = name
    · simp [modifyEntry, he]
    · simp only [modifyEntry, he, if_false, List.map_cons, List.mem_cons, ih]
      exact or_left_comm

/-- A name that is not there is added at the end. -/
theorem modifyEntry_of_not_mem {es : List (String × Value)} (h : name ∉ es.map Prod.fst) :
    modifyEntry f name es = es ++ [(name, f nil)] := by
  induction es with
  | nil => rfl
  | cons e es ih =>
    obtain ⟨hne, hes⟩ := not_or.mp (mt List.mem_cons.mpr h)
    rw [modifyEntry, if_neg (Ne.symm hne), ih hes, List.cons_append]

/-! ### Scalars -/

/-- A value that is there, and is no array and no table. -/
def IsScalar : Value → Prop
  | bool _ | int _ | float _ | text _ => True
  | nil | array _ | table _ => False

theorem IsScalar.ne_nil {v : Value} (h : v.IsScalar) : v ≠ nil := by
  rintro rfl
  exact h

/-- A scalar takes the place of what was there. -/
theorem IsScalar.merge {v : Value} (h : v.IsScalar) (old : Value) : v.merge old = v := by
  cases v with
  | nil | array | table => exact h.elim
  | _ => rw [Value.merge]; nofun

/-! ### One path -/

theorem get?_modifyAt_self (v : Value) : (modifyAt f (.key name :: path) v).get? name =
    some (modifyAt f path ((v.get? name).getD nil)) :=
  lookup_modifyEntry_self v.entries

theorem get?_modifyAt_of_ne (h : other ≠ name) (v : Value) :
    (modifyAt f (.key name :: path) v).get? other = v.get? other :=
  lookup_modifyEntry_of_ne h v.entries

theorem mem_names_modifyAt (v : Value) :
    other ∈ (modifyAt f (.key name :: path) v).names ↔ other = name ∨ other ∈ v.names :=
  mem_names_modifyEntry v.entries

/-- What becomes of a field when another, or the same, is changed. -/
theorem getIn?_modifyAt (group field g n : String) (v : Value) :
    (modifyAt f [.key group, .key field] v).getIn? g n =
      if g = group ∧ n = field then some (f ((v.getIn? g n).getD nil)) else v.getIn? g n := by
  have hentry : ((v.get? group).getD nil).get? n = v.getIn? group n := by
    cases h : v.get? group with
    | none => simp [getIn?, h, get?_nil]
    | some entry => simp [getIn?, h]
  by_cases hg : g = group
  · subst hg
    rw [getIn?, get?_modifyAt_self, Option.bind_some]
    by_cases hn : n = field
    · subst hn
      rw [get?_modifyAt_self, hentry, if_pos ⟨rfl, rfl⟩]
      rfl
    · rw [get?_modifyAt_of_ne hn, hentry, if_neg fun h => hn h.2]
  · rw [getIn?, get?_modifyAt_of_ne hg, if_neg fun h => hg h.1]
    rfl

end Value

namespace KeyPath

/-- The name that a key begins with. -/
def first (key : String) : String :=
  match ofKey key with
  | .key name :: _ => name
  | _ => key

theorem ofKey_eq_cons (key : String) : ∃ path, ofKey key = .key (first key) :: path := by
  have h : ∃ name path, ofKey key = .key name :: path := by
    unfold ofKey
    cases hsteps : steps? key.toList with
    | none => exact ⟨key, [], rfl⟩
    | some steps =>
      simp only [steps?, Option.bind_eq_bind, Option.bind_eq_some_iff] at hsteps
      obtain ⟨⟨name, rest⟩, -, path, -, hpath⟩ := hsteps
      cases hpath
      exact ⟨name, path, rfl⟩
  obtain ⟨name, path, h⟩ := h
  exact ⟨path, by rw [first, h]⟩

theorem first_of_ofKey {key name : String} {path : List PathStep}
    (h : ofKey key = .key name :: path) : first key = name := by
  rw [first, h]

end KeyPath

namespace Settings

open Value KeyPath

variable {root : Value} {settings : List (String × Value)} {name : String}

theorem layer_nil (root : Value) : layer root [] = root := rfl

theorem layer_cons (root : Value) (e : String × Value) (settings : List (String × Value)) :
    layer root (e :: settings) = layer (put e.2 (ofKey e.1) root) settings := rfl

theorem layer_append (root : Value) (settings more : List (String × Value)) :
    layer root (settings ++ more) = layer (layer root settings) more :=
  List.foldl_append

theorem layer_concat (root : Value) (settings : List (String × Value)) (e : String × Value) :
    layer root (settings ++ [e]) = put e.2 (ofKey e.1) (layer root settings) := by
  rw [layer_append, layer_cons, layer_nil]

theorem get?_put_of_ne {e : String × Value} (h : first e.1 ≠ name) (root : Value) :
    (put e.2 (ofKey e.1) root).get? name = root.get? name := by
  obtain ⟨path, hpath⟩ := ofKey_eq_cons e.1
  rw [put, hpath, get?_modifyAt_of_ne h.symm]

/-- An entry stays as it is if nothing is put into it. -/
theorem get?_layer_of_forall_ne (h : ∀ e ∈ settings, first e.1 ≠ name) (root : Value) :
    (layer root settings).get? name = root.get? name := by
  induction settings generalizing root with
  | nil => rfl
  | cons e settings ih =>
    obtain ⟨he, hsettings⟩ := List.forall_mem_cons.mp h
    rw [layer_cons, ih hsettings, get?_put_of_ne he]

theorem getIn?_layer_of_forall_ne (h : ∀ e ∈ settings, first e.1 ≠ name) (root : Value)
    (field : String) : (layer root settings).getIn? name field = root.getIn? name field := by
  rw [getIn?, get?_layer_of_forall_ne h]
  rfl

/-- Every name stays, and every name that a key begins with is added. -/
theorem mem_names_layer : name ∈ (layer root settings).names ↔
    name ∈ root.names ∨ ∃ e ∈ settings, first e.1 = name := by
  induction settings generalizing root with
  | nil => simp [layer_nil]
  | cons e settings ih =>
    obtain ⟨path, hpath⟩ := ofKey_eq_cons e.1
    rw [layer_cons, ih, put, hpath, mem_names_modifyAt]
    simp [eq_comm, or_assoc, or_left_comm]

/-- What stands under a name that one key begins with is what is put there under that key. -/
theorem get?_layer_of_mem {e : String × Value} (hfirst : (settings.map (first ·.1)).Nodup)
    (he : e ∈ settings) (root : Value) :
    (layer root settings).get? (first e.1) = (put e.2 (ofKey e.1) root).get? (first e.1) := by
  obtain ⟨before, after, rfl⟩ := List.append_of_mem he
  rw [List.map_append, List.map_cons, List.nodup_append, List.nodup_cons] at hfirst
  obtain ⟨-, ⟨hafter, -⟩, hbefore⟩ := hfirst
  have hbefore : ∀ d ∈ before, first d.1 ≠ first e.1 := fun d hd =>
    hbefore _ (List.mem_map_of_mem hd) _ List.mem_cons_self
  have hafter : ∀ d ∈ after, first d.1 ≠ first e.1 := fun d hd heq =>
    hafter (List.mem_map.mpr ⟨d, hd, heq⟩)
  obtain ⟨path, hpath⟩ := ofKey_eq_cons e.1
  rw [layer_append, layer_cons, get?_layer_of_forall_ne hafter, put, put, hpath,
    get?_modifyAt_self, get?_modifyAt_self, get?_layer_of_forall_ne hbefore]

/-- If no two keys begin with the same name, their order does not matter. -/
theorem get?_layer_eq_of_perm {other : List (String × Value)} (hperm : other.Perm settings)
    (hfirst : (settings.map (first ·.1)).Nodup) (root : Value) (name : String) :
    (layer root other).get? name = (layer root settings).get? name := by
  have hother : (other.map (first ·.1)).Nodup := (hperm.map _).nodup_iff.mpr hfirst
  by_cases h : ∃ e ∈ settings, first e.1 = name
  · obtain ⟨e, he, rfl⟩ := h
    rw [get?_layer_of_mem hother (hperm.mem_iff.mpr he), get?_layer_of_mem hfirst he]
  · have hne : ∀ e ∈ settings, first e.1 ≠ name := by simpa using h
    rw [get?_layer_of_forall_ne fun e he => hne e (hperm.mem_iff.mp he),
      get?_layer_of_forall_ne hne]

/-! ### Settings of fields -/

/-- The last of the values that are put at a path. -/
def lastAt? (path : List PathStep) (settings : List (String × Value)) : Option Value :=
  (settings.reverse.find? fun e => ofKey e.1 = path).map Prod.snd

theorem lastAt?_concat (path : List PathStep) (settings : List (String × Value))
    (e : String × Value) : lastAt? path (settings ++ [e]) =
      if ofKey e.1 = path then some e.2 else lastAt? path settings := by
  rw [lastAt?, List.reverse_append, List.reverse_singleton, List.singleton_append, List.find?_cons]
  by_cases h : ofKey e.1 = path <;> simp [h, lastAt?]

/-- Whether something is put at a path. -/
theorem isSome_lastAt? (path : List PathStep) (settings : List (String × Value)) :
    (lastAt? path settings).isSome ↔ ∃ e ∈ settings, ofKey e.1 = path := by
  simp [lastAt?, List.find?_isSome]

/-- A key that stands for a field in a section. -/
def IsField (key : String) : Prop :=
  ∃ group field, ofKey key = [.key group, .key field]

/-- Of settings of fields, the last at a field is what stands there. -/
theorem getIn?_layer (hfields : ∀ e ∈ settings, IsField e.1)
    (hscalar : ∀ e ∈ settings, e.2.IsScalar) (root : Value) (group field : String) :
    (layer root settings).getIn? group field =
      (lastAt? [.key group, .key field] settings).or (root.getIn? group field) := by
  induction settings using List.reverseRecOn with
  | nil => rfl
  | append_singleton settings e ih =>
    obtain ⟨hfields, he⟩ := List.forall_mem_append.mp hfields
    obtain ⟨hscalar, hlast⟩ := List.forall_mem_append.mp hscalar
    obtain ⟨g, n, hkey⟩ := he e (List.mem_singleton_self e)
    rw [layer_concat, put, hkey, getIn?_modifyAt, (hlast e (List.mem_singleton_self e)).merge,
      ih hfields hscalar, lastAt?_concat, hkey]
    by_cases h : group = g ∧ field = n
    · obtain ⟨rfl, rfl⟩ := h
      simp
    · rw [if_neg h, if_neg fun hpath => h (by simpa [eq_comm] using hpath)]

theorem isSome_getIn?_layer (hfields : ∀ e ∈ settings, IsField e.1)
    (hscalar : ∀ e ∈ settings, e.2.IsScalar) {root : Value} {group field : String} :
    ((layer root settings).getIn? group field).isSome ↔
      (∃ e ∈ settings, ofKey e.1 = [.key group, .key field]) ∨
        (root.getIn? group field).isSome := by
  rw [getIn?_layer hfields hscalar, Option.isSome_or, Bool.or_eq_true, isSome_lastAt?]

/-- A section in which something is put is a table. -/
theorem exists_get?_layer_eq_table (hfields : ∀ e ∈ settings, IsField e.1)
    (htouched : ∃ e ∈ settings, first e.1 = name) (root : Value) :
    ∃ es, (layer root settings).get? name = some (table es) := by
  induction settings using List.reverseRecOn with
  | nil => simp at htouched
  | append_singleton settings e ih =>
    obtain ⟨hfields, he⟩ := List.forall_mem_append.mp hfields
    rw [layer_concat]
    by_cases hfirst : first e.1 = name
    · obtain ⟨group, field, hkey⟩ := he e (List.mem_singleton_self e)
      have hgroup : group = name := (first_of_ofKey hkey).symm.trans hfirst
      rw [put, hkey, hgroup, get?_modifyAt_self]
      exact ⟨_, rfl⟩
    · obtain ⟨d, hd, hname⟩ := htouched
      rw [get?_put_of_ne hfirst]
      rcases List.mem_append.mp hd with hd | hd
      · exact ih hfields ⟨d, hd, hname⟩
      · rw [List.mem_singleton.mp hd] at hname
        exact absurd hname hfirst

end Settings

/-! ### Each name once -/

/-- A value in which no table has a name twice. -/
inductive Value.EachOnce : Value → Prop
  | nil : EachOnce .nil
  | bool (b : Bool) : EachOnce (.bool b)
  | int (n : Int) : EachOnce (.int n)
  | float (x : Binary64) : EachOnce (.float x)
  | text (s : String) : EachOnce (.text s)
  | array {items : List Value} : (∀ v ∈ items, EachOnce v) → EachOnce (.array items)
  | table {es : List (String × Value)} : (es.map Prod.fst).Nodup → (∀ e ∈ es, EachOnce e.2) →
      EachOnce (.table es)

namespace Value

theorem IsScalar.eachOnce {v : Value} (h : v.IsScalar) : v.EachOnce := by
  cases v with
  | nil | array | table => exact h.elim
  | _ => constructor

/-- Entries with new names are put behind those that are there. -/
theorem mergeEntries_table {es olds : List (String × Value)}
    (hmerge : ∀ e ∈ es, merge e.2 nil = e.2)
    (hnodup : ((olds ++ es).map Prod.fst).Nodup) :
    mergeEntries es (table olds) = table (olds ++ es) := by
  induction es generalizing olds with
  | nil => rw [mergeEntries, List.append_nil]
  | cons e es ih =>
    obtain ⟨hhead, htail⟩ := List.forall_mem_cons.mp hmerge
    have hnew : e.1 ∉ olds.map Prod.fst := by
      rw [List.map_append, List.nodup_append] at hnodup
      exact fun h => hnodup.2.2 _ h _ (by simp) rfl
    have hassoc : olds ++ e :: es = olds ++ [e] ++ es := by simp
    rw [mergeEntries, entries, modifyEntry_of_not_mem hnew, hhead, hassoc,
      ← ih htail (by rwa [← hassoc])]

/-- A value that is put where nothing was is there as it is. -/
theorem EachOnce.merge_nil {v : Value} (h : v.EachOnce) : merge v .nil = v := by
  induction h with
  | table hnodup _ ih =>
    rw [merge, mergeEntries_table ih (by rwa [List.nil_append]), List.nil_append]
  | _ => rfl

end Value

/-- Settings whose names are no paths, each name once, are the entries of the tree that they
make. -/
theorem Settings.layer_table {document : List (String × Value)}
    (honce : (Value.table document).EachOnce)
    (hplain : ∀ e ∈ document, KeyPath.ofKey e.1 = [.key e.1]) :
    layer (.table []) document = .table document := by
  have hmerge : layer (.table []) document = Value.mergeEntries document (.table []) := by
    generalize Value.table [] = root
    clear honce
    induction document generalizing root with
    | nil => rw [layer_nil, Value.mergeEntries]
    | cons e document ih =>
      obtain ⟨he, hdocument⟩ := List.forall_mem_cons.mp hplain
      rw [layer_cons, ih hdocument, Value.put, he, Value.mergeEntries]
      rfl
  cases honce with
  | table hnodup hes =>
    rw [hmerge, Value.mergeEntries_table (fun e he => (hes e he).merge_nil)
      (by rwa [List.nil_append]), List.nil_append]

end WalletReplay
