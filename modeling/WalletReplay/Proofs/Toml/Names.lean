import WalletReplay.Proofs.Settings.Tree
import WalletReplay.Toml.Document

/-!
# Each name once

No table of a document has a name twice: a key, or a header, only adds a name that is not there, and
changes what stands under one that is.

## What is proved

* `EachOnce.descend` — a change to the table at the end of a path keeps names apart in the whole
  document if it does so in that table.
* `EachOnce.insertKey`, `EachOnce.openTable`, `EachOnce.openElement` — keys and headers do so.
* `readsOnce` — values, and the tables in braces in them, have each name once.
* `read?_eachOnce` — every document that is read does.
-/

namespace WalletReplay.Toml

/-- A part of a document in which no table has a name twice. -/
inductive Node.EachOnce : Node → Prop
  | closed {v : Value} : v.EachOnce → EachOnce (.closed v)
  | table {origin : Origin} {es : List (String × Node)} : (es.map Prod.fst).Nodup →
      (∀ e ∈ es, EachOnce e.2) → EachOnce (.table origin es)
  | tables {elements : List Node} : (∀ node ∈ elements, EachOnce node) →
      EachOnce (.tables elements)

/-- Entries of different names, in none of which a table has a name twice. -/
def EachOnce (es : Entries) : Prop :=
  (es.map Prod.fst).Nodup ∧ ∀ e ∈ es, e.2.EachOnce

/-! ### The values of entries -/

theorem entryValues_eq_map (es : Entries) :
    entryValues es = es.map fun e => (e.1, e.2.value) := by
  induction es with
  | nil => rfl
  | cons e es ih => rw [entryValues, ih, List.map_cons]

theorem nodeValues_eq_map (nodes : List Node) : nodeValues nodes = nodes.map Node.value := by
  induction nodes with
  | nil => rfl
  | cons node nodes ih => rw [nodeValues, ih, List.map_cons]

theorem Node.EachOnce.value {node : Node} (h : node.EachOnce) : node.value.EachOnce := by
  induction h with
  | closed hv => exact hv
  | table hnodup _ ih =>
    rw [Node.value, entryValues_eq_map]
    refine .table (by simpa [Function.comp_def] using hnodup) fun _ hmem => ?_
    obtain ⟨e, he, rfl⟩ := List.mem_map.mp hmem
    exact ih e he
  | tables _ ih =>
    rw [Node.value, nodeValues_eq_map]
    exact .array (by simpa using ih)

/-! ### Entries that are added and changed -/

section Entries

variable {name : String} {node : Node} {es es' : Entries}

theorem EachOnce.nil : EachOnce [] :=
  ⟨List.nodup_nil, by simp⟩

theorem EachOnce.table (h : EachOnce es) (origin : Origin) : (Node.table origin es).EachOnce :=
  .table h.1 h.2

theorem EachOnce.of_table {origin : Origin} (h : (Node.table origin es).EachOnce) :
    EachOnce es := by
  cases h with
  | table hnodup hes => exact ⟨hnodup, hes⟩

theorem EachOnce.values (h : EachOnce es) : (Value.table (entryValues es)).EachOnce :=
  (h.table .opened).value

theorem EachOnce.of_lookup (h : EachOnce es) (hname : es.lookup name = some node) :
    node.EachOnce := by
  obtain ⟨before, after, rfl, -⟩ := List.lookup_eq_some_iff.mp hname
  exact h.2 (name, node) (by simp)

theorem EachOnce.append (h : EachOnce es) (hname : es.lookup name = none)
    (hnode : node.EachOnce) : EachOnce (es ++ [(name, node)]) := by
  have hnew : ∀ e ∈ es, e.1 ≠ name := fun e he heq =>
    bne_iff_ne.mp (List.lookup_eq_none_iff.mp hname e he) heq.symm
  refine ⟨?_, List.forall_mem_append.mpr ⟨h.2, by simpa using hnode⟩⟩
  simpa [List.nodup_append, h.1] using fun a x he => hnew (a, x) he

theorem map_fst_replace (name : String) (node : Node) (es : Entries) :
    (replace name node es).map Prod.fst = es.map Prod.fst := by
  induction es with
  | nil => rfl
  | cons e es ih =>
    rw [replace]
    split <;> simp [ih]

theorem EachOnce.replace (h : EachOnce es) (hnode : node.EachOnce) :
    EachOnce (replace name node es) := by
  refine ⟨by rw [map_fst_replace]; exact h.1, ?_⟩
  have hall := h.2
  clear h
  induction es with
  | nil => simp [Toml.replace]
  | cons e es ih =>
    obtain ⟨he, hes⟩ := List.forall_mem_cons.mp hall
    rw [Toml.replace]
    split
    · exact List.forall_mem_cons.mpr ⟨hnode, hes⟩
    · exact List.forall_mem_cons.mpr ⟨he, ih hes⟩

/-- A change at the end of a path, by a change that keeps names apart. The induction is on the path:
what is entered on the way is made with no entries, or is what stands under its name. -/
theorem EachOnce.descend {byKey : Bool} {f : Origin → Entries → Option Entries}
    (hf : ∀ origin es es', EachOnce es → f origin es = some es' → EachOnce es')
    {path : List String} {origin : Origin} (h : EachOnce es)
    (hes' : descend byKey f path origin es = some es') : EachOnce es' := by
  induction path generalizing origin es es' with
  | nil => exact hf origin es es' h hes'
  | cons name path ih =>
    rw [Toml.descend] at hes'
    split at hes'
    case h_1 hname =>
      obtain ⟨sub, hsub, hes'⟩ := Option.bind_eq_some_iff.mp hes'
      cases hes'
      exact h.append hname ((ih .nil hsub).table _)
    case h_2 hname =>
      split at hes'
      · obtain ⟨sub, hsub, hes'⟩ := Option.bind_eq_some_iff.mp hes'
        cases hes'
        exact h.replace ((ih (of_table (h.of_lookup hname)) hsub).table _)
      · cases hes'
    case h_3 elements hname =>
      split at hes'
      case h_1 hlast =>
        obtain ⟨sub, hsub, hes'⟩ := Option.bind_eq_some_iff.mp hes'
        cases hes'
        cases h.of_lookup hname with
        | tables hall =>
          have hsub := ih (of_table (hall _ (List.mem_of_getLast? hlast))) hsub
          refine h.replace (.tables (List.forall_mem_append.mpr ⟨fun node hnode => ?_, ?_⟩))
          · exact hall node (List.dropLast_subset elements hnode)
          · simpa using hsub.table _
      · cases hes'
    case h_4 => cases hes'

theorem EachOnce.insertKey {path : List String} {v : Value} (h : EachOnce es) (hv : v.EachOnce)
    (hes' : insertKey path name v es = some es') : EachOnce es' := by
  refine h.descend (fun origin es es' hes hes' => ?_) hes'
  dsimp only at hes'
  split at hes'
  · cases hes'
  · split at hes'
    case h_1 => cases hes'
    case h_2 hname =>
      cases hes'
      exact hes.append hname (.closed hv)

theorem EachOnce.openTable {path : List String} (h : EachOnce es)
    (hes' : openTable path name es = some es') : EachOnce es' := by
  refine h.descend (fun _ es es' hes hes' => ?_) hes'
  split at hes'
  case h_1 hname =>
    cases hes'
    exact hes.append hname (EachOnce.nil.table .opened)
  case h_2 hname =>
    cases hes'
    exact hes.replace ((of_table (hes.of_lookup hname)).table .opened)
  case h_3 => cases hes'

theorem EachOnce.openElement {path : List String} (h : EachOnce es)
    (hes' : openElement path name es = some es') : EachOnce es' := by
  have hopened : (Node.table .opened []).EachOnce := EachOnce.nil.table .opened
  refine h.descend (fun _ es es' hes hes' => ?_) hes'
  split at hes'
  case h_1 hname =>
    cases hes'
    exact hes.append hname (.tables (by simpa using hopened))
  case h_2 hname =>
    cases hes'
    cases hes.of_lookup hname with
    | tables hall =>
      exact hes.replace (.tables (List.forall_mem_append.mpr ⟨hall, by simpa using hopened⟩))
  case h_3 => cases hes'

end Entries

/-! ### Words -/

/-- If there is a value, it is a scalar. -/
def GivesScalar (x : Option Value) : Prop :=
  ∀ v, x = some v → v.IsScalar

namespace GivesScalar

theorem none : GivesScalar none :=
  fun _ h => nomatch h

theorem some {v : Value} (h : v.IsScalar) : GivesScalar (some v) := by
  rintro _ ⟨⟩
  exact h

theorem bind {α : Type} {x : Option α} {f : α → Option Value} (h : ∀ a, GivesScalar (f a)) :
    GivesScalar (x.bind f) := by
  intro v hv
  obtain ⟨a, -, ha⟩ := Option.bind_eq_some_iff.mp hv
  exact h a v ha

theorem ite {c : Prop} [Decidable c] {x y : Option Value} (hx : GivesScalar x)
    (hy : GivesScalar y) : GivesScalar (if c then x else y) := by
  split <;> assumption

end GivesScalar

theorem givesScalar_bounded (n : Int) : GivesScalar (bounded n) :=
  .ite (.some trivial) .none

theorem givesScalar_inBase (base : Nat) (isDigit : Char → Bool) (cs : List Char) :
    GivesScalar (inBase base isDigit cs) :=
  .bind fun _ => givesScalar_bounded _

theorem givesScalar_integer? (cs : List Char) : GivesScalar (integer? cs) := by
  unfold integer?
  split
  · exact givesScalar_inBase _ _ _
  · exact givesScalar_inBase _ _ _
  · exact givesScalar_inBase _ _ _
  · exact .bind fun _ => givesScalar_bounded _

theorem givesScalar_finite? (x : Binary64) : GivesScalar (finite? x) := by
  unfold finite?
  split
  · exact .none
  · exact .some trivial

theorem givesScalar_float? (cs : List Char) : GivesScalar (float? cs) := by
  refine .ite (.some trivial) (.ite (.some trivial) (.ite .none ?_))
  exact .bind fun _ => .bind fun _ => .bind fun _ => givesScalar_finite? _

theorem givesScalar_moment? (cs : List Char) : GivesScalar (moment? cs) := by
  unfold moment?
  split
  · exact .some trivial
  · exact .ite (.bind fun _ => .bind fun _ => .some trivial) .none
  · exact .bind fun _ => .ite (.some trivial) .none

theorem givesScalar_scalar? (cs : List Char) : GivesScalar (scalar? cs) := by
  refine .ite (.some trivial) (.ite (.some trivial) ?_)
  split
  · rename_i h
    exact .some (givesScalar_integer? cs _ h)
  · split
    · rename_i h
      exact .some (givesScalar_float? cs _ h)
    · exact givesScalar_moment? cs

/-! ### Values -/

/-- What each reader gives has each name once, if so much reading is left. -/
structure ReadsOnce (fuel : Nat) : Prop where
  /-- Values. -/
  value {depth : Nat} {cs : List Char} {r : Value × List Char} :
    Toml.value fuel depth cs = some r → r.1.EachOnce
  /-- The items of an array. -/
  items {depth : Nat} {cs : List Char} {r : List Value × List Char} :
    Toml.items fuel depth cs = some r → ∀ v ∈ r.1, v.EachOnce
  /-- The entries of a table in braces, behind others. -/
  pairs {depth : Nat} {es : Entries} {cs : List Char} {r : Entries × List Char} :
    EachOnce es → Toml.pairs fuel depth es cs = some r → EachOnce r.1
  /-- The value behind a key. -/
  pair {skip : List Char → List Char} {depth : Nat} {cs : List Char}
    {r : (List String × String × Value) × List Char} :
    Toml.pair skip fuel depth cs = some r → r.1.2.2.EachOnce

section Readers

variable {fuel depth : Nat} {cs : List Char}

theorem ReadsOnce.value_succ (h : ReadsOnce fuel) {r : Value × List Char}
    (hr : Toml.value (fuel + 1) depth cs = some r) : r.1.EachOnce := by
  rw [value.eq_def] at hr
  dsimp only at hr
  split at hr
  · cases hr
    exact .text _
  · cases hr
    exact .text _
  · split at hr
    · cases hr
    · cases hr
    · obtain ⟨a, ha, rfl⟩ := Option.map_eq_some_iff.mp hr
      exact .array (h.items ha)
    · obtain ⟨a, ha, rfl⟩ := Option.map_eq_some_iff.mp hr
      exact (h.pairs .nil ha).values
    · obtain ⟨v, hv, rfl⟩ := Option.map_eq_some_iff.mp hr
      exact (givesScalar_scalar? _ v hv).eachOnce

theorem ReadsOnce.items_succ (h : ReadsOnce fuel) {r : List Value × List Char}
    (hr : Toml.items (fuel + 1) depth cs = some r) : ∀ v ∈ r.1, v.EachOnce := by
  rw [items.eq_def] at hr
  dsimp only at hr
  split at hr
  · cases hr
    simp
  · split at hr
    · cases hr
    · rename_i hvalue
      split at hr
      · obtain ⟨a, ha, rfl⟩ := Option.map_eq_some_iff.mp hr
        exact List.forall_mem_cons.mpr ⟨h.value hvalue, h.items ha⟩
      · cases hr
        simpa using h.value hvalue
      · cases hr

theorem ReadsOnce.pairs_succ (h : ReadsOnce fuel) {es : Entries} {r : Entries × List Char}
    (hes : EachOnce es) (hr : Toml.pairs (fuel + 1) depth es cs = some r) : EachOnce r.1 := by
  rw [pairs.eq_def] at hr
  dsimp only at hr
  split at hr
  · cases hr
    exact hes
  · split at hr
    · cases hr
    · rename_i hpair
      split at hr
      · cases hr
      · rename_i hinsert
        have hes := hes.insertKey (h.pair hpair) hinsert
        split at hr
        · exact h.pairs hes hr
        · cases hr
          exact hes
        · cases hr

theorem ReadsOnce.pair_succ (h : ReadsOnce fuel) {skip : List Char → List Char}
    {r : (List String × String × Value) × List Char}
    (hr : Toml.pair skip (fuel + 1) depth cs = some r) : r.1.2.2.EachOnce := by
  rw [pair.eq_def] at hr
  dsimp only at hr
  split at hr
  · cases hr
  · split at hr
    · obtain ⟨a, ha, rfl⟩ := Option.map_eq_some_iff.mp hr
      exact h.value ha
    · cases hr

theorem readsOnce (fuel : Nat) : ReadsOnce fuel := by
  induction fuel with
  | zero =>
    constructor
    · intro depth cs r hr
      rw [value.eq_def] at hr
      cases hr
    · intro depth cs r hr
      rw [items.eq_def] at hr
      cases hr
    · intro depth es cs r _ hr
      rw [pairs.eq_def] at hr
      cases hr
    · intro skip depth cs r hr
      rw [pair.eq_def] at hr
      cases hr
  | succ fuel ih => exact ⟨ih.value_succ, ih.items_succ, ih.pairs_succ, ih.pair_succ⟩

end Readers

/-! ### Documents -/

/-- A line keeps names apart. -/
theorem line_eachOnce {d : Draft} {cs : List Char} {r : Draft × List Char}
    (h : EachOnce d.entries) (hr : line d cs = some r) : EachOnce r.1.entries := by
  rw [line] at hr
  split at hr
  · obtain ⟨⟨parts, rest⟩, -, hr⟩ := Option.bind_eq_some_iff.mp hr
    obtain ⟨⟨path, name⟩, -, hr⟩ := Option.bind_eq_some_iff.mp hr
    dsimp only at hr
    split at hr
    · obtain ⟨entries, hopen, hr⟩ := Option.bind_eq_some_iff.mp hr
      cases hr
      exact h.openElement hopen
    · cases hr
  · obtain ⟨⟨parts, rest⟩, -, hr⟩ := Option.bind_eq_some_iff.mp hr
    obtain ⟨⟨path, name⟩, -, hr⟩ := Option.bind_eq_some_iff.mp hr
    dsimp only at hr
    split at hr
    · obtain ⟨entries, hopen, hr⟩ := Option.bind_eq_some_iff.mp hr
      cases hr
      exact h.openTable hopen
    · cases hr
  · split at hr
    · cases hr
      exact h
    · obtain ⟨⟨⟨path, name, v⟩, more⟩, hpair, hr⟩ := Option.bind_eq_some_iff.mp hr
      obtain ⟨entries, hinsert, hr⟩ := Option.bind_eq_some_iff.mp hr
      cases hr
      have hv : v.EachOnce := (readsOnce _).pair hpair
      exact h.descend (fun _ _ _ hes hes' => hes.insertKey hv hes') hinsert

theorem document_eachOnce {fuel : Nat} {d r : Draft} {cs : List Char} (h : EachOnce d.entries)
    (hr : document fuel d cs = some r) : EachOnce r.entries := by
  induction fuel generalizing d cs with
  | zero => cases hr
  | succ fuel ih =>
    obtain ⟨⟨next, rest⟩, hline, hr⟩ := Option.bind_eq_some_iff.mp hr
    obtain ⟨rest, -, hr⟩ := Option.bind_eq_some_iff.mp hr
    have hnext := line_eachOnce h hline
    split at hr
    · cases hr
      exact hnext
    · exact ih hnext hr

/-- **No table of a document that is read has a name twice.** -/
theorem read?_eachOnce {text : List Char} {document : List (String × Value)}
    (h : read? text = some document) : (Value.table document).EachOnce := by
  obtain ⟨d, hd, hdocument⟩ := Option.bind_eq_some_iff.mp h
  cases hdocument
  exact (document_eachOnce .nil hd).values

end WalletReplay.Toml
