import WalletReplay.Proofs.Settings.Layers
import WalletReplay.Proofs.Text.Notation

/-!
# How a path is spelled

The value of a variable is taken for what it looks like before it is known what it is for. A path
that looks like a truth value or a number is therefore written anew, as that value is written: `007`
becomes `7`. In a file such a path is in quotes, and stays as it is.

## What is proved

* `respells_iff` — how the value of a variable is written once it is a text.
* `Respells.eq_of_not_isScalarChar` — it is unchanged if it has a character that no truth value and no
  number has, such as a slash.
* `path_of_last`, `path_of_document` — the path from a variable, and from a file.
* `load_path` — what the path is for every text, and that any text can be given.
* `path_of_zeros` — one text that makes two paths.
-/

namespace WalletReplay

/-- The characters that truth values and numbers are made of. -/
def isScalarChar (c : Char) : Bool :=
  c.isAlphanum || c = '+' || c = '-' || c = '.'

namespace Environment

/-- Whether a text is a truth value, in any case. -/
def IsTruth (s : String) : Prop :=
  s.toList.map lowerChar = "true".toList ∨ s.toList.map lowerChar = "false".toList

/-- How the value of a variable is written once it is a text. -/
inductive Respells (s : String) : String → Prop where
  /-- Yes, in lower case. -/
  | yes (h : s.toList.map lowerChar = "true".toList) : Respells s "true"
  /-- No, in lower case. -/
  | no (h : s.toList.map lowerChar = "false".toList) : Respells s "false"
  /-- An integer of 64 bits, without a plus sign and without leading zeros. -/
  | integer {n : Int} (ht : ¬IsTruth s) (h : Text.Decimal.int64? s.toList = some n) :
      Respells s (String.ofList (Text.Decimal.ofInt n))
  /-- Another number, in its shortest form without an exponent. -/
  | number {x : Binary64} (ht : ¬IsTruth s) (hn : Text.Decimal.int64? s.toList = none)
      (h : Binary64.read? s.toList = some x) : Respells s (String.ofList x.text)
  /-- Anything else, as it is. -/
  | itself (ht : ¬IsTruth s) (hn : Text.Decimal.int64? s.toList = none)
      (hx : Binary64.read? s.toList = none) : Respells s s

variable {s t : String}

theorem value_of_yes (h : s.toList.map lowerChar = "true".toList) : value s = .bool true :=
  if_pos h

theorem value_of_no (h : s.toList.map lowerChar = "false".toList) : value s = .bool false := by
  have hne : s.toList.map lowerChar ≠ "true".toList := by
    rw [h]
    decide
  rw [value]
  exact (if_neg hne).trans (if_pos h)

theorem value_of_not_isTruth (h : ¬IsTruth s) : value s =
    match Text.Decimal.int64? s.toList with
    | some n => .int n
    | none =>
      match Binary64.read? s.toList with
      | some x => .float x
      | none => .text s := by
  obtain ⟨hyes, hno⟩ := not_or.mp h
  rw [value]
  exact (if_neg hyes).trans (if_neg hno)

/-- **How the value of a variable is written** once it is a text. -/
theorem respells_iff : Respells s t ↔ (value s).asText = some t := by
  constructor
  · intro h
    cases h with
    | yes h => rw [value_of_yes h]; rfl
    | no h => rw [value_of_no h]; rfl
    | integer ht h => rw [value_of_not_isTruth ht, h]; rfl
    | number ht hn h => rw [value_of_not_isTruth ht, hn, h]; rfl
    | itself ht hn hx => rw [value_of_not_isTruth ht, hn, hx]; rfl
  · intro h
    by_cases hyes : s.toList.map lowerChar = "true".toList
    · rw [value_of_yes hyes] at h
      cases h
      exact .yes hyes
    by_cases hno : s.toList.map lowerChar = "false".toList
    · rw [value_of_no hno] at h
      cases h
      exact .no hno
    have ht : ¬IsTruth s := not_or.mpr ⟨hyes, hno⟩
    rw [value_of_not_isTruth ht] at h
    cases hn : Text.Decimal.int64? s.toList with
    | some n =>
      rw [hn] at h
      cases h
      exact .integer ht hn
    | none =>
      cases hx : Binary64.read? s.toList with
      | some x =>
        rw [hn, hx] at h
        cases h
        exact .number ht hn hx
      | none =>
        rw [hn, hx] at h
        cases h
        exact .itself ht hn hx

/-! ### What looks like a scalar -/

theorem isScalarChar_of_isAlphanum {c : Char} (h : c.isAlphanum) : isScalarChar c := by
  simp [isScalarChar, h]

theorem isScalarChar_of_isDigit {c : Char} (h : c.isDigit) : isScalarChar c :=
  isScalarChar_of_isAlphanum (by simp [Char.isAlphanum, h])

theorem isScalarChar_of_toLower {c : Char} (h : c.toLower.isAlphanum) : isScalarChar c := by
  apply isScalarChar_of_isAlphanum
  unfold Char.toLower at h
  split at h
  case isTrue hrange =>
    have hupper : c.isUpper = true := decide_eq_true hrange
    change (c.isUpper || c.isLower || c.isDigit) = true
    rw [hupper]
    rfl
  case isFalse => exact h

theorem isScalarChar_of_isTruth (h : IsTruth s) : ∀ c ∈ s.toList, isScalarChar c := by
  intro c hc
  have hlower : lowerChar c ∈ "truefalse".toList := by
    have hmem := List.mem_map_of_mem (f := lowerChar) hc
    rcases h with h | h <;> rw [h] at hmem
    · exact List.mem_append_left "false".toList hmem
    · exact List.mem_append_right "true".toList hmem
  unfold lowerChar at hlower
  split at hlower
  · exact absurd hlower (by decide)
  · exact isScalarChar_of_toLower (List.all_eq_true.mp (by decide) _ hlower)

theorem isScalarChar_of_numeral {cs : List Char} {n : Nat} (h : Text.Decimal.Numeral cs n) :
    ∀ c ∈ cs, isScalarChar c :=
  fun c hc => isScalarChar_of_isDigit (h.isDigit c hc)

theorem isScalarChar_of_signed? {cs : List Char} {n : Int} (h : Text.Decimal.signed? cs = some n) :
    ∀ c ∈ cs, isScalarChar c := by
  cases Text.Decimal.signed?_eq_some_iff.mp h with
  | plain hcs => exact isScalarChar_of_numeral hcs
  | plus hcs => exact List.forall_mem_cons.mpr ⟨by decide, isScalarChar_of_numeral hcs⟩
  | minus hcs => exact List.forall_mem_cons.mpr ⟨by decide, isScalarChar_of_numeral hcs⟩

theorem isScalarChar_of_exponent? {cs : List Char} {n : Int} (h : Binary64.exponent? cs = some n) :
    ∀ c ∈ cs, isScalarChar c := by
  cases cs with
  | nil => simp
  | cons c cs =>
    rw [Binary64.exponent?] at h
    split at h
    case isTrue hc =>
      refine List.forall_mem_cons.mpr ⟨?_, isScalarChar_of_signed? h⟩
      obtain rfl | rfl := hc <;> decide
    case isFalse => cases h

theorem isScalarChar_of_spanDigits {cs : List Char}
    (h : ∀ c ∈ (Binary64.spanDigits cs).2, isScalarChar c) : ∀ c ∈ cs, isScalarChar c := by
  intro c hc
  rw [← List.takeWhile_append_dropWhile (p := Char.isDigit) (l := cs)] at hc
  rcases List.mem_append.mp hc with hc | hc
  · exact isScalarChar_of_isDigit (List.all_eq_true.mp List.all_takeWhile c hc)
  · exact h c hc

theorem isScalarChar_of_fraction {cs : List Char}
    (h : ∀ c ∈ (Binary64.fraction cs).2, isScalarChar c) : ∀ c ∈ cs, isScalarChar c := by
  unfold Binary64.fraction at h
  split at h
  · exact List.forall_mem_cons.mpr ⟨by decide, isScalarChar_of_spanDigits h⟩
  · exact h

theorem isScalarChar_of_unsignedDecimal? {cs : List Char} {d : Nat × Int}
    (h : Binary64.unsignedDecimal? cs = some d) : ∀ c ∈ cs, isScalarChar c := by
  rw [Binary64.unsignedDecimal?] at h
  split at h
  case h_1 whole rest hwhole =>
    split at h
    case h_1 places tail hplaces =>
      split at h
      case isTrue => cases h
      case isFalse =>
        split at h
        case h_1 => cases h
        case h_2 hexponent =>
          refine isScalarChar_of_spanDigits (isScalarChar_of_fraction ?_)
          rw [hwhole, hplaces]
          exact isScalarChar_of_exponent? hexponent

theorem isScalarChar_of_readUnsigned? {negative : Bool} {cs : List Char} {x : Binary64}
    (h : Binary64.readUnsigned? negative cs = some x) : ∀ c ∈ cs, isScalarChar c := by
  have hword {word : List Char} (hall : word.all Char.isAlphanum)
      (h : cs.map Char.toLower = word) : ∀ c ∈ cs, isScalarChar c := fun c hc =>
    isScalarChar_of_toLower (List.all_eq_true.mp hall _ (h ▸ List.mem_map_of_mem hc))
  rw [Binary64.readUnsigned?] at h
  split at h
  case isTrue hcs =>
    obtain hcs | hcs := hcs
    · exact hword (by decide) hcs
    · exact hword (by decide) hcs
  case isFalse =>
    split at h
    case isTrue hcs => exact hword (by decide) hcs
    case isFalse =>
      obtain ⟨d, hd, -⟩ := Option.map_eq_some_iff.mp h
      exact isScalarChar_of_unsignedDecimal? hd

theorem isScalarChar_of_read? {cs : List Char} {x : Binary64} (h : Binary64.read? cs = some x) :
    ∀ c ∈ cs, isScalarChar c := by
  unfold Binary64.read? at h
  split at h
  · exact List.forall_mem_cons.mpr ⟨by decide, isScalarChar_of_readUnsigned? h⟩
  · exact List.forall_mem_cons.mpr ⟨by decide, isScalarChar_of_readUnsigned? h⟩
  · exact isScalarChar_of_readUnsigned? h

/-- A text with any other character is written as it is. -/
theorem Respells.eq_of_not_isScalarChar (h : Respells s t) {c : Char} (hc : c ∈ s.toList)
    (hother : ¬isScalarChar c) : t = s := by
  cases h with
  | yes h => exact absurd (isScalarChar_of_isTruth (.inl h) c hc) hother
  | no h => exact absurd (isScalarChar_of_isTruth (.inr h) c hc) hother
  | integer _ h =>
    exact absurd (isScalarChar_of_signed? (Option.eq_some_of_filter_eq_some h) c hc) hother
  | number _ _ h => exact absurd (isScalarChar_of_read? h c hc) hother
  | itself => rfl

end Environment

namespace Settings

open Value Environment

variable {file : Option FileState} {bindings : List (String × String)} {settings : Settings}

/-- Whether a variable puts something into a section. -/
def Touches (group : String) (v : String × String) : Prop :=
  ∃ key, key? v.1 = some key ∧ KeyPath.first key = group

theorem first_ne_of_not_touches {group : String} (h : ∀ v ∈ bindings, ¬Touches group v) :
    ∀ e ∈ Environment.settings bindings, KeyPath.first e.1 ≠ group := by
  intro e he hfirst
  obtain ⟨v, hv, hsetting⟩ := List.mem_filterMap.mp he
  obtain ⟨key, hkey, rfl⟩ := Option.map_eq_some_iff.mp hsetting
  exact h v hv ⟨key, hkey, hfirst⟩

/-- Whatever stands before, the end of the settings is gathered as it is by itself. -/
theorem exists_gather_append (before after : List (String × Value)) :
    ∃ front, gather (before ++ after) = front ++ gather after := by
  induction before with
  | nil => exact ⟨[], rfl⟩
  | cons e before ih =>
    obtain ⟨front, hfront⟩ := ih
    rw [List.cons_append, gather]
    split
    · exact ⟨front, hfront⟩
    · exact ⟨e :: front, by rw [hfront, List.cons_append]⟩

/-- The last variable that touches a section, and sets a field of it, is what stands there. -/
theorem getIn?_layer_of_last {name group field : String} {after : List (String × String)}
    (hname : (key? name).map KeyPath.ofKey = some [.key group, .key field])
    (hafter : ∀ v ∈ after, ¬Touches group v) (before : List (String × String)) (s : String)
    (root : Value) :
    (layer root (overridesOf (before ++ (name, s) :: after))).getIn? group field =
      some (value s) := by
  obtain ⟨key, hkey, hpath⟩ := Option.map_eq_some_iff.mp hname
  have hsettings : Environment.settings (before ++ (name, s) :: after) =
      Environment.settings before ++ (key, value s) :: Environment.settings after := by
    simp [Environment.settings, hkey]
  have hne := first_ne_of_not_touches hafter
  have hlast : gather ((key, value s) :: Environment.settings after) =
      (key, value s) :: gather (Environment.settings after) := by
    refine if_neg fun hany => ?_
    obtain ⟨e, he, heq⟩ := List.any_eq_true.mp hany
    exact hne e he (by rw [of_decide_eq_true heq, KeyPath.first_of_ofKey hpath])
  obtain ⟨front, hfront⟩ := exists_gather_append (Environment.settings before)
    ((key, value s) :: Environment.settings after)
  rw [overridesOf, hsettings, hfront, hlast, layer_append, layer_cons,
    getIn?_layer_of_forall_ne fun e he => hne e (mem_of_mem_gather he), put, hpath,
    getIn?_modifyAt, if_pos ⟨rfl, rfl⟩, (isScalar_value s).merge]

/-- The last variable that touches the section sets the path, as its value is respelled. -/
theorem path_of_last {before after : List (String × String)} {name s : String}
    (h : load? file (before ++ (name, s) :: after) = some settings)
    (hname : (key? name).map KeyPath.ofKey = some Field.checkpointsPath.path)
    (hafter : ∀ v ∈ after, ¬Touches Field.checkpointsPath.group v) :
    ∃ path, settings.checkpointsPath = some path ∧ Respells s path := by
  obtain ⟨document, -, hvalue⟩ := Option.bind_eq_some_iff.mp h
  obtain ⟨-, -, -, hset⟩ := ofValue?_eq_some_iff.mp hvalue
  have hpath := hset .checkpointsPath
  rw [Field.value?, Field.own?,
    getIn?_layer_of_last hname hafter before s (layer (.table []) document), Option.some_or] at hpath
  obtain ⟨path, htext⟩ := (isScalar_value s).exists_asText
  have hoptional : optional asText (value s) = some (some path) := by
    rw [optional_of_ne_nil (isScalar_value s).ne_nil, htext, Option.map_some]
  exact ⟨path, Option.some.inj (hpath.symm.trans hoptional), respells_iff.mpr htext⟩

/-- A text under its key in the document, in whatever order the keys are put, is the path if no
variable touches the section. -/
theorem path_of_document {document : List (String × Value)} {s : String}
    (h : Loads file bindings settings) (hdocument : documentOf file = some document)
    (huntouched : ∀ v ∈ bindings, ¬Touches Field.checkpointsPath.group v)
    (htext : ∀ keys : List (String × Value), keys.Perm document →
      Field.checkpointsPath.own? (layer (.table []) keys) = some (.text s)) :
    settings.checkpointsPath = some s := by
  obtain ⟨other, keys, overrides, hother, hkeys, hoverrides, hvalue⟩ := h
  obtain rfl := Option.some.inj (hdocument.symm.trans hother)
  obtain ⟨-, -, -, hset⟩ := ofValue?_eq_some_iff.mp hvalue
  have hne : ∀ e ∈ overrides, KeyPath.first e.1 ≠ Field.checkpointsPath.group := fun e he =>
    first_ne_of_not_touches huntouched e (mem_of_mem_gather (hoverrides.mem_iff.mp he))
  have hpath := hset .checkpointsPath
  rw [Field.value?, Field.own?, getIn?_layer_of_forall_ne hne, ← Field.own?, htext keys hkeys,
    Option.some_or] at hpath
  exact (Option.some.inj hpath).symm

/-- Without a file and another variable, any text sets the path. -/
theorem exists_load_of_path (s : String) : ∃ path, Respells s path ∧
    load? none [(Field.checkpointsPath.variableName, s)] =
      some { checkpointsPath := some path } := by
  obtain ⟨path, htext⟩ := (isScalar_value s).exists_asText
  have hnames : ∀ v ∈ [(Field.checkpointsPath.variableName, s)], IsMarked v.1 →
      ∃ group field, Names v.1 group field :=
    List.forall_mem_singleton.mpr fun _ => ⟨_, _, Field.checkpointsPath.names_variableName⟩
  refine ⟨path, respells_iff.mpr htext, (load?_iff hnames rfl).mpr ⟨⟨nofun, nofun, ?_, ?_, nofun⟩,
    fun f => ?_⟩⟩
  · exact List.forall_mem_singleton.mpr fun _ => ⟨.checkpointsPath, rfl⟩
  · exact fun f => .inr nofun
  · have hsource : f.source? (layer (.table []) []) [(Field.checkpointsPath.variableName, s)] =
        if SameName Field.checkpointsPath.variableName f.variableName then some (value s)
        else none := by
      rw [Field.source?_of_item? rfl, Field.override?, List.reverse_singleton]
      split <;> simp_all [Field.own?, getIn?, layer, get?, entries]
    rw [hsource]
    cases f with
    | checkpointsPath =>
      rw [if_pos (by decide)]
      exact (optional_of_ne_nil (isScalar_value s).ne_nil).trans (congrArg (Option.map some) htext)
    | network | tickInterval | maxRetries | retryBackoff =>
      rw [if_neg (by decide)]
      rfl

/-- **The path of the checkpoint file, from a variable and from a file.** The variables are listed in
the order in which they are put, which need not be that of the environment. The path is the text of
the last that touches the section, as it is respelled; this is the text itself if it has a character
that no truth value and no number has. If none touches it, the path is the text that the document
gives under its key, whatever it looks like, if it gives it in every order of its keys. -/
theorem load_path (s : String) :
    (∃ path, Respells s path ∧ load? none [(Field.checkpointsPath.variableName, s)] =
      some { checkpointsPath := some path }) ∧
    (∀ file before name after settings,
      load? file (before ++ (name, s) :: after) = some settings →
      (key? name).map KeyPath.ofKey = some Field.checkpointsPath.path →
      (∀ v ∈ after, ¬Touches Field.checkpointsPath.group v) →
      ∃ path, settings.checkpointsPath = some path ∧ Respells s path ∧
        ((∃ c ∈ s.toList, ¬isScalarChar c) → path = s)) ∧
    ∀ file bindings settings document, Loads file bindings settings →
      documentOf file = some document →
      (∀ v ∈ bindings, ¬Touches Field.checkpointsPath.group v) →
      (∀ keys : List (String × Value), keys.Perm document →
        Field.checkpointsPath.own? (layer (.table []) keys) = some (.text s)) →
      settings.checkpointsPath = some s := by
  refine ⟨exists_load_of_path s, fun file before name after settings h hname hafter => ?_,
    fun file bindings settings document => path_of_document⟩
  obtain ⟨path, hpath, hrespells⟩ := path_of_last h hname hafter
  refine ⟨path, hpath, hrespells, fun hchar => ?_⟩
  obtain ⟨c, hc, hother⟩ := hchar
  exact hrespells.eq_of_not_isScalarChar hc hother

/-- The file gives a path, which a variable goes over. Digits are respelled; with a slash among them
they are not. Without the variable, the path of the file stays as it is. -/
theorem load_path_of_digits :
    let file : Option FileState := some (.file "checkpoints.path = \"old.txt\"".toUTF8)
    let bindings (path : String) := [("HOME", "/root"), (Field.checkpointsPath.variableName, path)]
    (∃ settings, load? file (bindings "007") = some settings ∧
        ∃ path, settings.checkpointsPath = some path ∧ Respells "007" path) ∧
      (∃ settings, load? file (bindings "0/7") = some settings ∧
        settings.checkpointsPath = some "0/7") ∧
      ∃ settings, Loads file [("HOME", "/root")] settings ∧
        settings.checkpointsPath = some "old.txt" := by
  intro file bindings
  have hname := Field.path_of_variableName .checkpointsPath
  have hloaded (path : String) (hpath : path ∈ ["007", "0/7"]) :
      (load? file (bindings path)).isSome := by
    revert path
    decide +kernel
  obtain ⟨settings, hload⟩ := Option.isSome_iff_exists.mp (hloaded "007" (by simp))
  obtain ⟨other, hother⟩ := Option.isSome_iff_exists.mp (hloaded "0/7" (by simp))
  obtain ⟨kept, hkept⟩ :=
    Option.isSome_iff_exists.mp (by decide +kernel : (load? file [("HOME", "/root")]).isSome)
  obtain ⟨path, hpath, hrespells, -⟩ :=
    (load_path "007").2.1 file [("HOME", "/root")] _ [] settings hload hname (by simp)
  obtain ⟨same, hsame, -, hunchanged⟩ :=
    (load_path "0/7").2.1 file [("HOME", "/root")] _ [] other hother hname (by simp)
  have hdocument : documentOf file = some [("checkpoints", table [("path", .text "old.txt")])] := by
    with_unfolding_all rfl
  have hhome : ∀ v ∈ [("HOME", "/root")], ¬Touches Field.checkpointsPath.group v := by
    refine List.forall_mem_singleton.mpr ?_
    rintro ⟨key, hkey, -⟩
    exact absurd hkey (by simp [show key? "HOME" = none by decide])
  refine ⟨⟨settings, hload, path, hpath, hrespells⟩, ⟨other, hother, ?_⟩,
    kept, loads_of_load? hkept, ?_⟩
  · rw [hsame, hunchanged ⟨'/', by decide, by decide⟩]
  · refine (load_path "old.txt").2.2 file _ kept _ (loads_of_load? hkept) hdocument hhome ?_
    -- There is one key, and so one order.
    intro keys hkeys
    rw [List.perm_singleton.mp hkeys]
    with_unfolding_all rfl

/-- One text makes one path in a variable and another in a file. -/
theorem path_of_zeros :
    load? none [(Field.checkpointsPath.variableName, "007")] =
        some { checkpointsPath := some "7" } ∧
      load? (some (.file "checkpoints.path = \"007\"".toUTF8)) [] =
        some { checkpointsPath := some "007" } := by
  decide +kernel

end Settings

end WalletReplay
