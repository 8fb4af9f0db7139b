import WalletReplay.File
import WalletReplay.Settings.Decode
import WalletReplay.Text.Utf8
import WalletReplay.Toml.Document

/-!
# Loading settings

Settings come from a TOML file, if one is given, and from environment variables, which win. A file
that is given must be there. A byte order mark at its beginning is passed over, and bytes that are
no text are read as replacement characters.

The keys of the file, and those of the variables, are put into a tree in an order that is left open
(`Loads`). It matters where the paths of two keys overlap, as those of the key `"replay.max_retries"`
and the table `[replay]` do. What is run takes them as they are listed (`load?`).
-/

namespace WalletReplay

/-- A text without the byte order mark at its beginning. -/
def withoutMark : List Char → List Char
  | '\uFEFF' :: cs => cs
  | cs => cs

/-- The text of the bytes of a settings file. A file may begin with a mark, and so may the document
in it. -/
def settingsText (bytes : ByteArray) : List Char :=
  withoutMark (withoutMark (Text.Utf8.decode bytes.toList))

namespace Settings

/-- The entries of a settings file, none if no file is given. -/
def documentOf : Option FileState → Option (List (String × Value))
  | none => some []
  | some (.file bytes) => Toml.read? (settingsText bytes)
  | some _ => none

/-- The settings of the variables, each key once. -/
def overridesOf (bindings : List (String × String)) : List (String × Value) :=
  gather (Environment.settings bindings)

/-- The settings that a file, if one is given, and environment variables give. -/
def load? (file : Option FileState) (bindings : List (String × String)) : Option Settings :=
  (documentOf file).bind fun document => ofLayers? document (overridesOf bindings)

/-- A file, if one is given, and environment variables give the settings in some order of the keys of
the document, and in some order of those of the variables. -/
def Loads (file : Option FileState) (bindings : List (String × String)) (s : Settings) : Prop :=
  ∃ document keys overrides, documentOf file = some document ∧ keys.Perm document ∧
    overrides.Perm (overridesOf bindings) ∧ ofLayers? keys overrides = some s

/-- The order in which they are listed is one of them. -/
theorem loads_of_load? {file : Option FileState} {bindings : List (String × String)} {s : Settings}
    (h : load? file bindings = some s) : Loads file bindings s := by
  obtain ⟨document, hdocument, hs⟩ := Option.bind_eq_some_iff.mp h
  exact ⟨document, document, overridesOf bindings, hdocument, .rfl, .rfl, hs⟩

end Settings

end WalletReplay
