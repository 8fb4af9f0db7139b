import WalletReplay.Toml.Lexis
import WalletReplay.Toml.Scalar

/-!
# TOML: tables and documents

A document is a list of lines: headers, each of which opens a table, and keys with values, which go
into the table that was opened last. Keys have parts; all but the last name tables on the way.

A table may be opened only once. Tables on the way to others are made as they are needed, and may
still be opened by a header, unless a key leads through them. A table that a header has opened
cannot be entered by a key with several parts; a table in braces, or an array in brackets, cannot be
entered at all. A header in double brackets opens a new table at the end of an array of tables, and
is entered through the last of them.

Arrays and tables in braces are nested at most `maxDepth` levels deep.
-/

namespace WalletReplay.Toml

/-- How a table has come to be. -/
inductive Origin where
  /-- It is on the way to a table that a header has opened, and on no other. -/
  | passed
  /-- It is on the way to the last part of a key. -/
  | dotted
  /-- A header has opened it, or it is the whole document. -/
  | opened
  deriving DecidableEq, Repr

/-- A part of a document while it is being read. -/
inductive Node where
  /-- A value that is complete. -/
  | closed (v : Value)
  /-- A table. -/
  | table (origin : Origin) (entries : List (String × Node))
  /-- An array of tables that headers have opened. -/
  | tables (elements : List Node)

/-- The entries of a table while it is being read. -/
abbrev Entries := List (String × Node)

/-- With another node in place of the one of that name. -/
def replace (name : String) (node : Node) : Entries → Entries
  | [] => []
  | (k, n) :: es => if k = name then (k, node) :: es else (k, n) :: replace name node es

/-- Whether a table of that origin can be entered, by a key or by a header. -/
def Origin.canEnter (origin : Origin) (byKey : Bool) : Bool :=
  !(byKey && origin = .opened)

/-- Changes the table at the end of a path, entered by a key or by a header. -/
def descend (byKey : Bool) (f : Origin → Entries → Option Entries) :
    List String → Origin → Entries → Option Entries
  | [], origin, es => f origin es
  | name :: path, _, es =>
    match es.lookup name with
    | none => do
      let made : Origin := if byKey then .dotted else .passed
      let sub ← descend byKey f path made []
      return es ++ [(name, .table made sub)]
    | some (.table origin sub) =>
      if origin.canEnter byKey then do
        let entered : Origin := if byKey then .dotted else origin
        let sub ← descend byKey f path entered sub
        return replace name (.table entered sub) es
      else none
    | some (.tables elements) =>
      match elements.getLast? with
      | some (.table origin sub) => do
        let sub ← descend byKey f path origin sub
        return replace name (.tables (elements.dropLast ++ [.table origin sub])) es
      | _ => none
    | some (.closed _) => none

/-- Puts a value under a key: the table that its last part goes into must have come to be by keys
like it, or be the one that is open, if there is but one part. -/
def insertKey (path : List String) (name : String) (v : Value) (es : Entries) : Option Entries :=
  descend true
    (fun origin es =>
      let byKey : Bool := origin = .dotted
      if byKey = path.isEmpty then none
      else
        match es.lookup name with
        | some _ => none
        | none => some (es ++ [(name, .closed v)]))
    path .opened es

/-- Opens the table of a header. -/
def openTable (path : List String) (name : String) (es : Entries) : Option Entries :=
  descend false
    (fun _ es =>
      match es.lookup name with
      | none => some (es ++ [(name, .table .opened [])])
      | some (.table .passed sub) => some (replace name (.table .opened sub) es)
      | some _ => none)
    path .opened es

/-- Opens a new table at the end of the array of tables of a header. -/
def openElement (path : List String) (name : String) (es : Entries) : Option Entries :=
  descend false
    (fun _ es =>
      match es.lookup name with
      | none => some (es ++ [(name, .tables [.table .opened []])])
      | some (.tables elements) =>
        some (replace name (.tables (elements ++ [.table .opened []])) es)
      | some _ => none)
    path .opened es

mutual

/-- The value of a node. -/
def Node.value : Node → Value
  | .closed v => v
  | .table _ es => .table (entryValues es)
  | .tables elements => .array (nodeValues elements)

/-- The values of the entries of a table. -/
def entryValues : List (String × Node) → List (String × Value)
  | [] => []
  | (name, node) :: es => (name, node.value) :: entryValues es

/-- The values of nodes in a row. -/
def nodeValues : List Node → List Value
  | [] => []
  | node :: nodes => node.value :: nodeValues nodes

end

/-- A key split into the parts on the way and the last. -/
def splitKey (parts : List String) : Option (List String × String) :=
  parts.getLast?.map fun name => (parts.dropLast, name)

/-- Arrays and tables in braces are nested at most so deep. -/
def maxDepth : Nat := 80

mutual

/-- A value, in which arrays and tables are nested at most so deep. -/
def value : Nat → (depth : Nat) → Reader Value
  | 0, _, _ => none
  | fuel + 1, depth, cs =>
    match longText cs, shortText cs with
    | some (s, rest), _ => some (.text s, rest)
    | none, some (s, rest) => some (.text s, rest)
    | none, none =>
      match depth, cs with
      | 0, '[' :: _ => none
      | 0, '{' :: _ => none
      | depth + 1, '[' :: rest => (items fuel depth rest).map fun r => (.array r.1, r.2)
      | depth + 1, '{' :: rest =>
        (pairs fuel depth [] rest).map fun r => (.table (entryValues r.1), r.2)
      | _, cs =>
        let (w, rest) := word cs
        (scalar? w).map fun v => (v, rest)

/-- The items of an array up to its closing bracket. -/
def items : Nat → (depth : Nat) → Reader (List Value)
  | 0, _, _ => none
  | fuel + 1, depth, cs =>
    match skipBlank cs with
    | ']' :: rest => some ([], rest)
    | cs =>
      match value fuel depth cs with
      | none => none
      | some (v, rest) =>
        match skipBlank rest with
        | ',' :: rest => (items fuel depth rest).map fun r => (v :: r.1, r.2)
        | ']' :: rest => some ([v], rest)
        | _ => none

/-- The pairs of a table in braces up to its closing brace. -/
def pairs : Nat → (depth : Nat) → Entries → Reader Entries
  | 0, _, _, _ => none
  | fuel + 1, depth, es, cs =>
    match skipBlank cs with
    | '}' :: rest => some (es, rest)
    | cs =>
      match pair skipBlank fuel depth cs with
      | none => none
      | some ((path, name, v), rest) =>
        match insertKey path name v es with
        | none => none
        | some es =>
          match skipBlank rest with
          | ',' :: rest => pairs fuel depth es rest
          | '}' :: rest => some (es, rest)
          | _ => none

/-- A key and its value, and what is skipped on both sides of the equals sign. -/
def pair (skip : List Char → List Char) :
    Nat → (depth : Nat) → Reader (List String × String × Value)
  | 0, _, _ => none
  | fuel + 1, depth, cs =>
    match key cs with
    | none => none
    | some (parts, rest) =>
      match splitKey parts, skip rest with
      | some (path, name), '=' :: rest =>
        (value fuel depth (skip rest)).map fun r => ((path, name, r.1), r.2)
      | _, _ => none

end

/-- A document while it is being read: its entries, and the path of the open table. -/
structure Draft where
  /-- The entries of the whole document. -/
  entries : Entries := []
  /-- The path of the table that was opened last. -/
  current : List String := []

/-- What the line at the front adds to a document. -/
def line (d : Draft) (cs : List Char) : Option (Draft × List Char) :=
  match skipSpaces cs with
  | '[' :: '[' :: rest => do
    let (parts, rest) ← key rest
    let (path, name) ← splitKey parts
    let ']' :: ']' :: rest := skipSpaces rest | none
    let entries ← openElement path name d.entries
    return (⟨entries, parts⟩, rest)
  | '[' :: rest => do
    let (parts, rest) ← key rest
    let (path, name) ← splitKey parts
    let ']' :: rest := skipSpaces rest | none
    let entries ← openTable path name d.entries
    return (⟨entries, parts⟩, rest)
  | rest =>
    if (lineEnd? rest).isSome then some (d, rest)
    else do
      let ((path, name, v), more) ← pair skipSpaces (2 * rest.length + 2) maxDepth rest
      let entries ← descend false (fun _ es => insertKey path name v es) d.current .opened d.entries
      return ({ d with entries }, more)

/-- The lines of a document, at most so many. -/
def document : Nat → Draft → List Char → Option Draft
  | 0, _, _ => none
  | fuel + 1, d, cs => do
    let (d, rest) ← line d cs
    match ← lineEnd? rest with
    | [] => return d
    | rest => document fuel d rest

/-- The entries of a document. -/
def read? (text : List Char) : Option (List (String × Value)) := do
  let d ← document (text.length + 1) {} text
  return entryValues d.entries

end WalletReplay.Toml
