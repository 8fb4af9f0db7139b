/-!
# Paths

A path is joined to a directory with a slash between them, unless there is one already or the
directory is empty. A path that begins with a slash stands for itself. Nothing else is made of the
parts of a path.

Names and whole paths have a limited length, in bytes.
-/

namespace WalletReplay.Path

/-- Whether a path leads from the root, wherever it is seen from. -/
def isAbsolute (path : String) : Bool :=
  path.toList.head? = some '/'

/-- A path as seen from a directory. -/
def join (directory path : String) : String :=
  if isAbsolute path then path
  else
    match directory.toList.getLast? with
    | none => path
    | some last => if last = '/' then directory ++ path else directory ++ "/" ++ path

/-- The parts of a path, between slashes, at least one. -/
def parts : List Char → List (List Char)
  | [] => [[]]
  | c :: cs =>
    if c = '/' then [] :: parts cs
    else
      match parts cs with
      | [] => [[c]]
      | p :: ps => (c :: p) :: ps

/-- Parts joined by slashes. -/
def ofParts : List (List Char) → List Char
  | [] => []
  | [p] => p
  | p :: ps => p ++ '/' :: ofParts ps

/-- The last parts of a path that pass a test are left out. -/
def dropLastWhile (p : List Char → Bool) (ps : List (List Char)) : List (List Char) :=
  (ps.reverse.dropWhile p).reverse

/-- Whether a name goes on with an extension, behind a point that is not its first character. -/
def hasExtension (name : List Char) : Bool :=
  (name.drop 1).contains '.'

/-- The path of a file whose name goes on with an extension, or with one more. Slashes and single
points behind a name without an extension are left out. Behind one that has an extension they stay;
after a slash the name is then `.placeholder` with the extension. There is no such path if there is
no name. -/
def withExtension (path extension : String) : Option String :=
  let named := dropLastWhile (fun p => p = [] || p = ['.']) (parts path.toList)
  match named.getLast? with
  | none => none
  | some name =>
    if name = ['.', '.'] then none
    else if !hasExtension name then some (String.ofList (ofParts named) ++ "." ++ extension)
    else if path.toList.getLast? = some '/' then some (path ++ ".placeholder." ++ extension)
    else some (path ++ "." ++ extension)

/-! ### Paths that cannot be followed -/

/-- Why nothing can stand at a path. -/
inductive Fault where
  /-- The path leads through a file. -/
  | throughFile
  /-- The path, or a name in it, is too long. -/
  | tooLong
  /-- The path has a zero character in it. -/
  | zeroCharacter
  deriving DecidableEq, Repr

/-- The system's wording of a fault. -/
def Fault.message : Fault → String
  | .throughFile => "Not a directory (os error 20)"
  | .tooLong => "File name too long (os error 36)"
  | .zeroCharacter => "file name contained an unexpected NUL byte"

/-- Paths have at most so many bytes. -/
def maxBytes : Nat := 4095

/-- Names in paths have at most so many bytes. -/
def maxNameBytes : Nat := 255

/-- Whether a name is too long. -/
def isLongName (name : List Char) : Bool :=
  maxNameBytes < (String.ofList name).utf8ByteSize

/-- What is wrong with a path before it is followed. -/
def fault? (path : String) : Option Fault :=
  if path.toList.contains '\x00' then some .zeroCharacter
  else if maxBytes < path.utf8ByteSize then some .tooLong
  else none

end WalletReplay.Path
