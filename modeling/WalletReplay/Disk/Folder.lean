import WalletReplay.Disk.Basic
import WalletReplay.Path
import WalletReplay.Table

/-!
# Disks in memory

A tree of directories and files, of which one directory is the working directory. A place in it is
the list of the names on the way from the root. Where something stands, all places on the way are
directories.

A path is followed part by part. An empty part and a single point stay where they are, two points go
one directory up, and anything but a directory ends the way, and so does a name that is too long. A
slash at the end of a path therefore asks for a directory.
-/

namespace WalletReplay

/-- A place in a tree. -/
abbrev Place := List (List Char)

/-- A disk in memory. -/
structure Folder where
  /-- The working directory. -/
  here : Place
  /-- What was put at places. -/
  entries : Table Place FileState := {}

namespace Folder

/-- What stands at a place. -/
def stateAt (d : Folder) (place : Place) : FileState :=
  match d.entries.get? place with
  | some state => state
  | none =>
    if place.isPrefixOf d.here || d.entries.any fun k _ => place.isPrefixOf k then .directory
    else .missing

/-- Puts something at a place. Nothing, too, has a directory around it. -/
def put (d : Folder) (place : Place) : FileState → Folder
  | .missing => { d with entries := d.entries.set place.dropLast .directory }
  | state => { d with entries := d.entries.set place state }

/-- Follows parts of a path from a place. Where the way ends, what stands at its end is given. -/
def follow (d : Folder) (place : Place) : List (List Char) → Except FileState Place
  | [] => .ok place
  | part :: parts =>
    match d.stateAt place with
    | .directory =>
      if part = [] ∨ part = ['.'] then d.follow place parts
      else if part = ['.', '.'] then d.follow place.dropLast parts
      else if Path.isLongName part then .error (.blocked .tooLong)
      else d.follow (place ++ [part]) parts
    | .file _ => .error (.blocked .throughFile)
    | state => .error state

/-- Where a path begins. -/
def origin (d : Folder) (path : String) : Place :=
  if Path.isAbsolute path then [] else d.here

/-- What stands at a path. -/
def look (d : Folder) (path : String) : FileState :=
  match Path.fault? path with
  | some fault => .blocked fault
  | none =>
    if path = "" then .missing
    else
      match d.follow (d.origin path) (Path.parts path.toList) with
      | .ok place => d.stateAt place
      | .error state => state

/-- The directory that parts of a path lead to. -/
def directoryAt (d : Folder) (start : Place) (parts : List (List Char)) :
    Except WriteFault Place :=
  match d.follow start parts with
  | .error (.blocked fault) => .error (.blocked fault)
  | .error _ => .error .notFound
  | .ok place =>
    match d.stateAt place with
    | .directory => .ok place
    | .missing => .error .notFound
    | .file _ => .error (.blocked .throughFile)
    | .blocked fault => .error (.blocked fault)

/-- Why no file can be written where a directory is. -/
def overDirectory (replace : Bool) : WriteFault :=
  if replace then .isDirectory else .exists

/-- Writes a text to a place in a directory. -/
def writeAt (d : Folder) (place : Place) (replace : Bool) (text : String) :
    Except WriteFault Folder :=
  match d.stateAt place with
  | .missing => .ok (d.put place (.file text.toUTF8))
  | .file _ => if replace then .ok (d.put place (.file text.toUTF8)) else .error .exists
  | .directory => .error (overDirectory replace)
  | .blocked fault => .error (.blocked fault)

/-- Writes a text to a path. -/
def write (d : Folder) (path : String) (replace : Bool) (text : String) :
    Except WriteFault Folder := do
  if let some fault := Path.fault? path then throw (.blocked fault)
  let parts := Path.parts path.toList
  let named := Path.dropLastWhile (· = []) parts
  match named.getLast? with
  | none => throw (if path = "" then .notFound else overDirectory replace)
  | some name =>
    if name = ['.'] ∨ name = ['.', '.'] then
      let _ ← d.directoryAt (d.origin path) named
      throw (overDirectory replace)
    else
      let place ← d.directoryAt (d.origin path) named.dropLast
      if named.length < parts.length then throw .isDirectory
      if Path.isLongName name then throw (.blocked .tooLong)
      d.writeAt (place ++ [name]) replace text

/-- A disk in memory as a disk. -/
def disk : Disk (StateM Folder) where
  look path := return (← get).look path
  write path replace text := do
    match (← get).write path replace text with
    | .ok d => do
      set d
      return .ok ()
    | .error fault => return .error fault

end Folder

end WalletReplay
