/-!
# TOML: characters, lines and keys

What a TOML document is made of below the level of values: spaces, comments, ends of lines, texts in
quotes and keys. A reader takes what it reads off the front of the text and gives back the rest; it
gives nothing if what it reads is not there.

A line ends at a line feed, which may have one carriage return before it. Control characters other
than the tab stand nowhere, be it in a comment.
-/

namespace WalletReplay.Toml

/-- A reader takes something off the front of a text and gives back the rest. -/
abbrev Reader (α : Type) := List Char → Option (α × List Char)

/-- Space and tab. -/
def isSpace (c : Char) : Bool :=
  c = ' ' || c = '\t'

/-- The characters that comments and texts on one line are made of. -/
def isPlain (c : Char) : Bool :=
  c = '\t' || (' ' ≤ c && c.toNat ≠ 0x7F)

/-- Without the spaces at the front. -/
def skipSpaces (cs : List Char) : List Char :=
  cs.dropWhile isSpace

/-- Without the comment at the front, if there is one. -/
def skipComment : List Char → List Char
  | '#' :: cs => cs.dropWhile isPlain
  | cs => cs

/-- Behind the end of line at the front. -/
def newline? : List Char → Option (List Char)
  | '\n' :: cs => some cs
  | '\r' :: '\n' :: cs => some cs
  | _ => none

/-- Behind the end of the line at the front, which may have spaces and a comment before it, or at
the end of the text. -/
def lineEnd? (cs : List Char) : Option (List Char) :=
  match skipComment (skipSpaces cs) with
  | [] => some []
  | rest => newline? rest

/-- Without the spaces, comments and ends of lines at the front, at most so many lines. -/
def skipLines : Nat → List Char → List Char
  | 0, cs => cs
  | fuel + 1, cs =>
    let rest := skipComment (skipSpaces cs)
    match newline? rest with
    | some next => skipLines fuel next
    | none => rest

/-- Without the spaces, comments and ends of lines at the front. -/
def skipBlank (cs : List Char) : List Char :=
  skipLines (cs.length + 1) cs

/-! ### Texts in quotes -/

/-- The value of a hexadecimal digit. -/
def hexValue? (c : Char) : Option Nat :=
  if '0' ≤ c ∧ c ≤ '9' then some (c.toNat - '0'.toNat)
  else if 'a' ≤ c ∧ c ≤ 'f' then some (c.toNat - 'a'.toNat + 10)
  else if 'A' ≤ c ∧ c ≤ 'F' then some (c.toNat - 'A'.toNat + 10)
  else none

/-- The character whose code point is given by so many hexadecimal digits. -/
def codePoint (digits : Nat) : Reader Char := fun cs => do
  let ds := cs.take digits
  if ds.length < digits then none
  let n ← ds.foldlM (fun n c => (hexValue? c).map (16 * n + ·)) 0
  if h : n.isValidChar then some (Char.ofNatAux n h, cs.drop digits) else none

/-- The character that a backslash and what follows it stand for. -/
def escaped : Reader Char
  | 'b' :: cs => some ('\x08', cs)
  | 't' :: cs => some ('\t', cs)
  | 'n' :: cs => some ('\n', cs)
  | 'f' :: cs => some ('\x0c', cs)
  | 'r' :: cs => some ('\r', cs)
  | 'e' :: cs => some ('\x1b', cs)
  | '"' :: cs => some ('"', cs)
  | '\\' :: cs => some ('\\', cs)
  | 'x' :: cs => codePoint 2 cs
  | 'u' :: cs => codePoint 4 cs
  | 'U' :: cs => codePoint 8 cs
  | _ => none

/-- The rest of a text in double quotes, on one line. -/
def basicRest : Nat → Reader (List Char)
  | 0, _ => none
  | _ + 1, [] => none
  | _ + 1, '"' :: cs => some ([], cs)
  | fuel + 1, '\\' :: cs => do
    let (c, rest) ← escaped cs
    let (text, rest) ← basicRest fuel rest
    return (c :: text, rest)
  | fuel + 1, c :: cs =>
    if isPlain c then (basicRest fuel cs).map fun r => (c :: r.1, r.2) else none

/-- The rest of a text in single quotes, on one line. -/
def literalRest : Reader (List Char)
  | [] => none
  | '\'' :: cs => some ([], cs)
  | c :: cs => if isPlain c then (literalRest cs).map fun r => (c :: r.1, r.2) else none

/-- Whether a backslash before this joins the line to the next: only spaces follow on the line. -/
def joinsLines (cs : List Char) : Bool :=
  (newline? (skipSpaces cs)).isSome

/-- Without the spaces and ends of lines at the front, at most so many lines. -/
def skipToText : Nat → List Char → List Char
  | 0, cs => cs
  | fuel + 1, cs =>
    match newline? (skipSpaces cs) with
    | some next => skipToText fuel next
    | none => skipSpaces cs

/-- What three or more quotes in a row end: up to two of them belong to the text. -/
def closing (quote : Char) (cs : List Char) : Option (List Char × List Char) :=
  let run := (cs.takeWhile (· = quote)).length
  if run < 3 then none
  else
    let own := min (run - 3) 2
    some (List.replicate own quote, cs.drop (own + 3))

/-- Whether the character at the front stands for itself in a text over several lines. Ends of lines
belong to the text as they are written. -/
def isLongPlain (c : Char) (cs : List Char) : Bool :=
  isPlain c || (newline? (c :: cs)).isSome

/-- The rest of a text in three double quotes, over several lines. -/
def longBasicRest : Nat → Reader (List Char)
  | 0, _ => none
  | _ + 1, [] => none
  | fuel + 1, c :: cs =>
    if c = '"' then
      match closing '"' (c :: cs) with
      | some ended => some ended
      | none => (longBasicRest fuel cs).map fun r => (c :: r.1, r.2)
    else if c = '\\' then
      if joinsLines cs then longBasicRest fuel (skipToText (cs.length + 1) cs)
      else do
        let (d, rest) ← escaped cs
        let (text, rest) ← longBasicRest fuel rest
        return (d :: text, rest)
    else if isLongPlain c cs then (longBasicRest fuel cs).map fun r => (c :: r.1, r.2)
    else none

/-- The rest of a text in three single quotes, over several lines. -/
def longLiteralRest : Reader (List Char)
  | [] => none
  | c :: cs =>
    if c = '\'' then
      match closing '\'' (c :: cs) with
      | some ended => some ended
      | none => (longLiteralRest cs).map fun r => (c :: r.1, r.2)
    else if isLongPlain c cs then (longLiteralRest cs).map fun r => (c :: r.1, r.2)
    else none

/-- Without the end of line at the front, if there is one. -/
def skipNewline (cs : List Char) : List Char :=
  (newline? cs).getD cs

/-- A text on one line, in double or single quotes. -/
def shortText : Reader String := fun cs =>
  match cs with
  | '"' :: rest => (basicRest (rest.length + 1) rest).map fun r => (String.ofList r.1, r.2)
  | '\'' :: rest => (literalRest rest).map fun r => (String.ofList r.1, r.2)
  | _ => none

/-- A text over several lines, in three double or single quotes. An end of line that follows the
quotes does not belong to it. -/
def longText : Reader String := fun cs =>
  match cs with
  | '"' :: '"' :: '"' :: rest =>
    (longBasicRest (rest.length + 1) (skipNewline rest)).map fun r => (String.ofList r.1, r.2)
  | '\'' :: '\'' :: '\'' :: rest =>
    (longLiteralRest (skipNewline rest)).map fun r => (String.ofList r.1, r.2)
  | _ => none

/-! ### Keys -/

/-- The characters that keys without quotes are made of. -/
def isBare (c : Char) : Bool :=
  c.isAlphanum || c = '_' || c = '-'

/-- One part of a key. -/
def keyPart : Reader String := fun cs =>
  match shortText cs with
  | some r => some r
  | none =>
    match cs.takeWhile isBare with
    | [] => none
    | name => some (String.ofList name, cs.dropWhile isBare)

/-- The parts of a key behind the first, at most so many. -/
def keyParts : Nat → Reader (List String)
  | 0, _ => none
  | fuel + 1, cs =>
    match skipSpaces cs with
    | '.' :: rest => do
      let (part, rest) ← keyPart (skipSpaces rest)
      let (parts, rest) ← keyParts fuel rest
      return (part :: parts, rest)
    | rest => some ([], rest)

/-- A key has at most so many parts. -/
def maxParts : Nat := 80

/-- A key: its parts, separated by points, with spaces around them. -/
def key : Reader (List String) := fun cs => do
  let (part, rest) ← keyPart (skipSpaces cs)
  let (parts, rest) ← keyParts (rest.length + 1) rest
  if parts.length < maxParts then return (part :: parts, rest) else none

end WalletReplay.Toml
