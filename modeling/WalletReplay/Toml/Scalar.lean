import WalletReplay.Calendar.Basic
import WalletReplay.Number.Reader
import WalletReplay.Settings.Value

/-!
# TOML: numbers, truth values and times

Whatever is written without quotes or brackets is a word: a truth value, an integer, a number with a
fraction, a date or a time. Digits may be separated by single underscores, and a number has no
leading zero. Integers have 64 bits; a number with a fraction that is too large is none. Dates and
times are kept as texts, in their regular form.
-/

namespace WalletReplay.Toml

/-- The digits of a word in which single underscores may separate digits. -/
def separated (isDigit : Char → Bool) : List Char → Option (List Char)
  | [] => none
  | [c] => if isDigit c then some [c] else none
  | c :: '_' :: cs => if isDigit c then (separated isDigit cs).map (c :: ·) else none
  | c :: cs => if isDigit c then (separated isDigit cs).map (c :: ·) else none

/-- The digits of a whole number, which has no leading zero. -/
def wholeDigits (cs : List Char) : Option (List Char) :=
  match separated Char.isDigit cs with
  | some ('0' :: _ :: _) => none
  | ds => ds

/-- A word without its sign, and whether it is negative. -/
def splitSign : List Char → Bool × List Char
  | '-' :: cs => (true, cs)
  | '+' :: cs => (false, cs)
  | cs => (false, cs)

/-- An integer, if it has 64 bits. -/
def bounded (n : Int) : Option Value :=
  if -9223372036854775808 ≤ n ∧ n ≤ 9223372036854775807 then some (.int n) else none

/-- An integer in a base that is a power of two. -/
def inBase (base : Nat) (isDigit : Char → Bool) (cs : List Char) : Option Value := do
  let ds ← separated isDigit cs
  bounded (ds.foldl (fun n c =>
    base * n + (if c.isDigit then c.toNat - '0'.toNat else c.toLower.toNat - 'a'.toNat + 10)) 0)

/-- Whether a character is a hexadecimal digit. -/
def isHexDigit (c : Char) : Bool :=
  c.isDigit || ('a' ≤ c && c ≤ 'f') || ('A' ≤ c && c ≤ 'F')

/-- An integer. -/
def integer? (cs : List Char) : Option Value :=
  match cs with
  | '0' :: 'x' :: ds => inBase 16 isHexDigit ds
  | '0' :: 'o' :: ds => inBase 8 (fun c => '0' ≤ c && c ≤ '7') ds
  | '0' :: 'b' :: ds => inBase 2 (fun c => c = '0' || c = '1') ds
  | _ => do
    let (negative, rest) := splitSign cs
    let ds ← wholeDigits rest
    let n : Int := Nat.ofDigitChars 10 ds 0
    bounded (if negative then -n else n)

/-- The exponent behind a letter `e`, if there is one. -/
def exponentPart : List Char → Option Int
  | [] => some 0
  | _ :: cs => do
    let (negative, rest) := splitSign cs
    let ds ← separated Char.isDigit rest
    let n : Int := Nat.ofDigitChars 10 ds 0
    return if negative then -n else n

/-- Whether a character begins an exponent. -/
def isExponentMark (c : Char) : Bool :=
  c = 'e' || c = 'E'

/-- The digits behind a point, none if there is no point. -/
def fractionDigits : List Char → Option (List Char)
  | [] => some []
  | _ :: cs => separated Char.isDigit cs

/-- A number that is finite. -/
def finite? : Binary64 → Option Value
  | .infinite _ => none
  | x => some (.float x)

/-- A number with a fraction, an exponent or both, or one of the words for infinity and for no
number. Digits alone are an integer, even one that has too many of them. -/
def float? (cs : List Char) : Option Value := do
  let (negative, rest) := splitSign cs
  if rest = "inf".toList then return .float (.infinite negative)
  else if rest = "nan".toList then return .float .nan
  else
    let head := rest.takeWhile fun c => !isExponentMark c
    let tail := rest.dropWhile fun c => !isExponentMark c
    if tail = [] ∧ '.' ∉ head then none
    let whole ← wholeDigits (head.takeWhile (· ≠ '.'))
    let places ← fractionDigits (head.dropWhile (· ≠ '.'))
    let exponent ← exponentPart tail
    finite? (Binary64.ofDecimal negative (Nat.ofDigitChars 10 (whole ++ places) 0)
      (exponent - places.length))

/-! ### Dates and times -/

/-- So many digits, as a number. -/
def digitField (count : Nat) (cs : List Char) : Option (Nat × List Char) :=
  let ds := cs.take count
  if ds.length = count ∧ ds.all Char.isDigit then
    some (Nat.ofDigitChars 10 ds 0, cs.drop count)
  else none

/-- A date at the front of a word, with its text. -/
def date (cs : List Char) : Option (List Char × List Char) := do
  let (year, rest) ← digitField 4 cs
  let '-' :: rest := rest | none
  let (month, rest) ← digitField 2 rest
  let '-' :: rest := rest | none
  let (day, rest) ← digitField 2 rest
  if Calendar.isDate year month day then some (cs.take 10, rest) else none

/-- Digits to the ninth without zeros at the end, but at least one. -/
def fractionText (ds : List Char) : List Char :=
  match ((ds.take 9).reverse.dropWhile (· = '0')).reverse with
  | [] => ['0']
  | kept => kept

/-- The fraction of a second at the front of a word, with its text. -/
def secondFraction (cs : List Char) : Option (List Char × List Char) :=
  match cs with
  | '.' :: rest =>
    match rest.takeWhile Char.isDigit with
    | [] => none
    | ds => some ('.' :: fractionText ds, rest.dropWhile Char.isDigit)
  | _ => some ([], cs)

/-- The seconds at the front of a word, if they are there, with their text. -/
def seconds (cs : List Char) : Option (List Char × List Char) :=
  match cs with
  | ':' :: rest => do
    let (second, more) ← digitField 2 rest
    let (part, more) ← secondFraction more
    if second ≤ 60 then some (':' :: rest.take 2 ++ part, more) else none
  | _ => some ([], cs)

/-- A time of day at the front of a word, with its text. -/
def timeOfDay (cs : List Char) : Option (List Char × List Char) := do
  let (hour, rest) ← digitField 2 cs
  let ':' :: rest := rest | none
  let (minute, rest) ← digitField 2 rest
  let (part, rest) ← seconds rest
  if hour ≤ 23 ∧ minute ≤ 59 then some (cs.take 5 ++ part, rest) else none

/-- The offset from universal time that a word consists of, if there is one, with its text. -/
def offset (cs : List Char) : Option (List Char) :=
  match cs with
  | [] => some []
  | ['Z'] | ['z'] => some ['Z']
  | c :: rest =>
    if c = '+' ∨ c = '-' then do
      let (hour, more) ← digitField 2 rest
      let ':' :: more := more | none
      let (minute, more) ← digitField 2 more
      if hour ≤ 23 ∧ minute ≤ 59 ∧ more = [] then
        some ((if hour = 0 ∧ minute = 0 then '+' else c) :: rest)
      else none
    else none

/-- A date, a time of day, or both with or without an offset, in its regular form. -/
def moment? (cs : List Char) : Option Value :=
  match date cs with
  | some (day, []) => some (.text (String.ofList day))
  | some (day, c :: rest) =>
    if c = 'T' ∨ c = 't' ∨ c = ' ' then do
      let (time, rest) ← timeOfDay rest
      let zone ← offset rest
      return .text (String.ofList (day ++ 'T' :: time ++ zone))
    else none
  | none => do
    let (time, rest) ← timeOfDay cs
    if rest = [] then return .text (String.ofList time) else none

/-- The value of a word. -/
def scalar? (cs : List Char) : Option Value :=
  if cs = "true".toList then some (.bool true)
  else if cs = "false".toList then some (.bool false)
  else
    match integer? cs with
    | some v => some v
    | none =>
      match float? cs with
      | some v => some v
      | none => moment? cs

/-- The characters that words are made of. -/
def isWordChar (c : Char) : Bool :=
  c.isAlphanum || c = '+' || c = '-' || c = '_' || c = '.' || c = ':'

/-- A word at the front of a text. A date and a time of day that follows it behind one space are one
word. -/
def word (cs : List Char) : List Char × List Char :=
  let first := cs.takeWhile isWordChar
  let rest := cs.dropWhile isWordChar
  match (date first), rest with
  | some (_, []), ' ' :: d :: more =>
    if d.isDigit then
      (first ++ ' ' :: (d :: more).takeWhile isWordChar, (d :: more).dropWhile isWordChar)
    else (first, rest)
  | _, _ => (first, rest)

end WalletReplay.Toml
