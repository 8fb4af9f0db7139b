import WalletReplay.Text.Hidden

/-!
# Quoted text

A text in quotes shows on one line what it holds. A quote and a backslash stand behind a backslash;
tab, line feed, carriage return and the zero character have short forms; every other character that
is not shown as it is stands as its code point in hexadecimal.
-/

namespace WalletReplay.Text

/-- A code point in hexadecimal, between braces. -/
def codePoint (c : Char) : List Char :=
  ['\\', 'u', '\x7b'] ++ Nat.toDigits 16 c.toNat ++ ['\x7d']

/-- A character as a quoted text shows it. -/
def quoteChar (c : Char) : List Char :=
  if c = '"' then ['\\', '"']
  else if c = '\\' then ['\\', '\\']
  else if c = '\t' then ['\\', 't']
  else if c = '\n' then ['\\', 'n']
  else if c = '\r' then ['\\', 'r']
  else if c.toNat = 0 then ['\\', '0']
  else if isHidden c then codePoint c
  else [c]

/-- A text in quotes. -/
def quote (cs : List Char) : List Char :=
  '"' :: cs.flatMap quoteChar ++ ['"']

end WalletReplay.Text
