import CoursePlan.Text.Hidden

/-!
# Quoted text

Messages quote the text that they complain about, so that a stray blank or an invisible character
in it can be seen: the text stands between double quotes, a quote or a backslash in it is written
after a backslash, and hidden characters are written by name or by number.
-/

namespace CoursePlan.Text

/-- The number of a character in lower case hexadecimal digits, without padding. -/
def hexNumber (c : Char) : List Char :=
  Nat.toDigits 16 c.toNat

/-- How one character is written between quotes. -/
def quoteChar (c : Char) : List Char :=
  if c = '"' then ['\\', '"']
  else if c = '\\' then ['\\', '\\']
  else if c = '\n' then ['\\', 'n']
  else if c = '\r' then ['\\', 'r']
  else if c = '\t' then ['\\', 't']
  else if c.toNat = 0 then ['\\', '0']
  else if isHidden c then '\\' :: 'u' :: '{' :: (hexNumber c ++ ['}'])
  else [c]

/-- The text between double quotes, every character of it visible. -/
def quoted (s : String) : String :=
  String.ofList ('"' :: (s.toList.flatMap quoteChar ++ ['"']))

end CoursePlan.Text
