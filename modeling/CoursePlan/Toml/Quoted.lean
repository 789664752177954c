import CoursePlan.Numeral

/-!
# TOML strings

Strings stand between double quotes, where a backslash begins an escape, or between single quotes,
where nothing does; three quotes at each end let a string go over several lines.  The functions here
read what follows the opening quotes up to and including the closing ones.  Line ends are single
line feeds by the time a text comes here.
-/

namespace CoursePlan.Toml

/-- The characters that may stand in strings and comments: all but the control characters other
than the tab. -/
def isTextChar (c : Char) : Bool :=
  c == '\t' || (0x20 ≤ c.toNat && c.toNat != 0x7f)

/-- The character with a number in hexadecimal digits, if there is one. -/
def hexChar? (cs : List Char) : Option Char := do
  let n ← Numeral.hex? cs
  if n.isValidChar then some (Char.ofNat n) else none

/-- The character that one letter after a backslash stands for. -/
def escape? (c : Char) : Option Char :=
  if c = 'b' then some '\x08'
  else if c = 't' then some '\t'
  else if c = 'n' then some '\n'
  else if c = 'f' then some '\x0c'
  else if c = 'r' then some '\r'
  else if c = '"' then some '"'
  else if c = '\\' then some '\\'
  else none

/-- Put a character in front of what has been read. -/
def consChar (c : Option Char) (r : Option (List Char × List Char)) :
    Option (List Char × List Char) :=
  match c, r with
  | some c, some (text, rest) => some (c :: text, rest)
  | _, _ => none

/-- A string on one line with escapes. -/
def basicString? : List Char → Option (List Char × List Char)
  | [] => none
  | '"' :: cs => some ([], cs)
  | '\\' :: 'u' :: a :: b :: c :: d :: cs => consChar (hexChar? [a, b, c, d]) (basicString? cs)
  | '\\' :: 'U' :: a :: b :: c :: d :: e :: f :: g :: h :: cs =>
    consChar (hexChar? [a, b, c, d, e, f, g, h]) (basicString? cs)
  | '\\' :: c :: cs => consChar (escape? c) (basicString? cs)
  | c :: cs => if isTextChar c && c != '\\' then consChar (some c) (basicString? cs) else none

/-- A string on one line without escapes. -/
def literalString? : List Char → Option (List Char × List Char)
  | [] => none
  | '\'' :: cs => some ([], cs)
  | c :: cs => if isTextChar c then consChar (some c) (literalString? cs) else none

/-- The end of a string over several lines, after the third quote of a row: up to two further
quotes belong to the string. -/
def closing (quote : Char) : List Char → List Char × List Char
  | a :: b :: cs =>
    if a = quote then
      if b = quote then ([quote, quote], cs) else ([quote], b :: cs)
    else ([], a :: b :: cs)
  | [a] => if a = quote then ([quote], []) else ([], [a])
  | [] => ([], [])

/-- What to do with blanks and line ends in a string over several lines. -/
inductive Folding where
  /-- They belong to the string. -/
  | keep
  /-- Only blanks may follow a backslash before its line ends. -/
  | toLineEnd
  /-- After a backslash at the end of a line, everything up to the next visible character is
  left out. -/
  | drop
deriving DecidableEq

/-- A string over several lines with escapes. -/
def longBasicString? : Folding → List Char → Option (List Char × List Char)
  | _, [] => none
  | .toLineEnd, c :: cs =>
    if c = '\n' then longBasicString? .drop cs
    else if c = ' ' ∨ c = '\t' then longBasicString? .toLineEnd cs
    else none
  | .keep, '"' :: '"' :: '"' :: cs => some (closing '"' cs)
  | .drop, '"' :: '"' :: '"' :: cs => some (closing '"' cs)
  | _, '\\' :: 'u' :: a :: b :: c :: d :: cs =>
    consChar (hexChar? [a, b, c, d]) (longBasicString? .keep cs)
  | _, '\\' :: 'U' :: a :: b :: c :: d :: e :: f :: g :: h :: cs =>
    consChar (hexChar? [a, b, c, d, e, f, g, h]) (longBasicString? .keep cs)
  | _, '\\' :: c :: cs =>
    if c = '\n' then longBasicString? .drop cs
    else if c = ' ' ∨ c = '\t' then longBasicString? .toLineEnd cs
    else consChar (escape? c) (longBasicString? .keep cs)
  | folding, c :: cs =>
    if folding = .drop ∧ (c = '\n' ∨ c = ' ' ∨ c = '\t') then longBasicString? .drop cs
    else if (isTextChar c && c != '\\') || c == '\n' then
      consChar (some c) (longBasicString? .keep cs)
    else none

/-- A string over several lines without escapes. -/
def longLiteralString? : List Char → Option (List Char × List Char)
  | [] => none
  | '\'' :: '\'' :: '\'' :: cs => some (closing '\'' cs)
  | c :: cs =>
    if isTextChar c || c == '\n' then consChar (some c) (longLiteralString? cs) else none

/-- A line end right after the opening quotes of a string over several lines is left out. -/
def dropFirstLineEnd : List Char → List Char
  | '\n' :: cs => cs
  | cs => cs

/-- The string that a text starts with, and what follows it. -/
def quotedString? : List Char → Option (String × List Char)
  | '"' :: '"' :: '"' :: cs => make (longBasicString? .keep (dropFirstLineEnd cs))
  | '\'' :: '\'' :: '\'' :: cs => make (longLiteralString? (dropFirstLineEnd cs))
  | '"' :: cs => make (basicString? cs)
  | '\'' :: cs => make (literalString? cs)
  | _ => none
where
  /-- The characters of a string as text. -/
  make (r : Option (List Char × List Char)) : Option (String × List Char) :=
    r.map fun (text, rest) => (String.ofList text, rest)

end CoursePlan.Toml
