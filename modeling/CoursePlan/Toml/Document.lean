import CoursePlan.Toml.Number
import CoursePlan.Toml.Quoted
import CoursePlan.Toml.Tree

/-!
# TOML documents

`Toml.read?` reads a document line by line into statements and grows the table that it defines.  A
document with any fault is not read at all.

Arrays and inline tables nest to a limited depth, and dotted keys have a limited number of parts;
`nestingLimit` bounds both.  Repetitions end when a reader fails or gets no further, so that each of
them gets shorter texts to read.
-/

namespace CoursePlan.Toml

/-- How deep values nest, and how many parts a dotted key has at most. -/
def nestingLimit : Nat := 79

/-! ## Blanks, comments and line ends -/

/-- Drop blanks on the line. -/
def skipSpace (cs : List Char) : List Char :=
  cs.dropWhile (fun c => c == ' ' || c == '\t')

/-- Drop the comment that a text starts with. -/
def skipComment : List Char → List Char
  | '#' :: cs => cs.dropWhile isTextChar
  | cs => cs

/-- Drop blanks, line ends and comments, inside an array. -/
def skipGap (inComment : Bool) : List Char → List Char
  | [] => []
  | c :: cs =>
    if c = '\n' then skipGap false cs
    else if inComment then if isTextChar c then skipGap true cs else c :: cs
    else if c = '#' then skipGap true cs
    else if c = ' ' ∨ c = '\t' then skipGap false cs
    else c :: cs

/-- What follows the end of a line: blanks, a comment, and a line feed or nothing. -/
def dropLineEnd? (cs : List Char) : Option (List Char) :=
  match skipComment (skipSpace cs) with
  | [] => some []
  | '\n' :: cs => some cs
  | _ => none

/-! ## Keys -/

/-- The characters of keys without quotes. -/
def isBareKeyChar (c : Char) : Bool :=
  c.isAlphanum || c == '_' || c == '-'

/-- A key, bare or on one line between quotes, and what follows it. -/
def key? (cs : List Char) : Option (String × List Char) :=
  match cs with
  | '"' :: rest => (basicString? rest).map fun (text, rest) => (String.ofList text, rest)
  | '\'' :: rest => (literalString? rest).map fun (text, rest) => (String.ofList text, rest)
  | _ =>
    let bare := cs.takeWhile isBareKeyChar
    if bare.isEmpty then none else some (String.ofList bare, cs.dropWhile isBareKeyChar)

/-- The parts of a dotted key, blanks being allowed around each of them. -/
def keyParts? (cs : List Char) : Option (List String × List Char) :=
  match key? (skipSpace cs) with
  | none => none
  | some (key, rest) =>
    match skipSpace rest with
    | '.' :: rest =>
      if rest.length < cs.length then do
        let (keys, rest) ← keyParts? rest
        some (key :: keys, rest)
      else none
    | rest => some ([key], rest)
termination_by cs.length

/-- A dotted key as the path to its last part and that part. -/
def path? (cs : List Char) : Option ((List String × String) × List Char) := do
  let (keys, rest) ← keyParts? cs
  let last ← keys.getLast?
  if keys.length ≤ nestingLimit then some ((keys.dropLast, last), rest) else none

/-! ## Values -/

/-- The items of a list up to its closing bracket, given the text from the first item on.  Items
have commas between them, and the last one may have a comma too if `trailing` says so. -/
def items? {α : Type} (item? : List Char → Option (α × List Char))
    (skip : List Char → List Char) (close : Char) (trailing : Bool) (cs : List Char) :
    Option (List α × List Char) :=
  match item? cs with
  | none => none
  | some (a, rest) =>
    match skip rest with
    | ',' :: rest =>
      let next := skip rest
      if trailing && next.head? == some close then some ([a], next.tail)
      else if next.length < cs.length then do
        let (as, rest) ← items? item? skip close trailing next
        some (a :: as, rest)
      else none
    | c :: rest => if c = close then some ([a], rest) else none
    | [] => none
termination_by cs.length

/-- The items of a list that may be empty, given the text after its opening bracket. -/
def list? {α : Type} (item? : List Char → Option (α × List Char))
    (skip : List Char → List Char) (close : Char) (trailing : Bool) (cs : List Char) :
    Option (List α × List Char) :=
  let start := skip cs
  if start.head? = some close then some ([], start.tail)
  else items? item? skip close trailing start

/-- A key, an equals sign and a value, and what follows them. -/
def pair? (value? : List Char → Option (Value × List Char)) (cs : List Char) :
    Option (((List String × String) × Value) × List Char) := do
  let (path, rest) ← path? cs
  let rest ← dropChar? '=' rest
  let (v, rest) ← value? (skipSpace rest)
  some ((path, v), rest)

/-- The table that the pairs of an inline table define. -/
def inlineTable? (pairs : List ((List String × String) × Value)) : Option Value :=
  (pairs.foldlM (fun es ((path, key), v) => Entries.definePair path key v es) []).map
    fun es => .table (Entries.toTable es)

/-- The value that a text starts with, and what follows it; arrays and inline tables nest up to the
given depth. -/
def value? : Nat → List Char → Option (Value × List Char)
  | 0, cs => scalar? cs
  | depth + 1, cs =>
    match cs with
    | '[' :: cs => (list? (value? depth) (skipGap false) ']' true cs).map
        fun (items, rest) => (.array items, rest)
    | '{' :: cs => do
      let (pairs, rest) ← list? (pair? (value? depth)) skipSpace '}' false cs
      some (← inlineTable? pairs, rest)
    | _ => scalar? cs
where
  /-- A value without parts. -/
  scalar? (cs : List Char) : Option (Value × List Char) :=
    match cs with
    | '"' :: _ => (quotedString? cs).map fun (s, rest) => (.string s, rest)
    | '\'' :: _ => (quotedString? cs).map fun (s, rest) => (.string s, rest)
    | _ => wordValueAt? cs

/-! ## Lines -/

/-- The statement that a line consists of, without the end of the line. -/
def statement? (cs : List Char) : Option (Statement × List Char) :=
  match cs with
  | '[' :: '[' :: cs => do
    let ((path, key), rest) ← path? cs
    some (.element path key, ← dropChar? ']' (← dropChar? ']' rest))
  | '[' :: cs => do
    let ((path, key), rest) ← path? cs
    some (.table path key, ← dropChar? ']' rest)
  | _ => do
    let (((path, key), v), rest) ← pair? (value? nestingLimit) cs
    some (.pair path key v, rest)

/-- Whether a line holds no statement, seen from its first visible character. -/
def isIdleLine : List Char → Bool
  | [] => true
  | c :: _ => c == '\n' || c == '#'

/-- Grow a document by the lines of a text. -/
def growLines? (g : Growth) (cs : List Char) : Option Growth :=
  let line := skipSpace cs
  if cs.isEmpty then some g
  else if isIdleLine line then do
    let rest ← dropLineEnd? line
    if rest.length < cs.length then growLines? g rest else none
  else do
    let (s, rest) ← statement? line
    let g ← g.add s
    let rest ← dropLineEnd? rest
    if rest.length < cs.length then growLines? g rest else none
termination_by cs.length

/-- A text with line feeds for the pairs of carriage return and line feed. -/
def unifyLineEnds : List Char → List Char
  | '\r' :: '\n' :: cs => '\n' :: unifyLineEnds cs
  | c :: cs => c :: unifyLineEnds cs
  | [] => []

/-- A text without the byte order mark that it may start with. -/
def dropByteOrderMark : List Char → List Char
  | '\ufeff' :: cs => cs
  | cs => cs

/-- The table that a document defines. -/
def read? (text : String) : Option Table :=
  (growLines? .start (unifyLineEnds (dropByteOrderMark text.toList))).map
    fun g => Entries.toTable g.entries

end CoursePlan.Toml
