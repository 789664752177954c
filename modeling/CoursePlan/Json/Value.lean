import CoursePlan.Number.Binary
import CoursePlan.Numeral

/-!
# JSON

JSON values and their text, on one line (`compact`) or with one item on each line (`pretty`).  The
members of an object keep their order.
-/

namespace CoursePlan

/-- A JSON value.  Numbers without a fraction or an exponent are integers. -/
inductive Json where
  | null
  | boolean (b : Bool)
  | integer (n : Int)
  | float (x : Double)
  | string (s : String)
  | array (items : List Json)
  | object (members : List (String × Json))

namespace Json

/-- A text, or null where there is none. -/
def ofText? (s : Option String) : Json :=
  match s with
  | some s => string s
  | none => null

/-- A natural number. -/
def natural (n : Nat) : Json :=
  integer n

/-- A number of four hexadecimal digits. -/
def hex4 (n : Nat) : List Char :=
  let ds := Nat.toDigits 16 n
  List.replicate (4 - ds.length) '0' ++ ds

/-- How one character is written in a string. -/
def escapeChar (c : Char) : List Char :=
  if c = '"' then ['\\', '"']
  else if c = '\\' then ['\\', '\\']
  else if c = '\n' then ['\\', 'n']
  else if c = '\r' then ['\\', 'r']
  else if c = '\t' then ['\\', 't']
  else if c = '\x08' then ['\\', 'b']
  else if c = '\x0c' then ['\\', 'f']
  else if c.toNat < 0x20 then '\\' :: 'u' :: hex4 c.toNat
  else [c]

/-- A string between double quotes. -/
def quotedText (s : String) : String :=
  String.ofList ('"' :: (s.toList.flatMap escapeChar ++ ['"']))

/-- An integer in decimal. -/
def integerText (n : Int) : String :=
  if n < 0 then "-" ++ Numeral.text n.natAbs else Numeral.text n.natAbs

/-- A magnitude in decimal, in full: below the point a dyadic fraction has as many decimal places as
binary ones. -/
def magnitudeText (d : Dyadic) : String :=
  if 0 ≤ d.exp then Numeral.text (d.mant * Nat.pow 2 d.exp.toNat) ++ ".0"
  else
    let places := (-d.exp).toNat
    let scaled := d.mant * Nat.pow 5 places
    let unit := Nat.pow 10 places
    let below := Numeral.digits (scaled % unit)
    Numeral.text (scaled / unit) ++ "." ++
      String.ofList (List.replicate (places - below.length) '0' ++ below)

/-- A number as text; JSON has no words for the infinities and for what is not a number. -/
def floatText : Double → String
  | .finite negative d _ => (if negative then "-" else "") ++ magnitudeText d
  | _ => "null"

/-- The text of a value without parts. -/
def scalarText : Json → String
  | null => "null"
  | boolean true => "true"
  | boolean false => "false"
  | integer n => integerText n
  | float x => floatText x
  | string s => quotedText s
  | array _ => "[]"
  | object _ => "\x7b\x7d"

mutual

/-- The text of a value on one line, without blanks. -/
def compact : Json → String
  | array items => "[" ++ ",".intercalate (compactItems items) ++ "]"
  | object members => "\x7b" ++ ",".intercalate (compactMembers members) ++ "\x7d"
  | j => j.scalarText

/-- The texts of some values. -/
def compactItems : List Json → List String
  | [] => []
  | j :: js => j.compact :: compactItems js

/-- The texts of some members of an object. -/
def compactMembers : List (String × Json) → List String
  | [] => []
  | (key, j) :: ms => (quotedText key ++ ":" ++ j.compact) :: compactMembers ms

end

/-- A new line with an indentation of two spaces for each level. -/
def newLine (level : Nat) : String :=
  "\n" ++ String.ofList (List.replicate (2 * level) ' ')

/-- Brackets around some lines, each one level further in than the brackets. -/
def block (level : Nat) (left right : String) (lines : List String) : String :=
  left ++ newLine (level + 1) ++ ("," ++ newLine (level + 1)).intercalate lines ++
    newLine level ++ right

mutual

/-- The text of a value over several lines, for a value that starts at some level. -/
def prettyAt (level : Nat) : Json → String
  | array (j :: js) => block level "[" "]" (prettyItems (level + 1) (j :: js))
  | object (m :: ms) => block level "\x7b" "\x7d" (prettyMembers (level + 1) (m :: ms))
  | j => j.scalarText

/-- The texts of some values at one level. -/
def prettyItems (level : Nat) : List Json → List String
  | [] => []
  | j :: js => j.prettyAt level :: prettyItems level js

/-- The texts of some members of an object at one level. -/
def prettyMembers (level : Nat) : List (String × Json) → List String
  | [] => []
  | (key, j) :: ms => (quotedText key ++ ": " ++ j.prettyAt level) :: prettyMembers level ms

end

/-- The text of a value over several lines. -/
def pretty (j : Json) : String :=
  j.prettyAt 0

end Json

end CoursePlan
