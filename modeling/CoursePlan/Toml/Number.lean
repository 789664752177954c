import CoursePlan.Numeral
import CoursePlan.Toml.Value

/-!
# TOML numbers and dates

A number, a date or a truth value is written as one *word*, a run of letters, digits and the signs
`_ + - . :`.  (A date and a time of day may also have one space between them.)  The functions here
decide what a whole word means.
-/

namespace CoursePlan.Toml

/-- The characters of words. -/
def isWordPart (c : Char) : Bool :=
  c.isAlphanum || c == '_' || c == '+' || c == '-' || c == '.' || c == ':'

/-- Digits without the underscores between them; each underscore has to stand between two
digits. -/
def ungroup? (isDigit : Char → Bool) : List Char → Option (List Char)
  | [] => none
  | [d] => if isDigit d then some [d] else none
  | d :: '_' :: cs => if isDigit d then (ungroup? isDigit cs).map (d :: ·) else none
  | d :: cs => if isDigit d then (ungroup? isDigit cs).map (d :: ·) else none

/-- The digits of a whole number in decimal, which has no leading zeros. -/
def wholeDigits? (cs : List Char) : Option (List Char) :=
  match ungroup? Char.isDigit cs with
  | some ('0' :: _ :: _) => none
  | digits => digits

/-- Whether a word starts with a minus sign, and the word without its sign. -/
def splitSign : List Char → Bool × List Char
  | '-' :: cs => (true, cs)
  | '+' :: cs => (false, cs)
  | cs => (false, cs)

/-- Digits of a base below ten. -/
def isDigitBelow (base : Nat) (c : Char) : Bool :=
  c.isDigit && c.toNat - '0'.toNat < base

/-- Hexadecimal digits. -/
def isHexDigit (c : Char) : Bool :=
  (Numeral.hexDigit? c).isSome

/-- The integer that a word means, of whatever size. -/
def unboundedInteger? (word : List Char) : Option Int :=
  match word with
  | '0' :: 'x' :: cs => (ungroup? isHexDigit cs).map fun ds => (Numeral.ofDigits 16 ds : Int)
  | '0' :: 'o' :: cs => (ungroup? (isDigitBelow 8) cs).map fun ds => (Numeral.ofDigits 8 ds : Int)
  | '0' :: 'b' :: cs => (ungroup? (isDigitBelow 2) cs).map fun ds => (Numeral.ofDigits 2 ds : Int)
  | _ =>
    let (negative, cs) := splitSign word
    (wholeDigits? cs).map fun ds =>
      if negative then -(Numeral.ofDigits 10 ds : Int) else (Numeral.ofDigits 10 ds : Int)

/-- The integers of documents are those of 64 bits with a sign. -/
def integer? (word : List Char) : Option Int := do
  let n ← unboundedInteger? word
  if -(Numeral.maxSigned64 + 1 : Int) ≤ n ∧ n ≤ Numeral.maxSigned64 then some n else none

/-- The exponent of a fraction: a sign, perhaps, and digits. -/
def exponent? (cs : List Char) : Option Int :=
  let (negative, cs) := splitSign cs
  (ungroup? Char.isDigit cs).map fun ds =>
    if negative then -(Numeral.ofDigits 10 ds : Int) else (Numeral.ofDigits 10 ds : Int)

/-- The digits after the point of a fraction and its exponent, given what follows the whole part;
there is a point, an exponent, or both. -/
def fractionTail? (cs : List Char) : Option (List Char × Int) :=
  match cs with
  | '.' :: cs =>
    let places := cs.takeWhile (fun c => c != 'e' && c != 'E')
    match cs.dropWhile (fun c => c != 'e' && c != 'E') with
    | [] => (ungroup? Char.isDigit places).map (·, 0)
    | _ :: exponent => do some (← ungroup? Char.isDigit places, ← exponent? exponent)
  | c :: exponent => if c = 'e' ∨ c = 'E' then (exponent? exponent).map ([], ·) else none
  | [] => none

/-- The names of the numbers that have no digits. -/
def specialFloat? (negative : Bool) (cs : List Char) : Option Double :=
  if cs = ['i', 'n', 'f'] then some (.infinite negative)
  else if cs = ['n', 'a', 'n'] then some .nan
  else none

/-- The fraction that a word means, rounded to 64 bits.  A word for a number too large is refused,
except that below all negative numbers it means negative infinity. -/
def float? (word : List Char) : Option Double :=
  let (negative, cs) := splitSign word
  match specialFloat? negative cs with
  | some x => some x
  | none => do
    let isWholePart := fun c => c != '.' && c != 'e' && c != 'E'
    let whole ← wholeDigits? (cs.takeWhile isWholePart)
    let (places, exponent) ← fractionTail? (cs.dropWhile isWholePart)
    let x : Double := .ofDecimal .double negative (Numeral.ofDigits 10 (whole ++ places))
      (exponent - places.length)
    if x = .infinite false then none else some x

/-- Two digits that make a number from `least` to `greatest`, and what follows them. -/
def twoDigits? (least greatest : Nat) : List Char → Option (Nat × List Char)
  | a :: b :: cs =>
    if a.isDigit && b.isDigit then
      let n := Numeral.ofDigits 10 [a, b]
      if least ≤ n ∧ n ≤ greatest then some (n, cs) else none
    else none
  | _ => none

/-- What follows a character at the start of a word. -/
def dropChar? (c : Char) : List Char → Option (List Char)
  | d :: cs => if d = c then some cs else none
  | [] => none

/-- How many days a month has. -/
def monthLength (year month : Nat) : Nat :=
  if month = 2 then
    if year % 4 = 0 ∧ (year % 100 ≠ 0 ∨ year % 400 = 0) then 29 else 28
  else if month = 4 ∨ month = 6 ∨ month = 9 ∨ month = 11 then 30
  else 31

/-- What follows the date that a word starts with. -/
def dropDate? (word : List Char) : Option (List Char) := do
  let year := word.take 4
  if year.length = 4 ∧ year.all Char.isDigit then
    let cs ← dropChar? '-' (word.drop 4)
    let (month, cs) ← twoDigits? 1 12 cs
    let cs ← dropChar? '-' cs
    let (_, cs) ← twoDigits? 1 (monthLength (Numeral.ofDigits 10 year) month) cs
    some cs
  else none

/-- What follows the fraction of a second that a word goes on with, if it does. -/
def dropSecondFraction? : List Char → Option (List Char)
  | '.' :: cs =>
    if (cs.takeWhile Char.isDigit).isEmpty then none else some (cs.dropWhile Char.isDigit)
  | cs => some cs

/-- What follows the time of day that a word starts with; a minute may have a leap second. -/
def dropTime? (word : List Char) : Option (List Char) := do
  let (_, cs) ← twoDigits? 0 23 word
  let (_, cs) ← twoDigits? 0 59 (← dropChar? ':' cs)
  let (_, cs) ← twoDigits? 0 60 (← dropChar? ':' cs)
  dropSecondFraction? cs

/-- Whether the end of a word is nothing or an offset from universal time. -/
def isOffset : List Char → Bool
  | [] => true
  | ['Z'] => true
  | ['z'] => true
  | c :: cs =>
    (c == '+' || c == '-') &&
      match twoDigits? 0 23 cs with
      | some (_, ':' :: cs) => (twoDigits? 0 59 cs).any (·.2.isEmpty)
      | _ => false

/-- Whether a word is a time of day, perhaps with an offset. -/
def isTimeWithOffset (word : List Char) : Bool :=
  (dropTime? word).any isOffset

/-- Whether a word is a date, a time of day, or a date and a time with a `T` between them. -/
def isDateTime (word : List Char) : Bool :=
  match dropDate? word with
  | some [] => true
  | some (c :: cs) => (c == 'T' || c == 't') && isTimeWithOffset cs
  | none => (dropTime? word).any List.isEmpty

/-- The value that a word means. -/
def wordValue? (word : List Char) : Option Value :=
  if word = ['t', 'r', 'u', 'e'] then some (.boolean true)
  else if word = ['f', 'a', 'l', 's', 'e'] then some (.boolean false)
  else match integer? word with
    | some n => some (.integer n)
    | none => match float? word with
      | some x => some (.float x)
      | none => if isDateTime word then some (.dateTime (String.ofList word)) else none

/-- The time of day after a date and one space, and what follows it. -/
def timeAfterDate? (word rest : List Char) : Option (List Char × List Char) :=
  match dropDate? word, rest with
  | some [], ' ' :: d :: cs =>
    let time := (d :: cs).takeWhile isWordPart
    if d.isDigit && isTimeWithOffset time then some (time, (d :: cs).dropWhile isWordPart)
    else none
  | _, _ => none

/-- The value of the word that a text starts with, and what follows it. -/
def wordValueAt? (cs : List Char) : Option (Value × List Char) :=
  let word := cs.takeWhile isWordPart
  let rest := cs.dropWhile isWordPart
  match timeAfterDate? word rest with
  | some (time, rest') => some (.dateTime (String.ofList (word ++ ' ' :: time)), rest')
  | none => (wordValue? word).map (·, rest)

end CoursePlan.Toml
