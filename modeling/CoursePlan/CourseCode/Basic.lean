import CoursePlan.Text.Blank

/-!
# Course codes

A course code names a course by subject and catalog number, as in `ECE 250` or `CS 457A`.  Catalogs
spell codes in many ways; `CourseCode.ofChars?` reads all of them and keeps the one normal form:
capital letters with exactly one space in between.  Codes are ASCII whatever else a text holds.

A catalog number may be followed by a slash and the number of an alternate course, as in
`ECE 250/251`; the code is that of the first number.
-/

namespace CoursePlan

namespace CourseCode

/-- A subject in normal form: two to ten capital letters. -/
def isSubject (cs : List Char) : Bool :=
  2 ≤ cs.length && cs.length ≤ 10 && cs.all Char.isUpper

/-- A catalog number in normal form: three digits, perhaps followed by one capital letter. -/
def isNumber : List Char → Bool
  | [x, y, z] => x.isDigit && y.isDigit && z.isDigit
  | [x, y, z, l] => x.isDigit && y.isDigit && z.isDigit && l.isUpper
  | _ => false

end CourseCode

/-- A course code in normal form. -/
structure CourseCode where
  subject : List Char
  number : List Char
  subject_ok : CourseCode.isSubject subject = true
  number_ok : CourseCode.isNumber number = true
deriving DecidableEq

namespace CourseCode

/-- The characters of the code: subject, one space, number. -/
def chars (c : CourseCode) : List Char :=
  c.subject ++ ' ' :: c.number

/-- The code as text, such as `ECE 250`. -/
def text (c : CourseCode) : String :=
  String.ofList c.chars

/-- Codes are listed in the order of their texts. -/
def le (c d : CourseCode) : Bool :=
  (compare c.text d.text).isLE

/-- A text in capital letters, as far as ASCII goes. -/
def capitals (cs : List Char) : List Char :=
  cs.map Char.toUpper

/-- The code of a subject and a number spelled in any case. -/
def ofParts? (subject number : List Char) : Option CourseCode :=
  if h : isSubject (capitals subject) = true ∧ isNumber (capitals number) = true then
    some ⟨capitals subject, capitals number, h.1, h.2⟩
  else none

/-- The catalog number that a text starts with, and what follows it: three digits and the letter
after them if there is one. -/
def spanNumber? : List Char → Option (List Char × List Char)
  | x :: y :: z :: rest =>
    if x.isDigit && y.isDigit && z.isDigit then
      match rest with
      | [] => some ([x, y, z], [])
      | l :: rest' => if l.isAlpha then some ([x, y, z, l], rest') else some ([x, y, z], l :: rest')
    else none
  | _ => none

/-- What follows the alternate number that a text starts with: a slash and a catalog number. -/
def dropAlternate? : List Char → Option (List Char)
  | '/' :: cs => (spanNumber? cs).map Prod.snd
  | _ => none

/-- Reads a text that is one course code: letters, a number and perhaps an alternate number, with
ASCII blanks allowed in front, behind, and between letters and number. -/
def ofChars? (cs : List Char) : Option CourseCode := do
  let cs := cs.dropWhile Text.isAsciiBlank
  let subject := cs.takeWhile Char.isAlpha
  let (number, rest) ← spanNumber? ((cs.dropWhile Char.isAlpha).dropWhile Text.isAsciiBlank)
  let rest := (dropAlternate? rest).getD rest
  if rest.all Text.isAsciiBlank then ofParts? subject number else none

/-- Reads a text that is one course code. -/
def parse? (s : String) : Option CourseCode :=
  ofChars? s.toList

end CourseCode

end CoursePlan
