import CoursePlan.CourseCode.Mention
import CoursePlan.Requisite.Requirement
import CoursePlan.Text.Caseless

/-!
# Clauses

Catalogs state requisites in clauses such as `Prereq: One of ECE 250, CS 240`.  `Clause.demand?`
finds out what one clause demands, going by the first of these that it contains, in this order:

* the marker `Antireq`, `Coreq`, the phrase `Level at least 3A`, or the marker `Prereq`; a marker
  counts at the start of any word and is followed by a colon or nothing, blanks, and its *body*,
  which reaches to the end of the line;
* without a marker, any course mentioned.

A clause that demands no course and no level demands nothing, even if it has a marker.
-/

namespace CoursePlan

namespace Clause

open Text

/-- The marker of courses that must not be taken. -/
def antireqMarker : List Char := ['a', 'n', 't', 'i', 'r', 'e', 'q']

/-- The marker of courses to be taken along. -/
def coreqMarker : List Char := ['c', 'o', 'r', 'e', 'q']

/-- The marker of courses to be completed before. -/
def prereqMarker : List Char := ['p', 'r', 'e', 'r', 'e', 'q']

/-- A text up to the end of its first line. -/
def firstLine (cs : List Char) : List Char :=
  cs.takeWhile (· ≠ '\n')

/-- A text without the colon that it starts with, if it starts with one. -/
def dropColon : List Char → List Char
  | ':' :: cs => cs
  | cs => cs

/-- The body of a marker, given what follows the marker: after a colon and blanks, the rest of the
line.  Where nothing follows these, the last of them that can stand on a line is the body, and
where there is none, the marker does not count. -/
def body? (cs : List Char) : Option (List Char) :=
  match trimStart (dropColon cs) with
  | [] => (cs.filter (· ≠ '\n')).getLast?.map (fun c => [c])
  | body => some (firstLine body)

/-- The body of the first marker in a clause that has one. -/
def marked? (marker : List Char) (clause : List Char) : Option (List Char) :=
  findAtWordStart (fun cs => (dropWord? marker cs).bind body?) false clause

/-- The label and the program of a level phrase that a text starts with: `level at least`, digits
and the letter of a half that end a word, and then the program up to the end of the line. -/
def levelPhrase? (cs : List Char) : Option (List Char × List Char) := do
  let cs ← dropWord? ['l', 'e', 'v', 'e', 'l'] cs
  let cs ← dropWord? ['a', 't'] (← dropBlanks? cs)
  let cs ← dropWord? ['l', 'e', 'a', 's', 't'] (← dropBlanks? cs)
  let cs ← dropBlanks? cs
  let year := cs.takeWhile Char.isDigit
  match cs.dropWhile Char.isDigit with
  | [] => none
  | half :: rest =>
    if year.isEmpty || (Half.ofLetter? half).isNone || startsInWord rest then none
    else some (year ++ [half], firstLine (trimStart rest))

/-- What follows the words `one of` at the start of a text. -/
def dropOneOf? (cs : List Char) : Option (List Char) := do
  let cs ← dropWord? ['o', 'n', 'e'] cs
  dropWord? ['o', 'f'] (← dropBlanks? cs)

/-- What follows the word `or` at the start of a text. -/
def dropOr? (cs : List Char) : Option (List Char) :=
  dropWord? ['o', 'r'] cs

/-- Whether a text has a phrase in it, from a word start to a word end. -/
def hasPhrase (drop? : List Char → Option (List Char)) (cs : List Char) : Bool :=
  (findAtWordStart (fun cs => (drop? cs).filter (fun rest => !startsInWord rest)) false cs).isSome

/-- Whether a list of courses is a list to choose from: it says `one of`, or it says `or` and has
no comma. -/
def offersChoice (body : List Char) : Bool :=
  hasPhrase dropOneOf? body || (hasPhrase dropOr? body && !body.contains ',')

/-- How the courses of a prerequisite body combine. -/
def operator? (body : List Char) (codes : List CourseCode) : Option Operator :=
  if offersChoice body then some .any
  else if 1 < codes.length then some .all
  else none

/-- The courses that a text mentions, if it mentions any. -/
def courses? (cs : List Char) : Option (List CourseCode) :=
  match CourseCode.mentioned cs with
  | [] => none
  | codes => some codes

/-- The demand of a level phrase; a level that does not exist is not demanded. -/
def levelDemand? (label program : List Char) : Option Demand := do
  let level ← Level.ofChars? label
  let program := trim program
  some (.level level (if program.isEmpty then none else some (String.ofList program)))

/-- What a clause demands. -/
def demand? (clause : List Char) : Option Demand :=
  match marked? antireqMarker clause with
  | some body => (courses? body).map .antirequisite
  | none =>
  match marked? coreqMarker clause with
  | some body => (courses? body).map .corequisite
  | none =>
  match findAtWordStart levelPhrase? false clause with
  | some (label, program) => levelDemand? label program
  | none =>
  match marked? prereqMarker clause with
  | some body => (courses? body).map (fun codes => .courses (operator? body codes) codes)
  | none => (courses? clause).map (.courses none)

end Clause

end CoursePlan
