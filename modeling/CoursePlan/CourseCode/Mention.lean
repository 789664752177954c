import CoursePlan.CourseCode.Basic
import CoursePlan.Distinct
import CoursePlan.Text.WordChar

/-!
# Courses mentioned in prose

`CourseCode.mentioned` lists the courses that a requisite text speaks of.  A *mention* is a run of
two to ten letters at the start of a word, ASCII blanks or nothing, and a catalog number that ends
its word, possibly with an alternate number after a slash.  Two kinds of mention name no course:

* a number with a hyphen after it is a range or a level, as in `CS 300-399` or `any 300-level`;
* some words of catalog prose stand in front of numbers without being a subject, as in
  `MATH 117 or 119`.

The scan goes through the text once and continues behind each mention, which is safe because no
mention starts inside another: its letters follow a letter or a digit.
-/

namespace CoursePlan

namespace CourseCode

/-- A place in a text where a subject and a catalog number stand together. -/
structure Mention where
  /-- The letters of the subject as the text spells them. -/
  subject : List Char
  /-- The catalog number as the text spells it. -/
  number : List Char
  /-- Whether a hyphen follows. -/
  isRange : Bool
deriving DecidableEq

/-- Whether a text goes on with an ASCII letter, a digit or an underscore. -/
def goesOn : List Char → Bool
  | [] => false
  | c :: _ => Text.isAsciiWordChar c

namespace Mention

/-- What follows a catalog number and its alternate.  An alternate number that does not end its
word is no alternate. -/
def afterAlternate (rest : List Char) : List Char :=
  match dropAlternate? rest with
  | some rest' => if goesOn rest' then rest else rest'
  | none => rest

/-- The mention that a text starts with, and what follows it. -/
def read? (cs : List Char) : Option (Mention × List Char) :=
  let subject := cs.takeWhile Char.isAlpha
  if subject.length < 2 || 10 < subject.length then none else
    match spanNumber? ((cs.dropWhile Char.isAlpha).dropWhile Text.isAsciiBlank) with
    | none => none
    | some (number, rest) =>
      if goesOn rest then none else
        match afterAlternate rest with
        | '-' :: rest' => some (⟨subject, number, true⟩, rest')
        | rest' => some (⟨subject, number, false⟩, rest')

/-! ## A mention takes up part of the text -/

theorem length_spanNumber?_lt {cs number rest : List Char}
    (h : spanNumber? cs = some (number, rest)) : rest.length < cs.length := by
  unfold spanNumber? at h
  split at h
  · split at h
    · split at h
      · cases h; simp
      · split at h <;> cases h <;> simp only [List.length_cons] <;> omega
    · cases h
  · cases h

theorem length_afterAlternate_le (rest : List Char) :
    (afterAlternate rest).length ≤ rest.length := by
  unfold afterAlternate
  split
  · next rest' h =>
    split
    · exact Nat.le_refl _
    · unfold dropAlternate? at h
      split at h
      · obtain ⟨p, hp, rfl⟩ := Option.map_eq_some_iff.1 h
        have := length_spanNumber?_lt hp
        simp only [List.length_cons]
        omega
      · cases h
  · exact Nat.le_refl _

theorem length_dropWhile_le (p : Char → Bool) (cs : List Char) :
    (cs.dropWhile p).length ≤ cs.length :=
  (List.dropWhile_sublist p).length_le

theorem length_read?_lt {cs rest : List Char} {m : Mention}
    (h : read? cs = some (m, rest)) : rest.length < cs.length := by
  unfold read? at h
  simp only at h
  split at h
  · cases h
  split at h
  · cases h
  next number after hn =>
  have h₁ := length_spanNumber?_lt hn
  have h₂ := length_dropWhile_le Text.isAsciiBlank (cs.dropWhile Char.isAlpha)
  have h₃ := length_dropWhile_le Char.isAlpha cs
  have h₄ := length_afterAlternate_le after
  split at h
  · cases h
  split at h
  · next rest' he =>
    rw [he] at h₄
    simp only [List.length_cons] at h₄
    cases h
    omega
  · cases h
    omega

/-- The mentions of a text, in order.  `inWord` tells whether the text comes right after an ASCII
word character, in which case no mention starts at once. -/
def scan (inWord : Bool) : List Char → List Mention
  | [] => []
  | c :: cs =>
    match _h : if inWord then none else read? (c :: cs) with
    | some (m, rest) => m :: scan (!m.isRange) rest
    | none => scan (Text.isAsciiWordChar c) cs
termination_by cs => cs.length
decreasing_by
  · split at _h
    · cases _h
    · exact length_read?_lt _h
  · exact Nat.lt_succ_self _

end Mention

/-- Words that can stand in front of a three-digit number in catalog prose without being a
subject. -/
def reservedWords : List String :=
  ["ABOVE", "ADDITIONAL", "ALL", "AND", "ANTIREQ", "ANY", "AT", "BELOW", "COMPLETE", "COMPLETED",
    "COREQ", "COURSE", "COURSES", "EIGHT", "EITHER", "FIVE", "FOUR", "FROM", "GRADE", "IN",
    "LEAST", "LEVEL", "MAXIMUM", "MIN", "MINIMUM", "MORE", "NINE", "NOR", "NOT", "OF", "ONE",
    "ONLY", "OR", "OTHER", "OVER", "PERCENT", "PLUS", "PREREQ", "SEVEN", "SIX", "STUDENTS", "TAKE",
    "TAKEN", "TEN", "TERM", "THAN", "THE", "THREE", "TO", "TOTAL", "TWO", "UNIT", "UNITS", "WITH",
    "YEAR"]

/-- Whether a subject, in capital letters, is a word of prose instead. -/
def isReserved (subject : List Char) : Bool :=
  reservedWords.contains (String.ofList subject)

/-- The course that a mention names, if it names one. -/
def Mention.code? (m : Mention) : Option CourseCode :=
  if m.isRange || isReserved (capitals m.subject) then none else ofParts? m.subject m.number

/-- The courses that a text mentions, each once, in the order of their first mention. -/
def mentioned (cs : List Char) : List CourseCode :=
  firstOccurrences ((Mention.scan false cs).filterMap Mention.code?)

end CourseCode

end CoursePlan
