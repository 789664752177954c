import CoursePlan.Numeral
import CoursePlan.Text.Blank
import CoursePlan.Text.Quoted

/-!
# Term levels

A program runs through terms labelled `1A`, `1B`, `2A`, … — year and half.  A `Level` is the place
of a term in that sequence, its *ordinal*, counted from 0 and kept in 32 bits.  Every level has a
label, and `Level.parse` reads labels back in either letter case and with blanks around them.
-/

namespace CoursePlan

/-- The two halves of a year of study. -/
inductive Half where
  | a
  | b
deriving DecidableEq, Repr

namespace Half

/-- The capital letter that labels the half. -/
def letter : Half → Char
  | a => 'A'
  | b => 'B'

/-- How many terms of the year come before this half. -/
def offset : Half → Nat
  | a => 0
  | b => 1

/-- The half that a letter denotes, in either case. -/
def ofLetter? (c : Char) : Option Half :=
  if c = 'A' ∨ c = 'a' then some a
  else if c = 'B' ∨ c = 'b' then some b
  else none

end Half

/-- The place of a term in a program, counted from 0 for `1A`. -/
structure Level where
  ordinal : UInt32
deriving DecidableEq, Repr

namespace Level

/-- The level of the term with a given index; indices past 32 bits share the last level. -/
def ofIndex (i : Nat) : Level :=
  ⟨UInt32.ofNat (min i Numeral.max32)⟩

/-- The level as a number, for comparing levels. -/
def toNat (l : Level) : Nat :=
  l.ordinal.toNat

@[simp] theorem toNat_ofIndex (i : Nat) : (ofIndex i).toNat = min i Numeral.max32 := by
  have h : min i Numeral.max32 < UInt32.size :=
    Nat.lt_of_le_of_lt (Nat.min_le_right _ _) (by decide)
  rw [toNat, ofIndex, UInt32.toNat_ofNat']
  exact Nat.mod_eq_of_lt h

theorem toNat_le (l : Level) : l.toNat ≤ Numeral.max32 :=
  Nat.le_of_lt_succ l.ordinal.toNat_lt

/-- The year of study, counted from 1. -/
def year (l : Level) : Nat :=
  l.toNat / 2 + 1

/-- The half of the year. -/
def half (l : Level) : Half :=
  if l.toNat % 2 = 0 then .a else .b

/-- The characters of the label: the year in decimal, then the letter of the half. -/
def labelChars (l : Level) : List Char :=
  Numeral.digits l.year ++ [l.half.letter]

/-- The label, such as `3A`. -/
def label (l : Level) : String :=
  String.ofList l.labelChars

/-- The level of a half of a year.  Years count from 1, and so that a level fits 32 bits, the count
`2 * year + offset`, from which the two terms of a year 0 are taken off, has to fit them too. -/
def ofYearHalf? (year : Nat) (half : Half) : Option Level :=
  let n := 2 * year + half.offset
  if 1 ≤ year ∧ n ≤ Numeral.max32 then some ⟨UInt32.ofNat (n - 2)⟩ else none

/-- Reads a label: blanks, the year in decimal digits, the letter of the half, blanks. -/
def ofChars? (cs : List Char) : Option Level := do
  let body := Text.trim cs
  let half ← body.getLast?.bind Half.ofLetter?
  let year ← Numeral.nat? body.dropLast
  ofYearHalf? year half

/-- A text that is no term label. -/
structure ParseError where
  text : String
deriving DecidableEq, Repr

/-- The complaint quotes the text as it was given. -/
def ParseError.message (e : ParseError) : String :=
  "invalid term label: " ++ Text.quoted e.text ++ " (expected e.g. 1A, 2B, 3A)"

/-- Reads a label, or returns the unchanged text as the cause of failure. -/
def parse (text : String) : Except ParseError Level :=
  match ofChars? text.toList with
  | some l => .ok l
  | none => .error ⟨text⟩

end Level

end CoursePlan
