import CoursePlan.Proofs.CourseCode.Case

/-!
# The spellings of a code

A text that is one course code has the letters of a subject, a catalog number and perhaps, behind a
slash, the number of an alternate, with ASCII blanks around these and between letters and number.
`CourseCode.Spells` says so without reading anything, and `CourseCode.spells_exact` says that these
texts are read, as the code of their subject and first number in capital letters, and no others.

Codes are in normal form however they came about: the text of a code is read as the code, and its
one space stands between the subject and the number.
-/

namespace CoursePlan

namespace CourseCode

open Text
open scoped Text.Memberwise

/-! ## Spellings -/

/-- The parts of a text that is one code: blanks, the letters of a subject, blanks, a catalog
number, an alternate if there is one, and blanks. -/
structure IsSpelling (front subject gap number alternate back : List Char) : Prop where
  front : ∀ x ∈ front, isAsciiBlank x = true
  letters : ∀ x ∈ subject, x.isAlpha = true
  length : 2 ≤ subject.length ∧ subject.length ≤ 10
  gap : ∀ x ∈ gap, isAsciiBlank x = true
  spelled : IsSpelledNumber number
  alternate : alternate = [] ∨ ∃ other, alternate = '/' :: other ∧ IsSpelledNumber other
  back : ∀ x ∈ back, isAsciiBlank x = true

/-- The text is one code, with this subject and this number as the text spells them. -/
def Spells (cs subject number : List Char) : Prop :=
  ∃ front gap alternate back, IsSpelling front subject gap number alternate back ∧
    cs = front ++ Mention.spelling subject gap number alternate back

section Spelling

variable {cs front subject gap number alternate back : List Char} {c : CourseCode}

theorem stops_blanks {p : Char → Bool} (hp : ∀ x, isAsciiBlank x = true → p x = false)
    (hback : ∀ x ∈ back, isAsciiBlank x = true) : Stops p back :=
  stops_of_forall fun x hx => hp x (hback x hx)

theorem isAsciiWordChar_of_isAsciiBlank (x : Char) (hx : isAsciiBlank x = true) :
    isAsciiWordChar x = false :=
  isAsciiWordChar_of_isBlank (isBlank_of_isAsciiBlank hx)

/-- Where blanks begin, no slash does. -/
theorem head?_blanks_ne {x : Char} (hx : isAsciiBlank x = false)
    (hback : ∀ x ∈ back, isAsciiBlank x = true) : back.head? ≠ some x := by
  intro h
  rw [hback x (List.mem_of_head? h)] at hx
  cases hx

namespace IsSpelling

variable (h : IsSpelling front subject gap number alternate back)
include h

/-- A text that is one code is a mention with blanks around it. -/
theorem hasParts : Mention.HasParts subject gap number alternate back := by
  have hback : Stops isAsciiWordChar back := stops_blanks isAsciiWordChar_of_isAsciiBlank h.back
  refine ⟨h.letters, h.length, h.gap, h.spelled, ?_, ?_⟩
  · rcases h.alternate with rfl | ⟨other, rfl, -⟩
    · exact hback
    · exact stops_cons.2 (by decide)
  · rcases h.alternate with rfl | ⟨other, rfl, hother⟩
    · exact Mention.isAlternate_nil (head?_blanks_ne (by decide) h.back)
    · exact .number hother hback

/-- Without its alternate number, the text behind a number is what follows. -/
theorem getD_dropAlternate? :
    (dropAlternate? (alternate ++ back)).getD (alternate ++ back) = back := by
  rcases h.alternate with rfl | ⟨other, rfl, hother⟩
  · have hslash : back.head? ≠ some '/' := head?_blanks_ne (by decide) h.back
    rw [List.nil_append, dropAlternate?_eq_none hslash, Option.getD_none]
  · have hback : Stops isAsciiWordChar back := stops_blanks isAsciiWordChar_of_isAsciiBlank h.back
    rw [List.cons_append, dropAlternate?_spelled hother hback, Option.getD_some]

/-- A spelling with its parts is read as the code of its subject and its number. -/
theorem ofChars?_eq :
    ofChars? (front ++ Mention.spelling subject gap number alternate back) =
      ofParts? subject number := by
  have hparts := h.hasParts
  have hsubject : Stops isAsciiBlank (Mention.spelling subject gap number alternate back) := by
    apply stops_append
    · rintro rfl
      exact absurd h.length.1 (by decide)
    · exact stops_of_forall fun x hx => isAsciiBlank_of_isAlpha (h.letters x hx)
  have hnumber : Stops isAsciiBlank (number ++ (alternate ++ back)) :=
    hparts.stops_number fun _ hx => isAsciiBlank_of_isDigit hx
  have hblanks : back.all isAsciiBlank = true := List.all_eq_true.2 h.back
  rw [ofChars?, dropWhile_run h.front hsubject, Mention.spelling,
    takeWhile_run h.letters hparts.stops_gap, dropWhile_run h.letters hparts.stops_gap,
    dropWhile_run h.gap hnumber, spanNumber?_spelled h.spelled hparts.ends]
  simp only [Option.bind_eq_bind, Option.bind_some, h.getD_dropAlternate?, hblanks, if_true]

end IsSpelling

/-- The text behind a number is an alternate number, if there is one, and what follows. -/
theorem exists_alternate_of_getD (after : List Char) :
    ∃ alternate, after = alternate ++ (dropAlternate? after).getD after ∧
      (alternate = [] ∨ ∃ other, alternate = '/' :: other ∧ IsSpelledNumber other) := by
  cases hdrop : dropAlternate? after with
  | none => exact ⟨[], rfl, .inl rfl⟩
  | some rest =>
    obtain ⟨other, hafter, hother⟩ := spelled_of_dropAlternate? hdrop
    exact ⟨'/' :: other, hafter, .inr ⟨other, rfl, hother⟩⟩

/-- The code of a subject and a number has both in capital letters. -/
theorem ofParts?_eq_some_iff : ofParts? subject number = some c ↔
    c.subject = capitals subject ∧ c.number = capitals number := by
  unfold ofParts?
  constructor
  · intro h
    split at h
    · cases h
      exact ⟨rfl, rfl⟩
    · cases h
  · rintro ⟨hsubject, hnumber⟩
    rw [dif_pos ⟨hsubject ▸ c.subject_ok, hnumber ▸ c.number_ok⟩]
    exact congrArg some (ext hsubject.symm hnumber.symm)

/-- What is read as a code spells one. -/
theorem spells_of_ofChars? (h : ofChars? cs = some c) :
    ∃ subject number, Spells cs subject number ∧ ofParts? subject number = some c := by
  unfold ofChars? at h
  obtain ⟨⟨number, after⟩, hspan, h⟩ := Option.bind_eq_some_iff.1 h
  dsimp only at h
  split at h
  · next hback =>
    obtain ⟨hafter, hnumber⟩ := spelled_of_spanNumber? hspan
    obtain ⟨alternate, hparts, halternate⟩ := exists_alternate_of_getD after
    have hlength := c.length_subject
    rw [(ofParts?_eq_some_iff.1 h).1, capitals, List.length_map] at hlength
    have hrun : ∀ (p : Char → Bool) (ds : List Char), ∀ x ∈ ds.takeWhile p, p x = true :=
      fun _ _ => List.all_eq_true.1 List.all_takeWhile
    refine ⟨(cs.dropWhile isAsciiBlank).takeWhile Char.isAlpha, number,
      ⟨cs.takeWhile isAsciiBlank,
        ((cs.dropWhile isAsciiBlank).dropWhile Char.isAlpha).takeWhile isAsciiBlank, alternate,
        (dropAlternate? after).getD after, ?_, ?_⟩, h⟩
    · exact
        { front := hrun _ _
          letters := hrun _ _
          length := hlength
          gap := hrun _ _
          spelled := hnumber
          alternate := halternate
          back := List.all_eq_true.1 hback }
    · rw [Mention.spelling, ← hparts, ← hafter, List.takeWhile_append_dropWhile,
        List.takeWhile_append_dropWhile, List.takeWhile_append_dropWhile]
  · cases h

/-- A spelling of a subject and a number is read as a code, in capitals. -/
theorem Spells.exists_code (h : Spells cs subject number) :
    ∃ c, ofChars? cs = some c ∧ c.subject = capitals subject ∧ c.number = capitals number := by
  obtain ⟨front, gap, alternate, back, hspelling, rfl⟩ := h
  obtain ⟨c, hc, -⟩ := hspelling.hasParts.exists_code
  exact ⟨c, hspelling.ofChars?_eq.trans hc, ofParts?_eq_some_iff.1 hc⟩

/-- **A text is read as the code that it spells.** -/
theorem ofChars?_eq_some_iff : ofChars? cs = some c ↔
    ∃ subject number, Spells cs subject number ∧
      c.subject = capitals subject ∧ c.number = capitals number := by
  constructor
  · intro h
    obtain ⟨subject, number, hspells, hparts⟩ := spells_of_ofChars? h
    exact ⟨subject, number, hspells, ofParts?_eq_some_iff.1 hparts⟩
  · rintro ⟨subject, number, hspells, hsubject, hnumber⟩
    obtain ⟨d, hd, hsubject', hnumber'⟩ := hspells.exists_code
    rw [hd, ext (hsubject.trans hsubject'.symm) (hnumber.trans hnumber'.symm)]

end Spelling

/-! ## The normal form -/

/-- What stands in front of the first space of a text, and what stands behind it. -/
def splitAtSpace (cs : List Char) : List Char × List Char :=
  (cs.takeWhile (· ≠ ' '), (cs.dropWhile (· ≠ ' ')).tail)

/-- Subject and number are what the space keeps apart. -/
theorem splitAtSpace_chars (c : CourseCode) : splitAtSpace c.chars = (c.subject, c.number) := by
  have hsubject : ∀ x ∈ c.subject, decide (x ≠ ' ') = true := by
    intro x hx
    apply decide_eq_true
    rintro rfl
    exact absurd (c.isUpper_of_mem_subject ' ' hx) (by decide)
  have hspace : Stops (fun x => decide (x ≠ ' ')) (' ' :: c.number) := stops_cons.2 (by decide)
  rw [splitAtSpace, chars, takeWhile_run hsubject hspace, dropWhile_run hsubject hspace,
    List.tail_cons]

/-- **Reading a code accepts its spellings and keeps its normal form.**  A text is read as a code
exactly if it spells one, and the code is the subject and the number in capital letters with one
space in between.  Every code is the one that its own text spells, and the space in the text stands
between subject and number.  Two spellings are read as the same code exactly if they have the same
subject and the same number but for letter case. -/
theorem spells_exact :
    (∀ text : String, (∃ c, parse? text = some c) ↔
      ∃ subject number, Spells text.toList subject number) ∧
    (∀ (text : String) (c : CourseCode), parse? text = some c ↔
      ∃ subject number, Spells text.toList subject number ∧
        c.text.toList = capitals subject ++ ' ' :: capitals number ∧
        c.subject = capitals subject ∧ c.number = capitals number) ∧
    (∀ c : CourseCode, parse? c.text = some c ∧
      c.text.toList = c.subject ++ ' ' :: c.number ∧
      splitAtSpace c.text.toList = (c.subject, c.number)) ∧
    ∀ (text text' : String) (subject number subject' number' : List Char),
      Spells text.toList subject number → Spells text'.toList subject' number' →
      (parse? text = parse? text' ↔
        SameButCase subject subject' ∧ SameButCase number number') := by
  have htext : ∀ c : CourseCode, c.text.toList = c.subject ++ ' ' :: c.number :=
    fun _ => String.toList_ofList
  refine ⟨?_, ?_, ?_, ?_⟩
  · intro text
    constructor
    · rintro ⟨c, hc⟩
      obtain ⟨subject, number, hspells, -⟩ := ofChars?_eq_some_iff.1 hc
      exact ⟨subject, number, hspells⟩
    · rintro ⟨subject, number, hspells⟩
      obtain ⟨c, hc, -⟩ := hspells.exists_code
      exact ⟨c, hc⟩
  · intro text c
    rw [parse?, ofChars?_eq_some_iff, htext]
    constructor
    · rintro ⟨subject, number, hspells, hsubject, hnumber⟩
      exact ⟨subject, number, hspells, by rw [hsubject, hnumber], hsubject, hnumber⟩
    · rintro ⟨subject, number, hspells, -, hsubject, hnumber⟩
      exact ⟨subject, number, hspells, hsubject, hnumber⟩
  · intro c
    refine ⟨c.parse?_text, htext c, ?_⟩
    rw [htext]
    exact splitAtSpace_chars c
  · intro text text' subject number subject' number' hspells hspells'
    obtain ⟨c, hc, hsubject, hnumber⟩ := hspells.exists_code
    obtain ⟨d, hd, hsubject', hnumber'⟩ := hspells'.exists_code
    rw [parse?, parse?, hc, hd, Option.some.injEq, ← capitals_eq_iff, ← capitals_eq_iff,
      ← hsubject, ← hsubject', ← hnumber, ← hnumber']
    constructor
    · rintro rfl
      exact ⟨rfl, rfl⟩
    · rintro ⟨hsame, hsame'⟩
      exact ext hsame hsame'

/-- A code in small letters, with an alternate number and blanks around. -/
def looseSpelling : String := "\tece  457a/458 "

/-- The same code with nothing in between. -/
def tightSpelling : String := "Ece457A"

/-- Two spellings of `ECE 457A` that differ in blanks, case and an alternate number. -/
theorem spells_exact_sameCode :
    (Spells looseSpelling.toList ['e', 'c', 'e'] ['4', '5', '7', 'a'] ∧
      Spells tightSpelling.toList ['E', 'c', 'e'] ['4', '5', '7', 'A']) ∧
    (parse? looseSpelling = parse? tightSpelling ↔
      SameButCase ['e', 'c', 'e'] ['E', 'c', 'e'] ∧
        SameButCase ['4', '5', '7', 'a'] ['4', '5', '7', 'A']) := by
  have hloose : Spells looseSpelling.toList ['e', 'c', 'e'] ['4', '5', '7', 'a'] := by
    refine ⟨['\t'], [' ', ' '], ['/', '4', '5', '8'], [' '], ?_, by decide⟩
    exact
      { front := by decide
        letters := by decide
        length := by decide
        gap := by decide
        spelled := .lettered rfl rfl rfl rfl
        alternate := .inr ⟨['4', '5', '8'], rfl, .plain rfl rfl rfl⟩
        back := by decide }
  have htight : Spells tightSpelling.toList ['E', 'c', 'e'] ['4', '5', '7', 'A'] := by
    refine ⟨[], [], [], [], ?_, by decide⟩
    exact
      { front := by decide
        letters := by decide
        length := by decide
        gap := by decide
        spelled := .lettered rfl rfl rfl rfl
        alternate := .inl rfl
        back := by decide }
  exact ⟨⟨hloose, htight⟩,
    spells_exact.2.2.2 looseSpelling tightSpelling _ _ _ _ hloose htight⟩

end CourseCode

end CoursePlan
