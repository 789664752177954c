import CoursePlan.CourseCode.Mention
import CoursePlan.Proofs.CourseCode.Characters
import CoursePlan.Proofs.Text.Runs

/-!
# How a mention is spelled

A mention has up to five parts: the letters of a subject, blanks, a catalog number, an alternate
number, and the text behind them, which decides whether the number ends there and whether it is a
range.  `Mention.HasParts` says which texts can be these parts, without reading anything, and
`Mention.read?_eq_some_iff` says that a mention is read exactly where its parts stand.
-/

namespace CoursePlan

namespace CourseCode

open Text

/-! ## Numbers -/

/-- A catalog number as prose spells it: three digits, and perhaps a letter in either case. -/
inductive IsSpelledNumber : List Char → Prop
  | plain {x y z : Char} (hx : x.isDigit = true) (hy : y.isDigit = true) (hz : z.isDigit = true) :
      IsSpelledNumber [x, y, z]
  | lettered {x y z l : Char} (hx : x.isDigit = true) (hy : y.isDigit = true)
      (hz : z.isDigit = true) (hl : l.isAlpha = true) : IsSpelledNumber [x, y, z, l]

/-- In capitals, a number as prose spells it is a catalog number. -/
theorem IsSpelledNumber.isNumber_capitals {number : List Char} (h : IsSpelledNumber number) :
    isNumber (capitals number) = true := by
  cases h with
  | plain hx hy hz =>
    simp [isNumber, capitals, toUpper_of_isDigit, hx, hy, hz]
  | lettered hx hy hz hl =>
    have hupper := isUpper_toUpper_of_isAlpha hl
    simp only [isNumber, capitals, List.map_cons, List.map_nil, toUpper_of_isDigit, hx, hy, hz,
      hupper, Bool.and_self]

theorem isSpelledNumber_number (c : CourseCode) : IsSpelledNumber c.number := by
  obtain ⟨x, y, z, tail, hnumber, hx, hy, hz, htail⟩ := c.exists_number
  rw [hnumber]
  rcases htail with rfl | ⟨l, rfl, hl⟩
  · exact .plain hx hy hz
  · exact .lettered hx hy hz (isAlpha_of_isUpper hl)

theorem goesOn_eq_false_iff {cs : List Char} : goesOn cs = false ↔ Stops isAsciiWordChar cs := by
  cases cs with
  | nil => exact iff_of_true rfl stops_nil
  | cons c cs => rw [goesOn, stops_cons]

/-- A number is read together with its letter, where its word ends behind it. -/
theorem spanNumber?_spelled {number rest : List Char} (h : IsSpelledNumber number)
    (hrest : Stops isAsciiWordChar rest) : spanNumber? (number ++ rest) = some (number, rest) := by
  cases h with
  | plain hx hy hz =>
    cases rest with
    | nil => simp [spanNumber?, hx, hy, hz]
    | cons r rest =>
      have hr := hrest r rfl
      simp only [isAsciiWordChar, Char.isAlphanum, Bool.or_eq_false_iff] at hr
      simp [spanNumber?, hx, hy, hz, hr.1.1]
  | lettered hx hy hz hl => simp [spanNumber?, hx, hy, hz, hl]

/-- What is read as a number is spelled as one, and it stands at the start. -/
theorem spelled_of_spanNumber? {cs number rest : List Char}
    (h : spanNumber? cs = some (number, rest)) : cs = number ++ rest ∧ IsSpelledNumber number := by
  unfold spanNumber? at h
  split at h
  · next x y z cs =>
    split at h
    · next hdigits =>
      simp only [Bool.and_eq_true] at hdigits
      obtain ⟨⟨hx, hy⟩, hz⟩ := hdigits
      split at h
      · cases h
        exact ⟨rfl, .plain hx hy hz⟩
      · split at h
        · next hl =>
          cases h
          exact ⟨rfl, .lettered hx hy hz hl⟩
        · cases h
          exact ⟨rfl, .plain hx hy hz⟩
    · cases h
  · cases h

/-- Where no slash follows, there is no alternate number. -/
theorem dropAlternate?_eq_none {cs : List Char} (h : cs.head? ≠ some '/') :
    dropAlternate? cs = none := by
  unfold dropAlternate?
  split
  · exact absurd rfl h
  · rfl

/-- A slash and a number that ends its word are dropped together. -/
theorem dropAlternate?_spelled {number rest : List Char} (h : IsSpelledNumber number)
    (hrest : Stops isAsciiWordChar rest) :
    dropAlternate? ('/' :: (number ++ rest)) = some rest := by
  rw [dropAlternate?, spanNumber?_spelled h hrest]
  rfl

/-- What is dropped as an alternate number is a slash and a number. -/
theorem spelled_of_dropAlternate? {cs rest : List Char} (h : dropAlternate? cs = some rest) :
    ∃ number, cs = '/' :: (number ++ rest) ∧ IsSpelledNumber number := by
  unfold dropAlternate? at h
  split at h
  · obtain ⟨⟨number, after⟩, hspan, rfl⟩ := Option.map_eq_some_iff.1 h
    obtain ⟨rfl, hnumber⟩ := spelled_of_spanNumber? hspan
    exact ⟨number, rfl, hnumber⟩
  · cases h

namespace Mention

/-! ## Alternate numbers -/

/-- What a number takes along of the text behind it: a slash and an alternate number that ends its
word, wherever such a one stands there, and nothing otherwise. -/
inductive IsAlternate : List Char → List Char → Prop
  | number {number rest : List Char} (hnumber : IsSpelledNumber number)
      (hends : Stops isAsciiWordChar rest) : IsAlternate ('/' :: number) rest
  | none {rest : List Char} (h : ∀ number rest', rest = '/' :: (number ++ rest') →
      IsSpelledNumber number → ¬Stops isAsciiWordChar rest') : IsAlternate [] rest

/-- A number behind which there is no slash takes nothing along. -/
theorem isAlternate_nil {rest : List Char} (h : rest.head? ≠ some '/') : IsAlternate [] rest := by
  refine .none ?_
  rintro number rest' rfl
  exact absurd rfl h

/-- Behind an alternate number is what follows it. -/
theorem afterAlternate_append {alternate rest : List Char} (h : IsAlternate alternate rest) :
    afterAlternate (alternate ++ rest) = rest := by
  cases h with
  | number hnumber hends =>
    rw [List.cons_append, afterAlternate, dropAlternate?_spelled hnumber hends]
    simp [goesOn_eq_false_iff.2 hends]
  | none h =>
    rw [List.nil_append, afterAlternate]
    split
    · next rest' hdrop =>
      obtain ⟨number, rfl, hnumber⟩ := spelled_of_dropAlternate? hdrop
      have hgoes : goesOn rest' = true := by
        rw [← Bool.not_eq_false, goesOn_eq_false_iff]
        exact h number rest' rfl hnumber
      rw [if_pos hgoes]
    · rfl

/-- The text behind a number is its alternate, if it has one, and what follows. -/
theorem exists_alternate (cs : List Char) :
    ∃ alternate, cs = alternate ++ afterAlternate cs ∧
      IsAlternate alternate (afterAlternate cs) := by
  unfold afterAlternate
  split
  · next rest hdrop =>
    obtain ⟨number, hcs, hnumber⟩ := spelled_of_dropAlternate? hdrop
    split
    · next hgoes =>
      -- an alternate that ended its word would be the one that was read
      refine ⟨[], rfl, .none ?_⟩
      intro number' rest' hcs' hnumber' hends
      have hdrop' := dropAlternate?_spelled hnumber' hends
      rw [← hcs', hdrop] at hdrop'
      cases hdrop'
      rw [goesOn_eq_false_iff.2 hends] at hgoes
      cases hgoes
    · next hgoes =>
      rw [Bool.not_eq_true] at hgoes
      exact ⟨'/' :: number, hcs, .number hnumber (goesOn_eq_false_iff.1 hgoes)⟩
  · next hdrop =>
    refine ⟨[], rfl, .none ?_⟩
    rintro number rest rfl hnumber hends
    rw [dropAlternate?_spelled hnumber hends] at hdrop
    cases hdrop

/-! ## Mentions -/

/-- The parts of a mention: the letters of a subject, perhaps blanks, a catalog number, its
alternate if there is one, and the text behind them. -/
structure HasParts (subject gap number alternate rest : List Char) : Prop where
  letters : ∀ x ∈ subject, x.isAlpha = true
  length : 2 ≤ subject.length ∧ subject.length ≤ 10
  blanks : ∀ x ∈ gap, isAsciiBlank x = true
  spelled : IsSpelledNumber number
  ends : Stops isAsciiWordChar (alternate ++ rest)
  alternate : IsAlternate alternate rest

/-- The text that the parts of a mention make up. -/
def spelling (subject gap number alternate rest : List Char) : List Char :=
  subject ++ (gap ++ (number ++ (alternate ++ rest)))

/-- The mention of a subject and a number, given the text behind, and what follows the mention: a
hyphen is taken along and makes it a range. -/
def close (subject number : List Char) : List Char → Mention × List Char
  | '-' :: rest => (⟨subject, number, true⟩, rest)
  | rest => (⟨subject, number, false⟩, rest)

theorem some_close (subject number rest : List Char) :
    some (close subject number rest) =
      match rest with
      | '-' :: rest' => some (⟨subject, number, true⟩, rest')
      | rest' => some (⟨subject, number, false⟩, rest') := by
  unfold close
  split <;> rfl

theorem close_eq (subject number : List Char) {rest : List Char} (h : rest.head? ≠ some '-') :
    close subject number rest = (⟨subject, number, false⟩, rest) := by
  unfold close
  split
  · exact absurd rfl h
  · rfl

section Parts

variable {subject gap number alternate rest : List Char}

namespace HasParts

/-- A run of characters that are no digits ends where the number starts. -/
theorem stops_number (h : HasParts subject gap number alternate rest) {p : Char → Bool}
    (hp : ∀ x, x.isDigit = true → p x = false) : Stops p (number ++ (alternate ++ rest)) := by
  cases h.spelled with
  | plain hx hy hz => exact stops_cons.2 (hp _ hx)
  | lettered hx hy hz hl => exact stops_cons.2 (hp _ hx)

/-- The subject is the whole run of letters: a blank or a digit follows it. -/
theorem stops_gap (h : HasParts subject gap number alternate rest) :
    Stops Char.isAlpha (gap ++ (number ++ (alternate ++ rest))) := by
  cases gap with
  | nil => exact h.stops_number fun _ hx => isAlpha_of_isDigit hx
  | cons x gap => exact stops_cons.2 (isAlpha_of_isAsciiBlank (h.blanks x List.mem_cons_self))

/-- In capital letters, a subject and a number make a code. -/
theorem exists_code (h : HasParts subject gap number alternate rest) :
    ∃ c, ofParts? subject number = some c ∧
      c.chars = capitals subject ++ ' ' :: capitals number := by
  have hupper : ∀ x ∈ subject, x.toUpper.isUpper = true := by
    intro x hx
    exact isUpper_toUpper_of_isAlpha (h.letters x hx)
  have hsubject : isSubject (capitals subject) = true := by
    simpa [isSubject, capitals, h.length] using hupper
  rw [ofParts?, dif_pos ⟨hsubject, h.spelled.isNumber_capitals⟩]
  exact ⟨_, rfl, rfl⟩

end HasParts

/-- A mention is read where its parts stand. -/
theorem read?_spelling (h : HasParts subject gap number alternate rest) :
    read? (spelling subject gap number alternate rest) = some (close subject number rest) := by
  have hnumber : Stops isAsciiBlank (number ++ (alternate ++ rest)) :=
    h.stops_number fun _ hx => isAsciiBlank_of_isDigit hx
  have hlength : (subject.length < 2 || 10 < subject.length) = false := by
    have hlen := h.length
    simp only [Bool.or_eq_false_iff, decide_eq_false_iff_not]
    omega
  simp only [read?, spelling, takeWhile_run h.letters h.stops_gap,
    dropWhile_run h.letters h.stops_gap, dropWhile_run h.blanks hnumber, hlength,
    spanNumber?_spelled h.spelled h.ends, goesOn_eq_false_iff.2 h.ends,
    afterAlternate_append h.alternate, Bool.false_eq_true, if_false]
  exact (some_close ..).symm

end Parts

/-- **A mention is read where its parts stand**, and nowhere else. -/
theorem read?_eq_some_iff {cs rest : List Char} {m : Mention} :
    read? cs = some (m, rest) ↔ ∃ subject gap number alternate tail,
      cs = spelling subject gap number alternate tail ∧
        HasParts subject gap number alternate tail ∧ close subject number tail = (m, rest) := by
  constructor
  · intro h
    unfold read? at h
    simp only at h
    split at h
    · cases h
    next hlength =>
    split at h
    · cases h
    next number after hspan =>
    split at h
    · cases h
    next hgoes =>
    rw [Bool.not_eq_true, goesOn_eq_false_iff] at hgoes
    obtain ⟨hafter, hnumber⟩ := spelled_of_spanNumber? hspan
    obtain ⟨alternate, halternate, hparts⟩ := exists_alternate after
    refine ⟨cs.takeWhile Char.isAlpha, (cs.dropWhile Char.isAlpha).takeWhile isAsciiBlank, number,
      alternate, afterAlternate after, ?_, ⟨?_, ?_, ?_, hnumber, ?_, hparts⟩, ?_⟩
    · rw [spelling, ← halternate, ← hafter, List.takeWhile_append_dropWhile,
        List.takeWhile_append_dropWhile]
    · exact fun x hx => (List.all_eq_true.1 List.all_takeWhile) x hx
    · simp only [Bool.or_eq_true, decide_eq_true_eq] at hlength
      omega
    · exact fun x hx => (List.all_eq_true.1 List.all_takeWhile) x hx
    · rwa [← halternate]
    · exact Option.some.inj ((some_close ..).trans h)
  · rintro ⟨subject, gap, number, alternate, tail, rfl, hparts, hclose⟩
    rw [read?_spelling hparts, hclose]

end Mention

end CourseCode

end CoursePlan
