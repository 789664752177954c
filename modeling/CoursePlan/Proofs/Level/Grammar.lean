import CoursePlan.Proofs.Level

/-!
# Which texts are labels

A label is the year in decimal digits, then the letter of the half in either case, with blanks
around.  `Level.IsLabel` says so without reading anything; how many digits there are, and with how
many zeros they start, does not matter to it.  Reading succeeds exactly on the labels whose year and
half fit 32 bits together, and every other text is returned unchanged (`Level.parse_exact`).
-/

namespace CoursePlan

open Text
open scoped Text.Memberwise

namespace Half

/-- The letters that stand for the half, the capital one and the small one. -/
def letters : Half → List Char
  | a => ['A', 'a']
  | b => ['B', 'b']

/-- A half of a year is read from either of its letters. -/
theorem ofLetter?_eq_some_iff {c : Char} {half : Half} :
    ofLetter? c = some half ↔ c ∈ half.letters := by
  unfold ofLetter?
  split
  · next h => rcases h with rfl | rfl <;> cases half <;> decide
  split
  · next h => rcases h with rfl | rfl <;> cases half <;> decide
  · next ha hb =>
    refine iff_of_false (by simp) ?_
    cases half with
    | a => simpa [letters] using ha
    | b => simpa [letters] using hb

theorem isBlank_of_mem_letters {half : Half} : ∀ c ∈ half.letters, isBlank c = false := by
  cases half <;> decide

end Half

namespace Level

/-- The text is a label of this half of this year: digits that stand for the year and a letter of
the half, with blanks around. -/
def IsLabel (cs : List Char) (year : Nat) (half : Half) : Prop :=
  ∃ front digits letter back, cs = front ++ (digits ++ letter :: back) ∧
    (∀ c ∈ front, isBlank c = true) ∧ (∀ c ∈ back, isBlank c = true) ∧
    (digits ≠ [] ∧ ∀ d ∈ digits, d.isDigit = true) ∧ letter ∈ half.letters ∧
    Numeral.placeValue digits = year

section Label

variable {cs : List Char} {year : Nat} {half : Half} {l : Level}

/-- Trimming leaves the digits and the letter. -/
theorem trim_label {front digits back : List Char} {letter : Char}
    (hfront : ∀ c ∈ front, isBlank c = true) (hback : ∀ c ∈ back, isBlank c = true)
    (hne : digits ≠ []) (hdigits : ∀ d ∈ digits, d.isDigit = true) (hletter : letter ∈ half.letters) :
    trim (front ++ (digits ++ letter :: back)) = digits ++ [letter] := by
  have hsplit : digits ++ letter :: back = digits ++ [letter] ++ back := by simp
  rw [trim_append_left hfront, hsplit, trim_append_right hback]
  refine trim_eq_self (stops_append hne ?_) ?_
  · exact stops_of_forall fun d hd => isBlank_of_isDigit (hdigits d hd)
  · rw [List.reverse_append, List.reverse_singleton]
    exact stops_cons.2 (half.isBlank_of_mem_letters letter hletter)

/-- A text is read by way of the label that it is. -/
theorem ofChars?_eq_some_iff :
    ofChars? cs = some l ↔ ∃ year half, IsLabel cs year half ∧ ofYearHalf? year half = some l := by
  constructor
  · intro h
    obtain ⟨half, hhalf, h⟩ := Option.bind_eq_some_iff.1 h
    obtain ⟨year, hyear, hfits⟩ := Option.bind_eq_some_iff.1 h
    obtain ⟨letter, hlast, hletter⟩ := Option.bind_eq_some_iff.1 hhalf
    obtain ⟨digits, hbody⟩ := List.getLast?_eq_some_iff.1 hlast
    rw [hbody, List.dropLast_concat, Numeral.nat?_eq_some_iff] at hyear
    obtain ⟨hne, hdigits, hvalue⟩ := hyear
    obtain ⟨front, back, hfront, hback, hcs⟩ := exists_blanks_around cs
    refine ⟨year, half, ⟨front, digits, letter, back, ?_, hfront, hback, ⟨hne, hdigits⟩,
      Half.ofLetter?_eq_some_iff.1 hletter, hvalue⟩, hfits⟩
    rw [hcs, hbody]
    simp
  · rintro ⟨year, half, ⟨front, digits, letter, back, rfl, hfront, hback, ⟨hne, hdigits⟩, hletter,
      hvalue⟩, hfits⟩
    have htrim := trim_label hfront hback hne hdigits hletter
    have hhalf : Half.ofLetter? letter = some half := Half.ofLetter?_eq_some_iff.2 hletter
    have hyear : Numeral.nat? digits = some year :=
      Numeral.nat?_eq_some_iff.2 ⟨hne, hdigits, hvalue⟩
    simp [ofChars?, htrim, hhalf, hyear, hfits]

/-- The level of a half of a year is counted without wrapping around. -/
theorem ofYearHalf?_eq_some_iff : ofYearHalf? year half = some l ↔
    1 ≤ year ∧ 2 * year + half.offset ≤ Numeral.max32 ∧
      l.toNat + 2 = 2 * year + half.offset := by
  constructor
  · intro h
    by_cases hfits : 1 ≤ year ∧ 2 * year + half.offset ≤ Numeral.max32
    · obtain ⟨hyear, hmax⟩ := hfits
      rw [ofYearHalf?_eq_some hyear hmax] at h
      cases h
      refine ⟨hyear, hmax, ?_⟩
      rw [toNat_ofIndex]
      omega
    · rw [ofYearHalf?, if_neg hfits] at h
      cases h
  · rintro ⟨hyear, hmax, hl⟩
    have hindex : 2 * (year - 1) + half.offset = l.toNat := by omega
    rw [ofYearHalf?_eq_some hyear hmax, hindex, ofIndex_toNat]

end Label

/-- A text that is no label is refused as it was written. -/
theorem parse_eq_error_iff {text : String} {e : ParseError} :
    parse text = .error e ↔ e.text = text ∧ ofChars? text.toList = none := by
  obtain ⟨t⟩ := e
  unfold parse
  split
  · next h => simp [h]
  · next h => simp [h, eq_comm]

/-- **Reading accepts the labels whose level fits 32 bits, and nothing else.**  A text is read as a
level exactly if it is the label of a half of a year, counted from 1, such that twice the year and
the place of the half together fit 32 bits; the level is then two less.  Otherwise the cause of
failure is the text as it was given. -/
theorem parse_exact (text : String) :
    (∀ l, parse text = .ok l ↔ ∃ year half, IsLabel text.toList year half ∧
      1 ≤ year ∧ 2 * year + half.offset ≤ Numeral.max32 ∧
        l.toNat + 2 = 2 * year + half.offset) ∧
    ∀ e, parse text = .error e ↔ e.text = text ∧
      ∀ year half, IsLabel text.toList year half →
        ¬(1 ≤ year ∧ 2 * year + half.offset ≤ Numeral.max32) := by
  constructor
  · intro l
    simp only [parse_eq_ok_iff, ofChars?_eq_some_iff, ofYearHalf?_eq_some_iff]
  · intro e
    rw [parse_eq_error_iff, Option.eq_none_iff_forall_ne_some]
    refine and_congr_right fun _ => ⟨?_, ?_⟩
    · rintro hnone year half hlabel ⟨hyear, hmax⟩
      exact hnone _ (ofChars?_eq_some_iff.2 ⟨year, half, hlabel, ofYearHalf?_eq_some hyear hmax⟩)
    · intro hnone l hread
      obtain ⟨year, half, hlabel, hfits⟩ := ofChars?_eq_some_iff.1 hread
      obtain ⟨hyear, hmax, -⟩ := ofYearHalf?_eq_some_iff.1 hfits
      exact hnone year half hlabel ⟨hyear, hmax⟩

end Level

end CoursePlan
