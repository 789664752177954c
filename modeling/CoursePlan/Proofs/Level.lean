import CoursePlan.Json.Decode
import CoursePlan.Proofs.Numeral
import CoursePlan.Proofs.Text.Keywords

/-!
# Reading labels back

The label of a half of a year is read as the level of its term (`Level.ofChars?_labelOf`), as long
as the level fits its 32 bits in the way `Level.ofYearHalf?` asks for.  These are the `Legible`
levels: reading yields no others (`Level.legible_of_ofChars?`), and their labels are read back
(`Level.parse_label`).

All levels are legible but the last two, whose labels are refused (`Level.label_read_back`): the
count that is checked to fit includes the two terms of a year 0 that no program has.
-/

namespace CoursePlan

open Text

namespace Half

@[simp] theorem ofLetter?_letter (half : Half) : ofLetter? half.letter = some half := by
  cases half <;> rfl

theorem isUpper_letter (half : Half) : half.letter.isUpper = true := by
  cases half <;> rfl

end Half

namespace Level

@[simp] theorem ofIndex_toNat (l : Level) : ofIndex l.toNat = l := by
  rw [ofIndex, Nat.min_eq_left l.toNat_le, toNat, UInt32.ofNat_toNat]

theorem parse_eq_ok_iff {text : String} {l : Level} :
    parse text = .ok l ↔ ofChars? text.toList = some l := by
  unfold parse
  split
  · next h => simp [h]
  · next h => simp [h]

/-- The label of a half of a year. -/
def labelOf (year : Nat) (half : Half) : List Char :=
  Numeral.digits year ++ [half.letter]

variable {year : Nat} {half : Half}

theorem mem_labelOf : ∀ c ∈ labelOf year half, c.isDigit = true ∨ c.isUpper = true := by
  intro c hc
  rcases List.mem_append.1 hc with hc | hc
  · exact .inl (Numeral.isDigit_of_mem_digits c hc)
  · rw [List.mem_singleton.1 hc]
    exact .inr half.isUpper_letter

theorem exists_labelOf (year : Nat) (half : Half) :
    ∃ d ds, labelOf year half = d :: ds ∧ d.isDigit = true := by
  obtain ⟨d, ds, hdigits, hd⟩ := Numeral.exists_digits year
  exact ⟨d, ds ++ [half.letter], by rw [labelOf, hdigits, List.cons_append], hd⟩

theorem isWord_labelOf : IsWord (labelOf year half) := by
  refine ⟨by simp [labelOf], ?_⟩
  intro c hc
  rcases mem_labelOf c hc with hc | hc
  · exact isWordChar_of_isDigit hc
  · exact isWordChar_of_isUpper hc

theorem stops_labelOf (cs : List Char) : Stops isBlank (labelOf year half ++ cs) := by
  obtain ⟨d, ds, hlabel, hd⟩ := exists_labelOf year half
  rw [hlabel]
  exact stops_cons.2 (isBlank_of_isDigit hd)

theorem trim_labelOf : trim (labelOf year half) = labelOf year half := by
  refine trim_eq_self (stops_of_append (stops_labelOf [])) ?_
  rw [labelOf, List.reverse_append, List.reverse_singleton]
  exact stops_cons.2 (isBlank_of_isUpper half.isUpper_letter)

/-- A half of a year is a level as long as twice the year and the half fit into 32 bits. -/
theorem ofYearHalf?_eq_some (hyear : 1 ≤ year) (hfits : 2 * year + half.offset ≤ Numeral.max32) :
    ofYearHalf? year half = some (ofIndex (2 * (year - 1) + half.offset)) := by
  have hindex : 2 * year + half.offset - 2 = 2 * (year - 1) + half.offset := by omega
  have hmin : min (2 * (year - 1) + half.offset) Numeral.max32 = 2 * (year - 1) + half.offset :=
    Nat.min_eq_left (by omega)
  rw [ofYearHalf?, if_pos ⟨hyear, hfits⟩, hindex, ofIndex, hmin]

/-- Reading the label of a half of a year comes down to the year and the half. -/
theorem ofChars?_labelOf_eq (year : Nat) (half : Half) :
    ofChars? (labelOf year half) = ofYearHalf? year half := by
  have hlast : (labelOf year half).getLast? = some half.letter := List.getLast?_concat
  have hinit : (labelOf year half).dropLast = Numeral.digits year := List.dropLast_concat
  simp [ofChars?, trim_labelOf, hlast, hinit]

/-- **The label of a half of a year is read as the level of its term.** -/
theorem ofChars?_labelOf (hyear : 1 ≤ year) (hfits : 2 * year + half.offset ≤ Numeral.max32) :
    ofChars? (labelOf year half) = some (ofIndex (2 * (year - 1) + half.offset)) := by
  rw [ofChars?_labelOf_eq, ofYearHalf?_eq_some hyear hfits]

/-! ## Levels with a readable label -/

/-- The level is so far from the end of its 32 bits that its label can be read. -/
def Legible (l : Level) : Prop :=
  l.toNat + 2 ≤ Numeral.max32

/-- Year and half of a level come to two more than the level itself. -/
theorem two_mul_year_add_offset (l : Level) : 2 * l.year + l.half.offset = l.toNat + 2 := by
  rw [year, half]
  split
  · rw [Half.offset]
    omega
  · rw [Half.offset]
    omega

/-- All levels that are read from labels have a readable label. -/
theorem legible_of_ofChars? {cs : List Char} {l : Level} (h : ofChars? cs = some l) :
    l.Legible := by
  obtain ⟨half, -, h⟩ := Option.bind_eq_some_iff.1 h
  obtain ⟨year, -, h⟩ := Option.bind_eq_some_iff.1 h
  rw [ofYearHalf?] at h
  split at h
  · next hfits =>
    cases h
    have hsmall : 2 * year + half.offset - 2 < UInt32.size :=
      Nat.lt_of_le_of_lt (Nat.le_trans (Nat.sub_le _ _) hfits.2) (by decide)
    rw [Legible, toNat, UInt32.toNat_ofNat_of_lt' hsmall]
    omega
  · cases h

/-- A label that can be read is read as the level that it was written for. -/
theorem ofChars?_labelChars {l : Level} (h : l.Legible) : ofChars? l.labelChars = some l := by
  have hsum := l.two_mul_year_add_offset
  have hyear : 1 ≤ l.year := Nat.le_add_left 1 _
  have hfits : 2 * l.year + l.half.offset ≤ Numeral.max32 := by
    rw [hsum]
    exact h
  have hindex : 2 * (l.year - 1) + l.half.offset = l.toNat := by omega
  have hread : ofChars? l.labelChars = _ := ofChars?_labelOf hyear hfits
  rw [hread, hindex, ofIndex_toNat]

theorem parse_label {l : Level} (h : l.Legible) : parse l.label = .ok l := by
  rw [parse_eq_ok_iff, label, String.toList_ofList]
  exact ofChars?_labelChars h

/-! ## Levels at the end of the range -/

instance (l : Level) : Decidable l.Legible :=
  inferInstanceAs (Decidable (l.toNat + 2 ≤ Numeral.max32))

/-- The year and the half of such a level do not fit together, although the level does. -/
theorem ofChars?_labelChars_eq_none {l : Level} (h : ¬l.Legible) :
    ofChars? l.labelChars = none := by
  have hsum := l.two_mul_year_add_offset
  have hread : ofChars? l.labelChars = ofYearHalf? l.year l.half := ofChars?_labelOf_eq _ _
  rw [hread, ofYearHalf?, hsum, if_neg]
  rintro ⟨-, hfits⟩
  exact h hfits

/-- A label that cannot be read is refused, and the error names it. -/
theorem parse_label_of_not_legible {l : Level} (h : ¬l.Legible) :
    parse l.label = .error ⟨l.label⟩ := by
  have hread : ofChars? l.label.toList = none := by
    rw [label, String.toList_ofList]
    exact ofChars?_labelChars_eq_none h
  unfold parse
  rw [hread]

/-- **A label is read back, except at the end of the range.**  Every level is that of its own index.
Its label is read as the level again, by itself as well as in JSON, unless only one level follows
it or none does; the labels of these two levels are refused. -/
theorem label_read_back (l : Level) :
    ofIndex l.toNat = l ∧
      parse l.label = (if l.toNat + 2 ≤ Numeral.max32 then .ok l else .error ⟨l.label⟩) ∧
      Decoder.level (.string l.label) =
        (if l.toNat + 2 ≤ Numeral.max32 then .ok l else .error (.invalidLabel ⟨l.label⟩)) := by
  have hdecode : Decoder.level (.string l.label) = (parse l.label).mapError .invalidLabel := rfl
  refine ⟨ofIndex_toNat l, ?_⟩
  rw [hdecode]
  by_cases h : l.toNat + 2 ≤ Numeral.max32
  · rw [parse_label h, if_pos h, if_pos h]
    exact ⟨rfl, rfl⟩
  · rw [parse_label_of_not_legible h, if_neg h, if_neg h]
    exact ⟨rfl, rfl⟩

/-- **Not every label is read back**: `2147483648B`, the label of the last level, is refused. -/
theorem not_forall_parse_label :
    ¬∀ l : Level, parse l.label = .ok l ∧ Decoder.level (.string l.label) = .ok l := by
  intro h
  have hlast : ¬(ofIndex Numeral.max32).Legible := by decide
  have hread := (h (ofIndex Numeral.max32)).1
  rw [parse_label_of_not_legible hlast] at hread
  cases hread

end Level

end CoursePlan
