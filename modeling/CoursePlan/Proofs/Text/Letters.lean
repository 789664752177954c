import CoursePlan.CourseCode.Basic
import CoursePlan.Text.Caseless

/-!
# Letters and digits

Codes are spelled with capital letters and digits.  What scanning and keyword search ask of such a
character is settled here once, by going through the 26 letters and the 10 digits.  Keywords are
spelled with letters alone, which no character but those of words folds to.
-/

namespace CoursePlan.Text

/-- A property of all capital letters is checked on the 26 code points from 65. -/
theorem forall_isUpper {P : Char → Prop} (h : ∀ n < 26, P (Char.ofNat (65 + n))) {c : Char}
    (hc : c.isUpper = true) : P c := by
  unfold Char.isUpper at hc
  simp only [decide_eq_true_eq, ge_iff_le, UInt32.le_iff_toNat_le] at hc
  have hlow : 65 ≤ c.toNat := hc.1
  have hhigh : c.toNat ≤ 90 := hc.2
  have hP := h (c.toNat - 65) (by omega)
  rwa [show 65 + (c.toNat - 65) = c.toNat by omega, Char.ofNat_toNat] at hP

/-- A property of all digits is checked on the 10 code points from 48. -/
theorem forall_isDigit {P : Char → Prop} (h : ∀ n < 10, P (Char.ofNat (48 + n))) {c : Char}
    (hc : c.isDigit = true) : P c := by
  simp only [Char.isDigit, Bool.and_eq_true, decide_eq_true_eq, ge_iff_le,
    UInt32.le_iff_toNat_le] at hc
  have hlow : 48 ≤ c.toNat := hc.1
  have hhigh : c.toNat ≤ 57 := hc.2
  have hP := h (c.toNat - 48) (by omega)
  rwa [show 48 + (c.toNat - 48) = c.toNat by omega, Char.ofNat_toNat] at hP

/-- A property of all letters is checked on the capital letters and the small ones. -/
theorem forall_isAlpha {P : Char → Prop} (hupper : ∀ n < 26, P (Char.ofNat (65 + n)))
    (hlower : ∀ n < 26, P (Char.ofNat (97 + n))) {c : Char} (hc : c.isAlpha = true) : P c := by
  unfold Char.isAlpha at hc
  rcases Bool.or_eq_true_iff.1 hc with hc | hc
  · exact forall_isUpper hupper hc
  · unfold Char.isLower at hc
    simp only [Bool.and_eq_true, decide_eq_true_eq, ge_iff_le, UInt32.le_iff_toNat_le] at hc
    have hlow : 97 ≤ c.toNat := hc.1
    have hhigh : c.toNat ≤ 122 := hc.2
    have hP := hlower (c.toNat - 97) (by omega)
    rwa [show 97 + (c.toNat - 97) = c.toNat by omega, Char.ofNat_toNat] at hP

theorem toLower_of_not_isUpper {c : Char} (hc : ¬c.isUpper = true) : c.toLower = c := by
  unfold Char.toLower
  rw [dif_neg]
  unfold Char.isUpper at hc
  simpa using hc

section Upper

variable {c : Char} (hc : c.isUpper = true)
include hc

theorem isAlpha_of_isUpper : c.isAlpha = true :=
  forall_isUpper (P := fun c => c.isAlpha = true) (by decide) hc

theorem isWordChar_of_isUpper : isWordChar c = true :=
  forall_isUpper (P := fun c => isWordChar c = true) (by decide) hc

theorem isBlank_of_isUpper : isBlank c = false :=
  forall_isUpper (P := fun c => isBlank c = false) (by decide) hc

theorem isAsciiBlank_of_isUpper : isAsciiBlank c = false :=
  forall_isUpper (P := fun c => isAsciiBlank c = false) (by decide) hc

theorem isDigit_of_isUpper : c.isDigit = false :=
  forall_isUpper (P := fun c => c.isDigit = false) (by decide) hc

theorem toUpper_of_isUpper : c.toUpper = c :=
  forall_isUpper (P := fun c => c.toUpper = c) (by decide) hc

theorem toUpper_foldCase_of_isUpper : (foldCase c).toUpper = c :=
  forall_isUpper (P := fun c => (foldCase c).toUpper = c) (by decide) hc

end Upper

section Alpha

variable {c : Char} (hc : c.isAlpha = true)
include hc

theorem isUpper_toUpper_of_isAlpha : c.toUpper.isUpper = true :=
  forall_isAlpha (P := fun c => c.toUpper.isUpper = true) (by decide) (by decide) hc

theorem isAsciiBlank_of_isAlpha : isAsciiBlank c = false :=
  forall_isAlpha (P := fun c => isAsciiBlank c = false) (by decide) (by decide) hc

theorem isAsciiWordChar_of_isAlpha : isAsciiWordChar c = true := by
  simp [isAsciiWordChar, Char.isAlphanum, hc]

end Alpha

theorem isAlpha_of_not_isAsciiWordChar {c : Char} (hc : isAsciiWordChar c = false) :
    c.isAlpha = false := by
  rw [Bool.eq_false_iff]
  intro halpha
  rw [isAsciiWordChar_of_isAlpha halpha] at hc
  cases hc

theorem isAlpha_of_isAsciiBlank {c : Char} (hc : isAsciiBlank c = true) : c.isAlpha = false := by
  rw [Bool.eq_false_iff]
  intro halpha
  rw [isAsciiBlank_of_isAlpha halpha] at hc
  cases hc

section Digit

variable {c : Char} (hc : c.isDigit = true)
include hc

theorem isAlpha_of_isDigit : c.isAlpha = false :=
  forall_isDigit (P := fun c => c.isAlpha = false) (by decide) hc

theorem isWordChar_of_isDigit : isWordChar c = true :=
  forall_isDigit (P := fun c => isWordChar c = true) (by decide) hc

theorem isBlank_of_isDigit : isBlank c = false :=
  forall_isDigit (P := fun c => isBlank c = false) (by decide) hc

theorem isAsciiBlank_of_isDigit : isAsciiBlank c = false :=
  forall_isDigit (P := fun c => isAsciiBlank c = false) (by decide) hc

theorem foldCase_of_isDigit : foldCase c = c :=
  forall_isDigit (P := fun c => foldCase c = c) (by decide) hc

theorem isAsciiWordChar_of_isDigit : isAsciiWordChar c = true := by
  simp [isAsciiWordChar, Char.isAlphanum, hc]

theorem toUpper_of_isDigit : c.toUpper = c :=
  forall_isDigit (P := fun c => c.toUpper = c) (by decide) hc

end Digit

/-- The blanks of plain text are blanks. -/
theorem isBlank_of_isAsciiBlank {c : Char} (hc : isAsciiBlank c = true) : isBlank c = true := by
  unfold isAsciiBlank at hc
  unfold isBlank
  simp only [Bool.or_assoc]
  rcases Bool.or_eq_true_iff.1 hc with hc | hc
  · rw [hc, Bool.true_or]
  · rw [hc, Bool.true_or, Bool.or_true]

/-- Blanks stand between words, even in plain text. -/
theorem isAsciiWordChar_of_isBlank {c : Char} (hc : isBlank c = true) :
    isAsciiWordChar c = false := by
  have halpha : c.isAlpha = false := by
    rw [Bool.eq_false_iff]
    intro halpha
    have hblank : isBlank c = false :=
      forall_isAlpha (P := fun c => isBlank c = false) (by decide) (by decide) halpha
    rw [hblank] at hc
    cases hc
  have hdigit : c.isDigit = false := by
    rw [Bool.eq_false_iff]
    intro hdigit
    rw [isBlank_of_isDigit hdigit] at hc
    cases hc
  have hunderscore : c ≠ '_' := by
    rintro rfl
    exact absurd hc (by decide)
  simp [isAsciiWordChar, Char.isAlphanum, halpha, hdigit, hunderscore]

/-- Only the letters `s` and `k` have more than two spellings. -/
theorem toLower_eq_foldCase {c : Char} (hs : foldCase c ≠ 's') (hk : foldCase c ≠ 'k') :
    c.toLower = foldCase c := by
  have hs' : c ≠ '\u017f' := by
    rintro rfl
    exact hs (by decide)
  have hk' : c ≠ '\u212a' := by
    rintro rfl
    exact hk (by decide)
  rw [foldCase, if_neg hs', if_neg hk']

/-- Only characters of words fold to letters. -/
theorem isAlpha_foldCase_of_not_isWordChar {c : Char} (hc : isWordChar c = false) :
    (foldCase c).isAlpha = false := by
  rw [Bool.eq_false_iff]
  intro h
  refine Bool.eq_false_iff.1 hc ?_
  by_cases hs : c = '\u017f'
  · rw [hs]
    decide
  by_cases hk : c = '\u212a'
  · rw [hk]
    decide +kernel
  rw [foldCase, if_neg hs, if_neg hk] at h
  by_cases hupper : c.isUpper = true
  · exact isWordChar_of_isUpper hupper
  have halpha : c.isAlpha = true := toLower_of_not_isUpper hupper ▸ h
  have hascii : c.toNat < 0x80 := by
    unfold Char.isAlpha Char.isLower at halpha
    simp only [hupper, Bool.false_or, Bool.and_eq_true, decide_eq_true_eq,
      UInt32.le_iff_toNat_le] at halpha
    have hle : c.toNat ≤ 122 := halpha.2
    omega
  simp [isWordChar, hascii, isAsciiWordChar, Char.isAlphanum, halpha]

end CoursePlan.Text
