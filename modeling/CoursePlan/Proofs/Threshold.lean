import CoursePlan.Proofs.Numeral
import CoursePlan.Proofs.Text.Runs
import CoursePlan.Threshold

/-!
# Which texts are thresholds

The environment variable holds a whole number in decimal digits, perhaps after a plus sign, with
blanks around.  `Numeral.IsWritten` says so without reading anything; it is read exactly if the
number fits 64 bits (`Numeral.word64?_trim_eq_some_iff`).
-/

namespace CoursePlan

open Text

namespace Numeral

variable {cs : List Char} {n : Nat}

/-- The text is the number in decimal digits, perhaps after a plus sign, with blanks around. -/
def IsWritten (cs : List Char) (n : Nat) : Prop :=
  ∃ front sign digits back, cs = front ++ (sign ++ digits) ++ back ∧
    (∀ c ∈ front, isBlank c = true) ∧ (∀ c ∈ back, isBlank c = true) ∧
    (sign = [] ∨ sign = ['+']) ∧ (digits ≠ [] ∧ ∀ d ∈ digits, d.isDigit = true) ∧
    placeValue digits = n

/-- A number of 64 bits is digits with at most a plus sign in front, whose value fits. -/
theorem word64?_eq_some_iff : word64? cs = some n ↔
    ∃ sign digits, cs = sign ++ digits ∧ (sign = [] ∨ sign = ['+']) ∧
      nat? digits = some n ∧ n ≤ max64 := by
  have hfits : ∀ digits, ((nat? digits).bind fun n => if n ≤ max64 then some n else none) = some n ↔
      nat? digits = some n ∧ n ≤ max64 := by
    intro digits
    cases nat? digits <;> grind
  unfold word64?
  dsimp only
  split
  · next rest =>
    rw [Option.bind_eq_bind, hfits]
    constructor
    · intro h
      exact ⟨['+'], rest, rfl, .inr rfl, h⟩
    · rintro ⟨sign, digits, hcs, rfl | rfl, h⟩
      · -- without a sign the plus would have to be a digit
        have hdigits := (nat?_eq_some_iff.1 h.1).2.1
        rw [List.nil_append] at hcs
        rw [← hcs] at hdigits
        exact absurd (hdigits '+' List.mem_cons_self) (by decide)
      · cases hcs
        exact h
  · next hplus =>
    rw [Option.bind_eq_bind, hfits]
    constructor
    · intro h
      exact ⟨[], cs, rfl, .inl rfl, h⟩
    · rintro ⟨sign, digits, hcs, rfl | rfl, h⟩
      · rwa [hcs]
      · exact absurd hcs (hplus digits)

/-- A number that fits 64 bits is read from all its written forms, and from no other text. -/
theorem word64?_trim_eq_some_iff :
    word64? (trim cs) = some n ↔ IsWritten cs n ∧ n ≤ max64 := by
  rw [word64?_eq_some_iff]
  constructor
  · rintro ⟨sign, digits, htrim, hsign, hread, hn⟩
    obtain ⟨hne, hdigits, hvalue⟩ := nat?_eq_some_iff.1 hread
    obtain ⟨front, back, hfront, hback, hcs⟩ := exists_blanks_around cs
    rw [htrim] at hcs
    exact ⟨⟨front, sign, digits, back, hcs, hfront, hback, hsign, ⟨hne, hdigits⟩, hvalue⟩, hn⟩
  · rintro ⟨⟨front, sign, digits, back, rfl, hfront, hback, hsign, ⟨hne, hdigits⟩, hvalue⟩, hn⟩
    have hvisible : ∀ c ∈ sign ++ digits, isBlank c = false := by
      intro c hc
      rcases List.mem_append.1 hc with hc | hc
      · rcases hsign with rfl | rfl
        · cases hc
        · rw [List.mem_singleton.1 hc]
          decide
      · exact isBlank_of_isDigit (hdigits c hc)
    have htrim : trim (front ++ (sign ++ digits) ++ back) = sign ++ digits := by
      rw [trim_append_right hback, trim_append_left hfront]
      apply trim_eq_self
      · exact stops_of_forall hvisible
      · apply stops_of_forall
        intro c hc
        exact hvisible c (List.mem_reverse.1 hc)
    exact ⟨sign, digits, htrim, hsign, nat?_eq_some_iff.2 ⟨hne, hdigits, hvalue⟩, hn⟩

end Numeral

namespace Threshold

variable {m n : Nat}

/-- A threshold is usable if it is at least one, and it is not changed. -/
theorem positive_eq_ok_iff : positive m = .ok n ↔ m = n ∧ 1 ≤ n := by
  unfold positive
  split
  · refine iff_of_false nofun ?_
    omega
  · rw [Except.ok.injEq]
    omega

theorem positive_eq_ok (hn : 1 ≤ n) : positive n = .ok n :=
  positive_eq_ok_iff.2 ⟨rfl, hn⟩

end Threshold

end CoursePlan
