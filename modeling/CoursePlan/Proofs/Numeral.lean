import CoursePlan.Numeral
import CoursePlan.Proofs.Text.Letters

/-!
# Reading numerals back

The digits of a number in a base of at most sixteen spell the number (`Numeral.ofDigits_toDigits`).
In decimal there are no leading zeros, and in hexadecimal they do no harm.  Any decimal digits,
leading zeros or not, are read as the number that they stand for by their places
(`Numeral.nat?_eq_some_iff`).
-/

namespace CoursePlan.Numeral

open Text

variable {base n : Nat} {cs ds : List Char}

/-! ## Any base -/

/-- A digit below 16 is read back from its character. -/
theorem hexDigit?_digitChar : ∀ {n : Nat}, n < 16 → hexDigit? n.digitChar = some n := by
  decide

/-- A digit at the end counts once, and those in front of it count for one place more. -/
theorem ofDigits_concat (base : Nat) (cs : List Char) (c : Char) :
    ofDigits base (cs ++ [c]) = base * ofDigits base cs + (hexDigit? c).getD 0 := by
  rw [ofDigits, List.foldl_append]
  rfl

/-- **The digits of a number spell the number.** -/
theorem ofDigits_toDigits (hlow : 1 < base) (hhigh : base ≤ 16) (n : Nat) :
    ofDigits base (Nat.toDigits base n) = n := by
  induction n using Nat.strongRecOn with
  | ind n ih =>
    -- all but the last digit are the digits of the quotient
    by_cases hn : n < base
    · rw [Nat.toDigits_of_lt_base hn]
      simp [ofDigits, hexDigit?_digitChar (n := n) (by omega)]
    · have hlast : n % base < 16 := Nat.lt_of_lt_of_le (Nat.mod_lt n (by omega)) hhigh
      have hless : n / base < n := Nat.div_lt_self (by omega) hlow
      rw [Nat.toDigits_of_base_le hlow (by omega), ofDigits_concat, ih _ hless,
        hexDigit?_digitChar hlast, Option.getD_some, Nat.div_add_mod]

/-! ## Decimal numerals -/

theorem digits_ne_nil (n : Nat) : digits n ≠ [] :=
  Nat.toDigits_ne_nil

theorem isDigit_of_mem_digits : ∀ c ∈ digits n, c.isDigit = true := by
  intro c hc
  exact Nat.isDigit_of_mem_toDigits (by decide) (by decide) hc

theorem exists_digits (n : Nat) : ∃ d ds, digits n = d :: ds ∧ d.isDigit = true := by
  obtain ⟨d, ds, h⟩ := List.exists_cons_of_ne_nil (digits_ne_nil n)
  have hmem : d ∈ digits n := by
    rw [h]
    exact List.mem_cons_self
  exact ⟨d, ds, h, isDigit_of_mem_digits d hmem⟩

@[simp] theorem nat?_digits (n : Nat) : nat? (digits n) = some n := by
  have hall : (digits n).all Char.isDigit = true := List.all_eq_true.2 isDigit_of_mem_digits
  rw [nat?, if_neg (by simp [hall, digits_ne_nil]), digits, Nat.ofDigitChars_ten_toDigits]

/-- Different numbers have different numerals. -/
theorem text_injective {m n : Nat} (h : text m = text n) : m = n := by
  have hdigits : digits m = digits n := String.ofList_injective h
  have hread := congrArg nat? hdigits
  rw [nat?_digits, nat?_digits] at hread
  exact Option.some.inj hread

theorem eq_zero_of_digitChar_eq : ∀ {n : Nat}, n < 10 → n.digitChar = '0' → n = 0 := by
  decide

/-- Only the numeral of zero starts with a zero. -/
theorem eq_zero_of_digits_eq (h : digits n = '0' :: ds) : n = 0 := by
  induction n using Nat.strongRecOn generalizing ds with
  | ind n ih =>
    by_cases hn : n < 10
    · rw [digits, Nat.toDigits_of_lt_base hn, List.cons.injEq] at h
      exact eq_zero_of_digitChar_eq hn h.1
    · rw [digits, Nat.toDigits_of_base_le (by decide) (by omega)] at h
      obtain ⟨d, init, hinit, -⟩ := exists_digits (n / 10)
      rw [← digits, hinit, List.cons_append, List.cons.injEq] at h
      have hzero : n / 10 = 0 := ih (n / 10) (by omega) (h.1 ▸ hinit)
      omega

/-- There are no leading zeros. -/
theorem tail_eq_nil_of_digits_eq (h : digits n = '0' :: ds) : ds = [] := by
  obtain rfl := eq_zero_of_digits_eq h
  exact ((List.cons.injEq ..).mp h).2.symm

/-! ## Places -/

/-- The number that decimal digits stand for: each counts for ten of the one in the place behind. -/
def placeValue : List Char → Nat
  | [] => 0
  | d :: ds => (d.toNat - '0'.toNat) * Nat.pow 10 ds.length + placeValue ds

/-- Reading digits from the left gives their value by places. -/
theorem ofDigitChars_eq_placeValue (ds : List Char) : Nat.ofDigitChars 10 ds 0 = placeValue ds := by
  induction ds with
  | nil => rfl
  | cons d ds ih =>
    rw [Nat.ofDigitChars_cons, Nat.ofDigitChars_eq_ofDigitChars_zero, ih, placeValue, Nat.mul_zero,
      Nat.zero_add, Nat.mul_comm]
    rfl

/-- Digits are read as the number that they stand for. -/
theorem nat?_eq_some_iff {ds : List Char} {n : Nat} :
    nat? ds = some n ↔ ds ≠ [] ∧ (∀ d ∈ ds, d.isDigit = true) ∧ placeValue ds = n := by
  rw [nat?, ofDigitChars_eq_placeValue]
  split
  · next h =>
    refine iff_of_false (by simp) ?_
    rintro ⟨hne, hdigits, -⟩
    simp [hne, List.all_eq_true.2 hdigits] at h
  · next h =>
    simp only [Bool.or_eq_true, not_or, Bool.not_eq_true, List.isEmpty_eq_false_iff,
      Bool.not_eq_false', List.all_eq_true] at h
    rw [Option.some.injEq]
    constructor
    · intro hn
      exact ⟨h.1, h.2, hn⟩
    · rintro ⟨-, -, hn⟩
      exact hn

/-! ## Hexadecimal numerals -/

theorem exists_of_mem_toDigits : ∀ c ∈ Nat.toDigits 16 n, ∃ d < 16, c = Nat.digitChar d := by
  induction n using Nat.strongRecOn with
  | ind n ih =>
    intro c hc
    by_cases hn : n < 16
    · rw [Nat.toDigits_of_lt_base hn, List.mem_singleton] at hc
      exact ⟨n, hn, hc⟩
    · rw [Nat.toDigits_of_base_le (by decide) (by omega), List.mem_append, List.mem_singleton] at hc
      rcases hc with hc | hc
      · exact ih (n / 16) (by omega) c hc
      · exact ⟨n % 16, Nat.mod_lt n (by decide), hc⟩

/-- Characters of digits are read as the number that they make. -/
theorem hex?_eq_some (h : ∀ c ∈ cs, ∃ d < 16, c = Nat.digitChar d) :
    hex? cs = some (ofDigits 16 cs) := by
  suffices hgo : ∀ n, cs.foldlM (fun n c => (hexDigit? c).map (16 * n + ·)) n =
      some (cs.foldl (fun n c => 16 * n + (hexDigit? c).getD 0) n) from hgo 0
  induction cs with
  | nil => exact fun _ => rfl
  | cons c cs ih =>
    intro n
    obtain ⟨d, hd, rfl⟩ := h c List.mem_cons_self
    rw [List.foldlM_cons, List.foldl_cons, hexDigit?_digitChar hd]
    exact ih (fun c hc => h c (List.mem_cons_of_mem _ hc)) _

/-- Zeros in front change no number. -/
theorem ofDigits_replicate_append (base k : Nat) (cs : List Char) :
    ofDigits base (List.replicate k '0' ++ cs) = ofDigits base cs := by
  induction k with
  | zero => rfl
  | succ k ih => exact ih

end CoursePlan.Numeral
