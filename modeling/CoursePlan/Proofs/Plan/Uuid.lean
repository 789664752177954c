import CoursePlan.Plan.Uuid
import CoursePlan.Proofs.Numeral
import CoursePlan.Proofs.Text.Pieces
import Mathlib.Algebra.GroupWithZero.Nat

/-!
# Ids read back

An id in its usual form is 32 digits with hyphens between the groups.  None of the other forms
starts like that, and cutting at the hyphens gives the digits back (`Uuid.parse?_text`).
-/

namespace CoursePlan.Uuid

open Numeral Text

variable {id : BitVec 128} {cs : List Char}

/-! ## The digits of an id -/

theorem length_digits (id : BitVec 128) : (digits id).length = 32 := by
  have hlength : (Nat.toDigits 16 id.toNat).length ≤ 32 :=
    (Nat.length_toDigits_le_iff (by decide) (by decide)).2 id.isLt
  rw [digits, List.length_append, List.length_replicate]
  omega

theorem exists_of_mem_digits : ∀ c ∈ digits id, ∃ d < 16, c = Nat.digitChar d := by
  intro c hc
  rcases List.mem_append.1 hc with hc | hc
  · exact ⟨0, by decide, (List.mem_replicate.1 hc).2⟩
  · exact exists_of_mem_toDigits c hc

/-- An id is read back from its digits. -/
theorem ofDigits?_digits (id : BitVec 128) : ofDigits? (digits id) = some id := by
  have hvalue : ofDigits 16 (digits id) = id.toNat := by
    rw [digits, ofDigits_replicate_append, ofDigits_toDigits (by decide) (by decide)]
  rw [ofDigits?, if_pos (length_digits id), hex?_eq_some exists_of_mem_digits, hvalue]
  simp

/-! ## The groups of an id -/

/-- No hexadecimal digit could be taken for a hyphen, a brace or the `u` of a prefix. -/
theorem digitChar_ne : ∀ {d : Nat}, d < 16 →
    d.digitChar ≠ '-' ∧ d.digitChar ≠ '{' ∧ d.digitChar.toLower ≠ 'u' := by
  decide

theorem hyphen_of_mem_digits : ∀ c ∈ digits id, (c == '-') = false := by
  intro c hc
  obtain ⟨d, hd, rfl⟩ := exists_of_mem_digits c hc
  simp [(digitChar_ne hd).1]

/-- Behind the first group are as many characters as the other groups have. -/
theorem sum_eq_length_drop {n : Nat} {ns : List Nat} (h : (n :: ns).sum = cs.length) :
    ns.sum = (cs.drop n).length := by
  rw [List.sum_cons] at h
  rw [List.length_drop]
  omega

/-- Hyphens add one character for each group but the first. -/
theorem length_hyphenate : ∀ (n : Nat) (ns : List Nat) (cs : List Char),
    (n :: ns).sum = cs.length → (hyphenate (n :: ns) cs).length = cs.length + ns.length
  | _, [], _, _ => rfl
  | n, m :: ns, cs, h => by
    have hrest := length_hyphenate m ns (cs.drop n) (sum_eq_length_drop h)
    rw [List.sum_cons] at h
    simp [hyphenate, hrest]
    omega

/-- The pieces between the hyphens are the groups, and together they are the text. -/
theorem pieces_hyphenate : ∀ (n : Nat) (ns : List Nat) (cs : List Char),
    (n :: ns).sum = cs.length → (∀ c ∈ cs, (c == '-') = false) →
      (pieces (· == '-') (hyphenate (n :: ns) cs)).map List.length = n :: ns ∧
        (pieces (· == '-') (hyphenate (n :: ns) cs)).flatten = cs
  | n, [], cs, h, hcs => by
    rw [hyphenate, pieces_of_forall hcs]
    simpa using h.symm
  | n, m :: ns, cs, h, hcs => by
    -- the first group is a piece of its own, as a hyphen follows it
    have htake : ∀ c ∈ cs.take n, (c == '-') = false := fun c hc => hcs c (List.mem_of_mem_take hc)
    have hdrop : ∀ c ∈ cs.drop n, (c == '-') = false := fun c hc => hcs c (List.mem_of_mem_drop hc)
    obtain ⟨hlengths, hflatten⟩ := pieces_hyphenate m ns (cs.drop n) (sum_eq_length_drop h) hdrop
    have hn : n ≤ cs.length := by
      rw [List.sum_cons] at h
      omega
    have hpieces : pieces (· == '-') (hyphenate (n :: m :: ns) cs) =
        cs.take n :: pieces (· == '-') (hyphenate (m :: ns) (cs.drop n)) := by
      rw [hyphenate, pieces_append_cons rfl, pieces_of_forall htake]
      · rfl
      · simp
    rw [hpieces, List.map_cons, hlengths, List.flatten_cons, hflatten, List.length_take,
      Nat.min_eq_left hn, List.take_append_drop]
    exact ⟨rfl, rfl⟩

/-- An id is read back from its digits in groups. -/
theorem ofGroups?_chars (id : BitVec 128) : ofGroups? (chars id) = some id := by
  obtain ⟨hlengths, hflatten⟩ := pieces_hyphenate 8 [4, 4, 4, 12] (digits id)
    (length_digits id).symm hyphen_of_mem_digits
  rw [ofGroups?, chars, groupLengths, if_pos hlengths, hflatten, ofDigits?_digits]

/-! ## The form of an id -/

theorem exists_chars (id : BitVec 128) :
    ∃ d < 16, ∃ rest, chars id = Nat.digitChar d :: rest := by
  obtain ⟨c, rest, hdigits⟩ := List.exists_cons_of_length_eq_add_one (length_digits id)
  obtain ⟨d, hd, rfl⟩ := exists_of_mem_digits c (hdigits ▸ List.mem_cons_self)
  exact ⟨d, hd, _, by rw [chars, hdigits]; rfl⟩

/-- **An id is read back from its usual form.** -/
theorem parse?_text (id : BitVec 128) : parse? (text id) = some id := by
  obtain ⟨d, hd, rest, hchars⟩ := exists_chars id
  obtain ⟨-, hbrace, hurn⟩ := digitChar_ne hd
  -- it is neither in braces nor without hyphens nor behind the name of the space
  have hlength : (chars id).length ≠ 32 := by
    rw [chars, groupLengths, length_hyphenate 8 [4, 4, 4, 12] _ (length_digits id).symm,
      length_digits]
    decide
  have hspace : (chars id |>.take 9).map Char.toLower ≠ spaceName := by
    rw [hchars, List.take_succ_cons, List.map_cons, spaceName, Ne, List.cons.injEq]
    exact fun h => hurn h.1
  rw [parse?, text, String.toList_ofList]
  unfold ofChars?
  split
  · next h =>
    rw [hchars] at h
    exact absurd (List.cons.inj h).1 hbrace
  · rw [if_neg hlength, if_neg hspace, ofGroups?_chars]

end CoursePlan.Uuid
