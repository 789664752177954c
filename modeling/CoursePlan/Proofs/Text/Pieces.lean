import CoursePlan.Text.Pieces

/-!
# Pieces of joined texts

A text between separators is one of the pieces, and what has no separators is part of the piece that
it touches.
-/

namespace CoursePlan.Text

variable {isSeparator : Char → Bool}

/-- **A separator keeps apart what stands before it and what stands after it.** -/
theorem pieces_append_cons {x : Char} (hx : isSeparator x = true) (a b : List Char) :
    pieces isSeparator (a ++ x :: b) = pieces isSeparator a ++ pieces isSeparator b := by
  induction a with
  | nil => simp [pieces, hx]
  | cons c a ih =>
    rw [List.cons_append, pieces, pieces, ih]
    split
    · rfl
    -- the character goes to the first piece, which is one of the pieces of the front
    · cases h : pieces isSeparator a with
      | nil => exact absurd h (pieces_ne_nil isSeparator a)
      | cons p ps => rfl

/-- Text without separators goes on with the first piece of what follows it. -/
theorem pieces_append_of_forall_left {a : List Char} (ha : ∀ c ∈ a, isSeparator c = false)
    (b : List Char) : ∃ first rest, pieces isSeparator b = first :: rest ∧
      pieces isSeparator (a ++ b) = (a ++ first) :: rest := by
  induction a with
  | nil =>
    obtain ⟨first, rest, h⟩ := List.exists_cons_of_ne_nil (pieces_ne_nil isSeparator b)
    exact ⟨first, rest, h, h⟩
  | cons c a ih =>
    obtain ⟨hc, ha⟩ := List.forall_mem_cons.1 ha
    obtain ⟨first, rest, hb, hab⟩ := ih ha
    refine ⟨first, rest, hb, ?_⟩
    rw [List.cons_append, pieces, if_neg (by simp [hc]), hab]
    rfl

/-- Text without separators goes on with the last piece of what stands before it. -/
theorem pieces_append_of_forall_right {b : List Char} (hb : ∀ c ∈ b, isSeparator c = false)
    (a : List Char) : ∃ init last, pieces isSeparator a = init ++ [last] ∧
      pieces isSeparator (a ++ b) = init ++ [last ++ b] := by
  induction a with
  | nil =>
    obtain ⟨first, rest, hnil, h⟩ := pieces_append_of_forall_left hb []
    rw [pieces] at hnil
    cases hnil
    exact ⟨[], [], rfl, by simpa using h⟩
  | cons c a ih =>
    obtain ⟨init, last, ha, hab⟩ := ih
    rw [List.cons_append, pieces, pieces, ha, hab]
    split
    · exact ⟨[] :: init, last, rfl, rfl⟩
    · cases init with
      | nil => exact ⟨[], c :: last, rfl, rfl⟩
      | cons p ps => exact ⟨(c :: p) :: ps, last, rfl, rfl⟩

/-- Text without separators is one piece. -/
theorem pieces_of_forall {cs : List Char} (h : ∀ c ∈ cs, isSeparator c = false) :
    pieces isSeparator cs = [cs] := by
  obtain ⟨first, rest, hnil, hcs⟩ := pieces_append_of_forall_left h []
  rw [pieces] at hnil
  cases hnil
  simpa using hcs

end CoursePlan.Text
