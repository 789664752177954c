/-!
# Pieces of a text

Cutting a text at separators.  There is always one piece more than there are separators, so that a
text without separators is one piece and two neighbouring separators have an empty piece between
them.
-/

namespace CoursePlan.Text

/-- The pieces of a text between the characters that are separators. -/
def pieces (isSeparator : Char → Bool) : List Char → List (List Char)
  | [] => [[]]
  | c :: cs =>
    if isSeparator c then [] :: pieces isSeparator cs
    else match pieces isSeparator cs with
      | [] => [[c]]
      | p :: ps => (c :: p) :: ps

theorem pieces_ne_nil (isSeparator : Char → Bool) (cs : List Char) :
    pieces isSeparator cs ≠ [] := by
  cases cs with
  | nil => simp [pieces]
  | cons c cs =>
    rw [pieces]
    split
    · simp
    · split <;> simp

/-- Pieces are free of separators. -/
theorem isSeparator_of_mem_pieces (isSeparator : Char → Bool) :
    ∀ {cs p : List Char}, p ∈ pieces isSeparator cs → ∀ c ∈ p, isSeparator c = false
  | [], p, hp, c, hc => by
    rw [pieces, List.mem_singleton] at hp
    subst hp
    cases hc
  | d :: cs, p, hp, c, hc => by
    rw [pieces] at hp
    split at hp
    · rcases List.mem_cons.1 hp with rfl | hp
      · cases hc
      · exact isSeparator_of_mem_pieces isSeparator hp c hc
    · next hd =>
      split at hp
      · next h => exact absurd h (pieces_ne_nil isSeparator cs)
      · next q qs hq =>
        rcases List.mem_cons.1 hp with rfl | hp
        · rcases List.mem_cons.1 hc with rfl | hc
          · simpa using hd
          · exact isSeparator_of_mem_pieces isSeparator (hq ▸ List.mem_cons_self) c hc
        · exact isSeparator_of_mem_pieces isSeparator (hq ▸ List.mem_cons_of_mem q hp) c hc

end CoursePlan.Text
