import CoursePlan.Proofs.Text.Pieces
import CoursePlan.Proofs.Text.Runs
import CoursePlan.Requisite.Parse

/-!
# The clauses of a text

Cutting a text at periods and semicolons, trimming the pieces and dropping the empty ones.  Clauses
of neighbouring texts do not mix (`Requirements.clauses_append_cons`), blanks around a text do not
matter (`Requirements.clauses_trim`), and clauses written one after another with `; ` between them
are found again (`Requirements.clauses_intercalate`).
-/

namespace CoursePlan

open scoped Text.Memberwise

namespace Requirements

/-! ## Clauses -/

/-- A blank ends no clause. -/
theorem endsClause_of_isBlank {c : Char} (h : Text.isBlank c = true) : endsClause c = false := by
  rw [Bool.eq_false_iff]
  intro hends
  rw [endsClause, Bool.or_eq_true, beq_iff_eq, beq_iff_eq] at hends
  rcases hends with rfl | rfl
  · exact absurd h (by decide)
  · exact absurd h (by decide)

/-- The clauses of two texts with a period or a semicolon between them. -/
theorem clauses_append_cons {x : Char} (hx : endsClause x = true) (a b : List Char) :
    clauses (a ++ x :: b) = clauses a ++ clauses b := by
  rw [clauses, Text.pieces_append_cons hx, List.map_append, List.filter_append]
  rfl

/-- Blanks in front of a text do not change its clauses. -/
theorem clauses_append_left {b : List Char} (hb : ∀ c ∈ b, Text.isBlank c = true)
    (cs : List Char) : clauses (b ++ cs) = clauses cs := by
  obtain ⟨first, rest, hcs, hbcs⟩ := Text.pieces_append_of_forall_left
    (fun c hc => endsClause_of_isBlank (hb c hc)) cs
  rw [clauses, clauses, hcs, hbcs, List.map_cons, List.map_cons, Text.trim_append_left hb]

theorem clauses_append_right {b : List Char} (hb : ∀ c ∈ b, Text.isBlank c = true)
    (cs : List Char) : clauses (cs ++ b) = clauses cs := by
  obtain ⟨init, last, hcs, hcsb⟩ := Text.pieces_append_of_forall_right
    (fun c hc => endsClause_of_isBlank (hb c hc)) cs
  rw [clauses, clauses, hcs, hcsb, List.map_append, List.map_append, List.map_singleton,
    List.map_singleton, Text.trim_append_right hb]

/-- **Blanks around a text do not matter to its clauses.** -/
theorem clauses_trim (cs : List Char) : clauses (Text.trim cs) = clauses cs := by
  obtain ⟨front, back, hfront, hback, hcs⟩ := Text.exists_blanks_around cs
  have h := congrArg clauses hcs
  rw [clauses_append_right hback, clauses_append_left hfront] at h
  exact h.symm

/-- What a clause looks like: it is not empty, has no blanks around it and does not end before its
end. -/
structure IsClause (cs : List Char) : Prop where
  ne_nil : cs ≠ []
  trimmed : Text.trim cs = cs
  unbroken : ∀ c ∈ cs, endsClause c = false

/-- Two clauses make one clause, whatever they are separated with, if it ends no clause. -/
theorem IsClause.join {front separator back : List Char} (hfront : IsClause front)
    (hseparator : ∀ c ∈ separator, endsClause c = false) (hback : IsClause back) :
    IsClause (front ++ (separator ++ back)) := by
  refine ⟨by simp [hfront.ne_nil], Text.trim_eq_self ?_ ?_, ?_⟩
  · exact Text.stops_append hfront.ne_nil (hfront.trimmed ▸ Text.stops_trim front)
  · rw [List.reverse_append, List.reverse_append, List.append_assoc]
    exact Text.stops_append (by simp [hback.ne_nil])
      (hback.trimmed ▸ Text.stops_reverse_trim back)
  · intro c hc
    rw [List.mem_append, List.mem_append] at hc
    rcases hc with hc | hc | hc
    · exact hfront.unbroken c hc
    · exact hseparator c hc
    · exact hback.unbroken c hc

/-- A clause that stands alone is the only one of its text. -/
theorem clauses_of_isClause {cs : List Char} (h : IsClause cs) : clauses cs = [cs] := by
  rw [clauses, Text.pieces_of_forall h.unbroken, List.map_singleton, h.trimmed]
  simp [h.ne_nil]

/-- **Clauses that are written one after another are found again.** -/
theorem clauses_intercalate {css : List (List Char)} (h : ∀ cs ∈ css, IsClause cs) :
    clauses ([';', ' '].intercalate css) = css := by
  induction css with
  | nil => rfl
  | cons cs css ih =>
    obtain ⟨hcs, hrest⟩ := List.forall_mem_cons.1 h
    cases css with
    | nil => rw [List.intercalate_singleton, clauses_of_isClause hcs]
    | cons cs' css =>
      have hblank : ∀ c ∈ [' '], Text.isBlank c = true := by decide
      rw [List.intercalate_cons_cons, List.append_assoc]
      show clauses (cs ++ ';' :: ([' '] ++ [';', ' '].intercalate (cs' :: css))) = _
      rw [clauses_append_cons (by decide), clauses_append_left hblank, ih hrest,
        clauses_of_isClause hcs]
      rfl

end Requirements

end CoursePlan
