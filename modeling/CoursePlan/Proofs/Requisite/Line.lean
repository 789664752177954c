import CoursePlan.Proofs.CourseCode.Listed
import CoursePlan.Proofs.Requisite.Clauses

/-!
# Clauses of one line

The body of a marker reaches to the end of its line, so what can be said about a marked clause is
said for a body that is one line (`Clause.marked?_line`).  Lines can be joined (`IsLine.join`), and
codes and lists of codes are lines.
-/

namespace CoursePlan

open Text
open scoped Text.Memberwise

/-- A character that ends a clause or a line. -/
def breaksLine (c : Char) : Bool :=
  Requirements.endsClause c || c == '\n'

/-- A clause that is one line: it is not empty, has no blanks around it, and does not end before its
end. -/
structure IsLine (cs : List Char) : Prop where
  ne_nil : cs ≠ []
  trimmed : trim cs = cs
  unbroken : ∀ c ∈ cs, breaksLine c = false

theorem isLine_iff {cs : List Char} :
    IsLine cs ↔ cs ≠ [] ∧ trim cs = cs ∧ ∀ c ∈ cs, breaksLine c = false :=
  ⟨fun h => ⟨h.ne_nil, h.trimmed, h.unbroken⟩, fun ⟨hne, htrim, hcs⟩ => ⟨hne, htrim, hcs⟩⟩

instance (cs : List Char) : Decidable (IsLine cs) :=
  decidable_of_iff _ isLine_iff.symm

/-! ## Lines are joined -/

namespace IsLine

variable {front cs back separator : List Char}

/-- A line is a clause. -/
theorem isClause (h : IsLine cs) : Requirements.IsClause cs := by
  refine ⟨h.ne_nil, h.trimmed, ?_⟩
  intro c hc
  exact (Bool.or_eq_false_iff.1 (h.unbroken c hc)).1

theorem oneLine (h : IsLine cs) : '\n' ∉ cs := by
  intro hmem
  exact absurd (h.unbroken '\n' hmem) (by decide)

theorem stops (h : IsLine cs) : Stops isBlank cs :=
  h.trimmed ▸ stops_trim cs

/-- Two lines make one line, whatever they are separated with. -/
theorem join (hfront : IsLine front) (hseparator : ∀ c ∈ separator, breaksLine c = false)
    (hback : IsLine back) : IsLine (front ++ (separator ++ back)) := by
  have hclause := hfront.isClause.join
    (fun c hc => (Bool.or_eq_false_iff.1 (hseparator c hc)).1) hback.isClause
  refine ⟨hclause.ne_nil, hclause.trimmed, ?_⟩
  intro c hc
  rw [List.mem_append, List.mem_append] at hc
  rcases hc with hc | hc | hc
  · exact hfront.unbroken c hc
  · exact hseparator c hc
  · exact hback.unbroken c hc

/-- Capital letters and digits are a line. -/
theorem of_forall (hne : cs ≠ []) (hcs : ∀ c ∈ cs, c.isDigit = true ∨ c.isUpper = true) :
    IsLine cs := by
  have hchar : ∀ c ∈ cs, isBlank c = false ∧ breaksLine c = false := by
    intro c hc
    rcases hcs c hc with hc | hc
    · exact forall_isDigit (P := fun c => isBlank c = false ∧ breaksLine c = false) (by decide) hc
    · exact forall_isUpper (P := fun c => isBlank c = false ∧ breaksLine c = false) (by decide) hc
  refine ⟨hne, trim_eq_self (stops_of_forall ?_) (stops_of_forall ?_), ?_⟩
  · intro c hc
    exact (hchar c hc).1
  · intro c hc
    exact (hchar c (List.mem_reverse.1 hc)).1
  · intro c hc
    exact (hchar c hc).2

theorem chars (c : CourseCode) : IsLine c.chars := by
  have hsubject : IsLine c.subject := by
    refine of_forall c.isWord_subject.1 ?_
    intro x hx
    exact .inr (c.isUpper_of_mem_subject x hx)
  have hnumber : IsLine c.number :=
    of_forall c.isWord_number.1 c.isDigit_or_isUpper_of_mem_number
  have hspace : ∀ x ∈ [' '], breaksLine x = false := by decide
  exact hsubject.join hspace hnumber

/-- A list of codes is a line if its separator breaks none. -/
theorem listed (hseparator : ∀ c ∈ separator, breaksLine c = false) {codes : List CourseCode}
    (hne : codes ≠ []) : IsLine (CourseCode.listed separator codes) := by
  induction codes with
  | nil => exact absurd rfl hne
  | cons c codes ih =>
    cases codes with
    | nil =>
      rw [CourseCode.listed_singleton]
      exact chars c
    | cons d codes =>
      rw [CourseCode.listed_cons_cons]
      exact (chars c).join hseparator (ih (by simp))

end IsLine

/-! ## The body of a marked clause -/

namespace Clause

variable {body : List Char}

theorem firstLine_eq_self {cs : List Char} (h : '\n' ∉ cs) : firstLine cs = cs := by
  have hall : ∀ c ∈ cs, decide (c ≠ '\n') = true := by
    intro c hc
    apply decide_eq_true
    rintro rfl
    exact h hc
  have htake := takeWhile_run hall stops_nil
  rwa [List.append_nil] at htake

theorem trimStart_line (h : IsLine body) : trimStart (' ' :: body) = body := by
  rw [trimStart, List.dropWhile_cons, if_pos (by decide), dropWhile_of_stops h.stops]

/-- Behind a colon and blanks, the first line is the body. -/
theorem body?_of_blanks {gap : List Char} (hgap : ∀ c ∈ gap, isBlank c = true) (hne : body ≠ [])
    (hbody : Stops isBlank body) : body? (':' :: (gap ++ body)) = some (firstLine body) := by
  rw [body?, dropColon, trimStart, dropWhile_run hgap hbody]
  cases body with
  | nil => exact absurd rfl hne
  | cons c cs => rfl

/-- **A clause that starts with a marker is marked with it.** -/
theorem marked?_leading {marker word rest : List Char} (hne : word ≠ [])
    (hword : word.map foldCase = marker) (hbody : body? rest = some body) :
    marked? marker (word ++ rest) = some body := by
  refine findAtWordStart_of_read (by simp [hne]) ?_
  have hdrop : dropWord? marker (word ++ rest) = some rest := dropWord?_eq_some.2 ⟨word, rfl, hword⟩
  rw [hdrop]
  exact hbody

/-- A line behind a marker is the body. -/
theorem marked?_line {marker : List Char} (word : List Char) (hne : word ≠ [])
    (hword : word.map foldCase = marker) (h : IsLine body) :
    marked? marker (word ++ ([':', ' '] ++ body)) = some body := by
  have hspace : ∀ c ∈ [' '], isBlank c = true := by decide
  have hbody := body?_of_blanks hspace h.ne_nil h.stops
  rw [firstLine_eq_self h.oneLine] at hbody
  exact marked?_leading hne hword hbody

end Clause

end CoursePlan
