import CoursePlan.Proofs.Distinct
import CoursePlan.Proofs.Numeral
import CoursePlan.Proofs.Plan.Holdings
import CoursePlan.Proofs.Review.Committing

/-!
# How many overloads a review shows

A sweep comes upon one overload for each course that a term holds past the limit.  What it says is
the code of the course and its number in the term, but not which term that is: where two terms are
over the limit and hold the same code under the same number, the two findings are repeats and the
review shows one.  The *surplus* of a plan lists codes and numbers as the sweep comes upon them
(`Plan.surplus`), and the overloads of a review are its first occurrences
(`Plan.ofKind_overload_review`).
-/

namespace CoursePlan

/-- The finding that a course with this code comes under this number into its term. -/
def overloadFinding (threshold : Nat) (q : CourseCode × Nat) : Finding :=
  .new .overload q.1 ("Term overload: " ++ Numeral.text q.2 ++ " courses")
    ("This term has more than " ++ Numeral.text threshold ++
      " courses. Consider redistributing courses to maintain balance.")

/-- The codes that a term holds past the limit, in display order, with their numbers in the term,
counted from 1. -/
def Term.surplus (t : Term) (threshold : Nat) : List (CourseCode × Nat) :=
  (((Plan.displayed t).zipIdx 1).drop threshold).map fun q => (q.1.course.code, q.2)

namespace Plan

/-- The codes that the terms hold past the limit, term after term, with their numbers. -/
def surplus (p : Plan) (threshold : Nat) : List (CourseCode × Nat) :=
  p.terms.flatMap fun t => t.surplus threshold

/-- By how many courses the terms are over the limit, all terms taken together. -/
def excess (p : Plan) (threshold : Nat) : Nat :=
  p.terms.foldr (fun t n => (t.placements.length - threshold) + n) 0

end Plan

variable {p : Plan} {threshold : Nat} {t : Term}

/-! ## The surplus -/

namespace Term

/-- A term has as many surplus placements as it has placements past the threshold. -/
theorem length_surplus : (t.surplus threshold).length = t.placements.length - threshold := by
  simp [surplus, Plan.displayed]

/-- The surplus of a term are its displayed placements whose numbers are past the threshold. -/
theorem mem_surplus {code : CourseCode} {k : Nat} :
    (code, k) ∈ t.surplus threshold ↔
      threshold < k ∧ ((Plan.displayed t)[k - 1]?).map (·.course.code) = some code := by
  rw [surplus, List.mem_map, Option.map_eq_some_iff]
  constructor
  · rintro ⟨⟨q, n⟩, hmem, heq⟩
    cases heq
    obtain ⟨i, hi⟩ := List.mem_iff_getElem?.1 hmem
    rw [List.getElem?_drop, List.getElem?_zipIdx] at hi
    obtain ⟨q, hq, heq⟩ := Option.map_eq_some_iff.1 hi
    cases heq
    have hindex : 1 + (threshold + i) - 1 = threshold + i := by omega
    exact ⟨by omega, q, hindex.symm ▸ hq, rfl⟩
  · rintro ⟨hk, q, hq, rfl⟩
    refine ⟨(q, k), List.mem_iff_getElem?.2 ⟨k - 1 - threshold, ?_⟩, rfl⟩
    have hindex : threshold + (k - 1 - threshold) = k - 1 := by omega
    have hnumber : 1 + (k - 1) = k := by omega
    rw [List.getElem?_drop, List.getElem?_zipIdx, hindex, hq, Option.map_some, hnumber]

/-- Where the positions are in order already, the number of a course is its place in the list. -/
theorem surplus_of_pairwise (h : t.placements.Pairwise fun a b => a.position ≤ b.position) :
    t.surplus threshold =
      ((t.placements.zipIdx 1).drop threshold).map fun q => (q.1.course.code, q.2) := by
  have hdisplayed : Plan.displayed t = t.placements :=
    List.mergeSort_of_pairwise (h.imp fun hle => decide_eq_true hle)
  rw [surplus, hdisplayed]

/-- Within one term the numbers differ. -/
theorem nodup_surplus : (t.surplus threshold).Nodup := by
  have hnumbers : ((t.surplus threshold).map Prod.snd).Nodup := by
    rw [surplus, List.map_map]
    show ((((Plan.displayed t).zipIdx 1).drop threshold).map Prod.snd).Nodup
    rw [List.map_drop, List.zipIdx_map_snd]
    exact (List.drop_sublist _ _).nodup List.nodup_range'
  exact .of_map Prod.snd hnumbers

end Term

namespace Plan

/-- A plan has as many surplus placements as its excess says. -/
theorem length_surplus : (p.surplus threshold).length = p.excess threshold := by
  unfold surplus excess
  induction p.terms with
  | nil => rfl
  | cons t ts ih =>
    rw [List.flatMap_cons, List.length_append, Term.length_surplus, ih, List.foldr_cons]

/-- Codes with their numbers are repeated in different terms only. -/
theorem nodup_surplus_iff : (p.surplus threshold).Nodup ↔
    p.terms.Pairwise fun t u => (t.surplus threshold).Disjoint (u.surplus threshold) := by
  rw [surplus, List.nodup_flatMap]
  exact and_iff_right fun t _ => t.nodup_surplus

/-! ## The overloads of a sweep -/

/-- Counting from `n` on, the overloads are the placements behind the threshold. -/
theorem flatMap_overloads (placements : List Placement) (n : Nat) :
    ((placements.zipIdx n).flatMap fun q => overloads threshold (q.2 + 1) q.1.course) =
      (((placements.zipIdx (n + 1)).drop (threshold - n)).map fun q =>
        (q.1.course.code, q.2)).map (overloadFinding threshold) := by
  induction placements generalizing n with
  | nil => simp
  | cons q placements ih =>
    rw [List.zipIdx_cons, List.zipIdx_cons, List.flatMap_cons, ih, overloads]
    by_cases hn : threshold < n + 1
    · have hdrop : threshold - n = 0 := by omega
      have hdrop' : threshold - (n + 1) = 0 := by omega
      rw [if_pos hn, hdrop, hdrop']
      rfl
    · have hdrop : threshold - n = threshold - (n + 1) + 1 := by omega
      rw [if_neg hn, hdrop, List.drop_succ_cons, List.nil_append]

/-- The overloads that are found in a term are its surplus placements. -/
theorem filter_overload_checkTerm :
    (p.checkTerm threshold t).filter (fun f => decide (f.kind = .overload)) =
      (t.surplus threshold).map (overloadFinding threshold) := by
  have hcourse : ∀ q : Placement × Nat,
      (p.check threshold t.index q.1.course (some q.2)).filter
        (fun f => decide (f.kind = .overload)) = overloads threshold (q.2 + 1) q.1.course := by
    intro q
    rw [filter_check]
    rfl
  rw [checkTerm, List.filter_flatMap]
  simp only [hcourse]
  exact flatMap_overloads (displayed t) 0

/-- The overloads that the sweep finds are the surplus placements of the plan. -/
theorem filter_overload_sweep :
    (p.sweep threshold).filter (fun f => decide (f.kind = .overload)) =
      (p.surplus threshold).map (overloadFinding threshold) := by
  rw [sweep, surplus, List.filter_flatMap, List.map_flatMap]
  simp only [filter_overload_checkTerm]

end Plan

/-! ## The overloads of a review -/

/-- Where the findings of one kind are all in one list, it does not matter whether repeats are
taken out before or after they are chosen. -/
theorem Report.ofKind_dedup {r : Report} {kind : FindingKind}
    (h : ∀ f ∈ r.errors, f.kind ≠ kind) :
    r.dedup.ofKind kind = Finding.dedup (r.ofKind kind) := by
  have hkey : ∀ f g : Finding, f.key = g.key →
      decide (f.kind = kind) = decide (g.kind = kind) := by
    intro f g hkey
    have hkind : f.kind = g.kind := congrArg (fun k => k.2.1) hkey
    rw [hkind]
  have herrors : r.errors.filter (fun f => decide (f.kind = kind)) = [] := by
    simpa [List.filter_eq_nil_iff] using h
  rw [ofKind, ofKind, findings, findings, List.filter_append, List.filter_append, herrors, dedup,
    Finding.dedup, Finding.dedup, Finding.dedup, ← firstBy_filter _ fun f _ g _ => hkey f g,
    ← firstBy_filter _ fun f _ g _ => hkey f g, herrors]
  rfl

/-- The key of an overload tells its code and its number. -/
theorem key_overloadFinding_inj {q q' : CourseCode × Nat} :
    (overloadFinding threshold q).key = (overloadFinding threshold q').key ↔ q = q' := by
  constructor
  · intro hkey
    simp only [overloadFinding, Finding.key_new, Prod.mk.injEq, String.append_left_inj,
      String.append_right_inj] at hkey
    exact Prod.ext hkey.1 (Numeral.text_injective hkey.2.2)
  · rintro rfl
    rfl

namespace Plan

/-- No overload makes a plan invalid. -/
theorem kind_ne_overload_of_mem_errors {f : Finding}
    (h : f ∈ (Report.ofFindings (p.sweep threshold)).errors) : f.kind ≠ .overload := by
  obtain ⟨hsweep, herror⟩ := List.mem_filter.1 h
  intro hkind
  rw [isError_of_mem_sweep hsweep, hkind] at herror
  cases herror

/-- The overloads of a review are the surplus placements without repeats. -/
theorem ofKind_overload_review : (p.review threshold).ofKind .overload =
    (firstOccurrences (p.surplus threshold)).map (overloadFinding threshold) := by
  have hrepeats : firstBy (Finding.key ∘ overloadFinding threshold) (p.surplus threshold) =
      firstOccurrences (p.surplus threshold) :=
    firstBy_congr (fun _ _ => key_overloadFinding_inj) _
  rw [review_eq, Report.ofKind_dedup fun _ => kind_ne_overload_of_mem_errors,
    Report.ofKind_ofFindings (fun kind => decide (kind = .prerequisite ∨ kind = .antirequisite))
      fun _ hf => isError_of_mem_sweep hf,
    filter_overload_sweep, Finding.dedup, firstBy_map, hrepeats]

/-- **A review shows one overload for each code and number past the limit.**  The overloads are all
warnings.  There are at most as many as there are courses past the limits of their terms, and as
many exactly when no two terms hold the same code under the same number past the limit. -/
theorem overloads_review (p : Plan) (threshold : Nat) :
    (p.review threshold).ofKind .overload =
        (firstOccurrences (p.surplus threshold)).map (overloadFinding threshold) ∧
      (∀ code k, (code, k) ∈ p.surplus threshold ↔ ∃ t ∈ p.terms,
        threshold < k ∧ ((displayed t)[k - 1]?).map (·.course.code) = some code) ∧
      (∀ f ∈ (p.review threshold).errors, f.kind ≠ .overload) ∧
      ((p.review threshold).ofKind .overload).length ≤ p.excess threshold ∧
      (((p.review threshold).ofKind .overload).length = p.excess threshold ↔
        p.terms.Pairwise fun t u =>
          (t.surplus threshold).Disjoint (u.surplus threshold)) := by
  have hlength : ((p.review threshold).ofKind .overload).length =
      (firstOccurrences (p.surplus threshold)).length := by
    rw [ofKind_overload_review, List.length_map]
  refine ⟨ofKind_overload_review, ?_, ?_, ?_, ?_⟩
  · intro code k
    simp only [surplus, List.mem_flatMap, Term.mem_surplus]
  · intro f hf
    exact kind_ne_overload_of_mem_errors ((firstBy_sublist _ _).subset hf)
  · rw [hlength, ← length_surplus]
    exact length_firstOccurrences_le _
  · rw [hlength, ← length_surplus, length_firstOccurrences_eq_iff, nodup_surplus_iff]

/-- `CHEM 120`, which has no requisites. -/
def freeCourse : Course :=
  Course.new (.drawn 2) ⟨['C', 'H', 'E', 'M'], ['1', '2', '0'], rfl, rfl⟩

/-- The plan with `CHEM 120` and then `CS 241` both in 1A and in 1B. -/
def twicePlan : Plan :=
  (Plan.new "sample").placingAll
    [(0, freeCourse), (0, excludedCourse), (1, freeCourse), (1, excludedCourse)]

/-- **An overload is shown once for two terms** that hold the same code under the same number past
the limit, so that there can be fewer overloads than courses past the limit. -/
theorem not_forall_length_overloads_eq_excess :
    ¬∀ (p : Plan) (threshold : Nat), 1 ≤ threshold →
      ((p.review threshold).ofKind .overload).length = p.excess threshold := by
  intro h
  have hlength := h twicePlan 1 (by decide)
  have hordered : ∀ t ∈ twicePlan.terms,
      t.placements.Pairwise fun a b => a.position ≤ b.position := by decide +kernel
  have hsurplus : twicePlan.surplus 1 = twicePlan.terms.flatMap fun t =>
      ((t.placements.zipIdx 1).drop 1).map fun q => (q.1.course.code, q.2) :=
    List.flatMap_congr fun t ht => Term.surplus_of_pairwise (hordered t ht)
  rw [ofKind_overload_review, List.length_map, hsurplus] at hlength
  exact absurd hlength (by decide +kernel)

end Plan

end CoursePlan
