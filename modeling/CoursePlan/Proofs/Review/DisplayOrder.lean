import CoursePlan.Proofs.Review.Overload

/-!
# Overloads in display order

Which courses of a term are over the limit depends on the order of display: placements are displayed
by position, and those that share a position in the order in which they were made.  The *rank* of a
placement is how many others are displayed before it (`Term.rank`).  It is counted by comparing the
placement with all others and takes no sorting, but sorting leads to the same order: the placement
of rank `r` is displayed at place `r` (`Plan.getElem?_displayed_iff`).

A review reports a placement as overload when its number, which is one more than its rank, is past
the limit; the review of an addition counts the whole term instead
(`Plan.overloads_in_display_order`).
-/

namespace CoursePlan

/-! ## Counting in a sorted list -/

/-- Where every member of a list comes before all those behind it, the number of those that come
before a member is its place. -/
theorem countP_of_pairwise {α : Type} {before : α → α → Prop} [DecidableRel before]
    (asymm : ∀ {a b}, before a b → ¬before b a) {l : List α} (h : l.Pairwise before) {a : α}
    {r : Nat} (hr : l[r]? = some a) : l.countP (fun b => decide (before b a)) = r := by
  induction l generalizing r with
  | nil => cases hr
  | cons b l ih =>
    obtain ⟨hb, hl⟩ := List.pairwise_cons.1 h
    cases r with
    | zero =>
      obtain rfl : b = a := Option.some.inj hr
      rw [List.countP_eq_zero]
      intro c hc
      rw [decide_eq_true_eq]
      rcases List.mem_cons.1 hc with rfl | hc
      · exact fun hself => asymm hself hself
      · exact asymm (hb c hc)
    | succ r =>
      have hr : l[r]? = some a := hr
      have hba : before b a := hb a (List.mem_of_getElem? hr)
      rw [List.countP_cons, ih hl hr, if_pos (decide_eq_true hba)]

/-! ## Ranks -/

/-- Of two placements of a term with their places in its list, the first is displayed before the
second: it has a smaller position, or the same position and a place further to the front. -/
def Placement.Precedes (a b : Placement × Nat) : Prop :=
  a.1.position < b.1.position ∨ (a.1.position = b.1.position ∧ a.2 < b.2)

namespace Placement

variable {a b : Placement × Nat}

instance : DecidableRel Precedes := fun a b =>
  inferInstanceAs (Decidable
    (a.1.position < b.1.position ∨ (a.1.position = b.1.position ∧ a.2 < b.2)))

theorem Precedes.asymm (h : Precedes a b) : ¬Precedes b a := by
  unfold Precedes at h ⊢
  simp only [UInt32.lt_iff_toNat_lt, ← UInt32.toNat_inj] at h ⊢
  omega

/-- Sorting by position leaves in order what shares a position. -/
theorem precedes_of_zipIdxLE (h : List.zipIdxLE le a b = true) (hne : a.2 ≠ b.2) :
    Precedes a b := by
  unfold Precedes
  simp only [List.zipIdxLE, le, decide_eq_true_eq, UInt32.le_iff_toNat_le] at h
  simp only [UInt32.lt_iff_toNat_lt, ← UInt32.toNat_inj]
  split at h
  · split at h
    · rw [decide_eq_true_eq] at h
      omega
    · omega
  · cases h

end Placement

/-- How many placements of the term are displayed before one of them, which is given with its place
in the list. -/
def Term.rank (t : Term) (a : Placement × Nat) : Nat :=
  t.placements.zipIdx.countP fun b => decide (Placement.Precedes b a)

/-- Of three placements at positions 1, 0 and 0, the first is displayed last. -/
example (c : Course) : (Term.mk 0 "1A" [⟨c, 1⟩, ⟨c, 0⟩, ⟨c, 0⟩]).rank (⟨c, 1⟩, 0) = 2 := rfl

namespace Term

variable {t : Term} {q : Placement} {r : Nat}

/-- The placements of the term with their places in the list, in display order. -/
def displayedPlaces (t : Term) : List (Placement × Nat) :=
  t.placements.zipIdx.mergeSort (List.zipIdxLE Placement.le)

/-- Without their places in the list, these are the placements as they are displayed. -/
theorem map_fst_displayedPlaces (t : Term) :
    t.displayedPlaces.map Prod.fst = Plan.displayed t :=
  List.mergeSort_zipIdx

/-- Display order neither loses nor adds a placement. -/
theorem displayedPlaces_perm (t : Term) : t.displayedPlaces.Perm t.placements.zipIdx :=
  List.mergeSort_perm _ _

/-- Every placement is displayed before those behind it. -/
theorem pairwise_displayedPlaces (t : Term) : t.displayedPlaces.Pairwise Placement.Precedes := by
  have hsorted : t.displayedPlaces.Pairwise fun a b => List.zipIdxLE Placement.le a b = true :=
    List.pairwise_mergeSort (List.zipIdxLE_trans Placement.le_trans)
      (List.zipIdxLE_total Placement.le_total) _
  have hplaces : (t.displayedPlaces.map Prod.snd).Nodup := by
    rw [(t.displayedPlaces_perm.map Prod.snd).nodup_iff, List.zipIdx_map_snd]
    exact List.nodup_range'
  exact (hsorted.and (List.pairwise_map.1 hplaces)).imp fun h =>
    Placement.precedes_of_zipIdxLE h.1 h.2

/-- The placement at a place of the display has that rank. -/
theorem rank_of_displayedPlaces {a : Placement × Nat} (h : t.displayedPlaces[r]? = some a) :
    t.rank a = r := by
  rw [rank, ← t.displayedPlaces_perm.countP_eq]
  exact countP_of_pairwise Placement.Precedes.asymm t.pairwise_displayedPlaces h

end Term

namespace Plan

/-- **The placement of a rank is displayed at the place of that number.** -/
theorem getElem?_displayed_iff {t : Term} {q : Placement} {r : Nat} :
    (displayed t)[r]? = some q ↔ ∃ i, (q, i) ∈ t.placements.zipIdx ∧ t.rank (q, i) = r := by
  rw [← t.map_fst_displayedPlaces, List.getElem?_map, Option.map_eq_some_iff]
  constructor
  · rintro ⟨⟨q, i⟩, hget, rfl⟩
    exact ⟨i, t.displayedPlaces_perm.mem_iff.1 (List.mem_of_getElem? hget),
      Term.rank_of_displayedPlaces hget⟩
  · rintro ⟨i, hmem, rfl⟩
    obtain ⟨r, hget⟩ := List.mem_iff_getElem?.1 (t.displayedPlaces_perm.mem_iff.2 hmem)
    exact ⟨(q, i), by rw [Term.rank_of_displayedPlaces hget, hget], rfl⟩

end Plan

/-! ## Overloads and ranks -/

variable {p : Plan} {threshold : Nat}

/-- A placement is surplus exactly when its number, one more than its rank, is past the limit. -/
theorem Term.mem_surplus_iff_rank {t : Term} {code : CourseCode} {k : Nat} :
    (code, k) ∈ t.surplus threshold ↔ threshold < k ∧ ∃ q i, (q, i) ∈ t.placements.zipIdx ∧
      q.course.code = code ∧ t.rank (q, i) + 1 = k := by
  rw [mem_surplus, Option.map_eq_some_iff]
  refine and_congr_right fun hk => ?_
  constructor
  · rintro ⟨q, hget, hcode⟩
    obtain ⟨i, hmem, hrank⟩ := Plan.getElem?_displayed_iff.1 hget
    exact ⟨q, i, hmem, hcode, by omega⟩
  · rintro ⟨q, i, hmem, hcode, hrank⟩
    exact ⟨q, Plan.getElem?_displayed_iff.2 ⟨i, hmem, by omega⟩, hcode⟩

namespace Plan

/-- The placements of a plan that are past the limit, by code and number. -/
theorem mem_surplus_iff_rank {code : CourseCode} {k : Nat} :
    (code, k) ∈ p.surplus threshold ↔ threshold < k ∧ ∃ t ∈ p.terms, ∃ q i,
      (q, i) ∈ t.placements.zipIdx ∧ q.course.code = code ∧ t.rank (q, i) + 1 = k := by
  simp only [surplus, List.mem_flatMap, Term.mem_surplus_iff_rank]
  constructor
  · rintro ⟨t, ht, hk, hplaced⟩
    exact ⟨hk, t, ht, hplaced⟩
  · rintro ⟨hk, t, ht, hplaced⟩
    exact ⟨t, ht, hk, hplaced⟩

/-- The overloads of a review are the surplus placements. -/
theorem mem_ofKind_overload_review {f : Finding} :
    f ∈ (p.review threshold).ofKind .overload ↔
      ∃ q ∈ p.surplus threshold, f = overloadFinding threshold q := by
  simp only [ofKind_overload_review, List.mem_map, mem_firstOccurrences, eq_comm]

/-- An overload is shown under a code and number exactly when they are in the surplus. -/
theorem mem_keys_overload_review {code : CourseCode} {k : Nat} :
    (code, .overload, "Term overload: " ++ Numeral.text k ++ " courses") ∈
        (p.review threshold).keys ↔ (code, k) ∈ p.surplus threshold := by
  have hkey : (overloadFinding threshold (code, k)).key =
      (code, .overload, "Term overload: " ++ Numeral.text k ++ " courses") := rfl
  rw [← hkey, Report.keys, List.mem_map]
  constructor
  · rintro ⟨f, hf, heq⟩
    have hkind : f.kind = .overload := congrArg (fun k => k.2.1) heq
    obtain ⟨q, hq, rfl⟩ := mem_ofKind_overload_review.1
      (List.mem_filter.2 ⟨hf, decide_eq_true hkind⟩)
    rwa [← key_overloadFinding_inj.1 heq]
  · intro hsurplus
    have hshown := mem_ofKind_overload_review.2 ⟨_, hsurplus, rfl⟩
    exact ⟨_, (List.mem_filter.1 hshown).1, rfl⟩

/-- An addition comes after all courses of its term, if there is such a term. -/
theorem mem_ofKind_overload_reviewAddition {index : Nat} {c : Course} {f : Finding} :
    f ∈ (p.reviewAddition threshold index c).ofKind .overload ↔ ∃ t, p.term? index = some t ∧
      threshold < t.placements.length + 1 ∧
        f = overloadFinding threshold (c.code, t.placements.length + 1) := by
  rw [ofKind_reviewAddition, filter_check]
  cases p.term? index with
  | none => simp
  | some t => simp [mem_overloads, overloadFinding]

/-- **Overloads go by the order of display.**  A review reports a code with a number past the limit
exactly when some term displays, behind as many placements as come before that number, one of this
code; and it has no other overloads.  The review of an addition reports the course under the number
behind all courses of its term when that is past the limit, and nothing behind the end of the
plan. -/
theorem overloads_in_display_order (p : Plan) (threshold : Nat) :
    (∀ code k, (code, .overload, "Term overload: " ++ Numeral.text k ++ " courses") ∈
        (p.review threshold).keys ↔ threshold < k ∧ ∃ t ∈ p.terms, ∃ q i,
          (q, i) ∈ t.placements.zipIdx ∧ q.course.code = code ∧ t.rank (q, i) + 1 = k) ∧
      (∀ f, f ∈ (p.review threshold).ofKind .overload ↔ ∃ t ∈ p.terms, ∃ q i,
        (q, i) ∈ t.placements.zipIdx ∧ threshold < t.rank (q, i) + 1 ∧
          f = overloadFinding threshold (q.course.code, t.rank (q, i) + 1)) ∧
      (∀ index c f, f ∈ (p.reviewAddition threshold index c).ofKind .overload ↔
        ∃ t, p.term? index = some t ∧ threshold < t.placements.length + 1 ∧
          f = overloadFinding threshold (c.code, t.placements.length + 1)) ∧
      ∀ n c, (p.reviewAddition threshold (termCount + n) c).ofKind .overload = [] := by
  refine ⟨?_, ?_, ?_, ?_⟩
  · intro code k
    rw [mem_keys_overload_review, mem_surplus_iff_rank]
  · intro f
    rw [mem_ofKind_overload_review]
    constructor
    · rintro ⟨⟨code, k⟩, hsurplus, rfl⟩
      obtain ⟨hk, t, ht, q, i, hmem, rfl, rfl⟩ := mem_surplus_iff_rank.1 hsurplus
      exact ⟨t, ht, q, i, hmem, hk, rfl⟩
    · rintro ⟨t, ht, q, i, hmem, hk, rfl⟩
      exact ⟨_, mem_surplus_iff_rank.2 ⟨hk, t, ht, q, i, hmem, rfl, rfl⟩, rfl⟩
  · intro index c f
    exact mem_ofKind_overload_reviewAddition
  · intro n c
    rw [List.eq_nil_iff_forall_not_mem]
    intro f hf
    obtain ⟨t, hterm, -⟩ := mem_ofKind_overload_reviewAddition.1 hf
    rw [term?_of_le p (Nat.le_add_right termCount n)] at hterm
    cases hterm

end Plan

end CoursePlan
