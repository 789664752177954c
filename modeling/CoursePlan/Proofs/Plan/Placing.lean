import CoursePlan.Proofs.Review.Legal

/-!
# Placing a course

What a plan looks like after one more course is placed: which terms it has, which codes it holds,
and in which order it displays them.  A term has *room* when the position behind all others fits
32 bits; the course placed in such a term is displayed last (`Plan.displayed_add`), so that it comes
after as many courses as the term held before.
-/

namespace CoursePlan

/-! ## Sorting with a greatest element at the end -/

section Sorting

variable {α : Type} {le : α → α → Bool}

/-- Two numbered members of a list that come before each other are one. -/
theorem eq_of_zipIdxLE {l : List α} {a b : α × Nat} (ha : a ∈ l.zipIdx) (hb : b ∈ l.zipIdx)
    (hab : List.zipIdxLE le a b = true) (hba : List.zipIdxLE le b a = true) : a = b := by
  have hindex : a.2 = b.2 := by
    simp only [List.zipIdxLE] at hab hba
    split at hab
    · next h =>
      rw [if_pos h] at hba
      split at hab
      · next h' =>
        rw [if_pos h'] at hba
        exact Nat.le_antisymm (by simpa using hab) (by simpa using hba)
      · next h' =>
        rw [if_neg h'] at hba
        cases hba
    · cases hab
  have hget : l[a.2]? = some a.1 := List.mem_zipIdx_iff_getElem?.1 ha
  have hget' : l[b.2]? = some b.1 := List.mem_zipIdx_iff_getElem?.1 hb
  rw [hindex, hget'] at hget
  exact Prod.ext (Option.some.inj hget).symm hindex

/-- A member that is greater than all before it is sorted to the end. -/
theorem mergeSort_append_singleton (trans : ∀ a b c, le a b = true → le b c = true → le a c = true)
    (total : ∀ a b, (le a b || le b a) = true) {l : List α} {x : α}
    (h : ∀ a ∈ l, le x a = false) : (l ++ [x]).mergeSort le = l.mergeSort le ++ [x] := by
  have htrans := List.zipIdxLE_trans trans
  have htotal := List.zipIdxLE_total total
  have hzip : (l ++ [x]).zipIdx = l.zipIdx ++ [(x, l.length)] := by simp [List.zipIdx_append]
  -- The order on numbered members is antisymmetric, so that a sorted list is determined by them.
  have hsort : (l ++ [x]).zipIdx.mergeSort (List.zipIdxLE le) =
      l.zipIdx.mergeSort (List.zipIdxLE le) ++ [(x, l.length)] := by
    have hperm : (l ++ [x]).zipIdx.mergeSort (List.zipIdxLE le) |>.Perm
        (l.zipIdx.mergeSort (List.zipIdxLE le) ++ [(x, l.length)]) := by
      refine (List.mergeSort_perm _ _).trans ?_
      rw [hzip]
      exact (List.mergeSort_perm _ _).symm.append_right _
    refine List.Perm.eq_of_pairwise ?_ (List.pairwise_mergeSort htrans htotal _) ?_ hperm
    · intro a b ha hb hab hba
      refine eq_of_zipIdxLE (l := l ++ [x]) (List.mem_mergeSort.1 ha) ?_ hab hba
      exact List.mem_mergeSort.1 (hperm.mem_iff.2 hb)
    · refine List.pairwise_append.2 ⟨List.pairwise_mergeSort htrans htotal _, by simp, ?_⟩
      intro a ha b hb
      rw [List.mem_singleton] at hb
      subst hb
      have hxa : le x a.1 = false := h a.1 (List.fst_mem_of_mem_zipIdx (List.mem_mergeSort.1 ha))
      have hax : le a.1 x = true := by simpa [hxa] using total a.1 x
      simp [List.zipIdxLE, hxa, hax]
  rw [← List.mergeSort_zipIdx, hsort, List.map_append, List.mergeSort_zipIdx]
  rfl

end Sorting

/-! ## Room for one more -/

/-- The position behind all those of the term fits 32 bits. -/
def Term.HasRoom (t : Term) : Prop :=
  ∀ q ∈ t.placements, q.position.toNat < Numeral.max32

instance (t : Term) : Decidable t.HasRoom :=
  inferInstanceAs (Decidable (∀ q ∈ t.placements, q.position.toNat < Numeral.max32))

theorem toNat_max (a b : UInt32) : (max a b).toNat = max a.toNat b.toNat := by
  show (if a ≤ b then b else a).toNat = _
  split
  · next h =>
    rw [UInt32.le_iff_toNat_le] at h
    omega
  · next h =>
    rw [UInt32.le_iff_toNat_le] at h
    omega

theorem toNat_succ {a : UInt32} (h : a.toNat < Numeral.max32) : (a + 1).toNat = a.toNat + 1 := by
  rw [UInt32.toNat_add]
  simp only [Numeral.max32] at h
  simp only [UInt32.reduceToNat]
  omega

/-- The next position is behind each that has a successor. -/
theorem Term.toNat_position_lt_nextPosition {t : Term} {q : Placement} (hq : q ∈ t.placements)
    (h : q.position.toNat < Numeral.max32) : q.position.toNat < t.nextPosition.toNat := by
  unfold nextPosition
  generalize t.placements = qs at hq ⊢
  -- The fold takes the greatest of all successors, among them that of the position.
  induction qs with
  | nil => cases hq
  | cons a l ih =>
    rw [List.foldr_cons, toNat_max]
    rcases List.mem_cons.1 hq with rfl | hq
    · rw [toNat_succ h]
      omega
    · exact Nat.lt_of_lt_of_le (ih hq) (Nat.le_max_right _ _)

/-- The next position is at most one more than the greatest. -/
theorem Term.toNat_nextPosition_le {t : Term} {n : Nat}
    (h : ∀ q ∈ t.placements, q.position.toNat < n) : t.nextPosition.toNat ≤ n := by
  unfold nextPosition
  generalize t.placements = qs at h ⊢
  induction qs with
  | nil => exact Nat.zero_le n
  | cons a l ih =>
    obtain ⟨ha, hl⟩ := List.forall_mem_cons.1 h
    have hsucc : (a.position + 1).toNat ≤ a.position.toNat + 1 := by
      rw [UInt32.toNat_add]
      exact Nat.mod_le _ _
    rw [List.foldr_cons, toNat_max]
    exact Nat.max_le.2 ⟨by omega, ih hl⟩

/-- In a term with room, the next position is behind all others. -/
theorem Term.lt_nextPosition {t : Term} (h : t.HasRoom) :
    ∀ q ∈ t.placements, q.position < t.nextPosition := by
  intro q hq
  exact UInt32.lt_iff_toNat_lt.2 (toNat_position_lt_nextPosition hq (h q hq))

/-- The courses of a term in the order of placing. -/
def Term.courses (t : Term) : List Course :=
  t.placements.map Placement.course

@[simp] theorem Term.courses_add (t : Term) (c : Course) :
    (t.add c).courses = t.courses ++ [c] := by
  simp [courses, add]

namespace Placement

/-- The order in which placements are displayed, as far as their positions tell. -/
def le (a b : Placement) : Bool :=
  decide (a.position ≤ b.position)

/-- Display order is transitive. -/
theorem le_trans (a b c : Placement) (hab : le a b = true) (hbc : le b c = true) :
    le a c = true := by
  rw [le, decide_eq_true_eq] at hab hbc ⊢
  exact UInt32.le_trans hab hbc

theorem le_total (a b : Placement) : (le a b || le b a) = true := by
  rw [le, le, Bool.or_eq_true, decide_eq_true_eq, decide_eq_true_eq]
  exact UInt32.le_total a.position b.position

end Placement

namespace Plan

/-- A course that is added to a term with room is displayed last. -/
theorem displayed_add {t : Term} (h : t.HasRoom) (c : Course) :
    displayed (t.add c) = displayed t ++ [⟨c, t.nextPosition⟩] := by
  refine mergeSort_append_singleton Placement.le_trans Placement.le_total ?_
  intro q hq
  rw [Placement.le, decide_eq_false_iff_not, UInt32.not_le]
  exact Term.lt_nextPosition h q hq

theorem length_displayed (t : Term) : (displayed t).length = t.placements.length :=
  List.length_mergeSort t.placements

/-! ## The plan with one more course -/

/-- The plan in which the terms with the given index, of which there is at most one, hold one more
course. -/
def placing (p : Plan) (index : Nat) (c : Course) : Plan :=
  p.modifyTerm index (·.add c) (fun t => t.index_add c)

variable {p : Plan} {index i : Nat} {c : Course} {t u : Term}

theorem exists_term (p : Plan) (h : index < termCount) : ∃ t ∈ p.terms, t.index = index := by
  have hlt : index < p.terms.length := by rwa [length_terms]
  exact ⟨p.terms[index], List.getElem_mem hlt, p.index_getElem index hlt⟩

/-- Terms are found by their index. -/
theorem term?_index (h : t ∈ p.terms) : p.term? t.index = some t := by
  obtain ⟨i, hi, rfl⟩ := List.getElem_of_mem h
  rw [term?, p.index_getElem i hi, List.getElem?_eq_getElem hi]

theorem term?_of_le (p : Plan) (h : termCount ≤ index) : p.term? index = none := by
  rw [term?, List.getElem?_eq_none]
  rwa [length_terms]

/-- Placing a course in a term of the plan succeeds. -/
theorem place_eq_ok (p : Plan) (c : Course) (h : index < termCount) :
    p.place index c = .ok (p.placing index c) := by
  obtain ⟨t, ht, rfl⟩ := p.exists_term h
  rw [place, term?_index ht]
  rfl

theorem terms_placing : (p.placing index c).terms =
    p.terms.map (fun t => if t.index = index then t.add c else t) := rfl

/-- The terms after a placement are the old ones, the course being added to its term. -/
theorem mem_terms_placing :
    u ∈ (p.placing index c).terms ↔
      ∃ t ∈ p.terms, (if t.index = index then t.add c else t) = u := by
  rw [terms_placing, List.mem_map]

/-- Placing a course changes no index and no label. -/
theorem index_label_of_placing (t : Term) (index : Nat) (c : Course) :
    (if t.index = index then t.add c else t).index = t.index ∧
      (if t.index = index then t.add c else t).label = t.label := by
  split <;> exact ⟨rfl, rfl⟩

/-- The courses of a term after one was placed in the plan. -/
theorem mem_placements_of_placing {q : Placement} :
    q ∈ (if t.index = index then t.add c else t).placements ↔
      q ∈ t.placements ∨ (t.index = index ∧ q = ⟨c, t.nextPosition⟩) := by
  split
  · next h => simp [Term.add, h]
  · next h => simp [h]

/-! ## The codes that it holds -/

/-- A code is placed afterwards if it was placed before or is the new one. -/
theorem placed_placing (h : index < termCount) {code : CourseCode} :
    (p.placing index c).Placed code ↔ p.Placed code ∨ code = c.code := by
  constructor
  · rintro ⟨u, hu, q, hq, rfl⟩
    obtain ⟨t, ht, rfl⟩ := mem_terms_placing.1 hu
    rcases mem_placements_of_placing.1 hq with hq | ⟨-, rfl⟩
    · exact .inl ⟨t, ht, q, hq, rfl⟩
    · exact .inr rfl
  · rintro (⟨t, ht, q, hq, rfl⟩ | rfl)
    · exact ⟨_, mem_terms_placing.2 ⟨t, ht, rfl⟩, q, mem_placements_of_placing.2 (.inl hq), rfl⟩
    · obtain ⟨t, ht, hindex⟩ := p.exists_term h
      exact ⟨_, mem_terms_placing.2 ⟨t, ht, rfl⟩, _,
        mem_placements_of_placing.2 (.inr ⟨hindex, rfl⟩), rfl⟩

/-- A code is placed in an earlier term afterwards if it was so before, or if it is the new one and
its term is earlier. -/
theorem placedBefore_placing (h : index < termCount) {code : CourseCode} :
    (p.placing index c).PlacedBefore i code ↔
      p.PlacedBefore i code ∨ (index < i ∧ code = c.code) := by
  constructor
  · rintro ⟨u, hu, hlt, q, hq, rfl⟩
    obtain ⟨t, ht, rfl⟩ := mem_terms_placing.1 hu
    rw [(index_label_of_placing t index c).1] at hlt
    rcases mem_placements_of_placing.1 hq with hq | ⟨hindex, rfl⟩
    · exact .inl ⟨t, ht, hlt, q, hq, rfl⟩
    · exact .inr ⟨hindex ▸ hlt, rfl⟩
  · rintro (⟨t, ht, hlt, q, hq, rfl⟩ | ⟨hlt, rfl⟩)
    · refine ⟨_, mem_terms_placing.2 ⟨t, ht, rfl⟩, ?_, q,
        mem_placements_of_placing.2 (.inl hq), rfl⟩
      rwa [(index_label_of_placing t index c).1]
    · obtain ⟨t, ht, hindex⟩ := p.exists_term h
      refine ⟨_, mem_terms_placing.2 ⟨t, ht, rfl⟩, ?_, _,
        mem_placements_of_placing.2 (.inr ⟨hindex, rfl⟩), rfl⟩
      rwa [(index_label_of_placing t index c).1, hindex]

/-- Terms up to the changed one have the same courses before them. -/
theorem codesBefore_placing_of_le (h : i ≤ index) :
    (p.placing index c).codesBefore i = p.codesBefore i := by
  have hindex : ((fun t : Term => decide (t.index < i)) ∘
      fun t => if t.index = index then t.add c else t) = fun t => decide (t.index < i) := by
    funext t
    rw [Function.comp_apply, (index_label_of_placing t index c).1]
  -- The changed term is none of those that come before.
  have hsame : ∀ t ∈ p.terms.filter (fun t => decide (t.index < i)),
      (if t.index = index then t.add c else t) = t := by
    intro t ht
    have hlt : t.index < i := by simpa using (List.mem_filter.1 ht).2
    exact if_neg (by omega)
  rw [codesBefore, terms_placing, List.filter_map, hindex, List.map_congr_left hsame, List.map_id']
  rfl

/-! ## The order in which it displays them -/

/-- **Ranks are stable.**  The new course comes after as many courses as its term held; all other
courses keep their rank. -/
theorem mem_zipIdx_displayed_placing (hroom : t.index = index → t.HasRoom) {q : Placement}
    {rank : Nat} :
    (q, rank) ∈ (displayed (if t.index = index then t.add c else t)).zipIdx ↔
      (q, rank) ∈ (displayed t).zipIdx ∨
        (t.index = index ∧ q = ⟨c, t.nextPosition⟩ ∧ rank = t.placements.length) := by
  split
  · next h =>
    rw [displayed_add (hroom h), List.zipIdx_append, List.mem_append, length_displayed]
    simp [h]
  · next h => simp [h]

end Plan

end CoursePlan
