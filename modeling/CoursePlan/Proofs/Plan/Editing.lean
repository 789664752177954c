import CoursePlan.Proofs.Plan.Placing
import Mathlib.Data.List.Perm.Subperm

/-!
# Editing a plan

A plan is edited by calls that place a course in a term or remove one from it.  A run of calls
leaves a *log* of the calls with what came of them, and the log alone tells what the plan holds: in
each term the courses that were placed there less those that were removed, in the order of placing
(`Log.standing`).  Where a code was placed more than once, its courses leave in the order in which
they came (`Term.Follows.inTurn`).

That a plan `Follows` its log is kept by every edit (`Plan.Follows.edit`), and by induction by every
run (`Plan.Follows.run`).  Display positions are found anew for each placement, from those that the
term has at the time; they increase along the term whatever was removed in between, as long as there
are fewer calls that place a course than 32-bit numbers.
-/

namespace CoursePlan

/-- A call that edits a plan. -/
inductive Edit where
  /-- Place a course in the term with an index. -/
  | place (index : Nat) (c : Course)
  /-- Remove the earliest course with a code from the term with an index. -/
  | remove (index : Nat) (code : CourseCode)
deriving DecidableEq

/-- Whether the edit places a course. -/
def Edit.isPlace : Edit → Bool
  | place _ _ => true
  | remove _ _ => false

/-- What comes of an edit. -/
inductive Effect where
  | placed
  | removed (c : Course)
  | refused (e : PlanError)
deriving DecidableEq

/-! ## Logs -/

/-- Edits in the order in which they were made, with what came of them. -/
abbrev Log := List (Edit × Effect)

namespace Log

/-- The course that an edit placed in a term, if it did place one there. -/
def placed? (index : Nat) : Edit × Effect → Option Course
  | (.place i c, .placed) => if i = index then some c else none
  | _ => none

/-- The course that an edit removed from a term, if it did remove one there. -/
def removed? (index : Nat) : Edit × Effect → Option Course
  | (.remove i _, .removed c) => if i = index then some c else none
  | _ => none

/-- The courses that were placed in a term, in the order of placing. -/
def placedIn (log : Log) (index : Nat) : List Course :=
  log.filterMap (placed? index)

/-- The courses that were removed from a term, in the order of removal. -/
def removedFrom (log : Log) (index : Nat) : List Course :=
  log.filterMap (removed? index)

/-- The courses that were placed in a term and not removed, in the order of placing. -/
def standing (log : Log) (index : Nat) : List Course :=
  (log.placedIn index).diff (log.removedFrom index)

/-- How many calls were made to place a course. -/
def placeCount (log : Log) : Nat :=
  log.countP (fun entry => entry.1.isPlace)

variable {log : Log} {index : Nat}

theorem placedIn_concat (entry : Edit × Effect) :
    placedIn (log ++ [entry]) index = log.placedIn index ++ (placed? index entry).toList := by
  rw [placedIn, List.filterMap_append, ← placedIn]
  cases h : placed? index entry <;> simp [h]

theorem removedFrom_concat (entry : Edit × Effect) :
    removedFrom (log ++ [entry]) index =
      log.removedFrom index ++ (removed? index entry).toList := by
  rw [removedFrom, List.filterMap_append, ← removedFrom]
  cases h : removed? index entry <;> simp [h]

theorem placeCount_le_concat (entry : Edit × Effect) :
    log.placeCount ≤ placeCount (log ++ [entry]) := by
  rw [placeCount, placeCount, List.countP_append]
  exact Nat.le_add_right _ _

end Log

/-! ## Lists that lose their members from the front -/

section Lists

variable {α : Type} {l placed removed : List α} {a : α} {p : α → Bool}

/-- The first member with a property parts the list in two. -/
theorem exists_split_of_find? (h : l.find? p = some a) :
    ∃ before after, l = before ++ a :: after ∧ l.eraseP p = before ++ after ∧ p a = true ∧
      ∀ b ∈ before, p b = false := by
  obtain ⟨ha, before, after, rfl, hbefore⟩ := List.find?_eq_some_iff_append.1 h
  have hfalse : ∀ b ∈ before, p b = false := by
    intro b hb
    simpa using hbefore b hb
  refine ⟨before, after, rfl, ?_, ha, hfalse⟩
  rw [List.eraseP_append_right]
  · rw [List.eraseP_cons_of_pos ha]
  · intro b hb
    simp [hfalse b hb]

/-- The first member with a property is the first that is equal to it. -/
theorem eraseP_eq_erase_of_find? [DecidableEq α] (h : l.find? p = some a) :
    l.eraseP p = l.erase a := by
  obtain ⟨before, after, rfl, herase, ha, hbefore⟩ := exists_split_of_find? h
  have hnot : a ∉ before := by
    intro hmem
    rw [hbefore a hmem] at ha
    cases ha
  rw [herase, List.erase_append_right _ hnot, List.erase_cons_head]

/-- The first member with a property comes before all that it is kept together with, if these have
the property too. -/
theorem filter_eq_of_find? (h : l.find? p = some a) {r : α → Bool}
    (hr : r a = true → ∀ b, r b = true → p b = true) :
    l.filter r = [a].filter r ++ (l.eraseP p).filter r := by
  obtain ⟨before, after, rfl, herase, -, hbefore⟩ := exists_split_of_find? h
  rw [herase, List.filter_append, List.filter_append]
  cases ha : r a with
  | false => simp [ha]
  | true =>
    have hnil : before.filter r = [] := by
      rw [List.filter_eq_nil_iff]
      intro b hb hrb
      have hpb := hr ha b hrb
      rw [hbefore b hb] at hpb
      cases hpb
    simp [ha, hnil]

/-- What was added last stays if everything else could be taken out before. -/
theorem diff_concat [DecidableEq α] (h : removed.Subperm placed) :
    (placed ++ [a]).diff removed = placed.diff removed ++ [a] := by
  induction removed generalizing placed with
  | nil => rfl
  | cons b removed ih =>
    have hb : b ∈ placed := h.subset List.mem_cons_self
    have hrest : removed.Subperm (placed.erase b) := by
      simpa using h.erase b
    rw [List.diff_cons, List.diff_cons, List.erase_append_left _ hb, ih hrest]

end Lists

/-! ## Terms and their logs -/

/-- The courses of a list that have a code. -/
def coursesOf (code : CourseCode) (courses : List Course) : List Course :=
  courses.filter (fun c => c.code = code)

namespace Term

/-- The term is what the log says about it. -/
structure Follows (t : Term) (log : Log) : Prop where
  label : t.label = (Level.ofIndex t.index).label
  /-- The term holds what was placed in it and not removed. -/
  courses : t.courses = log.standing t.index
  /-- Of each code, the courses that were removed are those that were placed first. -/
  inTurn : ∀ code, coursesOf code (log.placedIn t.index) =
    coursesOf code (log.removedFrom t.index) ++ coursesOf code t.courses
  increasing : t.placements.Pairwise (fun q r => q.position < r.position)
  bounded : ∀ q ∈ t.placements, q.position.toNat < log.placeCount

variable {t : Term} {log : Log} {code : CourseCode} {q : Placement}

@[simp] theorem index_remove (t : Term) (code : CourseCode) : (t.remove code).index = t.index := rfl

theorem find?_courses (t : Term) (code : CourseCode) :
    t.courses.find? (fun c => c.code = code) = (t.find? code).map Placement.course := by
  rw [courses, List.find?_map]
  rfl

/-- What is removed from a term is its first course with the code. -/
theorem courses_remove (t : Term) (code : CourseCode) :
    (t.remove code).courses = t.courses.eraseP (fun c => c.code = code) := by
  rw [courses, courses, List.eraseP_map]
  rfl

namespace Follows

/-- No course was removed more often than it was placed. -/
theorem removed_subperm (h : t.Follows log) :
    (log.removedFrom t.index).Subperm (log.placedIn t.index) := by
  rw [List.subperm_ext_iff]
  intro c _
  have hcount := congrArg (List.count c) (h.inTurn c.code)
  rw [List.count_append] at hcount
  simp only [coursesOf, List.count_filter, decide_true] at hcount
  omega

/-- An edit that leaves the term alone. -/
theorem skip (h : t.Follows log) {entry : Edit × Effect}
    (hplaced : Log.placed? t.index entry = none) (hremoved : Log.removed? t.index entry = none) :
    t.Follows (log ++ [entry]) := by
  have hp : Log.placedIn (log ++ [entry]) t.index = log.placedIn t.index := by
    simp [Log.placedIn_concat, hplaced]
  have hr : Log.removedFrom (log ++ [entry]) t.index = log.removedFrom t.index := by
    simp [Log.removedFrom_concat, hremoved]
  refine ⟨h.label, ?_, ?_, h.increasing, ?_⟩
  · rw [Log.standing, hp, hr, h.courses, Log.standing]
  · rw [hp, hr]
    exact h.inTurn
  · intro q hq
    exact Nat.lt_of_lt_of_le (h.bounded q hq) (Log.placeCount_le_concat entry)

/-- A placement in the term is followed by the log with that placement. -/
theorem add (h : t.Follows log) (hcount : log.placeCount ≤ Numeral.max32) (c : Course) :
    (t.add c).Follows (log ++ [(.place t.index c, .placed)]) := by
  have hroom : t.HasRoom := by
    intro q hq
    exact Nat.lt_of_lt_of_le (h.bounded q hq) hcount
  have hp : Log.placedIn (log ++ [(.place t.index c, .placed)]) t.index =
      log.placedIn t.index ++ [c] := by
    simp [Log.placedIn_concat, Log.placed?]
  have hr : Log.removedFrom (log ++ [(.place t.index c, .placed)]) t.index =
      log.removedFrom t.index := by
    simp [Log.removedFrom_concat, Log.removed?]
  refine ⟨h.label, ?_, ?_, ?_, ?_⟩
  · rw [courses_add, index_add, Log.standing, hp, hr, diff_concat h.removed_subperm, h.courses,
      Log.standing]
  · intro code
    rw [index_add, hp, hr, courses_add]
    simp only [coursesOf, List.filter_append]
    rw [← List.append_assoc]
    congr 1
    exact h.inTurn code
  · show (t.placements ++ [_]).Pairwise _
    rw [List.pairwise_append]
    refine ⟨h.increasing, List.pairwise_singleton _ _, ?_⟩
    intro q hq r hr
    rw [List.mem_singleton.1 hr]
    exact lt_nextPosition hroom q hq
  · have hmore : Log.placeCount (log ++ [(.place t.index c, .placed)]) = log.placeCount + 1 := by
      simp [Log.placeCount, Edit.isPlace]
    rw [hmore]
    intro q hq
    rcases List.mem_append.1 hq with hq | hq
    · exact Nat.lt_succ_of_lt (h.bounded q hq)
    · rw [List.mem_singleton.1 hq]
      exact Nat.lt_succ_of_le (toNat_nextPosition_le h.bounded)

/-- A removal from the term is followed by the log with that removal. -/
theorem remove (h : t.Follows log) (hq : t.find? code = some q) :
    (t.remove code).Follows (log ++ [(.remove t.index code, .removed q.course)]) := by
  have hp : Log.placedIn (log ++ [(.remove t.index code, .removed q.course)]) t.index =
      log.placedIn t.index := by
    simp [Log.placedIn_concat, Log.placed?]
  have hr : Log.removedFrom (log ++ [(.remove t.index code, .removed q.course)]) t.index =
      log.removedFrom t.index ++ [q.course] := by
    simp [Log.removedFrom_concat, Log.removed?]
  have hfind : t.courses.find? (fun c => c.code = code) = some q.course := by
    rw [find?_courses, hq, Option.map_some]
  refine ⟨h.label, ?_, ?_, ?_, ?_⟩
  · show (t.remove code).courses = Log.standing _ t.index
    rw [courses_remove, eraseP_eq_erase_of_find? hfind, Log.standing, hp, hr, h.courses,
      Log.standing, List.diff_append, List.diff_cons, List.diff_nil]
  · intro code'
    show coursesOf code' (Log.placedIn _ t.index) =
      coursesOf code' (Log.removedFrom _ t.index) ++ coursesOf code' (t.remove code).courses
    have hsame : q.course.code = code := by simpa using List.find?_some hfind
    have hfront : coursesOf code' t.courses =
        coursesOf code' [q.course] ++ coursesOf code' (t.remove code).courses := by
      rw [courses_remove]
      apply filter_eq_of_find? hfind
      intro hcode' b hb
      simp only [decide_eq_true_eq] at hcode' hb ⊢
      rw [hb, ← hcode', hsame]
    rw [hp, hr, h.inTurn code', hfront]
    simp [coursesOf]
  · exact h.increasing.sublist List.eraseP_sublist
  · intro q hq
    have hmem : q ∈ t.placements := List.eraseP_subset hq
    exact Nat.lt_of_lt_of_le (h.bounded q hmem) (Log.placeCount_le_concat _)

end Follows

end Term

/-! ## Plans and their logs -/

namespace Plan

/-- What comes of an edit, and the plan afterwards.  A refused edit leaves the plan as it was. -/
def edit (p : Plan) : Edit → Effect × Plan
  | .place index c =>
    match p.place index c with
    | .ok q => (.placed, q)
    | .error e => (.refused e, p)
  | .remove index code =>
    match p.remove index code with
    | .ok (c, q) => (.removed c, q)
    | .error e => (.refused e, p)

/-- The log of edits made one after another, and the plan afterwards. -/
def run (p : Plan) : List Edit → Log × Plan
  | [] => ([], p)
  | e :: es => ((e, (p.edit e).1) :: ((p.edit e).2.run es).1, ((p.edit e).2.run es).2)

/-- Every term of the plan is what the log says about it. -/
def Follows (p : Plan) (log : Log) : Prop :=
  ∀ t ∈ p.terms, t.Follows log

variable {p : Plan} {t : Term} {index : Nat} {c : Course} {code : CourseCode} {log : Log}

/-- A plan has one term of each index. -/
theorem eq_of_index_eq {u : Term} (ht : t ∈ p.terms) (hu : u ∈ p.terms) (h : t.index = u.index) :
    t = u := by
  have hfind := term?_index ht
  rw [h, term?_index hu] at hfind
  exact (Option.some.inj hfind).symm

theorem index_lt (ht : t ∈ p.terms) : t.index < termCount := by
  have hmem : t.index ∈ p.terms.map Term.index := List.mem_map_of_mem ht
  rwa [p.ordered, List.mem_range] at hmem

/-! ### What comes of an edit -/

/-- A placement in a term of the plan succeeds. -/
theorem edit_place (p : Plan) (c : Course) (h : index < termCount) :
    p.edit (.place index c) = (.placed, p.placing index c) := by
  rw [edit, place_eq_ok p c h]

/-- A placement past the last term is refused, and nothing changes. -/
theorem edit_place_of_le (p : Plan) (c : Course) (h : termCount ≤ index) :
    p.edit (.place index c) = (.refused (.noSuchTerm index), p) := by
  rw [edit, place, term?_of_le p h]

/-- A removal past the last term is refused, and nothing changes. -/
theorem edit_remove_of_le (p : Plan) (code : CourseCode) (h : termCount ≤ index) :
    p.edit (.remove index code) = (.refused (.noSuchTerm index), p) := by
  rw [edit, remove, term?_of_le p h]

/-- The plan without the earliest course with a code in a term. -/
def removing (p : Plan) (index : Nat) (code : CourseCode) : Plan :=
  p.modifyTerm index (·.remove code) (fun t => t.index_remove code)

/-- Removal takes the earliest course with the code, and fails if there is none. -/
theorem edit_remove (ht : t ∈ p.terms) (code : CourseCode) :
    p.edit (.remove t.index code) =
      match t.find? code with
      | some q => (.removed q.course, p.removing t.index code)
      | none => (.refused (.notPlaced code t.label), p) := by
  simp only [edit, remove, term?_index ht]
  cases t.find? code <;> rfl

/-- All that an edit can do: place a course, remove one that is found, or leave the plan alone. -/
theorem edit_cases (p : Plan) (e : Edit) :
    (∃ index c, e = .place index c ∧ p.edit e = (.placed, p.placing index c)) ∨
      (∃ t ∈ p.terms, ∃ code q, e = .remove t.index code ∧ t.find? code = some q ∧
        p.edit e = (.removed q.course, p.removing t.index code)) ∨
      ∃ error, p.edit e = (.refused error, p) := by
  cases e with
  | place index c =>
    by_cases h : index < termCount
    · exact .inl ⟨index, c, rfl, edit_place p c h⟩
    · exact .inr (.inr ⟨_, edit_place_of_le p c (Nat.le_of_not_lt h)⟩)
  | remove index code =>
    by_cases h : index < termCount
    · obtain ⟨t, ht, rfl⟩ := p.exists_term h
      have hedit := edit_remove ht code
      cases hfind : t.find? code with
      | none => exact .inr (.inr ⟨_, by rw [hedit, hfind]⟩)
      | some q => exact .inr (.inl ⟨t, ht, code, q, rfl, hfind, by rw [hedit, hfind]⟩)
    · exact .inr (.inr ⟨_, edit_remove_of_le p code (Nat.le_of_not_lt h)⟩)

/-! ### What an edit and a run keep -/

theorem name_edit (p : Plan) (e : Edit) : (p.edit e).2.name = p.name := by
  obtain ⟨_, _, -, h⟩ | ⟨_, -, _, _, -, -, h⟩ | ⟨_, h⟩ := p.edit_cases e
  · rw [h]
    rfl
  · rw [h]
    rfl
  · rw [h]

/-- A refused edit leaves the plan as it was. -/
theorem edit_eq_self_of_refused {e : Edit} {error : PlanError}
    (h : (p.edit e).1 = .refused error) : (p.edit e).2 = p := by
  obtain ⟨_, _, -, he⟩ | ⟨_, -, _, _, -, -, he⟩ | ⟨_, he⟩ := p.edit_cases e
  · rw [he] at h
    cases h
  · rw [he] at h
    cases h
  · rw [he]

namespace Follows

/-- **Every edit keeps a plan following its log.** -/
theorem edit (h : p.Follows log) (hcount : log.placeCount ≤ Numeral.max32) (e : Edit) :
    (p.edit e).2.Follows (log ++ [(e, (p.edit e).1)]) := by
  obtain ⟨index, c, rfl, he⟩ | ⟨u, hu, code, q, rfl, hq, he⟩ | ⟨error, he⟩ := p.edit_cases e
  · rw [he]
    intro v hv
    obtain ⟨t, ht, rfl⟩ := mem_terms_placing.1 hv
    split
    · next heq =>
      subst heq
      exact (h t ht).add hcount c
    · next hne => exact (h t ht).skip (if_neg (Ne.symm hne)) rfl
  · rw [he]
    intro v hv
    obtain ⟨t, ht, rfl⟩ := List.mem_map.1 hv
    split
    · next heq =>
      -- the term that changes is the one in which the course was found
      obtain rfl := eq_of_index_eq ht hu heq
      exact (h t ht).remove hq
    · next hne => exact (h t ht).skip rfl (if_neg (Ne.symm hne))
  · rw [he]
    intro t ht
    exact (h t ht).skip (by cases e <;> rfl) (by cases e <;> rfl)

/-- **Every run keeps a plan following its log**, as long as it makes fewer placements than there
are positions. -/
theorem run {edits : List Edit} (h : p.Follows log)
    (hcount : log.placeCount + edits.countP Edit.isPlace ≤ Numeral.max32) :
    (p.run edits).2.Follows (log ++ (p.run edits).1) := by
  induction edits generalizing p log with
  | nil => rwa [Plan.run, List.append_nil]
  | cons e es ih =>
    have hstep : Log.placeCount (log ++ [(e, (p.edit e).1)]) =
        log.placeCount + [e].countP Edit.isPlace := by
      simp [Log.placeCount]
    have hsplit : (e :: es).countP Edit.isPlace =
        [e].countP Edit.isPlace + es.countP Edit.isPlace := by
      rw [← List.countP_append, List.singleton_append]
    have htail := ih (h.edit (by omega) e) (by omega)
    rwa [List.append_assoc, List.singleton_append] at htail

end Follows

/-- A new plan follows the empty log. -/
theorem follows_new (name : String) : (Plan.new name).Follows [] := by
  intro t ht
  obtain ⟨i, -, rfl⟩ := List.mem_map.1 ht
  exact ⟨rfl, rfl, fun _ => rfl, .nil, by simp [Term.empty]⟩

theorem name_run (p : Plan) (edits : List Edit) : (p.run edits).2.name = p.name := by
  induction edits generalizing p with
  | nil => rfl
  | cons e es ih => exact (ih (p.edit e).2).trans (name_edit p e)

/-- The log of a run lists its edits in order. -/
theorem map_fst_run (p : Plan) (edits : List Edit) : (p.run edits).1.map Prod.fst = edits := by
  induction edits generalizing p with
  | nil => rfl
  | cons e es ih =>
    rw [run, List.map_cons, ih]

/-! ### Taking back a placement -/

/-- A change of a term that is taken back leaves the plan as it was. -/
theorem modifyTerm_modifyTerm_eq_self {f g : Term → Term} {hf : ∀ t, (f t).index = t.index}
    {hg : ∀ t, (g t).index = t.index} (h : ∀ t ∈ p.terms, t.index = index → g (f t) = t) :
    (p.modifyTerm index f hf).modifyTerm index g hg = p := by
  have hterms : ((p.modifyTerm index f hf).modifyTerm index g hg).terms = p.terms := by
    show (p.terms.map _).map _ = p.terms
    rw [List.map_map]
    apply (List.map_congr_left _).trans (List.map_id' p.terms)
    intro t ht
    rw [Function.comp_apply]
    by_cases hi : t.index = index
    · rw [if_pos hi, if_pos ((hf t).trans hi), h t ht hi]
    · rw [if_neg hi, if_neg hi]
  cases p
  simp only [modifyTerm] at hterms ⊢
  simp [hterms]

/-- **A course whose code was not in the term can be taken back**, which restores the plan. -/
theorem run_place_remove (ht : t ∈ p.terms) (hc : c.code ∉ t.codes) :
    p.run [.place t.index c, .remove t.index c.code] =
      ([(.place t.index c, .placed), (.remove t.index c.code, .removed c)], p) := by
  have hnone : ∀ q ∈ t.placements, ¬ decide (q.course.code = c.code) = true := by
    intro q hq hcode
    exact hc (List.mem_map.2 ⟨q, hq, of_decide_eq_true hcode⟩)
  have hfind : (t.add c).find? c.code = some ⟨c, t.nextPosition⟩ := by
    rw [Term.find?, Term.add, List.find?_append, List.find?_eq_none.2 hnone]
    simp
  have hback : (t.add c).remove c.code = t := by
    simp [Term.remove, Term.add, List.eraseP_append_right _ hnone]
  have hplaced : t.add c ∈ (p.placing t.index c).terms :=
    mem_terms_placing.2 ⟨t, ht, if_pos rfl⟩
  have hremoved : (p.placing t.index c).edit (.remove t.index c.code) = (.removed c, p) := by
    have hedit := edit_remove hplaced c.code
    rw [hfind] at hedit
    refine hedit.trans (congrArg _ (modifyTerm_modifyTerm_eq_self ?_))
    intro u hu hui
    obtain rfl := eq_of_index_eq hu ht hui
    exact hback
  simp only [run, edit_place p c (index_lt ht), hremoved]

/-! ### Runs -/

/-- What is true of a plan that a run of edits has made from an empty one. -/
structure MadeBy (p : Plan) (name : String) (edits : List Edit) (log : Log) : Prop where
  /-- The log lists the edits. -/
  edits : log.map Prod.fst = edits
  name : p.name = name
  length_terms : p.terms.length = termCount
  /-- The terms are in order, with their labels, and hold what the log says. -/
  term : ∀ i < termCount, ∃ t, p.term? i = some t ∧ t.index = i ∧ t.Follows log
  placed : ∀ i < termCount, ∀ c, (p.edit (.place i c)).1 = .placed
  /-- Removal takes the earliest course with the code among those that stand in the term, and is
  refused if there is none. -/
  removed : ∀ i < termCount, ∀ code, (p.edit (.remove i code)).1 =
    match (log.standing i).find? (fun c => c.code = code) with
    | some c => .removed c
    | none => .refused (.notPlaced code (Level.ofIndex i).label)
  /-- A course under a code that the term does not hold can be taken back. -/
  takenBack : ∀ i < termCount, ∀ c, (∀ d ∈ log.standing i, d.code ≠ c.code) →
    p.run [.place i c, .remove i c.code] =
      ([(.place i c, .placed), (.remove i c.code, .removed c)], p)
  outside : ∀ i, termCount ≤ i →
    (∀ c, p.edit (.place i c) = (.refused (.noSuchTerm i), p)) ∧
      ∀ code, p.edit (.remove i code) = (.refused (.noSuchTerm i), p)
  refused : ∀ e error, (p.edit e).1 = .refused error → (p.edit e).2 = p

/-- A plan that follows a log answers edits as the log says. -/
theorem Follows.madeBy {name : String} {edits : List Edit} (h : p.Follows log)
    (hedits : log.map Prod.fst = edits) (hname : p.name = name) :
    p.MadeBy name edits log where
  edits := hedits
  name := hname
  length_terms := p.length_terms
  term i hi := by
    obtain ⟨t, ht, rfl⟩ := p.exists_term hi
    exact ⟨t, term?_index ht, rfl, h t ht⟩
  placed i hi c := by
    rw [edit_place p c hi]
  removed i hi code := by
    obtain ⟨t, ht, rfl⟩ := p.exists_term hi
    rw [edit_remove ht code, ← (h t ht).courses, t.find?_courses, ← (h t ht).label]
    cases t.find? code <;> rfl
  takenBack i hi c hc := by
    obtain ⟨t, ht, rfl⟩ := p.exists_term hi
    apply run_place_remove ht
    rw [← (h t ht).courses] at hc
    intro hmem
    obtain ⟨q, hq, hcode⟩ := List.mem_map.1 hmem
    exact hc q.course (List.mem_map_of_mem hq) hcode
  outside i hi := ⟨fun c => edit_place_of_le p c hi, fun code => edit_remove_of_le p code hi⟩
  refused e error := edit_eq_self_of_refused

/-- **Plans are what was placed less what was removed.**  A run of edits from an empty plan, refused
ones included, makes a plan that holds in every term what its log says, at increasing positions, and
answers every further edit accordingly. -/
theorem run_new (name : String) (edits : List Edit)
    (hcount : edits.countP Edit.isPlace < UInt32.size) :
    ∃ log p, (Plan.new name).run edits = (log, p) ∧ p.MadeBy name edits log := by
  have hfits : Log.placeCount [] + edits.countP Edit.isPlace ≤ Numeral.max32 := by
    rw [Log.placeCount, List.countP_nil, Nat.zero_add]
    exact Nat.le_of_lt_succ hcount
  have hfollows := (follows_new name).run hfits
  rw [List.nil_append] at hfollows
  exact ⟨_, _, rfl, hfollows.madeBy (map_fst_run _ edits) (name_run _ edits)⟩

/-- A course that several catalog entries share. -/
def sharedCourse (serial : Nat) : Course :=
  Course.new (.drawn serial) ⟨['P', 'H', 'Y', 'S'], ['1', '2', '1'], rfl, rfl⟩

/-- Another course. -/
def otherCourse : Course :=
  Course.new (.drawn 3) ⟨['P', 'H', 'Y', 'S'], ['2', '5', '6'], rfl, rfl⟩

/-- Calls that place two courses under one code, remove the first of them with another one in
between, and fail in each of the ways in which they can. -/
def editSample : List Edit :=
  [.place 0 (sharedCourse 0), .place 0 otherCourse, .place 8 otherCourse, .place 0 (sharedCourse 1),
    .remove 0 (sharedCourse 1).code, .remove 1 otherCourse.code, .place 0 (sharedCourse 2),
    .remove 9 otherCourse.code]

/-- Eight edits of a new plan, three of which are refused. -/
theorem run_new_sample :
    editSample.countP Edit.isPlace < UInt32.size ∧
    ∃ log p, (Plan.new "sample").run editSample = (log, p) ∧
      p.MadeBy "sample" editSample log :=
  ⟨by decide, run_new "sample" editSample (by decide)⟩

end Plan

end CoursePlan
