import CoursePlan.Proofs.Level
import CoursePlan.Proofs.Review.Progress

/-!
# What a finding says beside its key

Findings that agree on course, kind and message count as repeats, although they may differ in their
details: those of a level name the term in which the course is placed.  Within one term there is no
such difference.  What two reviews find about courses in terms with the same index is the same as
soon as the keys are (`Plan.eq_of_key_eq`), so that it does not matter which of them is kept.
-/

namespace CoursePlan

open Text

/-! ## Levels in a message -/

/-- The label of a level can be told from what follows it in a description. -/
theorem Level.label_eq_of_append {l m : Level} {s t : String}
    (h : l.label ++ (" or higher" ++ s) = m.label ++ (" or higher" ++ t)) :
    l.label = m.label := by
  have hword : ∀ l : Level, ∀ c ∈ l.labelChars, isWordChar c = true := fun _ => isWord_labelOf.2
  have hstops : ∀ cs, Stops isWordChar (" or higher".toList ++ cs) := by
    intro cs
    exact stops_append (by decide) (by decide)
  have hchars := congrArg String.toList h
  simp only [String.toList_append, label, String.toList_ofList] at hchars
  have hrun := congrArg (List.takeWhile isWordChar) hchars
  rw [takeWhile_run (hword l) (hstops s.toList), takeWhile_run (hword m) (hstops t.toList)] at hrun
  rw [label, label, hrun]

/-- Level requirements with one description ask for one label. -/
theorem Requirement.label_eq_of_describe_eq {r r' : Requirement} {l l' : Level}
    {program program' : Option String} (hr : r.demand = .level l program)
    (hr' : r'.demand = .level l' program') (h : r.describe = r'.describe) :
    l.label = l'.label := by
  simp only [describe, hr, hr', String.append_assoc, String.append_right_inj] at h
  exact Level.label_eq_of_append h

/-! ## Findings with the same key -/

/-- Findings with one key and the same details are the same. -/
theorem Finding.new_eq_of_key_eq {kind : FindingKind} {code code' : CourseCode}
    {message message' details details' : String}
    (hkey : (new kind code message details).key = (new kind code' message' details').key)
    (hdetails : details = details') :
    new kind code message details = new kind code' message' details' := by
  simp only [key_new, Prod.mk.injEq] at hkey
  rw [hkey.1, hkey.2.2, hdetails]

namespace Plan

variable {p q : Plan} {threshold index : Nat} {c d : Course} {f g : Finding}

/-- Unmet requirements that are reported under one key are reported in the same way. -/
theorem eq_of_unmetFinding? {r r' : Requirement} (hf : unmetFinding? index c r = some f)
    (hg : unmetFinding? index d r' = some g) (hkey : f.key = g.key) : f = g := by
  have hkind : f.kind = g.kind := congrArg (fun k => k.2.1) hkey
  unfold unmetFinding? at hf hg
  -- Only demands of the same form lead to the same kind of finding.
  split at hf <;> split at hg <;> cases hf <;> cases hg <;> try cases hkind
  · exact Finding.new_eq_of_key_eq hkey rfl
  -- The message of a level says which level it is.
  · next l program hr _ l' program' hr' =>
    apply Finding.new_eq_of_key_eq hkey
    have hmessage := congrArg (fun k => k.2.2) hkey
    rw [Finding.key_new, Finding.key_new, String.append_right_inj] at hmessage
    rw [Requirement.label_eq_of_describe_eq hr hr' hmessage]
  · exact Finding.new_eq_of_key_eq hkey rfl

/-- Conflicts that are reported under one key are reported in the same way. -/
theorem eq_of_conflictFinding {other other' : CourseCode}
    (hkey : (conflictFinding c other).key = (conflictFinding d other').key) :
    conflictFinding c other = conflictFinding d other' := by
  apply Finding.new_eq_of_key_eq hkey
  simp only [conflictFinding, Finding.key_new, Prod.mk.injEq, String.append_right_inj] at hkey
  rw [hkey.1, hkey.2.2]

/-- **In terms with the same index, findings with the same key are the same.** -/
theorem eq_of_key_eq {before before' : Option Nat} (hf : f ∈ p.check threshold index c before)
    (hg : g ∈ q.check threshold index d before') (hkey : f.key = g.key) : f = g := by
  have hkind : f.kind = g.kind := congrArg (fun k => k.2.1) hkey
  -- Findings of the same kind come from the same rule.
  have hrule : f ∈ (p.check threshold index c before).filter (fun h => decide (h.kind = g.kind)) :=
    List.mem_filter.2 ⟨hf, decide_eq_true hkind⟩
  have hrule' : g ∈ (q.check threshold index d before').filter (fun h => decide (h.kind = g.kind)) :=
    List.mem_filter.2 ⟨hg, decide_eq_true rfl⟩
  rw [filter_check] at hrule hrule'
  generalize g.kind = kind at hrule hrule'
  cases kind with
  | duplicate =>
    obtain ⟨t, -, rfl⟩ := mem_duplicates.1 hrule
    obtain ⟨u, -, rfl⟩ := mem_duplicates.1 hrule'
    exact Finding.new_eq_of_key_eq hkey rfl
  | antirequisite =>
    obtain ⟨-, -, other, -, -, -, rfl⟩ := mem_conflicts.1 hrule
    obtain ⟨-, -, other', -, -, -, rfl⟩ := mem_conflicts.1 hrule'
    exact eq_of_conflictFinding hkey
  | overload =>
    cases before with
    | none => cases hrule
    | some n =>
      cases before' with
      | none => cases hrule'
      | some n' =>
        obtain ⟨-, rfl⟩ := mem_overloads.1 hrule
        obtain ⟨-, rfl⟩ := mem_overloads.1 hrule'
        exact Finding.new_eq_of_key_eq hkey rfl
  | prerequisite | corequisite | level =>
    obtain ⟨r, -, -, hfind⟩ := mem_unmet.1 (List.mem_filter.1 hrule).1
    obtain ⟨r', -, -, hfind'⟩ := mem_unmet.1 (List.mem_filter.1 hrule').1
    exact eq_of_unmetFinding? hfind hfind' hkey

end Plan

end CoursePlan
