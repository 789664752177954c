import CoursePlan.Proofs.Requisite.Keyword
import CoursePlan.Proofs.Requisite.Marker

/-!
# What follows a marker

A marker with a text behind it asks for the courses of that text, but not for all of them in any
case: the body of a marker ends with its line, and the courses on later lines are lost
(`Marker.yields_remainder`).  Blanks and line ends in front of the text and behind it do no harm.
-/

namespace CoursePlan

open Text
open scoped Text.Memberwise

namespace Marker

/-- The marker as catalogs print it. -/
def label : Marker → String
  | antireq => "Antireq"
  | coreq => "Coreq"
  | prereq => "Prereq"

variable {m k : Marker} {cs gap : List Char}

theorem map_foldCase_label : ∀ m : Marker, m.label.toList.map foldCase = m.word
  | antireq | coreq | prereq => by decide

theorem isLine_label : ∀ m : Marker, IsLine m.label.toList
  | antireq | coreq | prereq => by decide

theorem isWord_label : ∀ m : Marker, IsWord m.label.toList
  | antireq | coreq | prereq => by decide

/-- No other marker is read from a label. -/
theorem dropWord?_label (h : k ≠ m) : dropWord? k.word m.label.toList = none := by
  cases k <;> cases m <;> first | exact absurd rfl h | decide

theorem toList_marked (m : Marker) (r : String) :
    (m.label ++ ": " ++ r).toList = m.label.toList ++ ([':', ' '] ++ r.toList) := by
  rw [String.toList_append, String.toList_append, List.append_assoc]
  rfl

/-! ## Keywords behind the label -/

/-- A marker whose word is not in a text is not found in it. -/
theorem marked?_eq_none_of_not_infix (h : ¬m.word <:+: cs.map foldCase) :
    Clause.marked? m.word cs = none := by
  cases hmarked : Clause.marked? m.word cs with
  | none => rfl
  | some body =>
    obtain ⟨front, start, rfl, hread⟩ := exists_of_findAtWordStart hmarked
    obtain ⟨rest, hdrop, -⟩ := Option.bind_eq_some_iff.1 hread
    obtain ⟨w, rfl, hw⟩ := dropWord?_eq_some.1 hdrop
    refine absurd ⟨front.map foldCase, rest.map foldCase, ?_⟩ h
    rw [← hw, List.map_append, List.map_append, List.append_assoc]

/-- Another marker is looked for behind the label. -/
theorem marked?_behind (h : k ≠ m) (cs : List Char) :
    Clause.marked? k.word (m.label.toList ++ ([':', ' '] ++ cs)) = Clause.marked? k.word cs :=
  (Clause.isKeyword_marker k.word_mem).find_prose m.isWord_label (by decide) (dropWord?_label h) cs

/-- A level phrase is found behind a label as if the label were not there. -/
theorem find_levelPhrase?_behind (m : Marker) (cs : List Char) :
    findAtWordStart Clause.levelPhrase? false (m.label.toList ++ ([':', ' '] ++ cs)) =
      findAtWordStart Clause.levelPhrase? false cs :=
  Clause.isKeyword_level.find_prose m.isWord_label (by decide) (by cases m <;> decide) cs

/-! ## The body behind the label -/

/-- With a text behind it that is trimmed in front, the marker has the first line of that text as
its body. -/
theorem marked?_label (hgap : ∀ c ∈ gap, isBlank c = true) (hne : cs ≠ [])
    (hcs : Stops isBlank cs) :
    Clause.marked? m.word (m.label.toList ++ ([':', ' '] ++ (gap ++ cs))) =
      some (Clause.firstLine cs) := by
  have hspace : ∀ c ∈ ' ' :: gap, isBlank c = true := List.forall_mem_cons.2 ⟨by decide, hgap⟩
  exact Clause.marked?_leading m.isWord_label.1 m.map_foldCase_label
    (Clause.body?_of_blanks hspace hne hcs)

/-- A label in front of a clause makes a clause. -/
theorem isClause_marked (hgap : ∀ c ∈ gap, isBlank c = true) (hcs : Requirements.IsClause cs) :
    Requirements.IsClause (m.label.toList ++ ([':', ' '] ++ (gap ++ cs))) := by
  have hseparator : ∀ c ∈ [':', ' '] ++ gap, Requirements.endsClause c = false := by
    intro c hc
    rcases List.mem_append.1 hc with hc | hc
    · exact (by decide : ∀ c ∈ [':', ' '], Requirements.endsClause c = false) c hc
    · exact Requirements.endsClause_of_isBlank (hgap c hc)
  have hjoined := m.isLine_label.isClause.join hseparator hcs
  rwa [List.append_assoc] at hjoined

/-- A marker with a trimmed text behind it asks for the courses on the first line. -/
theorem yields_marked (hgap : ∀ c ∈ gap, isBlank c = true) (hcs : Requirements.IsClause cs)
    (hantireq : ¬antireq.word <:+: (gap ++ cs).map foldCase)
    (hcoreq : ¬coreq.word <:+: (gap ++ cs).map foldCase) (hlevel : ¬SaysLevelAtLeast (gap ++ cs)) :
    m.Yields (CourseCode.mentioned (Clause.firstLine cs))
      (Requirements.ofChars (m.label.toList ++ ([':', ' '] ++ (gap ++ cs)))) := by
  have hstops : Stops isBlank cs := hcs.trimmed ▸ stops_trim cs
  refine yields_of_demand? (isClause_marked hgap hcs)
    (demand?_of_marked? ?_ (marked?_label hgap hcs.ne_nil hstops) ?_)
  · rw [find_levelPhrase?_behind, find_levelPhrase?_eq_none hlevel]
  · intro k hk
    have hne : k ≠ m := by
      rintro rfl
      exact Nat.lt_irrefl _ hk
    rw [marked?_behind hne]
    -- nothing is stronger than `Antireq`, and nothing weaker than `Prereq`
    cases k with
    | antireq => exact marked?_eq_none_of_not_infix hantireq
    | coreq => exact marked?_eq_none_of_not_infix hcoreq
    | prereq => cases m <;> exact absurd hk (by decide)

/-- A label with nothing behind it demands nothing. -/
theorem ofChars_label (m : Marker) : Requirements.ofChars (m.label.toList ++ [':']) = [] := by
  cases m <;> decide +kernel

/-- **A marker asks for the courses on the first line behind it.**  Take any text without periods
and semicolons, without the words `antireq` and `coreq`, and without the words `level at least`.
What is required with a marker in front of it are the courses on the first line of the text, with
the blanks around the text cut off; so these are the courses of the text exactly when none is named
on later lines only, which cannot be if the text has but one line. -/
theorem yields_remainder (m : Marker) (r : String)
    (hends : ∀ c ∈ r.toList, Requirements.endsClause c = false)
    (hantireq : ¬Clause.antireqMarker <:+: r.toList.map foldCase)
    (hcoreq : ¬Clause.coreqMarker <:+: r.toList.map foldCase)
    (hlevel : ¬SaysLevelAtLeast r.toList) :
    m.Yields (CourseCode.mentioned (Clause.firstLine (trim r.toList)))
        (Requirements.parse (some (m.label ++ ": " ++ r))).items ∧
      (m.Yields (CourseCode.mentioned r.toList)
          (Requirements.parse (some (m.label ++ ": " ++ r))).items ↔
        CourseCode.mentioned (Clause.firstLine (trim r.toList)) = CourseCode.mentioned r.toList) ∧
      ('\n' ∉ trim r.toList → m.Yields (CourseCode.mentioned r.toList)
        (Requirements.parse (some (m.label ++ ": " ++ r))).items) := by
  rw [Requirements.items_parse_some, toList_marked]
  have hyields : m.Yields (CourseCode.mentioned (Clause.firstLine (trim r.toList)))
      (Requirements.ofChars (m.label.toList ++ ([':', ' '] ++ r.toList))) := by
    obtain ⟨gap, back, hgap, hback, hr⟩ := exists_blanks_around r.toList
    have hsub : gap ++ trim r.toList <:+: r.toList := ⟨[], back, hr.symm⟩
    have hchars : m.label.toList ++ ([':', ' '] ++ r.toList) =
        m.label.toList ++ ([':', ' '] ++ (gap ++ trim r.toList)) ++ back := by
      rw [List.append_assoc, List.append_assoc, ← hr]
    rw [hchars, Requirements.ofChars_append_blanks hback]
    by_cases hnil : trim r.toList = []
    · have hspace : ∀ c ∈ ' ' :: gap, isBlank c = true :=
        List.forall_mem_cons.2 ⟨by decide, hgap⟩
      have hlabel : m.label.toList ++ ([':', ' '] ++ (gap ++ [])) =
          m.label.toList ++ [':'] ++ ' ' :: gap := by simp
      rw [hnil, hlabel, Requirements.ofChars_append_blanks hspace]
      exact .inl ⟨CourseCode.mentioned_nil, m.ofChars_label⟩
    · have hclause : Requirements.IsClause (trim r.toList) :=
        ⟨hnil, trim_trim _, fun c hc => hends c (mem_of_mem_trim hc)⟩
      refine yields_marked hgap hclause ?_ ?_ ?_
      · exact fun h => hantireq (h.trans (hsub.map foldCase))
      · exact fun h => hcoreq (h.trans (hsub.map foldCase))
      · exact fun h => hlevel (h.mono hsub)
  have hiff : m.Yields (CourseCode.mentioned r.toList)
      (Requirements.ofChars (m.label.toList ++ ([':', ' '] ++ r.toList))) ↔
      CourseCode.mentioned (Clause.firstLine (trim r.toList)) = CourseCode.mentioned r.toList :=
    ⟨fun h => hyields.codes_unique h, fun h => h ▸ hyields⟩
  refine ⟨hyields, hiff, ?_⟩
  intro hline
  rw [hiff, Clause.firstLine_eq_self hline, CourseCode.mentioned_trim]

/-- A text that names a course on each of two lines. -/
def twoLines : String := "CS 241\nECE 250"

/-- A remainder of two lines, the second of which is lost. -/
theorem yields_remainder_twoLines :
    ((∀ c ∈ twoLines.toList, Requirements.endsClause c = false) ∧
      ¬Clause.antireqMarker <:+: twoLines.toList.map foldCase ∧
      ¬Clause.coreqMarker <:+: twoLines.toList.map foldCase ∧ ¬SaysLevelAtLeast twoLines.toList) ∧
    prereq.Yields (CourseCode.mentioned (Clause.firstLine (trim twoLines.toList)))
      (Requirements.parse (some (prereq.label ++ ": " ++ twoLines))).items := by
  have hends : ∀ c ∈ twoLines.toList, Requirements.endsClause c = false := by decide
  have hantireq : ¬Clause.antireqMarker <:+: twoLines.toList.map foldCase := by decide
  have hcoreq : ¬Clause.coreqMarker <:+: twoLines.toList.map foldCase := by decide
  have hlevel : ¬SaysLevelAtLeast twoLines.toList := not_saysLevelAtLeast (by decide)
  exact ⟨⟨hends, hantireq, hcoreq, hlevel⟩,
    (yields_remainder prereq twoLines hends hantireq hcoreq hlevel).1⟩

/-- **Courses behind a marker can be lost**: those on the second line are. -/
theorem not_forall_yields_mentioned :
    ¬∀ (m : Marker) (r : String), (∀ c ∈ r.toList, Requirements.endsClause c = false) →
      ¬Clause.antireqMarker <:+: r.toList.map foldCase →
      ¬Clause.coreqMarker <:+: r.toList.map foldCase → ¬SaysLevelAtLeast r.toList →
      m.Yields (CourseCode.mentioned r.toList)
        (Requirements.parse (some (m.label ++ ": " ++ r))).items := by
  intro h
  have hyields := h prereq twoLines (by decide) (by decide) (by decide)
    (not_saysLevelAtLeast (by decide))
  have hnames : CourseCode.mentioned twoLines.toList ≠ [] := by decide +kernel
  have hcodes : (Requirements.parse (some (prereq.label ++ ": " ++ twoLines))).items.map
      (fun r => r.demand.codes) ≠ [CourseCode.mentioned twoLines.toList] := by decide +kernel
  rcases hyields with ⟨hnil, -⟩ | ⟨-, r, hitems, hdemands⟩
  · exact hnames hnil
  · rw [hitems, List.map_singleton, hdemands.codes_eq] at hcodes
    exact hcodes rfl

end Marker

end CoursePlan
