import CoursePlan.Requisite.Parse

/-!
# The demands of a requisite text

Every requirement of a text comes from one of its clauses (`Requirements.mem_items`), and what a
clause demands comes from one of five places in it (`Clause.source_of_demand?`).  A clause only
demands courses that it names: a demand other than a level has a non-empty list of codes
(`Clause.codes_ne_nil_of_demand?`).  The lists that evaluation would treat as "nothing demanded"
therefore never come out of a text.
-/

namespace CoursePlan

namespace Clause

/-- The courses of a text are those that it mentions, of which there is at least one. -/
theorem courses?_eq_some {cs : List Char} {codes : List CourseCode} :
    courses? cs = some codes ↔ CourseCode.mentioned cs = codes ∧ codes ≠ [] := by
  unfold courses?
  split
  · next h => simp [h, eq_comm]
  · next h =>
    constructor
    · intro heq
      cases heq
      exact ⟨rfl, h⟩
    · rintro ⟨rfl, -⟩
      rfl

/-- Where in a clause a demand comes from: the body of a marker, a level phrase, or the clause. -/
inductive Source (clause : List Char) : Demand → Prop where
  | antireq {body : List Char} {codes : List CourseCode}
      (hbody : marked? antireqMarker clause = some body) (hcodes : courses? body = some codes) :
      Source clause (.antirequisite codes)
  | coreq {body : List Char} {codes : List CourseCode}
      (hbody : marked? coreqMarker clause = some body) (hcodes : courses? body = some codes) :
      Source clause (.corequisite codes)
  | level {label program : List Char} {l : Level}
      (hphrase : Text.findAtWordStart levelPhrase? false clause = some (label, program))
      (hlabel : Level.ofChars? label = some l) :
      Source clause (.level l
        (if (Text.trim program).isEmpty then none else some (String.ofList (Text.trim program))))
  | prereq {body : List Char} {codes : List CourseCode}
      (hbody : marked? prereqMarker clause = some body) (hcodes : courses? body = some codes) :
      Source clause (.courses (operator? body codes) codes)
  | unmarked {codes : List CourseCode} (hcodes : courses? clause = some codes) :
      Source clause (.courses none codes)

/-- **Every demand has a source.** -/
theorem source_of_demand? {clause : List Char} {d : Demand} (h : demand? clause = some d) :
    Source clause d := by
  unfold demand? at h
  split at h
  · next body hbody =>
    obtain ⟨codes, hcodes, rfl⟩ := Option.map_eq_some_iff.1 h
    exact .antireq hbody hcodes
  split at h
  · next body hbody =>
    obtain ⟨codes, hcodes, rfl⟩ := Option.map_eq_some_iff.1 h
    exact .coreq hbody hcodes
  split at h
  · next label program hphrase =>
    obtain ⟨l, hlabel, hl⟩ := Option.bind_eq_some_iff.1 h
    cases hl
    exact .level hphrase hlabel
  split at h
  · next body hbody =>
    obtain ⟨codes, hcodes, rfl⟩ := Option.map_eq_some_iff.1 h
    exact .prereq hbody hcodes
  · obtain ⟨codes, hcodes, rfl⟩ := Option.map_eq_some_iff.1 h
    exact .unmarked hcodes

/-- **A clause demands a level or names courses.** -/
theorem codes_ne_nil_of_demand? {clause : List Char} {d : Demand} (h : demand? clause = some d) :
    (∃ l rest, d = .level l rest) ∨ d.codes ≠ [] := by
  cases source_of_demand? h with
  | antireq hbody hcodes => exact .inr (courses?_eq_some.1 hcodes).2
  | coreq hbody hcodes => exact .inr (courses?_eq_some.1 hcodes).2
  | level hphrase hlabel => exact .inl ⟨_, _, rfl⟩
  | prereq hbody hcodes => exact .inr (courses?_eq_some.1 hcodes).2
  | unmarked hcodes => exact .inr (courses?_eq_some.1 hcodes).2

end Clause

namespace Requirements

/-- The demands of a text are those of its clauses. -/
theorem mem_demands {cs clause : List Char} {d : Demand} :
    (clause, d) ∈ demands cs ↔ clause ∈ clauses cs ∧ Clause.demand? clause = some d := by
  simp only [demands, List.mem_filterMap, Option.map_eq_some_iff]
  constructor
  · rintro ⟨clause', hmem, d', hd, heq⟩
    cases heq
    exact ⟨hmem, hd⟩
  · rintro ⟨hmem, hd⟩
    exact ⟨clause, hmem, d, hd, rfl⟩

/-- Requirements are read from the trimmed text; no text at all counts as an empty one. -/
theorem items_parse (text : Option String) :
    (parse text).items = ofChars (Text.trim (text.getD "").toList) := by
  rw [parse]

/-- Every requirement of a text is the demand of one of its clauses, in the words of the clause. -/
theorem mem_items {text : Option String} {r : Requirement} (h : r ∈ (parse text).items) :
    ∃ clause ∈ clauses (Text.trim (text.getD "").toList),
      Clause.demand? clause = some r.demand ∧ r.raw = String.ofList clause := by
  rw [items_parse] at h
  obtain ⟨⟨⟨clause, d⟩, i⟩, hmem, rfl⟩ := List.mem_map.1 h
  have hd : (clause, d) ∈ demands (Text.trim (text.getD "").toList) :=
    List.fst_mem_of_mem_zipIdx hmem
  obtain ⟨hclause, hdemand⟩ := mem_demands.1 hd
  exact ⟨clause, hclause, hdemand, rfl⟩

/-- **A requirement that was read from a text and does not demand a level names courses.** -/
theorem codes_ne_nil_of_mem_items {text : Option String} {r : Requirement} {d : Demand}
    (h : r ∈ (parse text).items) (hd : r.demand = d) (hlevel : ∀ l program, d ≠ .level l program) :
    d.codes ≠ [] := by
  obtain ⟨clause, -, hdemand, -⟩ := mem_items h
  rw [hd] at hdemand
  rcases Clause.codes_ne_nil_of_demand? hdemand with ⟨l, program, hl⟩ | hne
  · exact absurd hl (hlevel l program)
  · exact hne

end Requirements

/-! ## More completed courses, and higher levels -/

/-- Completing more courses and reaching a higher level never loses a demand, unless it is to stay
away from some courses. -/
theorem Demand.isSatisfied_mono {completed completed' : List CourseCode}
    {current current' : Option Level} (h : ∀ c ∈ completed, c ∈ completed')
    (hlevel : ∀ l ∈ current, ∃ l' ∈ current', l.toNat ≤ l'.toNat) {d : Demand}
    (hd : ∀ codes, d ≠ .antirequisite codes) (hsat : d.isSatisfied completed current = true) :
    d.isSatisfied completed' current' = true := by
  cases d with
  | courses op codes =>
    cases op with
    -- without an operator, all of the courses are demanded
    | none =>
      simp only [isSatisfied, List.all_eq_true, decide_eq_true_eq] at hsat ⊢
      intro c hc
      exact h c (hsat c hc)
    | some op =>
      cases op with
      | all =>
        simp only [isSatisfied, List.all_eq_true, decide_eq_true_eq] at hsat ⊢
        intro c hc
        exact h c (hsat c hc)
      | any =>
        simp only [isSatisfied, Bool.or_eq_true, List.any_eq_true, decide_eq_true_eq] at hsat ⊢
        exact hsat.imp_right fun ⟨c, hc, hmem⟩ => ⟨c, hc, h c hmem⟩
  | level l program =>
    simp only [isSatisfied, Option.any_eq_true, decide_eq_true_eq] at hsat ⊢
    obtain ⟨m, hm, hle⟩ := hsat
    obtain ⟨m', hm', hle'⟩ := hlevel m hm
    exact ⟨m', hm', Nat.le_trans hle hle'⟩
  | corequisite codes =>
    simp only [isSatisfied, Bool.or_eq_true, List.any_eq_true, decide_eq_true_eq] at hsat ⊢
    exact hsat.imp_right fun ⟨c, hc, hmem⟩ => ⟨c, hc, h c hmem⟩
  | antirequisite codes => exact absurd rfl (hd codes)

end CoursePlan
