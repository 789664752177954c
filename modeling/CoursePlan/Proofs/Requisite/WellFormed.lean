import CoursePlan.Proofs.CourseCode.Agreement
import CoursePlan.Proofs.Level
import CoursePlan.Proofs.Requisite.Locality

/-!
# What every reading of a text has in common

Whatever a requisite text says, its requirements are well formed (`Demand.WellFormed`): lists of
courses are not empty and have no repeats, every course is spelled somewhere in the wording, levels
have readable labels, and a program is a trimmed part of one line.  This is shown for each source of
a demand (`Clause.wellFormed_of_demand?`); all that is known about the readers of markers and level
phrases is that they return parts of the clause.

What evaluation and description do with empty lists therefore never shows in requirements that were
read from a text (`Requirements.parse_readFrom`).
-/

namespace CoursePlan

open Text

/-! ## Well-formed demands -/

/-- Some courses as they are read off a text. -/
structure CourseCode.ReadOff (text : List Char) (codes : List CourseCode) : Prop where
  ne_nil : codes ≠ []
  nodup : codes.Nodup
  /-- Every course is what some part of the text spells. -/
  spelled : ∀ c ∈ codes, ∃ part : String, part.toList <:+: text ∧ CourseCode.parse? part = some c
  /-- None is a word of prose with a number behind it. -/
  subject : ∀ c ∈ codes, String.ofList c.subject ∉ CourseCode.reservedWords

/-- A program as it is read off a text: a part of one line, without blanks around it. -/
structure ProgramReadOff (text : List Char) (program : String) : Prop where
  ne_empty : program ≠ ""
  trimmed : trim program.toList = program.toList
  oneLine : '\n' ∉ program.toList
  part : program.toList <:+: text

namespace Demand

/-- What is true of every demand that is read off a text. -/
def WellFormed (text : List Char) : Demand → Prop
  | courses op codes => CourseCode.ReadOff text codes ∧ (op = some .all → 2 ≤ codes.length)
  | level l program => l.toNat ≤ Numeral.max32 - 2 ∧ ∀ p ∈ program, ProgramReadOff text p
  | corequisite codes => CourseCode.ReadOff text codes
  | antirequisite codes => CourseCode.ReadOff text codes

/-- Somebody meets the demand, who has completed the courses `completed` and is at the level
`current`, if that is known.  For an empty list this is not what evaluation says. -/
def Met (completed : List CourseCode) (current : Option Level) : Demand → Prop
  | courses (some .any) codes => ∃ c ∈ codes, c ∈ completed
  | courses (some .all) codes => ∀ c ∈ codes, c ∈ completed
  | courses none codes => ∀ c ∈ codes, c ∈ completed
  | level l _ => ∃ m ∈ current, l.toNat ≤ m.toNat
  | corequisite codes => ∃ c ∈ codes, c ∈ completed
  | antirequisite codes => ∀ c ∈ codes, c ∉ completed

variable {text : List Char} {d : Demand}

/-- A well-formed demand is satisfied exactly when it is met. -/
theorem WellFormed.isSatisfied_iff (h : d.WellFormed text) (completed : List CourseCode)
    (current : Option Level) : d.isSatisfied completed current = true ↔ d.Met completed current := by
  cases d with
  | courses op codes =>
    have hne : codes ≠ [] := h.1.ne_nil
    cases op with
    | none => simp [isSatisfied, Met]
    | some op => cases op <;> simp [isSatisfied, Met, hne]
  | level l program => simp [isSatisfied, Met, Option.any_eq_true]
  | corequisite codes =>
    have hne : codes ≠ [] := CourseCode.ReadOff.ne_nil h
    simp [isSatisfied, Met, hne]
  | antirequisite codes => simp [isSatisfied, Met]

end Demand

/-- The wording of a well-formed requirement is not needed to describe it. -/
theorem Requirement.describe_eq {text : List Char} {r : Requirement} (h : r.demand.WellFormed text)
    (raw : String) : Requirement.describe { r with raw := raw } = r.describe := by
  obtain ⟨d, _, _⟩ := r
  cases d with
  | courses op codes => simp [describe, h.1.ne_nil]
  | level l program => rfl
  | corequisite codes => simp [describe, codesOr, CourseCode.ReadOff.ne_nil h]
  | antirequisite codes => simp [describe, codesOr, CourseCode.ReadOff.ne_nil h]

/-! ## Readers return parts of the text -/

namespace Clause

variable {cs clause body label program : List Char} {d : Demand}

theorem prefix_firstLine (cs : List Char) : firstLine cs <+: cs :=
  List.takeWhile_prefix _

theorem newline_not_mem_firstLine (cs : List Char) : '\n' ∉ firstLine cs := by
  intro h
  simpa using List.all_eq_true.1 List.all_takeWhile '\n' h

theorem suffix_dropColon (cs : List Char) : dropColon cs <:+ cs := by
  unfold dropColon
  split
  · exact List.suffix_cons _ _
  · exact List.suffix_rfl

theorem infix_of_body? (h : body? cs = some body) : body <:+: cs := by
  unfold body? at h
  split at h
  -- nothing but blanks follows the marker, and the body is one of them
  · obtain ⟨c, hc, rfl⟩ := Option.map_eq_some_iff.1 h
    have hmem : c ∈ cs := (List.mem_filter.1 (List.mem_of_getLast? hc)).1
    exact (List.singleton_infix_iff c cs).2 hmem
  · cases h
    apply (prefix_firstLine _).isInfix.trans
    exact ((List.dropWhile_suffix _).trans (suffix_dropColon cs)).isInfix

theorem infix_of_marked? {marker : List Char} (h : marked? marker clause = some body) :
    body <:+: clause := by
  obtain ⟨front, start, rfl, hread⟩ := exists_of_findAtWordStart h
  obtain ⟨rest, hword, hbody⟩ := Option.bind_eq_some_iff.1 hread
  apply (infix_of_body? hbody).trans
  exact ((suffix_of_dropWord? hword).trans (List.suffix_append front start)).isInfix

/-- The program of a level phrase is part of the text and stays on one line. -/
theorem program_of_levelPhrase? (h : levelPhrase? cs = some (label, program)) :
    program <:+: cs ∧ '\n' ∉ program := by
  unfold levelPhrase? at h
  obtain ⟨cs₁, h₁, h⟩ := Option.bind_eq_some_iff.1 h
  obtain ⟨cs₂, h₂, h⟩ := Option.bind_eq_some_iff.1 h
  obtain ⟨cs₃, h₃, h⟩ := Option.bind_eq_some_iff.1 h
  obtain ⟨cs₄, h₄, h⟩ := Option.bind_eq_some_iff.1 h
  obtain ⟨cs₅, h₅, h⟩ := Option.bind_eq_some_iff.1 h
  obtain ⟨cs₆, h₆, h⟩ := Option.bind_eq_some_iff.1 h
  -- what stands behind `level at least` is a suffix of the text
  have hsuffix : cs₆ <:+ cs :=
    calc cs₆ <:+ cs₅ := suffix_of_dropBlanks? h₆
      _ <:+ cs₄ := suffix_of_dropWord? h₅
      _ <:+ cs₃ := suffix_of_dropBlanks? h₄
      _ <:+ cs₂ := suffix_of_dropWord? h₃
      _ <:+ cs₁ := suffix_of_dropBlanks? h₂
      _ <:+ cs := suffix_of_dropWord? h₁
  split at h
  · cases h
  · next half rest hdigits =>
    dsimp only at h
    split at h
    · cases h
    · cases h
      refine ⟨?_, newline_not_mem_firstLine _⟩
      have hrest : rest <:+ cs₆ :=
        (List.suffix_cons half rest).trans (hdigits ▸ List.dropWhile_suffix Char.isDigit)
      apply (prefix_firstLine _).isInfix.trans
      exact ((List.dropWhile_suffix _).trans (hrest.trans hsuffix)).isInfix

/-! ## Every demand is well formed -/

/-- Courses that are read from a part of a clause are read off the clause. -/
theorem readOff_of_courses? {codes : List CourseCode} (hbody : body <:+: clause)
    (h : courses? body = some codes) : CourseCode.ReadOff clause codes := by
  obtain ⟨rfl, hne⟩ := courses?_eq_some.1 h
  refine ⟨hne, nodup_firstOccurrences _, ?_, ?_⟩
  · intro c hc
    obtain ⟨-, part, hpart, hread⟩ := CourseCode.exists_part_of_mem_mentioned hc
    refine ⟨String.ofList part, ?_, ?_⟩
    · rw [String.toList_ofList]
      exact hpart.trans hbody
    · rwa [CourseCode.parse?, String.toList_ofList]
  · intro c hc
    rw [← CourseCode.isReserved_iff, (CourseCode.exists_part_of_mem_mentioned hc).1]
    exact Bool.false_ne_true

/-- The trimmed name of a program is read off the clause if it is not empty. -/
theorem programReadOff_trim (hprogram : program <:+: clause) (hline : '\n' ∉ program)
    (hne : trim program ≠ []) : ProgramReadOff clause (String.ofList (trim program)) where
  ne_empty := by simpa using hne
  trimmed := by simp
  oneLine := by simpa using fun h => hline (mem_of_mem_trim h)
  part := by simpa using (infix_trim program).trans hprogram

/-- **Whatever a clause demands is well formed.** -/
theorem wellFormed_of_demand? (h : demand? clause = some d) : d.WellFormed clause := by
  cases source_of_demand? h with
  | antireq hbody hcodes => exact readOff_of_courses? (infix_of_marked? hbody) hcodes
  | coreq hbody hcodes => exact readOff_of_courses? (infix_of_marked? hbody) hcodes
  | level hphrase hlabel =>
    obtain ⟨front, start, rfl, hread⟩ := exists_of_findAtWordStart hphrase
    obtain ⟨hprogram, hline⟩ := program_of_levelPhrase? hread
    have hlegible : _ + 2 ≤ Numeral.max32 := Level.legible_of_ofChars? hlabel
    refine ⟨Nat.le_sub_of_add_le hlegible, ?_⟩
    intro p hp
    split at hp
    · cases hp
    · next hne =>
      cases hp
      have hpart := hprogram.trans (List.suffix_append front start).isInfix
      exact programReadOff_trim hpart hline (by simpa using hne)
  | prereq hbody hcodes =>
    refine ⟨readOff_of_courses? (infix_of_marked? hbody) hcodes, ?_⟩
    intro hall
    unfold operator? at hall
    split at hall
    · cases hall
    · split at hall
      · next hlength => exact hlength
      · cases hall
  | unmarked hcodes => exact ⟨readOff_of_courses? List.infix_rfl hcodes, nofun⟩

end Clause

/-! ## Whole texts -/

namespace Requirements

variable {cs : List Char} {text : Option String} {r : Requirement}

/-- Every requirement of a text is well-formed with respect to its own clause. -/
theorem wellFormed_of_mem_items (h : r ∈ (parse text).items) :
    r.demand.WellFormed r.raw.toList := by
  obtain ⟨clause, -, hdemand, hraw⟩ := mem_items h
  rw [hraw, String.toList_ofList]
  exact Clause.wellFormed_of_demand? hdemand

/-- Kept are the clauses that demand something. -/
theorem map_fst_demands (cs : List Char) :
    (demands cs).map Prod.fst = (clauses cs).filter fun clause => (Clause.demand? clause).isSome := by
  rw [demands, List.map_filterMap, ← List.filterMap_eq_filter]
  apply List.filterMap_congr
  intro clause _
  cases h : Clause.demand? clause <;> simp [Option.guard, h]

/-- Requirements carry the clauses that make demands, in order. -/
theorem map_raw_ofChars (cs : List Char) :
    (ofChars cs).map (fun r => r.raw.toList) = (demands cs).map Prod.fst := by
  rw [← List.zipIdx_map_fst 0 (demands cs), ofChars, List.map_map, List.map_map]
  apply List.map_congr_left
  simp

/-- Requirements are numbered from 0 on, as far as 32 bits go. -/
theorem map_group_ofChars (h : (ofChars cs).length ≤ Numeral.max32) :
    (ofChars cs).map (fun r => r.group.toNat) = List.range (ofChars cs).length := by
  rw [length_ofChars] at h ⊢
  rw [List.range_eq_range', ← List.zipIdx_map_snd 0 (demands cs), ofChars, List.map_map]
  apply List.map_congr_left
  intro demand hdemand
  have hsmall : demand.2 < UInt32.size := by
    have hindex := List.snd_lt_of_mem_zipIdx hdemand
    have hmax : Numeral.max32 < UInt32.size := by decide
    omega
  exact UInt32.toNat_ofNat_of_lt' hsmall

/-- What is true of the requirements that are read from any text. -/
structure ReadFrom (text : List Char) (r : Requirements) : Prop where
  raw : r.raw.toList = trim text
  hasRequirements_iff : r.hasRequirements = true ↔ ∃ q, q ∈ r.items
  /-- Requirements are numbered from 0 on. -/
  groups : r.items.map (fun q => q.group.toNat) = List.range r.items.length
  /-- The wordings are some of the clauses, in order. -/
  wordings : (r.items.map fun q => q.raw.toList).Sublist (clauses text)
  wellFormed : ∀ q ∈ r.items, q.demand.WellFormed q.raw.toList
  /-- Evaluation never meets an empty list. -/
  isSatisfied_iff : ∀ q ∈ r.items, ∀ completed current,
    q.isSatisfied completed current = true ↔ q.demand.Met completed current
  /-- No description falls back on the wording. -/
  describe_eq : ∀ q ∈ r.items, ∀ raw, Requirement.describe { q with raw := raw } = q.describe

/-- **All readings are well formed**, whatever the text says, as long as it has no more clauses than
32 bits can number. -/
theorem parse_readFrom (text : Option String)
    (hcount : (clauses (text.getD "").toList).length ≤ Numeral.max32) :
    ReadFrom (text.getD "").toList (parse text) := by
  have hitems : (parse text).items = ofChars (text.getD "").toList := by
    rw [items_parse, ofChars_trim]
  refine ⟨?_, ?_, ?_, ?_, ?_, ?_, ?_⟩
  · exact String.toList_ofList
  · simp [hasRequirements, List.eq_nil_iff_forall_not_mem]
  · rw [hitems]
    apply map_group_ofChars
    rw [length_ofChars]
    exact (length_demands_le _).trans hcount
  · rw [hitems, map_raw_ofChars, map_fst_demands]
    exact List.filter_sublist
  · intro q hq
    exact wellFormed_of_mem_items hq
  · intro q hq completed current
    exact (wellFormed_of_mem_items hq).isSatisfied_iff completed current
  · intro q hq raw
    exact Requirement.describe_eq (wellFormed_of_mem_items hq) raw

/-- Clauses that break lines, demand nothing, repeat courses or name a program. -/
def untidySample : String :=
  " Prereq: CS 241,\tcs241 or MATH 239,\nECE 250 ; Level at least 3A \t Honours\nonly. Coreq: TBA. ;"

/-- The second requirement of that text. -/
def untidyLevel : Requirement :=
  ⟨.level (.ofIndex 4) (some "Honours"), "Level at least 3A \t Honours\nonly", 1⟩

/-- A level with a program, in a text that is not tidy. -/
theorem parse_readFrom_untidySample :
    ((clauses ((some untidySample).getD "").toList).length ≤ Numeral.max32 ∧
      untidyLevel ∈ (parse (some untidySample)).items) ∧
    ReadFrom ((some untidySample).getD "").toList (parse (some untidySample)) ∧
      untidyLevel.demand.WellFormed untidyLevel.raw.toList := by
  have hcount : (clauses ((some untidySample).getD "").toList).length ≤ Numeral.max32 := by
    decide +kernel
  have hmem : untidyLevel ∈ (parse (some untidySample)).items := by decide +kernel
  have hread := parse_readFrom (some untidySample) hcount
  exact ⟨⟨hcount, hmem⟩, hread, hread.wellFormed untidyLevel hmem⟩

end Requirements

end CoursePlan
