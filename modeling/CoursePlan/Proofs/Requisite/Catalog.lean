import CoursePlan.Proofs.Requisite.Description
import CoursePlan.Proofs.Requisite.LevelClause
import CoursePlan.Proofs.Requisite.ListClause

/-!
# Requirements in catalog style

A `CatalogClause` is a requirement as a catalog prints it.  Printing a list of them with semicolons
in between and parsing the text gives back the same requirements in the same order
(`Requirements.parse_catalog`).
-/

namespace CoursePlan

open Text
open scoped Text.Memberwise
open Requirement (codeList toList_codeList)

/-- A requirement as a catalog prints it. -/
inductive CatalogClause where
  /-- `Prereq: ECE 250` -/
  | course (code : CourseCode)
  /-- `Prereq: ECE 250, CS 240` -/
  | allOf (codes : List CourseCode)
  /-- `Prereq: One of ECE 250, CS 240` -/
  | oneOf (codes : List CourseCode)
  /-- `Prereq: ECE 250 or CS 240` -/
  | anyOf (codes : List CourseCode)
  /-- `Coreq: ECE 250, CS 240` -/
  | corequisites (codes : List CourseCode)
  /-- `Antireq: ECE 250, CS 240` -/
  | antirequisites (codes : List CourseCode)
  /-- `Level at least 3A` or `Level at least 3A Software Engineering` -/
  | level (year : Nat) (half : Half) (program : Option String)

namespace CatalogClause

open Clause
open CourseCode (listed listed_singleton separates_comma)

/-- The clause as text. -/
def text : CatalogClause → String
  | course code => "Prereq: " ++ code.text
  | allOf codes => "Prereq: " ++ codeList codes
  | oneOf codes => "Prereq: One of " ++ codeList codes
  | anyOf codes => "Prereq: " ++ " or ".intercalate (codes.map CourseCode.text)
  | corequisites codes => "Coreq: " ++ codeList codes
  | antirequisites codes => "Antireq: " ++ codeList codes
  | level year half program =>
    "Level at least " ++ (Numeral.text year ++ String.ofList [half.letter]) ++
      match program with
      | none => ""
      | some p => " " ++ p

/-- What the clause demands. -/
def demand : CatalogClause → Demand
  | course code => .courses none [code]
  | allOf codes => .courses (some .all) codes
  | oneOf codes => .courses (some .any) codes
  | anyOf codes => .courses (some .any) codes
  | corequisites codes => .corequisite codes
  | antirequisites codes => .antirequisite codes
  | level year half program => .level (Level.ofIndex (2 * (year - 1) + half.offset)) program

/-- The clause can be printed in its form.  All-lists and lists with `or` have at least two courses,
and a level has to fit 32 bits. -/
def WellFormed : CatalogClause → Prop
  | course code => code.IsPlain
  | allOf codes => 2 ≤ codes.length ∧ IsPlainList codes
  | oneOf codes => codes ≠ [] ∧ IsPlainList codes
  | anyOf codes => 2 ≤ codes.length ∧ IsPlainList codes
  | corequisites codes => codes ≠ [] ∧ IsPlainList codes
  | antirequisites codes => codes ≠ [] ∧ IsPlainList codes
  | level year _ program =>
    (1 ≤ year ∧ 2 * year + 1 ≤ Numeral.max32) ∧ ∀ p ∈ program, IsProgram p

instance : DecidablePred WellFormed
  | course code => inferInstanceAs (Decidable code.IsPlain)
  | allOf _ => inferInstanceAs (Decidable (_ ∧ _))
  | oneOf _ => inferInstanceAs (Decidable (_ ∧ _))
  | anyOf _ => inferInstanceAs (Decidable (_ ∧ _))
  | corequisites _ => inferInstanceAs (Decidable (_ ∧ _))
  | antirequisites _ => inferInstanceAs (Decidable (_ ∧ _))
  | level _ _ _ => inferInstanceAs (Decidable (_ ∧ _))

/-! ## The characters of a printed clause -/

/-- The characters of the clause: its keyword, and then the courses or the level. -/
def chars : CatalogClause → List Char
  | course code => "Prereq: ".toList ++ listed [',', ' '] [code]
  | allOf codes => "Prereq: ".toList ++ listed [',', ' '] codes
  | oneOf codes => "Prereq: ".toList ++ ("One of ".toList ++ listed [',', ' '] codes)
  | anyOf codes => "Prereq: ".toList ++ listed [' ', 'o', 'r', ' '] codes
  | corequisites codes => "Coreq: ".toList ++ listed [',', ' '] codes
  | antirequisites codes => "Antireq: ".toList ++ listed [',', ' '] codes
  | level year half program => levelChars year half program

/-- Texts that the word `or` joins are the listed codes. -/
theorem toList_intercalate_or (codes : List CourseCode) :
    (" or ".intercalate (codes.map CourseCode.text)).toList =
      listed [' ', 'o', 'r', ' '] codes := by
  rw [String.toList_intercalate, List.map_map]
  exact congrArg _ (List.map_congr_left fun c _ => String.toList_ofList)

/-- The text of a level clause has the words of the clause. -/
theorem toList_text_level (year : Nat) (half : Half) (program : Option String) :
    (level year half program).text.toList = levelChars year half program := by
  have hyear : (Numeral.text year ++ String.ofList [half.letter]).toList =
      Level.labelOf year half := by
    rw [String.toList_append, Numeral.text, String.toList_ofList, String.toList_ofList]
    rfl
  cases program with
  | none =>
    show ("Level at least " ++ (Numeral.text year ++ String.ofList [half.letter]) ++ "").toList = _
    rw [String.toList_append, String.toList_append, hyear, List.append_assoc]
    rfl
  | some p =>
    show ("Level at least " ++ (Numeral.text year ++ String.ofList [half.letter]) ++
      (" " ++ p)).toList = _
    rw [String.toList_append, String.toList_append, hyear, String.toList_append, List.append_assoc]
    rfl

/-- The text of a clause has its characters. -/
theorem toList_text (clause : CatalogClause) : clause.text.toList = clause.chars := by
  cases clause with
  | course c =>
    show ("Prereq: " ++ c.text).toList = "Prereq: ".toList ++ listed [',', ' '] [c]
    rw [String.toList_append, listed_singleton]
    exact congrArg _ String.toList_ofList
  | allOf codes | corequisites codes | antirequisites codes =>
    exact String.toList_append.trans (congrArg _ (toList_codeList codes))
  | oneOf codes =>
    show ("Prereq: One of " ++ codeList codes).toList =
      "Prereq: ".toList ++ ("One of ".toList ++ listed [',', ' '] codes)
    rw [String.toList_append, toList_codeList]
    rfl
  | anyOf codes => exact String.toList_append.trans (congrArg _ (toList_intercalate_or codes))
  | level year half program => exact toList_text_level year half program

/-! ## Reading back what is printed -/

theorem ne_nil_of_two_le_length {codes : List CourseCode} (h : 2 ≤ codes.length) : codes ≠ [] := by
  rintro rfl
  exact absurd h (by decide)

/-- A printed clause is one line, and so it is found again as a clause of the text. -/
theorem isLine_chars {clause : CatalogClause} (h : clause.WellFormed) : IsLine clause.chars := by
  -- The keywords are lines themselves, up to the gap behind them.
  have hprereq : IsLine ['P', 'r', 'e', 'r', 'e', 'q'] := by decide
  have hcoreq : IsLine ['C', 'o', 'r', 'e', 'q'] := by decide
  have hantireq : IsLine ['A', 'n', 't', 'i', 'r', 'e', 'q'] := by decide
  have hgap : ∀ c ∈ [':', ' '], breaksLine c = false := by decide
  cases clause with
  | course c => exact hprereq.join hgap (isLine_comma (List.cons_ne_nil c []))
  | allOf codes => exact hprereq.join hgap (isLine_comma (ne_nil_of_two_le_length h.1))
  | oneOf codes => exact hprereq.join hgap (isLine_oneOf h.1)
  | anyOf codes => exact hprereq.join hgap (isLine_or (ne_nil_of_two_le_length h.1))
  | corequisites codes => exact hcoreq.join hgap (isLine_comma h.1)
  | antirequisites codes => exact hantireq.join hgap (isLine_comma h.1)
  | level year half program => exact isLine_levelChars h.2

/-- **A printed clause demands what it was printed for.** -/
theorem demand?_chars {clause : CatalogClause} (h : clause.WellFormed) :
    Clause.demand? clause.chars = some clause.demand := by
  cases clause with
  | course c =>
    have hc : c.IsPlain := h
    exact demand?_prereq_comma (List.cons_ne_nil c []) ⟨by simp, by simpa using hc⟩
  | allOf codes =>
    obtain ⟨hlength, hcodes⟩ := h
    have hmany : 1 < codes.length := hlength
    refine (demand?_prereq_comma (ne_nil_of_two_le_length hlength) hcodes).trans ?_
    rw [if_pos hmany]
    rfl
  | oneOf codes => exact demand?_prereq_oneOf h.1 h.2
  | anyOf codes => exact demand?_prereq_or h.1 h.2
  | corequisites codes =>
    obtain ⟨hne, hcodes⟩ := h
    have hantireq := isKeyword_antireq.find_comma hcodes.2
    refine (demand?_coreq (isLine_comma hne) hantireq).trans ?_
    exact congrArg _ (courses?_listed separates_comma hne hcodes)
  | antirequisites codes =>
    obtain ⟨hne, hcodes⟩ := h
    refine (demand?_antireq (isLine_comma hne)).trans ?_
    exact congrArg _ (courses?_listed separates_comma hne hcodes)
  | level year half program =>
    obtain ⟨⟨hyear, hfits⟩, hprogram⟩ := h
    exact demand?_level hyear hfits hprogram

end CatalogClause

namespace Requirements

/-- The demands of clauses that are written one after another. -/
theorem demands_intercalate {clauses : List CatalogClause}
    (h : ∀ clause ∈ clauses, clause.WellFormed) :
    demands ([';', ' '].intercalate (clauses.map CatalogClause.chars)) =
      clauses.map fun clause => (clause.chars, clause.demand) := by
  have hclauses : ∀ cs ∈ clauses.map CatalogClause.chars, IsClause cs := by
    intro cs hcs
    obtain ⟨clause, hclause, rfl⟩ := List.mem_map.1 hcs
    exact (CatalogClause.isLine_chars (h clause hclause)).isClause
  rw [demands, clauses_intercalate hclauses, List.filterMap_map, ← List.filterMap_eq_map']
  apply List.filterMap_congr
  intro clause hclause
  rw [Function.comp_apply, CatalogClause.demand?_chars (h clause hclause)]
  rfl

/-- **Parsing the text that a catalog prints for a list of requirements gives these requirements**,
in order, numbered from 0, and each with the words it was printed in. -/
theorem parse_catalog (clauses : List CatalogClause) (h : ∀ clause ∈ clauses, clause.WellFormed) :
    (parse (some ("; ".intercalate (clauses.map CatalogClause.text)))).items =
      clauses.zipIdx.map fun (clause, i) => ⟨clause.demand, clause.text, UInt32.ofNat i⟩ := by
  have htext : ("; ".intercalate (clauses.map CatalogClause.text)).toList =
      [';', ' '].intercalate (clauses.map CatalogClause.chars) := by
    rw [String.toList_intercalate, List.map_map]
    exact congrArg _ (List.map_congr_left fun clause _ => clause.toList_text)
  rw [items_parse, Option.getD_some, ofChars, demands, clauses_trim, ← demands, htext,
    demands_intercalate h, List.zipIdx_map, List.map_map]
  apply List.map_congr_left
  rintro ⟨clause, i⟩ -
  show Requirement.mk clause.demand (String.ofList clause.chars) (UInt32.ofNat i) = _
  rw [← clause.toList_text, String.ofList_toList]

/-- A requisite text with every form of clause. -/
def catalogSample : List CatalogClause :=
  let ece250 : CourseCode := ⟨['E', 'C', 'E'], ['2', '5', '0'], by decide, by decide⟩
  let cs240 : CourseCode := ⟨['C', 'S'], ['2', '4', '0', 'E'], by decide, by decide⟩
  [.course ece250, .allOf [ece250, cs240], .oneOf [cs240], .oneOf [ece250, cs240],
    .anyOf [cs240, ece250], .corequisites [cs240], .antirequisites [ece250, cs240],
    .level 3 .a none, .level 12 .b (some "Honours Math or Prereq")]

/-- One clause of each form, the last one with a program whose name ends in `Prereq`. -/
theorem parse_catalog_sample :
    (∀ clause ∈ catalogSample, clause.WellFormed) ∧
    (parse (some ("Prereq: ECE 250; Prereq: ECE 250, CS 240E; Prereq: One of CS 240E; " ++
      "Prereq: One of ECE 250, CS 240E; Prereq: CS 240E or ECE 250; Coreq: CS 240E; " ++
      "Antireq: ECE 250, CS 240E; Level at least 3A; " ++
      "Level at least 12B Honours Math or Prereq"))).items =
      catalogSample.zipIdx.map fun (clause, i) =>
        ⟨clause.demand, clause.text, UInt32.ofNat i⟩ := by
  have hwf : ∀ clause ∈ catalogSample, clause.WellFormed := by decide +kernel
  exact ⟨hwf, parse_catalog catalogSample hwf⟩

end Requirements

end CoursePlan
