import CoursePlan.Proofs.Requisite.Description
import CoursePlan.Proofs.Requisite.Line
import CoursePlan.Proofs.Requisite.WellFormed
import CoursePlan.Proofs.Text.Lines
import CoursePlan.Requisite.Table

/-!
# Requirements on a line each

Texts may break lines anywhere, but no description of a requirement does: courses and levels have
names of their own, and a program is read up to the end of its line
(`Requirements.oneLine_describe`).  So the table of requirements has one row for each
(`Requirements.hasLines_render`).
-/

namespace CoursePlan

open Text
open scoped Text.Memberwise

/-! ## Names -/

theorem IsLine.oneLine_ofList {cs : List Char} (h : IsLine cs) : OneLine (String.ofList cs) :=
  Text.oneLine_ofList ⟨h.ne_nil, h.oneLine⟩

theorem CourseCode.oneLine_text (c : CourseCode) : OneLine c.text :=
  (IsLine.chars c).oneLine_ofList

theorem Level.oneLine_label (l : Level) : OneLine l.label := by
  have hchars : IsLine l.labelChars := IsLine.of_forall isWord_labelOf.1 mem_labelOf
  exact hchars.oneLine_ofList

theorem Demand.unbroken_kind (d : Demand) : Unbroken d.kind := by
  cases d <;> (rw [kind]; decide)

/-! ## Descriptions -/

namespace Requirement

theorem oneLine_codeList {codes : List CourseCode} (hne : codes ≠ []) : OneLine (codeList codes) := by
  have hcomma : ∀ c ∈ [',', ' '], breaksLine c = false := by decide
  have hlisted := (IsLine.listed hcomma hne).oneLine_ofList
  rwa [← toList_codeList, String.ofList_toList] at hlisted

/-- **Well-formed requirements are described in one line**, wherever their wording breaks lines. -/
theorem oneLine_describe {text : List Char} {r : Requirement} (h : r.demand.WellFormed text) :
    OneLine r.describe := by
  have hcodes : ∀ {phrase codes}, OneLine phrase → CourseCode.ReadOff text codes →
      OneLine (phrase ++ codeList codes) := by
    intro phrase codes hphrase hread
    exact hphrase.append (oneLine_codeList hread.ne_nil).unbroken
  obtain ⟨d, raw, group⟩ := r
  cases d with
  | courses op codes =>
    have hread : CourseCode.ReadOff text codes := h.1
    have hempty : codes.isEmpty = false := by simpa using hread.ne_nil
    simp only [describe, hempty, Bool.false_eq_true, if_false]
    cases op with
    | none => exact oneLine_codeList hread.ne_nil
    | some op =>
      cases op with
      | all => exact hcodes (oneLine_ofList (by decide)) hread
      | any => exact hcodes (oneLine_ofList (by decide)) hread
  | level l program =>
    have hlevel : OneLine ("Level " ++ l.label ++ " or higher") := by
      apply OneLine.append _ (by decide)
      exact (oneLine_ofList (by decide)).append l.oneLine_label.unbroken
    apply hlevel.append
    cases program with
    | none => decide
    | some p => exact unbroken_append.2 ⟨by decide, (h.2 p rfl).oneLine⟩
  | corequisite codes =>
    have hread : CourseCode.ReadOff text codes := h
    rw [describe_corequisite rfl hread.ne_nil]
    exact hcodes (oneLine_ofList (by decide)) hread
  | antirequisite codes =>
    have hread : CourseCode.ReadOff text codes := h
    rw [describe_antirequisite rfl hread.ne_nil]
    exact hcodes (oneLine_ofList (by decide)) hread

end Requirement

/-! ## The table -/

namespace Requirements

variable {text : Option String} {r : Requirement}

/-- The description of a requirement that was read is one line, whatever the text was. -/
theorem oneLine_describe (h : r ∈ (parse text).items) : OneLine r.describe :=
  Requirement.oneLine_describe (wellFormed_of_mem_items h)

/-- A row of the table is one line if none of its cells is broken. -/
theorem hasLines_row {group kind text : String} (hgroup : Unbroken group) (hkind : Unbroken kind)
    (htext : Unbroken text) : HasLines 1 (row group kind text) := by
  apply Unbroken.append_hasLines _ HasLines.lineFeed
  have hspace : Unbroken " " := by decide
  simp only [unbroken_append, unbroken_padRight]
  exact ⟨⟨⟨⟨hgroup, hspace⟩, hkind⟩, hspace⟩, htext⟩

/-- The table has a heading, a rule, and one row for each requirement. -/
theorem hasLines_render (hne : (parse text).items ≠ []) :
    HasLines (2 + (parse text).items.length) (parse text).render := by
  have hheading : HasLines 1 (row "GROUP" "KIND" "REQUIREMENT") :=
    hasLines_row (by decide) (by decide) (by decide)
  have hrule : HasLines 1 (rule 60 ++ "\n") := (unbroken_rule 60).append_hasLines HasLines.lineFeed
  have hrows : HasLines (1 * (parse text).items.length)
      (String.join ((parse text).items.map requirementRow)) := by
    apply HasLines.join
    intro r hr
    exact hasLines_row (unbroken_numeral _) r.demand.unbroken_kind (oneLine_describe hr).unbroken
  have htable := (hheading.append hrule).append hrows
  rw [render, if_neg (by simpa using hne)]
  rwa [Nat.one_mul, ← String.append_assoc] at htable

end Requirements

end CoursePlan
