import CoursePlan.Proofs.CourseCode.Listed
import CoursePlan.Requisite.Requirement

/-!
# What a description tells

Requirements are described in words.  The courses of a list can be told from its description
(`Requirement.codeList_injective`), and so can those of a demand for courses to be taken along.
-/

namespace CoursePlan.Requirement

open CourseCode (listed listed_comma_injective)

/-- A list of codes in words has commas between them. -/
theorem toList_codeList (codes : List CourseCode) :
    (codeList codes).toList = listed [',', ' '] codes := by
  rw [codeList, String.toList_intercalate, List.map_map]
  exact congrArg _ (List.map_congr_left fun c _ => String.toList_ofList)

/-- Different lists of codes are different in words. -/
theorem codeList_injective {codes codes' : List CourseCode} (h : codeList codes = codeList codes') :
    codes = codes' := by
  have hchars := congrArg String.toList h
  rw [toList_codeList, toList_codeList] at hchars
  exact listed_comma_injective hchars

/-- Corequisites are described by the list of their codes. -/
theorem describe_corequisite {r : Requirement} {codes : List CourseCode}
    (hd : r.demand = .corequisite codes) (hne : codes ≠ []) :
    r.describe = "Corequisite: " ++ codeList codes := by
  simp only [describe, hd, codesOr, List.isEmpty_iff, hne, if_false]

/-- Antirequisites are described by the list of their codes. -/
theorem describe_antirequisite {r : Requirement} {codes : List CourseCode}
    (hd : r.demand = .antirequisite codes) (hne : codes ≠ []) :
    r.describe = "Cannot take with: " ++ codeList codes := by
  simp only [describe, hd, codesOr, List.isEmpty_iff, hne, if_false]

/-- Demands for the same description ask for the same courses to be taken along. -/
theorem corequisites_eq_of_describe_eq {r r' : Requirement} {codes codes' : List CourseCode}
    (hd : r.demand = .corequisite codes) (hd' : r'.demand = .corequisite codes')
    (hne : codes ≠ []) (hne' : codes' ≠ []) (h : r.describe = r'.describe) : codes = codes' := by
  rw [describe_corequisite hd hne, describe_corequisite hd' hne', String.append_right_inj] at h
  exact codeList_injective h

end CoursePlan.Requirement
