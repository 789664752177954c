import CoursePlan.Proofs.Requisite.Demands
import CoursePlan.Proofs.Requisite.Keyword
import CoursePlan.Proofs.Requisite.Line

/-!
# Clauses that list courses

A list of plain courses with a marker in front demands these courses: the keyword search finds the
marker and no other keyword, and the scan finds the courses.  Commas and the words `or` and `One of`
between and in front of the courses decide how they combine (`Clause.demand?_prereq_comma`,
`Clause.demand?_prereq_oneOf`, `Clause.demand?_prereq_or`).
-/

namespace CoursePlan

open Text
open scoped Text.Memberwise

/-- Courses that a catalog can print as a list: plain ones, each of them once. -/
def IsPlainList (codes : List CourseCode) : Prop :=
  codes.Nodup ∧ ∀ c ∈ codes, c.IsPlain

instance (codes : List CourseCode) : Decidable (IsPlainList codes) :=
  inferInstanceAs (Decidable (_ ∧ _))

namespace CourseCode

variable {codes : List CourseCode}

theorem stops_listed {separator : List Char} (hne : codes ≠ []) :
    Stops (fun x => isAsciiBlank x || x.isDigit) (listed separator codes) := by
  obtain ⟨c, codes, rfl⟩ := List.exists_cons_of_ne_nil hne
  obtain ⟨cs, hcs⟩ := exists_listed_cons separator c codes
  rw [hcs]
  exact stops_chars c cs

/-- A list of codes mentions just these codes, in order. -/
theorem mentioned_listed {separator : List Char} (hseparator : Separates separator)
    (h : IsPlainList codes) : mentioned (listed separator codes) = codes := by
  apply mentioned_of_scan (scan_listed hseparator codes) h.1
  intro c hc
  exact (h.2 c hc).1

/-- The words `One of` in front of a list mention nothing. -/
theorem mentioned_oneOf (hne : codes ≠ []) (h : IsPlainList codes) :
    mentioned ("One of ".toList ++ listed [',', ' '] codes) = codes := by
  have hcodes : ∀ c ∈ codes, isReserved c.subject = false := by
    intro c hc
    exact (h.2 c hc).1
  refine mentioned_of_scan ?_ h.1 hcodes
  have hof : Stops (fun x => isAsciiBlank x || x.isDigit)
      (['o', 'f'] ++ ' ' :: listed [',', ' '] codes) :=
    stops_append (by decide) (stops_cons.2 (by decide))
  show Mention.scan false (['O', 'n', 'e'] ++ ' ' :: (['o', 'f'] ++ ' ' :: listed [',', ' '] codes))
    = _
  rw [Mention.scan_prose (by decide) (by decide) hof,
    Mention.scan_prose (by decide) (by decide) (stops_listed hne), scan_listed separates_comma]

end CourseCode

namespace Clause

open CourseCode (listed)

/-! ## Keywords in a list -/

section Search

variable {α : Type} {word : List Char} {read : List Char → Option α} {codes : List CourseCode}

/-- No keyword is found in a list with commas. -/
theorem IsKeyword.find_comma (h : IsKeyword word read) (hcodes : ∀ c ∈ codes, c.IsPlain) :
    findAtWordStart read false (listed [',', ' '] codes) = none := by
  apply h.find_listed ?_ hcodes
  intro cs
  exact h.find_gap (by decide) cs

/-- No keyword is found in a list with `or`, unless it is read from that word. -/
theorem IsKeyword.find_or (h : IsKeyword word read) (hor : dropWord? word ['o', 'r'] = none)
    (hcodes : ∀ c ∈ codes, c.IsPlain) :
    findAtWordStart read false (listed [' ', 'o', 'r', ' '] codes) = none := by
  apply h.find_listed ?_ hcodes
  intro cs
  show findAtWordStart read true ([' '] ++ (['o', 'r'] ++ ([' '] ++ cs))) = _
  rw [h.find_gap (by decide), h.find_prose (by decide) (by decide) hor]

/-- No keyword is found in a list behind `One of`, unless it is read from these words. -/
theorem IsKeyword.find_oneOf (h : IsKeyword word read)
    (hone : dropWord? word ['O', 'n', 'e'] = none) (hof : dropWord? word ['o', 'f'] = none)
    (hcodes : ∀ c ∈ codes, c.IsPlain) :
    findAtWordStart read false ("One of ".toList ++ listed [',', ' '] codes) = none := by
  show findAtWordStart read false
    (['O', 'n', 'e'] ++ ([' '] ++ (['o', 'f'] ++ ([' '] ++ listed [',', ' '] codes)))) = none
  rw [h.find_prose (by decide) (by decide) hone, h.find_prose (by decide) (by decide) hof,
    h.find_comma hcodes]

end Search

/-! ## The keyword of a clause -/

variable {body : List Char}

/-- **A clause marked `Antireq` demands that the courses of its body are not taken.** -/
theorem demand?_antireq (h : IsLine body) :
    demand? ("Antireq: ".toList ++ body) = (courses? body).map .antirequisite := by
  have hmarked : marked? antireqMarker ("Antireq: ".toList ++ body) = some body :=
    marked?_line ['A', 'n', 't', 'i', 'r', 'e', 'q'] (by decide) (by decide) h
  rw [demand?, hmarked]

/-- **A clause marked `Coreq` demands to take the courses of its body along**, if nothing in the
body is marked `Antireq`. -/
theorem demand?_coreq (h : IsLine body) (hantireq : marked? antireqMarker body = none) :
    demand? ("Coreq: ".toList ++ body) = (courses? body).map .corequisite := by
  have hother : marked? antireqMarker ("Coreq: ".toList ++ body) = none := by
    show findAtWordStart _ false (['C', 'o', 'r', 'e', 'q'] ++ ([':', ' '] ++ body)) = none
    rw [isKeyword_antireq.find_prose (by decide) (by decide) (by decide)]
    exact hantireq
  have hmarked : marked? coreqMarker ("Coreq: ".toList ++ body) = some body :=
    marked?_line ['C', 'o', 'r', 'e', 'q'] (by decide) (by decide) h
  rw [demand?, hother, hmarked]

/-- The word `Prereq` is stepped over by the searches that come before the one for it. -/
theorem IsKeyword.find_prereq {α : Type} {word : List Char} {read : List Char → Option α}
    (h : IsKeyword word read) (hprereq : dropWord? word ['P', 'r', 'e', 'r', 'e', 'q'] = none)
    (hbody : findAtWordStart read false body = none) :
    findAtWordStart read false ("Prereq: ".toList ++ body) = none := by
  show findAtWordStart read false (['P', 'r', 'e', 'r', 'e', 'q'] ++ ([':', ' '] ++ body)) = none
  rw [h.find_prose (by decide) (by decide) hprereq, hbody]

/-- **A clause marked `Prereq` demands to have completed the courses of its body**, if the body
holds none of the keywords that come before `Prereq`. -/
theorem demand?_prereq (h : IsLine body) (hantireq : marked? antireqMarker body = none)
    (hcoreq : marked? coreqMarker body = none)
    (hlevel : findAtWordStart levelPhrase? false body = none) :
    demand? ("Prereq: ".toList ++ body) =
      (courses? body).map (fun codes => .courses (operator? body codes) codes) := by
  have hantireq' : marked? antireqMarker ("Prereq: ".toList ++ body) = none :=
    isKeyword_antireq.find_prereq (by decide) hantireq
  have hcoreq' : marked? coreqMarker ("Prereq: ".toList ++ body) = none :=
    isKeyword_coreq.find_prereq (by decide) hcoreq
  have hlevel' := isKeyword_level.find_prereq (by decide) hlevel
  have hmarked : marked? prereqMarker ("Prereq: ".toList ++ body) = some body :=
    marked?_line ['P', 'r', 'e', 'r', 'e', 'q'] (by decide) (by decide) h
  rw [demand?, hantireq', hcoreq', hlevel', hmarked]

/-! ## The operator of a list -/

section Operator

variable {codes : List CourseCode}

/-- A list with commas offers no choice. -/
theorem offersChoice_comma (hcodes : ∀ c ∈ codes, c.IsPlain) :
    offersChoice (listed [',', ' '] codes) = false := by
  rw [offersChoice, hasPhrase, hasPhrase, isKeyword_oneOf.find_comma hcodes,
    isKeyword_or.find_comma hcodes]
  rfl

/-- A list behind `One of` offers a choice. -/
theorem offersChoice_oneOf : offersChoice ("One of ".toList ++ listed [',', ' '] codes) = true := by
  have hfind : findAtWordStart (fun cs => (dropOneOf? cs).filter (fun rest => !startsInWord rest))
      false ("One of ".toList ++ listed [',', ' '] codes) = some (' ' :: listed [',', ' '] codes) :=
    findAtWordStart_of_read (List.cons_ne_nil _ _) rfl
  rw [offersChoice, hasPhrase, hfind]
  rfl

/-- A list of two codes or more with `or` offers a choice. -/
theorem offersChoice_or (hlength : 2 ≤ codes.length) (hcodes : ∀ c ∈ codes, c.IsPlain) :
    offersChoice (listed [' ', 'o', 'r', ' '] codes) = true := by
  -- with a comma in it, the word `or` would not make the list one to choose from
  have hcomma : (listed [' ', 'o', 'r', ' '] codes).contains ',' = false := by
    rw [Bool.eq_false_iff]
    intro h
    rcases CourseCode.mem_listed (List.contains_iff_mem.1 h) with h | ⟨c, -, h⟩
    · exact absurd h (by decide)
    · rcases c.mem_chars h with h | h | h <;> exact absurd h (by decide)
  have hor : hasPhrase dropOr? (listed [' ', 'o', 'r', ' '] codes) = true := by
    match codes, hlength with
    | c :: d :: codes, _ =>
      have hfind : findAtWordStart (fun cs => (dropOr? cs).filter (fun rest => !startsInWord rest))
          false ('o' :: 'r' :: ' ' :: listed [' ', 'o', 'r', ' '] (d :: codes)) =
            some (' ' :: listed [' ', 'o', 'r', ' '] (d :: codes)) :=
        findAtWordStart_of_read (List.cons_ne_nil _ _) rfl
      rw [hasPhrase, CourseCode.listed_cons_cons, isKeyword_or.find_chars (hcodes c (by simp))]
      show (findAtWordStart _ true (' ' :: 'o' :: 'r' :: ' ' :: listed _ (d :: codes))).isSome =
        true
      rw [findAtWordStart_gap (by decide), hfind]
      rfl
  rw [offersChoice, hor, hcomma, Bool.not_false, Bool.and_self, Bool.or_true]

end Operator

/-! ## Lists -/

section Lists

variable {codes : List CourseCode}

/-- The courses of a list are its codes. -/
theorem courses?_listed {separator : List Char} (hseparator : CourseCode.Separates separator)
    (hne : codes ≠ []) (h : IsPlainList codes) : courses? (listed separator codes) = some codes :=
  courses?_eq_some.2 ⟨CourseCode.mentioned_listed hseparator h, hne⟩

theorem isLine_comma (hne : codes ≠ []) : IsLine (listed [',', ' '] codes) :=
  .listed (by decide) hne

theorem isLine_or (hne : codes ≠ []) : IsLine (listed [' ', 'o', 'r', ' '] codes) :=
  .listed (by decide) hne

theorem isLine_oneOf (hne : codes ≠ []) : IsLine ("One of ".toList ++ listed [',', ' '] codes) := by
  have hwords : IsLine ['O', 'n', 'e', ' ', 'o', 'f'] := by decide
  have hspace : ∀ c ∈ [' '], breaksLine c = false := by decide
  exact hwords.join hspace (isLine_comma hne)

/-- A marked list with commas demands all of its courses, or the only one. -/
theorem demand?_prereq_comma (hne : codes ≠ []) (h : IsPlainList codes) :
    demand? ("Prereq: ".toList ++ listed [',', ' '] codes) =
      some (.courses (if 1 < codes.length then some .all else none) codes) := by
  have hantireq := isKeyword_antireq.find_comma h.2
  have hcoreq := isKeyword_coreq.find_comma h.2
  have hlevel := isKeyword_level.find_comma h.2
  rw [demand?_prereq (isLine_comma hne) hantireq hcoreq hlevel,
    courses?_listed CourseCode.separates_comma hne h, Option.map_some, operator?,
    if_neg (by rw [offersChoice_comma h.2]; decide)]

/-- A marked list behind `One of` demands one of its courses. -/
theorem demand?_prereq_oneOf (hne : codes ≠ []) (h : IsPlainList codes) :
    demand? ("Prereq: ".toList ++ ("One of ".toList ++ listed [',', ' '] codes)) =
      some (.courses (some .any) codes) := by
  have hantireq := isKeyword_antireq.find_oneOf (by decide) (by decide) h.2
  have hcoreq := isKeyword_coreq.find_oneOf (by decide) (by decide) h.2
  have hlevel := isKeyword_level.find_oneOf (by decide) (by decide) h.2
  have hcourses : courses? ("One of ".toList ++ listed [',', ' '] codes) = some codes :=
    courses?_eq_some.2 ⟨CourseCode.mentioned_oneOf hne h, hne⟩
  rw [demand?_prereq (isLine_oneOf hne) hantireq hcoreq hlevel, hcourses, Option.map_some,
    operator?, if_pos offersChoice_oneOf]

/-- A marked list with `or` demands one of its courses. -/
theorem demand?_prereq_or (hlength : 2 ≤ codes.length) (h : IsPlainList codes) :
    demand? ("Prereq: ".toList ++ listed [' ', 'o', 'r', ' '] codes) =
      some (.courses (some .any) codes) := by
  have hne : codes ≠ [] := by
    rintro rfl
    exact absurd hlength (by decide)
  have hantireq := isKeyword_antireq.find_or (by decide) h.2
  have hcoreq := isKeyword_coreq.find_or (by decide) h.2
  have hlevel := isKeyword_level.find_or (by decide) h.2
  rw [demand?_prereq (isLine_or hne) hantireq hcoreq hlevel,
    courses?_listed CourseCode.separates_or hne h, Option.map_some, operator?,
    if_pos (offersChoice_or hlength h.2)]

end Lists

end Clause

end CoursePlan
