import CoursePlan.Proofs.CourseCode.Scan
import CoursePlan.Proofs.Distinct

/-!
# Listed codes

A list of codes in normal form, with a separator between them, mentions exactly these codes: the
scan reads each code and takes up again behind the separator (`scan_listed`).  Where the separator
is a comma, the list is the only one that is written like this (`listed_comma_injective`).
-/

namespace CoursePlan

namespace CourseCode

open Text
open scoped Text.Memberwise

/-- Codes in a row with a separator between them. -/
def listed (separator : List Char) (codes : List CourseCode) : List Char :=
  separator.intercalate (codes.map chars)

/-- A separator of codes: the code before it ends there, and the scan finds the code behind it. -/
structure Separates (separator : List Char) : Prop where
  ends : ∀ cs, Stops bindsToNumber (separator ++ cs)
  starts : ∀ (c : CourseCode) cs,
    Mention.scan true (separator ++ (c.chars ++ cs)) = Mention.scan false (c.chars ++ cs)

@[simp] theorem listed_nil (separator : List Char) : listed separator [] = [] := rfl

@[simp] theorem listed_singleton (separator : List Char) (c : CourseCode) :
    listed separator [c] = c.chars := by
  rw [listed, List.map_singleton, List.intercalate_singleton]

theorem listed_cons_cons (separator : List Char) (c d : CourseCode) (codes : List CourseCode) :
    listed separator (c :: d :: codes) =
      c.chars ++ (separator ++ listed separator (d :: codes)) := by
  rw [listed, List.map_cons, List.map_cons, List.intercalate_cons_cons, List.append_assoc]
  rfl

/-- What follows the first code of a list. -/
def listedTail (separator : List Char) : List CourseCode → List Char
  | [] => []
  | codes => separator ++ listed separator codes

/-- A list is its first code with the tail of the others behind it. -/
theorem listed_cons (separator : List Char) (c : CourseCode) (codes : List CourseCode) :
    listed separator (c :: codes) = c.chars ++ listedTail separator codes := by
  cases codes with
  | nil => rw [listed_singleton, listedTail, List.append_nil]
  | cons d codes => exact listed_cons_cons separator c d codes

theorem exists_listed_cons (separator : List Char) (c : CourseCode) (codes : List CourseCode) :
    ∃ cs, listed separator (c :: codes) = c.chars ++ cs :=
  ⟨_, listed_cons separator c codes⟩

/-- A character of a list is one of the separator or of a code. -/
theorem mem_listed {separator : List Char} {codes : List CourseCode} {x : Char}
    (hx : x ∈ listed separator codes) : x ∈ separator ∨ ∃ c ∈ codes, x ∈ c.chars := by
  induction codes with
  | nil => cases hx
  | cons c codes ih =>
    cases codes with
    | nil =>
      rw [listed_singleton] at hx
      exact .inr ⟨c, List.mem_cons_self, hx⟩
    | cons d codes =>
      rw [listed_cons_cons, List.mem_append, List.mem_append] at hx
      rcases hx with hx | hx | hx
      · exact .inr ⟨c, List.mem_cons_self, hx⟩
      · exact .inl hx
      · rcases ih hx with hx | ⟨e, he, hx⟩
        · exact .inl hx
        · exact .inr ⟨e, List.mem_cons_of_mem c he, hx⟩

/-- **The scan finds the codes of a list.** -/
theorem scan_listed {separator : List Char} (hsep : Separates separator) (codes : List CourseCode) :
    Mention.scan false (listed separator codes) = codes.map Mention.ofCode := by
  induction codes with
  | nil => rw [listed_nil, Mention.scan, List.map_nil]
  | cons c codes ih =>
    cases codes with
    | nil =>
      rw [listed_singleton, ← List.append_nil c.chars,
        Mention.scan_of_read? (Mention.read?_chars c stops_nil), Mention.scan]
      rfl
    | cons d codes =>
      -- behind the separator stands the next code, where the scan starts anew
      obtain ⟨cs, hcs⟩ := exists_listed_cons separator d codes
      rw [listed_cons_cons, Mention.scan_of_read? (Mention.read?_chars c (hsep.ends _)), hcs]
      show Mention.ofCode c :: Mention.scan true _ = _
      rw [hsep.starts, ← hcs, ih]
      rfl

/-- Mentions of codes whose subjects are not reserved are mentions of these codes. -/
theorem filterMap_code? {codes : List CourseCode}
    (hcodes : ∀ c ∈ codes, isReserved c.subject = false) :
    (codes.map Mention.ofCode).filterMap Mention.code? = codes := by
  induction codes with
  | nil => rfl
  | cons c codes ih =>
    obtain ⟨hc, hrest⟩ := List.forall_mem_cons.1 hcodes
    rw [List.map_cons, List.filterMap_cons_some (Mention.code?_ofCode hc), ih hrest]

/-- **A text that the scan reads like a list mentions the codes of the list.** -/
theorem mentioned_of_scan {cs : List Char} {codes : List CourseCode}
    (hscan : Mention.scan false cs = codes.map Mention.ofCode) (hnodup : codes.Nodup)
    (hcodes : ∀ c ∈ codes, isReserved c.subject = false) : mentioned cs = codes := by
  rw [mentioned, hscan, filterMap_code? hcodes, firstOccurrences_of_nodup hnodup]

theorem stops_chars (c : CourseCode) (cs : List Char) :
    Stops (fun c => isAsciiBlank c || c.isDigit) (c.chars ++ cs) := by
  obtain ⟨x, xs, hsubject, hx⟩ := c.exists_subject
  rw [chars, hsubject]
  exact stops_cons.2 (by simp [isAsciiBlank_of_isUpper hx, isDigit_of_isUpper hx])

/-- Codes are told apart where a comma and a space separate them. -/
theorem separates_comma : Separates [',', ' '] where
  ends _ := stops_cons.2 (by decide)
  starts c cs := by
    show Mention.scan true (',' :: ' ' :: (c.chars ++ cs)) = _
    rw [Mention.scan_inWord]
    exact Mention.scan_of_none (by rfl)

/-- Codes are told apart where the word `or` separates them. -/
theorem separates_or : Separates [' ', 'o', 'r', ' '] where
  ends _ := stops_cons.2 (by decide)
  starts c cs := by
    show Mention.scan true (' ' :: (['o', 'r'] ++ ' ' :: (c.chars ++ cs))) = _
    rw [Mention.scan_inWord]
    exact Mention.scan_prose (by decide) (by decide) (stops_chars c cs)

/-! ## Lists with commas -/

/-- There is no comma in a code. -/
theorem ne_comma_of_mem_chars (c : CourseCode) : ∀ x ∈ c.chars, (x != ',') = true := by
  intro x hx
  rw [bne_iff_ne]
  rintro rfl
  rcases c.mem_chars hx with h | h | h
  · exact absurd h (by decide)
  · exact absurd h (by decide)
  · exact absurd h (by decide)

/-- Behind the first code of a list comes a comma, if anything does. -/
theorem stops_listedTail_comma (codes : List CourseCode) :
    Stops (· != ',') (listedTail [',', ' '] codes) := by
  cases codes with
  | nil => exact stops_nil
  | cons c codes => exact stops_cons.2 (by decide)

/-- **A list with commas is written by one list of codes only.** -/
theorem listed_comma_injective {codes codes' : List CourseCode}
    (h : listed [',', ' '] codes = listed [',', ' '] codes') : codes = codes' := by
  have hne : ∀ (c : CourseCode) codes, listed [',', ' '] (c :: codes) ≠ [] := by
    intro c codes
    obtain ⟨x, xs, hsubject, -⟩ := c.exists_subject
    rw [listed_cons, chars, hsubject]
    exact List.cons_ne_nil _ _
  induction codes generalizing codes' with
  | nil =>
    cases codes' with
    | nil => rfl
    | cons d codes' => exact absurd h.symm (hne d codes')
  | cons c codes ih =>
    cases codes' with
    | nil => exact absurd h (hne c codes)
    | cons d codes' =>
      rw [listed_cons, listed_cons] at h
      -- The first code reaches to the first comma.
      have hchars := congrArg (List.takeWhile (· != ',')) h
      rw [takeWhile_run c.ne_comma_of_mem_chars (stops_listedTail_comma codes),
        takeWhile_run d.ne_comma_of_mem_chars (stops_listedTail_comma codes')] at hchars
      obtain rfl := chars_injective hchars
      have htail := List.append_cancel_left h
      cases codes with
      | nil =>
        cases codes' with
        | nil => rfl
        | cons e codes' => cases htail
      | cons e codes =>
        cases codes' with
        | nil => cases htail
        | cons e' codes' => rw [ih (List.append_cancel_left htail)]

end CourseCode

end CoursePlan
