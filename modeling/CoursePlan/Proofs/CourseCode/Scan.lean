import CoursePlan.Proofs.CourseCode.Grammar

/-!
# Scanning for codes

What the scan for mentions does with a code in normal form and with other words: a code is read as
itself (`Mention.read?_chars`), and a word of prose is stepped over (`Mention.scan_prose`).  A code
in normal form that stands alone is read as itself as well (`CourseCode.parse?_text`).
-/

namespace CoursePlan

namespace CourseCode

open Text
open scoped Text.Memberwise

/-! ## Reading a code -/

/-- Characters that would be read along with the catalog number in front of them: those of a longer
word, the slash of an alternate number, and the hyphen of a range. -/
def bindsToNumber (c : Char) : Bool :=
  isAsciiWordChar c || c == '/' || c == '-'

theorem isAsciiWordChar_of_stops {rest : List Char} (h : Stops bindsToNumber rest) :
    Stops isAsciiWordChar rest := by
  intro c hc
  have hbinds := h c hc
  simp only [bindsToNumber, Bool.or_eq_false_iff] at hbinds
  exact hbinds.1.1

/-- **The text of a code is read as the code.** -/
theorem parse?_text (c : CourseCode) : parse? c.text = some c := by
  obtain ⟨x, xs, hsubject, hx⟩ := c.exists_subject
  obtain ⟨y, z, w, tail, hnumber, hy, -⟩ := c.exists_number
  have halpha : ∀ x ∈ c.subject, x.isAlpha = true := by
    intro x hx
    exact isAlpha_of_isUpper (c.isUpper_of_mem_subject x hx)
  have hspace : Stops Char.isAlpha (' ' :: c.number) := stops_cons.2 (by decide)
  have hfront : Stops isAsciiBlank c.chars := by
    rw [chars, hsubject]
    exact stops_cons.2 (isAsciiBlank_of_isUpper hx)
  have hgap : (' ' :: c.number).dropWhile isAsciiBlank = c.number := by
    rw [List.dropWhile_cons, if_pos (by decide)]
    apply dropWhile_of_stops
    rw [hnumber]
    exact stops_cons.2 (isAsciiBlank_of_isDigit hy)
  have hspan := spanNumber?_spelled c.isSpelledNumber_number stops_nil
  rw [List.append_nil] at hspan
  rw [parse?, text, String.toList_ofList, ofChars?, dropWhile_of_stops hfront, chars,
    takeWhile_run halpha hspace, dropWhile_run halpha hspace, hgap, hspan]
  exact c.ofParts?_self

/-- Different codes are written differently. -/
theorem chars_injective {c d : CourseCode} (h : c.chars = d.chars) : c = d := by
  have hparse := congrArg (fun cs => parse? (String.ofList cs)) h
  exact Option.some.inj ((parse?_text c).symm.trans (hparse.trans (parse?_text d)))

namespace Mention

/-- The mention that is the code itself. -/
def ofCode (c : CourseCode) : Mention :=
  ⟨c.subject, c.number, false⟩

/-- The mention of a code whose subject is not reserved is of that code. -/
theorem code?_ofCode {c : CourseCode} (h : isReserved c.subject = false) :
    (ofCode c).code? = some c := by
  simp [code?, ofCode, h, ofParts?_self]

/-- **A code is read as itself**, unless the text behind it belongs to its number. -/
theorem read?_chars (c : CourseCode) {rest : List Char} (h : Stops bindsToNumber rest) :
    read? (c.chars ++ rest) = some (ofCode c, rest) := by
  have hchars : c.chars ++ rest = spelling c.subject [' '] c.number [] rest := by
    rw [chars, List.append_assoc, List.cons_append]
    rfl
  have hslash : rest.head? ≠ some '/' := fun hhead => absurd (h '/' hhead) (by decide)
  have hhyphen : rest.head? ≠ some '-' := fun hhead => absurd (h '-' hhead) (by decide)
  have hparts : HasParts c.subject [' '] c.number [] rest :=
    { letters := fun x hx => isAlpha_of_isUpper (c.isUpper_of_mem_subject x hx)
      length := c.length_subject
      blanks := by decide
      spelled := c.isSpelledNumber_number
      ends := isAsciiWordChar_of_stops h
      alternate := isAlternate_nil hslash }
  rw [hchars, read?_spelling hparts, close_eq _ _ hhyphen]
  rfl

/-! ## Scanning -/

-- The scan recurses on what is left of the text.  These are its equations, one for each way to
-- go on; later proofs use them and do not unfold it.

/-- A mention that is read is noted, and the scan goes on behind it. -/
theorem scan_of_read? {cs rest : List Char} {m : Mention} (h : read? cs = some (m, rest)) :
    scan false cs = m :: scan (!m.isRange) rest := by
  cases cs with
  | nil => cases h
  | cons c cs =>
    rw [scan]
    split
    · next m' rest' h' =>
      rw [if_neg (by decide), h] at h'
      cases h'
      rfl
    · next h' =>
      rw [if_neg (by decide), h] at h'
      cases h'

/-- Where no mention is read, the scan goes on at the next character. -/
theorem scan_of_none {c : Char} {cs : List Char} (h : read? (c :: cs) = none) :
    scan false (c :: cs) = scan (isAsciiWordChar c) cs := by
  rw [scan]
  split
  · next h' =>
    rw [if_neg (by decide), h] at h'
    cases h'
  · rfl

theorem scan_inWord {c : Char} {cs : List Char} :
    scan true (c :: cs) = scan (isAsciiWordChar c) cs := by
  rw [scan]
  split
  · next h' => cases h'
  · rfl

/-- The scan passes over the rest of a word. -/
theorem scan_word {w rest : List Char} (hw : ∀ c ∈ w, isAsciiWordChar c = true) :
    scan true (w ++ rest) = scan true rest := by
  induction w with
  | nil => rfl
  | cons c w ih =>
    rw [List.cons_append, scan_inWord, hw c List.mem_cons_self]
    apply ih
    intro d hd
    exact hw d (List.mem_cons_of_mem c hd)

/-- Letters are no mention where a space follows them and then neither a blank nor a digit. -/
theorem read?_prose {w cs : List Char} (hw : ∀ c ∈ w, c.isAlpha = true)
    (hcs : Stops (fun c => isAsciiBlank c || c.isDigit) cs) : read? (w ++ ' ' :: cs) = none := by
  have hspace : Stops Char.isAlpha (' ' :: cs) := stops_cons.2 (by decide)
  have hgap : (' ' :: cs).dropWhile isAsciiBlank = cs := by
    rw [List.dropWhile_cons, if_pos (by decide)]
    apply dropWhile_of_stops
    intro c hc
    exact (Bool.or_eq_false_iff.1 (hcs c hc)).1
  have hnumber : spanNumber? cs = none := by
    unfold spanNumber?
    split
    · next x y z rest =>
      have hx := (Bool.or_eq_false_iff.1 (hcs x rfl)).2
      simp [hx]
    · rfl
  simp only [read?, takeWhile_run hw hspace, dropWhile_run hw hspace, hgap, hnumber, ite_self]

/-- **The scan steps over a word of prose** that has no number behind it. -/
theorem scan_prose {w cs : List Char} (hne : w ≠ []) (hw : ∀ c ∈ w, c.isAlpha = true)
    (hcs : Stops (fun c => isAsciiBlank c || c.isDigit) cs) :
    scan false (w ++ ' ' :: cs) = scan false cs := by
  have hword : ∀ c ∈ w, isAsciiWordChar c = true := by
    intro c hc
    simp [isAsciiWordChar, Char.isAlphanum, hw c hc]
  cases w with
  | nil => exact absurd rfl hne
  | cons c w =>
    have hread : read? (c :: (w ++ ' ' :: cs)) = none := read?_prose hw hcs
    have htail : ∀ d ∈ w, isAsciiWordChar d = true := by
      intro d hd
      exact hword d (List.mem_cons_of_mem c hd)
    rw [List.cons_append, scan_of_none hread, hword c List.mem_cons_self, scan_word htail,
      scan_inWord]
    rfl

end Mention

end CourseCode

end CoursePlan
