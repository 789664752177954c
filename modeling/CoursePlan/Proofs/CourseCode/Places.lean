import CoursePlan.Proofs.CourseCode.Scan
import CoursePlan.Proofs.Distinct

/-!
# Where a text names a course

`CourseCode.mentioned` goes through a text once and takes up behind each mention that it has read.
What it lists can be said without a scan, one place of the text at a time: at a place stands the
name of a code if a word starts there that is spelled as a mention, is followed by no hyphen, and
does not begin with a word of prose (`CourseCode.NamedAt`).  Nothing is lost by stepping over
mentions, because none starts inside another (`CourseCode.filterMap_code?_scan`), and so the list
holds the names of all places, each once, in the order of their first places
(`CourseCode.mentioned_exact`).
-/

namespace CoursePlan

namespace CourseCode

open Text

/-! ## Names at places -/

/-- The text starts with a mention, and the name of the code in it is this one. -/
def StartsWithName (cs name : List Char) : Prop :=
  ∃ subject gap number alternate rest,
    cs = Mention.spelling subject gap number alternate rest ∧
      Mention.HasParts subject gap number alternate rest ∧ rest.head? ≠ some '-' ∧
      isReserved (capitals subject) = false ∧ name = capitals subject ++ ' ' :: capitals number

/-- At the `i`-th place of the text stands the name of a code: a word starts there, and the text
goes on with the name. -/
def NamedAt (cs : List Char) (i : Nat) (name : List Char) : Prop :=
  (∀ x ∈ (cs.take i).getLast?, isAsciiWordChar x = false) ∧ StartsWithName (cs.drop i) name

/-- The code in the mention that the text starts with. -/
def first? (cs : List Char) : Option CourseCode :=
  (Mention.read? cs).bind fun p => p.1.code?

/-- The code that a text starts with is the one whose name it starts with. -/
theorem first?_eq_some_iff {cs : List Char} {c : CourseCode} :
    first? cs = some c ↔ StartsWithName cs c.chars := by
  rw [first?, Option.bind_eq_some_iff]
  constructor
  · rintro ⟨⟨m, rest⟩, hread, hcode⟩
    obtain ⟨subject, gap, number, alternate, tail, rfl, hparts, hclose⟩ :=
      Mention.read?_eq_some_iff.1 hread
    by_cases hhyphen : tail.head? = some '-'
    -- a range names nothing
    · obtain ⟨tail, rfl⟩ := List.head?_eq_some_iff.1 hhyphen
      cases hclose
      cases hcode
    · rw [Mention.close_eq _ _ hhyphen] at hclose
      cases hclose
      rw [Mention.code?, Bool.false_or] at hcode
      split at hcode
      · cases hcode
      · next hreserved =>
        obtain ⟨d, hd, hchars⟩ := hparts.exists_code
        cases hd.symm.trans hcode
        exact ⟨subject, gap, number, alternate, _, rfl, hparts, hhyphen,
          Bool.eq_false_iff.2 hreserved, hchars⟩
  · rintro ⟨subject, gap, number, alternate, rest, rfl, hparts, hhyphen, hreserved, hname⟩
    obtain ⟨d, hd, hchars⟩ := hparts.exists_code
    refine ⟨(⟨subject, number, false⟩, rest), ?_, ?_⟩
    · rw [Mention.read?_spelling hparts, Mention.close_eq _ _ hhyphen]
    · rw [Mention.code?, hreserved]
      exact hd.trans (congrArg some (chars_injective (hchars.trans hname.symm)))

/-- What the text names at each of its places, from left to right.  `inWord` tells whether the text
comes right after an ASCII word character. -/
def places (inWord : Bool) : List Char → List (Option CourseCode)
  | [] => []
  | x :: cs => (if inWord then none else first? (x :: cs)) :: places (isAsciiWordChar x) cs

/-- The codes that are named at some place of the text, in the order of the places. -/
def named (inWord : Bool) (cs : List Char) : List CourseCode :=
  (places inWord cs).filterMap id

section Named

variable {inWord : Bool} {x : Char} {cs rest : List Char}

/-- A place has a code exactly when no word goes on into it and the text from there starts with the
name of the code. -/
theorem getElem?_places (front : List Char) (i : Nat) {c : CourseCode}
    (hfront : front.getLast?.any isAsciiWordChar = inWord) :
    (places inWord cs)[i]? = some (some c) ↔
      (∀ x ∈ (front ++ cs.take i).getLast?, isAsciiWordChar x = false) ∧
        StartsWithName (cs.drop i) c.chars := by
  induction cs generalizing inWord front i with
  | nil =>
    refine iff_of_false (by simp [places]) ?_
    rintro ⟨-, hname⟩
    rw [List.drop_nil, ← first?_eq_some_iff] at hname
    cases hname
  | cons x cs ih =>
    cases i with
    | zero =>
      rw [places, List.getElem?_cons_zero, Option.some.injEq, List.take_zero, List.append_nil,
        List.drop_zero, ← first?_eq_some_iff, ← hfront]
      cases front.getLast? with
      | none => simp
      | some y => cases hy : isAsciiWordChar y <;> simp [hy]
    | succ i =>
      have hlast : (front ++ [x]).getLast?.any isAsciiWordChar = isAsciiWordChar x := by simp
      rw [places, List.getElem?_cons_succ, ih (front ++ [x]) i hlast, List.append_assoc]
      rfl

/-- What is named in a text is named at its first character or behind it. -/
theorem named_cons : named inWord (x :: cs) =
    (if inWord then none else first? (x :: cs)).toList ++ named (isAsciiWordChar x) cs := by
  rw [named, places, List.filterMap_cons]
  cases if inWord then none else first? (x :: cs) <;> rfl

/-- Inside a word nothing is named. -/
theorem named_inWord : named true (x :: cs) = named (isAsciiWordChar x) cs :=
  named_cons

/-- Nothing is named where no letter stands. -/
theorem named_of_not_isAlpha (hx : x.isAlpha = false) :
    named inWord (x :: cs) = named (isAsciiWordChar x) cs := by
  have hfirst : first? (x :: cs) = none := by
    simp [first?, Mention.read?, hx]
  rw [named_cons, hfirst, ite_self]
  rfl

theorem named_word {w : List Char} (hw : ∀ x ∈ w, isAsciiWordChar x = true) :
    named true (w ++ rest) = named true rest := by
  induction w with
  | nil => rfl
  | cons x w ih =>
    obtain ⟨hx, hw⟩ := List.forall_mem_cons.1 hw
    rw [List.cons_append, named_inWord, hx, ih hw]

theorem named_number {number : List Char} (h : IsSpelledNumber number) :
    named inWord (number ++ rest) = named true rest := by
  have hdigit : ∀ {inWord x} {cs : List Char}, x.isDigit = true →
      named inWord (x :: cs) = named true cs := by
    intro inWord x cs hx
    rw [named_of_not_isAlpha (isAlpha_of_isDigit hx), isAsciiWordChar_of_isDigit hx]
  cases h with
  | plain hx hy hz =>
    show named inWord (_ :: _ :: _ :: rest) = _
    rw [hdigit hx, hdigit hy, hdigit hz]
  | lettered hx hy hz hl =>
    show named inWord (_ :: _ :: _ :: _ :: rest) = _
    rw [hdigit hx, hdigit hy, hdigit hz, named_inWord, isAsciiWordChar_of_isAlpha hl]

theorem named_gap {gap number : List Char} (hgap : ∀ x ∈ gap, isAsciiBlank x = true)
    (hnumber : IsSpelledNumber number) :
    named inWord (gap ++ (number ++ rest)) = named true rest := by
  induction gap generalizing inWord with
  | nil => exact named_number hnumber
  | cons x gap ih =>
    obtain ⟨hx, hgap⟩ := List.forall_mem_cons.1 hgap
    rw [List.cons_append, named_of_not_isAlpha (isAlpha_of_isAsciiBlank hx), ih hgap]

theorem named_alternate {alternate : List Char} (h : Mention.IsAlternate alternate rest) :
    named true (alternate ++ rest) = named true rest := by
  cases h with
  | number hnumber hends => rw [List.cons_append, named_inWord, named_number hnumber]
  | none h => rfl

/-- **No name starts inside a mention.** -/
theorem named_spelling {subject gap number alternate : List Char}
    (h : Mention.HasParts subject gap number alternate rest) :
    named false (Mention.spelling subject gap number alternate rest) =
      (Mention.close subject number rest).1.code?.toList ++ named true rest := by
  have hfirst : first? (Mention.spelling subject gap number alternate rest) =
      (Mention.close subject number rest).1.code? := by
    rw [first?, Mention.read?_spelling h]
    rfl
  have hlength := h.length.1
  cases subject with
  | nil => exact absurd hlength (by decide)
  | cons x subject =>
    obtain ⟨hx, hsubject⟩ := List.forall_mem_cons.1 h.letters
    have hword : ∀ y ∈ subject, isAsciiWordChar y = true := by
      intro y hy
      exact isAsciiWordChar_of_isAlpha (hsubject y hy)
    have htail : named true (subject ++ (gap ++ (number ++ (alternate ++ rest)))) =
        named true rest := by
      rw [named_word hword, named_gap h.blanks h.spelled, named_alternate h.alternate]
    rw [← hfirst, ← htail, ← isAsciiWordChar_of_isAlpha hx]
    exact named_cons

/-- **The scan finds what is named at any place.** -/
theorem filterMap_code?_scan :
    (Mention.scan inWord cs).filterMap Mention.code? = named inWord cs := by
  induction inWord, cs using Mention.scan.induct with
  | case1 inWord => rw [Mention.scan]; rfl
  | case2 inWord x cs m rest h ih =>
    cases inWord with
    | true => cases h
    | false =>
      have hread : Mention.read? (x :: cs) = some (m, rest) := h
      obtain ⟨subject, gap, number, alternate, tail, hcs, hparts, hclose⟩ :=
        Mention.read?_eq_some_iff.1 hread
      have hrest : named true tail = named (!m.isRange) rest := by
        unfold Mention.close at hclose
        -- behind the hyphen of a range a word can start at once
        split at hclose <;> cases hclose
        · exact named_inWord
        · rfl
      rw [Mention.scan_of_read? hread, hcs, named_spelling hparts, hclose, hrest, ← ih,
        List.filterMap_cons]
      cases m.code? <;> rfl
  | case3 inWord x cs h ih =>
    cases inWord with
    | true => rw [Mention.scan_inWord, named_inWord, ih]
    | false =>
      have hread : Mention.read? (x :: cs) = none := h
      rw [Mention.scan_of_none hread, named_cons, first?, hread, ih]
      rfl

end Named

theorem mem_filterMap_id {l : List (Option CourseCode)} {c : CourseCode} :
    c ∈ l.filterMap id ↔ ∃ i : Nat, l[i]? = some (some c) := by
  simp only [List.mem_filterMap, id_eq, exists_eq_right]
  exact List.mem_iff_getElem?

theorem mem_filterMap_take {l : List (Option CourseCode)} {n : Nat} {c : CourseCode} :
    c ∈ (l.take n).filterMap id ↔ ∃ i < n, l[i]? = some (some c) := by
  simp only [mem_filterMap_id, List.getElem?_take]
  constructor
  · rintro ⟨i, hi⟩
    split at hi
    · next hlt => exact ⟨i, hlt, hi⟩
    · cases hi
  · rintro ⟨i, hlt, hi⟩
    exact ⟨i, by rw [if_pos hlt, hi]⟩

/-- A code is named at a place exactly when the pass through the text finds it there. -/
theorem namedAt_iff {cs : List Char} {i : Nat} {c : CourseCode} :
    NamedAt cs i c.chars ↔ (places false cs)[i]? = some (some c) :=
  (getElem?_places [] i rfl).symm

/-- What is named anywhere is the name of a code. -/
theorem NamedAt.exists_code {cs name : List Char} {i : Nat} (h : NamedAt cs i name) :
    ∃ c : CourseCode, c.chars = name := by
  obtain ⟨-, subject, gap, number, alternate, rest, -, hparts, -, -, rfl⟩ := h
  obtain ⟨c, -, hc⟩ := hparts.exists_code
  exact ⟨c, hc⟩

/-- The codes that a text mentions are those named in it, without repeats. -/
theorem mentioned_eq (cs : List Char) : mentioned cs = firstOccurrences (named false cs) := by
  rw [mentioned, filterMap_code?_scan]

/-- A text mentions a code exactly when it names it at some place. -/
theorem mem_mentioned_iff {cs : List Char} {c : CourseCode} :
    c ∈ mentioned cs ↔ ∃ i, NamedAt cs i c.chars := by
  rw [mentioned_eq, mem_firstOccurrences, named, mem_filterMap_id]
  simp only [namedAt_iff]

/-- Of two codes in the list, the first is named before the second is named at all. -/
theorem pairwise_mentioned (cs : List Char) :
    (mentioned cs).Pairwise fun c d =>
      ∀ j, NamedAt cs j d.chars → ∃ i < j, NamedAt cs i c.chars := by
  rw [mentioned_eq]
  refine (pairwise_firstOccurrences _).imp ?_
  rintro c d ⟨hne, hbefore⟩ j hj
  rw [namedAt_iff] at hj
  -- the names up to the `j`-th place are a front of the list of all names
  have hsplit : named false cs = ((places false cs).take (j + 1)).filterMap id ++
      ((places false cs).drop (j + 1)).filterMap id := by
    rw [named, ← List.filterMap_append, List.take_append_drop]
  have hd : d ∈ ((places false cs).take (j + 1)).filterMap id :=
    mem_filterMap_take.2 ⟨j, Nat.lt_succ_self j, hj⟩
  obtain ⟨i, hi, hc⟩ := mem_filterMap_take.1 (hbefore _ _ hsplit hd)
  have hij : i ≠ j := by
    rintro rfl
    rw [hj] at hc
    cases hc
    exact hne rfl
  exact ⟨i, by omega, namedAt_iff.2 hc⟩

/-- **The courses that a text mentions are those that it names at some place**, each once, and in
the order of their first places. -/
theorem mentioned_exact (cs : List Char) :
    ((mentioned cs).map chars).Nodup ∧
      (∀ name, name ∈ (mentioned cs).map chars ↔ ∃ i, NamedAt cs i name) ∧
      ((mentioned cs).map chars).Pairwise fun name other =>
        ∀ j, NamedAt cs j other → ∃ i < j, NamedAt cs i name := by
  refine ⟨?_, ?_, List.pairwise_map.2 (pairwise_mentioned cs)⟩
  · have hnodup : (mentioned cs).Nodup := nodup_firstOccurrences _
    exact List.pairwise_map.2 (hnodup.imp fun hne heq => hne (chars_injective heq))
  · intro name
    rw [List.mem_map]
    constructor
    · rintro ⟨c, hc, rfl⟩
      exact mem_mentioned_iff.1 hc
    · rintro ⟨i, hi⟩
      obtain ⟨c, rfl⟩ := hi.exists_code
      exact ⟨c, mem_mentioned_iff.2 ⟨i, hi⟩, rfl⟩

end CourseCode

end CoursePlan
