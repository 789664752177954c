import CoursePlan.Proofs.Text.Runs
import CoursePlan.Text.Caseless

/-!
# Finding keywords

`dropWord?` reads one word letter by letter, and `findAtWordStart` tries a reader at every place
where a word starts.  The lemmas here follow the search through a text: it steps over a word at
whose start the reader fails (`findAtWordStart_skip`), and takes up again behind the next gap
(`findAtWordStart_gap`).  The places where the search tries its reader can be listed (`wordStarts`),
and the result is what is read from the first of them from which anything is read
(`findAtWordStart_of_first`).
-/

namespace CoursePlan.Text

open scoped Memberwise

/-! ## Reading a word -/

/-- A word is read when the text starts with it, letter case aside. -/
theorem dropWord?_eq_some {ws cs rest : List Char} :
    dropWord? ws cs = some rest ↔ ∃ front, cs = front ++ rest ∧ front.map foldCase = ws := by
  induction ws generalizing cs with
  | nil =>
    rw [dropWord?, Option.some.injEq]
    constructor
    · rintro rfl
      exact ⟨[], rfl, rfl⟩
    · rintro ⟨front, rfl, hfront⟩
      rw [List.map_eq_nil_iff] at hfront
      rw [hfront, List.nil_append]
  | cons w ws ih =>
    cases cs with
    | nil =>
      refine iff_of_false (by simp [dropWord?]) ?_
      rintro ⟨front, hcs, hfront⟩
      obtain ⟨rfl, -⟩ := List.append_eq_nil_iff.1 hcs.symm
      cases hfront
    | cons c cs =>
      rw [dropWord?]
      split
      · next hc =>
        rw [ih]
        constructor
        · rintro ⟨front, rfl, rfl⟩
          exact ⟨c :: front, rfl, by rw [List.map_cons, hc]⟩
        · rintro ⟨front, hcs, hfront⟩
          cases front with
          | nil => cases hfront
          | cons x front =>
            obtain ⟨-, htail⟩ := List.cons.inj hfront
            obtain ⟨-, rfl⟩ := List.cons.inj hcs
            exact ⟨front, rfl, htail⟩
      · next hc =>
        refine iff_of_false (by simp) ?_
        rintro ⟨front, hcs, hfront⟩
        cases front with
        | nil => cases hfront
        | cons x front =>
          obtain ⟨hx, -⟩ := List.cons.inj hfront
          obtain ⟨rfl, -⟩ := List.cons.inj hcs
          exact hc hx

/-- A word is not read across a character that is none of its letters. -/
theorem dropWord?_append {ws w rest : List Char}
    (h : ∀ c, rest.head? = some c → foldCase c ∉ ws) :
    dropWord? ws (w ++ rest) = (dropWord? ws w).map (· ++ rest) := by
  induction ws generalizing w with
  | nil => rfl
  | cons a ws ih =>
    cases w with
    | nil =>
      cases rest with
      | nil => rfl
      | cons x rest =>
        have hx : foldCase x ≠ a := fun heq => h x rfl (heq ▸ List.mem_cons_self)
        simp [dropWord?, hx]
    | cons x w =>
      rw [List.cons_append, dropWord?, dropWord?]
      split
      · exact ih fun c hc hmem => h c hc (List.mem_cons_of_mem a hmem)
      · rfl

theorem suffix_of_dropWord? {ws cs rest : List Char} (h : dropWord? ws cs = some rest) :
    rest <:+ cs := by
  obtain ⟨front, rfl, -⟩ := dropWord?_eq_some.1 h
  exact List.suffix_append front rest

/-! ## Reading blanks -/

/-- What is dropped are blanks, and at least one. -/
theorem exists_gap_of_dropBlanks? {cs rest : List Char} (h : dropBlanks? cs = some rest) :
    ∃ gap, cs = gap ++ rest ∧ gap ≠ [] ∧ ∀ x ∈ gap, isBlank x = true := by
  cases cs with
  | nil => cases h
  | cons c cs =>
    rw [dropBlanks?] at h
    split at h
    · next hc =>
      cases h
      refine ⟨c :: cs.takeWhile isBlank, ?_, List.cons_ne_nil _ _, ?_⟩
      · rw [List.cons_append, trimStart, List.takeWhile_append_dropWhile]
      · exact List.forall_mem_cons.2 ⟨hc, List.all_eq_true.1 List.all_takeWhile⟩
    · cases h

theorem suffix_of_dropBlanks? {cs rest : List Char} (h : dropBlanks? cs = some rest) :
    rest <:+ cs := by
  obtain ⟨gap, rfl, -⟩ := exists_gap_of_dropBlanks? h
  exact List.suffix_append gap rest

/-! ## Searching for a word -/

/-- A word: word characters only, and at least one. -/
def IsWord (w : List Char) : Prop :=
  w ≠ [] ∧ ∀ c ∈ w, isWordChar c = true

/-- What can stand between words: no word character, but something. -/
def IsGap (gap : List Char) : Prop :=
  gap ≠ [] ∧ ∀ c ∈ gap, isWordChar c = false

instance (w : List Char) : Decidable (IsWord w) :=
  inferInstanceAs (Decidable (_ ∧ _))

instance (gap : List Char) : Decidable (IsGap gap) :=
  inferInstanceAs (Decidable (_ ∧ _))

section Search

variable {α : Type} {read : List Char → Option α}

/-- What is read at the start of the text is the first success. -/
theorem findAtWordStart_of_read {cs : List Char} {a : α} (hne : cs ≠ []) (h : read cs = some a) :
    findAtWordStart read false cs = some a := by
  cases cs with
  | nil => exact absurd rfl hne
  | cons c cs =>
    rw [findAtWordStart, if_neg (by decide), h]

/-- Inside a word nothing is tried. -/
theorem findAtWordStart_inWord {c : Char} {cs : List Char} :
    findAtWordStart read true (c :: cs) = findAtWordStart read (isWordChar c) cs := by
  rw [findAtWordStart, if_pos rfl]

/-- Where nothing is read, the search goes on at the next character. -/
theorem findAtWordStart_of_none {c : Char} {cs : List Char} (h : read (c :: cs) = none) :
    findAtWordStart read false (c :: cs) = findAtWordStart read (isWordChar c) cs := by
  rw [findAtWordStart, if_neg (by decide), h]

/-- The search passes over the rest of a word. -/
theorem findAtWordStart_word {w rest : List Char} (hw : ∀ c ∈ w, isWordChar c = true) :
    findAtWordStart read true (w ++ rest) = findAtWordStart read true rest := by
  induction w with
  | nil => rfl
  | cons c w ih =>
    rw [List.cons_append, findAtWordStart_inWord, hw c List.mem_cons_self]
    apply ih
    intro d hd
    exact hw d (List.mem_cons_of_mem c hd)

/-- The search steps over a word at whose start nothing is read. -/
theorem findAtWordStart_skip {w rest : List Char} (hw : IsWord w) (h : read (w ++ rest) = none) :
    findAtWordStart read false (w ++ rest) = findAtWordStart read true rest := by
  obtain ⟨hne, hchars⟩ := hw
  cases w with
  | nil => exact absurd rfl hne
  | cons c w =>
    obtain ⟨hc, hw⟩ := List.forall_mem_cons.1 hchars
    rw [List.cons_append] at h ⊢
    rw [findAtWordStart_of_none h, hc, findAtWordStart_word hw]

/-- Behind a word, a character of a gap lets the search go on. -/
theorem findAtWordStart_gap {c : Char} {cs : List Char} (hc : isWordChar c = false) :
    findAtWordStart read true (c :: cs) = findAtWordStart read false cs := by
  rw [findAtWordStart_inWord, hc]

/-! ### Where words can start -/

/-- What the text looks like from each place where a word can start, from left to right.  `inWord`
tells whether the text itself comes right after a word character. -/
def wordStarts (inWord : Bool) : List Char → List (List Char)
  | [] => []
  | c :: cs => (if inWord then [] else [c :: cs]) ++ wordStarts (isWordChar c) cs

/-- The search tries all word starts from left to right. -/
theorem findAtWordStart_eq (inWord : Bool) (cs : List Char) :
    findAtWordStart read inWord cs = (wordStarts inWord cs).findSome? read := by
  induction cs generalizing inWord with
  | nil => rfl
  | cons c cs ih =>
    cases inWord with
    | true => exact ih (isWordChar c)
    | false =>
      rw [findAtWordStart, ih]
      rfl

/-- A word starts where something follows and no word goes on into it. -/
theorem mem_wordStarts_iff (front : List Char) {inWord : Bool} {cs rest : List Char}
    (hfront : front.getLast?.any isWordChar = inWord) :
    rest ∈ wordStarts inWord cs ↔ rest ≠ [] ∧ ∃ before, cs = before ++ rest ∧
      ∀ c ∈ (front ++ before).getLast?, isWordChar c = false := by
  induction cs generalizing inWord front with
  | nil =>
    refine iff_of_false (by simp [wordStarts]) ?_
    rintro ⟨hne, before, hcs, -⟩
    exact hne (List.append_eq_nil_iff.1 hcs.symm).2
  | cons c cs ih =>
    have hlast : (front ++ [c]).getLast?.any isWordChar = isWordChar c := by simp
    have hhere : rest ∈ (if inWord then [] else [c :: cs]) ↔
        rest = c :: cs ∧ ∀ d ∈ front.getLast?, isWordChar d = false := by
      rw [← hfront]
      cases front.getLast? with
      | none => simp
      | some d => cases hd : isWordChar d <;> simp [hd]
    rw [wordStarts, List.mem_append, hhere, ih (front ++ [c]) hlast]
    constructor
    · rintro (⟨rfl, hword⟩ | ⟨hne, before, rfl, hword⟩)
      · exact ⟨List.cons_ne_nil c cs, [], rfl, by rwa [List.append_nil]⟩
      · refine ⟨hne, c :: before, rfl, ?_⟩
        rwa [List.append_assoc] at hword
    · rintro ⟨hne, before, hcs, hword⟩
      cases before with
      | nil => exact .inl ⟨hcs.symm, by rwa [List.append_nil] at hword⟩
      | cons d before =>
        cases hcs
        refine .inr ⟨hne, before, rfl, ?_⟩
        rwa [List.append_assoc]

theorem length_le_of_mem_wordStarts {inWord : Bool} {cs rest : List Char}
    (h : rest ∈ wordStarts inWord cs) : rest.length ≤ cs.length := by
  induction cs generalizing inWord with
  | nil => cases h
  | cons c cs ih =>
    rcases List.mem_append.1 h with h | h
    · split at h
      · cases h
      · exact Nat.le_of_eq (congrArg List.length (List.mem_singleton.1 h))
    · exact Nat.le_succ_of_le (ih h)

/-- Less and less of the text is left. -/
theorem pairwise_wordStarts (inWord : Bool) (cs : List Char) :
    (wordStarts inWord cs).Pairwise fun a b => b.length < a.length := by
  induction cs generalizing inWord with
  | nil => exact .nil
  | cons c cs ih =>
    cases inWord with
    | true => exact ih (isWordChar c)
    | false =>
      refine .cons ?_ (ih (isWordChar c))
      intro rest hrest
      exact Nat.lt_succ_of_le (length_le_of_mem_wordStarts hrest)

/-- The search fails when nothing is read from any place where a word can start. -/
theorem findAtWordStart_eq_none_iff {cs : List Char} :
    findAtWordStart read false cs = none ↔ ∀ start ∈ wordStarts false cs, read start = none := by
  rw [findAtWordStart_eq, List.findSome?_eq_none_iff]

/-- The search stops at the first place from which something is read. -/
theorem findAtWordStart_of_first {cs start : List Char} {a : α} (hstart : start ∈ wordStarts false cs)
    (hread : read start = some a)
    (hfirst : ∀ other ∈ wordStarts false cs, start.length < other.length → read other = none) :
    findAtWordStart read false cs = some a := by
  obtain ⟨earlier, later, hstarts⟩ := List.append_of_mem hstart
  have hpairwise := pairwise_wordStarts false cs
  rw [hstarts, List.pairwise_append] at hpairwise
  rw [findAtWordStart_eq, List.findSome?_eq_some_iff]
  refine ⟨earlier, start, later, hstarts, hread, ?_⟩
  intro other hother
  have hmem : other ∈ wordStarts false cs := by
    rw [hstarts]
    exact List.mem_append_left _ hother
  exact hfirst other hmem (hpairwise.2.2 other hother start List.mem_cons_self)

/-- A success of the search is one of the reader at some place of the text. -/
theorem exists_of_findAtWordStart {inWord : Bool} {cs : List Char} {a : α}
    (h : findAtWordStart read inWord cs = some a) :
    ∃ front rest, cs = front ++ rest ∧ read rest = some a := by
  induction cs generalizing inWord with
  | nil => cases h
  | cons c cs ih =>
    rw [findAtWordStart] at h
    split at h
    · next b hb =>
      cases h
      split at hb
      · cases hb
      · exact ⟨[], c :: cs, rfl, hb⟩
    · obtain ⟨front, rest, rfl, hread⟩ := ih h
      exact ⟨c :: front, rest, rfl, hread⟩

end Search

end CoursePlan.Text
