import CoursePlan.Proofs.Numeral
import CoursePlan.Text.Column

/-!
# Lines of printed text

What is printed is put together of pieces that stay on a line (`Text.Unbroken`) and of whole lines
(`Text.HasLines`).  Whole lines one after the other have as many lines as all of them together
(`HasLines.append`), and a piece in front of whole lines only makes the first of them longer
(`Unbroken.append_hasLines`), so that the lines of a table can be counted row by row.
-/

namespace CoursePlan.Text

/-- The lines of a text, without the line feeds that end them.  The last line need not be ended. -/
def lines : List Char → List (List Char)
  | [] => []
  | c :: cs =>
    if c = '\n' then [] :: lines cs
    else match lines cs with
      | [] => [[c]]
      | line :: rest => (c :: line) :: rest

/-- A text of a number of whole lines. -/
structure HasLines (n : Nat) (s : String) : Prop where
  length_lines : (lines s.toList).length = n
  /-- The last line is ended as well. -/
  ended : ∀ c ∈ s.toList.getLast?, c = '\n'

/-- A text without line breaks. -/
def Unbroken (s : String) : Prop :=
  '\n' ∉ s.toList

instance (s : String) : Decidable (Unbroken s) :=
  inferInstanceAs (Decidable ('\n' ∉ s.toList))

/-- A text that fills a line, and only one. -/
structure OneLine (s : String) : Prop where
  ne_empty : s ≠ ""
  unbroken : Unbroken s

/-! ## Lines of characters -/

section Characters

variable {c : Char} {cs ds : List Char}

/-- A text that is not empty has a line. -/
theorem lines_ne_nil (h : cs ≠ []) : lines cs ≠ [] := by
  cases cs with
  | nil => exact absurd rfl h
  | cons c cs =>
    unfold lines
    split
    · exact List.cons_ne_nil _ _
    · split <;> exact List.cons_ne_nil _ _

theorem length_lines_cons (hc : c ≠ '\n') (h : cs ≠ []) :
    (lines (c :: cs)).length = (lines cs).length := by
  rw [lines, if_neg hc]
  split
  · next hnil => exact absurd hnil (lines_ne_nil h)
  · next hcons => rw [hcons, List.length_cons, List.length_cons]

/-- A text without line feeds adds no line to what it is put in front of. -/
theorem length_lines_append (h : '\n' ∉ cs) (hne : ds ≠ []) :
    (lines (cs ++ ds)).length = (lines ds).length := by
  induction cs with
  | nil => rfl
  | cons c cs ih =>
    obtain ⟨hc, hcs⟩ := List.ne_and_not_mem_of_not_mem_cons h
    rw [List.cons_append, length_lines_cons (Ne.symm hc) (List.append_ne_nil_of_right_ne_nil cs hne),
      ih hcs]

/-- Behind whole lines a new line starts. -/
theorem lines_append (h : ∀ c ∈ cs.getLast?, c = '\n') : lines (cs ++ ds) = lines cs ++ lines ds := by
  induction cs with
  | nil => rfl
  | cons c cs ih =>
    cases cs with
    | nil =>
      obtain rfl : c = '\n' := h c rfl
      rfl
    | cons d cs =>
      have hrest := ih (by simpa using h)
      obtain ⟨line, rest, hlines⟩ :=
        List.exists_cons_of_ne_nil (lines_ne_nil (List.cons_ne_nil d cs))
      rw [List.cons_append, lines, hrest, hlines, lines, hlines]
      split <;> rfl

end Characters

/-! ## Pieces of a line -/

section Pieces

variable {s t : String}

@[simp] theorem unbroken_append : Unbroken (s ++ t) ↔ Unbroken s ∧ Unbroken t := by
  simp [Unbroken]

/-- A line may go on with anything that does not break it. -/
theorem OneLine.append (hs : OneLine s) (ht : Unbroken t) : OneLine (s ++ t) where
  ne_empty := fun h => hs.ne_empty (String.append_eq_empty_iff.1 h).1
  unbroken := unbroken_append.2 ⟨hs.unbroken, ht⟩

/-- For a text given by its characters these are looked at one by one.  Long words that are written
out are decided through this lemma, too, as the kernel would otherwise encode and decode them. -/
theorem unbroken_ofList {cs : List Char} (h : '\n' ∉ cs) : Unbroken (String.ofList cs) := by
  rwa [Unbroken, String.toList_ofList]

theorem oneLine_ofList {cs : List Char} (h : cs ≠ [] ∧ '\n' ∉ cs) : OneLine (String.ofList cs) where
  ne_empty := by simpa using h.1
  unbroken := unbroken_ofList h.2

theorem unbroken_numeral (n : Nat) : Unbroken (Numeral.text n) := by
  apply unbroken_ofList
  intro h
  exact absurd (Numeral.isDigit_of_mem_digits _ h) (by decide)

@[simp] theorem unbroken_padRight {width : Nat} : Unbroken (padRight width s) ↔ Unbroken s := by
  rw [padRight, unbroken_append]
  apply and_iff_left
  apply unbroken_ofList
  simp [List.mem_replicate]

theorem unbroken_rule (width : Nat) : Unbroken (rule width) := by
  apply unbroken_ofList
  simp [List.mem_replicate]

end Pieces

/-! ## Whole lines -/

section Whole

variable {m n : Nat} {s t : String}

theorem HasLines.empty : HasLines 0 "" :=
  ⟨rfl, by simp⟩

theorem HasLines.lineFeed : HasLines 1 "\n" :=
  ⟨rfl, by simp⟩

/-- Texts that end their last lines have as many lines together as they have apart. -/
theorem HasLines.append (hs : HasLines m s) (ht : HasLines n t) : HasLines (m + n) (s ++ t) where
  length_lines := by
    rw [String.toList_append, lines_append hs.ended, List.length_append, hs.length_lines,
      ht.length_lines]
  ended := by
    intro c hc
    rw [String.toList_append, List.getLast?_append] at hc
    cases hlast : t.toList.getLast? with
    | none =>
      rw [hlast] at hc
      exact hs.ended c hc
    | some d =>
      rw [hlast] at hc
      exact ht.ended c (hlast ▸ hc)

/-- A piece in front of whole lines belongs to the first of them. -/
theorem Unbroken.append_hasLines (hs : Unbroken s) (ht : HasLines (n + 1) t) :
    HasLines (n + 1) (s ++ t) := by
  have hne : t.toList ≠ [] := by
    intro h
    have hlength := ht.length_lines
    rw [h] at hlength
    cases hlength
  refine ⟨?_, ?_⟩
  · rw [String.toList_append, length_lines_append hs hne, ht.length_lines]
  · intro c hc
    rw [String.toList_append, List.getLast?_append, List.getLast?_eq_some_getLast hne] at hc
    exact ht.ended c (List.getLast?_eq_some_getLast hne ▸ hc)

/-- Tables with rows of the same height. -/
theorem HasLines.join {α : Type} {row : α → String} {xs : List α}
    (h : ∀ x ∈ xs, HasLines n (row x)) : HasLines (n * xs.length) (String.join (xs.map row)) := by
  induction xs with
  | nil => exact HasLines.empty
  | cons x xs ih =>
    have hrest := ih fun y hy => h y (List.mem_cons_of_mem x hy)
    have htable := (h x List.mem_cons_self).append hrest
    rw [List.map_cons, String.join_cons, List.length_cons, Nat.mul_succ, Nat.add_comm]
    exact htable

end Whole

end CoursePlan.Text
