import CoursePlan.Text.Blank

/-!
# Runs of characters

Readers take the longest run of characters of a set, and trimming drops the runs of blanks at both
ends.  A run ends where a text `Stops` it.
-/

namespace CoursePlan.Text

namespace Memberwise

/-- What holds for all members of a text is decided along the text, although there are only finitely
many characters to go through.  It is scoped, to be opened where texts are written out. -/
scoped instance decidableForallMem (p : Char → Prop) [DecidablePred p] (cs : List Char) :
    Decidable (∀ c ∈ cs, p c) :=
  List.decidableBAll p cs

end Memberwise

section Runs

variable {p : Char → Bool}

/-- The text does not start with a character of the set. -/
def Stops (p : Char → Bool) (cs : List Char) : Prop :=
  ∀ c ∈ cs.head?, p c = false

theorem stops_nil : Stops p [] := fun _ h => by cases h

theorem stops_cons {c : Char} {cs : List Char} : Stops p (c :: cs) ↔ p c = false :=
  ⟨fun h => h c rfl, fun h _ hd => by cases hd; exact h⟩

instance : (cs : List Char) → Decidable (Stops p cs)
  | [] => isTrue stops_nil
  | _ :: _ => decidable_of_iff _ stops_cons.symm

theorem stops_of_append {cs ds : List Char} (h : Stops p (cs ++ ds)) : Stops p cs := by
  cases cs with
  | nil => exact stops_nil
  | cons c cs => exact stops_cons.2 (h c rfl)

theorem stops_append {cs ds : List Char} (hne : cs ≠ []) (h : Stops p cs) : Stops p (cs ++ ds) := by
  cases cs with
  | nil => exact absurd rfl hne
  | cons c cs => exact stops_cons.2 (h c rfl)

/-- A text without characters of the set stops any run. -/
theorem stops_of_forall {cs : List Char} (h : ∀ c ∈ cs, p c = false) : Stops p cs :=
  fun c hc => h c (List.mem_of_head? hc)

theorem stops_dropWhile (cs : List Char) : Stops p (cs.dropWhile p) := by
  intro c hc
  have h := List.head?_dropWhile_not p cs
  rw [hc] at h
  exact h

theorem dropWhile_of_stops {cs : List Char} (h : Stops p cs) : cs.dropWhile p = cs := by
  cases cs with
  | nil => rfl
  | cons c cs => rw [List.dropWhile_cons, if_neg (by simp [h c rfl])]

/-- A run of characters ends where the text stops it. -/
theorem takeWhile_run {run rest : List Char} (hrun : ∀ c ∈ run, p c = true)
    (hrest : Stops p rest) : (run ++ rest).takeWhile p = run := by
  rw [List.takeWhile_append_of_pos hrun]
  cases rest with
  | nil => rw [List.takeWhile_nil, List.append_nil]
  | cons c rest => rw [List.takeWhile_cons, if_neg (by simp [hrest c rfl]), List.append_nil]

/-- Behind the run is the text that stops it. -/
theorem dropWhile_run {run rest : List Char} (hrun : ∀ c ∈ run, p c = true)
    (hrest : Stops p rest) : (run ++ rest).dropWhile p = rest := by
  rw [List.dropWhile_append_of_pos hrun, dropWhile_of_stops hrest]

end Runs

/-! ## Trimming -/

/-- Blanks in front do not change what trimming leaves. -/
theorem trim_append_left {b : List Char} (hb : ∀ c ∈ b, isBlank c = true) (cs : List Char) :
    trim (b ++ cs) = trim cs := by
  rw [trim, trimStart, List.dropWhile_append_of_pos hb]
  rfl

theorem trim_append_right {b : List Char} (hb : ∀ c ∈ b, isBlank c = true) (cs : List Char) :
    trim (cs ++ b) = trim cs := by
  rw [trim, trimStart, List.dropWhile_append]
  split
  · next h =>
    have hcs : trimStart cs = [] := List.isEmpty_iff.1 h
    have hnil : b.dropWhile isBlank = [] := by
      rw [← List.append_nil b, List.dropWhile_append_of_pos hb, List.dropWhile_nil]
    rw [hnil, trim, hcs]
  · have hrev : ∀ c ∈ b.reverse, isBlank c = true := fun c hc => hb c (List.mem_reverse.1 hc)
    rw [trimEnd, List.reverse_append, List.dropWhile_append_of_pos hrev]
    rfl

/-- A text is what trimming leaves of it, with blanks around. -/
theorem exists_blanks_around (cs : List Char) :
    ∃ front back, (∀ c ∈ front, isBlank c = true) ∧ (∀ c ∈ back, isBlank c = true) ∧
      cs = front ++ trim cs ++ back := by
  refine ⟨cs.takeWhile isBlank, ((trimStart cs).reverse.takeWhile isBlank).reverse, ?_, ?_, ?_⟩
  · exact fun c hc => (List.all_eq_true.1 List.all_takeWhile) c hc
  · exact fun c hc => (List.all_eq_true.1 List.all_takeWhile) c (List.mem_reverse.1 hc)
  · rw [trim, trimEnd, List.append_assoc, ← List.reverse_append, List.takeWhile_append_dropWhile,
      List.reverse_reverse, trimStart, List.takeWhile_append_dropWhile]

/-- A text that neither starts nor ends with a blank is left as it is. -/
theorem trim_eq_self {cs : List Char} (hfront : Stops isBlank cs)
    (hback : Stops isBlank cs.reverse) : trim cs = cs := by
  rw [trim, trimStart, dropWhile_of_stops hfront, trimEnd, dropWhile_of_stops hback,
    List.reverse_reverse]

/-- A trimmed text starts with no blank. -/
theorem stops_trim (cs : List Char) : Stops isBlank (trim cs) := by
  obtain ⟨back, hback⟩ : trim cs <+: trimStart cs := by
    rw [trim, trimEnd, ← List.reverse_suffix, List.reverse_reverse]
    exact List.dropWhile_suffix isBlank
  have hstart : Stops isBlank (trimStart cs) := stops_dropWhile cs
  rw [← hback] at hstart
  exact stops_of_append hstart

/-- A trimmed text ends with no blank. -/
theorem stops_reverse_trim (cs : List Char) : Stops isBlank (trim cs).reverse := by
  rw [trim, trimEnd, List.reverse_reverse]
  exact stops_dropWhile _

@[simp] theorem trim_trim (cs : List Char) : trim (trim cs) = trim cs :=
  trim_eq_self (stops_trim cs) (stops_reverse_trim cs)

/-- What trimming leaves is part of the text. -/
theorem infix_trim (cs : List Char) : trim cs <:+: cs := by
  obtain ⟨front, back, -, -, hcs⟩ := exists_blanks_around cs
  exact ⟨front, back, hcs.symm⟩

theorem mem_of_mem_trim {cs : List Char} {c : Char} (h : c ∈ trim cs) : c ∈ cs :=
  (infix_trim cs).subset h

end CoursePlan.Text
