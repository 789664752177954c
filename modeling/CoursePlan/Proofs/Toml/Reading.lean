import CoursePlan.Proofs.Numeral
import CoursePlan.Proofs.Text.Runs
import CoursePlan.Toml.Document

/-!
# Reading plain documents

The plainest documents are made of headers `[key]` and lines `key = n`, with a bare key and a whole
number in decimal.  Each such line is read as the statement that it makes, and a text is read
statement by statement (`Toml.growLines?_statement`).
-/

namespace CoursePlan.Toml

open Text Numeral
open scoped Text.Memberwise

/-! ## Whole numbers -/

/-- Digits without underscores between them are left as they are. -/
theorem ungroup?_eq_some {isDigit : Char → Bool} (hunderscore : isDigit '_' = false) :
    ∀ {cs : List Char}, cs ≠ [] → (∀ c ∈ cs, isDigit c = true) → ungroup? isDigit cs = some cs
  | [], hne, _ => absurd rfl hne
  | [d], _, h => by rw [ungroup?, if_pos (h d List.mem_cons_self)]
  | c :: d :: cs, _, h => by
    have hd : d ≠ '_' := by
      rintro rfl
      rw [h '_' (by simp)] at hunderscore
      cases hunderscore
    have ih := ungroup?_eq_some hunderscore (List.cons_ne_nil d cs)
      fun c hc => h c (List.mem_cons_of_mem _ hc)
    rw [ungroup?, if_pos (h c List.mem_cons_self), ih]
    · rfl
    · exact List.cons_ne_nil d cs
    · exact fun _ heq => hd (List.cons.inj heq).1

section Digits

variable {n : Nat}

theorem wholeDigits?_digits (n : Nat) : wholeDigits? (digits n) = some (digits n) := by
  have hungroup : ungroup? Char.isDigit (digits n) = some (digits n) :=
    ungroup?_eq_some (by decide) (digits_ne_nil n) isDigit_of_mem_digits
  unfold wholeDigits?
  split
  · next h =>
    rw [hungroup, Option.some.injEq] at h
    cases tail_eq_nil_of_digits_eq h
  · exact hungroup

theorem ne_of_isDigit {c d : Char} (hd : d.isDigit = true) (hc : c.isDigit = false) : d ≠ c := by
  rintro rfl
  rw [hd] at hc
  cases hc

theorem cons_ne_of_isDigit {c d : Char} {cs ds : List Char} (hd : d.isDigit = true)
    (hc : c.isDigit = false) : d :: ds ≠ c :: cs :=
  fun h => ne_of_isDigit hd hc (List.cons.inj h).1

theorem splitSign_of_isDigit {d : Char} (hd : d.isDigit = true) (cs : List Char) :
    splitSign (d :: cs) = (false, d :: cs) := by
  unfold splitSign
  split
  · next h => exact absurd h (cons_ne_of_isDigit hd (by decide))
  · next h => exact absurd h (cons_ne_of_isDigit hd (by decide))
  · rfl

/-- Digits are read as the integer that they spell. -/
theorem unboundedInteger?_digits (n : Nat) : unboundedInteger? (digits n) = some (n : Int) := by
  have hsign : splitSign (digits n) = (false, digits n) := by
    obtain ⟨d, ds, h, hd⟩ := exists_digits n
    rw [h, splitSign_of_isDigit hd]
  have hvalue : ofDigits 10 (digits n) = n := ofDigits_toDigits (by decide) (by decide) n
  -- the prefixes of other bases are zeros with something behind them
  unfold unboundedInteger?
  split
  · next h => cases tail_eq_nil_of_digits_eq h
  · next h => cases tail_eq_nil_of_digits_eq h
  · next h => cases tail_eq_nil_of_digits_eq h
  · simp [hsign, wholeDigits?_digits, hvalue]

/-- **A whole number with a sign in 64 bits is read from its digits.** -/
theorem integer?_digits (hn : n ≤ maxSigned64) : integer? (digits n) = some (n : Int) := by
  have hfits : -(maxSigned64 + 1 : Int) ≤ n ∧ (n : Int) ≤ maxSigned64 := by omega
  rw [integer?, unboundedInteger?_digits, Option.bind_eq_bind, Option.bind_some, if_pos hfits]

theorem isWordPart_of_isDigit {c : Char} (hc : c.isDigit = true) : isWordPart c = true := by
  simp [isWordPart, Char.isAlphanum, hc]

/-- Digits that fit are read as an integer. -/
theorem wordValue?_digits (hn : n ≤ maxSigned64) :
    wordValue? (digits n) = some (.integer n) := by
  obtain ⟨d, ds, h, hd⟩ := exists_digits n
  have hne : ∀ {c : Char} {cs}, c.isDigit = false → digits n ≠ c :: cs := by
    intro c cs hc
    rw [h]
    exact cons_ne_of_isDigit hd hc
  rw [wordValue?, if_neg (hne (by decide)), if_neg (hne (by decide)), integer?_digits hn]

theorem wordValueAt?_digits (hn : n ≤ maxSigned64) (cs : List Char) :
    wordValueAt? (digits n ++ '\n' :: cs) = some (.integer n, '\n' :: cs) := by
  have hrun : ∀ c ∈ digits n, isWordPart c = true :=
    fun c hc => isWordPart_of_isDigit (isDigit_of_mem_digits c hc)
  have hstop : Stops isWordPart ('\n' :: cs) := stops_cons.2 (by decide)
  -- a time of day may follow a date after a space, but not on the next line
  have htime : timeAfterDate? (digits n) ('\n' :: cs) = none := by
    unfold timeAfterDate?
    split
    · next h => cases h
    · rfl
  rw [wordValueAt?, takeWhile_run hrun hstop, dropWhile_run hrun hstop, htime,
    wordValue?_digits hn]
  rfl

theorem value?_of_isDigit {d : Char} (hd : d.isDigit = true) (depth : Nat) (cs : List Char) :
    value? depth (d :: cs) = wordValueAt? (d :: cs) := by
  have hscalar : value?.scalar? (d :: cs) = wordValueAt? (d :: cs) := by
    unfold value?.scalar?
    split
    · next h => exact absurd h (cons_ne_of_isDigit hd (by decide))
    · next h => exact absurd h (cons_ne_of_isDigit hd (by decide))
    · rfl
  unfold value?
  split
  · exact hscalar
  · split
    · next h => exact absurd h (cons_ne_of_isDigit hd (by decide))
    · next h => exact absurd h (cons_ne_of_isDigit hd (by decide))
    · exact hscalar

/-- A number at the end of a line is read as its value. -/
theorem value?_digits (hn : n ≤ maxSigned64) (depth : Nat) (cs : List Char) :
    value? depth (digits n ++ '\n' :: cs) = some (.integer n, '\n' :: cs) := by
  rw [← wordValueAt?_digits hn cs]
  obtain ⟨d, ds, h, hd⟩ := exists_digits n
  rw [h]
  exact value?_of_isDigit hd depth _

end Digits

/-! ## Bare keys -/

/-- The characters of a bare key. -/
structure IsBareKey (key : List Char) : Prop where
  ne_nil : key ≠ []
  bare : ∀ c ∈ key, isBareKeyChar c = true

instance (key : List Char) : Decidable (IsBareKey key) :=
  decidable_of_iff (key ≠ [] ∧ ∀ c ∈ key, isBareKeyChar c = true)
    ⟨fun h => ⟨h.1, h.2⟩, fun h => ⟨h.1, h.2⟩⟩

section BareKeys

variable {key cs : List Char}

/-- A line that starts with a bare key starts with no character that is anything else. -/
theorem IsBareKey.head_ne (h : IsBareKey key) {c : Char} {ds : List Char}
    (hc : isBareKeyChar c = false) : key ++ cs ≠ c :: ds := by
  obtain ⟨d, ds', hkey⟩ := List.exists_cons_of_ne_nil h.ne_nil
  have hd := h.bare d (hkey ▸ List.mem_cons_self)
  rw [hkey, List.cons_append, Ne, List.cons.injEq]
  rintro ⟨rfl, -⟩
  rw [hd] at hc
  cases hc

theorem skipSpace_of_ne {c : Char} (hspace : c ≠ ' ') (htab : c ≠ '\t') (cs : List Char) :
    skipSpace (c :: cs) = c :: cs := by
  simp [skipSpace, hspace, htab]

theorem IsBareKey.skipSpace_append (h : IsBareKey key) (cs : List Char) :
    skipSpace (key ++ cs) = key ++ cs := by
  obtain ⟨c, ds, hkey⟩ := List.exists_cons_of_ne_nil h.ne_nil
  have hc := h.bare c (hkey ▸ List.mem_cons_self)
  rw [hkey, List.cons_append]
  apply skipSpace_of_ne
  · rintro rfl
    exact absurd hc (by decide)
  · rintro rfl
    exact absurd hc (by decide)

/-- A bare key is read up to where it is stopped. -/
theorem IsBareKey.key?_append (h : IsBareKey key) (hcs : Stops isBareKeyChar cs) :
    key? (key ++ cs) = some (String.ofList key, cs) := by
  unfold key?
  split
  · next heq => exact absurd heq (h.head_ne (by decide))
  · next heq => exact absurd heq (h.head_ne (by decide))
  · simp only [takeWhile_run h.bare hcs, dropWhile_run h.bare hcs]
    rw [if_neg (by simp [h.ne_nil])]

/-- A key without dots is read as its only part. -/
theorem IsBareKey.path?_append (h : IsBareKey key) (hcs : Stops isBareKeyChar cs)
    (hdot : Stops (· == '.') (skipSpace cs)) :
    path? (key ++ cs) = some (([], String.ofList key), skipSpace cs) := by
  have hparts : keyParts? (key ++ cs) = some ([String.ofList key], skipSpace cs) := by
    rw [keyParts?, h.skipSpace_append, h.key?_append hcs]
    dsimp only
    split
    · next heq =>
      rw [heq] at hdot
      exact absurd (stops_cons.1 hdot) (by decide)
    · rfl
  rw [path?, hparts]
  rfl

end BareKeys

/-! ## Lines -/

section Lines

variable {key line rest : List Char} {g g' : Growth} {s : Statement}

/-- A bare key in brackets opens a table. -/
theorem statement?_table (h : IsBareKey key) (rest : List Char) :
    statement? ('[' :: (key ++ ']' :: rest)) = some (.table [] (String.ofList key), rest) := by
  have hpath : path? (key ++ ']' :: rest) = some (([], String.ofList key), ']' :: rest) :=
    h.path?_append (stops_cons.2 (by decide)) (stops_cons.2 (by decide))
  unfold statement?
  split
  · next heq => exact absurd (List.cons.inj heq).2 (h.head_ne (by decide))
  · next heq =>
    rw [List.cons.injEq] at heq
    rw [← heq.2, hpath]
    rfl
  · next hno => exact absurd rfl (hno _)

/-- A bare key with a number is a pair. -/
theorem statement?_pair {n : Nat} (h : IsBareKey key) (hn : n ≤ maxSigned64) (rest : List Char) :
    statement? (key ++ ' ' :: '=' :: ' ' :: (digits n ++ '\n' :: rest)) =
      some (.pair [] (String.ofList key) (.integer n), '\n' :: rest) := by
  have hpath : path? (key ++ ' ' :: '=' :: ' ' :: (digits n ++ '\n' :: rest)) =
      some (([], String.ofList key), '=' :: ' ' :: (digits n ++ '\n' :: rest)) :=
    h.path?_append (stops_cons.2 (by decide)) (stops_cons.2 (by decide))
  have hskip : skipSpace (' ' :: (digits n ++ '\n' :: rest)) = digits n ++ '\n' :: rest := by
    obtain ⟨d, ds, hdigits, hd⟩ := exists_digits n
    rw [hdigits, skipSpace, List.dropWhile_cons_of_pos (by decide)]
    exact skipSpace_of_ne (ne_of_isDigit hd (by decide)) (ne_of_isDigit hd (by decide)) _
  unfold statement?
  split
  · next heq => exact absurd heq (h.head_ne (by decide))
  · next heq => exact absurd heq (h.head_ne (by decide))
  · simp [pair?, hpath, dropChar?, hskip, value?_digits hn]

/-- A line with a statement grows the document by it. -/
theorem growLines?_statement (hne : line ≠ []) (hspace : skipSpace line = line)
    (hbusy : isIdleLine line = false) (hs : statement? line = some (s, '\n' :: rest))
    (hadd : g.add s = some g') (hshorter : rest.length < line.length) :
    growLines? g line = growLines? g' rest := by
  have hend : dropLineEnd? ('\n' :: rest) = some rest := rfl
  rw [growLines?]
  simp [hne, hspace, hbusy, hs, hadd, hend, hshorter]

end Lines

/-! ## Texts -/

/-- A text without carriage returns has its line ends unified already. -/
theorem unifyLineEnds_eq_self : ∀ {cs : List Char}, '\r' ∉ cs → unifyLineEnds cs = cs
  | [], _ => rfl
  | c :: cs, h => by
    rw [List.mem_cons, not_or] at h
    rw [unifyLineEnds, unifyLineEnds_eq_self h.2]
    rintro _ heq -
    exact h.1 heq.symm

/-- A text that starts with an ASCII character and has line feeds only is read as it is. -/
theorem read?_eq {text : String} (hmark : text.toList.head? ≠ some '\ufeff')
    (hfeed : '\r' ∉ text.toList) :
    read? text = (growLines? .start text.toList).map fun g => Entries.toTable g.entries := by
  have hdrop : dropByteOrderMark text.toList = text.toList := by
    unfold dropByteOrderMark
    split
    · next h =>
      rw [h] at hmark
      exact absurd rfl hmark
    · rfl
  rw [read?, hdrop, unifyLineEnds_eq_self hfeed]

end CoursePlan.Toml
