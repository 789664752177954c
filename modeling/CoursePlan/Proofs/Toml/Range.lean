import CoursePlan.Toml.Document

/-!
# The integers of a document

Integers have at most 64 bits, one of which is a sign.  The reader of words checks this
(`Toml.integer?`); here it is carried through arrays, inline tables and the growing document to all
integers of the table that is read in the end (`Toml.inRange_of_read?`).
-/

namespace CoursePlan.Toml

open Numeral

/-! ## Values -/

/-- All integers in the value have at most 64 bits, one of which is a sign. -/
inductive Value.InRange : Value → Prop
  | string (s : String) : InRange (.string s)
  | integer {n : Int} (low : -(maxSigned64 + 1 : Int) ≤ n) (high : n ≤ maxSigned64) :
      InRange (.integer n)
  | float (x : Double) : InRange (.float x)
  | boolean (b : Bool) : InRange (.boolean b)
  | dateTime (written : String) : InRange (.dateTime written)
  | array {items : List Value} (each : ∀ v ∈ items, InRange v) : InRange (.array items)
  | table {entries : List (String × Value)} (each : ∀ e ∈ entries, InRange e.2) :
      InRange (.table entries)

/-- All integers in what stands under a key of a growing document are in range. -/
inductive Tree.InRange : Tree → Prop
  | leaf {v : Value} (value : v.InRange) : InRange (.leaf v)
  | branch {origin : Origin} {entries : List (String × Tree)}
      (each : ∀ e ∈ entries, InRange e.2) : InRange (.branch origin entries)
  | series {elements : List (List (String × Tree))}
      (each : ∀ es ∈ elements, ∀ e ∈ es, InRange e.2) : InRange (.series elements)

/-- All integers in a growing table are in range. -/
def Entries.InRange (es : Entries) : Prop :=
  ∀ e ∈ es, e.2.InRange

/-- What is found under a key is an entry. -/
theorem mem_of_lookup_eq_some {β : Type} {entries : List (String × β)} {key : String} {b : β}
    (h : entries.lookup key = some b) : (key, b) ∈ entries := by
  obtain ⟨before, after, rfl, -⟩ := List.lookup_eq_some_iff.1 h
  simp

variable {cs rest : List Char} {v : Value}

/-! ## Words -/

/-- A word is read as an integer only if that is in range. -/
theorem inRange_of_integer? {word : List Char} {n : Int} (h : integer? word = some n) :
    (Value.integer n).InRange := by
  obtain ⟨m, -, h⟩ := Option.bind_eq_some_iff.1 h
  split at h
  · next hm =>
    cases h
    exact .integer hm.1 hm.2
  · cases h

theorem inRange_of_wordValue? {word : List Char} (h : wordValue? word = some v) : v.InRange := by
  unfold wordValue? at h
  split at h
  · cases h
    exact .boolean true
  split at h
  · cases h
    exact .boolean false
  split at h
  · next hn =>
    cases h
    exact inRange_of_integer? hn
  split at h
  · cases h
    exact .float _
  split at h
  · cases h
    exact .dateTime _
  · cases h

theorem inRange_of_wordValueAt? (h : wordValueAt? cs = some (v, rest)) : v.InRange := by
  unfold wordValueAt? at h
  dsimp only at h
  split at h
  · cases h
    exact .dateTime _
  · obtain ⟨v', hv, h⟩ := Option.map_eq_some_iff.1 h
    cases h
    exact inRange_of_wordValue? hv

theorem inRange_of_scalar? (h : value?.scalar? cs = some (v, rest)) : v.InRange := by
  unfold value?.scalar? at h
  split at h
  · obtain ⟨_, -, h⟩ := Option.map_eq_some_iff.1 h
    cases h
    exact .string _
  · obtain ⟨_, -, h⟩ := Option.map_eq_some_iff.1 h
    cases h
    exact .string _
  · exact inRange_of_wordValueAt? h

/-! ## Lists of items -/

section Items

variable {α : Type} {P : α → Prop} {item? : List Char → Option (α × List Char)}
  {skip : List Char → List Char} {close : Char} {trailing : Bool} {as : List α}

/-- What holds for whatever is read as an item holds for all items of a list. -/
theorem forall_of_items? (hitem : ∀ {cs a rest}, item? cs = some (a, rest) → P a)
    (h : items? item? skip close trailing cs = some (as, rest)) : ∀ a ∈ as, P a := by
  fun_induction items? item? skip close trailing cs generalizing as rest with
  | case1 => cases h
  | case2 cs a after hread =>
    cases h
    simpa using hitem hread
  | case3 cs a after hread =>
    rename_i ih
    obtain ⟨⟨as', rest'⟩, hmore, h⟩ := Option.bind_eq_some_iff.1 h
    cases h
    exact List.forall_mem_cons.2 ⟨hitem hread, ih hmore⟩
  | case4 => cases h
  | case5 cs a after hread =>
    cases h
    simpa using hitem hread
  | case6 => cases h
  | case7 => cases h

/-- What holds for whatever is read as an item holds for all items of a list in brackets. -/
theorem forall_of_list? (hitem : ∀ {cs a rest}, item? cs = some (a, rest) → P a)
    (h : list? item? skip close trailing cs = some (as, rest)) : ∀ a ∈ as, P a := by
  unfold list? at h
  dsimp only at h
  split at h
  · cases h
    simp
  · exact forall_of_items? hitem h

end Items

/-! ## Growing tables -/

namespace Entries

variable {es es' : Entries} {key : String} {t : Tree} {dotted : Bool} {path : List String}
  {origin : Origin}

theorem InRange.nil : InRange [] := by
  simp [InRange]

theorem InRange.append_singleton (hes : InRange es) (ht : t.InRange) :
    InRange (es ++ [(key, t)]) := by
  intro e he
  rcases List.mem_append.1 he with he | he
  · exact hes e he
  · rw [List.mem_singleton.1 he]
    exact ht

theorem InRange.lookup (hes : InRange es) (h : es.lookup key = some t) : t.InRange :=
  hes (key, t) (mem_of_lookup_eq_some h)

theorem InRange.replace (hes : InRange es) (ht : t.InRange) : InRange (es.replace key t) := by
  intro e he
  obtain ⟨⟨k, old⟩, hmem, rfl⟩ := List.mem_map.1 he
  show (if k = key then t else old).InRange
  split
  · exact ht
  · exact hes _ hmem

/-- The element that grows, the last one of an array of tables. -/
theorem inRange_getLast {elements : List (List (String × Tree))}
    (h : ∀ es ∈ elements, InRange es) : InRange (elements.getLast?.getD []) := by
  cases hlast : elements.getLast? with
  | none => exact .nil
  | some es => exact h es (List.mem_of_getLast? hlast)

/-- A change that keeps integers in range does so at the end of any path. -/
theorem inRange_of_modifyAt {change : Origin → Entries → Option Entries}
    (hchange : ∀ {origin es es'}, change origin es = some es' → InRange es → InRange es')
    (h : modifyAt dotted change path origin es = some es') (hes : InRange es) : InRange es' := by
  induction path generalizing origin es es' with
  | nil => exact hchange h hes
  | cons key path ih =>
    rw [modifyAt] at h
    split at h
    · obtain ⟨inner, hinner, h⟩ := Option.bind_eq_some_iff.1 h
      cases h
      exact hes.append_singleton (.branch (ih hinner .nil))
    · cases h
    · next old inner hlookup =>
      split at h
      · cases h
      obtain ⟨inner', hinner, h⟩ := Option.bind_eq_some_iff.1 h
      cases h
      cases hes.lookup hlookup with
      | branch hbefore => exact hes.replace (.branch (ih hinner hbefore))
    · next elements hlookup =>
      obtain ⟨last, hlast, h⟩ := Option.bind_eq_some_iff.1 h
      cases h
      cases hes.lookup hlookup with
      | series hbefore =>
        refine hes.replace (.series ?_)
        intro es hmem
        rcases List.mem_append.1 hmem with hmem | hmem
        · exact hbefore es (List.dropLast_subset _ hmem)
        · rw [List.mem_singleton.1 hmem]
          exact ih hlast (inRange_getLast hbefore)

theorem inRange_of_define (h : define key t es = some es') (ht : t.InRange) (hes : InRange es) :
    InRange es' := by
  unfold define at h
  split at h
  · cases h
    exact hes.append_singleton ht
  · cases h

/-- Defining a value at the end of a path keeps the table in range. -/
theorem inRange_of_definePair {v : Value} (h : definePair path key v es = some es')
    (hv : v.InRange) (hes : InRange es) : InRange es' := by
  refine inRange_of_modifyAt ?_ h hes
  intro origin es es' h hes
  split at h
  · cases h
  · exact inRange_of_define h (.leaf hv) hes

theorem inRange_of_openTable (h : openTable key es = some es') (hes : InRange es) :
    InRange es' := by
  unfold openTable at h
  split at h
  · cases h
    exact hes.append_singleton (.branch InRange.nil)
  · next inner hlookup =>
    cases h
    cases hes.lookup hlookup with
    | branch hinner => exact hes.replace (.branch hinner)
  · cases h

theorem inRange_of_beginElement (h : beginElement key es = some es') (hes : InRange es) :
    InRange es' := by
  have hempty : ∀ es ∈ [([] : List (String × Tree))], InRange es := by
    simpa using InRange.nil
  unfold beginElement at h
  split at h
  · cases h
    exact hes.append_singleton (.series hempty)
  · next elements hlookup =>
    cases h
    cases hes.lookup hlookup with
    | series hbefore =>
      refine hes.replace (.series ?_)
      exact List.forall_mem_append.2 ⟨hbefore, hempty⟩
  · cases h

end Entries

/-! ## Finished tables -/

theorem Entries.toTable_eq (es : Entries) :
    Entries.toTable es = es.map fun e => (e.1, e.2.toValue) := by
  induction es with
  | nil => rfl
  | cons e es ih => rw [Entries.toTable, ih, List.map_cons]

theorem Entries.toTables_eq (elements : List (List (String × Tree))) :
    Entries.toTables elements = elements.map fun es => .table (Entries.toTable es) := by
  induction elements with
  | nil => rfl
  | cons es elements ih => rw [Entries.toTables, ih, List.map_cons]

/-- A table is in range if the values of all its entries are. -/
theorem Entries.inRange_table {es : Entries} (h : ∀ e ∈ es, e.2.toValue.InRange) :
    (Value.table (Entries.toTable es)).InRange := by
  refine .table ?_
  rw [Entries.toTable_eq]
  exact List.forall_mem_map.2 h

/-- What has grown in range is a value in range. -/
theorem Tree.InRange.toValue {t : Tree} (h : t.InRange) : t.toValue.InRange := by
  induction h with
  | leaf hv => rwa [Tree.toValue]
  | branch _ ih =>
    rw [Tree.toValue]
    exact Entries.inRange_table ih
  | series _ ih =>
    rw [Tree.toValue, Entries.toTables_eq]
    refine .array (List.forall_mem_map.2 fun es hes => ?_)
    exact Entries.inRange_table (ih es hes)

theorem Entries.InRange.toTable {es : Entries} (h : Entries.InRange es) :
    (Value.table (Entries.toTable es)).InRange :=
  Entries.inRange_table fun e he => (h e he).toValue

/-! ## Values with parts -/

theorem inRange_of_pair? {value? : List Char → Option (Value × List Char)}
    (hvalue : ∀ {cs v rest}, value? cs = some (v, rest) → v.InRange)
    {path : List String × String} (h : pair? value? cs = some ((path, v), rest)) : v.InRange := by
  obtain ⟨⟨path', after⟩, -, h⟩ := Option.bind_eq_some_iff.1 h
  obtain ⟨after', -, h⟩ := Option.bind_eq_some_iff.1 h
  obtain ⟨⟨v', rest'⟩, hread, h⟩ := Option.bind_eq_some_iff.1 h
  cases h
  exact hvalue hread

/-- Pairs with values in range keep a growing table in range, one after the other. -/
theorem Entries.inRange_of_definePairs {pairs : List ((List String × String) × Value)}
    {es es' : Entries}
    (h : pairs.foldlM (fun es ((path, key), v) => Entries.definePair path key v es) es = some es')
    (hpairs : ∀ p ∈ pairs, p.2.InRange) (hes : Entries.InRange es) : Entries.InRange es' := by
  induction pairs generalizing es with
  | nil =>
    cases h
    exact hes
  | cons p pairs ih =>
    obtain ⟨hp, hpairs⟩ := List.forall_mem_cons.1 hpairs
    rw [List.foldlM_cons] at h
    obtain ⟨next, hnext, h⟩ := Option.bind_eq_some_iff.1 h
    exact ih h hpairs (Entries.inRange_of_definePair hnext hp hes)

/-- An inline table of values in range is in range. -/
theorem inRange_of_inlineTable? {pairs : List ((List String × String) × Value)}
    (h : inlineTable? pairs = some v) (hpairs : ∀ p ∈ pairs, p.2.InRange) : v.InRange := by
  obtain ⟨es, hdefine, rfl⟩ := Option.map_eq_some_iff.1 h
  exact (Entries.inRange_of_definePairs hdefine hpairs .nil).toTable

/-- A value of any depth is read in range. -/
theorem inRange_of_value? {depth : Nat} (h : value? depth cs = some (v, rest)) : v.InRange := by
  induction depth generalizing cs v rest with
  | zero => exact inRange_of_scalar? h
  | succ depth ih =>
    unfold value? at h
    split at h
    · obtain ⟨⟨items, rest'⟩, hlist, h⟩ := Option.map_eq_some_iff.1 h
      cases h
      exact .array (forall_of_list? ih hlist)
    · obtain ⟨⟨pairs, rest'⟩, hlist, h⟩ := Option.bind_eq_some_iff.1 h
      obtain ⟨table, htable, h⟩ := Option.bind_eq_some_iff.1 h
      cases h
      refine inRange_of_inlineTable? htable (forall_of_list? ?_ hlist)
      exact inRange_of_pair? ih
    · exact inRange_of_scalar? h

/-! ## Documents -/

/-- The value that a statement defines, if it defines one, is in range. -/
def Statement.InRange : Statement → Prop
  | .pair _ _ v => v.InRange
  | _ => True

/-- A statement brings values in range only. -/
theorem inRange_of_statement? {s : Statement} (h : statement? cs = some (s, rest)) :
    s.InRange := by
  unfold statement? at h
  split at h
  · obtain ⟨_, -, h⟩ := Option.bind_eq_some_iff.1 h
    obtain ⟨_, -, h⟩ := Option.bind_eq_some_iff.1 h
    obtain ⟨_, -, h⟩ := Option.bind_eq_some_iff.1 h
    cases h
    trivial
  · obtain ⟨_, -, h⟩ := Option.bind_eq_some_iff.1 h
    obtain ⟨_, -, h⟩ := Option.bind_eq_some_iff.1 h
    cases h
    trivial
  · obtain ⟨_, hpair, h⟩ := Option.bind_eq_some_iff.1 h
    cases h
    exact inRange_of_pair? inRange_of_value? hpair

/-- A statement in range keeps the document in range. -/
theorem inRange_of_add {g g' : Growth} {s : Statement} (h : g.add s = some g')
    (hs : s.InRange) (hg : g.entries.InRange) : g'.entries.InRange := by
  cases s with
  | table path key =>
    obtain ⟨es, hmodify, h⟩ := Option.bind_eq_some_iff.1 h
    cases h
    exact Entries.inRange_of_modifyAt Entries.inRange_of_openTable hmodify hg
  | element path key =>
    obtain ⟨es, hmodify, h⟩ := Option.bind_eq_some_iff.1 h
    cases h
    exact Entries.inRange_of_modifyAt Entries.inRange_of_beginElement hmodify hg
  | pair path key v =>
    obtain ⟨es, hmodify, h⟩ := Option.bind_eq_some_iff.1 h
    cases h
    exact Entries.inRange_of_modifyAt (fun h => Entries.inRange_of_definePair h hs) hmodify hg

theorem inRange_of_growLines? {g g' : Growth} (h : growLines? g cs = some g')
    (hg : g.entries.InRange) : g'.entries.InRange := by
  fun_induction growLines? g cs with
  | case1 =>
    cases h
    exact hg
  | case2 g cs line _ _ ih =>
    obtain ⟨rest, -, h⟩ := Option.bind_eq_some_iff.1 h
    split at h
    · next hshorter => exact ih rest hshorter h hg
    · cases h
  | case3 g cs line _ _ ih =>
    obtain ⟨⟨s, rest⟩, hs, h⟩ := Option.bind_eq_some_iff.1 h
    obtain ⟨g', hadd, h⟩ := Option.bind_eq_some_iff.1 h
    obtain ⟨rest', -, h⟩ := Option.bind_eq_some_iff.1 h
    split at h
    · next hshorter =>
      exact ih g' rest' hshorter h (inRange_of_add hadd (inRange_of_statement? hs) hg)
    · cases h

/-- **All integers of a document have at most 64 bits.** -/
theorem inRange_of_read? {text : String} {t : Table} (h : read? text = some t) :
    (Value.table t).InRange := by
  obtain ⟨g, hgrow, rfl⟩ := Option.map_eq_some_iff.1 h
  exact (inRange_of_growLines? hgrow .nil).toTable

end CoursePlan.Toml
