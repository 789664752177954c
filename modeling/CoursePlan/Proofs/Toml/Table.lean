import CoursePlan.Toml.Value
import Mathlib.Data.List.Basic

/-!
# The fields of a table

What is read from a field depends on what stands under its name.  So entries under names that nobody
asks for change nothing, wherever they stand in the table, and neither does a value for another one
that is read the same.
-/

namespace CoursePlan.Toml

variable {α β : Type} {read : Value → Option α} {write : α → Value} {name key : String}
  {t u : Table}

/-! ## What was written -/

@[simp] theorem lookup_toList_map (name : String) (f : β → Value) (o : Option β) :
    ((o.map fun b => (name, f b)).toList).lookup name = o.map f := by
  cases o <;> simp

@[simp] theorem lookup_toList_map_of_ne (h : name ≠ key) (f : β → Value) (o : Option β) :
    ((o.map fun b => (key, f b)).toList).lookup name = none := by
  cases o with
  | none => rfl
  | some b => simp [List.lookup_cons, beq_false_of_ne h]

@[simp] theorem Value.string?_string (s : String) : string? (.string s) = some s := rfl

@[simp] theorem Value.boolean?_boolean (b : Bool) : boolean? (.boolean b) = some b := rfl

/-- A list is read back from the values of its items. -/
theorem Value.listOf?_map (hread : ∀ a, read (write a) = some a) (as : List α) :
    Value.listOf? read (.array (as.map write)) = some as := by
  rw [Value.listOf?]
  induction as with
  | nil => rfl
  | cons a as ih => simp [hread, ih]

namespace Table

theorem required?_eq_some {a : α} (hlookup : t.lookup name = some (write a))
    (hread : ∀ a, read (write a) = some a) : t.required? name read = some a := by
  rw [required?, hlookup, Option.bind_some, hread]

theorem optional?_eq_some {o : Option α} (hlookup : t.lookup name = o.map write)
    (hread : ∀ a, read (write a) = some a) : t.optional? name read = some o := by
  rw [optional?, hlookup]
  cases o with
  | none => rfl
  | some a => simp [hread]

theorem list?_eq_some {as : List α} (hlookup : t.lookup name = some (.array (as.map write)))
    (hread : ∀ a, read (write a) = some a) : t.list? name read = some as := by
  rw [list?, optional?, hlookup]
  simp [Value.listOf?_map hread]

/-! ## Tables that are read the same -/

/-- Tables that have the same under a key are read in the same way there. -/
theorem required?_congr (h : (t.lookup name).map read = (u.lookup name).map read) :
    t.required? name read = u.required? name read := by
  have heq : ∀ t : Table, t.required? name read = ((t.lookup name).map read).bind id := by
    intro t
    rw [required?, Option.bind_map, Function.id_comp]
  rw [heq, heq, h]

theorem optional?_congr (h : (t.lookup name).map read = (u.lookup name).map read) :
    t.optional? name read = u.optional? name read := by
  have heq : ∀ t : Table, t.optional? name read =
      match (t.lookup name).map read with
      | none => some none
      | some r => r.map some := by
    intro t
    rw [optional?]
    cases t.lookup name <;> rfl
  rw [heq, heq, h]

theorem list?_congr
    (h : (t.lookup name).map (Value.listOf? read) = (u.lookup name).map (Value.listOf? read)) :
    t.list? name read = u.list? name read := by
  rw [list?, list?, optional?_congr h]

/-- The second table is the first one with one more entry, under a key that is none of the known
ones. -/
def Inserts (known : List String) (t u : Table) : Prop :=
  ∃ before after key v, key ∉ known ∧ t = before ++ after ∧ u = before ++ (key, v) :: after

/-- A key that is not known changes nothing under the known ones. -/
theorem Inserts.lookup_eq {known : List String} (h : Inserts known t u) (hname : name ∈ known) :
    t.lookup name = u.lookup name := by
  obtain ⟨before, after, key, v, hkey, rfl, rfl⟩ := h
  have hne : name ≠ key := by
    rintro rfl
    exact hkey hname
  simp [List.lookup_append, List.lookup_cons, beq_false_of_ne hne]

section Inserts

variable {known : List String} (h : Inserts known t u) (name : String) (hname : name ∈ known)
include h hname

theorem Inserts.required?_eq (read : Value → Option α) :
    t.required? name read = u.required? name read := by
  rw [required?, required?, h.lookup_eq hname]

theorem Inserts.optional?_eq (read : Value → Option α) :
    t.optional? name read = u.optional? name read := by
  rw [optional?, optional?, h.lookup_eq hname]

theorem Inserts.list?_eq (read : Value → Option α) :
    t.list? name read = u.list? name read := by
  rw [list?, list?, h.optional?_eq name hname]

end Inserts

/-- A value may be replaced by another one that is read the same. -/
theorem map_lookup_replace {v w : Value} (before after : Table)
    (h : key = name → read v = read w) :
    ((before ++ (key, v) :: after).lookup name).map read =
      ((before ++ (key, w) :: after).lookup name).map read := by
  rw [List.lookup_append, List.lookup_append]
  cases before.lookup name with
  | some x => rfl
  | none =>
    by_cases heq : key = name
    · subst heq
      simp [h rfl]
    · simp [List.lookup_cons, beq_false_of_ne (Ne.symm heq)]

end Table

/-- An item may be replaced by one that is read in the same way. -/
theorem Value.listOf?_replace {v w : Value} (before after : List Value) (h : read v = read w) :
    Value.listOf? read (.array (before ++ v :: after)) =
      Value.listOf? read (.array (before ++ w :: after)) := by
  simp [Value.listOf?, List.mapM_append, h]

end CoursePlan.Toml
