import CoursePlan.Toml.Value

/-!
# Growing a document

A document is grown entry by entry.  TOML lets a table be defined in several ways, but each table
only once, so a growing table remembers how it came about:

* it was *opened* by a header `[a]`, or is an element of an array of tables;
* it was *passed* on the way to a header, as `a` is by `[a.b]`, and may still be opened;
* it was *dotted*, that is defined by dotted keys such as `a.b = 1`, and may be extended by further
  dotted keys only.

Every function here gives up when the document defines something twice.
-/

namespace CoursePlan.Toml

/-- How a table came about. -/
inductive Origin where
  | opened
  | passed
  | dotted
deriving DecidableEq, Repr

/-- What stands under a key while the document grows. -/
inductive Tree where
  /-- A value after an equals sign; it is complete. -/
  | leaf (value : Value)
  | branch (origin : Origin) (entries : List (String × Tree))
  /-- An array of tables, made by headers `[[a]]`; only its last element can grow. -/
  | series (elements : List (List (String × Tree)))

/-- The entries of a growing table. -/
abbrev Entries := List (String × Tree)

mutual

/-- The value of a finished tree. -/
def Tree.toValue : Tree → Value
  | .leaf v => v
  | .branch _ entries => .table (Entries.toTable entries)
  | .series elements => .array (Entries.toTables elements)

/-- The table of finished entries. -/
def Entries.toTable : List (String × Tree) → Table
  | [] => []
  | (key, t) :: entries => (key, t.toValue) :: Entries.toTable entries

/-- The tables of finished elements. -/
def Entries.toTables : List (List (String × Tree)) → List Value
  | [] => []
  | entries :: elements => .table (Entries.toTable entries) :: Entries.toTables elements

end

namespace Entries

/-- The entries with something else under a key that they have. -/
def replace (es : Entries) (key : String) (t : Tree) : Entries :=
  es.map fun (k, old) => (k, if k = key then t else old)

/-- Change the table at the end of a path.  Tables that are missing on the way are made, `dotted` or
`passed` as the path asks for; a dotted path does not lead through opened tables.  From an array of
tables the way goes on in its last element. -/
def modifyAt (dotted : Bool) (change : Origin → Entries → Option Entries) :
    List String → Origin → Entries → Option Entries
  | [], origin, es => change origin es
  | key :: path, _, es =>
    match es.lookup key with
    | none => do
      let origin := if dotted then .dotted else .passed
      let inner ← modifyAt dotted change path origin []
      some (es ++ [(key, .branch origin inner)])
    | some (.leaf _) => none
    | some (.branch origin inner) => do
      if dotted && origin = .opened then none
      else
        let inner ← modifyAt dotted change path origin inner
        some (es.replace key (.branch origin inner))
    | some (.series elements) => do
      let last ← modifyAt dotted change path .opened (elements.getLast?.getD [])
      some (es.replace key (.series (elements.dropLast ++ [last])))

/-- Define a key of a table that does not have it. -/
def define (key : String) (t : Tree) (es : Entries) : Option Entries :=
  match es.lookup key with
  | none => some (es ++ [(key, t)])
  | some _ => none

/-- Define the key at the end of a dotted path.  A dotted path has to end in a dotted table, and a
plain key in one that is not. -/
def definePair (path : List String) (key : String) (v : Value) (es : Entries) : Option Entries :=
  modifyAt true
    (fun origin es =>
      if decide (origin = .dotted) == path.isEmpty then none else define key (.leaf v) es)
    path .opened es

/-- Open the table of a header `[…]`. -/
def openTable (key : String) (es : Entries) : Option Entries :=
  match es.lookup key with
  | none => some (es ++ [(key, .branch .opened [])])
  | some (.branch .passed inner) => some (es.replace key (.branch .opened inner))
  | some _ => none

/-- Begin the next element of an array of tables with a header `[[…]]`. -/
def beginElement (key : String) (es : Entries) : Option Entries :=
  match es.lookup key with
  | none => some (es ++ [(key, .series [[]])])
  | some (.series elements) => some (es.replace key (.series (elements ++ [[]])))
  | some _ => none

end Entries

/-- One statement of a document.  A path is a list of keys and a last key. -/
inductive Statement where
  /-- `[path]` -/
  | table (path : List String) (key : String)
  /-- `[[path]]` -/
  | element (path : List String) (key : String)
  /-- `path = value` -/
  | pair (path : List String) (key : String) (value : Value)

/-- A document in the making: its entries, and the path of the table that the last header named. -/
structure Growth where
  entries : Entries
  current : List String

namespace Growth

/-- A document of which nothing has been read. -/
def start : Growth := ⟨[], []⟩

/-- Add a statement to a document. -/
def add (g : Growth) : Statement → Option Growth
  | .table path key => do
    let es ← g.entries.modifyAt false (fun _ => Entries.openTable key) path .opened
    some ⟨es, path ++ [key]⟩
  | .element path key => do
    let es ← g.entries.modifyAt false (fun _ => Entries.beginElement key) path .opened
    some ⟨es, path ++ [key]⟩
  | .pair path key v => do
    let es ← g.entries.modifyAt false (fun _ => Entries.definePair path key v) g.current .opened
    some { g with entries := es }

end Growth

end CoursePlan.Toml
