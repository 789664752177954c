import CoursePlan.Proofs.Correspondence
import CoursePlan.Proofs.Plan.Filling
import CoursePlan.Proofs.PlanFile.Faults

/-!
# What loading a plan file yields

Loading goes through the entries, then through the terms, and in each term through the codes, and
stops at the first fault.  The three loops are of one kind: what has been made so far is determined
by the members that have been passed, and each member either has a fault or adds to it
(`foldlM_eq_firstFaultOr`).  So a file is refused exactly for the first of its faults, and a file
without faults yields the courses of its entries and the plan filled with them (`PlanFile.load_eq`).
-/

namespace CoursePlan

/-! ## Loops that stop at the first fault -/

/-- A result, unless there are faults; then the first of them. -/
def firstFaultOr {ε α : Type} (faults : List ε) (a : α) : Except ε α :=
  match faults.head? with
  | some fault => .error fault
  | none => .ok a

section Loops

variable {ε α β σ : Type}

@[simp] theorem firstFaultOr_nil (a : α) : firstFaultOr ([] : List ε) a = .ok a := rfl

@[simp] theorem firstFaultOr_cons (fault : ε) (faults : List ε) (a : α) :
    firstFaultOr (fault :: faults) a = .error fault := rfl

/-- Going on after a step that may be at fault. -/
theorem firstFaultOr_bind (faults faults' : List ε) (a : α) (b : β) {next : α → Except ε β}
    (h : next a = firstFaultOr faults' b) :
    (firstFaultOr faults a >>= next) = firstFaultOr (faults ++ faults') b := by
  cases faults with
  | nil => exact h
  | cons fault faults => rfl

/-- Going on after a step with something that is never at fault. -/
theorem firstFaultOr_bind_ok (faults : List ε) (a : α) (b : β) {next : α → Except ε β}
    (h : next a = .ok b) : (firstFaultOr faults a >>= next) = firstFaultOr faults b := by
  cases faults with
  | nil => exact h
  | cons fault faults => rfl

/-- There is a result exactly when there is no fault. -/
theorem firstFaultOr_eq_ok_iff {faults : List ε} {a b : α} :
    firstFaultOr faults a = .ok b ↔ faults = [] ∧ a = b := by
  cases faults <;> simp

/-- The error is the first fault. -/
theorem firstFaultOr_eq_error_iff {faults : List ε} {a : α} {fault : ε} :
    firstFaultOr faults a = .error fault ↔ faults.head? = some fault := by
  cases faults <;> simp

/-- **A loop stops at the first fault.**  If what a loop has made is determined by the members that
it has passed, and each step either finds a fault or adds its member, then the whole loop finds the
first fault that there is to notice, or it has passed all members. -/
theorem foldlM_eq_firstFaultOr {step : σ → α → Except ε σ} (made : List α → σ)
    (faults : List α → α → List ε)
    (hstep : ∀ before a, step (made before) a =
      firstFaultOr (faults before a) (made (before ++ [a]))) (l : List α) :
    l.foldlM step (made []) = firstFaultOr (noticed faults l) (made l) := by
  induction l using List.reverseRecOn with
  | nil => rfl
  | append_singleton l a ih =>
    rw [List.foldlM_append, ih, noticed_concat]
    apply firstFaultOr_bind
    rw [List.foldlM_cons, hstep]
    cases faults l a <;> rfl

end Loops

/-! ## The catalog -/

namespace CatalogEntry

variable (e : CatalogEntry) (code : CourseCode) (fresh : CourseId)

/-- The requisites of the entry show something. -/
def hasRequisites : Bool :=
  e.requisites.any (fun text => !Text.isBlankText text.toList)

/-- The course of an entry has everything that the entry says. -/
theorem toCourse_eq : e.toCourse code fresh =
    { id := (e.id.map .assigned).getD fresh
      code := code
      title := e.title
      requisites := e.requisites
      hasRequirements := e.hasRequirements.getD e.hasRequisites
      units := e.units } := by
  obtain ⟨_, id, title, requisites, flag, units⟩ := e
  cases title <;> cases requisites <;> cases flag <;> cases units <;> rfl

@[simp] theorem code_toCourse : (e.toCourse code fresh).code = code := by
  rw [e.toCourse_eq]

/-- The course of an entry whose drawn id would have a number; an entry without a code has none. -/
def course? (serial : Nat) : Option Course :=
  e.code?.map (fun code => e.toCourse code (.drawn serial))

end CatalogEntry

namespace Catalog

/-- The courses of numbered entries. -/
def ofEntries (entries : List (CatalogEntry × Nat)) : Catalog :=
  entries.filterMap (fun entry => entry.1.course? entry.2)

/-- The courses of the catalog are those of its entries that have a code. -/
theorem mem_ofEntries {entries : List (CatalogEntry × Nat)} {c : Course} :
    c ∈ ofEntries entries ↔ ∃ e n, (e, n) ∈ entries ∧
      ∃ code, e.code? = some code ∧ e.toCourse code (.drawn n) = c := by
  simp [ofEntries, List.mem_filterMap, CatalogEntry.course?, Option.map_eq_some_iff]

/-- A catalog has the codes of its entries. -/
theorem find?_ofEntries_eq_none_iff (entries : List (CatalogEntry × Nat)) (code : CourseCode) :
    (ofEntries entries).find? code = none ↔
      some code ∉ (entries.map Prod.fst).map CatalogEntry.code? := by
  rw [find?, List.find?_eq_none, List.map_map, List.mem_map]
  constructor
  · rintro h ⟨⟨e, n⟩, hmem, hcode⟩
    refine h _ (mem_ofEntries.2 ⟨e, n, hmem, code, hcode, rfl⟩) ?_
    rw [e.code_toCourse, decide_eq_true_eq]
  · rintro h c hc hcode
    obtain ⟨e, n, hmem, code', hcode', rfl⟩ := mem_ofEntries.1 hc
    rw [CatalogEntry.code_toCourse, decide_eq_true_eq] at hcode
    rw [hcode] at hcode'
    exact h ⟨(e, n), hmem, hcode'⟩

end Catalog

namespace PlanFile

/-- An entry is added to those before it, unless something is wrong with it. -/
theorem addEntry_eq (before : List (CatalogEntry × Nat)) (e : CatalogEntry) (serial : Nat) :
    addEntry (Catalog.ofEntries before) e serial =
      firstFaultOr (e.faults (before.map Prod.fst))
        (Catalog.ofEntries (before ++ [(e, serial)])) := by
  rw [addEntry, CatalogEntry.faults, ← CatalogEntry.code?]
  cases hcode : e.code? with
  | none => rfl
  | some code =>
    have hcourse : Catalog.ofEntries (before ++ [(e, serial)]) =
        Catalog.ofEntries before ++ [e.toCourse code (.drawn serial)] := by
      simp [Catalog.ofEntries, CatalogEntry.course?, hcode]
    have hnone := Catalog.find?_ofEntries_eq_none_iff before code
    by_cases hmem : some code ∈ (before.map Prod.fst).map CatalogEntry.code?
    · obtain ⟨c, hc⟩ := Option.ne_none_iff_exists'.1 (mt hnone.1 (not_not_intro hmem))
      simp only [hc, if_pos hmem, firstFaultOr_cons]
    · simp only [hnone.2 hmem, if_neg hmem, firstFaultOr_nil, hcourse]

/-- **Making a catalog** finds the first fault of the entries, or makes the courses of all. -/
theorem makeCatalog_eq (serial : Nat) (entries : List CatalogEntry) :
    makeCatalog serial entries =
      firstFaultOr (noticed CatalogEntry.faults entries)
        (Catalog.ofEntries (entries.zipIdx serial)) := by
  refine (foldlM_eq_firstFaultOr Catalog.ofEntries
    (fun before entry => entry.1.faults (before.map Prod.fst)) ?_ (entries.zipIdx serial)).trans ?_
  · rintro before ⟨e, n⟩
    exact addEntry_eq before e n
  · rw [← noticed_map, List.zipIdx_map_fst]

end PlanFile

/-! ## The terms -/

namespace TermSection

/-- The courses of a catalog that the codes of a term refer to. -/
def courses (catalog : Catalog) (s : TermSection) : List Course :=
  s.codes.filterMap (fun written => (CourseCode.parse? written).bind catalog.find?)

end TermSection

namespace PlanFile

/-- The courses of a catalog that some terms of a file place in the term with an index. -/
def placedBy (catalog : Catalog) (sections : List TermSection) (index : Nat) : List Course :=
  sections.flatMap (fun s => if s.index? = some index then s.courses catalog else [])

/-- A term adds its courses to those of the term that it denotes. -/
theorem placedBy_concat (catalog : Catalog) (sections : List TermSection) {s : TermSection}
    {index : Nat} (h : s.index? = some index) :
    placedBy catalog (sections ++ [s]) =
      addedAt (placedBy catalog sections) index (s.courses catalog) := by
  funext i
  rw [placedBy, List.flatMap_append, addedAt, ← placedBy]
  by_cases hi : i = index
  · simp [h, hi]
  · simp [h, hi, Ne.symm hi]

section Terms

variable (entries : List (CatalogEntry × Nat))

/-- What refers to an entry is looked up in the catalog. -/
theorem bind_find?_eq_none_iff (written : String) :
    (CourseCode.parse? written).bind (Catalog.ofEntries entries).find? = none ↔
      refers (entries.map Prod.fst) written = false := by
  rw [refers]
  cases h : CourseCode.parse? written with
  | none => simp
  | some code =>
    rw [Option.bind_some, Catalog.find?_ofEntries_eq_none_iff]
    simp

/-- One code of a term, after some others. -/
theorem placeCode_eq (name : String) (placed : Nat → List Course) (label : String) {index : Nat}
    (hindex : index < termCount) (before : List String) (written : String) :
    placeCode (Catalog.ofEntries entries) label index
        (Plan.filled name (addedAt placed index
          (TermSection.courses (Catalog.ofEntries entries) ⟨label, before⟩))) written =
      firstFaultOr
        (if refers (entries.map Prod.fst) written then [] else [.unknownCourse label written])
        (Plan.filled name (addedAt placed index
          (TermSection.courses (Catalog.ofEntries entries) ⟨label, before ++ [written]⟩))) := by
  have hnone := bind_find?_eq_none_iff entries written
  rw [placeCode]
  cases hfind : (CourseCode.parse? written).bind (Catalog.ofEntries entries).find? with
  | none => simp [hnone.1 hfind]
  | some c =>
    have hrefers : refers (entries.map Prod.fst) written = true := by
      rw [hfind] at hnone
      simpa using hnone
    simp [hrefers, Plan.place_eq_ok _ c hindex, Plan.placing_filled, addedAt_addedAt,
      TermSection.courses, hfind]

/-- **Placing the codes of a term** finds the first that is not in the catalog, or places all. -/
theorem foldlM_placeCode_eq (name : String) (placed : Nat → List Course) (s : TermSection)
    {index : Nat} (hindex : index < termCount) :
    s.codes.foldlM (placeCode (Catalog.ofEntries entries) s.label index)
        (Plan.filled name placed) =
      firstFaultOr (s.referenceFaults (entries.map Prod.fst))
        (Plan.filled name (addedAt placed index (s.courses (Catalog.ofEntries entries)))) := by
  have hstart : Plan.filled name placed = Plan.filled name (addedAt placed index
      (TermSection.courses (Catalog.ofEntries entries) ⟨s.label, []⟩)) := by
    rw [TermSection.courses, List.filterMap_nil, addedAt_nil]
  rw [hstart, TermSection.referenceFaults, ← noticed_const]
  exact foldlM_eq_firstFaultOr
    (fun codes => Plan.filled name (addedAt placed index
      (TermSection.courses (Catalog.ofEntries entries) ⟨s.label, codes⟩))) _
    (placeCode_eq entries name placed s.label hindex) s.codes

/-- One term of a file, after some others. -/
theorem placeSection_eq (name : String) (before : List TermSection) (s : TermSection) :
    placeSection (Catalog.ofEntries entries)
        (Plan.filled name (placedBy (Catalog.ofEntries entries) before),
          (before.filterMap TermSection.index?).reverse) s =
      firstFaultOr (s.labelFaults before ++ s.referenceFaults (entries.map Prod.fst))
        (Plan.filled name (placedBy (Catalog.ofEntries entries) (before ++ [s])),
          ((before ++ [s]).filterMap TermSection.index?).reverse) := by
  rw [placeSection, TermSection.labelFaults, ← TermSection.index?]
  cases hindex : s.index? with
  | none => rfl
  | some index =>
    have hlt : index < termCount := (termIndex?_eq_some_iff.1 hindex).1
    have hseen : index ∈ (before.filterMap TermSection.index?).reverse ↔
        some index ∈ before.map TermSection.index? := by
      simp [List.mem_filterMap]
    have hmore : ((before ++ [s]).filterMap TermSection.index?).reverse =
        index :: (before.filterMap TermSection.index?).reverse := by
      simp [hindex]
    by_cases hmem : some index ∈ before.map TermSection.index?
    · simp only [if_pos (hseen.2 hmem), if_pos hmem]
      rfl
    · simp only [if_neg (mt hseen.1 hmem), if_neg hmem, List.nil_append,
        foldlM_placeCode_eq entries name _ s hlt, placedBy_concat _ before hindex, hmore]
      exact firstFaultOr_bind_ok _ _ _ rfl

end Terms

/-! ## The whole file -/

variable {f : PlanFile}

/-- The catalog that is made of the entries of a file. -/
def courses (f : PlanFile) (serial : Nat) : Catalog :=
  Catalog.ofEntries (f.catalog.zipIdx serial)

/-- The plan in which the terms of a file are filled with their courses. -/
def plan (f : PlanFile) (serial : Nat) : Plan :=
  Plan.filled f.name (placedBy (f.courses serial) f.sections)

/-- **Loading a file** finds its first fault, or yields its catalog and its plan. -/
theorem load_eq (serial : Nat) (f : PlanFile) :
    f.load serial = firstFaultOr f.faults ⟨f.plan serial, f.courses serial⟩ := by
  have hentries : (f.catalog.zipIdx serial).map Prod.fst = f.catalog := List.zipIdx_map_fst ..
  have hterms : f.sections.foldlM (placeSection (f.courses serial)) (Plan.new f.name, []) =
      firstFaultOr
        (noticed (fun before s => s.labelFaults before ++ s.referenceFaults f.catalog) f.sections)
        (f.plan serial, (f.sections.filterMap TermSection.index?).reverse) := by
    have hloop := foldlM_eq_firstFaultOr
      (fun before => (Plan.filled f.name (placedBy (f.courses serial) before),
        (before.filterMap TermSection.index?).reverse)) _
      (placeSection_eq (f.catalog.zipIdx serial) f.name) f.sections
    rw [hentries] at hloop
    exact hloop
  rw [load, makeCatalog_eq, faults]
  apply firstFaultOr_bind
  rw [← courses, hterms]
  exact firstFaultOr_bind_ok _ _ _ rfl

end PlanFile

/-! ## What is loaded -/

/-- The course has all that the entry says, and the given id if the entry says none. -/
structure CatalogEntry.Describes (e : CatalogEntry) (fresh : CourseId) (c : Course) : Prop where
  code : CourseCode.parse? e.code = some c.code
  id : c.id = (e.id.map .assigned).getD fresh
  title : c.title = e.title
  requisites : c.requisites = e.requisites
  units : c.units = e.units
  hasRequirements : c.hasRequirements = e.hasRequirements.getD e.hasRequisites

/-- The course that is made from an entry is the one that the entry describes. -/
theorem CatalogEntry.describes {e : CatalogEntry} {code : CourseCode} (h : e.code? = some code)
    (fresh : CourseId) : e.Describes fresh (e.toCourse code fresh) := by
  rw [e.toCourse_eq]
  exact ⟨h, rfl, rfl, rfl, rfl, rfl⟩

namespace Catalog

variable {catalog : Catalog} {c : Course} {code : CourseCode}

/-- In a catalog without repeated codes, courses are found by their codes. -/
theorem find?_eq_some_iff (h : (catalog.map Course.code).Nodup) :
    catalog.find? code = some c ↔ c ∈ catalog ∧ c.code = code := by
  constructor
  · intro hfind
    exact ⟨List.mem_of_find?_eq_some hfind, by simpa using List.find?_some hfind⟩
  · rintro ⟨hc, rfl⟩
    have hsome : (catalog.find? c.code).isSome = true :=
      List.find?_isSome.2 ⟨c, hc, decide_eq_true rfl⟩
    obtain ⟨d, hd⟩ := Option.isSome_iff_exists.1 hsome
    have hdc : d.code = c.code := by simpa using List.find?_some hd
    rw [hd, List.inj_on_of_nodup_map h (List.mem_of_find?_eq_some hd) hc hdc]

/-- The codes of the catalog are those of its entries, in order. -/
theorem map_code_ofEntries (entries : List (CatalogEntry × Nat)) :
    (ofEntries entries).map Course.code =
      (entries.map (fun entry => entry.1.code?)).filterMap id := by
  rw [ofEntries, List.map_filterMap, List.filterMap_map]
  apply List.filterMap_congr
  rintro ⟨e, n⟩ -
  simp [CatalogEntry.course?, Function.comp_def]

end Catalog

namespace PlanFile

variable {f : PlanFile} {serial index : Nat}

/-- A loaded plan and its catalog are what the file says. -/
structure LoadedAs (f : PlanFile) (serial : Nat) (loaded : LoadedPlan) : Prop where
  name : loaded.plan.name = f.name
  /-- The catalog has a course for each entry, in order; drawn ids are numbered from `serial` on. -/
  catalog : List.Forall₂ (fun entry c => entry.1.Describes (.drawn entry.2) c)
    (f.catalog.zipIdx serial) loaded.catalog
  /-- The courses of the catalog are found by their codes. -/
  found : ∀ c ∈ loaded.catalog, loaded.catalog.find? c.code = some c
  /-- A term that is listed holds the courses that its codes refer to, in order, numbered from 0. -/
  listed : ∀ s ∈ f.sections, ∀ index, Denotes s.label index →
    ∃ t, loaded.plan.term? index = some t ∧ t.label = (Level.ofIndex index).label ∧
      List.Forall₂
        (fun written c => (CourseCode.parse? written).bind loaded.catalog.find? = some c)
        s.codes t.courses ∧
      t.positions = (List.range s.codes.length).map (fun k => min k Numeral.max32)
  /-- All other terms are empty. -/
  unlisted : ∀ index < termCount, (∀ s ∈ f.sections, ¬ Denotes s.label index) →
    loaded.plan.term? index = some (Term.empty index)

/-- In the catalog of a sound file every code is that of one course. -/
theorem Sound.nodup_codes (h : f.Sound) : ((f.courses serial).map Course.code).Nodup := by
  have hfst : (f.catalog.zipIdx serial).map (fun entry => entry.1.code?) =
      f.catalog.map CatalogEntry.code? := by
    rw [← List.zipIdx_map_fst serial f.catalog, List.map_map]
    simp [Function.comp_def]
  rw [courses, Catalog.map_code_ofEntries, hfst]
  apply (sound_iff.1 h).1.2.filterMap
  rintro _ _ _ rfl h
  exact h.symm

/-- A term that no section denotes stays empty. -/
theorem placedBy_eq_nil {catalog : Catalog} {sections : List TermSection}
    (h : ∀ s ∈ sections, s.index? ≠ some index) : placedBy catalog sections index = [] := by
  rw [placedBy, List.flatMap_eq_nil_iff]
  intro s hs
  rw [if_neg (h s hs)]

/-- Only the section that denotes a term places courses in it. -/
theorem placedBy_eq {catalog : Catalog} {sections : List TermSection} {s : TermSection}
    (hnodup : (sections.map TermSection.index?).Nodup) (hs : s ∈ sections)
    (hindex : s.index? = some index) :
    placedBy catalog sections index = s.courses catalog := by
  obtain ⟨front, back, rfl⟩ := List.append_of_mem hs
  rw [List.map_append, List.map_cons, List.nodup_middle, List.nodup_cons, ← List.map_append,
    hindex] at hnodup
  have hothers : ∀ s' ∈ front ++ back, s'.index? ≠ some index := by
    intro s' hs' heq
    exact hnodup.1 (List.mem_map.2 ⟨s', hs', heq⟩)
  obtain ⟨hfront, hback⟩ := List.forall_mem_append.1 hothers
  rw [placedBy, List.flatMap_append, List.flatMap_cons, if_pos hindex, ← placedBy, ← placedBy,
    placedBy_eq_nil hfront, placedBy_eq_nil hback, List.nil_append, List.append_nil]

/-- A label that is called invalid denotes no term. -/
theorem termIndex?_eq_none_of_mem_faults {label : String}
    (h : .invalidTermLabel label ∈ f.faults) : termIndex? label = none := by
  rcases List.mem_append.1 h with h | h
  · obtain ⟨before, e, -, he⟩ := exists_of_mem_noticed h
    unfold CatalogEntry.faults at he
    split at he
    · simp at he
    · split at he <;> simp at he
  · obtain ⟨before, s, -, hs⟩ := exists_of_mem_noticed h
    rcases List.mem_append.1 hs with hs | hs
    · unfold TermSection.labelFaults at hs
      split at hs
      · next hindex =>
        cases List.mem_singleton.1 hs
        exact hindex
      · split at hs <;> simp at hs
    · obtain ⟨written, -, hwritten⟩ := List.mem_flatMap.1 hs
      split at hwritten <;> simp at hwritten

/-- What is made of a sound file is what the file says. -/
theorem Sound.loadedAs (h : f.Sound) : f.LoadedAs serial ⟨f.plan serial, f.courses serial⟩ where
  name := rfl
  catalog := by
    apply forall₂_filterMap
    rintro ⟨e, n⟩ hmem
    obtain ⟨code, hcode⟩ := h.codes e (List.fst_mem_of_mem_zipIdx hmem)
    exact ⟨_, Option.map_eq_some_iff.2 ⟨code, hcode, rfl⟩, e.describes hcode (.drawn n)⟩
  found c hc := (Catalog.find?_eq_some_iff h.nodup_codes).2 ⟨hc, rfl⟩
  listed s hs index hindex := by
    have hplaced : placedBy (f.courses serial) f.sections index = s.courses (f.courses serial) :=
      placedBy_eq (sound_iff.1 h).2.2 hs (termIndex?_eq_some_iff.2 hindex)
    have hcourses : List.Forall₂
        (fun written c => (CourseCode.parse? written).bind (f.courses serial).find? = some c)
        s.codes (s.courses (f.courses serial)) := by
      apply forall₂_filterMap
      intro written hwritten
      obtain ⟨c, hc⟩ := Option.ne_none_iff_exists'.1
        (mt (bind_find?_eq_none_iff (f.catalog.zipIdx serial) written).1 (by
          rw [List.zipIdx_map_fst, refers_iff.2 (h.references s hs written hwritten)]
          decide))
      exact ⟨c, hc, hc⟩
    refine ⟨_, Plan.term?_filled hindex.1, Term.label_addAll _ _, ?_, ?_⟩
    · rw [Term.courses_addAll, hplaced]
      exact hcourses
    · rw [Term.positions_addAll_empty, hplaced, hcourses.length_eq]
  unlisted index hindex hnone := by
    have hempty : placedBy (f.courses serial) f.sections index = [] := by
      apply placedBy_eq_nil
      intro s hs heq
      exact hnone s hs (termIndex?_eq_some_iff.1 heq)
    rw [plan, Plan.term?_filled hindex, hempty, Term.addAll_nil]

/-- **Loading is exact.**  A file is loaded exactly if nothing is wrong with it, and refused for the
first of its faults; a label that denotes a term is never called invalid.  What is loaded is what
the file says. -/
theorem load_exact (serial : Nat) (f : PlanFile) :
    ((∃ loaded, f.load serial = .ok loaded) ↔ f.Sound) ∧
      (∀ fault, f.load serial = .error fault ↔ f.faults.head? = some fault) ∧
      (∀ label, f.load serial = .error (.invalidTermLabel label) →
        ∀ index, ¬ Denotes label index) ∧
      ∀ loaded, f.load serial = .ok loaded → f.LoadedAs serial loaded := by
  rw [load_eq]
  refine ⟨?_, ?_, ?_, ?_⟩
  · rw [← faults_eq_nil_iff]
    simp [firstFaultOr_eq_ok_iff]
  · intro fault
    exact firstFaultOr_eq_error_iff
  · intro label hlabel index hdenotes
    have hmem := List.mem_of_head? (firstFaultOr_eq_error_iff.1 hlabel)
    rw [← termIndex?_eq_some_iff, termIndex?_eq_none_of_mem_faults hmem] at hdenotes
    cases hdenotes
  · intro loaded hloaded
    obtain ⟨hfaults, rfl⟩ := firstFaultOr_eq_ok_iff.1 hloaded
    exact (faults_eq_nil_iff.1 hfaults).loadedAs

/-- A file that lists its terms out of order and spells codes and labels freely. -/
def freelySpelled : PlanFile where
  name := "sample"
  program := none
  catalog := [⟨"ece105", none, some "Mechanics", none, none, none⟩,
    ⟨"ECE 250/251", some 7, none, some "Prereq: ECE 105", none, none⟩]
  sections := [⟨" 2a ", ["Ece 250"]⟩, ⟨"1A", ["ECE 105", "ece 105"]⟩]

/-- The file with a term that is not in the program. -/
def tooLate : PlanFile :=
  { freelySpelled with sections := [⟨"5A", ["CS 241"]⟩] }

/-- A sound file that is spelled freely, and one with a label that denotes no term. -/
theorem load_exact_freelySpelled :
    (∃ loaded, freelySpelled.load 0 = .ok loaded ∧ freelySpelled.LoadedAs 0 loaded) ∧
      tooLate.load 0 = .error (.invalidTermLabel "5A") ∧ ∀ index, ¬ Denotes "5A" index := by
  have hsound : freelySpelled.Sound := faults_eq_nil_iff.1 (by decide +kernel)
  obtain ⟨loaded, hloaded⟩ := (load_exact 0 freelySpelled).1.2 hsound
  have hlate : tooLate.load 0 = .error (.invalidTermLabel "5A") :=
    ((load_exact 0 tooLate).2.1 _).2 (by decide +kernel)
  exact ⟨⟨loaded, hloaded, (load_exact 0 freelySpelled).2.2.2 loaded hloaded⟩,
    hlate, (load_exact 0 tooLate).2.2.1 "5A" hlate⟩

end PlanFile

end CoursePlan
