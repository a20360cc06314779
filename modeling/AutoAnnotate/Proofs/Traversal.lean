import AutoAnnotate.Proofs.FieldVisit
/-!
# How a run goes through fields and classes

`ClassVisited` and `Ran` list the steps of a run: from field to field in a class, and from class to
class. Every visit of a class and every run is made of such steps (`visitClass_visited`,
`annotate_ran`), so that a fact about runs is an induction over them.

With distinct field names, the steps in a class go from field to field of the list (`FieldsVisited`).

Many facts are about the visit of a single field. What every visit keeps of the annotations of a field
holds of all fields after a run (`Ran.forall_fields`), and what holds of every change that a visit
records holds of the report (`Ran.forall_changes`).
-/

namespace AutoAnnotate

open FieldVisit Visit

theorem ok_of_map_ok {ε α β : Type} {r : Except ε α} {g : α → β} {b : β} (h : r.map g = .ok b) :
    ∃ a, r = .ok a ∧ g a = b := by
  cases r with
  | error e => cases h
  | ok a => exact ⟨a, rfl, Except.ok.inj h⟩

theorem ok_of_isOk {ε α : Type} {r : Except ε α} (h : r.isOk = true) : ∃ a, r = .ok a := by
  cases r with
  | error e => cases h
  | ok a => exact ⟨a, rfl⟩

/-! ## The fields of a class -/

/-- How the visit of the fields of some names can go: from which class to which, and with which
result. -/
inductive ClassVisited (o : Options) :
    Class → List String → Class → Except AnnotateError (List FieldChange) → Prop
  | done {c : Class} : ClassVisited o c [] c (.ok [])
  | stopped {c : Class} {f : Field} {rest : List String} {annotations : List Annotation}
      {e : AnnotateError} (hf : c.field? f.name = some f)
      (hv : Visited o c f annotations (.error e)) :
      ClassVisited o c (f.name :: rest) (c.withAnnotations f.name annotations) (.error e)
  | next {c d : Class} {f : Field} {rest : List String} {annotations : List Annotation}
      {change : Option FieldChange} {r : Except AnnotateError (List FieldChange)}
      (hf : c.field? f.name = some f) (hv : Visited o c f annotations (.ok change))
      (later : ClassVisited o (c.withAnnotations f.name annotations) rest d r) :
      ClassVisited o c (f.name :: rest) d (r.map (change.toList ++ ·))

/-- Going on after a field leaves what the rest of the fields leave. -/
theorem visitFields_next {o : Options} {p : Bool} {c d e : Class} {name : String}
    {rest : List String} {change : Option FieldChange}
    {r : Except AnnotateError (List FieldChange)}
    (h : (visit o p name).Leaves c d (.ok change)) (h' : (visitFields o p rest).Leaves d e r) :
    (visitFields o p (name :: rest)).Leaves c e (r.map (change.toList ++ ·)) := by
  unfold visitFields
  refine h.bind ?_
  cases change with
  | none =>
    have hr : r.map ((none : Option FieldChange).toList ++ ·) = r := by cases r <;> rfl
    rw [hr]
    exact h'
  | some change =>
    refine (leaves_tell _).bind ?_
    cases r with
    | error x => exact h'.stop _
    | ok changes => exact h'.bind (leaves_pure _)

theorem visitFields_visited (o : Options) {c : Class} {names : List String}
    (h : ∀ name ∈ names, name ∈ c.fields.map (·.name)) :
    ∃ d r, ClassVisited o c names d r ∧ (visitFields o (o.isPersistent c) names).Leaves c d r := by
  induction names generalizing c with
  | nil => exact ⟨c, .ok [], .done, leaves_pure _⟩
  | cons name rest ih =>
    obtain ⟨f, hf⟩ := Class.field?_isSome (h name List.mem_cons_self)
    obtain rfl := Class.field?_name hf
    obtain ⟨annotations, r, hv, hleaves⟩ := visit_leaves o hf
    cases r with
    | error e => exact ⟨_, _, .stopped hf hv, by unfold visitFields; exact hleaves.stop _⟩
    | ok change =>
      obtain ⟨d, r, hd, hrest⟩ := ih (c := c.withAnnotations f.name annotations) fun name hname => by
        rw [Class.withAnnotations_fields_name]
        exact h name (List.mem_cons_of_mem _ hname)
      exact ⟨d, _, .next hf hv hd, visitFields_next hleaves hrest⟩

theorem visitClass_visited (o : Options) (c : Class) :
    ClassVisited o c (c.fields.map (·.name)) ((visitClass o).run c).cls
      ((visitClass o).run c).result := by
  obtain ⟨d, r, hd, hleaves⟩ := visitFields_visited o fun name (h : name ∈ c.fields.map (·.name)) => h
  obtain ⟨hcls, hresult⟩ : (visitClass o).Leaves c d r := leaves_current.bind hleaves
  rw [hcls, hresult]
  exact hd

/-! ## Distinct field names -/

/-- How the visit of some fields of a class can go, field by field: what becomes of the fields, and
with which result. -/
inductive FieldsVisited (o : Options) (c : Class) :
    List Field → List Field → Except AnnotateError (List FieldChange) → Prop
  | done : FieldsVisited o c [] [] (.ok [])
  | stopped {f : Field} {rest : List Field} {annotations : List Annotation} {e : AnnotateError}
      (hv : Visited o c f annotations (.error e)) :
      FieldsVisited o c (f :: rest) (f.withAnnotations annotations :: rest) (.error e)
  | next {f : Field} {rest rest' : List Field} {annotations : List Annotation}
      {change : Option FieldChange} {r : Except AnnotateError (List FieldChange)}
      (hv : Visited o c f annotations (.ok change)) (later : FieldsVisited o c rest rest' r) :
      FieldsVisited o c (f :: rest) (f.withAnnotations annotations :: rest')
        (r.map (change.toList ++ ·))

/-- What a visit does depends on the class only through its name, its annotations and whether it is
frozen. -/
theorem FieldVisit.Visited.withFields {o : Options} {c : Class} {f : Field}
    {annotations : List Annotation} {r : Except AnnotateError (Option FieldChange)}
    (h : Visited o c f annotations r) (fields : List Field) :
    Visited o { c with fields := fields } f annotations r := by
  cases h with
  | ignored hi => exact .ignored hi
  | inconsistent hi hw hn => exact .inconsistent hi hw hn
  | refused hi hz hr => exact .refused hi hz hr
  | completed hi hn hw => exact .completed hi hn hw

theorem FieldsVisited.withFields {o : Options} {c : Class} {rest rest' : List Field}
    {r : Except AnnotateError (List FieldChange)} (h : FieldsVisited o c rest rest' r)
    (fields : List Field) : FieldsVisited o { c with fields := fields } rest rest' r := by
  induction h with
  | done => exact .done
  | stopped hv => exact .stopped (hv.withFields fields)
  | next hv _ ih => exact .next (hv.withFields fields) ih

/-- In a class with distinct field names, the visit of a field name visits the field at that
place. -/
theorem field_at {c : Class} {f : Field} {before rest : List Field} {names : List String}
    (hfields : c.fields = before ++ rest) (hnames : f.name :: names = rest.map (·.name))
    (hdistinct : (c.fields.map (·.name)).Nodup) (hf : c.field? f.name = some f) :
    ∃ rest', rest = f :: rest' ∧ names = rest'.map (·.name) ∧ f.name ∉ before.map (·.name) := by
  obtain ⟨g, rest', rfl, hg, rfl⟩ := List.map_eq_cons_iff.1 hnames.symm
  have hnot := Class.name_not_mem_of_distinct hfields hdistinct
  have hgf := Class.field?_of_fields hfields hnot
  rw [hg, hf] at hgf
  obtain rfl := Option.some.inj hgf
  exact ⟨rest', rfl, rfl, hnot⟩

theorem ClassVisited.fieldsVisited {o : Options} {c d : Class} {names : List String}
    {r : Except AnnotateError (List FieldChange)} (h : ClassVisited o c names d r)
    {before rest : List Field} (hfields : c.fields = before ++ rest)
    (hnames : names = rest.map (·.name)) (hdistinct : (c.fields.map (·.name)).Nodup) :
    ∃ rest', d = { c with fields := before ++ rest' } ∧ FieldsVisited o c rest rest' r := by
  induction h generalizing before rest with
  | @done c =>
    obtain rfl := List.map_eq_nil_iff.1 hnames.symm
    exact ⟨[], by rw [← hfields], .done⟩
  | stopped hf hv =>
    obtain ⟨rest, rfl, -, hnot⟩ := field_at hfields hnames hdistinct hf
    exact ⟨_, Class.withAnnotations_of_fields hfields hnot _, .stopped hv⟩
  | @next c d f names annotations change r hf hv later ih =>
    obtain ⟨rest, rfl, hnames, hnot⟩ := field_at hfields hnames hdistinct hf
    -- The visited field joins those that the later visits leave alone.
    have hstep := Class.withAnnotations_of_fields hfields hnot annotations
    have hfields' : (c.withAnnotations f.name annotations).fields =
        (before ++ [f.withAnnotations annotations]) ++ rest := by
      rw [hstep, List.append_assoc]
      rfl
    obtain ⟨rest', rfl, hrest⟩ := ih hfields' hnames (by rwa [Class.withAnnotations_fields_name])
    refine ⟨f.withAnnotations annotations :: rest', ?_, .next hv (hrest.withFields c.fields)⟩
    rw [List.append_assoc]
    rfl

/-- The visit of a class with distinct field names goes through its fields. -/
theorem ClassVisited.fieldsVisited_all {o : Options} {c d : Class}
    {r : Except AnnotateError (List FieldChange)}
    (h : ClassVisited o c (c.fields.map (·.name)) d r)
    (hdistinct : (c.fields.map (·.name)).Nodup) :
    ∃ fields, d = { c with fields := fields } ∧ FieldsVisited o c c.fields fields r :=
  h.fieldsVisited (List.nil_append c.fields).symm rfl hdistinct

/-! ## The classes of a run -/

/-- How a run over classes can go: what becomes of the classes, and with which result. -/
inductive Ran (filter : ClassFilter) (o : Options) :
    List Class → List Class → Except AnnotateError Report → Prop
  | done : Ran filter o [] [] (.ok {})
  | unscoped {c : Class} {rest : List Class} {e : ScopeError} (hs : filter.inScope c = .error e) :
      Ran filter o (c :: rest) (c :: rest) (.error (.scope e))
  | skipped {c : Class} {rest rest' : List Class} {r : Except AnnotateError Report}
      (hs : filter.inScope c = .ok false) (later : Ran filter o rest rest' r) :
      Ran filter o (c :: rest) (c :: rest') (r.map (·.afterSkipped))
  | stopped {c d : Class} {rest : List Class} {e : AnnotateError} (hs : filter.inScope c = .ok true)
      (hv : ClassVisited o c (c.fields.map (·.name)) d (.error e)) :
      Ran filter o (c :: rest) (d :: rest) (.error e)
  | visited {c d : Class} {rest rest' : List Class} {changes : List FieldChange}
      {r : Except AnnotateError Report} (hs : filter.inScope c = .ok true)
      (hv : ClassVisited o c (c.fields.map (·.name)) d (.ok changes))
      (later : Ran filter o rest rest' r) :
      Ran filter o (c :: rest) (d :: rest') (r.map (·.afterVisited changes))

theorem annotate_ran (filter : ClassFilter) (o : Options) (classes : List Class) :
    Ran filter o classes (annotate filter o classes).classes (annotate filter o classes).result := by
  show Ran filter o classes (visitClasses filter o classes).classes
    (visitClasses filter o classes).result
  induction classes with
  | nil => exact .done
  | cons c rest ih =>
    have hv := visitClass_visited o c
    unfold visitClasses
    cases hs : filter.inScope c with
    | error e => exact .unscoped hs
    | ok inside =>
      cases inside with
      | false => exact .skipped hs ih
      | true =>
        cases hr : ((visitClass o).run c).result with
        | error e =>
          rw [hr] at hv
          simp only [hr]
          exact .stopped hs hv
        | ok changes =>
          rw [hr] at hv
          simp only [hr]
          exact .visited hs hv ih

/-- A run without an error visits the classes in scope and skips those out of scope. -/
theorem Ran.counts {filter : ClassFilter} {o : Options} {classes after : List Class}
    {r : Except AnnotateError Report} (h : Ran filter o classes after r) {report : Report}
    (hr : r = .ok report) :
    report.visited = (classes.map filter.inScope).countP (· matches .ok true) ∧
      report.skipped = (classes.map filter.inScope).countP (· matches .ok false) := by
  induction h generalizing report with
  | done =>
    cases hr
    exact ⟨rfl, rfl⟩
  | unscoped | stopped => cases hr
  | skipped hs _ ih =>
    obtain ⟨later, hlater, rfl⟩ := ok_of_map_ok hr
    obtain ⟨hvisited, hskipped⟩ := ih hlater
    rw [List.map_cons, hs, List.countP_cons_of_neg (by simp), List.countP_cons_of_pos rfl]
    exact ⟨hvisited, congrArg (· + 1) hskipped⟩
  | visited hs _ _ ih =>
    obtain ⟨later, hlater, rfl⟩ := ok_of_map_ok hr
    obtain ⟨hvisited, hskipped⟩ := ih hlater
    rw [List.map_cons, hs, List.countP_cons_of_pos rfl, List.countP_cons_of_neg (by simp)]
    exact ⟨congrArg (· + 1) hvisited, hskipped⟩

/-! ## What every visit of a field keeps -/

/-- Every visit of a field keeps a property of its annotations. -/
def KeptByVisits (o : Options) (I : List Annotation → Prop) : Prop :=
  ∀ ⦃c : Class⦄ ⦃f : Field⦄ ⦃annotations : List Annotation⦄
    ⦃r : Except AnnotateError (Option FieldChange)⦄,
    Visited o c f annotations r → I f.annotations → I annotations

/-- Every change that is recorded of a field with a property of its annotations has another one. -/
def RecordedByVisits (o : Options) (I : List Annotation → Prop) (P : FieldChange → Prop) : Prop :=
  ∀ ⦃c : Class⦄ ⦃f : Field⦄ ⦃annotations : List Annotation⦄ ⦃ch : FieldChange⦄,
    Visited o c f annotations (.ok (some ch)) → I f.annotations → P ch

section Visits
variable {filter : ClassFilter} {o : Options} {I : List Annotation → Prop}
  {P : FieldChange → Prop}

theorem Class.forall_withAnnotations {c : Class} (h : ∀ f ∈ c.fields, I f.annotations)
    {annotations : List Annotation} (ha : I annotations) (name : String) :
    ∀ f ∈ (c.withAnnotations name annotations).fields, I f.annotations := by
  intro f hf
  rcases Class.mem_modifyFirst hf with hf | ⟨g, -, rfl⟩
  · exact h f hf
  · exact ha

theorem ClassVisited.forall_fields (hI : KeptByVisits o I) {c d : Class} {names : List String}
    {r : Except AnnotateError (List FieldChange)} (h : ClassVisited o c names d r)
    (hc : ∀ f ∈ c.fields, I f.annotations) : ∀ f ∈ d.fields, I f.annotations := by
  induction h with
  | done => exact hc
  | stopped hf hv => exact Class.forall_withAnnotations hc (hI hv (hc _ (Class.field?_mem hf))) _
  | next hf hv _ ih =>
    exact ih (Class.forall_withAnnotations hc (hI hv (hc _ (Class.field?_mem hf))) _)

theorem ClassVisited.forall_changes (hI : KeptByVisits o I) (hP : RecordedByVisits o I P)
    {c d : Class} {names : List String} {r : Except AnnotateError (List FieldChange)}
    (h : ClassVisited o c names d r) (hc : ∀ f ∈ c.fields, I f.annotations)
    {changes : List FieldChange} (hr : r = .ok changes) : ∀ ch ∈ changes, P ch := by
  induction h generalizing changes with
  | done =>
    cases hr
    exact List.forall_mem_nil _
  | stopped => cases hr
  | @next _ _ f _ _ change _ hf hv _ ih =>
    obtain ⟨later, hlater, rfl⟩ := ok_of_map_ok hr
    have hfield : I f.annotations := hc f (Class.field?_mem hf)
    refine List.forall_mem_append.2
      ⟨?_, ih (Class.forall_withAnnotations hc (hI hv hfield) _) hlater⟩
    intro ch hch
    obtain rfl : change = some ch := Option.mem_toList.1 hch
    exact hP hv hfield

/-- What every visit of a field keeps holds of all fields after a run if it holds before. -/
theorem Ran.forall_fields (hI : KeptByVisits o I) {classes after : List Class}
    {r : Except AnnotateError Report} (h : Ran filter o classes after r)
    (hclasses : ∀ c ∈ classes, ∀ f ∈ c.fields, I f.annotations) :
    ∀ c ∈ after, ∀ f ∈ c.fields, I f.annotations := by
  induction h with
  | done | unscoped => exact hclasses
  | skipped _ _ ih =>
    obtain ⟨hc, hrest⟩ := List.forall_mem_cons.1 hclasses
    exact List.forall_mem_cons.2 ⟨hc, ih hrest⟩
  | stopped _ hv =>
    obtain ⟨hc, hrest⟩ := List.forall_mem_cons.1 hclasses
    exact List.forall_mem_cons.2 ⟨hv.forall_fields hI hc, hrest⟩
  | visited _ hv _ ih =>
    obtain ⟨hc, hrest⟩ := List.forall_mem_cons.1 hclasses
    exact List.forall_mem_cons.2 ⟨hv.forall_fields hI hc, ih hrest⟩

/-- What holds of every change that a visit records holds of every change in the report. -/
theorem Ran.forall_changes (hI : KeptByVisits o I) (hP : RecordedByVisits o I P)
    {classes after : List Class} {r : Except AnnotateError Report}
    (h : Ran filter o classes after r) (hclasses : ∀ c ∈ classes, ∀ f ∈ c.fields, I f.annotations)
    {report : Report} (hr : r = .ok report) : ∀ ch ∈ report.changes, P ch := by
  induction h generalizing report with
  | done =>
    cases hr
    exact List.forall_mem_nil _
  | unscoped | stopped => cases hr
  | skipped _ _ ih =>
    obtain ⟨later, hlater, rfl⟩ := ok_of_map_ok hr
    have hrest := ih (List.forall_mem_cons.1 hclasses).2 hlater
    exact hrest
  | visited _ hv _ ih =>
    obtain ⟨later, hlater, rfl⟩ := ok_of_map_ok hr
    obtain ⟨hc, hrest⟩ := List.forall_mem_cons.1 hclasses
    exact List.forall_mem_append.2 ⟨hv.forall_changes hI hP hc rfl, ih hrest hlater⟩

end Visits

end AutoAnnotate
