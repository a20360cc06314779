import AutoAnnotate.Proofs.Traversal
/-!
# The outcomes of a run are unique

`Visited`, `ClassVisited` and `Ran` say how a visit or a run can go. For each input there is one way
only, so that they say exactly what the visit of a class and a run leave (`visitClass_leaves_iff`,
`annotate_iff`). In a class with distinct field names the same holds of `FieldsVisited`
(`visitClass_leaves_iff_of_distinct`).
-/

namespace AutoAnnotate

open FieldVisit Visit

variable {filter : ClassFilter} {o : Options} {c d d' : Class}

/-! ## Fields -/

instance (before rules : List Annotation) : Decidable (Settled before rules) :=
  inferInstanceAs (Decidable (∀ a ∈ rules, _))

/-- What a visit of a field comes to: the annotations on the field, and the result. -/
def fieldOutcome (o : Options) (c : Class) (f : Field) :
    List Annotation × Except AnnotateError (Option FieldChange) :=
  let refused := (f.annotations, .error (.descriptor (.frozen c.name f.name)))
  if f.carriesAny o.ignoredFields.toList = true then (f.annotations, .ok none)
  else if c.frozen = true ∧ ¬Settled f.annotations (o.annotationsFor f.type) then refused
  else
    match o.resolve c (o.typed f) with
    | .error e => ((o.typed f).annotations, .error e)
    | .ok n =>
      if c.frozen = true ∧ ¬Settled f.annotations (o.rules c f n) then refused
      else
        let after := merged f.annotations (o.rules c f n)
        (after, .ok (changeOf c.name f.name f.annotations after))

theorem FieldVisit.Visited.eq_fieldOutcome {f : Field} {annotations : List Annotation}
    {r : Except AnnotateError (Option FieldChange)} (h : Visited o c f annotations r) :
    (annotations, r) = fieldOutcome o c f := by
  unfold fieldOutcome
  cases h with
  | ignored hi => rw [if_pos hi]
  | inconsistent hi hw hn =>
    rw [if_neg (Bool.eq_false_iff.1 hi), if_neg fun h => h.2 (hw h.1), hn]
  | refused hi hz hr =>
    rw [if_neg (Bool.eq_false_iff.1 hi)]
    by_cases htype : Settled f.annotations (o.annotationsFor f.type)
    · -- What the type asks for is there, and the nullability asks for more.
      obtain ⟨n, hn, hr⟩ := hr.resolve_left (not_not.2 htype)
      rw [if_neg fun h => h.2 htype, hn]
      exact (if_pos ⟨hz, hr⟩).symm
    · rw [if_pos ⟨hz, htype⟩]
  | @completed n hi hn hw =>
    have htype (hz : c.frozen = true) : Settled f.annotations (o.annotationsFor f.type) :=
      (settled_append.1 (settled_append.1 (hw hz)).1).1
    rw [if_neg (Bool.eq_false_iff.1 hi), if_neg fun h => h.2 (htype h.1), hn]
    exact (if_neg fun h => h.2 (hw h.1)).symm

/-- A visit of a field ends in one way. -/
theorem FieldVisit.Visited.unique {f : Field} {annotations annotations' : List Annotation}
    {r r' : Except AnnotateError (Option FieldChange)} (h : Visited o c f annotations r)
    (h' : Visited o c f annotations' r') : annotations = annotations' ∧ r = r' :=
  Prod.ext_iff.1 (h.eq_fieldOutcome.trans h'.eq_fieldOutcome.symm)

/-- A way in which the visit of a field can end is what the visit leaves. -/
theorem FieldVisit.Visited.leaves {f : Field} {annotations : List Annotation}
    {r : Except AnnotateError (Option FieldChange)} (h : Visited o c f annotations r)
    (hf : c.field? f.name = some f) :
    (visit o (o.isPersistent c) f.name).Leaves c (c.withAnnotations f.name annotations) r := by
  obtain ⟨annotations', r', h', hleaves⟩ := visit_leaves o hf
  obtain ⟨rfl, rfl⟩ := h.unique h'
  exact hleaves

/-! ## Classes -/

theorem ClassVisited.leaves {names : List String} {r : Except AnnotateError (List FieldChange)}
    (h : ClassVisited o c names d r) : (visitFields o (o.isPersistent c) names).Leaves c d r := by
  induction h with
  | done => exact leaves_pure _
  | stopped hf hv =>
    unfold visitFields
    exact (hv.leaves hf).stop _
  | next hf hv _ ih => exact visitFields_next (hv.leaves hf) ih

/-- The visit of a class goes through its field names in declaration order. -/
theorem visitClass_leaves_iff {r : Except AnnotateError (List FieldChange)} :
    (visitClass o).Leaves c d r ↔ ClassVisited o c (c.fields.map (·.name)) d r := by
  constructor
  · rintro ⟨rfl, rfl⟩
    exact visitClass_visited o c
  · exact fun h => leaves_current.bind h.leaves

theorem FieldsVisited.unique {rest rest' rest'' : List Field}
    {r r' : Except AnnotateError (List FieldChange)} (h : FieldsVisited o c rest rest' r)
    (h' : FieldsVisited o c rest rest'' r') : rest' = rest'' ∧ r = r' := by
  induction h generalizing rest'' r' with
  | done =>
    cases h'
    exact ⟨rfl, rfl⟩
  | stopped hv =>
    cases h' with
    | stopped hv' =>
      obtain ⟨rfl, hr⟩ := hv.unique hv'
      cases hr
      exact ⟨rfl, rfl⟩
    | next hv' => cases (hv.unique hv').2
  | next hv _ ih =>
    cases h' with
    | stopped hv' => cases (hv.unique hv').2
    | next hv' later' =>
      obtain ⟨rfl, hr⟩ := hv.unique hv'
      cases hr
      obtain ⟨rfl, rfl⟩ := ih later'
      exact ⟨rfl, rfl⟩

/-- The visit of a class with distinct field names goes through its fields, and the outcome for each
of them depends on no other field. -/
theorem visitClass_leaves_iff_of_distinct {r : Except AnnotateError (List FieldChange)}
    (hdistinct : (c.fields.map (·.name)).Nodup) :
    (visitClass o).Leaves c d r ↔
      ∃ fields, d = { c with fields := fields } ∧ FieldsVisited o c c.fields fields r := by
  rw [visitClass_leaves_iff]
  constructor
  · exact fun h => h.fieldsVisited_all hdistinct
  · -- The visit of the class has this form with some fields, and they can be no other ones.
    rintro ⟨fields, rfl, hfields⟩
    have hv := visitClass_visited o c
    obtain ⟨fields', hd, hfields'⟩ := hv.fieldsVisited_all hdistinct
    obtain ⟨rfl, hr⟩ := hfields.unique hfields'
    rwa [hd, ← hr] at hv

/-! ## Runs -/

theorem Ran.visitClasses_eq {classes after : List Class} {r : Except AnnotateError Report}
    (h : Ran filter o classes after r) :
    (visitClasses filter o classes).classes = after ∧
      (visitClasses filter o classes).result = r := by
  induction h with
  | done => exact ⟨rfl, rfl⟩
  | unscoped hs => simp only [visitClasses, hs, and_self]
  | skipped hs _ ih => simp only [visitClasses, hs, ih, and_self]
  | stopped hs hv =>
    obtain ⟨hd, hr⟩ := visitClass_leaves_iff.2 hv
    simp only [visitClasses, hs, hr, hd, and_self]
  | visited hs hv _ ih =>
    obtain ⟨hd, hr⟩ := visitClass_leaves_iff.2 hv
    simp only [visitClasses, hs, hr, hd, ih, and_self]

/-- A run takes the classes one by one. -/
theorem annotate_iff {classes after : List Class} {r : Except AnnotateError Report} :
    (annotate filter o classes).classes = after ∧ (annotate filter o classes).result = r ↔
      Ran filter o classes after r := by
  constructor
  · rintro ⟨rfl, rfl⟩
    exact annotate_ran filter o classes
  · exact fun h => h.visitClasses_eq

end AutoAnnotate
