import AutoAnnotate.Proofs.Traversal
import AutoAnnotate.Samples
/-!
# What a run makes of the classes

A run goes through its rules step by step, and a step can depend on what earlier steps have added.
`annotate_meets_reference` says what comes of it without any order of steps: a field ends with the
rules of `Options.rules` merged into the annotations it had.
-/

namespace AutoAnnotate

open FieldVisit

/-- What a run makes of a field of a class in scope. A field that carries an ignore marker stays as
it is. Any other field has a nullability `n`, once it has what its type asks for, and gets all that
the rules then ask of it. -/
def FieldReference (o : Options) (c : Class) (f f' : Field) : Prop :=
  (∃ a ∈ f.annotations, a.kind ∈ o.ignoredFields) ∧ f' = f ∨
  (∀ a ∈ f.annotations, a.kind ∉ o.ignoredFields) ∧
    ∃ n, o.resolve c (o.typed f) = .ok n ∧
      f' = f.withAnnotations (merged f.annotations (o.rules c f n))

/-- What a run makes of a class. -/
def ClassReference (filter : ClassFilter) (o : Options) (c c' : Class) : Prop :=
  filter.inScope c = .ok false ∧ c' = c ∨
  filter.inScope c = .ok true ∧
    ∃ fields, List.Forall₂ (FieldReference o c) c.fields fields ∧ c' = { c with fields := fields }

variable {filter : ClassFilter} {o : Options} {c : Class} {classes after : List Class}
  {report : Report}

/-- A visit that does not fail leaves a field as the reference says. -/
theorem FieldVisit.Visited.reference {f : Field} {annotations : List Annotation}
    {change : Option FieldChange} (h : Visited o c f annotations (.ok change)) :
    FieldReference o c f (f.withAnnotations annotations) := by
  cases h with
  | ignored hi => exact .inl ⟨Field.carriesAny_iff.1 hi, rfl⟩
  | completed hi hn hw => exact .inr ⟨Field.carriesAny_eq_false_iff.1 hi, _, hn, rfl⟩

theorem FieldsVisited.reference {rest rest' : List Field}
    {r : Except AnnotateError (List FieldChange)} (h : FieldsVisited o c rest rest' r)
    {changes : List FieldChange} (hr : r = .ok changes) :
    List.Forall₂ (FieldReference o c) rest rest' := by
  induction h generalizing changes with
  | done => exact .nil
  | stopped => cases hr
  | next hv _ ih =>
    obtain ⟨_, hr, -⟩ := ok_of_map_ok hr
    exact .cons hv.reference (ih hr)

theorem Ran.reference {r : Except AnnotateError Report} (h : Ran filter o classes after r)
    (hr : r = .ok report) (hdistinct : ∀ c ∈ classes, (c.fields.map (·.name)).Nodup) :
    List.Forall₂ (ClassReference filter o) classes after := by
  induction h generalizing report with
  | done => exact .nil
  | unscoped | stopped => cases hr
  | skipped hs _ ih =>
    obtain ⟨_, hr, -⟩ := ok_of_map_ok hr
    exact .cons (.inl ⟨hs, rfl⟩) (ih hr (List.forall_mem_cons.1 hdistinct).2)
  | visited hs hv _ ih =>
    obtain ⟨_, hr, -⟩ := ok_of_map_ok hr
    obtain ⟨hd, hrest⟩ := List.forall_mem_cons.1 hdistinct
    obtain ⟨fields, rfl, hfields⟩ := hv.fieldsVisited_all hd
    exact .cons (.inr ⟨hs, fields, hfields.reference rfl, rfl⟩) (ih hr hrest)

/-- After a run without an error over classes with distinct field names, every class and every field
is what the reference says. -/
theorem annotate_meets_reference (hdistinct : ∀ c ∈ classes, (c.fields.map (·.name)).Nodup)
    (h : (annotate filter o classes).result = .ok report) :
    List.Forall₂ (ClassReference filter o) classes (annotate filter o classes).classes :=
  (annotate_ran filter o classes).reference h hdistinct

theorem briefClass_meets_reference :
    ∃ report, (annotate {} Samples.briefOptions [Samples.briefClass]).result = .ok report ∧
      List.Forall₂ (ClassReference {} Samples.briefOptions) [Samples.briefClass]
        (annotate {} Samples.briefOptions [Samples.briefClass]).classes := by
  obtain ⟨report, h⟩ := ok_of_isOk (r := (annotate {} Samples.briefOptions
    [Samples.briefClass]).result) (by decide +kernel)
  exact ⟨report, h, annotate_meets_reference (by decide) h⟩

end AutoAnnotate
