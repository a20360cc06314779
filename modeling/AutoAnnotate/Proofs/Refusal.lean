import AutoAnnotate.Proofs.FailFast
/-!
# What a class refuses a run

A run looks before it writes: it appends an annotation only to a field that lacks the kind, and fills
in attributes only of an annotation that it has added itself. So a class that is not frozen never
refuses what a run asks of it (`annotate_refused`). The errors that a class can answer otherwise, for a
field that it lacks, a kind that is there or a kind that is not, do not come out of a run.
-/

namespace AutoAnnotate

open FieldVisit Visit

/-- A frozen class refuses the change of one of its fields. -/
def RefusedFrozen (c : Class) (cause : MutationError) : Prop :=
  c.frozen = true ∧ ∃ f ∈ c.fields, cause = .frozen c.name f.name

variable {filter : ClassFilter} {o : Options} {c d : Class} {f : Field} {cause : MutationError}

theorem FieldVisit.Visited.refused_frozen {annotations : List Annotation}
    (h : Visited o c f annotations (.error (.descriptor cause))) :
    c.frozen = true ∧ cause = .frozen c.name f.name := by
  cases h with
  | inconsistent _ _ hn => cases Options.eq_of_resolve_error hn
  | refused _ hz => exact ⟨hz, rfl⟩

theorem ClassVisited.refused_frozen {names : List String}
    {r : Except AnnotateError (List FieldChange)} (h : ClassVisited o c names d r)
    (hr : r = .error (.descriptor cause)) :
    c.frozen = true ∧ ∃ name ∈ names, cause = .frozen c.name name := by
  induction h with
  | done => cases hr
  | stopped hf hv =>
    cases hr
    obtain ⟨hz, hcause⟩ := hv.refused_frozen
    exact ⟨hz, _, List.mem_cons_self, hcause⟩
  | next hf hv _ ih =>
    -- The visits before the refusal have changed neither the name of the class nor its flag.
    obtain ⟨hz, name, hname, hcause⟩ := ih (error_of_map_error hr)
    exact ⟨hz, name, List.mem_cons_of_mem _ hname, hcause⟩

theorem visitClass_refused (h : (visitClass o).Leaves c d (.error (.descriptor cause))) :
    RefusedFrozen c cause := by
  obtain ⟨hz, name, hname, hcause⟩ := (visitClass_leaves_iff.1 h).refused_frozen rfl
  obtain ⟨f, hf, rfl⟩ := List.mem_map.1 hname
  exact ⟨hz, f, hf, hcause⟩

/-- Whatever the classes hold, the only refusal that stops a run, or the visit of a class by itself,
is that of a frozen class: for a run it is the class at which the run stopped. -/
theorem annotate_refused (filter : ClassFilter) (o : Options) (cause : MutationError) :
    (∀ classes, (annotate filter o classes).result = .error (.descriptor cause) →
      ∃ c c', StopsAt filter o classes (.descriptor cause) c c' ∧ c ∈ classes ∧
        RefusedFrozen c cause) ∧
    ∀ c, ((visitClass o).run c).result = .error (.descriptor cause) → RefusedFrozen c cause := by
  constructor
  · intro classes h
    obtain ⟨c, c', hstops, hc⟩ := annotate_stops h
    have hmem : c ∈ classes := by
      obtain ⟨before, rest, _, rfl, -⟩ := hstops
      exact List.mem_append_right _ List.mem_cons_self
    rcases hc.of_single_error with ⟨hnone, -⟩ | ⟨-, -, hvisit⟩
    · -- An error without a field is about the scope of a class.
      cases hnone
    · exact ⟨c, c', hstops, hmem, visitClass_refused hvisit⟩
  · intro c h
    exact visitClass_refused ⟨rfl, h⟩

/-- Both fields of a frozen class that are not ignored lack something. The first one is named. -/
theorem briefClass_refused :
    (∃ c c', StopsAt {} Samples.briefOptions [Samples.ignored, Samples.briefClass.freeze]
      (.descriptor (.frozen "Brief" "limited")) c c' ∧
        RefusedFrozen c (.frozen "Brief" "limited")) ∧
    RefusedFrozen Samples.briefClass.freeze (.frozen "Brief" "limited") := by
  obtain ⟨hrun, hclass⟩ := annotate_refused {} Samples.briefOptions (.frozen "Brief" "limited")
  obtain ⟨c, c', hstops, -, hrefused⟩ :=
    hrun [Samples.ignored, Samples.briefClass.freeze] (by decide +kernel)
  exact ⟨⟨c, c', hstops, hrefused⟩, hclass Samples.briefClass.freeze (by decide +kernel)⟩

end AutoAnnotate
