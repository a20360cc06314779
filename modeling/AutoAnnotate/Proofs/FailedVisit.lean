import AutoAnnotate.Proofs.FailFast
import AutoAnnotate.Proofs.Preservation
/-!
# What a failed visit leaves on its field

The annotations of its type are on a field before its markers are judged, because they can be
markers themselves, and a run does not take back what it has done. So a field with contradicting
markers keeps what its type asks for. Every other failed visit leaves its field as it was
(`annotate_leaves_failed_field`).
-/

namespace AutoAnnotate

open FieldVisit Visit

variable {filter : ClassFilter} {o : Options} {c : Class} {f f' : Field} {e : AnnotateError}

/-- A visit that fails leaves what the field carried. If it fails on contradicting markers, what the
type of the field asks for has been added. -/
theorem FieldVisit.Visited.of_error {annotations : List Annotation}
    (h : Visited o c f annotations (.error e)) :
    (∃ cause, e = .descriptor cause ∧ annotations = f.annotations) ∨
      ∃ cls field markers, e = .inconsistentNullability cls field markers ∧
        annotations = merged f.annotations (o.annotationsFor f.type) := by
  cases h with
  | inconsistent hi hw hn => exact .inr ⟨_, _, _, Options.eq_of_resolve_error hn, rfl⟩
  | refused => exact .inl ⟨_, rfl, rfl⟩

/-- The field at which the visit of a class stops is the one that its name means, before the visit
and after it. -/
theorem StopsAtField.field? (h : StopsAtField o c f f')
    (hdistinct : (c.fields.map (·.name)).Nodup) (hname : f'.name = f.name) :
    c.field? f.name = some f ∧ ((visitClass o).run c).cls.field? f.name = some f' := by
  obtain ⟨before, before', rest, changes, hfields, hcls, hshort⟩ := h
  have hnot := Class.name_not_mem_of_distinct hfields hdistinct
  have hsame : before'.map (·.name) = before.map (·.name) :=
    (visitClass_leaves_iff.1 hshort).kept.map_name
  have hfields' : ((visitClass o).run c).cls.fields = before' ++ f' :: rest := by rw [hcls]
  refine ⟨Class.field?_of_fields hfields hnot, ?_⟩
  rw [← hname] at hnot ⊢
  exact Class.field?_of_fields hfields' (hsame ▸ hnot)

/-- A run that stops at a field leaves the annotations of that field as they were if its class
refused a change, or if the type of the field asks for no new kind of annotation. If the field
carries contradicting markers, it also carries what its type asks for. -/
theorem annotate_leaves_failed_field {classes : List Class} {name : String}
    (hdistinct : ∀ c ∈ classes, (c.fields.map (·.name)).Nodup)
    (h : (annotate filter o classes).result = .error e) (hname : e.field? = some name) :
    ∃ c c' f, StopsAt filter o classes e c c' ∧ c.field? name = some f ∧
      ((∃ cause, e = .descriptor cause) ∨ Settled f.annotations (o.annotationsFor f.type) →
        c'.field? name = some f) ∧
      ((∃ cls field markers, e = .inconsistentNullability cls field markers) →
        c'.field? name =
          some (f.withAnnotations (merged f.annotations (o.annotationsFor f.type)))) := by
  obtain ⟨c, c', hstops, hc⟩ := annotate_stops h
  rcases hc.of_single_error with ⟨hnone, -⟩ | ⟨-, -, rfl, hvisit⟩
  · rw [hname] at hnone
    cases hnone
  have hmem : c ∈ classes := by
    obtain ⟨before, rest, _, rfl, -⟩ := hstops
    exact List.mem_append_right _ List.mem_cons_self
  obtain ⟨f, annotations, -, hfield, hv, hstopsField⟩ := visitClass_stops (hdistinct c hmem) hvisit
  obtain rfl := Option.some.inj (hname.symm.trans hfield)
  obtain ⟨hbefore, hafter⟩ := hstopsField.field? (hdistinct c hmem) rfl
  refine ⟨c, _, f, hstops, hbefore, ?_⟩
  rcases hv.of_error with ⟨cause, rfl, rfl⟩ | ⟨cls, field, markers, rfl, rfl⟩
  · refine ⟨fun _ => hafter, ?_⟩
    rintro ⟨_, _, _, he⟩
    cases he
  · refine ⟨?_, fun _ => hafter⟩
    rintro (⟨_, he⟩ | hsettled)
    · cases he
    · rwa [merged_of_settled hsettled, Field.withAnnotations_self] at hafter

theorem tornClass_leaves_failed_field :
    ∃ c c' f,
      StopsAt {} Samples.briefOptions [Samples.tornClass]
        (.inconsistentNullability "Torn" "torn" ["Nullable", "NonNull"]) c c' ∧
      c.field? "torn" = some f ∧
      c'.field? "torn" = some (f.withAnnotations (merged f.annotations
        (Samples.briefOptions.annotationsFor f.type))) := by
  have h : (annotate {} Samples.briefOptions [Samples.tornClass]).result =
      .error (.inconsistentNullability "Torn" "torn" ["Nullable", "NonNull"]) := by
    decide +kernel
  obtain ⟨c, c', f, hstops, hf, -, hadded⟩ := annotate_leaves_failed_field (by decide) h rfl
  exact ⟨c, c', f, hstops, hf, hadded ⟨_, _, _, rfl⟩⟩

/-- A field with contradicting markers is not left as it was. -/
theorem tornClass_failed_field_changed :
    (Samples.tornClass.fields.map (·.name)).Nodup ∧
    (annotate {} Samples.briefOptions [Samples.tornClass]).result =
      .error (.inconsistentNullability "Torn" "torn" ["Nullable", "NonNull"]) ∧
    ∃ c', StopsAt {} Samples.briefOptions [Samples.tornClass]
        (.inconsistentNullability "Torn" "torn" ["Nullable", "NonNull"]) Samples.tornClass c' ∧
      c'.field? "torn" ≠ Samples.tornClass.field? "torn" := by
  have h : (annotate {} Samples.briefOptions [Samples.tornClass]).result =
      .error (.inconsistentNullability "Torn" "torn" ["Nullable", "NonNull"]) := by
    decide +kernel
  refine ⟨by decide, h, ((visitClass Samples.briefOptions).run Samples.tornClass).cls,
    ⟨[], [], {}, rfl, rfl, h, ?_, ?_⟩, ?_⟩
  · decide +kernel
  · decide +kernel
  · decide +kernel

end AutoAnnotate
