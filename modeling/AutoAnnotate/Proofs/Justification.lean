import AutoAnnotate.Proofs.FinalField
import AutoAnnotate.Proofs.Reference
/-!
# What a run adds is what is missing at the end

`Demanded` says which kinds of annotation a field should have, from the field and its class alone.
After a run, what has been added to a field is exactly what the field as it now is demands and did
not have before (`annotate_justified`): nothing is missing, and nothing came without a reason.
-/

namespace AutoAnnotate

open Vocabulary (notNull notBlank column)

/-- The kinds of annotation that a field of nullability `n` should have. -/
inductive Demanded (o : Options) (c : Class) (f : Field) (n : Nullability) : String → Prop
  | byType {a : Annotation} (ha : a ∈ o.annotationsFor f.type) : Demanded o c f n a.kind
  | notNull (ho : o.validation.inferNotNull = true) (hn : n = .nonNull) : Demanded o c f n notNull
  | notBlank (ho : o.validation.inferNotBlank = true) (ht : f.type ∈ o.textTypes)
      (hn : n = .nonNull) : Demanded o c f n notBlank
  | nullOrNotBlank (ho : o.validation.inferNotBlank = true) (ht : f.type ∈ o.textTypes)
      (hn : n = .nullable) : Demanded o c f n o.validation.nullOrNotBlank.kind
  /-- A column is demanded where there is something to say about it. -/
  | column (hp : o.isPersistent c = true) (hc : ¬o.Precludes f.annotations)
      (hreason : o.jpa.inferNullable = true ∧ n = .nonNull ∨
        o.jpa.inferLength = true ∧ ∃ max, sizeLimit f.annotations = some max) :
      Demanded o c f n column

/-- The field `f'` has come from `f` by adding what `f'` demands and `f` lacks. -/
def Justified (o : Options) (c : Class) (f f' : Field) : Prop :=
  ∃ n added, o.resolve c f' = .ok n ∧ f'.annotations = f.annotations ++ added ∧
    ∀ kind, kind ∈ added.map (·.kind) ↔
      Demanded o c f' n kind ∧ kind ∉ f.annotations.map (·.kind)

variable {filter : ClassFilter} {o : Options} {c c' : Class} {f f' : Field} {n : Nullability}

/-- The rules for a field name the kinds that the completed field demands. -/
theorem Options.mem_kinds_rules_iff (hc : column ∉ o.jpa.precluding) {kind : String} :
    kind ∈ (o.rules c f n).map (·.kind) ↔ Demanded o c (o.completed c f n) n kind := by
  rw [rules_eq, List.map_append, List.map_append, List.mem_append, List.mem_append,
    mem_kinds_nullabilityRules, mem_kinds_columnRules, ← precludes_completed_iff hc,
    ← sizeLimit_completed]
  constructor
  · rintro (htype | (⟨⟨ho, hn⟩, rfl⟩ | ⟨⟨ho, ht⟩, ⟨hn, rfl⟩ | ⟨hn, rfl⟩⟩) | ⟨rfl, ⟨hp, hcol⟩, hreason⟩)
    · obtain ⟨a, ha, rfl⟩ := List.mem_map.1 htype
      exact .byType ha
    · exact .notNull ho hn
    · exact .notBlank ho ht hn
    · exact .nullOrNotBlank ho ht hn
    · exact .column hp hcol hreason
  · intro h
    cases h with
    | byType ha => exact .inl (List.mem_map_of_mem ha)
    | notNull ho hn => exact .inr (.inl (.inl ⟨⟨ho, hn⟩, rfl⟩))
    | notBlank ho ht hn => exact .inr (.inl (.inr ⟨⟨ho, ht⟩, .inl ⟨hn, rfl⟩⟩))
    | nullOrNotBlank ho ht hn => exact .inr (.inl (.inr ⟨⟨ho, ht⟩, .inr ⟨hn, rfl⟩⟩))
    | column hp hcol hreason => exact .inr (.inr ⟨rfl, ⟨hp, hcol⟩, hreason⟩)

theorem FieldReference.justified (hu : o.Unopposed) (hc : column ∉ o.jpa.precluding)
    (h : FieldReference o c f f') (hi : ∀ a ∈ f.annotations, a.kind ∉ o.ignoredFields) :
    Justified o c f f' := by
  rcases h with ⟨⟨a, ha, hkind⟩, -⟩ | ⟨-, n, hn, rfl⟩
  · exact absurd hkind (hi a ha)
  · refine ⟨n, additions f.annotations (o.rules c f n), Options.resolve_completed hu hn, rfl, ?_⟩
    intro kind
    rw [mem_kinds_additions, Options.mem_kinds_rules_iff hc]
    rfl

theorem ClassReference.justified (hu : o.Unopposed) (hc : column ∉ o.jpa.precluding)
    (h : ClassReference filter o c c') (hs : filter.inScope c = .ok true) :
    List.Forall₂ (fun f f' => (∀ a ∈ f.annotations, a.kind ∉ o.ignoredFields) → Justified o c' f f')
      c.fields c'.fields := by
  rcases h with ⟨hs', -⟩ | ⟨-, fields, hfields, rfl⟩
  · rw [hs] at hs'
    cases hs'
  · -- A field is judged by the annotations of its class, which a run keeps.
    refine hfields.imp fun f f' hf => ?_
    have hf' : FieldReference o { c with fields := fields } f f' := hf
    exact hf'.justified hu hc

/-- After a run without an error over classes with distinct field names, what has been added to each
field of a class in scope, unless the run was kept away from it, is what the field demands at the
end and did not have. -/
theorem annotate_justified {classes : List Class} {report : Report} (hu : o.Unopposed)
    (hc : column ∉ o.jpa.precluding) (hdistinct : ∀ c ∈ classes, (c.fields.map (·.name)).Nodup)
    (h : (annotate filter o classes).result = .ok report) :
    List.Forall₂ (fun c c' => filter.inScope c = .ok true →
      List.Forall₂ (fun f f' => (∀ a ∈ f.annotations, a.kind ∉ o.ignoredFields) →
        Justified o c' f f') c.fields c'.fields)
      classes (annotate filter o classes).classes :=
  ((annotate_ran filter o classes).reference h hdistinct).imp fun _ _ hr => hr.justified hu hc

theorem briefClass_justified :
    ∃ report, (annotate {} Samples.briefOptions [Samples.briefClass]).result = .ok report ∧
      List.Forall₂ (fun c c' => ({} : ClassFilter).inScope c = .ok true →
        List.Forall₂ (fun f f' =>
          (∀ a ∈ f.annotations, a.kind ∉ Samples.briefOptions.ignoredFields) →
            Justified Samples.briefOptions c' f f') c.fields c'.fields)
        [Samples.briefClass] (annotate {} Samples.briefOptions [Samples.briefClass]).classes := by
  obtain ⟨report, h⟩ := ok_of_isOk (r := (annotate {} Samples.briefOptions
    [Samples.briefClass]).result) (by decide +kernel)
  exact ⟨report, h, annotate_justified Options.unopposed_briefOptions (by decide) (by decide) h⟩

end AutoAnnotate
