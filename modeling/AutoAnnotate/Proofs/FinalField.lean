import AutoAnnotate.Proofs.Rules
import AutoAnnotate.Samples
/-!
# What a field says after a run

A run decides about a field while it still adds to it: on the nullability before the validation
annotations, and on the column before the column itself. This is harmless as long as nothing that
the rules add speaks against the nullability it follows from (`Options.Unopposed`): then the field
says at the end what it said when it was decided about.
-/

namespace AutoAnnotate

open Vocabulary (notNull notBlank column)

namespace Options

/-- No annotation that a rule adds is a marker of the opposite nullability. -/
structure Unopposed (o : Options) : Prop where
  notNull : notNull ∉ o.nullable
  notBlank : notBlank ∉ o.nullable
  column_nullable : column ∉ o.nullable
  column_nonNull : column ∉ o.nonNull
  nullOrNotBlank : o.validation.nullOrNotBlank.kind ∉ o.nonNull

/-- The default options are so, whatever types ask for. -/
theorem unopposed_ofPolicy (policy : OrderedMap (List Annotation)) :
    (Options.ofPolicy policy).Unopposed := by
  constructor <;> simp only [ofPolicy, NameSet.mem_ofList] <;> decide

theorem unopposed_briefOptions : Samples.briefOptions.Unopposed := by
  constructor <;> decide

variable {o : Options} {c : Class} {f : Field} {n : Nullability}

/-! ## The kinds of the rules -/

theorem mem_kinds_ite {p : Prop} [Decidable p] {a : Annotation} {kind : String} :
    kind ∈ (if p then [a] else []).map (·.kind) ↔ p ∧ kind = a.kind := by
  by_cases hp : p <;> simp [hp]

theorem mem_kinds_nullabilityRules {type kind : String} :
    kind ∈ (o.nullabilityRules type n).map (·.kind) ↔
      (o.validation.inferNotNull = true ∧ n = .nonNull) ∧ kind = notNull ∨
      (o.validation.inferNotBlank = true ∧ type ∈ o.textTypes) ∧
        (n = .nonNull ∧ kind = notBlank ∨
          n = .nullable ∧ kind = o.validation.nullOrNotBlank.kind) := by
  unfold nullabilityRules
  rw [List.map_append, List.mem_append, mem_kinds_ite]
  refine or_congr Iff.rfl ?_
  split
  · next ht => cases n <;> simp [ht, Annotation.marker]
  · next ht => simp [ht]

theorem mem_kinds_columnRules {annotations : List Annotation} {kind : String} :
    kind ∈ (o.columnRules c annotations n).map (·.kind) ↔
      kind = column ∧ (o.isPersistent c = true ∧ ¬o.Precludes annotations) ∧
        (o.jpa.inferNullable = true ∧ n = .nonNull ∨
          o.jpa.inferLength = true ∧ ∃ max, sizeLimit annotations = some max) := by
  unfold columnRules
  split
  · next hc =>
    rw [List.map_append, List.mem_append, mem_kinds_ite]
    cases sizeLimit annotations with
    | none =>
      have hnone : kind ∈ (if o.jpa.inferLength = true then ([] : List Annotation) else []).map
          (·.kind) ↔ False := by simp
      refine (or_congr Iff.rfl hnone).trans ?_
      simp [hc, Annotation.withAttribute, Annotation.marker, and_comm]
    | some max =>
      refine (or_congr Iff.rfl mem_kinds_ite).trans ?_
      simp [hc, Annotation.withAttribute, Annotation.marker, and_or_left, and_comm]
  · next hc => simp [hc]

/-! ## The nullability -/

/-- Whether a kind is a marker of the opposite of a nullability. -/
def Opposes (o : Options) (kind : String) : Nullability → Prop
  | .nonNull => kind ∈ o.nullable
  | .nullable => kind ∈ o.nonNull
  | .undetermined => False

/-- Nothing that a nullability asks for opposes it. -/
theorem Unopposed.not_opposes (hu : o.Unopposed) {type : String} {annotations : List Annotation}
    {a : Annotation} (ha : a ∈ o.nullabilityRules type n ++ o.columnRules c annotations n) :
    ¬o.Opposes a.kind n := by
  rcases List.mem_append.1 ha with ha | ha
  · rcases mem_kinds_nullabilityRules.1 (List.mem_map_of_mem ha) with
      ⟨⟨-, rfl⟩, hkind⟩ | ⟨-, ⟨rfl, hkind⟩ | ⟨rfl, hkind⟩⟩
    · exact hkind ▸ hu.notNull
    · exact hkind ▸ hu.notBlank
    · exact hkind ▸ hu.nullOrNotBlank
  · obtain ⟨hkind, -⟩ := mem_kinds_columnRules.1 (List.mem_map_of_mem ha)
    rw [hkind]
    cases n with
    | nonNull => exact hu.column_nullable
    | nullable => exact hu.column_nonNull
    | undetermined => exact not_false

/-- A field keeps its nullability when it gets annotations that do not oppose it. -/
theorem resolve_of_more {g : Field} {more : List Annotation} (ht : g.type = f.type)
    (hmore : ∀ kinds, g.carriesAny kinds = (f.carriesAny kinds || carriesAny more kinds))
    (h : ∀ a ∈ more, ¬o.Opposes a.kind n) (hn : o.resolve c f = .ok n) : o.resolve c g = .ok n := by
  have hnone : ∀ kinds : NameSet, (∀ kind, kind ∈ kinds → o.Opposes kind n) →
      carriesAny more kinds.toList = false := by
    intro kinds hkinds
    rw [← Bool.not_eq_true, carriesAny_iff]
    rintro ⟨a, ha, hkind⟩
    exact h a ha (hkinds a.kind hkind)
  unfold resolve explicitMarker at hn ⊢
  rw [ht]
  split at hn
  · next hp => rw [if_pos hp, hn]
  next hp =>
  rw [if_neg hp, hmore, hmore]
  cases hnonNull : f.carriesAny o.nonNull.toList <;>
    cases hnullable : f.carriesAny o.nullable.toList <;> rw [hnonNull, hnullable] at hn
  · -- Without a marker, a new one can only say what the class says.
    cases hd : c.nonNullByDefault with
    | false =>
      simp only [hd, Except.map] at hn
      cases hn
      rw [hnone o.nonNull fun _ hkind => hkind]
      cases carriesAny more o.nullable.toList <;> simp [Except.map]
    | true =>
      simp only [hd, Except.map] at hn
      cases hn
      rw [hnone o.nullable fun _ hkind => hkind]
      cases carriesAny more o.nonNull.toList <;> simp [Except.map]
  · cases hn
    rw [hnone o.nonNull fun _ hkind => hkind]
    rfl
  · cases hn
    rw [hnone o.nullable fun _ hkind => hkind]
    rfl
  · -- With markers of both kinds there is no nullability.
    cases hn

/-! ## The completed field -/

theorem rules_eq : o.rules c f n = o.annotationsFor f.type ++ (o.nullabilityRules f.type n ++
    o.columnRules c (merged f.annotations (o.constraintRules f n)) n) := by
  rw [rules, constraintRules, List.append_assoc]

/-- Its nullability is the one that its rules follow from. -/
theorem resolve_completed (hu : o.Unopposed) (hn : o.resolve c (o.typed f) = .ok n) :
    o.resolve c (o.completed c f n) = .ok n := by
  have hmore : ∀ kinds, (o.completed c f n).carriesAny kinds = ((o.typed f).carriesAny kinds ||
      carriesAny (o.nullabilityRules f.type n ++
        o.columnRules c (merged f.annotations (o.constraintRules f n)) n) kinds) := by
    intro kinds
    show carriesAny (merged f.annotations (o.rules c f n)) kinds =
      (carriesAny (merged f.annotations (o.annotationsFor f.type)) kinds || _)
    rw [carriesAny_merged, carriesAny_merged, rules_eq, carriesAny_append, Bool.or_assoc]
  have ht : (o.completed c f n).type = (o.typed f).type := rfl
  exact resolve_of_more ht hmore (fun a ha => hu.not_opposes ha) hn

/-- Its size is the one that its column follows from. -/
theorem sizeLimit_completed : sizeLimit (o.completed c f n).annotations =
    sizeLimit (merged f.annotations (o.constraintRules f n)) := by
  have hcolumn : ∀ a ∈ o.columnRules c (merged f.annotations (o.constraintRules f n)) n,
      a.kind ≠ Vocabulary.size := by
    intro a ha
    rw [(mem_kinds_columnRules.1 (List.mem_map_of_mem ha)).1]
    decide
  rw [sizeLimit, sizeLimit, completed, Field.withAnnotations_annotations, rules,
    annotation?_merged_append hcolumn]

theorem precludes_iff {annotations : List Annotation} : o.Precludes annotations ↔
    ∃ kind ∈ annotations.map (·.kind), kind = Vocabulary.transient ∨ kind ∈ o.jpa.precluding := by
  simp [Precludes]

/-- What keeps a field from having a column keeps the completed field from having one. -/
theorem precludes_completed (h : o.Precludes (merged f.annotations (o.constraintRules f n))) :
    o.Precludes (o.completed c f n).annotations := by
  rw [precludes_iff] at h ⊢
  obtain ⟨kind, hmem, hkind⟩ := h
  refine ⟨kind, mem_kinds_merged.2 ?_, hkind⟩
  rw [rules, List.map_append, List.mem_append]
  exact (mem_kinds_merged.1 hmem).imp_right .inl

/-- A column does not keep a field from having a column, unless the options say so. -/
theorem precludes_completed_iff (hc : column ∉ o.jpa.precluding) :
    o.Precludes (o.completed c f n).annotations ↔
      o.Precludes (merged f.annotations (o.constraintRules f n)) := by
  refine ⟨fun h => ?_, precludes_completed⟩
  rw [precludes_iff] at h ⊢
  obtain ⟨kind, hmem, hkind⟩ := h
  refine ⟨kind, mem_kinds_merged.2 ?_, hkind⟩
  refine (mem_kinds_merged.1 hmem).imp_right fun hrules => ?_
  rw [rules, List.map_append, List.mem_append] at hrules
  rcases hrules with hconstraint | hcolumn
  · exact hconstraint
  · -- The column is neither transient nor of a kind that precludes a column.
    obtain ⟨rfl, -⟩ := mem_kinds_columnRules.1 hcolumn
    rcases hkind with htransient | hprecluding
    · exact absurd htransient (by decide)
    · exact absurd hprecluding hc

/-- Nothing more is asked of it. -/
theorem settled_completed :
    Settled (o.completed c f n).annotations (o.rules c (o.completed c f n) n) := by
  have hconstraint : Settled (o.completed c f n).annotations (o.constraintRules f n) := fun a ha =>
    mem_kinds_merged.2 (.inr (List.mem_map_of_mem (List.mem_append_left _ ha)))
  refine settled_append.2 ⟨hconstraint, fun a ha => ?_⟩
  have hsame : merged (o.completed c f n).annotations (o.constraintRules (o.completed c f n) n) =
      (o.completed c f n).annotations := merged_of_settled hconstraint
  rw [hsame] at ha
  -- What asks for a column now has asked for it before.
  obtain ⟨hkind, ⟨hp, hcol⟩, hreason⟩ := mem_kinds_columnRules.1 (List.mem_map_of_mem ha)
  rw [sizeLimit_completed] at hreason
  have hstaged : column ∈
      (o.columnRules c (merged f.annotations (o.constraintRules f n)) n).map (·.kind) :=
    mem_kinds_columnRules.2 ⟨rfl, ⟨hp, mt precludes_completed hcol⟩, hreason⟩
  rw [hkind]
  refine mem_kinds_merged.2 (.inr ?_)
  rw [rules, List.map_append]
  exact List.mem_append_right _ hstaged

end Options

end AutoAnnotate
