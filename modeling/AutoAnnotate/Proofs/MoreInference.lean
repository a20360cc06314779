import AutoAnnotate.Proofs.Coverage
import AutoAnnotate.Proofs.FinalField
import AutoAnnotate.Proofs.OrderIndependence
/-!
# More inference adds more

Options that infer more leave nothing out that fewer inferences would have added, and give no
attribute another value (`annotate_adds_more`). This is not plain, since a rule reads what earlier
rules have added. But what is inferred from nullability does not decide whether a field may have a
column (`precludes_constraintRules_iff`), and a size that gives a column its length stays the same
(`CoveredBy.sizeLimit`), so that the rules of the one options cover those of the other
(`InfersMore.rules`).
-/

namespace AutoAnnotate

open FieldVisit Visit
open Vocabulary (notNull notBlank column)

/-! ## Options that infer more -/

namespace Options

/-- The second options are the first ones, perhaps with more inferences switched on. -/
structure InfersMore (o p : Options) : Prop where
  policy : p.policy = o.policy
  ignoredFields : p.ignoredFields = o.ignoredFields
  nonNull : p.nonNull = o.nonNull
  nullable : p.nullable = o.nullable
  textTypes : p.textTypes = o.textTypes
  nullOrNotBlank : p.validation.nullOrNotBlank = o.validation.nullOrNotBlank
  classMarkers : p.jpa.classMarkers = o.jpa.classMarkers
  precluding : p.jpa.precluding = o.jpa.precluding
  inferNotNull : o.validation.inferNotNull = true → p.validation.inferNotNull = true
  inferNotBlank : o.validation.inferNotBlank = true → p.validation.inferNotBlank = true
  inferNullable : o.jpa.inferNullable = true → p.jpa.inferNullable = true
  inferLength : o.jpa.inferLength = true → p.jpa.inferLength = true

/-- No validation annotation is a column or keeps a field from having one. -/
structure ApartFromColumns (o : Options) : Prop where
  notNull : notNull ∉ o.jpa.precluding
  notBlank : notBlank ∉ o.jpa.precluding
  nullOrNotBlank : o.validation.nullOrNotBlank.kind ∉ o.jpa.precluding
  not_transient : o.validation.nullOrNotBlank.kind ≠ Vocabulary.transient
  not_column : o.validation.nullOrNotBlank.kind ≠ column

variable {o p : Options} {c : Class} {f : Field} {n : Nullability}

/-! ## The validation annotations -/

theorem ApartFromColumns.kind_ne_column (ha : o.ApartFromColumns) {type : String} {a : Annotation}
    (h : a ∈ o.nullabilityRules type n) : a.kind ≠ column := by
  rcases mem_kinds_nullabilityRules.1 (List.mem_map_of_mem h) with
    ⟨-, hkind⟩ | ⟨-, ⟨-, hkind⟩ | ⟨-, hkind⟩⟩
  · rw [hkind]
    decide
  · rw [hkind]
    decide
  · rw [hkind]
    exact ha.not_column

theorem ApartFromColumns.not_precludes (ha : o.ApartFromColumns) (type : String)
    (n : Nullability) : ¬o.Precludes (o.nullabilityRules type n) := by
  rw [precludes_iff]
  rintro ⟨kind, hmem, hkind⟩
  rcases mem_kinds_nullabilityRules.1 hmem with ⟨-, rfl⟩ | ⟨-, ⟨-, rfl⟩ | ⟨-, rfl⟩⟩
  · exact hkind.elim (by decide) ha.notNull
  · exact hkind.elim (by decide) ha.notBlank
  · exact hkind.elim ha.not_transient ha.nullOrNotBlank

theorem precludes_append {l l' : List Annotation} :
    o.Precludes (l ++ l') ↔ o.Precludes l ∨ o.Precludes l' := by
  simp [Precludes, or_and_right, exists_or]

theorem precludes_merged {before rules : List Annotation} :
    o.Precludes (merged before rules) ↔ o.Precludes before ∨ o.Precludes rules := by
  simp only [precludes_iff, mem_kinds_merged, or_and_right, exists_or]

/-- Whether a field may have a column is not a matter of what is inferred from its nullability. -/
theorem precludes_constraintRules_iff (ha : o.ApartFromColumns) :
    o.Precludes (merged f.annotations (o.constraintRules f n)) ↔
      o.Precludes f.annotations ∨ o.Precludes (o.annotationsFor f.type) := by
  rw [precludes_merged, constraintRules, precludes_append, or_iff_left (ha.not_precludes f.type n)]

namespace InfersMore

theorem apartFromColumns (h : o.InfersMore p) (ha : o.ApartFromColumns) : p.ApartFromColumns where
  notNull := h.precluding ▸ ha.notNull
  notBlank := h.precluding ▸ ha.notBlank
  nullOrNotBlank := by
    rw [h.nullOrNotBlank, h.precluding]
    exact ha.nullOrNotBlank
  not_transient := h.nullOrNotBlank ▸ ha.not_transient
  not_column := h.nullOrNotBlank ▸ ha.not_column

theorem annotationsFor (h : o.InfersMore p) (type : String) :
    p.annotationsFor type = o.annotationsFor type := by
  unfold Options.annotationsFor
  rw [h.policy]

theorem typed (h : o.InfersMore p) (f : Field) : p.typed f = o.typed f := by
  unfold Options.typed
  rw [h.annotationsFor]

theorem resolve (h : o.InfersMore p) (c : Class) (f : Field) : p.resolve c f = o.resolve c f := by
  unfold Options.resolve explicitMarker markersOn
  rw [h.nonNull, h.nullable]

theorem precludes_iff (h : o.InfersMore p) {l : List Annotation} :
    p.Precludes l ↔ o.Precludes l := by
  unfold Precludes
  rw [h.precluding]

theorem nullabilityRules (h : o.InfersMore p) (type : String) (n : Nullability) :
    CoveredBy (o.nullabilityRules type n) (p.nullabilityRules type n) := by
  unfold Options.nullabilityRules
  rw [h.textTypes, h.nullOrNotBlank]
  refine .append (.ite (.imp_left h.inferNotNull) fun _ => .refl _)
    (.ite (.imp_left h.inferNotBlank) fun _ => .refl _) ?_
  -- The annotation for non-null fields gives no attributes.
  refine .ite fun a ha b _ _ name => .inl ?_
  rw [List.mem_singleton.1 ha]
  rfl

/-! ## The column annotations -/

theorem isPersistent (h : o.InfersMore p) (c : Class) : p.isPersistent c = o.isPersistent c := by
  unfold Options.isPersistent
  rw [h.classMarkers]

theorem columnRules (h : o.InfersMore p) {l l' : List Annotation}
    (hl : o.Precludes l' → o.Precludes l)
    (hsize : ∀ max, sizeLimit l = some max → sizeLimit l' = some max) :
    CoveredBy (o.columnRules c l n) (p.columnRules c l' n) := by
  have hasked : o.isPersistent c = true ∧ ¬o.Precludes l →
      p.isPersistent c = true ∧ ¬p.Precludes l' :=
    .imp (h.isPersistent c).trans (mt fun hp => hl (h.precludes_iff.1 hp))
  unfold Options.columnRules
  refine .ite hasked fun _ => .append (.ite (.imp_left h.inferNullable) fun _ => .refl _)
    (.ite h.inferLength fun _ => ?_) (.ite ?_)
  · cases hmax : sizeLimit l with
    | none => exact .nil _
    | some max =>
      rw [hsize max hmax]
      exact .refl _
  · -- One annotation says whether the column may be null, the other one how long it is.
    cases sizeLimit l with
    | none => exact fun _ _ _ hb => nomatch hb
    | some max =>
      refine independent_singleton fun name => ?_
      by_cases hname : "nullable" = name
      · subst hname
        exact .inr rfl
      · exact .inl (get?_withAttribute_marker_of_ne hname)

/-- All that is asked of a field. -/
theorem rules (h : o.InfersMore p) (ha : o.ApartFromColumns) (c : Class) (f : Field)
    (n : Nullability) : CoveredBy (o.rules c f n) (p.rules c f n) := by
  have hconstraint : CoveredBy (o.constraintRules f n) (p.constraintRules f n) := by
    rw [constraintRules, constraintRules, h.annotationsFor]
    exact (h.nullabilityRules f.type n).append_left _
  have hprecludes : o.Precludes (merged f.annotations (p.constraintRules f n)) →
      o.Precludes (merged f.annotations (o.constraintRules f n)) := by
    rw [← h.precludes_iff, precludes_constraintRules_iff (h.apartFromColumns ha),
      precludes_constraintRules_iff ha, h.precludes_iff, h.precludes_iff, h.annotationsFor]
    exact id
  rw [rules_eq, rules_eq, h.annotationsFor]
  refine .append_left (.append (h.nullabilityRules f.type n)
    (h.columnRules hprecludes fun _ => hconstraint.sizeLimit) ?_) _
  -- No annotation in front of the column is of its kind.
  intro a hmem b hcolumn hkind
  rw [(mem_kinds_columnRules.1 (List.mem_map_of_mem hcolumn)).1] at hkind
  exact absurd hkind ((h.apartFromColumns ha).kind_ne_column hmem)

end InfersMore

end Options

/-! ## Two runs side by side -/

/-- The elements of three lists are related place by place. -/
inductive Forall₃ {α : Type} (R : α → α → α → Prop) : List α → List α → List α → Prop
  | nil : Forall₃ R [] [] []
  | cons {x y z : α} {l l' l'' : List α} (h : R x y z) (rest : Forall₃ R l l' l'') :
      Forall₃ R (x :: l) (y :: l') (z :: l'')

theorem Forall₃.refl {α : Type} {R : α → α → α → Prop} (hR : ∀ x, R x x x) (l : List α) :
    Forall₃ R l l l := by
  induction l with
  | nil => exact .nil
  | cons x rest ih => exact .cons (hR x) ih

/-- Two runs have appended annotations to a field, the second one no kind twice, and what the first
one has appended is in what the second one has. -/
def AddsMore (f f₁ f₂ : Field) : Prop :=
  ∃ added added', f₁ = f.withAnnotations (f.annotations ++ added) ∧
    f₂ = f.withAnnotations (f.annotations ++ added') ∧ (added'.map (·.kind)).Nodup ∧
    KeptIn added added'

/-- Two runs have appended annotations to the fields of a class, and so for each field. -/
structure ClassAddsMore (c c₁ c₂ : Class) : Prop where
  first : c₁ = { c with fields := c₁.fields }
  second : c₂ = { c with fields := c₂.fields }
  fields : Forall₃ AddsMore c.fields c₁.fields c₂.fields

section Runs
variable {filter : ClassFilter} {o p : Options} {c : Class} {f : Field}

theorem CoveredBy.addsMore {rules rules' : List Annotation} (h : CoveredBy rules rules')
    (f : Field) : AddsMore f (f.withAnnotations (merged f.annotations rules))
      (f.withAnnotations (merged f.annotations rules')) :=
  ⟨_, _, rfl, rfl, nodup_kinds_additions, h.keptIn_additions f.annotations⟩

theorem AddsMore.refl (f : Field) : AddsMore f f f := by
  have hnothing := (CoveredBy.refl []).addsMore f
  rwa [merged_nil, Field.withAnnotations_self] at hnothing

theorem ClassAddsMore.refl (c : Class) : ClassAddsMore c c c :=
  ⟨rfl, rfl, .refl AddsMore.refl c.fields⟩

/-- In a class that is not frozen, a visit with more inference ends in the same way and adds
more. -/
theorem FieldVisit.Visited.infersMore (ho : o.InfersMore p) (ha : o.ApartFromColumns)
    (hz : c.frozen = false) {annotations : List Annotation}
    {r : Except AnnotateError (Option FieldChange)} (h : Visited o c f annotations r) :
    ∃ annotations' r', Visited p c f annotations' r' ∧
      AddsMore f (f.withAnnotations annotations) (f.withAnnotations annotations') ∧
      ResultAgree (fun _ _ => True) r r' := by
  have hunfrozen {P : Prop} (hfrozen : c.frozen = true) : P := absurd hfrozen (by simp [hz])
  cases h with
  | ignored hi =>
    exact ⟨_, _, .ignored (ho.ignoredFields ▸ hi), .refl f, .ok trivial⟩
  | inconsistent hi _ hn =>
    -- The markers contradict each other before anything is inferred.
    refine ⟨_, _, .inconsistent (ho.ignoredFields ▸ hi) hunfrozen ?_, ?_, .error _⟩
    · rwa [ho.typed, ho.resolve]
    · rw [ho.typed]
      exact (CoveredBy.refl (o.annotationsFor f.type)).addsMore f
  | refused _ hfrozen => exact hunfrozen hfrozen
  | @completed n hi hn _ =>
    refine ⟨_, _, .completed (ho.ignoredFields ▸ hi) ?_ hunfrozen, (ho.rules ha c f n).addsMore f,
      .ok trivial⟩
    rwa [ho.typed, ho.resolve]

theorem FieldsVisited.infersMore (ho : o.InfersMore p) (ha : o.ApartFromColumns)
    (hz : c.frozen = false) {rest rest₁ : List Field}
    {r : Except AnnotateError (List FieldChange)} (h : FieldsVisited o c rest rest₁ r) :
    ∃ rest₂ r', FieldsVisited p c rest rest₂ r' ∧ Forall₃ AddsMore rest rest₁ rest₂ ∧
      ResultAgree (fun _ _ => True) r r' := by
  induction h with
  | done => exact ⟨[], _, .done, .nil, .ok trivial⟩
  | @stopped f rest annotations e hv =>
    obtain ⟨annotations', r', hv', hmore, hresult⟩ := hv.infersMore ho ha hz
    cases hresult
    exact ⟨_, _, .stopped hv', .cons hmore (.refl AddsMore.refl rest), .error e⟩
  | next hv _ ih =>
    obtain ⟨annotations', r', hv', hmore, hresult⟩ := hv.infersMore ho ha hz
    obtain ⟨rest₂, s, hrest, hmoreRest, hresultRest⟩ := ih
    cases hresult
    exact ⟨_, _, .next hv' hrest, .cons hmore hmoreRest, hresultRest.map fun _ _ h => h⟩

/-- The visit of a class that is not frozen and has distinct field names. -/
theorem ClassVisited.infersMore (ho : o.InfersMore p) (ha : o.ApartFromColumns)
    (hz : c.frozen = false) (hdistinct : (c.fields.map (·.name)).Nodup) {d : Class}
    {r : Except AnnotateError (List FieldChange)}
    (h : ClassVisited o c (c.fields.map (·.name)) d r) :
    ∃ d' r', ClassVisited p c (c.fields.map (·.name)) d' r' ∧ ClassAddsMore c d d' ∧
      ResultAgree (fun _ _ => True) r r' := by
  obtain ⟨fields, rfl, hfields⟩ := h.fieldsVisited_all hdistinct
  obtain ⟨fields', r', hfields', hmore, hresult⟩ := hfields.infersMore ho ha hz
  have hleaves := (visitClass_leaves_iff_of_distinct hdistinct).2 ⟨fields', rfl, hfields'⟩
  exact ⟨_, r', visitClass_leaves_iff.1 hleaves, ⟨rfl, rfl, hmore⟩, hresult⟩

theorem Ran.infersMore (ho : o.InfersMore p) (ha : o.ApartFromColumns)
    {classes after : List Class} {r : Except AnnotateError Report}
    (h : Ran filter o classes after r) (hz : ∀ c ∈ classes, c.frozen = false)
    (hdistinct : ∀ c ∈ classes, (c.fields.map (·.name)).Nodup) :
    ∃ after' r', Ran filter p classes after' r' ∧ Forall₃ ClassAddsMore classes after after' ∧
      ResultAgree (fun s s' => s.visited = s'.visited ∧ s.skipped = s'.skipped) r r' := by
  induction h with
  | done => exact ⟨[], _, .done, .nil, .ok ⟨rfl, rfl⟩⟩
  | unscoped hs => exact ⟨_, _, .unscoped hs, .refl ClassAddsMore.refl _, .error _⟩
  | skipped hs _ ih =>
    obtain ⟨after', r', hlater, hmore, hresult⟩ :=
      ih (List.forall_mem_cons.1 hz).2 (List.forall_mem_cons.1 hdistinct).2
    refine ⟨_, _, .skipped hs hlater, .cons (.refl _) hmore, hresult.map fun s s' hss => ?_⟩
    exact ⟨hss.1, congrArg (· + 1) hss.2⟩
  | stopped hs hv =>
    obtain ⟨d', r', hv', hmore, hresult⟩ :=
      hv.infersMore ho ha (List.forall_mem_cons.1 hz).1 (List.forall_mem_cons.1 hdistinct).1
    cases hresult
    exact ⟨_, _, .stopped hs hv', .cons hmore (.refl ClassAddsMore.refl _), .error _⟩
  | visited hs hv _ ih =>
    obtain ⟨hzc, hzrest⟩ := List.forall_mem_cons.1 hz
    obtain ⟨hdc, hdrest⟩ := List.forall_mem_cons.1 hdistinct
    obtain ⟨d', r', hv', hmore, hresult⟩ := hv.infersMore ho ha hzc hdc
    obtain ⟨after', s', hlater, hmoreRest, hresultRest⟩ := ih hzrest hdrest
    cases hresult
    refine ⟨_, _, .visited hs hv' hlater, .cons hmore hmoreRest, hresultRest.map fun s s' hss => ?_⟩
    exact ⟨congrArg (· + 1) hss.1, hss.2⟩

end Runs

/-- Over classes that are not frozen and have distinct field names, a run with more inference fails
with the same error or goes through as well, visits and skips as many classes, and has appended to
each field every kind of annotation that a run with less inference appends, and with the same value
every attribute. -/
theorem annotate_adds_more {o p : Options} (ho : o.InfersMore p) (ha : o.ApartFromColumns)
    (filter : ClassFilter) (classes : List Class) (hz : ∀ c ∈ classes, c.frozen = false)
    (hdistinct : ∀ c ∈ classes, (c.fields.map (·.name)).Nodup) :
    ResultAgree (fun s s' => s.visited = s'.visited ∧ s.skipped = s'.skipped)
        (annotate filter o classes).result (annotate filter p classes).result ∧
      Forall₃ ClassAddsMore classes (annotate filter o classes).classes
        (annotate filter p classes).classes := by
  obtain ⟨after', r', hran, hmore, hresult⟩ :=
    (annotate_ran filter o classes).infersMore ho ha hz hdistinct
  obtain ⟨rfl, rfl⟩ := annotate_iff.2 hran
  exact ⟨hresult, hmore⟩

/-- A size that is inferred only by the second options gives the column of the second field a
length; the columns of the first field are alike. -/
theorem briefClass_adds_more :
    (Samples.sizedTextOptions false).InfersMore (Samples.sizedTextOptions true) ∧
      (Samples.sizedTextOptions false).ApartFromColumns ∧
      ResultAgree (fun s s' => s.visited = s'.visited ∧ s.skipped = s'.skipped)
        (annotate {} (Samples.sizedTextOptions false)
          [Samples.briefClass, Samples.tornClass]).result
        (annotate {} (Samples.sizedTextOptions true)
          [Samples.briefClass, Samples.tornClass]).result ∧
      Forall₃ ClassAddsMore [Samples.briefClass, Samples.tornClass]
        (annotate {} (Samples.sizedTextOptions false)
          [Samples.briefClass, Samples.tornClass]).classes
        (annotate {} (Samples.sizedTextOptions true)
          [Samples.briefClass, Samples.tornClass]).classes ∧
      (annotate {} (Samples.sizedTextOptions false) [Samples.briefClass]).classes.map
        (Samples.kindsOf · "optional") = [[]] ∧
      (annotate {} (Samples.sizedTextOptions true) [Samples.briefClass]).classes.map
        (Samples.kindsOf · "optional") = [[Vocabulary.size, column]] := by
  have ho : (Samples.sizedTextOptions false).InfersMore (Samples.sizedTextOptions true) := by
    constructor <;> decide
  have ha : (Samples.sizedTextOptions false).ApartFromColumns := by
    constructor <;> decide
  obtain ⟨hresult, hclasses⟩ := annotate_adds_more ho ha {}
    [Samples.briefClass, Samples.tornClass] (by decide) (by decide)
  exact ⟨ho, ha, hresult, hclasses, by decide +kernel, by decide +kernel⟩

end AutoAnnotate
