import AutoAnnotate.Proofs.Traversal
/-!
# Annotations without a NaN

A run tells a change by comparing the annotations of a field before and after, and a value that
holds a NaN differs from itself. Annotations equal themselves exactly if they hold none
(`equalList_self`), and a run over classes without a NaN, with options without a NaN, brings none
in (`Ran.nanFree`).
-/

namespace AutoAnnotate

open FieldVisit

/-- No value in some annotations is or contains a NaN. -/
def NaNFree (annotations : List Annotation) : Prop :=
  ∀ a ∈ annotations, ∀ e ∈ a.attributes.entries, e.2.hasNaN = false

/-- No value on a field of the class is or contains a NaN. -/
def Class.NaNFree (c : Class) : Prop := ∀ f ∈ c.fields, AutoAnnotate.NaNFree f.annotations

/-- No value in the annotations of the options is or contains a NaN. -/
structure Options.NaNFree (o : Options) : Prop where
  policy : ∀ e ∈ o.policy.entries, AutoAnnotate.NaNFree e.2
  nullOrNotBlank : AutoAnnotate.NaNFree [o.validation.nullOrNotBlank]

/-! ## Annotations that equal themselves -/

theorem OrderedMap.get?_of_mem {α : Type} {m : OrderedMap α} {e : String × α}
    (h : e ∈ m.entries) : m.get? e.1 = some e.2 := by
  rw [get?, find?_of_mem m.nodup h]
  rfl

theorem Annotation.equal_self (a : Annotation) :
    a.equal a = true ↔ ∀ e ∈ a.attributes.entries, e.2.hasNaN = false := by
  unfold equal
  simp only [decide_true, Bool.true_and, List.all_eq_true]
  refine forall₂_congr fun e he => ?_
  rw [OrderedMap.get?_of_mem he]
  show e.2.equal e.2 = true ↔ _
  rw [Value.equal_self, Bool.not_eq_true']

theorem Annotation.equalList_self (annotations : List Annotation) :
    equalList annotations annotations = true ↔ NaNFree annotations := by
  induction annotations with
  | nil => exact ⟨fun _ => List.forall_mem_nil _, fun _ => rfl⟩
  | cons a rest ih =>
    unfold equalList NaNFree
    rw [Bool.and_eq_true, equal_self, ih, List.forall_mem_cons]
    rfl

/-! ## A run brings no NaN in -/

theorem nanFree_append {l l' : List Annotation} : NaNFree (l ++ l') ↔ NaNFree l ∧ NaNFree l' :=
  List.forall_mem_append

theorem NaNFree.merged {before rules : List Annotation} (h : NaNFree before) (h' : NaNFree rules) :
    NaNFree (merged before rules) := by
  refine nanFree_append.2 ⟨h, ?_⟩
  -- An attribute of an addition is one of some rule.
  intro a ha e he
  obtain ⟨b, -, rfl⟩ := List.mem_map.1 ha
  obtain ⟨rule, hrule, he'⟩ := List.mem_flatMap.1 (mem_of_mem_firstsBy he)
  exact h' rule (List.mem_filter.1 hrule).1 e he'

section Options
variable {o : Options} {c : Class} {f : Field}

theorem Options.NaNFree.annotationsFor (h : o.NaNFree) (type : String) :
    AutoAnnotate.NaNFree (o.annotationsFor type) := by
  unfold Options.annotationsFor OrderedMap.get?
  cases hfind : o.policy.entries.find? (·.1 = type) with
  | none => exact fun _ ha => nomatch ha
  | some e => exact h.policy e (List.mem_of_find?_eq_some hfind)

theorem nanFree_nil : NaNFree [] := List.forall_mem_nil _

theorem Options.NaNFree.nullabilityRules (h : o.NaNFree) (type : String) (n : Nullability) :
    AutoAnnotate.NaNFree (o.nullabilityRules type n) := by
  have hmarker : ∀ kind, AutoAnnotate.NaNFree [.marker kind] := fun kind =>
    List.forall_mem_singleton.2 (List.forall_mem_nil _)
  unfold Options.nullabilityRules
  rw [nanFree_append]
  constructor
  · split
    · exact hmarker Vocabulary.notNull
    · exact nanFree_nil
  · split
    · cases n with
      | nonNull => exact hmarker Vocabulary.notBlank
      | nullable => exact h.nullOrNotBlank
      | undetermined => exact nanFree_nil
    · exact nanFree_nil

theorem nanFree_columnRules (annotations : List Annotation) (n : Nullability) :
    NaNFree (o.columnRules c annotations n) := by
  have hone : ∀ name value, value.hasNaN = false →
      NaNFree [.withAttribute (.marker Vocabulary.column) name value] := fun name value hvalue =>
    List.forall_mem_singleton.2 (List.forall_mem_singleton.2 hvalue)
  unfold Options.columnRules
  split
  · rw [nanFree_append]
    constructor
    · split
      · exact hone "nullable" (.bool false) rfl
      · exact nanFree_nil
    · split
      · cases sizeLimit annotations with
        | some max => exact hone "length" (.int max) rfl
        | none => exact nanFree_nil
      · exact nanFree_nil
  · exact nanFree_nil

theorem Options.NaNFree.rules (h : o.NaNFree) (n : Nullability) :
    AutoAnnotate.NaNFree (o.rules c f n) :=
  nanFree_append.2 ⟨nanFree_append.2 ⟨h.annotationsFor f.type, h.nullabilityRules f.type n⟩,
    nanFree_columnRules _ n⟩

theorem FieldVisit.Visited.nanFree {annotations : List Annotation}
    {r : Except AnnotateError (Option FieldChange)} (ho : o.NaNFree)
    (h : Visited o c f annotations r) (hf : NaNFree f.annotations) : NaNFree annotations := by
  cases h with
  | ignored | refused => exact hf
  | inconsistent => exact hf.merged (ho.annotationsFor f.type)
  | completed => exact hf.merged (ho.rules _)

theorem Options.NaNFree.keptByVisits (h : o.NaNFree) : KeptByVisits o AutoAnnotate.NaNFree :=
  fun _ _ _ _ hv => hv.nanFree h

end Options

theorem Ran.nanFree {filter : ClassFilter} {o : Options} {classes after : List Class}
    {r : Except AnnotateError Report} (ho : o.NaNFree) (h : Ran filter o classes after r)
    (hclasses : ∀ c ∈ classes, c.NaNFree) : ∀ c ∈ after, c.NaNFree :=
  h.forall_fields ho.keptByVisits hclasses

end AutoAnnotate
