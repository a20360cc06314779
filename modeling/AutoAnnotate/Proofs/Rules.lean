import AutoAnnotate.Proofs.Merge
import AutoAnnotate.Run
/-!
# What a run asks of a field

The annotations that a run asks of a field, as lists: those of its type, those that follow from its
nullability, and its column annotations. `Options.rules` puts them in order. The nullability is that
of the field with the annotations of its type (`Options.typed`), and the column annotations are
judged by the annotations that are there before them.

The last section says that the visit of a field works by these lists.
-/

namespace AutoAnnotate

/-- The largest size that annotations allow: the attribute `max` of the first size annotation, if it
is an integer. -/
def sizeLimit (annotations : List Annotation) : Option Int64 :=
  match (annotation? annotations Vocabulary.size).bind (·.attributes.get? "max") with
  | some (.int max) => some max
  | _ => none

namespace Options

/-- What the nullability of a field of a type asks for. -/
def nullabilityRules (o : Options) (type : String) (n : Nullability) : List Annotation :=
  (if o.validation.inferNotNull = true ∧ n = .nonNull then [.marker Vocabulary.notNull] else []) ++
  (if o.validation.inferNotBlank = true ∧ type ∈ o.textTypes then
    match n with
    | .nonNull => [.marker Vocabulary.notBlank]
    | .nullable => [o.validation.nullOrNotBlank]
    | .undetermined => []
  else [])

/-- Whether one of some annotations keeps a field from having a column. -/
def Precludes (o : Options) (annotations : List Annotation) : Prop :=
  ∃ a ∈ annotations, a.kind = Vocabulary.transient ∨ a.kind ∈ o.jpa.precluding

instance (o : Options) (annotations : List Annotation) : Decidable (o.Precludes annotations) :=
  inferInstanceAs (Decidable (∃ a ∈ annotations, _))

/-- What a class asks of the column of a field of nullability `n` that has some annotations. -/
def columnRules (o : Options) (c : Class) (annotations : List Annotation) (n : Nullability) :
    List Annotation :=
  if o.isPersistent c = true ∧ ¬o.Precludes annotations then
    (if o.jpa.inferNullable = true ∧ n = .nonNull then
      [.withAttribute (.marker Vocabulary.column) "nullable" (.bool false)] else []) ++
    (if o.jpa.inferLength = true then
      match sizeLimit annotations with
      | some max => [.withAttribute (.marker Vocabulary.column) "length" (.int max)]
      | none => []
    else [])
  else []

/-- The field with what its type asks for. -/
def typed (o : Options) (f : Field) : Field :=
  f.withAnnotations (merged f.annotations (o.annotationsFor f.type))

/-- What the type and the nullability `n` of a field ask for. -/
def constraintRules (o : Options) (f : Field) (n : Nullability) : List Annotation :=
  o.annotationsFor f.type ++ o.nullabilityRules f.type n

/-- All that a run asks of a field of nullability `n` in a class. -/
def rules (o : Options) (c : Class) (f : Field) (n : Nullability) : List Annotation :=
  o.constraintRules f n ++ o.columnRules c (merged f.annotations (o.constraintRules f n)) n

/-- The field with all that a run asks of it. -/
def completed (o : Options) (c : Class) (f : Field) (n : Nullability) : Field :=
  f.withAnnotations (merged f.annotations (o.rules c f n))

/-! ## The visit works by these lists -/

variable {o : Options}

theorem validationAnnotations_eq (type : String) (n : Nullability) :
    FieldVisit.validationAnnotations o type n = o.nullabilityRules type n := by
  unfold FieldVisit.validationAnnotations nullabilityRules isTextType
  cases n <;> simp

theorem maxSize?_eq (f : Field) : FieldVisit.maxSize? f = sizeLimit f.annotations := by
  rw [FieldVisit.maxSize?, sizeLimit, Field.annotation?]
  cases (annotation? f.annotations Vocabulary.size).bind (·.attributes.get? "max") with
  | none => rfl
  | some v => cases v <;> rfl

theorem hasNoColumn_iff (f : Field) :
    FieldVisit.hasNoColumn o f = true ↔ o.Precludes f.annotations := by
  rw [FieldVisit.hasNoColumn, Bool.or_eq_true, Field.carries, carries_iff, Field.carriesAny_iff,
    List.mem_map, ← exists_or]
  exact exists_congr fun a => and_or_left.symm

theorem columnAnnotations_eq {c : Class} (h : o.isPersistent c = true) (f : Field)
    (n : Nullability) :
    FieldVisit.columnAnnotations o f n = o.columnRules c f.annotations n := by
  unfold FieldVisit.columnAnnotations columnRules
  simp only [hasNoColumn_iff, h, maxSize?_eq, Bool.and_eq_true, decide_eq_true_eq, true_and]
  by_cases hp : o.Precludes f.annotations
  · rw [if_pos hp, if_neg (not_not.2 hp)]
  · refine (if_neg hp).trans (Eq.trans ?_ (if_pos hp).symm)
    rfl

/-- Where no column rule is switched on, or no class asks for columns, no column is asked for. -/
theorem columnRules_eq_nil {c : Class} (h : (o.isPersistent c && o.jpa.anyEnabled) = false)
    (annotations : List Annotation) (n : Nullability) : o.columnRules c annotations n = [] := by
  unfold columnRules
  split
  · next hc =>
    rw [hc.1, Bool.true_and, JpaOptions.anyEnabled, Bool.or_eq_false_iff] at h
    simp [h.1, h.2]
  · rfl

end Options

end AutoAnnotate
