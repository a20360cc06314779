import AutoAnnotate.Visit
/-!
# The visit of a field

A field gets the annotations that the policy has for its type, then the validation annotations that
follow from its nullability, then, in a persistent class, its column annotation. All of them pass
through `ensure`, which never touches what was on the field before the visit: a kind that is absent
is added, a kind that the same visit has added is completed with the attributes it lacks, and a kind
that was there before stays as it is.
-/

namespace AutoAnnotate.FieldVisit

/-- Makes sure that a field carries a kind of annotation. Takes and returns the kinds that this
visit has added. -/
def ensure (field : String) (a : Annotation) (introduced : List String) :
    Visit (List String) := do
  let target ← Visit.field field
  if !target.carries a.kind then
    Visit.change (·.annotateField field a)
    return a.kind :: introduced
  if a.kind ∈ introduced then
    a.attributes.entries.forM fun e =>
      Visit.change fun c => (c.fillAttribute field a.kind e.1 e.2).map Prod.fst
    return introduced
  let c ← Visit.current
  Visit.tell (.keeping a.kind c.name field)
  return introduced

/-- Makes sure of several annotations, one after the other. -/
def ensureAll (field : String) (annotations : List Annotation) (introduced : List String) :
    Visit (List String) :=
  annotations.foldlM (fun introduced a => ensure field a introduced) introduced

/-- The validation annotations of a field with a type and a nullability. -/
def validationAnnotations (o : Options) (type : String) (n : Nullability) : List Annotation :=
  (if o.validation.inferNotNull && n = .nonNull then [.marker Vocabulary.notNull] else []) ++
  (if o.validation.inferNotBlank && o.isTextType type then
    match n with
    | .nonNull => [.marker Vocabulary.notBlank]
    | .nullable => [o.validation.nullOrNotBlank]
    | .undetermined => []
  else [])

/-- The largest size that a field allows, if it says so. -/
def maxSize? (f : Field) : Option Int64 :=
  ((f.annotation? Vocabulary.size).bind (·.attributes.get? "max")).bind Value.asInt?

/-- Whether a field has no column of its own. -/
def hasNoColumn (o : Options) (f : Field) : Bool :=
  f.carries Vocabulary.transient || f.carriesAny o.jpa.precluding.toList

/-- The column annotations of a field, as it stands, with a nullability. -/
def columnAnnotations (o : Options) (f : Field) (n : Nullability) : List Annotation :=
  if hasNoColumn o f then []
  else
    (if o.jpa.inferNullable && n = .nonNull then
      [.withAttribute (.marker Vocabulary.column) "nullable" (.bool false)] else []) ++
    (if o.jpa.inferLength then
      match maxSize? f with
      | some max => [.withAttribute (.marker Vocabulary.column) "length" (.int max)]
      | none => []
    else [])

/-- Visits a field. Returns its change, if its annotations after the visit do not equal those
before. -/
def visit (o : Options) (persistent : Bool) (name : String) : Visit (Option FieldChange) := do
  let c ← Visit.current
  let f ← Visit.field name
  if f.carriesAny o.ignoredFields.toList then
    Visit.tell (.ignoringField c.name name)
    return none
  Visit.tell (.visitingField c.name name f.type)
  let introduced ← ensureAll name (o.annotationsFor f.type) []
  let marked ← Visit.field name
  let n ← Visit.ofExcept (o.resolve (← Visit.current) marked)
  Visit.tell (.resolved c.name name n)
  let introduced ← ensureAll name (validationAnnotations o f.type n) introduced
  if persistent && o.jpa.anyEnabled then
    let validated ← Visit.field name
    let _ ← ensureAll name (columnAnnotations o validated n) introduced
  let after := (← Visit.field name).annotations
  if Annotation.equalList after f.annotations then return none
  return some ⟨c.name, name, f.annotations, after⟩

end AutoAnnotate.FieldVisit
