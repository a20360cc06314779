import AutoAnnotate.Config
/-!
# Reading classes and configurations from trees

What a tree of data looks like, and how it can be wrong, differs from format to format; which
members a record has, and what a missing one means, does not. A `TreeReader` is a format's way to
read texts, switches, values, lists, maps and records; every record is then described once, by its
members.
-/

namespace AutoAnnotate

/-- A member of a record: its name, whether it must be there, and how a tree under its name changes
the record read so far. -/
structure RecordMember (m : Type → Type) (τ σ : Type) where
  name : String
  required : Bool
  read : τ → σ → m σ

/-- How a format with trees `τ` and effects `m` is read. -/
structure TreeReader (m : Type → Type) (τ : Type) where
  text : τ → m String
  flag : τ → m Bool
  value : τ → m Value
  list : {α : Type} → (τ → m α) → τ → m (List α)
  map : {α : Type} → (τ → m α) → τ → m (OrderedMap α)
  /-- Reads the members of a record that a tree has into a record of defaults. -/
  record : {σ : Type} → List (RecordMember m τ σ) → σ → τ → m σ

namespace TreeReader

variable {m : Type → Type} {τ : Type} [Monad m]

/-- A member that may be missing, in which case the record keeps its default. -/
def optional {σ α : Type} (name : String) (read : τ → m α) (put : σ → α → σ) :
    RecordMember m τ σ :=
  ⟨name, false, fun t s => do return put s (← read t)⟩

/-- A member that must be there. -/
def required {σ α : Type} (name : String) (read : τ → m α) (put : σ → α → σ) :
    RecordMember m τ σ :=
  ⟨name, true, fun t s => do return put s (← read t)⟩

def names (r : TreeReader m τ) (t : τ) : m NameSet := do
  return .ofList (← r.list r.text t)

def annotation (r : TreeReader m τ) : τ → m Annotation :=
  r.record
    [required "kind" r.text fun a kind => { a with kind },
     optional "attributes" (r.map r.value) fun a attributes => { a with attributes }]
    default

def annotations (r : TreeReader m τ) : τ → m (List Annotation) := r.list r.annotation

def field (r : TreeReader m τ) : τ → m Field :=
  r.record
    [required "name" r.text fun f name => { f with name },
     required "type" r.text fun f type => { f with type },
     optional "annotations" r.annotations fun f annotations => { f with annotations }]
    (.plain "" "")

def cls (r : TreeReader m τ) : τ → m Class :=
  r.record
    [required "name" r.text fun c name => { c with name },
     optional "annotations" r.annotations fun c annotations => { c with annotations },
     optional "fields" (r.list r.field) fun c fields => { c with fields },
     optional "frozen" r.flag fun c frozen => { c with frozen }]
    (.plain "")

def filter (r : TreeReader m τ) : τ → m ClassFilter :=
  r.record
    [optional "package_prefix" r.text fun f packagePrefix => { f with packagePrefix },
     optional "marker_annotations" r.names fun f markers => { f with markers },
     optional "ignored_annotations" r.names fun f ignored => { f with ignored }]
    {}

def validation (r : TreeReader m τ) : τ → m ValidationOptions :=
  r.record
    [optional "infer_not_null_constraint" r.flag fun o inferNotNull => { o with inferNotNull },
     optional "infer_strings_not_blank_constraints" r.flag
       fun o inferNotBlank => { o with inferNotBlank },
     optional "null_or_not_blank_annotation" r.annotation
       fun o nullOrNotBlank => { o with nullOrNotBlank }]
    {}

def jpa (r : TreeReader m τ) : τ → m JpaOptions :=
  r.record
    [optional "infer_column_nullable" r.flag fun o inferNullable => { o with inferNullable },
     optional "infer_column_length" r.flag fun o inferLength => { o with inferLength },
     optional "jpa_class_annotations" r.names fun o classMarkers => { o with classMarkers },
     optional "annotations_that_preclude_column_annotation" r.names
       fun o precluding => { o with precluding }]
    {}

def options (r : TreeReader m τ) : τ → m Options :=
  r.record
    [optional "annotations_by_field_type" (r.map r.annotations)
       fun o policy => { o with policy },
     optional "validation_annotations" r.validation fun o validation => { o with validation },
     optional "jpa_annotations" r.jpa fun o jpa => { o with jpa },
     optional "ignored_field_annotations" r.names
       fun o ignoredFields => { o with ignoredFields },
     optional "non_null_annotations" r.names fun o nonNull => { o with nonNull },
     optional "nullable_annotations" r.names fun o nullable => { o with nullable },
     optional "text_types" r.names fun o textTypes => { o with textTypes }]
    {}

def config (r : TreeReader m τ) : τ → m Config :=
  r.record
    [optional "class_filter" r.filter fun c filter => { c with filter },
     optional "class_options" r.options fun c options => { c with options }]
    {}

end TreeReader

end AutoAnnotate
