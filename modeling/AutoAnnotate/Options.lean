import AutoAnnotate.Annotation.Vocabulary
import AutoAnnotate.Class
import AutoAnnotate.Collection.NameSet
/-!
# Options of a run

What a run adds to a field: the annotations that its type asks for, the validation annotations that
follow from its nullability, and the column annotations of persistent classes.
-/

namespace AutoAnnotate

/-- The validation annotations that follow from nullability. -/
structure ValidationOptions where
  inferNotNull : Bool := true
  inferNotBlank : Bool := true
  /-- What a text field gets that may be null. -/
  nullOrNotBlank : Annotation :=
    .withAttribute
      (.withAttribute (.marker Vocabulary.pattern) "regexp" (.text Vocabulary.notBlankPattern))
      "message" (.text "must be null or not blank")
  deriving DecidableEq

instance : Inhabited ValidationOptions := ⟨{}⟩

/-- Validation annotations with both rules switched off. -/
def ValidationOptions.disabled : ValidationOptions :=
  { inferNotNull := false, inferNotBlank := false }

/-- The column annotations of fields in persistent classes. -/
structure JpaOptions where
  inferNullable : Bool := false
  inferLength : Bool := false
  /-- The kinds of annotation that make a class persistent. -/
  classMarkers : NameSet := .ofList Vocabulary.jpaClassMarkers
  /-- The kinds of annotation with which a field gets no column. -/
  precluding : NameSet := .ofList [Vocabulary.manyToOne]
  deriving DecidableEq

instance : Inhabited JpaOptions := ⟨{}⟩

namespace JpaOptions

/-- Column annotations with both rules switched on. -/
def enabled : JpaOptions := { inferNullable := true, inferLength := true }

def anyEnabled (o : JpaOptions) : Bool := o.inferNullable || o.inferLength

end JpaOptions

/-- The options of a run. -/
structure Options where
  /-- For each field type, the annotations that its fields get. -/
  policy : OrderedMap (List Annotation) := {}
  validation : ValidationOptions := {}
  jpa : JpaOptions := {}
  /-- An annotation of one of these kinds keeps the run away from a field. -/
  ignoredFields : NameSet := .ofList [Vocabulary.ignored]
  nonNull : NameSet := .ofList Vocabulary.nonNullMarkers
  nullable : NameSet := .ofList Vocabulary.nullableMarkers
  textTypes : NameSet := .ofList [Vocabulary.stringType]
  deriving DecidableEq

namespace Options

instance : Inhabited Options := ⟨{}⟩

/-- The default options with a policy. -/
def ofPolicy (policy : OrderedMap (List Annotation)) : Options := { policy := policy }

/-- The annotations that fields of a type get. -/
def annotationsFor (o : Options) (type : String) : List Annotation :=
  (o.policy.get? type).getD []

/-- One more annotation for the fields of a type. -/
def attachToType (o : Options) (type : String) (a : Annotation) : Options :=
  { o with policy := o.policy.insert type (o.annotationsFor type ++ [a]) }

def isTextType (o : Options) (type : String) : Bool := decide (type ∈ o.textTypes)

end Options

/-- Whether a type is primitive, so that nullability does not apply to its fields. -/
def isPrimitiveType (type : String) : Bool := decide (type ∈ Vocabulary.primitiveTypes)

end AutoAnnotate
