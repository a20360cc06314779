import AutoAnnotate.AnnotateError
import AutoAnnotate.Options
/-!
# Nullability

Whether a field may hold null. A primitive field has no nullability. Any other field is decided by
the markers it carries; markers of both kinds are an error. Without a marker the class decides,
which makes its fields nullable unless it says otherwise.
-/

namespace AutoAnnotate

/-- What is known about null in a field. -/
inductive Nullability where
  | nonNull
  | nullable
  /-- The question does not apply. -/
  | undetermined
  deriving DecidableEq, Repr

/-- The word for a nullability in messages. -/
def Nullability.text : Nullability → String
  | .nonNull => "non-null"
  | .nullable => "nullable"
  | .undetermined => "undetermined"

/-- What the markers on a field say. -/
inductive NullabilityMarker where
  | nonNull
  | nullable
  deriving DecidableEq, Repr

/-- Whether the unmarked fields of a class are non-null. -/
def Class.nonNullByDefault (c : Class) : Bool :=
  match c.annotation? Vocabulary.autoAnnotated with
  | none => false
  | some a =>
    (((a.attributes.get? Vocabulary.fieldsAreNonNullByDefault).bind Value.asBool?).getD false)

namespace Options

/-- The kinds of all markers on a field, in the order in which they are attached. -/
def markersOn (o : Options) (f : Field) : List String :=
  (f.annotations.map (·.kind)).filter fun kind => decide (kind ∈ o.nonNull ∨ kind ∈ o.nullable)

/-- What the markers on a field say, if it has any. -/
def explicitMarker (o : Options) (c : Class) (f : Field) :
    Except AnnotateError (Option NullabilityMarker) :=
  match f.carriesAny o.nonNull.toList, f.carriesAny o.nullable.toList with
  | true, true => .error (.inconsistentNullability c.name f.name (o.markersOn f))
  | true, false => .ok (some .nonNull)
  | false, true => .ok (some .nullable)
  | false, false => .ok none

/-- The nullability of a field in its class. -/
def resolve (o : Options) (c : Class) (f : Field) : Except AnnotateError Nullability :=
  if isPrimitiveType f.type then .ok .undetermined
  else (o.explicitMarker c f).map fun
    | some .nonNull => .nonNull
    | some .nullable => .nullable
    | none => if c.nonNullByDefault then .nonNull else .nullable

end Options

end AutoAnnotate
