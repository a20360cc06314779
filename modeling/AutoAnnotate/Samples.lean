import AutoAnnotate.Config
/-!
# Sample classes and options

Four classes that show each rule of a run at work, and options to run over them; small classes and
configurations for single points.
-/

namespace AutoAnnotate.Samples

open Vocabulary (entity autoAnnotated pattern size column manyToOne)

def packageName : String := "com.example.fixtures"

def zonedDateTime : String := "java.time.ZonedDateTime"

def notNullMarker : String := "org.jetbrains.annotations.NotNull"
def nullableMarker : String := "org.jetbrains.annotations.Nullable"

/-- The name of a class in the package of the samples. -/
def className (simple : String) : String := packageName ++ "." ++ simple

/-- A text field that is marked as non-null. -/
def nonNullText (name : String) : Field :=
  (Field.plain name Vocabulary.stringType).attach (.marker notNullMarker)

/-- A text field that is marked as nullable. -/
def nullableText (name : String) : Field :=
  (Field.plain name Vocabulary.stringType).attach (.marker nullableMarker)

/-- A bound on the size of a field. -/
def sizeAtMost (max : Int64) : Annotation :=
  .withAttribute (.marker size) "max" (.int max)

/-- A persistent class with one field for each basic rule. -/
def annotated : Class :=
  (Class.plain (className "Annotated"))
    |>.attach (.marker entity)
    |>.withField (nonNullText "nonNullString")
    |>.withField (.plain "nullableString" Vocabulary.stringType)
    |>.withField
      ((Field.plain "nullableStringWithExplicitPattern" Vocabulary.stringType).attach
        (.withAttribute (.marker pattern) "regexp" (.text "originalRegexp")))
    |>.withField (.plain "zonedDateTime" zonedDateTime)
    |>.withField
      ((Field.plain "ignoredString" Vocabulary.stringType).attach
        (.marker Vocabulary.ignored))

/-- A class whose unmarked fields are non-null. -/
def annotatedNonNullByDefault : Class :=
  (Class.plain (className "Annotated2"))
    |>.attach
      (.withAttribute (.marker autoAnnotated) Vocabulary.fieldsAreNonNullByDefault
        (.bool true))
    |>.withField (.plain "nonNullString" Vocabulary.stringType)
    |>.withField (nullableText "nullableString")
    |>.withField (.plain "count" "int")

/-- A persistent class that a run keeps away from. -/
def ignored : Class :=
  (Class.plain (className "Ignored"))
    |>.attach (.marker Vocabulary.ignored)
    |>.attach (.marker entity)
    |>.withField (nonNullText "nonNullString")

/-- A persistent class with one field for each rule about columns. -/
def jpaEntity : Class :=
  (Class.plain (className "Limited"))
    |>.attach (.marker entity)
    |>.withField (nonNullText "nonNullString")
    |>.withField (nullableText "nullableString")
    |>.withField ((nonNullText "limitedString").attach (sizeAtMost 1))
    |>.withField
      ((nonNullText "limitedStringWithColumnLength")
        |>.attach (sizeAtMost 1)
        |>.attach (.withAttribute (.marker column) "length" (.int 42)))
    |>.withField ((nonNullText "transientString").attach (.marker Vocabulary.transient))
    |>.withField
      ((Field.plain "parent" (className "Annotated"))
        |>.attach (.marker notNullMarker)
        |>.attach (.marker manyToOne))

/-- Takes the classes of the samples' package. -/
def filter : ClassFilter := { packagePrefix := packageName }

/-- Default options, and a column type for dates with a time zone. -/
def zonedDateTimeOptions : Options :=
  ({} : Options).attachToType zonedDateTime
    (.withAttribute (.marker column) "columnDefinition" (.text "timestamp with time zone"))

/-- Column annotations only. -/
def jpaOptions : Options := { validation := .disabled, jpa := .enabled }

/-! ## One class for all rules -/

/-- Options under which fields of type `T` get a marker and a column that is not complete, and every
rule is switched on. -/
def briefOptions : Options where
  policy := .ofList
    [("T", [.marker "NonNull", .withAttribute (.marker column) "name" (.text "t")])]
  jpa := { JpaOptions.enabled with classMarkers := .ofList ["Entity"], precluding := {} }
  ignoredFields := .ofList ["Ignored"]
  nonNull := .ofList ["NonNull"]
  nullable := .ofList ["Nullable"]
  textTypes := .ofList ["T", "U"]

/-- The brief options with a second type in the policy and two attributes in each annotation that has
any. The types of the policy and the attributes stand in the given order or in its reverse. -/
def twoWayOptions (reversed : Bool) : Options :=
  let ordered {α : Type} (pairs : List (String × α)) : OrderedMap α :=
    .ofList (if reversed then pairs.reverse else pairs)
  { briefOptions with
    policy := ordered
      [("T", [.marker "NonNull",
        ⟨column, ordered [("name", .text "t"), ("scale", .float ⟨0x3FF8000000000000⟩)]⟩]),
        ("U", [.marker "Nullable"])]
    validation :=
      { nullOrNotBlank :=
          ⟨pattern, ordered [("regexp", .text ".+"), ("message", .text "not empty")]⟩ } }

/-- The brief options with a size for texts that may be null. Whether it is inferred is given. -/
def sizedTextOptions (inferred : Bool) : Options :=
  { briefOptions with
    validation := { inferNotBlank := inferred, nullOrNotBlank := sizeAtMost 5 } }

/-- A class whose first field is subject to every rule, and whose last field is ignored. -/
def briefClass : Class where
  name := "Brief"
  annotations := [.marker "Entity"]
  fields :=
    [⟨"limited", "T", [sizeAtMost 3]⟩, ⟨"optional", "U", []⟩,
      ⟨"ignored", "T", [.marker "Ignored"]⟩]
  frozen := false

/-- A class with two fields of one name, the first of which carries a kind twice. -/
def twiceClass : Class where
  name := "Twice"
  annotations := []
  fields := [⟨"twice", "T", [.marker "Column", .marker "Column"]⟩, .plain "twice" "U"]
  frozen := false

/-- A class whose second field is marked as nullable while its type asks for the opposite. -/
def tornClass : Class where
  name := "Torn"
  annotations := [.marker "Entity"]
  fields :=
    [⟨"limited", "U", [sizeAtMost 3]⟩, ⟨"torn", "T", [.marker "Nullable"]⟩, ⟨"late", "T", []⟩]
  frozen := false

/-- A class to which there is nothing to add and whose field contradicts itself. -/
def contradictoryClass : Class where
  name := "Contradictory"
  annotations := []
  fields := [⟨"either", "V", [.marker "Nullable", .marker "NonNull"]⟩]
  frozen := false

/-! ## A bound that is a number -/

/-- A configuration that puts a bound on the fields of a primitive type. -/
def limitConfig (max : Binary64) : Config where
  options := .ofPolicy (.ofList [("int", [⟨"Limit", .ofList [("max", .float max)]⟩])])

/-- The same configuration as YAML text, with the bound as it is written there. -/
def limitText (max : String) : String :=
  "class_options: \x7bannotations_by_field_type: \x7bint: [\x7bkind: Limit, attributes: \x7bmax: " ++
    max ++ "\x7d\x7d]\x7d\x7d"

/-- A class with a field to put a bound on. -/
def limitedClass : Class where
  name := "Limited"
  annotations := []
  fields := [⟨"limited", "int", []⟩]
  frozen := false

/-- The field with its bound. -/
def limitedField (max : Binary64) : Field :=
  ⟨"limited", "int", [⟨"Limit", .ofList [("max", .float max)]⟩]⟩

/-- The kinds of annotation on a field of a class, in order. -/
def kindsOf (c : Class) (field : String) : List String :=
  match c.field? field with
  | some f => f.annotations.map (·.kind)
  | none => []

end AutoAnnotate.Samples
