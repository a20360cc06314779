import AutoAnnotate.Annotation.Basic
/-!
# Classes and their fields

A class has a name, annotations of its own, and fields in declaration order, each with a type and
annotations. Fields change only through the class, by `annotateField`, `fillAttribute` and `freeze`:
an annotation is appended, a missing attribute is filled in, and a frozen class refuses both. When
several fields have one name, that name means the first of them.
-/

namespace AutoAnnotate

/-- A field of a class. -/
structure Field where
  name : String
  type : String
  annotations : List Annotation
  deriving DecidableEq, Inhabited

/-- A class. A frozen class does not change any more. -/
structure Class where
  name : String
  annotations : List Annotation
  fields : List Field
  frozen : Bool
  deriving DecidableEq, Inhabited

/-! ## Reading -/

namespace Field

/-- A field without annotations. -/
def plain (name type : String) : Field := ⟨name, type, []⟩

def attach (f : Field) (a : Annotation) : Field :=
  { f with annotations := f.annotations ++ [a] }

def annotation? (f : Field) (kind : String) : Option Annotation :=
  AutoAnnotate.annotation? f.annotations kind

def carries (f : Field) (kind : String) : Bool := AutoAnnotate.carries f.annotations kind

def carriesAny (f : Field) (kinds : List String) : Bool :=
  AutoAnnotate.carriesAny f.annotations kinds

end Field

/-- Why a class refuses a change of a field. -/
inductive MutationError where
  | frozen (cls field : String)
  | fieldNotFound (cls field : String)
  | alreadyAnnotated (cls field kind : String)
  | annotationNotFound (cls field kind : String)
  deriving DecidableEq, Repr

namespace MutationError

/-- The class that refused. -/
def cls : MutationError → String
  | .frozen c _ | .fieldNotFound c _ | .alreadyAnnotated c _ _ | .annotationNotFound c _ _ => c

/-- The field that was to change. -/
def field : MutationError → String
  | .frozen _ f | .fieldNotFound _ f | .alreadyAnnotated _ f _ | .annotationNotFound _ f _ => f

def message : MutationError → String
  | .frozen c f => "class " ++ c ++ " is frozen; cannot modify field " ++ f
  | .fieldNotFound c f => "field " ++ c ++ "." ++ f ++ " not found"
  | .alreadyAnnotated c f k => "field " ++ c ++ "." ++ f ++ " already carries @" ++ k
  | .annotationNotFound c f k => "field " ++ c ++ "." ++ f ++ " does not carry @" ++ k

end MutationError

namespace Class

/-- A class without annotations and fields. -/
def plain (name : String) : Class := ⟨name, [], [], false⟩

def attach (c : Class) (a : Annotation) : Class :=
  { c with annotations := c.annotations ++ [a] }

def withField (c : Class) (f : Field) : Class := { c with fields := c.fields ++ [f] }

def annotation? (c : Class) (kind : String) : Option Annotation :=
  AutoAnnotate.annotation? c.annotations kind

def carries (c : Class) (kind : String) : Bool := AutoAnnotate.carries c.annotations kind

def carriesAny (c : Class) (kinds : List String) : Bool :=
  AutoAnnotate.carriesAny c.annotations kinds

/-- The first field with a name. -/
def field? (c : Class) (name : String) : Option Field := c.fields.find? (·.name = name)

/-! ## Changing -/

/-- The class, from now on refusing changes. -/
def freeze (c : Class) : Class := { c with frozen := true }

/-- Replaces the first element with a property by its image. -/
def modifyFirst {α : Type} (p : α → Bool) (f : α → α) : List α → List α
  | [] => []
  | x :: rest => if p x then f x :: rest else x :: modifyFirst p f rest

/-- The class with the first field of a name changed. -/
def modifyField (c : Class) (name : String) (f : Field → Field) : Class :=
  { c with fields := modifyFirst (·.name = name) f c.fields }

/-- The field with a name, if the class lets it change. -/
def writableField (c : Class) (name : String) : Except MutationError Field :=
  if c.frozen then .error (.frozen c.name name)
  else match c.field? name with
    | some f => .ok f
    | none => .error (.fieldNotFound c.name name)

/-- Appends an annotation to a field that carries none of its kind. -/
def annotateField (c : Class) (field : String) (a : Annotation) : Except MutationError Class := do
  let target ← c.writableField field
  if target.carries a.kind then
    throw (.alreadyAnnotated c.name field a.kind)
  return c.modifyField field (·.attach a)

/-- Gives the first annotation of a kind on a field an attribute, unless it has one of that name.
The flag says whether the class changed. -/
def fillAttribute (c : Class) (field kind name : String) (value : Value) :
    Except MutationError (Class × Bool) := do
  let target ← c.writableField field
  match target.annotation? kind with
  | none => throw (.annotationNotFound c.name field kind)
  | some a =>
    if a.attributes.contains name then return (c, false)
    let fill := modifyFirst (·.kind = kind) (·.withAttribute name value)
    let filled (f : Field) : Field := { f with annotations := fill f.annotations }
    return (c.modifyField field filled, true)

end Class

end AutoAnnotate
