import AutoAnnotate.Annotation.Value
import AutoAnnotate.Collection.OrderedMap
/-!
# Annotations

An annotation has a kind, which is the dotted name of its type, and attributes in the order in
which they were written. `=` compares annotations down to that order and to the bits of numbers;
`equal` ignores the order and compares attributes by what they mean.
-/

namespace AutoAnnotate

/-- An annotation: the name of its kind, and its attributes. -/
structure Annotation where
  kind : String
  attributes : OrderedMap Value
  deriving DecidableEq

namespace Annotation

/-- An annotation without attributes. -/
def marker (kind : String) : Annotation := ⟨kind, {}⟩

instance : Inhabited Annotation := ⟨marker ""⟩

/-- The annotation with a value under an attribute name, whatever was there. -/
def withAttribute (a : Annotation) (name : String) (value : Value) : Annotation :=
  { a with attributes := a.attributes.insert name value }

/-- The last part of a dotted kind; all of it if it has no dot. -/
def simpleNameOf (kind : String) : String :=
  String.ofList (kind.toList.reverse.takeWhile (· ≠ '.')).reverse

def simpleName (a : Annotation) : String := simpleNameOf a.kind

/-- Whether two annotations have the same kind and the same attributes in some order. -/
def equal (a b : Annotation) : Bool :=
  a.kind = b.kind &&
  a.attributes.entries.length = b.attributes.entries.length &&
  a.attributes.entries.all fun e =>
    match b.attributes.get? e.1 with
    | some v => e.2.equal v
    | none => false

/-- Whether two lists hold equal annotations, place by place. -/
def equalList : List Annotation → List Annotation → Bool
  | [], [] => true
  | a :: as, b :: bs => a.equal b && equalList as bs
  | _, _ => false

/-- The annotation as messages show it: its kind, and its attributes in parentheses. -/
def display (a : Annotation) : String :=
  if a.attributes.isEmpty then "@" ++ a.kind
  else
    let shown := a.attributes.entries.map fun e => e.1 ++ "=" ++ e.2.display
    "@" ++ a.kind ++ "(" ++ ", ".intercalate shown ++ ")"

end Annotation

/-! ## Look-up in a list of annotations -/

/-- The first annotation of a kind. -/
def annotation? (annotations : List Annotation) (kind : String) : Option Annotation :=
  annotations.find? (·.kind = kind)

/-- Whether some annotation is of a kind. -/
def carries (annotations : List Annotation) (kind : String) : Bool :=
  annotations.any (·.kind = kind)

/-- Whether some annotation is of one of several kinds. -/
def carriesAny (annotations : List Annotation) (kinds : List String) : Bool :=
  kinds.any (carries annotations)

end AutoAnnotate
