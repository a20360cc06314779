import AutoAnnotate.Annotation.Vocabulary
import AutoAnnotate.Class
import AutoAnnotate.Collection.NameSet
import AutoAnnotate.QualifiedName
/-!
# The scope of a run

A `ClassFilter` decides which classes a run visits. A class is in scope if its package begins with
the configured package, if it carries a marker annotation (or none is asked for), and if it carries
no ignore marker. The package is decided first: a malformed name is an error whatever markers the
class carries.
-/

namespace AutoAnnotate

/-- Why the package of a class cannot be compared with the configured one. -/
inductive ScopeError where
  | malformedClassName (cls : String) (cause : NameError)
  | malformedPrefix (packageName : String) (cause : NameError)
  deriving DecidableEq, Repr

namespace ScopeError

/-- The fault in the name. -/
def cause : ScopeError → NameError
  | .malformedClassName _ e | .malformedPrefix _ e => e

def message : ScopeError → String
  | .malformedClassName c e => "cannot resolve package of class '" ++ c ++ "': " ++ e.message
  | .malformedPrefix p e => "invalid package prefix '" ++ p ++ "': " ++ e.message

end ScopeError

/-- Which classes a run visits. -/
structure ClassFilter where
  /-- The package whose classes, and those of its subpackages, are visited; empty for all. -/
  packagePrefix : String := ""
  /-- A class needs an annotation of one of these kinds; no kinds, no need. -/
  markers : NameSet := {}
  /-- An annotation of one of these kinds keeps the run away. -/
  ignored : NameSet := .ofList [Vocabulary.ignored]
  deriving DecidableEq

namespace ClassFilter

instance : Inhabited ClassFilter := ⟨{}⟩

def withMarkers (f : ClassFilter) (kinds : List String) : ClassFilter :=
  { f with markers := .ofList kinds }

/-- Asks for a persistent class or one marked for annotation. -/
def withDefaultMarkers (f : ClassFilter) : ClassFilter :=
  f.withMarkers (Vocabulary.jpaClassMarkers ++ [Vocabulary.autoAnnotated])

def withIgnored (f : ClassFilter) (kinds : List String) : ClassFilter :=
  { f with ignored := .ofList kinds }

/-- Whether the class lies in the configured package or below it. -/
def inPackage (f : ClassFilter) (c : Class) : Except ScopeError Bool :=
  match QualifiedName.parse f.packagePrefix with
  | .error e => .error (.malformedPrefix f.packagePrefix e)
  | .ok pkg =>
    match QualifiedName.parse c.name with
    | .error e => .error (.malformedClassName c.name e)
    | .ok name =>
      if name.isRoot then .error (.malformedClassName c.name (.emptySegment c.name))
      else .ok (pkg.isPrefixOf name.package)

def carriesMarker (f : ClassFilter) (c : Class) : Bool :=
  f.markers.isEmpty || c.carriesAny f.markers.toList

def isIgnored (f : ClassFilter) (c : Class) : Bool := c.carriesAny f.ignored.toList

/-- Whether a run visits the class. -/
def inScope (f : ClassFilter) (c : Class) : Except ScopeError Bool :=
  (f.inPackage c).map fun inside => inside && f.carriesMarker c && !f.isIgnored c

end ClassFilter

end AutoAnnotate
