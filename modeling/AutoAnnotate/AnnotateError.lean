import AutoAnnotate.ClassFilter
/-!
# Why a run stops

A run stops at the first error: a class whose scope cannot be decided, a change that a class
refuses, or a field whose markers contradict each other.
-/

namespace AutoAnnotate

/-- Why a run stops. -/
inductive AnnotateError where
  | scope (cause : ScopeError)
  | descriptor (cause : MutationError)
  /-- A field carries markers of both nullabilities. Holds the kinds of all its markers. -/
  | inconsistentNullability (cls field : String) (markers : List String)
  deriving DecidableEq, Repr

namespace AnnotateError

/-- The class at which the run stopped, if the error is about one. -/
def cls? : AnnotateError → Option String
  | .scope (.malformedClassName c _) => some c
  | .scope (.malformedPrefix _ _) => none
  | .descriptor e => some e.cls
  | .inconsistentNullability c _ _ => some c

/-- The field at which the run stopped, if the error is about one. -/
def field? : AnnotateError → Option String
  | .scope _ => none
  | .descriptor e => some e.field
  | .inconsistentNullability _ f _ => some f

def message : AnnotateError → String
  | .scope e => "scope resolution failed: " ++ e.message
  | .descriptor e => "descriptor unavailable: " ++ e.message
  | .inconsistentNullability c f markers =>
    "field " ++ c ++ "." ++ f ++
      " is annotated with an annotation that signals non-nullability " ++
      "and an annotation that signals nullability: " ++ Text.quoteList markers

end AnnotateError

end AutoAnnotate
