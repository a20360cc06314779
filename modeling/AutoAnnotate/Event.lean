import AutoAnnotate.Nullability
import AutoAnnotate.Report
/-!
# What a run tells while it works

Every step of a run that is worth a line in a log is an `Event`. Its level says how important it is,
its message is the line.
-/

namespace AutoAnnotate

/-- How important an event is. -/
inductive Level where
  | info
  | debug
  deriving DecidableEq, Repr

/-- A step of a run. -/
inductive Event where
  /-- The run begins, with a package and the markers that classes need. -/
  | began (packagePrefix : String) (markers : NameSet)
  /-- A class is out of scope, because it is marked so or for another reason. -/
  | skippedClass (cls : String) (ignored : Bool)
  | visitingClass (cls : String)
  | ignoringField (cls field : String)
  | visitingField (cls field type : String)
  | resolved (cls field : String) (nullability : Nullability)
  /-- An annotation was there before the run, and is left as it is. -/
  | keeping (kind cls field : String)
  | annotated (change : FieldChange)
  /-- The run ends, with the numbers of changed classes and changed fields. -/
  | ended (classes fields : Nat)
  deriving DecidableEq

namespace Event

def level : Event → Level
  | .began _ _ | .annotated _ | .ended _ _ => .info
  | _ => .debug

/-- Annotations in brackets. -/
def describe (annotations : List Annotation) : String :=
  "[" ++ ", ".intercalate (annotations.map Annotation.display) ++ "]"

def message : Event → String
  | .began pkg markers =>
    "Annotating classes in package '" ++ pkg ++
      "' (markers: " ++ Text.quoteSet markers.toList ++ ")"
  | .skippedClass c ignored =>
    "Skipping class " ++ c ++ (if ignored then " (ignored)" else " (out of scope)")
  | .visitingClass c => "Visiting class " ++ c
  | .ignoringField c f => "Ignoring field " ++ c ++ "." ++ f
  | .visitingField c f type => "Visiting field " ++ c ++ "." ++ f ++ " (" ++ type ++ ")"
  | .resolved c f n => "Field " ++ c ++ "." ++ f ++ " resolved " ++ n.text
  | .keeping kind c f =>
    "Keeping existing @" ++ Annotation.simpleNameOf kind ++ " on " ++ c ++ "." ++ f
  | .annotated ch =>
    "Annotated field " ++ ch.cls ++ "." ++ ch.field ++ ": " ++
      describe ch.before ++ " -> " ++ describe ch.after
  | .ended classes fields =>
    "Annotated " ++ toString classes ++ " class(es), " ++ toString fields ++ " field(s) changed"

end Event

end AutoAnnotate
