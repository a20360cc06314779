import AutoAnnotate.Annotation.Basic
import AutoAnnotate.Collection.NameSet
/-!
# What a run has done

A `Report` lists the changed fields with their annotations before and after, in the order in which
the run reached them, and counts the classes visited and skipped.
-/

namespace AutoAnnotate

/-- The annotations of a field before and after a run changed it. -/
structure FieldChange where
  cls : String
  field : String
  before : List Annotation
  after : List Annotation
  deriving DecidableEq

namespace FieldChange

/-- The annotations after the change that equal none before it. -/
def added (ch : FieldChange) : List Annotation :=
  ch.after.filter fun a => !ch.before.any (a.equal ·)

def addedKinds (ch : FieldChange) : List String := ch.added.map (·.kind)

end FieldChange

/-- The outcome of a successful run. -/
structure Report where
  visited : Nat := 0
  skipped : Nat := 0
  changes : List FieldChange := []
  deriving DecidableEq

namespace Report

instance : Inhabited Report := ⟨{}⟩

def isEmpty (r : Report) : Bool := r.changes.isEmpty

/-- The changes of a class. -/
def changesFor (r : Report) (cls : String) : List FieldChange :=
  r.changes.filter (·.cls = cls)

/-- The first change of a field. -/
def changeFor (r : Report) (cls field : String) : Option FieldChange :=
  r.changes.find? fun ch => ch.cls = cls ∧ ch.field = field

/-- The names of the classes with a change. -/
def changedClasses (r : Report) : NameSet := .ofList (r.changes.map (·.cls))

/-- The report of a run that skips a class and then does what another report says. -/
def afterSkipped (r : Report) : Report := { r with skipped := r.skipped + 1 }

/-- The report of a run that visits a class, makes changes there, and then does what another report
says. -/
def afterVisited (r : Report) (changes : List FieldChange) : Report :=
  { r with visited := r.visited + 1, changes := changes ++ r.changes }

end Report

end AutoAnnotate
