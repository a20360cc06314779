import AutoAnnotate.FieldVisit
/-!
# A run over classes

A run takes the classes one by one. A class out of scope is skipped; the fields of a class in scope
are visited in declaration order. The run stops at the first error and leaves behind what it has
done so far: the classes as they stand, the events, and the error in place of a report.
-/

namespace AutoAnnotate

/-- Whether a class is persistent. -/
def Options.isPersistent (o : Options) (c : Class) : Bool :=
  c.carriesAny o.jpa.classMarkers.toList

/-- Visits fields one after the other and tells their changes. -/
def visitFields (o : Options) (persistent : Bool) : List String → Visit (List FieldChange)
  | [] => pure []
  | name :: rest => do
    match ← FieldVisit.visit o persistent name with
    | none => visitFields o persistent rest
    | some ch =>
      Visit.tell (.annotated ch)
      return ch :: (← visitFields o persistent rest)

/-- Visits the fields of a class in declaration order. -/
def visitClass (o : Options) : Visit (List FieldChange) := do
  let c ← Visit.current
  visitFields o (o.isPersistent c) (c.fields.map (·.name))

/-- What a run leaves behind. -/
structure Outcome where
  classes : List Class
  log : List Event
  result : Except AnnotateError Report

/-- Takes the classes one by one until an error. -/
def visitClasses (filter : ClassFilter) (o : Options) : List Class → Outcome
  | [] => ⟨[], [], .ok {}⟩
  | c :: rest =>
    match filter.inScope c with
    | .error e => ⟨c :: rest, [], .error (.scope e)⟩
    | .ok false =>
      let later := visitClasses filter o rest
      ⟨c :: later.classes, .skippedClass c.name (filter.isIgnored c) :: later.log,
        later.result.map (·.afterSkipped)⟩
    | .ok true =>
      let p := (visitClass o).run c
      match p.result with
      | .error e => ⟨p.cls :: rest, .visitingClass c.name :: p.log, .error e⟩
      | .ok changes =>
        let later := visitClasses filter o rest
        ⟨p.cls :: later.classes, .visitingClass c.name :: p.log ++ later.log,
          later.result.map (·.afterVisited changes)⟩

/-- Runs over classes. Begins with an event of its own, and ends with one if there was no error. -/
def annotate (filter : ClassFilter) (o : Options) (classes : List Class) : Outcome :=
  let r := visitClasses filter o classes
  let closing := match r.result with
    | .ok report => [Event.ended report.changedClasses.toList.length report.changes.length]
    | .error _ => []
  ⟨r.classes, .began filter.packagePrefix filter.markers :: r.log ++ closing, r.result⟩

end AutoAnnotate
