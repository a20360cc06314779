import AutoAnnotate.Event
/-!
# Steps on a class

A `Visit` is a step of a run on one class: it may change the class, tell events, and fail. What it
has changed and told stays when it fails. Running one step after another joins their events
(`run_bind_ok`), and the second is left out if the first fails (`run_bind_error`).
-/

namespace AutoAnnotate

/-- What a step leaves behind: the class, the events it told, and its result. -/
structure Progress (α : Type) where
  cls : Class
  log : List Event
  result : Except AnnotateError α

/-- A step of a run on one class. -/
structure Visit (α : Type) where
  run : Class → Progress α

namespace Visit

variable {α β : Type}

/-- Two steps in a row. -/
def andThen (v : Visit α) (next : α → Visit β) : Visit β where
  run c :=
    let p := v.run c
    match p.result with
    | .error e => ⟨p.cls, p.log, .error e⟩
    | .ok a =>
      let q := (next a).run p.cls
      ⟨q.cls, p.log ++ q.log, q.result⟩

instance : Monad Visit where
  pure a := ⟨fun c => ⟨c, [], .ok a⟩⟩
  bind := andThen

theorem run_pure (a : α) (c : Class) : (pure a : Visit α).run c = ⟨c, [], .ok a⟩ := rfl

theorem run_bind (v : Visit α) (next : α → Visit β) (c : Class) :
    (v >>= next).run c =
      match (v.run c).result with
      | .error e => ⟨(v.run c).cls, (v.run c).log, .error e⟩
      | .ok a =>
        ⟨((next a).run (v.run c).cls).cls, (v.run c).log ++ ((next a).run (v.run c).cls).log,
          ((next a).run (v.run c).cls).result⟩ := rfl

theorem run_bind_ok {v : Visit α} {next : α → Visit β} {c d : Class} {log : List Event} {a : α}
    (h : v.run c = ⟨d, log, .ok a⟩) :
    (v >>= next).run c =
      ⟨((next a).run d).cls, log ++ ((next a).run d).log, ((next a).run d).result⟩ := by
  rw [run_bind, h]

theorem run_bind_error {v : Visit α} {next : α → Visit β} {c d : Class} {log : List Event}
    {e : AnnotateError} (h : v.run c = ⟨d, log, .error e⟩) :
    (v >>= next).run c = ⟨d, log, .error e⟩ := by
  rw [run_bind, h]

/-- The class as it stands. -/
def current : Visit Class := ⟨fun c => ⟨c, [], .ok c⟩⟩

def tell (e : Event) : Visit Unit := ⟨fun c => ⟨c, [e], .ok ()⟩⟩

/-- The result of a computation that does not touch the class. -/
def ofExcept (r : Except AnnotateError α) : Visit α := ⟨fun c => ⟨c, [], r⟩⟩

/-- Changes the class, if it allows the change. -/
def change (f : Class → Except MutationError Class) : Visit Unit where
  run c := match f c with
    | .ok d => ⟨d, [], .ok ()⟩
    | .error e => ⟨c, [], .error (.descriptor e)⟩

/-- The field of a name as it stands. -/
def field (name : String) : Visit Field where
  run c := match c.field? name with
    | some f => ⟨c, [], .ok f⟩
    | none => ⟨c, [], .error (.descriptor (.fieldNotFound c.name name))⟩

end Visit

end AutoAnnotate
