import AutoAnnotate.Proofs.FailFast
import AutoAnnotate.Proofs.LogLines
/-!
# What the visits of a class tell

A visit of a field first tells whether it ignores the field, then details of what it does
(`TellsOnly`), and a field that has changed is told of at the end. `FieldTold` says this of one
field, `FieldsTold` of the fields of a class one after the other. Of a class that a run gets
through, what is told of its fields holds the changes that are returned; a visit that fails has told
of the changes before the field at which it stops (`ClassVisited.told`,
`ClassVisited.told_of_error`).
-/

namespace AutoAnnotate

open FieldVisit Visit

/-! ## What is told of fields -/

/-- The change that a visit of a field returns, if it returns one. -/
def changesIn : Except AnnotateError (Option FieldChange) → List FieldChange
  | .ok change => change.toList
  | .error _ => []

/-- The lines of a field of a class, from a visit that comes to it and has a result: one line that
it is ignored, or one that it is visited, then lines of details, and the line of its change, if
there is one. -/
inductive FieldTold (o : Options) (c : Class) (f : Field) :
    Except AnnotateError (Option FieldChange) → List String → Prop
  | ignored (hi : ∃ a ∈ f.annotations, a.kind ∈ o.ignoredFields) :
      FieldTold o c f (.ok none) ["Ignoring field " ++ c.name ++ "." ++ f.name]
  | visited {r : Except AnnotateError (Option FieldChange)} {details : List String}
      (hi : ∀ a ∈ f.annotations, a.kind ∉ o.ignoredFields)
      (hd : ∀ line ∈ details, BeginsAny detailHeadings line) :
      FieldTold o c f r
        (("Visiting field " ++ c.name ++ "." ++ f.name ++ " (" ++ f.type ++ ")") :: details ++
          (changesIn r).map changeLine)

/-- The lines of fields of a class that are visited one after the other, each as the visits before
have left it: one part for each of them. -/
inductive FieldsTold (o : Options) : Class → List String → List (List String) → Prop
  | done {c : Class} : FieldsTold o c [] []
  | next {c : Class} {f : Field} {rest : List String} {annotations : List Annotation}
      {r : Except AnnotateError (Option FieldChange)} {part : List String}
      {parts : List (List String)} (hf : c.field? f.name = some f)
      (hv : Visited o c f annotations r) (hp : FieldTold o c f r part)
      (later : FieldsTold o (c.withAnnotations f.name annotations) rest parts) :
      FieldsTold o c (f.name :: rest) (part :: parts)

/-! ## Steps that tell details only -/

namespace Visit

variable {α β : Type} {P : Event → Prop}

/-- All events that the step tells have a property. -/
def TellsOnly (P : Event → Prop) (v : Visit α) : Prop := ∀ c, ∀ e ∈ (v.run c).log, P e

theorem TellsOnly.bind {v : Visit α} {next : α → Visit β} (h : v.TellsOnly P)
    (hnext : ∀ a, (next a).TellsOnly P) : (v >>= next).TellsOnly P := by
  intro c e he
  rw [run_bind] at he
  split at he
  · exact h c e he
  · exact (List.mem_append.1 he).elim (h c e) (hnext _ _ e)

theorem tellsOnly_pure (a : α) : (pure a : Visit α).TellsOnly P := fun _ _ he => nomatch he

theorem tellsOnly_current : current.TellsOnly P := fun _ _ he => nomatch he

theorem tellsOnly_ofExcept (r : Except AnnotateError α) : (ofExcept r).TellsOnly P :=
  fun _ _ he => nomatch he

theorem tellsOnly_tell {event : Event} (h : P event) : (tell event).TellsOnly P := by
  intro c e he
  rwa [List.mem_singleton.1 he]

theorem tellsOnly_field (name : String) : (field name).TellsOnly P := by
  intro c e he
  unfold field at he
  dsimp only at he
  split at he <;> cases he

theorem TellsOnly.forM {ι : Type} {g : ι → Visit PUnit} (h : ∀ x, (g x).TellsOnly P) (l : List ι) :
    (l.forM g).TellsOnly P := by
  induction l with
  | nil => exact tellsOnly_pure _
  | cons x rest ih => exact (h x).bind fun _ => ih

theorem tellsOnly_change (g : Class → Except MutationError Class) : (change g).TellsOnly P := by
  intro c e he
  unfold change at he
  dsimp only at he
  split at he <;> cases he

end Visit

namespace FieldVisit

theorem tellsOnly_detail {event : Event} (h : event.isDetail = true) :
    (tell event).TellsOnly (·.isDetail = true) := tellsOnly_tell h

theorem tellsOnly_ensure (name : String) (a : Annotation) (introduced : List String) :
    (ensure name a introduced).TellsOnly (·.isDetail = true) := by
  unfold ensure
  refine (tellsOnly_field name).bind fun target => ?_
  split
  · exact (tellsOnly_change _).bind fun _ => tellsOnly_pure _
  split
  · exact (TellsOnly.forM (fun _ => tellsOnly_change _) _).bind fun _ => tellsOnly_pure _
  · exact tellsOnly_current.bind fun _ => (tellsOnly_detail rfl).bind fun _ => tellsOnly_pure _

theorem tellsOnly_ensureAll (name : String) (annotations : List Annotation)
    (introduced : List String) :
    (ensureAll name annotations introduced).TellsOnly (·.isDetail = true) := by
  unfold ensureAll
  induction annotations generalizing introduced with
  | nil => exact tellsOnly_pure _
  | cons a rest ih =>
    rw [List.foldlM_cons]
    exact (tellsOnly_ensure name a introduced).bind ih

theorem tellsOnly_finish (o : Options) (persistent : Bool) (cls : String) (f : Field)
    (n : Nullability) (introduced : List String) :
    (finish o persistent cls f n introduced).TellsOnly (·.isDetail = true) := by
  have hrecord : (do
      let after := (← Visit.field f.name).annotations
      if Annotation.equalList after f.annotations then return none
      return some ⟨cls, f.name, f.annotations, after⟩ : Visit (Option FieldChange)).TellsOnly
      (·.isDetail = true) := by
    refine (tellsOnly_field f.name).bind fun after => ?_
    dsimp only
    split
    · exact tellsOnly_pure _
    · exact tellsOnly_pure _
  unfold finish
  split
  · exact (tellsOnly_field f.name).bind fun validated =>
      (tellsOnly_ensureAll f.name (columnAnnotations o validated n) introduced).bind
        fun _ => hrecord
  · exact hrecord

theorem tellsOnly_conclude (o : Options) (persistent : Bool) (cls : String) (f : Field)
    (n : Nullability) (introduced : List String) :
    (conclude o persistent cls f n introduced).TellsOnly (·.isDetail = true) :=
  (tellsOnly_ensureAll f.name (validationAnnotations o f.type n) introduced).bind
    (tellsOnly_finish o persistent cls f n)

variable {o : Options} {c : Class} {f : Field}

/-- A visit of a field tells that it ignores the field, or that it visits it, and then details. -/
theorem visit_log (hf : c.field? f.name = some f) :
    f.carriesAny o.ignoredFields.toList = true ∧
        ((visit o (o.isPersistent c) f.name).run c).log = [.ignoringField c.name f.name] ∨
      f.carriesAny o.ignoredFields.toList = false ∧ ∃ details : List Event,
        (∀ e ∈ details, e.isDetail = true) ∧
          ((visit o (o.isPersistent c) f.name).run c).log =
            .visitingField c.name f.name f.type :: details := by
  have hfield : (Visit.field f.name).run c = ⟨c, [], .ok f⟩ := by simp [Visit.field, hf]
  have hcurrent : current.run c = ⟨c, [], .ok c⟩ := rfl
  unfold visit
  rw [run_bind_ok hcurrent, run_bind_ok hfield]
  by_cases hi : f.carriesAny o.ignoredFields.toList = true
  · rw [if_pos hi]
    exact .inl ⟨hi, rfl⟩
  · rw [if_neg hi]
    refine .inr ⟨Bool.eq_false_iff.2 hi, _, fun e he => ?_, rfl⟩
    have hresolved (n : Nullability) :
        (tell (.resolved c.name f.name n)).TellsOnly (·.isDetail = true) := tellsOnly_detail rfl
    have hrest := (tellsOnly_ensureAll f.name (o.annotationsFor f.type) []).bind fun introduced =>
      (tellsOnly_field f.name).bind fun marked => tellsOnly_current.bind fun d =>
      (tellsOnly_ofExcept (o.resolve d marked)).bind fun n => (hresolved n).bind fun _ =>
      tellsOnly_conclude o (o.isPersistent c) c.name f n introduced
    exact hrest c e he

/-- No change is told of before the visit is over. -/
theorem visit_log_changes (hf : c.field? f.name = some f) :
    ((visit o (o.isPersistent c) f.name).run c).log.filterMap Event.change? = [] := by
  rcases visit_log (o := o) hf with ⟨-, hlog⟩ | ⟨-, details, hd, hlog⟩
  · rw [hlog]
    rfl
  · rw [hlog, List.filterMap_cons_none rfl]
    exact List.filterMap_eq_nil_iff.2 fun e he => Event.change?_of_isDetail (hd e he)

/-- The lines of a visit of a field, with the line of its change. -/
theorem Visited.told {annotations : List Annotation} {r : Except AnnotateError (Option FieldChange)}
    (h : Visited o c f annotations r) (hf : c.field? f.name = some f) :
    FieldTold o c f r
      (((visit o (o.isPersistent c) f.name).run c).log.map Event.message ++
        (changesIn r).map changeLine) := by
  rcases visit_log (o := o) hf with ⟨hi, hlog⟩ | ⟨hi, details, hd, hlog⟩
  · have hr : r = .ok none := by
      cases h with
      | ignored => rfl
      | inconsistent hi' | refused hi' | completed hi' =>
        rw [hi'] at hi
        cases hi
    rw [hlog, hr]
    exact .ignored (Field.carriesAny_iff.1 hi)
  · rw [hlog]
    refine .visited (Field.carriesAny_eq_false_iff.1 hi) fun line hline => ?_
    obtain ⟨e, he, rfl⟩ := List.mem_map.1 hline
    exact Event.begins_of_isDetail (hd e he)

end FieldVisit

/-! ## The fields of a class -/

section Fields
variable {o : Options} {c d : Class} {f : Field} {name : String} {rest : List String}

theorem run_bind_pure_log {α β : Type} (v : Visit α) (g : α → β) (c : Class) :
    ((v >>= fun a => pure (g a)).run c).log = (v.run c).log := by
  rw [run_bind]
  split
  · rfl
  · exact List.append_nil _

/-- A field whose visit fails is the last one that is told of. -/
theorem visitFields_log_of_error {p : Bool} {e : AnnotateError}
    (h : (visit o p name).Leaves c d (.error e)) :
    ((visitFields o p (name :: rest)).run c).log = ((visit o p name).run c).log := by
  have hrun : (visit o p name).run c = ⟨d, ((visit o p name).run c).log, .error e⟩ := by
    rw [← h.1, ← h.2]
  rw [visitFields, run_bind_error hrun]

/-- After a field whose visit goes through, its change is told, and then the rest of the fields. -/
theorem visitFields_log_of_ok {p : Bool} {change : Option FieldChange}
    (h : (visit o p name).Leaves c d (.ok change)) :
    ((visitFields o p (name :: rest)).run c).log =
      ((visit o p name).run c).log ++ change.toList.map Event.annotated ++
        ((visitFields o p rest).run d).log := by
  have hrun : (visit o p name).run c = ⟨d, ((visit o p name).run c).log, .ok change⟩ := by
    rw [← h.1, ← h.2]
  rw [visitFields, run_bind_ok hrun, List.append_assoc]
  cases change with
  | none => rfl
  | some ch =>
    have htold : (tell (.annotated ch)).run d = ⟨d, [.annotated ch], .ok ()⟩ := rfl
    rw [run_bind_ok htold, run_bind_pure_log]
    rfl

theorem map_message_annotated (changes : List FieldChange) :
    (changes.map Event.annotated).map Event.message = changes.map changeLine := by
  rw [List.map_map]
  exact List.map_congr_left fun ch _ => message_annotated ch

theorem filterMap_annotated (changes : List FieldChange) :
    (changes.map Event.annotated).filterMap Event.change? = changes := by
  rw [List.filterMap_map]
  exact List.filterMap_some

/-- A visit that goes through the fields tells of each of them, and of the changes that it
returns. -/
theorem ClassVisited.told {names : List String} {r : Except AnnotateError (List FieldChange)}
    (h : ClassVisited o c names d r) {changes : List FieldChange} (hr : r = .ok changes) :
    ∃ parts, FieldsTold o c names parts ∧
      ((visitFields o (o.isPersistent c) names).run c).log.map Event.message = parts.flatten ∧
      ((visitFields o (o.isPersistent c) names).run c).log.filterMap Event.change? = changes := by
  induction h generalizing changes with
  | done =>
    cases hr
    exact ⟨[], .done, rfl, rfl⟩
  | stopped => cases hr
  | next hf hv _ ih =>
    obtain ⟨later, hlater, rfl⟩ := ok_of_map_ok hr
    obtain ⟨parts, hparts, hlines, hchanges⟩ := ih hlater
    refine ⟨_, .next hf hv (hv.told hf) hparts, ?_, ?_⟩
    · rw [visitFields_log_of_ok (hv.leaves hf), List.map_append, List.map_append,
        map_message_annotated, List.flatten_cons, ← hlines]
      rfl
    · rw [visitFields_log_of_ok (hv.leaves hf), List.filterMap_append, List.filterMap_append,
        visit_log_changes hf, filterMap_annotated, List.nil_append]
      exact congrArg _ hchanges

/-- A visit that fails tells of the fields up to the one at which it stops, and of the changes of
those before. -/
theorem ClassVisited.told_of_error {names : List String}
    {r : Except AnnotateError (List FieldChange)} (h : ClassVisited o c names d r)
    {e : AnnotateError} (hr : r = .error e) :
    ∃ before name rest d' changes parts, names = before ++ name :: rest ∧
      e.field? = some name ∧ ClassVisited o c before d' (.ok changes) ∧
      (visit o (o.isPersistent c) name).Leaves d' d (.error e) ∧
      FieldsTold o c (before ++ [name]) parts ∧
      ((visitFields o (o.isPersistent c) names).run c).log.map Event.message = parts.flatten ∧
      ((visitFields o (o.isPersistent c) names).run c).log.filterMap Event.change? = changes := by
  induction h with
  | done => cases hr
  | @stopped c f rest _ _ hf hv =>
    cases hr
    refine ⟨[], f.name, rest, c, [], _, rfl, hv.error_names.2, .done, hv.leaves hf,
      .next hf hv (hv.told hf) .done, ?_, ?_⟩
    · rw [visitFields_log_of_error (hv.leaves hf)]
      simp [changesIn]
    · rw [visitFields_log_of_error (hv.leaves hf), visit_log_changes hf]
  | @next c _ f _ _ change _ hf hv _ ih =>
    obtain ⟨before, name, rest, d', changes, parts, rfl, he, hbefore, hstop, hparts, hlines,
      hchanges⟩ := ih (error_of_map_error hr)
    refine ⟨f.name :: before, name, rest, d', change.toList ++ changes, _, rfl, he,
      .next hf hv hbefore, hstop, .next hf hv (hv.told hf) hparts, ?_, ?_⟩
    · rw [visitFields_log_of_ok (hv.leaves hf), List.map_append, List.map_append,
        map_message_annotated, List.flatten_cons, ← hlines]
      rfl
    · rw [visitFields_log_of_ok (hv.leaves hf), List.filterMap_append, List.filterMap_append,
        visit_log_changes hf, filterMap_annotated, List.nil_append]
      exact congrArg _ hchanges

/-- All lines of a field have the beginning of such a line. -/
theorem FieldTold.beginsAny {r : Except AnnotateError (Option FieldChange)} {part : List String}
    (h : FieldTold o c f r part) : ∀ line ∈ part, BeginsAny fieldHeadings line := by
  cases h with
  | ignored =>
    refine List.forall_mem_singleton.2 ⟨"Ignoring field ", by decide, ?_⟩
    exact (Event.ignoringField c.name f.name).begins_heading
  | visited _ hd =>
    refine List.forall_mem_append.2 ⟨List.forall_mem_cons.2 ⟨?_, fun line hline => ?_⟩, ?_⟩
    · exact ⟨"Visiting field ", by decide,
        (Event.visitingField c.name f.name f.type).begins_heading⟩
    · exact (hd line hline).mono (by decide)
    · rintro _ hline
      obtain ⟨ch, -, rfl⟩ := List.mem_map.1 hline
      exact ⟨"Annotated field ", by decide, begins_changeLine ch⟩

theorem FieldsTold.beginsAny {names : List String} {parts : List (List String)}
    (h : FieldsTold o c names parts) : ∀ line ∈ parts.flatten, BeginsAny fieldHeadings line := by
  induction h with
  | done => exact fun _ hline => nomatch hline
  | next _ _ hp _ ih => exact List.forall_mem_append.2 ⟨hp.beginsAny, ih⟩

end Fields

end AutoAnnotate
