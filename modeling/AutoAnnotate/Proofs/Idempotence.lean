import AutoAnnotate.Proofs.FinalField
import AutoAnnotate.Proofs.NaNFree
import AutoAnnotate.Proofs.Preservation
/-!
# A run over what a run has left

A field is `Stable` if a run keeps away from it or has nothing to add to it. A visit without an error
leaves a stable field behind, and a visit of a stable field changes nothing. So a second run changes
nothing and fails nowhere (`annotate_twice`), also where a field name is repeated and the first field
of that name is visited again and again.
-/

namespace AutoAnnotate

open FieldVisit

/-- A run keeps away from the field, or has nothing to add to it. -/
def Stable (o : Options) (c : Class) (f : Field) : Prop :=
  f.carriesAny o.ignoredFields.toList = true ∨
    ∃ n, o.resolve c f = .ok n ∧ Settled f.annotations (o.rules c f n)

/-- The field that a name means is stable. -/
def StableAt (o : Options) (c : Class) (name : String) : Prop :=
  ∀ f, c.field? name = some f → Stable o c f

/-- A run does not visit the class, or its fields are stable. -/
def ClassStable (filter : ClassFilter) (o : Options) (c : Class) : Prop :=
  filter.inScope c = .ok false ∨
    filter.inScope c = .ok true ∧ ∀ name ∈ c.fields.map (·.name), StableAt o c name

/-! ## Fields -/

section Fields
variable {o : Options} {c : Class} {f : Field} {annotations : List Annotation}

/-- Whether a field is stable does not depend on the other fields. -/
theorem stable_withAnnotations {name : String} :
    Stable o (c.withAnnotations name annotations) f ↔ Stable o c f := Iff.rfl

/-- A visit without an error leaves a stable field. -/
theorem FieldVisit.Visited.stable {change : Option FieldChange} (hu : o.Unopposed)
    (h : Visited o c f annotations (.ok change)) : Stable o c (f.withAnnotations annotations) := by
  cases h with
  | ignored hi => exact .inl hi
  | @completed n hi hn hw =>
    exact .inr ⟨n, Options.resolve_completed hu hn, Options.settled_completed⟩

theorem changeOf_self (cls field : String) (h : NaNFree annotations) :
    changeOf cls field annotations annotations = none := by
  have hequal := Annotation.equalList_self annotations
  exact if_pos (hequal.2 h)

/-- A visit of a stable field leaves it as it is. -/
theorem FieldVisit.Visited.of_stable {r : Except AnnotateError (Option FieldChange)}
    (h : Visited o c f annotations r) (hs : Stable o c f) :
    annotations = f.annotations ∧
      ∃ change, r = .ok change ∧ (NaNFree f.annotations → change = none) := by
  rcases hs with hignored | ⟨n, hn, hsettled⟩
  · cases h with
    | ignored => exact ⟨rfl, none, rfl, fun _ => rfl⟩
    | inconsistent hi | refused hi | completed hi =>
      rw [hignored] at hi
      cases hi
  -- The annotations of the type are there, so that the nullability is that of the field itself.
  have htype : Settled f.annotations (o.annotationsFor f.type) :=
    (settled_append.1 (settled_append.1 hsettled).1).1
  have htyped : o.typed f = f := by
    rw [Options.typed, merged_of_settled htype, Field.withAnnotations_self]
  cases h with
  | ignored => exact ⟨rfl, none, rfl, fun _ => rfl⟩
  | inconsistent _ _ he =>
    rw [htyped, hn] at he
    cases he
  | refused _ _ hr =>
    rcases hr with hr | ⟨m, hm, hr⟩
    · exact absurd htype hr
    · rw [htyped, hn] at hm
      cases hm
      exact absurd hsettled hr
  | @completed m _ hm =>
    rw [htyped, hn] at hm
    cases hm
    rw [merged_of_settled hsettled]
    exact ⟨rfl, _, rfl, changeOf_self c.name f.name⟩

end Fields

/-! ## Classes -/

section Classes
variable {o : Options} {c d : Class} {names : List String}

/-- After visits without an error, the visited fields are stable, and so are those that were. -/
theorem ClassVisited.stableAt {r : Except AnnotateError (List FieldChange)} (hu : o.Unopposed)
    (h : ClassVisited o c names d r) {changes : List FieldChange} (hr : r = .ok changes)
    {name : String} (hname : name ∈ names ∨ StableAt o c name) : StableAt o d name := by
  induction h generalizing changes with
  | done =>
    rcases hname with hname | hstable
    · cases hname
    · exact hstable
  | stopped => cases hr
  | @next c d f rest annotations change r hf hv _ ih =>
    obtain ⟨_, hr, -⟩ := ok_of_map_ok hr
    refine ih hr ?_
    by_cases hfirst : name = f.name
    · -- The field that has just been visited, perhaps not for the first time.
      right
      intro g hg
      rw [hfirst, Class.field?_withAnnotations hf] at hg
      cases hg
      exact stable_withAnnotations.2 (hv.stable hu)
    · -- The visit did not touch the field of another name.
      refine hname.imp (fun hmem => (List.mem_cons.1 hmem).resolve_left hfirst) ?_
      intro hstable g hg
      rw [Class.field?_withAnnotations_of_ne hfirst] at hg
      exact stable_withAnnotations.2 (hstable g hg)

/-- Visits of stable fields leave the class as it is. -/
theorem ClassVisited.of_stable {r : Except AnnotateError (List FieldChange)}
    (h : ClassVisited o c names d r) (hs : ∀ name ∈ names, StableAt o c name) :
    d = c ∧ ∃ changes, r = .ok changes ∧ (c.NaNFree → changes = []) := by
  induction h with
  | done => exact ⟨rfl, [], rfl, fun _ => rfl⟩
  | stopped hf hv =>
    obtain ⟨-, _, hr, -⟩ := hv.of_stable (hs _ List.mem_cons_self _ hf)
    cases hr
  | @next c d f rest annotations change r hf hv _ ih =>
    obtain ⟨rfl, _, hr, hchange⟩ := hv.of_stable (hs _ List.mem_cons_self _ hf)
    cases hr
    rw [Class.withAnnotations_self hf] at ih
    obtain ⟨rfl, changes, rfl, hchanges⟩ := ih fun name hname => hs name (List.mem_cons_of_mem _ hname)
    refine ⟨rfl, _, rfl, fun hfree => ?_⟩
    rw [hchange (hfree f (Class.field?_mem hf)), hchanges hfree]
    rfl

end Classes

/-! ## Runs -/

variable {filter : ClassFilter} {o : Options} {classes after : List Class}
  {r : Except AnnotateError Report}

theorem Ran.stable (hu : o.Unopposed) (h : Ran filter o classes after r) {report : Report}
    (hr : r = .ok report) : ∀ c ∈ after, ClassStable filter o c := by
  induction h generalizing report with
  | done => exact List.forall_mem_nil _
  | unscoped | stopped => cases hr
  | skipped hs _ ih =>
    obtain ⟨_, hr, -⟩ := ok_of_map_ok hr
    exact List.forall_mem_cons.2 ⟨.inl hs, ih hr⟩
  | visited hs hv _ ih =>
    obtain ⟨_, hr, -⟩ := ok_of_map_ok hr
    refine List.forall_mem_cons.2 ⟨.inr ⟨(hv.kept.inScope filter).trans hs, ?_⟩, ih hr⟩
    rw [hv.kept.map_name]
    exact fun name hname => hv.stableAt hu rfl (.inl hname)

/-- The fields of a stable class that a run visits are stable. -/
theorem ClassStable.fields {c : Class} (h : ClassStable filter o c)
    (hin : filter.inScope c = .ok true) : ∀ name ∈ c.fields.map (·.name), StableAt o c name := by
  rcases h with hout | ⟨-, hfields⟩
  · rw [hin] at hout
    cases hout
  · exact hfields

theorem Ran.of_stable (h : Ran filter o classes after r)
    (hs : ∀ c ∈ classes, ClassStable filter o c) :
    after = classes ∧ ∃ report, r = .ok report ∧
      ((∀ c ∈ classes, c.NaNFree) → report.changes = []) := by
  induction h with
  | done => exact ⟨rfl, _, rfl, fun _ => rfl⟩
  | unscoped hout =>
    rcases (List.forall_mem_cons.1 hs).1 with hin | ⟨hin, -⟩ <;> rw [hin] at hout <;> cases hout
  | skipped _ _ ih =>
    obtain ⟨rfl, later, rfl, hchanges⟩ := ih (List.forall_mem_cons.1 hs).2
    exact ⟨rfl, _, rfl, fun hfree => hchanges (List.forall_mem_cons.1 hfree).2⟩
  | stopped hin hv =>
    obtain ⟨-, _, hr, -⟩ := hv.of_stable ((List.forall_mem_cons.1 hs).1.fields hin)
    cases hr
  | visited hin hv _ ih =>
    obtain ⟨hc, hrest⟩ := List.forall_mem_cons.1 hs
    obtain ⟨rfl, _, hr, hempty⟩ := hv.of_stable (hc.fields hin)
    cases hr
    obtain ⟨rfl, later, rfl, hchanges⟩ := ih hrest
    refine ⟨rfl, _, rfl, fun hfree => ?_⟩
    obtain ⟨hcfree, hrestfree⟩ := List.forall_mem_cons.1 hfree
    exact List.append_eq_nil_iff.2 ⟨hempty hcfree, hchanges hrestfree⟩

/-- A second run over what a run without an error has left goes through as well, changes nothing,
and visits and skips as many classes. Its report is empty if there is no NaN. The options need only
be such that nothing a rule adds is a marker of the opposite nullability; the default options are,
whatever types ask for. -/
theorem annotate_twice :
    (∀ policy, (Options.ofPolicy policy).Unopposed) ∧
    ∀ (filter : ClassFilter) (o : Options) (classes after : List Class) (report : Report),
      o.Unopposed → (annotate filter o classes).classes = after →
      (annotate filter o classes).result = .ok report →
      (annotate filter o after).classes = after ∧
      ∃ again, (annotate filter o after).result = .ok again ∧
        again.visited = report.visited ∧ again.skipped = report.skipped ∧
        ((∀ c ∈ after, c.NaNFree) → again.isEmpty = true) ∧
        ((∀ c ∈ classes, c.NaNFree) → o.NaNFree → again.isEmpty = true) := by
  refine ⟨Options.unopposed_ofPolicy, ?_⟩
  rintro filter o classes _ report hu rfl hr
  have hfirst := annotate_ran filter o classes
  have hsecond := annotate_ran filter o (annotate filter o classes).classes
  obtain ⟨hsame, again, hagain, hempty⟩ := hsecond.of_stable (hfirst.stable hu hr)
  obtain ⟨hvisited, hskipped⟩ := hfirst.counts hr
  obtain ⟨hvisited', hskipped'⟩ := hsecond.counts hagain
  rw [hfirst.map_inScope, ← hvisited] at hvisited'
  rw [hfirst.map_inScope, ← hskipped] at hskipped'
  have hnone : (∀ c ∈ (annotate filter o classes).classes, c.NaNFree) → again.isEmpty = true :=
    fun hfree => List.isEmpty_iff.2 (hempty hfree)
  exact ⟨hsame, again, hagain, hvisited', hskipped', hnone,
    fun hfree ho => hnone (hfirst.nanFree ho hfree)⟩

theorem briefClass_twice :
    ∃ after report again,
      (annotate {} Samples.briefOptions [Samples.briefClass]).classes = after ∧
      (annotate {} Samples.briefOptions [Samples.briefClass]).result = .ok report ∧
      (annotate {} Samples.briefOptions after).classes = after ∧
      (annotate {} Samples.briefOptions after).result = .ok again ∧
      again.visited = report.visited ∧ again.skipped = report.skipped ∧ again.isEmpty = true := by
  have hclasses : ∀ c ∈ [Samples.briefClass], c.NaNFree := by
    unfold Class.NaNFree NaNFree
    decide
  have ho : Samples.briefOptions.NaNFree := by
    constructor <;> unfold NaNFree <;> decide
  obtain ⟨report, h⟩ := ok_of_isOk (r := (annotate {} Samples.briefOptions
    [Samples.briefClass]).result) (by decide +kernel)
  obtain ⟨hsame, again, hagain, hvisited, hskipped, -, hempty⟩ :=
    annotate_twice.2 {} Samples.briefOptions [Samples.briefClass] _ report
      Options.unopposed_briefOptions rfl h
  exact ⟨_, report, again, rfl, h, hsame, hagain, hvisited, hskipped, hempty hclasses ho⟩

end AutoAnnotate
