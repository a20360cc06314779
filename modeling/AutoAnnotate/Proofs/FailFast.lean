import AutoAnnotate.Proofs.Determinism
import AutoAnnotate.Samples
/-!
# Where a run stops

A run over two lists of classes goes through the first list, and then, if nothing failed, through
the second one. So a run that fails has gone through the classes before the one at which it stopped
and has not touched those behind it (`Ran.stops`), and in that class the same holds of the fields
(`FieldsVisited.stops`). `annotate_fails_fast` puts these together.
-/

namespace AutoAnnotate

open FieldVisit Visit

/-- The report of a run that does what one report says and then what another one says. -/
def Report.followedBy (r s : Report) : Report :=
  ⟨r.visited + s.visited, r.skipped + s.skipped, r.changes ++ s.changes⟩

/-- A run stops with an error at the class `c` and leaves it as `c'`. It has gone through the classes
before, and the classes behind are as they were. -/
def StopsAt (filter : ClassFilter) (o : Options) (classes : List Class) (e : AnnotateError)
    (c c' : Class) : Prop :=
  ∃ before rest report, classes = before ++ c :: rest ∧
    (annotate filter o before).result = .ok report ∧
    (annotate filter o [c]).result = .error e ∧ (annotate filter o [c]).classes = [c'] ∧
    (annotate filter o classes).classes = (annotate filter o before).classes ++ c' :: rest

/-- The visit of the class `c` stops at the field `f` and leaves it as `f'`. The fields before are
what the visit of a class with these fields only makes of them, and that visit goes through. The
fields behind are as they were. -/
def StopsAtField (o : Options) (c : Class) (f f' : Field) : Prop :=
  ∃ before before' rest changes, c.fields = before ++ f :: rest ∧
    ((visitClass o).run c).cls = { c with fields := before' ++ f' :: rest } ∧
    (visitClass o).Leaves { c with fields := before } { c with fields := before' } (.ok changes)

variable {filter : ClassFilter} {o : Options} {c d : Class} {f : Field} {e : AnnotateError}

theorem error_of_map_error {ε α β : Type} {r : Except ε α} {g : α → β} {e : ε}
    (h : r.map g = .error e) : r = .error e := by
  cases r with
  | error x => exact congrArg Except.error (Except.error.inj h)
  | ok a => cases h

/-! ## Fields -/

theorem Options.eq_of_resolve_error (h : o.resolve c f = .error e) :
    e = .inconsistentNullability c.name f.name (o.markersOn f) := by
  unfold resolve explicitMarker at h
  split at h
  · cases h
  cases hnonNull : f.carriesAny o.nonNull.toList <;>
    cases hnullable : f.carriesAny o.nullable.toList <;> rw [hnonNull, hnullable] at h <;> cases h
  rfl

/-- An error in a visit of a field names the field and its class. -/
theorem FieldVisit.Visited.error_names {annotations : List Annotation}
    (h : Visited o c f annotations (.error e)) : e.cls? = some c.name ∧ e.field? = some f.name := by
  cases h with
  | inconsistent hi hw hn =>
    obtain rfl := Options.eq_of_resolve_error hn
    exact ⟨rfl, rfl⟩
  | refused => exact ⟨rfl, rfl⟩

theorem ClassVisited.error_names {names : List String}
    {r : Except AnnotateError (List FieldChange)} (h : ClassVisited o c names d r)
    (hr : r = .error e) : e.cls? = some c.name ∧ ∃ name ∈ names, e.field? = some name := by
  induction h with
  | done => cases hr
  | stopped hf hv =>
    cases hr
    obtain ⟨hcls, hfield⟩ := hv.error_names
    exact ⟨hcls, _, List.mem_cons_self, hfield⟩
  | next hf hv _ ih =>
    obtain ⟨hcls, name, hname, hfield⟩ := ih (error_of_map_error hr)
    exact ⟨hcls, name, List.mem_cons_of_mem _ hname, hfield⟩

/-- Visits that fail have gone through the fields before the one at which they stopped. -/
theorem FieldsVisited.stops {fields fields' : List Field}
    {r : Except AnnotateError (List FieldChange)} (h : FieldsVisited o c fields fields' r)
    (hr : r = .error e) :
    ∃ before before' f rest annotations changes, fields = before ++ f :: rest ∧
      fields' = before' ++ f.withAnnotations annotations :: rest ∧
      FieldsVisited o c before before' (.ok changes) ∧ Visited o c f annotations (.error e) := by
  induction h with
  | done => cases hr
  | @stopped f rest annotations _ hv =>
    cases hr
    exact ⟨[], [], f, rest, annotations, [], rfl, rfl, .done, hv⟩
  | @next g _ _ annotations change _ hv _ ih =>
    obtain ⟨before, before', f, behind, annotations', changes, rfl, rfl, hbefore, hf⟩ :=
      ih (error_of_map_error hr)
    exact ⟨g :: before, g.withAnnotations annotations :: before', f, behind, annotations',
      change.toList ++ changes, rfl, rfl, .next hv hbefore, hf⟩

/-- The visit of a class with distinct field names that fails stops at the field that its error
names. -/
theorem visitClass_stops (hdistinct : (c.fields.map (·.name)).Nodup)
    (h : ((visitClass o).run c).result = .error e) :
    ∃ f annotations, e.cls? = some c.name ∧ e.field? = some f.name ∧
      Visited o c f annotations (.error e) ∧
      StopsAtField o c f (f.withAnnotations annotations) := by
  have hv : (visitClass o).Leaves c ((visitClass o).run c).cls (.error e) := ⟨rfl, h⟩
  obtain ⟨fields, hd, hfields⟩ := (visitClass_leaves_iff_of_distinct hdistinct).1 hv
  obtain ⟨before, before', f, rest, annotations, changes, heq, rfl, hbefore, hf⟩ :=
    hfields.stops rfl
  -- The fields before are visited in the same way when they are all that the class has.
  have hdistinct' : (before.map (·.name)).Nodup := by
    rw [heq, List.map_append] at hdistinct
    exact (List.nodup_append.1 hdistinct).1
  have hshort : (visitClass o).Leaves { c with fields := before } { c with fields := before' }
      (.ok changes) :=
    (visitClass_leaves_iff_of_distinct hdistinct').2 ⟨before', rfl, hbefore.withFields before⟩
  obtain ⟨hcls, hfield⟩ := hf.error_names
  exact ⟨f, annotations, hcls, hfield, hf, before, before', rest, changes, heq, hd, hshort⟩

/-! ## Classes -/

theorem map_map_of_eq {ε α β γ : Type} {g : α → β} {k : β → γ} {m : α → γ}
    (h : ∀ a, k (g a) = m a) (r : Except ε α) : (r.map g).map k = r.map m := by
  cases r with
  | error e => rfl
  | ok a => exact congrArg Except.ok (h a)

namespace Report

theorem empty_followedBy (r : Report) : ({} : Report).followedBy r = r := by
  simp [followedBy]

theorem afterSkipped_followedBy (r s : Report) :
    (r.followedBy s).afterSkipped = r.afterSkipped.followedBy s := by
  simp [followedBy, afterSkipped, Nat.add_right_comm]

theorem afterVisited_followedBy (r s : Report) (changes : List FieldChange) :
    (r.followedBy s).afterVisited changes = (r.afterVisited changes).followedBy s := by
  simp [followedBy, afterVisited, Nat.add_right_comm]

end Report

/-- A run that goes through goes on with the classes behind. -/
theorem Ran.append {xs xs' ys ys' : List Class} {r s : Except AnnotateError Report}
    (h : Ran filter o xs xs' r) {report : Report} (hr : r = .ok report)
    (h' : Ran filter o ys ys' s) :
    Ran filter o (xs ++ ys) (xs' ++ ys') (s.map report.followedBy) := by
  induction h generalizing report with
  | done =>
    cases hr
    have hs : s.map ({} : Report).followedBy = s := by
      rw [funext Report.empty_followedBy]
      exact congrFun Except.map_id s
    rwa [hs]
  | unscoped | stopped => cases hr
  | skipped hs _ ih =>
    obtain ⟨later, hlater, rfl⟩ := ok_of_map_ok hr
    have hstep := Ran.skipped hs (ih hlater)
    rwa [map_map_of_eq later.afterSkipped_followedBy] at hstep
  | visited hs hv _ ih =>
    obtain ⟨later, hlater, rfl⟩ := ok_of_map_ok hr
    have hstep := Ran.visited hs hv (ih hlater)
    rwa [map_map_of_eq fun s => later.afterVisited_followedBy s _] at hstep

/-- A run that fails does not touch the classes behind. -/
theorem Ran.append_of_error {xs xs' : List Class} {r : Except AnnotateError Report}
    (h : Ran filter o xs xs' r) (hr : r = .error e) (ys : List Class) :
    Ran filter o (xs ++ ys) (xs' ++ ys) (.error e) := by
  induction h with
  | done => cases hr
  | unscoped hs =>
    cases hr
    exact .unscoped hs
  | stopped hs hv =>
    cases hr
    exact .stopped hs hv
  | skipped hs _ ih => exact .skipped hs (ih (error_of_map_error hr))
  | visited hs hv _ ih => exact .visited hs hv (ih (error_of_map_error hr))

/-- A run that fails has gone through the classes before the one at which it stopped. -/
theorem Ran.stops {classes after : List Class} {r : Except AnnotateError Report}
    (h : Ran filter o classes after r) (hr : r = .error e) :
    ∃ before before' c c' rest report, classes = before ++ c :: rest ∧
      after = before' ++ c' :: rest ∧ Ran filter o before before' (.ok report) ∧
      Ran filter o [c] [c'] (.error e) := by
  induction h with
  | done => cases hr
  | @unscoped c rest _ hs =>
    cases hr
    exact ⟨[], [], c, c, rest, {}, rfl, rfl, .done, .unscoped hs⟩
  | @stopped c d rest _ hs hv =>
    cases hr
    exact ⟨[], [], c, d, rest, {}, rfl, rfl, .done, .stopped hs hv⟩
  | @skipped b _ _ _ hs _ ih =>
    obtain ⟨before, before', c, c', rest, report, rfl, rfl, hbefore, hc⟩ :=
      ih (error_of_map_error hr)
    exact ⟨b :: before, b :: before', c, c', rest, report.afterSkipped, rfl, rfl,
      .skipped hs hbefore, hc⟩
  | @visited b b' _ _ changes _ hs hv _ ih =>
    obtain ⟨before, before', c, c', rest, report, rfl, rfl, hbefore, hc⟩ :=
      ih (error_of_map_error hr)
    exact ⟨b :: before, b' :: before', c, c', rest, report.afterVisited changes, rfl, rfl,
      .visited hs hv hbefore, hc⟩

/-- A class at which a run stops either has no scope, and stays as it is, or has failed in its own
visit. -/
theorem Ran.of_single_error {c' : Class} (h : Ran filter o [c] [c'] (.error e)) :
    e.field? = none ∧ c' = c ∨
      e.field?.isSome = true ∧ filter.inScope c = .ok true ∧
        (visitClass o).Leaves c c' (.error e) := by
  -- Two constructors of `Ran` have a `map` as their result, so that `cases` needs a variable there.
  generalize hr : (.error e : Except AnnotateError Report) = r at h
  generalize hafter : [c'] = after at h
  cases h with
  | unscoped hs =>
    cases hr
    exact .inl ⟨rfl, (List.cons.inj hafter).1⟩
  | stopped hs hv =>
    cases hr
    obtain ⟨-, _, -, hfield⟩ := hv.error_names rfl
    obtain rfl := (List.cons.inj hafter).1
    exact .inr ⟨by rw [hfield, Option.isSome_some], hs, visitClass_leaves_iff.2 hv⟩
  | skipped _ later | visited _ _ later =>
    cases later
    cases hr

/-- A run that fails stops at a class. -/
theorem annotate_stops {classes : List Class} (h : (annotate filter o classes).result = .error e) :
    ∃ c c', StopsAt filter o classes e c c' ∧ Ran filter o [c] [c'] (.error e) := by
  obtain ⟨before, before', c, c', rest, report, hclasses, hafter, hbefore, hc⟩ :=
    (annotate_ran filter o classes).stops h
  obtain ⟨rfl, hreport⟩ := annotate_iff.2 hbefore
  obtain ⟨hleft, herror⟩ := annotate_iff.2 hc
  exact ⟨c, c', ⟨before, rest, report, hclasses, hreport, herror, hleft, hafter⟩, hc⟩

/-- A run over two lists of classes fails as the first list does, without touching the second one, or
goes on with the second list. In a class with distinct field names that fails, the fields before the
one that the error names are what a visit of these fields alone makes of them, and those behind it
are not touched. A run that fails without naming a field leaves the class at which it stopped as it
was; any other failing run has failed in the visit of that class. -/
theorem annotate_fails_fast (filter : ClassFilter) (o : Options) :
    (∀ xs ys e, (annotate filter o xs).result = .error e →
      (annotate filter o (xs ++ ys)).result = .error e ∧
      (annotate filter o (xs ++ ys)).classes = (annotate filter o xs).classes ++ ys) ∧
    (∀ xs ys report, (annotate filter o xs).result = .ok report →
      (annotate filter o (xs ++ ys)).result =
        (annotate filter o ys).result.map report.followedBy ∧
      (annotate filter o (xs ++ ys)).classes =
        (annotate filter o xs).classes ++ (annotate filter o ys).classes) ∧
    (∀ c e name, (c.fields.map (·.name)).Nodup → ((visitClass o).run c).result = .error e →
      e.field? = some name →
      e.cls? = some c.name ∧ ∃ f f', f.name = name ∧ StopsAtField o c f f') ∧
    ∀ classes e, (annotate filter o classes).result = .error e →
      ∃ c c', StopsAt filter o classes e c c' ∧ (e.field? = none → c' = c) ∧
        (e.field?.isSome = true →
          filter.inScope c = .ok true ∧ (visitClass o).Leaves c c' (.error e)) := by
  refine ⟨?_, ?_, ?_, ?_⟩
  · intro xs ys e h
    exact (annotate_iff.2 ((annotate_ran filter o xs).append_of_error h ys)).symm
  · intro xs ys report h
    exact (annotate_iff.2 ((annotate_ran filter o xs).append h (annotate_ran filter o ys))).symm
  · intro c e name hdistinct h hname
    obtain ⟨f, _, hcls, hfield, -, hstops⟩ := visitClass_stops hdistinct h
    exact ⟨hcls, f, _, Option.some.inj (hfield.symm.trans hname), hstops⟩
  · intro classes e h
    obtain ⟨c, c', hstops, hc⟩ := annotate_stops h
    rcases hc.of_single_error with ⟨hnone, hsame⟩ | ⟨hsome, hvisit⟩
    · exact ⟨c, c', hstops, fun _ => hsame, fun hsome => by simp [hnone] at hsome⟩
    · exact ⟨c, c', hstops, fun hnone => by simp [hnone] at hsome, fun _ => hvisit⟩

theorem tornClass_fails_fast :
    ∃ report e, (annotate {} Samples.briefOptions [Samples.briefClass]).result = .ok report ∧
      (annotate {} Samples.briefOptions [Samples.tornClass]).result = .error e ∧
      (annotate {} Samples.briefOptions ([Samples.briefClass] ++ [Samples.tornClass])).result =
        .error e ∧
      (annotate {} Samples.briefOptions ([Samples.tornClass] ++ [Samples.briefClass])).classes =
        (annotate {} Samples.briefOptions [Samples.tornClass]).classes ++ [Samples.briefClass] ∧
      (∃ f f', f.name = "torn" ∧ StopsAtField Samples.briefOptions Samples.tornClass f f') ∧
      ∃ c c', StopsAt {} Samples.briefOptions [Samples.tornClass] e c c' := by
  obtain ⟨hfirst, hthen, hfield, hclass⟩ := annotate_fails_fast {} Samples.briefOptions
  obtain ⟨report, hok⟩ := ok_of_isOk (r := (annotate {} Samples.briefOptions
    [Samples.briefClass]).result) (by decide +kernel)
  have herror : (annotate {} Samples.briefOptions [Samples.tornClass]).result =
      .error (.inconsistentNullability "Torn" "torn" ["Nullable", "NonNull"]) := by
    decide +kernel
  have hvisit : ((visitClass Samples.briefOptions).run Samples.tornClass).result =
      .error (.inconsistentNullability "Torn" "torn" ["Nullable", "NonNull"]) := by
    decide +kernel
  obtain ⟨hresult, -⟩ := hthen [Samples.briefClass] [Samples.tornClass] report hok
  rw [herror] at hresult
  obtain ⟨-, hclasses⟩ := hfirst [Samples.tornClass] [Samples.briefClass] _ herror
  obtain ⟨-, hstops⟩ := hfield Samples.tornClass _ "torn" (by decide) hvisit rfl
  obtain ⟨c, c', hstopsAt, -⟩ := hclass [Samples.tornClass] _ herror
  exact ⟨report, _, hok, herror, hresult, hclasses, hstops, c, c', hstopsAt⟩

end AutoAnnotate
