import AutoAnnotate.Config.Text
import AutoAnnotate.Proofs.Idempotence
import AutoAnnotate.Proofs.Agreement
/-!
# Changes that are none

A run tells a change of a field if its annotations after the visit do not equal those before. A visit
that adds something makes the list longer, which never compares equal. A visit that adds nothing leaves
the list it found, and that list equals itself unless it holds a NaN. So every recorded change either
made the list longer or left a list with a NaN as it was (`annotate_records`).

The second happens: over what it has left itself, a run by a policy with a NaN tells a change of a
field that it has not touched (`nanLimit_recorded_again`).
-/

namespace AutoAnnotate

open FieldVisit

/-- The change made a list of annotations longer, or it tells of a list that holds a NaN and is the
same before and after. -/
def FieldChange.LongerOrNaN (ch : FieldChange) : Prop :=
  ch.before.length < ch.after.length ∨ ch.after = ch.before ∧ ¬NaNFree ch.before

variable {filter : ClassFilter} {o : Options} {c d : Class} {f : Field} {ch : FieldChange}

theorem Extends.eq_of_length_le {before after : List Annotation} (h : Extends before after)
    (hle : after.length ≤ before.length) : after = before := by
  obtain ⟨added, rfl, -⟩ := h
  rw [List.length_append] at hle
  rw [List.eq_nil_of_length_eq_zero (by omega : added.length = 0), List.append_nil]

/-! ## Fields -/

theorem FieldVisit.Visited.records {annotations : List Annotation}
    (h : Visited o c f annotations (.ok (some ch))) :
    ch = ⟨c.name, f.name, f.annotations, annotations⟩ ∧ f.carriesAny o.ignoredFields.toList = false ∧
      ch.LongerOrNaN := by
  have hextends : Extends f.annotations annotations := h.kept.annotations
  generalize hr : (.ok (some ch) : Except AnnotateError (Option FieldChange)) = r at h
  cases h with
  | ignored | inconsistent | refused => cases hr
  | @completed n hi =>
    have hchange := Except.ok.inj hr
    obtain rfl : ch = ⟨c.name, f.name, f.annotations, merged f.annotations (o.rules c f n)⟩ := by
      unfold changeOf at hchange
      split at hchange
      · cases hchange
      · exact Option.some.inj hchange
    refine ⟨rfl, hi, ?_⟩
    rcases Nat.lt_or_ge f.annotations.length (merged f.annotations (o.rules c f n)).length
      with hlonger | hle
    · left
      exact hlonger
    · right
      have hsame := hextends.eq_of_length_le hle
      refine ⟨hsame, ?_⟩
      intro hfree
      -- Without a NaN the two lists would compare equal.
      rw [hsame, changeOf_self c.name f.name hfree] at hchange
      cases hchange

/-! ## Classes -/

/-- What a class has gained is there after every later visit. -/
theorem ClassKept.eq_of_withAnnotations {annotations : List Annotation}
    (hf : c.field? f.name = some f) (hfirst : FieldKept o f (f.withAnnotations annotations))
    (hlater : ClassKept o (c.withAnnotations f.name annotations) c) : annotations = f.annotations := by
  have hfields := rel_find? (p := (·.name = f.name)) (q := (·.name = f.name)) hlater.fields
    fun g g' hg => by rw [hg.name]
  rw [← Class.field?, ← Class.field?, Class.field?_withAnnotations hf, hf, rel_some_some] at hfields
  obtain ⟨added, hadded, -⟩ := hfields.annotations
  apply hfirst.annotations.eq_of_length_le
  rw [Field.withAnnotations_annotations] at hadded ⊢
  rw [hadded, List.length_append]
  exact Nat.le_add_right _ _

/-- Visits that add nothing tell no change of a field without a NaN. -/
theorem ClassVisited.records_nothing {names : List String}
    {r : Except AnnotateError (List FieldChange)} (h : ClassVisited o c names d r) (hsame : d = c)
    {changes : List FieldChange} (hr : r = .ok changes)
    (hfree : ∀ f ∈ c.fields, f.carriesAny o.ignoredFields.toList = false → NaNFree f.annotations) :
    changes = [] := by
  induction h generalizing changes with
  | done =>
    cases hr
    rfl
  | stopped => cases hr
  | @next c d f _ annotations change _ hf hv later ih =>
    obtain ⟨laterChanges, hlater, rfl⟩ := ok_of_map_ok hr
    subst hsame
    obtain rfl := ClassKept.eq_of_withAnnotations hf hv.kept later.kept
    rw [Class.withAnnotations_self hf] at ih
    rw [ih rfl hlater hfree, List.append_nil]
    cases change with
    | none => rfl
    | some ch =>
      obtain ⟨rfl, hi, hlonger | ⟨-, hnan⟩⟩ := hv.records
      · exact absurd hlonger (Nat.lt_irrefl _)
      · exact absurd (hfree f (Class.field?_mem hf) hi) hnan

/-! ## Runs -/

section Runs
variable {classes after : List Class} {r : Except AnnotateError Report} {report : Report}

theorem Ran.records (h : Ran filter o classes after r) (hr : r = .ok report) :
    ∀ ch ∈ report.changes, ch.LongerOrNaN :=
  h.forall_changes (I := fun _ => True) (fun _ _ _ _ _ _ => trivial)
    (fun _ _ _ _ hv _ => hv.records.2.2) (fun _ _ _ _ => trivial) hr

theorem Ran.records_nothing (h : Ran filter o classes after r) (hsame : after = classes)
    (hr : r = .ok report)
    (hfree : ∀ c ∈ classes, filter.inScope c = .ok true → ∀ f ∈ c.fields,
      f.carriesAny o.ignoredFields.toList = false → NaNFree f.annotations) :
    report.changes = [] := by
  induction h generalizing report with
  | done =>
    cases hr
    rfl
  | unscoped | stopped => cases hr
  | skipped _ _ ih =>
    obtain ⟨later, hlater, rfl⟩ := ok_of_map_ok hr
    have hrest := ih (List.cons.inj hsame).2 hlater (List.forall_mem_cons.1 hfree).2
    exact hrest
  | visited hs hv _ ih =>
    obtain ⟨later, hlater, rfl⟩ := ok_of_map_ok hr
    obtain ⟨hc, hrest⟩ := List.cons.inj hsame
    obtain ⟨hcfree, hrestFree⟩ := List.forall_mem_cons.1 hfree
    exact List.append_eq_nil_iff.2
      ⟨hv.records_nothing hc rfl (hcfree hs), ih hrest hlater hrestFree⟩

end Runs

/-- Every change that a run records made the list of annotations longer, unless the list holds a NaN,
in which case it can also be the same before and after. A run that adds nothing reports nothing if the
fields that it visits hold no NaN. -/
theorem annotate_records {classes : List Class} {report : Report}
    (h : (annotate filter o classes).result = .ok report) :
    (∀ ch ∈ report.changes, ch.before.length < ch.after.length ∨
      ch.after = ch.before ∧ ¬NaNFree ch.before) ∧
    ((annotate filter o classes).classes = classes →
      (∀ c ∈ classes, filter.inScope c = .ok true → ∀ f ∈ c.fields,
        f.carriesAny o.ignoredFields.toList = false → NaNFree f.annotations) →
      report.isEmpty = true) := by
  have hran := annotate_ran filter o classes
  refine ⟨hran.records h, ?_⟩
  intro hsame hfree
  exact List.isEmpty_iff.2 (hran.records_nothing hsame h hfree)

theorem briefClass_records :
    ∃ report again after,
      (annotate {} Samples.briefOptions [Samples.briefClass]).result = .ok report ∧
      (annotate {} Samples.briefOptions [Samples.briefClass]).classes = after ∧
      (∀ ch ∈ report.changes, ch.before.length < ch.after.length ∨
        ch.after = ch.before ∧ ¬NaNFree ch.before) ∧
      (annotate {} Samples.briefOptions after).result = .ok again ∧
      (annotate {} Samples.briefOptions after).classes = after ∧ again.isEmpty = true := by
  obtain ⟨report, h⟩ := ok_of_isOk (r := (annotate {} Samples.briefOptions
    [Samples.briefClass]).result) (by decide +kernel)
  obtain ⟨again, hagain⟩ := ok_of_isOk (r := (annotate {} Samples.briefOptions
    (annotate {} Samples.briefOptions [Samples.briefClass]).classes).result) (by decide +kernel)
  have hsame : (annotate {} Samples.briefOptions
      (annotate {} Samples.briefOptions [Samples.briefClass]).classes).classes =
        (annotate {} Samples.briefOptions [Samples.briefClass]).classes := by decide +kernel
  have hfree : ∀ c ∈ (annotate {} Samples.briefOptions [Samples.briefClass]).classes, c.NaNFree := by
    unfold Class.NaNFree NaNFree
    decide +kernel
  exact ⟨report, again, _, h, rfl, (annotate_records h).1, hagain, hsame,
    (annotate_records hagain).2 hsame fun c hc _ f hf _ => hfree c hc f hf⟩

/-- A policy read from a text puts a NaN on a field. The second run adds nothing, and nevertheless
reports a change of the field, with one list before and after. -/
theorem nanLimit_recorded_again :
    Config.ofYaml (Samples.limitText ".nan") = .ok (Samples.limitConfig .nan) ∧
      ∃ first again, (annotate {} (Samples.limitConfig .nan).options [Samples.limitedClass]).classes =
          [first] ∧
        (annotate {} (Samples.limitConfig .nan).options [first]).classes = [first] ∧
        (annotate {} (Samples.limitConfig .nan).options [first]).result = .ok again ∧
        again.isEmpty = false ∧
        again.changes = [⟨"Limited", "limited", (Samples.limitedField .nan).annotations,
          (Samples.limitedField .nan).annotations⟩] := by
  refine ⟨by decide +kernel, { Samples.limitedClass with fields := [Samples.limitedField .nan] },
    ⟨1, 0, [⟨"Limited", "limited", (Samples.limitedField .nan).annotations,
      (Samples.limitedField .nan).annotations⟩]⟩, ?_⟩
  decide +kernel

end AutoAnnotate
