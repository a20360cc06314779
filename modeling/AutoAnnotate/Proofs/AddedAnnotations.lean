import AutoAnnotate.Proofs.NaNFree
import AutoAnnotate.Proofs.Preservation
import AutoAnnotate.Proofs.Reporting
/-!
# What a change says was added

A report keeps the annotations of a field before and after, and nothing of what was put there. What
was added is found afterwards, as the annotations that equal none of those before. Without a NaN that
is what the run has appended (`annotate_tells_added`): the annotations that were there equal
themselves, and those behind them are of new kinds, whereas equal annotations are of one kind.
-/

namespace AutoAnnotate

open FieldVisit

variable {filter : ClassFilter} {o : Options}

/-- The change has put something of new kinds behind the annotations that it found. -/
structure FieldChange.Appends (ch : FieldChange) : Prop where
  after_eq : ch.after = ch.before ++ ch.added
  nodup_addedKinds : ch.addedKinds.Nodup
  new_kind : ∀ kind ∈ ch.addedKinds, kind ∉ ch.before.map (·.kind)

/-! ## What equals an annotation from before -/

theorem Annotation.kind_eq_of_equal {a b : Annotation} (h : a.equal b = true) : a.kind = b.kind := by
  unfold equal at h
  simp only [Bool.and_eq_true, decide_eq_true_eq] at h
  exact h.1.1

theorem NaNFree.any_equal {before : List Annotation} (h : NaNFree before) {a : Annotation}
    (ha : a ∈ before) : before.any (a.equal ·) = true :=
  List.any_eq_true.2 ⟨a, ha, a.equal_self.2 (h a ha)⟩

theorem any_equal_eq_false {before : List Annotation} {a : Annotation}
    (h : a.kind ∉ before.map (·.kind)) : before.any (a.equal ·) = false := by
  rw [List.any_eq_false]
  intro b hb hequal
  have hkind : a.kind = b.kind := Annotation.kind_eq_of_equal hequal
  exact h (List.mem_map.2 ⟨b, hb, hkind.symm⟩)

/-! ## The change of a field -/

theorem FieldChange.added_of_extends {ch : FieldChange} {added : List Annotation}
    (hfree : NaNFree ch.before) (hafter : ch.after = ch.before ++ added)
    (hnew : ∀ a ∈ added, a.kind ∉ ch.before.map (·.kind)) : ch.added = added := by
  have hbefore : ch.before.filter (fun a => !ch.before.any (a.equal ·)) = [] := by
    refine List.filter_eq_nil_iff.2 fun a ha => ?_
    rw [hfree.any_equal ha]
    exact Bool.false_ne_true
  have hadded : added.filter (fun a => !ch.before.any (a.equal ·)) = added := by
    refine List.filter_eq_self.2 fun a ha => ?_
    rw [any_equal_eq_false (hnew a ha)]
    rfl
  unfold FieldChange.added
  rw [hafter, List.filter_append, hbefore, hadded, List.nil_append]

theorem Extends.appends {ch : FieldChange} (h : Extends ch.before ch.after)
    (hfree : NaNFree ch.before) : ch.Appends := by
  obtain ⟨added, hafter, hnodup, hnew⟩ := h
  obtain rfl : ch.added = added := FieldChange.added_of_extends hfree hafter hnew
  refine ⟨hafter, hnodup, ?_⟩
  intro kind hkind
  obtain ⟨a, ha, rfl⟩ := List.mem_map.1 hkind
  exact hnew a ha

/-! ## The changes of a run -/

theorem recordedByVisits_appends (o : Options) :
    RecordedByVisits o NaNFree FieldChange.Appends := by
  intro c f annotations ch hv hfree
  obtain ⟨-, rfl⟩ := hv.tells.1 ch rfl
  exact Extends.appends hv.kept.annotations hfree

/-- Each change in the report of a run over classes without a NaN, with options without one, tells of
annotations that begin with those from before. What the change counts as added is what follows them,
in its order; its kinds differ from each other and from the kinds that were there. -/
theorem annotate_tells_added {classes : List Class} {report : Report}
    (hclasses : ∀ c ∈ classes, c.NaNFree) (ho : o.NaNFree)
    (h : (annotate filter o classes).result = .ok report) :
    ∀ ch ∈ report.changes, ch.after = ch.before ++ ch.added ∧ ch.addedKinds.Nodup ∧
      ∀ kind ∈ ch.addedKinds, kind ∉ ch.before.map (·.kind) := by
  intro ch hch
  have happends : ch.Appends := (annotate_ran filter o classes).forall_changes ho.keptByVisits
    (recordedByVisits_appends o) hclasses h ch hch
  exact ⟨happends.after_eq, happends.nodup_addedKinds, happends.new_kind⟩

theorem twiceClass_tells_added :
    ∃ report, (annotate {} Samples.briefOptions [Samples.briefClass, Samples.twiceClass]).result =
        .ok report ∧ report.changes.map (·.addedKinds.length) = [4, 1, 4] ∧
      ∀ ch ∈ report.changes, ch.after = ch.before ++ ch.added ∧ ch.addedKinds.Nodup ∧
        ∀ kind ∈ ch.addedKinds, kind ∉ ch.before.map (·.kind) := by
  have hclasses : ∀ c ∈ [Samples.briefClass, Samples.twiceClass], c.NaNFree := by
    unfold Class.NaNFree NaNFree
    decide
  have ho : Samples.briefOptions.NaNFree := by
    constructor <;> unfold NaNFree <;> decide
  obtain ⟨report, h, hcounts⟩ := ok_of_map_ok (r := (annotate {} Samples.briefOptions
    [Samples.briefClass, Samples.twiceClass]).result)
    (g := (·.changes.map (·.addedKinds.length))) (b := [4, 1, 4]) (by decide +kernel)
  exact ⟨report, h, hcounts, annotate_tells_added hclasses ho h⟩

end AutoAnnotate
