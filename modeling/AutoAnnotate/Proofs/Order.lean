import AutoAnnotate.Proofs.Determinism
import AutoAnnotate.Proofs.Preservation
import AutoAnnotate.Samples
import Mathlib.Data.List.Perm.Basic
/-!
# The order of classes and fields

A run without an error is a list of steps, one for each class (`ClassStep`), and the visit of a class
with distinct field names is a list of steps, one for each field (`FieldStep`). No step depends on
another one, so that the steps in another order are again a run. `annotate_reordered` says what
follows: whatever the order of the classes and of the fields in each class, every field ends with the
same annotations.
-/

namespace AutoAnnotate

open FieldVisit Visit

/-- The class `d` is `c` with its fields in another order. -/
def Class.Reordered (c d : Class) : Prop :=
  ∃ fields, c.fields.Perm fields ∧ d = { c with fields := fields }

/-- What becomes of a class: each pair is a class before and after a run. The second pair is the
first one with the fields in another order, the same before and after. -/
structure SameOutcome (p q : Class × Class) : Prop where
  before : p.1.Reordered q.1
  after : p.2.Reordered q.2
  fields : (p.1.fields.zip p.2.fields).Perm (q.1.fields.zip q.2.fields)

/-! ## Lists in another order -/

section PermUpTo
variable {α β γ δ : Type} {R : α → β → Prop} {S : γ → δ → Prop}

/-- The second list is the first one in another order, with each element replaced by a related
one. -/
def PermUpTo (R : α → β → Prop) (l : List α) (l' : List β) : Prop :=
  ∃ middle, l.Perm middle ∧ List.Forall₂ R middle l'

theorem PermUpTo.map {key : γ → α} {key' : δ → β} {l : List γ} {l' : List δ}
    (h : PermUpTo S l l') (hkey : ∀ x y, S x y → R (key x) (key' y)) :
    PermUpTo R (l.map key) (l'.map key') := by
  obtain ⟨middle, hperm, hrel⟩ := h
  refine ⟨middle.map key, hperm.map key, ?_⟩
  rw [List.forall₂_map_left_iff, List.forall₂_map_right_iff]
  exact hrel.imp hkey

theorem forall₂_of_map {key : γ → α} {key' : δ → β} {l : List γ} {l' : List β}
    (hstep : ∀ x ∈ l, ∀ b, R (key x) b → ∃ y, key' y = b ∧ S x y)
    (h : List.Forall₂ R (l.map key) l') : ∃ m, l' = m.map key' ∧ List.Forall₂ S l m := by
  induction l generalizing l' with
  | nil =>
    obtain rfl := List.forall₂_nil_left_iff.1 h
    exact ⟨[], rfl, .nil⟩
  | cons x rest ih =>
    obtain ⟨b, l', hb, hrest, rfl⟩ := List.forall₂_cons_left_iff.1 h
    obtain ⟨y, rfl, hy⟩ := hstep x List.mem_cons_self b hb
    obtain ⟨m, rfl, hm⟩ := ih (fun z hz => hstep z (List.mem_cons_of_mem _ hz)) hrest
    exact ⟨y :: m, rfl, .cons hy hm⟩

/-- The keys of a list in another order are the keys of the list in another order. -/
theorem exists_perm_of_map_perm {key : γ → α} {l : List γ} {l' : List α}
    (h : (l.map key).Perm l') : ∃ m, l' = m.map key ∧ l.Perm m := by
  have hcomp := congrFun (congrFun (List.eq_map_comp_perm key) l') l
  obtain ⟨m, hm, hperm⟩ := hcomp.mpr h.symm
  exact ⟨m, hm, hperm.symm⟩

theorem PermUpTo.of_map {key : γ → α} {key' : δ → β} {l : List γ} {l' : List β}
    (h : PermUpTo R (l.map key) l')
    (hstep : ∀ x ∈ l, ∀ b, R (key x) b → ∃ y, key' y = b ∧ S x y) :
    ∃ m, l' = m.map key' ∧ PermUpTo S l m := by
  obtain ⟨middle, hperm, hrel⟩ := h
  obtain ⟨l₂, rfl, hl₂⟩ := exists_perm_of_map_perm hperm
  obtain ⟨m, rfl, hm⟩ := forall₂_of_map (fun x hx => hstep x (hl₂.mem_iff.2 hx)) hrel
  exact ⟨m, rfl, l₂, hl₂, hm⟩

theorem PermUpTo.forall_mem {p : β → Prop} {l : List α} {l' : List β} (h : PermUpTo R l l')
    (hp : ∀ x y, R x y → p y) : ∀ y ∈ l', p y := by
  obtain ⟨middle, -, hrel⟩ := h
  induction hrel with
  | nil => exact List.forall_mem_nil _
  | cons hxy _ ih => exact List.forall_mem_cons.2 ⟨hp _ _ hxy, ih⟩

theorem PermUpTo.flatMap {g : α → List γ} {g' : β → List γ} {l : List α} {l' : List β}
    (h : PermUpTo R l l') (hg : ∀ x y, R x y → (g x).Perm (g' y)) :
    (l.flatMap g).Perm (l'.flatMap g') := by
  obtain ⟨middle, hperm, hrel⟩ := h
  refine (hperm.flatMap_right g).trans ?_
  clear hperm
  induction hrel with
  | nil => exact .nil
  | cons hxy _ ih =>
    rw [List.flatMap_cons, List.flatMap_cons]
    exact (hg _ _ hxy).append ih

theorem PermUpTo.map_perm {key : α → γ} {key' : β → γ} {l : List α} {l' : List β}
    (h : PermUpTo R l l') (hkey : ∀ x y, R x y → key x = key' y) :
    (l.map key).Perm (l'.map key') := by
  obtain ⟨middle, hperm, hrel⟩ := h
  have heq : middle.map key = l'.map key' := by
    rw [← List.forall₂_eq_eq_eq, List.forall₂_map_left_iff, List.forall₂_map_right_iff]
    exact hrel.imp hkey
  exact heq ▸ hperm.map key

end PermUpTo

/-! ## Fields -/

variable {filter : ClassFilter} {o : Options} {c d : Class}

/-- The visit of one field without an error. -/
structure FieldStep where
  before : Field
  after : Field
  change : Option FieldChange

/-- The step is what the visit of its field in a class comes to. -/
def FieldStep.Done (o : Options) (c : Class) (s : FieldStep) : Prop :=
  ∃ annotations, Visited o c s.before annotations (.ok s.change) ∧
    s.after = s.before.withAnnotations annotations

theorem FieldsVisited.exists_steps {fields fields' : List Field}
    {r : Except AnnotateError (List FieldChange)} (h : FieldsVisited o c fields fields' r)
    {changes : List FieldChange} (hr : r = .ok changes) :
    ∃ steps : List FieldStep, (∀ s ∈ steps, s.Done o c) ∧ fields = steps.map (·.before) ∧
      fields' = steps.map (·.after) ∧ changes = steps.flatMap (·.change.toList) := by
  induction h generalizing changes with
  | done =>
    cases hr
    exact ⟨[], List.forall_mem_nil _, rfl, rfl, rfl⟩
  | stopped => cases hr
  | @next f _ _ annotations change _ hv _ ih =>
    obtain ⟨later, hlater, rfl⟩ := ok_of_map_ok hr
    obtain ⟨steps, hdone, rfl, rfl, rfl⟩ := ih hlater
    exact ⟨⟨f, f.withAnnotations annotations, change⟩ :: steps,
      List.forall_mem_cons.2 ⟨⟨annotations, hv, rfl⟩, hdone⟩, rfl, rfl, rfl⟩

theorem fieldsVisited_of_steps {steps : List FieldStep} (h : ∀ s ∈ steps, s.Done o c) :
    FieldsVisited o c (steps.map (·.before)) (steps.map (·.after))
      (.ok (steps.flatMap (·.change.toList))) := by
  induction steps with
  | nil => exact .done
  | cons s rest ih =>
    obtain ⟨⟨annotations, hv, hafter⟩, hrest⟩ := List.forall_mem_cons.1 h
    have hnext := FieldsVisited.next hv (ih hrest)
    rwa [← hafter] at hnext

/-- The visit of a class with its fields in another order takes the same steps in that order. -/
theorem Class.Reordered.leaves {c' : Class} {changes : List FieldChange} (hd : c.Reordered d)
    (hdistinct : (c.fields.map (·.name)).Nodup) (h : (visitClass o).Leaves c c' (.ok changes)) :
    ∃ d' changes', (visitClass o).Leaves d d' (.ok changes') ∧
      SameOutcome (c, c') (d, d') ∧ changes.Perm changes' := by
  obtain ⟨fields, hperm, rfl⟩ := hd
  obtain ⟨fields', rfl, hfields⟩ := (visitClass_leaves_iff_of_distinct hdistinct).1 h
  obtain ⟨steps, hdone, hbefore, rfl, rfl⟩ := hfields.exists_steps rfl
  have hdistinct' : (fields.map (·.name)).Nodup := (hperm.map (·.name)).nodup_iff.1 hdistinct
  obtain ⟨steps', rfl, hsteps⟩ := exists_perm_of_map_perm (hbefore ▸ hperm)
  have hvisited := fieldsVisited_of_steps fun s hs => hdone s (hsteps.mem_iff.2 hs)
  refine ⟨{ c with fields := steps'.map (·.after) }, steps'.flatMap (·.change.toList),
    (visitClass_leaves_iff_of_distinct hdistinct').2 ⟨_, rfl, hvisited.withFields _⟩, ?_,
    hsteps.flatMap_right _⟩
  constructor
  · exact ⟨_, hperm, rfl⟩
  · exact ⟨_, hsteps.map _, rfl⟩
  · show (c.fields.zip (steps.map (·.after))).Perm
      ((steps'.map (·.before)).zip (steps'.map (·.after)))
    rw [hbefore, List.zip_map', List.zip_map']
    exact hsteps.map _

/-! ## Classes -/

/-- One step of a run without an error. -/
structure ClassStep where
  before : Class
  after : Class
  changes : List FieldChange

/-- The step is what a run makes of its class. -/
def ClassStep.Done (filter : ClassFilter) (o : Options) (s : ClassStep) : Prop :=
  filter.inScope s.before = .ok false ∧ s.after = s.before ∧ s.changes = [] ∨
  filter.inScope s.before = .ok true ∧ (visitClass o).Leaves s.before s.after (.ok s.changes)

theorem Ran.exists_steps {classes after : List Class} {r : Except AnnotateError Report}
    (h : Ran filter o classes after r) {report : Report} (hr : r = .ok report) :
    ∃ steps : List ClassStep, (∀ s ∈ steps, s.Done filter o) ∧ classes = steps.map (·.before) ∧
      after = steps.map (·.after) ∧ report.changes = steps.flatMap (·.changes) := by
  induction h generalizing report with
  | done =>
    cases hr
    exact ⟨[], List.forall_mem_nil _, rfl, rfl, rfl⟩
  | unscoped | stopped => cases hr
  | @skipped c _ _ _ hs _ ih =>
    obtain ⟨later, hlater, rfl⟩ := ok_of_map_ok hr
    obtain ⟨steps, hdone, rfl, rfl, hchanges⟩ := ih hlater
    exact ⟨⟨c, c, []⟩ :: steps, List.forall_mem_cons.2 ⟨.inl ⟨hs, rfl, rfl⟩, hdone⟩, rfl, rfl,
      hchanges⟩
  | @visited c d _ _ changes _ hs hv _ ih =>
    obtain ⟨later, hlater, rfl⟩ := ok_of_map_ok hr
    obtain ⟨steps, hdone, rfl, rfl, hchanges⟩ := ih hlater
    refine ⟨⟨c, d, changes⟩ :: steps,
      List.forall_mem_cons.2 ⟨.inr ⟨hs, visitClass_leaves_iff.2 hv⟩, hdone⟩, rfl, rfl, ?_⟩
    exact congrArg (changes ++ ·) hchanges

theorem ran_of_steps {steps : List ClassStep} (h : ∀ s ∈ steps, s.Done filter o) :
    ∃ report, Ran filter o (steps.map (·.before)) (steps.map (·.after)) (.ok report) ∧
      report.changes = steps.flatMap (·.changes) := by
  induction steps with
  | nil => exact ⟨{}, .done, rfl⟩
  | cons s rest ih =>
    obtain ⟨hs, hrest⟩ := List.forall_mem_cons.1 h
    obtain ⟨report, hran, hchanges⟩ := ih hrest
    rcases hs with ⟨hscope, hsame, hnone⟩ | ⟨hscope, hleaves⟩
    · refine ⟨report.afterSkipped, ?_, ?_⟩
      · rw [List.map_cons, List.map_cons, hsame]
        exact .skipped hscope hran
      · rw [List.flatMap_cons, hnone]
        exact hchanges
    · have hvisited := visitClass_leaves_iff.1 hleaves
      exact ⟨report.afterVisited s.changes, .visited hscope hvisited hran,
        congrArg (s.changes ++ ·) hchanges⟩

theorem Class.Reordered.inScope (h : c.Reordered d) (filter : ClassFilter) :
    filter.inScope d = filter.inScope c := by
  obtain ⟨fields, -, rfl⟩ := h
  rfl

theorem Class.Reordered.sameOutcome (h : c.Reordered d) : SameOutcome (c, c) (d, d) where
  before := h
  after := h
  fields := by
    obtain ⟨fields, hperm, rfl⟩ := h
    show (c.fields.zip c.fields).Perm (fields.zip fields)
    rw [List.zip_eq_zipWith, List.zip_eq_zipWith, List.zipWith_self, List.zipWith_self]
    exact hperm.map _

/-- A step for a class with its fields in another order. -/
theorem ClassStep.Done.reordered {s : ClassStep} (h : s.Done filter o)
    (hdistinct : (s.before.fields.map (·.name)).Nodup) (hd : s.before.Reordered d) :
    ∃ t : ClassStep, t.before = d ∧ t.Done filter o ∧
      SameOutcome (s.before, s.after) (t.before, t.after) ∧ s.changes.Perm t.changes := by
  rcases h with ⟨hscope, hsame, hnone⟩ | ⟨hscope, hleaves⟩
  · refine ⟨⟨d, d, []⟩, rfl, .inl ⟨(hd.inScope filter).trans hscope, rfl, rfl⟩, ?_, ?_⟩
    · rw [hsame]
      exact hd.sameOutcome
    · rw [hnone]
  · obtain ⟨d', changes', hleaves', hsame, hperm⟩ := hd.leaves hdistinct hleaves
    exact ⟨⟨d, d', changes'⟩, rfl, .inr ⟨(hd.inScope filter).trans hscope, hleaves'⟩, hsame, hperm⟩

/-- A run without an error, over the classes in another order and each with its fields in another
order, goes through as well. Every class ends with the same annotations on the same fields, as many
classes are visited and skipped, and the same changes are reported in some order. -/
theorem annotate_reordered {classes classes' : List Class} {report : Report}
    (hdistinct : ∀ c ∈ classes, (c.fields.map (·.name)).Nodup)
    (h : (annotate filter o classes).result = .ok report)
    (horder : PermUpTo Class.Reordered classes classes') :
    ∃ report', (annotate filter o classes').result = .ok report' ∧
      PermUpTo SameOutcome (classes.zip (annotate filter o classes).classes)
        (classes'.zip (annotate filter o classes').classes) ∧
      report'.visited = report.visited ∧ report'.skipped = report.skipped ∧
      report.changes.Perm report'.changes := by
  -- The steps of the run, each redone for its class with the fields in the other order, make up the
  -- other run.
  have hran := annotate_ran filter o classes
  obtain ⟨steps, hdone, hbefore, hafter, hchanges⟩ := hran.exists_steps h
  have hscopes := horder.map_perm fun _ _ hd => (hd.inScope filter).symm
  have hstep (s : ClassStep) (hs : s ∈ steps) (d : Class) (hd : s.before.Reordered d) :
      ∃ t : ClassStep, t.before = d ∧ t.Done filter o ∧
        SameOutcome (s.before, s.after) (t.before, t.after) ∧ s.changes.Perm t.changes :=
    (hdone s hs).reordered (hdistinct _ (hbefore ▸ List.mem_map_of_mem hs)) hd
  obtain ⟨steps', rfl, hsteps⟩ := (hbefore ▸ horder).of_map hstep
  obtain ⟨report', hran', hchanges'⟩ := ran_of_steps (hsteps.forall_mem fun _ _ hs => hs.1)
  obtain ⟨hclasses', hreport'⟩ := annotate_iff.2 hran'
  obtain ⟨hvisited, hskipped⟩ := hran.counts h
  obtain ⟨hvisited', hskipped'⟩ := hran'.counts rfl
  refine ⟨report', hreport', ?_, ?_, ?_, ?_⟩
  · rw [hclasses', hafter, hbefore, List.zip_map', List.zip_map']
    exact hsteps.map fun _ _ hs => hs.2.1
  · rw [hvisited, hvisited', hscopes.countP_eq]
  · rw [hskipped, hskipped', hscopes.countP_eq]
  · rw [hchanges, hchanges']
    exact hsteps.flatMap fun _ _ hs => hs.2.2

/-- Two classes the other way round, the fields of one of them backwards. -/
theorem briefClass_reordered :
    ∃ report report',
      (annotate {} Samples.briefOptions
        [Samples.briefClass, Samples.annotatedNonNullByDefault]).result = .ok report ∧
      (annotate {} Samples.briefOptions [Samples.annotatedNonNullByDefault,
        { Samples.briefClass with fields := Samples.briefClass.fields.reverse }]).result =
        .ok report' ∧
      report'.visited = report.visited ∧ report.changes.Perm report'.changes := by
  have horder : PermUpTo Class.Reordered [Samples.briefClass, Samples.annotatedNonNullByDefault]
      [Samples.annotatedNonNullByDefault,
        { Samples.briefClass with fields := Samples.briefClass.fields.reverse }] :=
    ⟨[Samples.annotatedNonNullByDefault, Samples.briefClass], .swap _ _ _,
      .cons ⟨_, .refl _, rfl⟩ (.cons ⟨_, (List.reverse_perm _).symm, rfl⟩ .nil)⟩
  have hok : (annotate {} Samples.briefOptions
      [Samples.briefClass, Samples.annotatedNonNullByDefault]).result.isOk = true := by
    decide +kernel
  obtain ⟨report, h⟩ := ok_of_isOk hok
  obtain ⟨report', h', -, hvisited, -, hchanges⟩ := annotate_reordered (by decide) h horder
  exact ⟨report, report', h, h', hvisited, hchanges⟩

end AutoAnnotate
