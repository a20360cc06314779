import AutoAnnotate.Proofs.Agreement
import AutoAnnotate.Proofs.Traversal
import AutoAnnotate.Samples
/-!
# What the report of a run tells

A report tells of fields in the order in which a reader of the classes meets them, and of each at
most once. It leaves out no field that has got more annotations, and what it says of a field is what
stood there before the run and what stands there after it (`annotate_reports`). In a class the places
of the fields are counted by `FieldsVisited.reports`, and those of the classes by `Ran.reports`.
-/

namespace AutoAnnotate

open FieldVisit

/-- A place among the fields of some classes: the number of the class, and of the field in it. -/
abbrev Place := Nat × Nat

def fieldAt? (classes : List Class) (p : Place) : Option Field :=
  classes[p.1]?.bind (·.fields[p.2]?)

def Place.Before (p q : Place) : Prop := p.1 < q.1 ∨ p.1 = q.1 ∧ p.2 < q.2

/-- The field of a class is not ignored, and the change tells how it was and how it is now. -/
def Tells (o : Options) (c : Class) (f f' : Field) (ch : FieldChange) : Prop :=
  (∀ a ∈ f.annotations, a.kind ∉ o.ignoredFields) ∧
    ch = ⟨c.name, f.name, f.annotations, f'.annotations⟩

/-- The change tells what a run has made of the field at a place, in a class that it visits. -/
def TellsAt (filter : ClassFilter) (o : Options) (classes after : List Class) (p : Place)
    (ch : FieldChange) : Prop :=
  ∃ c f f', classes[p.1]? = some c ∧ filter.inScope c = .ok true ∧ c.fields[p.2]? = some f ∧
    fieldAt? after p = some f' ∧ Tells o c f f' ch

/-- The field at a place has more annotations after than before. -/
def GrownAt (classes after : List Class) (p : Place) : Prop :=
  ∃ f f', fieldAt? classes p = some f ∧ fieldAt? after p = some f' ∧
    f.annotations.length < f'.annotations.length

/-- Changes tell of places in ascending order, and of all places where something has grown. -/
structure Reports {α : Type} (before : α → α → Prop) (tells : α → FieldChange → Prop)
    (grown : α → Prop) (places : List α) (changes : List FieldChange) : Prop where
  ascending : places.Pairwise before
  told : List.Forall₂ tells places changes
  complete : ∀ p, grown p → p ∈ places

variable {filter : ClassFilter} {o : Options} {c : Class} {f : Field}

/-! ## A field -/

theorem FieldVisit.Visited.tells {annotations : List Annotation} {change : Option FieldChange}
    (h : Visited o c f annotations (.ok change)) :
    (∀ ch ∈ change, Tells o c f (f.withAnnotations annotations) ch) ∧
      (change = none → annotations.length = f.annotations.length) := by
  cases h with
  | ignored => simp
  | completed hi =>
    refine ⟨fun ch hch => ⟨Field.carriesAny_eq_false_iff.1 hi, ?_⟩, fun hnone => ?_⟩
    all_goals unfold changeOf at *
    · split at hch
      · cases hch
      · exact (Option.some.inj hch).symm
    · split at hnone
      · next hequal =>
        have hagree := Annotation.equalList_iff.1 hequal
        exact hagree.length_eq
      · cases hnone

/-! ## The fields of a class -/

section Fields
variable {rest rest' : List Field} {changes : List FieldChange} {places : List Nat}

/-- The same as `TellsAt` among the fields of one class. -/
def FieldTellsAt (o : Options) (c : Class) (rest rest' : List Field) (i : Nat)
    (ch : FieldChange) : Prop :=
  ∃ f f', rest[i]? = some f ∧ rest'[i]? = some f' ∧ Tells o c f f' ch

def FieldGrownAt (rest rest' : List Field) (i : Nat) : Prop :=
  ∃ f f', rest[i]? = some f ∧ rest'[i]? = some f' ∧ f.annotations.length < f'.annotations.length

/-- What is told of a list of fields is told of it behind one more field. -/
theorem Reports.cons {f' : Field} {told : List FieldChange}
    (h : Reports (· < ·) (FieldTellsAt o c rest rest') (FieldGrownAt rest rest') places changes)
    (hfirst : told = [] ∧ f'.annotations.length = f.annotations.length ∨
      ∃ ch, told = [ch] ∧ Tells o c f f' ch) :
    ∃ places', Reports (· < ·) (FieldTellsAt o c (f :: rest) (f' :: rest'))
      (FieldGrownAt (f :: rest) (f' :: rest')) places' (told ++ changes) := by
  have hascending : (places.map (· + 1)).Pairwise (· < ·) :=
    List.pairwise_map.2 (h.ascending.imp (by omega))
  have htold : List.Forall₂ (FieldTellsAt o c (f :: rest) (f' :: rest')) (places.map (· + 1))
      changes := List.forall₂_map_left_iff.2 h.told
  have hcomplete (i : Nat) (hi : FieldGrownAt (f :: rest) (f' :: rest') (i + 1)) :
      i + 1 ∈ places.map (· + 1) := List.mem_map_of_mem (h.complete i hi)
  rcases hfirst with ⟨rfl, hlength⟩ | ⟨ch, rfl, hch⟩
  · refine ⟨places.map (· + 1), hascending, htold, fun p hp => ?_⟩
    cases p with
    | zero =>
      obtain ⟨g, g', hg, hg', hlt⟩ := hp
      cases hg
      cases hg'
      omega
    | succ i => exact hcomplete i hp
  · refine ⟨0 :: places.map (· + 1), ?_, .cons ⟨f, f', rfl, rfl, hch⟩ htold, fun p hp => ?_⟩
    · simpa using hascending
    · cases p with
      | zero => exact List.mem_cons_self
      | succ i => exact List.mem_cons_of_mem _ (hcomplete i hp)

theorem FieldsVisited.reports {r : Except AnnotateError (List FieldChange)}
    (h : FieldsVisited o c rest rest' r) (hr : r = .ok changes) :
    ∃ places, Reports (· < ·) (FieldTellsAt o c rest rest') (FieldGrownAt rest rest') places
      changes := by
  induction h generalizing changes with
  | done =>
    cases hr
    refine ⟨[], .nil, .nil, ?_⟩
    rintro i ⟨f, f', hf, -⟩
    simp at hf
  | stopped => cases hr
  | @next f _ _ annotations change _ hv _ ih =>
    obtain ⟨later, hlater, rfl⟩ := ok_of_map_ok hr
    obtain ⟨places, hplaces⟩ := ih hlater
    obtain ⟨htells, hlength⟩ := hv.tells
    refine hplaces.cons ?_
    cases change with
    | none => exact .inl ⟨rfl, hlength rfl⟩
    | some ch => exact .inr ⟨ch, rfl, htells ch rfl⟩

end Fields

/-! ## The classes of a run -/

section Classes
variable {rest rest' : List Class} {changes later : List FieldChange} {places : List Place}

/-- What is told of some classes is told of them behind one more class. -/
theorem Reports.consClass {c' : Class} {indices : List Nat}
    (h : Reports Place.Before (TellsAt filter o rest rest') (GrownAt rest rest') places later)
    (hfirst : Reports (· < ·) (fun i => TellsAt filter o (c :: rest) (c' :: rest') (0, i))
      (fun i => GrownAt (c :: rest) (c' :: rest') (0, i)) indices changes) :
    Reports Place.Before (TellsAt filter o (c :: rest) (c' :: rest'))
      (GrownAt (c :: rest) (c' :: rest'))
      (indices.map (0, ·) ++ places.map fun p => (p.1 + 1, p.2)) (changes ++ later) where
  ascending := by
    refine List.pairwise_append.2 ⟨?_, ?_, ?_⟩
    · exact List.pairwise_map.2 (hfirst.ascending.imp fun hij => .inr ⟨rfl, hij⟩)
    · refine List.pairwise_map.2 (h.ascending.imp ?_)
      unfold Place.Before
      omega
    · simp only [List.mem_map]
      rintro _ ⟨i, -, rfl⟩ _ ⟨p, -, rfl⟩
      exact .inl (Nat.succ_pos p.1)
  told := List.rel_append (List.forall₂_map_left_iff.2 hfirst.told)
    (List.forall₂_map_left_iff.2 h.told)
  complete := by
    rintro ⟨k, i⟩ hp
    cases k with
    | zero => exact List.mem_append_left _ (List.mem_map_of_mem (hfirst.complete i hp))
    | succ k =>
      have hmem : (k, i) ∈ places := h.complete (k, i) hp
      exact List.mem_append_right _ (List.mem_map.2 ⟨(k, i), hmem, rfl⟩)

theorem Ran.reports {classes after : List Class} {r : Except AnnotateError Report}
    (h : Ran filter o classes after r) {report : Report} (hr : r = .ok report)
    (hdistinct : ∀ c ∈ classes, (c.fields.map (·.name)).Nodup) :
    ∃ places, Reports Place.Before (TellsAt filter o classes after) (GrownAt classes after) places
      report.changes := by
  induction h generalizing report with
  | done =>
    cases hr
    refine ⟨[], .nil, .nil, ?_⟩
    rintro p ⟨f, f', hf, -⟩
    simp [fieldAt?] at hf
  | unscoped | stopped => cases hr
  | @skipped c rest rest' _ _ _ ih =>
    obtain ⟨later, hlater, rfl⟩ := ok_of_map_ok hr
    obtain ⟨places, hplaces⟩ := ih hlater (List.forall_mem_cons.1 hdistinct).2
    -- The class is the same before and after, so that nothing has grown in it.
    refine ⟨_, hplaces.consClass ⟨.nil, .nil, ?_⟩⟩
    rintro i ⟨f, f', hf, hf', hlt⟩
    rw [show f = f' from Option.some.inj (hf.symm.trans hf')] at hlt
    exact absurd hlt (Nat.lt_irrefl _)
  | @visited c _ rest rest' changes _ hs hv _ ih =>
    obtain ⟨later, hlater, rfl⟩ := ok_of_map_ok hr
    obtain ⟨hd, hrest⟩ := List.forall_mem_cons.1 hdistinct
    obtain ⟨places, hplaces⟩ := ih hlater hrest
    obtain ⟨fields, rfl, hfields⟩ := hv.fieldsVisited_all hd
    obtain ⟨indices, hindices⟩ := hfields.reports rfl
    refine ⟨_, hplaces.consClass ⟨hindices.ascending, hindices.told.imp ?_, hindices.complete⟩⟩
    rintro i ch ⟨f, f', hf, hf', htells⟩
    exact ⟨c, f, f', rfl, hs, hf, hf', htells⟩

end Classes

theorem Ran.visited_add_skipped {classes after : List Class} {r : Except AnnotateError Report}
    (h : Ran filter o classes after r) {report : Report} (hr : r = .ok report) :
    report.visited + report.skipped = classes.length := by
  induction h generalizing report with
  | done =>
    cases hr
    rfl
  | unscoped | stopped => cases hr
  | skipped _ _ ih | visited _ _ _ ih =>
    obtain ⟨later, hlater, rfl⟩ := ok_of_map_ok hr
    have hcount := ih hlater
    simp only [Report.afterSkipped, Report.afterVisited, List.length_cons]
    omega

/-- A run without an error over classes with distinct field names visits the classes in scope and
skips all others. Its report tells of fields that are not ignored, in classes that it visits, in the
order of the classes and of the fields in each, of no place twice and of every place where a list of
annotations has grown; each entry holds the names of the class and of the field, and the annotations
that are there before the run and after it. -/
theorem annotate_reports {classes : List Class} {report : Report}
    (hdistinct : ∀ c ∈ classes, (c.fields.map (·.name)).Nodup)
    (h : (annotate filter o classes).result = .ok report) :
    report.visited = (classes.map filter.inScope).countP (· matches .ok true) ∧
    report.visited + report.skipped = classes.length ∧
    ∃ places, Reports Place.Before
      (TellsAt filter o classes (annotate filter o classes).classes)
      (GrownAt classes (annotate filter o classes).classes) places report.changes := by
  have hran := annotate_ran filter o classes
  exact ⟨(hran.counts h).1, hran.visited_add_skipped h, hran.reports h hdistinct⟩

theorem briefClass_reports :
    ∃ report places, (annotate {} Samples.briefOptions [Samples.ignored, Samples.briefClass]).result =
        .ok report ∧ report.visited + report.skipped = 2 ∧
      List.Forall₂ (TellsAt {} Samples.briefOptions [Samples.ignored, Samples.briefClass]
        (annotate {} Samples.briefOptions [Samples.ignored, Samples.briefClass]).classes) places
        report.changes := by
  obtain ⟨report, h⟩ := ok_of_isOk (r := (annotate {} Samples.briefOptions
    [Samples.ignored, Samples.briefClass]).result) (by decide +kernel)
  obtain ⟨-, hcount, places, hplaces⟩ := annotate_reports (by decide) h
  exact ⟨report, places, h, hcount, hplaces.told⟩

end AutoAnnotate
