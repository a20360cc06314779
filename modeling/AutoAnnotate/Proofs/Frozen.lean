import AutoAnnotate.Proofs.Determinism
import AutoAnnotate.Proofs.Preservation
import AutoAnnotate.Samples
/-!
# A frozen class beside its unfrozen copy

The visit of a frozen class goes as the visit of its copy that is not frozen, up to the first field
that gets an annotation there. At that field it is refused, and up to there nothing has changed
(`visitClass_frozen`). The two visits are followed side by side: `Visited.freeze` for a field,
`ClassVisited.freeze` for a class. A field name can be repeated, so that a field is visited again
after the visit has passed it; what was settled then is settled now (`ClassVisited.keeps_before`).
-/

namespace AutoAnnotate

open FieldVisit Visit

/-- Some field of the class `d` has more annotations than the field of `c` in its place. -/
def Gains (c d : Class) : Prop :=
  ∃ p ∈ c.fields.zip d.fields, p.1.annotations.length < p.2.annotations.length

instance (c d : Class) : Decidable (Gains c d) := inferInstanceAs (Decidable (∃ p ∈ _, _))

/-- The field `f` of the class `c` is the first one that has got more annotations in `d`. -/
def FirstGain (c d : Class) (f : Field) : Prop :=
  ∃ before f' rest rest' added, c.fields = before ++ f :: rest ∧ d.fields = before ++ f' :: rest' ∧
    f'.annotations = f.annotations ++ added ∧ added ≠ []

/-- A visit of the field that a name means goes through without adding anything. -/
def Unaffected (o : Options) (c : Class) (name : String) : Prop :=
  ∀ f, c.field? name = some f → ∃ change, Visited o c f f.annotations (.ok change)

variable {o : Options} {c d u : Class} {f : Field} {annotations : List Annotation}

/-! ## Gains -/

theorem not_gains_self (c : Class) : ¬Gains c c := by
  rintro ⟨⟨f, g⟩, hmem, hlt⟩
  have hsame : f = g := List.forall₂_zip (List.forall₂_same.2 fun _ _ => rfl) hmem
  subst hsame
  exact Nat.lt_irrefl _ hlt

theorem FirstGain.gains (h : FirstGain c d f) : Gains c d := by
  obtain ⟨before, f', rest, rest', added, hc, hd, hadded, hne⟩ := h
  refine ⟨(f, f'), ?_, ?_⟩
  · rw [hc, hd, List.zip_append rfl, List.zip_cons_cons]
    exact List.mem_append_right _ List.mem_cons_self
  · show f.annotations.length < f'.annotations.length
    rw [hadded, List.length_append]
    exact Nat.lt_add_of_pos_right (List.length_pos_of_ne_nil hne)

/-- Rules add nothing only if the list names all their kinds. -/
theorem merged_eq_self_iff {before rules : List Annotation} :
    merged before rules = before ↔ Settled before rules := by
  refine ⟨fun h a ha => ?_, merged_of_settled⟩
  rw [← h]
  exact mem_kinds_merged.2 (.inr (List.mem_map_of_mem ha))

/-! ## A field -/

/-- In the frozen class a visit goes as in the copy if it adds nothing there, and is refused
otherwise. -/
theorem FieldVisit.Visited.freeze {r : Except AnnotateError (Option FieldChange)}
    (h : Visited o u f annotations r) (hz : u.frozen = false) :
    (annotations = f.annotations ∧ Visited o u.freeze f f.annotations r) ∨
      annotations ≠ f.annotations ∧
        Visited o u.freeze f f.annotations (.error (.descriptor (.frozen u.name f.name))) := by
  cases h with
  | ignored hi => exact .inl ⟨rfl, .ignored hi⟩
  | inconsistent hi _ hn =>
    by_cases hs : Settled f.annotations (o.annotationsFor f.type)
    · have hsame : (o.typed f).annotations = f.annotations := merged_of_settled hs
      have hv : Visited o u.freeze f (o.typed f).annotations _ := .inconsistent hi (fun _ => hs) hn
      exact .inl ⟨hsame, hsame ▸ hv⟩
    · exact .inr ⟨mt merged_eq_self_iff.1 hs, .refused hi rfl (.inl hs)⟩
  | refused _ hz' =>
    rw [hz] at hz'
    cases hz'
  | @completed n hi hn =>
    by_cases hs : Settled f.annotations (o.rules u f n)
    · have hsame := merged_of_settled hs
      have hv : Visited o u.freeze f (merged f.annotations (o.rules u f n)) (.ok (changeOf u.name
          f.name f.annotations (merged f.annotations (o.rules u f n)))) :=
        .completed hi hn fun _ => hs
      rw [hsame] at hv ⊢
      exact .inl ⟨rfl, hv⟩
    · exact .inr ⟨mt merged_eq_self_iff.1 hs, .refused hi rfl (.inr ⟨n, hn, hs⟩)⟩

/-! ## A class -/

theorem Unaffected.withAnnotations {name : String} (h : Unaffected o c name)
    (hne : name ≠ f.name) : Unaffected o (c.withAnnotations f.name annotations) name := by
  intro g hg
  rw [Class.field?_withAnnotations_of_ne hne] at hg
  obtain ⟨change, hv⟩ := h g hg
  exact ⟨change, hv.withFields _⟩

/-- A visit leaves the unaffected fields at the front of a class as they are. -/
theorem ClassVisited.keeps_before {names : List String}
    {r : Except AnnotateError (List FieldChange)} (h : ClassVisited o c names d r)
    {before rest : List Field} (hfields : c.fields = before ++ rest)
    (hbefore : ∀ g ∈ before, Unaffected o c g.name) : ∃ rest', d.fields = before ++ rest' := by
  have hmodify : ∀ {c : Class} {f : Field} {rest : List Field} {annotations : List Annotation},
      c.fields = before ++ rest → (∀ g ∈ before, g.name ≠ f.name) →
      ∃ rest', (c.withAnnotations f.name annotations).fields = before ++ rest' := by
    intro c f rest annotations hfields hne
    refine ⟨_, (congrArg _ hfields).trans (Class.modifyFirst_append fun g hg => ?_)⟩
    simpa using hne g hg
  induction h generalizing rest with
  | done => exact ⟨rest, hfields⟩
  | stopped hf hv =>
    refine hmodify hfields fun g hg heq => ?_
    -- The visit of an unaffected field goes through.
    obtain ⟨change, hv'⟩ := hbefore g hg _ (heq ▸ hf)
    cases (hv.unique hv').2
  | @next c d f _ _ _ _ hf hv _ ih =>
    by_cases hname : ∃ g ∈ before, g.name = f.name
    · obtain ⟨g, hg, heq⟩ := hname
      obtain ⟨change, hv'⟩ := hbefore g hg f (heq ▸ hf)
      obtain ⟨rfl, -⟩ := hv.unique hv'
      rw [Class.withAnnotations_self hf] at ih
      exact ih hfields hbefore
    · have hne : ∀ g ∈ before, g.name ≠ f.name := fun g hg heq => hname ⟨g, hg, heq⟩
      obtain ⟨rest', hrest⟩ := hmodify hfields hne
      exact ih hrest fun g hg => (hbefore g hg).withAnnotations (hne g hg)

/-- A field to which a visit adds is not one of the unaffected fields at the front, so that it stands
behind them. -/
theorem eq_of_gain {before rest : List Field} {g : Field}
    {r : Except AnnotateError (Option FieldChange)} (hfields : c.fields = before ++ g :: rest)
    (hg : g.name = f.name) (hbefore : ∀ g ∈ before, Unaffected o c g.name)
    (hf : c.field? f.name = some f) (hv : Visited o c f annotations r)
    (hgain : annotations ≠ f.annotations) : g = f ∧ f.name ∉ before.map (·.name) := by
  have hnot : f.name ∉ before.map (·.name) := by
    intro hmem
    obtain ⟨x, hx, hname⟩ := List.mem_map.1 hmem
    obtain ⟨change, hv'⟩ := hbefore x hx f (hname ▸ hf)
    exact hgain (hv.unique hv').1
  have hfirst := Class.field?_of_fields hfields (hg ▸ hnot)
  rw [hg, hf] at hfirst
  exact ⟨(Option.some.inj hfirst).symm, hnot⟩

/-- The visit goes on after the first field to which it adds, and takes nothing back. -/
theorem ClassVisited.firstGain {names : List String} {r : Except AnnotateError (List FieldChange)}
    {before rest : List Field} (hfields : c.fields = before ++ f :: rest)
    (hbefore : ∀ g ∈ before, Unaffected o c g.name) (hnot : f.name ∉ before.map (·.name))
    (hkept : FieldKept o f (f.withAnnotations annotations)) (hgain : annotations ≠ f.annotations)
    (h : ClassVisited o (c.withAnnotations f.name annotations) names d r) : FirstGain c d f := by
  have hstep : (c.withAnnotations f.name annotations).fields =
      before ++ f.withAnnotations annotations :: rest := by
    rw [Class.withAnnotations_of_fields hfields hnot]
  have hbefore' : ∀ g ∈ before, Unaffected o (c.withAnnotations f.name annotations) g.name :=
    fun g hg => (hbefore g hg).withAnnotations (Class.ne_name_of_not_mem hnot hg)
  obtain ⟨behind, hd⟩ := h.keeps_before hstep hbefore'
  have hlater := List.forall₂_drop before.length h.kept.fields
  rw [hstep, hd, List.drop_left, List.drop_left] at hlater
  obtain ⟨f', rest', hf', -, rfl⟩ := List.forall₂_cons_left_iff.1 hlater
  -- What the visit itself has added, and what later visits of the same name have added to it.
  obtain ⟨added, hadded, -⟩ := hkept.annotations
  obtain ⟨more, hmore, -⟩ := hf'.annotations
  rw [Field.withAnnotations_annotations] at hadded hmore
  refine ⟨before, f', rest, rest', added ++ more, hfields, hd, ?_, ?_⟩
  · rw [hmore, hadded, List.append_assoc]
  · intro hnil
    obtain ⟨rfl, -⟩ := List.append_eq_nil_iff.1 hnil
    exact hgain (hadded.trans (List.append_nil _))

/-- A visit that leaves a field as it is goes on in the same class. -/
theorem ClassVisited.next_unchanged {names : List String} {change : Option FieldChange}
    {r : Except AnnotateError (List FieldChange)} (hf : c.field? f.name = some f)
    (hv : Visited o c f f.annotations (.ok change)) (later : ClassVisited o c names d r) :
    ClassVisited o c (f.name :: names) d (r.map (change.toList ++ ·)) :=
  .next hf hv (by rwa [Class.withAnnotations_self hf])

theorem ClassVisited.stopped_unchanged {e : AnnotateError} (hf : c.field? f.name = some f)
    (hv : Visited o c f f.annotations (.error e)) (names : List String) :
    ClassVisited o c (f.name :: names) c (.error e) := by
  have h : ClassVisited o c (f.name :: names) (c.withAnnotations f.name f.annotations) (.error e) :=
    .stopped hf hv
  rwa [Class.withAnnotations_self hf] at h

/-- The visit of a frozen class goes as that of its copy if nothing is added there. Otherwise it is
refused at the first field that gets an annotation there. -/
theorem ClassVisited.freeze {names : List String} {r : Except AnnotateError (List FieldChange)}
    (h : ClassVisited o u names d r) (hz : u.frozen = false) {before rest : List Field}
    (hfields : u.fields = before ++ rest) (hnames : names = rest.map (·.name))
    (hbefore : ∀ g ∈ before, Unaffected o u g.name) :
    (d = u ∧ ClassVisited o u.freeze names u.freeze r) ∨
      ∃ f, FirstGain u d f ∧ ClassVisited o u.freeze names u.freeze
        (.error (.descriptor (.frozen u.name f.name))) := by
  induction h generalizing before rest with
  | done => exact .inl ⟨rfl, .done⟩
  | @stopped u f names annotations e hf hv =>
    have hf' : u.freeze.field? f.name = some f := hf
    obtain ⟨g, rest, rfl, hg, -⟩ := List.map_eq_cons_iff.1 hnames.symm
    rcases hv.freeze hz with ⟨rfl, hv'⟩ | ⟨hgain, hv'⟩
    · exact .inl ⟨Class.withAnnotations_self hf, .stopped_unchanged hf' hv' names⟩
    · obtain ⟨rfl, hnot⟩ := eq_of_gain hfields hg hbefore hf hv hgain
      have hfirst := ClassVisited.firstGain hfields hbefore hnot hv.kept hgain .done
      exact .inr ⟨g, hfirst, .stopped_unchanged hf' hv' names⟩
  | @next u d f names annotations change r hf hv later ih =>
    have hf' : u.freeze.field? f.name = some f := hf
    obtain ⟨g, rest, rfl, hg, hnames⟩ := List.map_eq_cons_iff.1 hnames.symm
    rcases hv.freeze hz with ⟨rfl, hv'⟩ | ⟨hgain, hv'⟩
    · -- Both visits go on in the class they are in, with `g` among the unaffected fields.
      rw [Class.withAnnotations_self hf] at ih
      have hfields' : u.fields = (before ++ [g]) ++ rest := by
        rw [hfields, List.append_assoc, List.singleton_append]
      have hbefore' : ∀ x ∈ before ++ [g], Unaffected o u x.name := by
        refine List.forall_mem_append.2 ⟨hbefore, List.forall_mem_singleton.2 fun x hx => ?_⟩
        rw [hg, hf] at hx
        cases hx
        exact ⟨change, hv⟩
      rcases ih hz hfields' hnames.symm hbefore' with ⟨rfl, hlater⟩ | ⟨x, hx, hlater⟩
      · exact .inl ⟨rfl, .next_unchanged hf' hv' hlater⟩
      · exact .inr ⟨x, hx, .next_unchanged hf' hv' hlater⟩
    · obtain ⟨rfl, hnot⟩ := eq_of_gain hfields hg hbefore hf hv hgain
      have hfirst := later.firstGain hfields hbefore hnot hv.kept hgain
      exact .inr ⟨g, hfirst, .stopped_unchanged hf' hv' names⟩

/-- The visit of a frozen class leaves it as it is. If the visit of its copy that is not frozen adds
nothing, that copy stays as it is, too, and both visits have the same result. Otherwise the visit of
the frozen class is refused at the first field that gets an annotation in the copy. -/
theorem visitClass_frozen (o : Options) {c u : Class} (hc : c.frozen = true)
    (hu : u = { c with frozen := false }) :
    ((visitClass o).run c).cls = c ∧
    (¬Gains u ((visitClass o).run u).cls →
      ((visitClass o).run u).cls = u ∧
        ((visitClass o).run c).result = ((visitClass o).run u).result) ∧
    (Gains u ((visitClass o).run u).cls →
      ∃ f, FirstGain u ((visitClass o).run u).cls f ∧
        ((visitClass o).run c).result = .error (.descriptor (.frozen c.name f.name))) := by
  obtain rfl : c = u.freeze := by rw [hu, Class.freeze, ← hc]
  have hz : u.frozen = false := by rw [hu]
  rcases (visitClass_visited o u).freeze hz (List.nil_append u.fields).symm rfl
    (List.forall_mem_nil _) with ⟨hsame, hv⟩ | ⟨f, hfirst, hv⟩
  · obtain ⟨hcls, hresult⟩ := visitClass_leaves_iff.2 hv
    refine ⟨hcls, fun _ => ⟨hsame, hresult⟩, fun hgains => ?_⟩
    rw [hsame] at hgains
    exact absurd hgains (not_gains_self u)
  · obtain ⟨hcls, hresult⟩ := visitClass_leaves_iff.2 hv
    exact ⟨hcls, fun hnone => absurd hfirst.gains hnone, fun _ => ⟨f, hfirst, hresult⟩⟩

/-- A class with something to add to its fields, and one with nothing to add. -/
theorem briefClass_frozen :
    (∃ f, FirstGain Samples.briefClass
        ((visitClass Samples.briefOptions).run Samples.briefClass).cls f ∧
      ((visitClass Samples.briefOptions).run Samples.briefClass.freeze).result =
        .error (.descriptor (.frozen "Brief" f.name))) ∧
    ((visitClass Samples.briefOptions).run Samples.contradictoryClass.freeze).result =
      ((visitClass Samples.briefOptions).run Samples.contradictoryClass).result := by
  obtain ⟨-, -, hgains⟩ := @visitClass_frozen Samples.briefOptions Samples.briefClass.freeze
    Samples.briefClass rfl rfl
  obtain ⟨-, hnone, -⟩ := @visitClass_frozen Samples.briefOptions Samples.contradictoryClass.freeze
    Samples.contradictoryClass rfl rfl
  exact ⟨hgains (by decide +kernel), (hnone (by decide +kernel)).2⟩

end AutoAnnotate
