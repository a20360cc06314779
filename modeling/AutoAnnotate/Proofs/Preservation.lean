import AutoAnnotate.Proofs.Traversal
/-!
# What a run keeps

Whether a run goes through or fails, it only appends: what was on a field stays there as it was, and
what comes behind it is of other kinds. `annotate_keeps` needs neither distinct field names nor
distinct kinds of annotation on a field: a field that is visited again only gains again.
-/

namespace AutoAnnotate

open FieldVisit

/-- The list `after` begins with `before`. The kinds of what follows differ from each other and from
the kinds in `before`. -/
def Extends (before after : List Annotation) : Prop :=
  ∃ added, after = before ++ added ∧ (added.map (·.kind)).Nodup ∧
    ∀ a ∈ added, a.kind ∉ before.map (·.kind)

/-- What a run keeps of a field. -/
structure FieldKept (o : Options) (f f' : Field) : Prop where
  name : f'.name = f.name
  type : f'.type = f.type
  annotations : Extends f.annotations f'.annotations
  ignored : (∃ a ∈ f.annotations, a.kind ∈ o.ignoredFields) → f' = f

/-- What a run keeps of a class. -/
structure ClassKept (o : Options) (c c' : Class) : Prop where
  name : c'.name = c.name
  annotations : c'.annotations = c.annotations
  frozen : c'.frozen = c.frozen
  fields : List.Forall₂ (FieldKept o) c.fields c'.fields

/-! ## Lists that are extended -/

theorem Extends.refl (before : List Annotation) : Extends before before :=
  ⟨[], (List.append_nil before).symm, List.nodup_nil, fun _ h => nomatch h⟩

theorem Extends.trans {before middle after : List Annotation} (h : Extends before middle)
    (h' : Extends middle after) : Extends before after := by
  obtain ⟨added, rfl, hnodup, hnew⟩ := h
  obtain ⟨added', rfl, hnodup', hnew'⟩ := h'
  -- What comes second is new to both the list and what came first.
  have hapart : ∀ a ∈ added', a.kind ∉ before.map (·.kind) ∧ a.kind ∉ added.map (·.kind) := by
    intro a ha
    have hmiddle := hnew' a ha
    rw [List.map_append, List.mem_append] at hmiddle
    exact not_or.1 hmiddle
  refine ⟨added ++ added', List.append_assoc .., ?_, ?_⟩
  · rw [List.map_append, List.nodup_append]
    refine ⟨hnodup, hnodup', fun kind hkind kind' hkind' => ?_⟩
    obtain ⟨a, ha, rfl⟩ := List.mem_map.1 hkind'
    rintro rfl
    exact (hapart a ha).2 hkind
  · intro a ha
    rcases List.mem_append.1 ha with ha | ha
    · exact hnew a ha
    · exact (hapart a ha).1

/-- What rules add never touches what was there. -/
theorem extends_merged (before rules : List Annotation) : Extends before (merged before rules) :=
  ⟨additions before rules, rfl, nodup_kinds_additions,
    fun _ ha => (mem_kinds_additions.1 (List.mem_map_of_mem ha)).2⟩

/-! ## Lists that agree place by place -/

section Places
variable {α β : Type} {R : α → α → Prop} {l l' l'' : List α}

theorem forall₂_trans (hR : ∀ {x y z}, R x y → R y z → R x z) (h : List.Forall₂ R l l')
    (h' : List.Forall₂ R l' l'') : List.Forall₂ R l l'' := by
  induction h generalizing l'' with
  | nil => exact h'
  | cons hx _ ih =>
    cases h' with
    | cons hx' hrest' => exact .cons (hR hx hx') (ih hrest')

/-- Lists that agree place by place in a key list the same keys. -/
theorem map_eq_of_forall₂ {key : α → β} (hkey : ∀ x y, R x y → key y = key x)
    (h : List.Forall₂ R l l') : l'.map key = l.map key := by
  induction h with
  | nil => rfl
  | cons hxy _ ih => rw [List.map_cons, List.map_cons, hkey _ _ hxy, ih]

end Places

/-! ## Fields and classes that are kept -/

section Kept
variable {o : Options} {c c' c'' : Class} {f f' f'' : Field}

theorem FieldKept.refl (o : Options) (f : Field) : FieldKept o f f :=
  ⟨rfl, rfl, .refl f.annotations, fun _ => rfl⟩

theorem FieldKept.trans (h : FieldKept o f f') (h' : FieldKept o f' f'') : FieldKept o f f'' where
  name := h'.name.trans h.name
  type := h'.type.trans h.type
  annotations := h.annotations.trans h'.annotations
  ignored := by
    intro hi
    obtain rfl := h.ignored hi
    exact h'.ignored hi

theorem ClassKept.refl (o : Options) (c : Class) : ClassKept o c c :=
  ⟨rfl, rfl, rfl, List.forall₂_same.2 fun f _ => .refl o f⟩

theorem ClassKept.trans (h : ClassKept o c c') (h' : ClassKept o c' c'') : ClassKept o c c'' where
  name := h'.name.trans h.name
  annotations := h'.annotations.trans h.annotations
  frozen := h'.frozen.trans h.frozen
  fields := forall₂_trans (fun hf hf' => hf.trans hf') h.fields h'.fields

/-- A class keeps what its first field of a name keeps. -/
theorem ClassKept.withAnnotations {annotations : List Annotation} (hf : c.field? f.name = some f)
    (h : FieldKept o f (f.withAnnotations annotations)) :
    ClassKept o c (c.withAnnotations f.name annotations) where
  name := rfl
  annotations := rfl
  frozen := rfl
  fields := by
    refine Class.forall₂_modifyFirst (FieldKept.refl o) fun g hg => ?_
    obtain rfl := Option.some.inj (hf.symm.trans hg)
    exact h

end Kept

/-! ## The steps of a run -/

variable {filter : ClassFilter} {o : Options} {c d : Class}

/-- A field without an ignore marker is kept when rules add to it. -/
theorem fieldKept_merged {f : Field} (hi : f.carriesAny o.ignoredFields.toList = false)
    (rules : List Annotation) : FieldKept o f (f.withAnnotations (merged f.annotations rules)) where
  name := rfl
  type := rfl
  annotations := extends_merged f.annotations rules
  ignored := by
    rintro ⟨a, ha, hkind⟩
    exact absurd hkind (Field.carriesAny_eq_false_iff.1 hi a ha)

/-- A visit of a field keeps it, however it ends. -/
theorem FieldVisit.Visited.kept {f : Field} {annotations : List Annotation}
    {r : Except AnnotateError (Option FieldChange)} (h : Visited o c f annotations r) :
    FieldKept o f (f.withAnnotations annotations) := by
  cases h with
  | ignored | refused => exact .refl o f
  | inconsistent hi | completed hi => exact fieldKept_merged hi _

theorem ClassVisited.kept {names : List String} {r : Except AnnotateError (List FieldChange)}
    (h : ClassVisited o c names d r) : ClassKept o c d := by
  induction h with
  | done => exact .refl o _
  | stopped hf hv => exact .withAnnotations hf hv.kept
  | next hf hv _ ih => exact .trans (.withAnnotations hf hv.kept) ih

theorem Ran.kept {classes after : List Class} {r : Except AnnotateError Report}
    (h : Ran filter o classes after r) :
    List.Forall₂ (fun c c' => ClassKept o c c' ∧ (filter.inScope c ≠ .ok true → c' = c))
      classes after := by
  have hrefl : ∀ c : Class, ClassKept o c c ∧ (filter.inScope c ≠ .ok true → c = c) :=
    fun c => ⟨.refl o c, fun _ => rfl⟩
  induction h with
  | done => exact .nil
  | unscoped => exact List.forall₂_same.2 fun c _ => hrefl c
  | skipped _ _ ih => exact .cons (hrefl _) ih
  | stopped hs hv =>
    exact .cons ⟨hv.kept, fun hout => absurd hs hout⟩ (List.forall₂_same.2 fun c _ => hrefl c)
  | visited hs hv _ ih => exact .cons ⟨hv.kept, fun hout => absurd hs hout⟩ ih

theorem ClassKept.map_name {c c' : Class} (h : ClassKept o c c') :
    c'.fields.map (·.name) = c.fields.map (·.name) :=
  map_eq_of_forall₂ (fun _ _ hf => hf.name) h.fields

/-- Whether a class is in scope is decided by its name and its own annotations. -/
theorem ClassFilter.inScope_congr (filter : ClassFilter) {c c' : Class} (hname : c'.name = c.name)
    (hannotations : c'.annotations = c.annotations) : filter.inScope c' = filter.inScope c := by
  unfold inScope inPackage carriesMarker isIgnored Class.carriesAny
  rw [hname, hannotations]

theorem ClassKept.inScope {c c' : Class} (h : ClassKept o c c') (filter : ClassFilter) :
    filter.inScope c' = filter.inScope c :=
  filter.inScope_congr h.name h.annotations

theorem Ran.map_inScope {classes after : List Class} {r : Except AnnotateError Report}
    (h : Ran filter o classes after r) : after.map filter.inScope = classes.map filter.inScope :=
  map_eq_of_forall₂ (fun _ _ hc => hc.1.inScope filter) h.kept

/-- A run, whether it fails or not, keeps every class, and leaves a class out of scope as it is. -/
theorem annotate_keeps (filter : ClassFilter) (o : Options) (classes : List Class) :
    List.Forall₂ (fun c c' => ClassKept o c c' ∧ (filter.inScope c ≠ .ok true → c' = c))
      classes (annotate filter o classes).classes :=
  (annotate_ran filter o classes).kept

end AutoAnnotate
