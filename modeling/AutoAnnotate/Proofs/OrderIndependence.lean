import AutoAnnotate.Proofs.Agreement
import AutoAnnotate.Proofs.Determinism
import AutoAnnotate.Samples
/-!
# Runs that agree

Two runs whose options agree, over classes that agree, go side by side: step for step they leave
classes that agree, and both fail with the same error or neither does (`Ran.agree`). With equality as
the relation between values, only orders differ: neither the order of the types in the policy nor
that of attributes shows in what a run does (`annotate_order_irrelevant`).
-/

namespace AutoAnnotate

open FieldVisit

/-- Both fail with the same error, or both go through with results that are related. -/
inductive ResultAgree {ε α β : Type} (S : α → β → Prop) : Except ε α → Except ε β → Prop
  | error (e : ε) : ResultAgree S (.error e) (.error e)
  | ok {x : α} {y : β} (h : S x y) : ResultAgree S (.ok x) (.ok y)

structure FieldChange.Agree (R : Value → Value → Prop) (ch ch' : FieldChange) : Prop where
  cls : ch.cls = ch'.cls
  field : ch.field = ch'.field
  before : AgreeAll R ch.before ch'.before
  after : AgreeAll R ch.after ch'.after

structure Report.Agree (R : Value → Value → Prop) (r s : Report) : Prop where
  visited : r.visited = s.visited
  skipped : r.skipped = s.skipped
  changes : List.Forall₂ (FieldChange.Agree R) r.changes s.changes

theorem ResultAgree.map {ε α β γ δ : Type} {S : α → β → Prop} {T : γ → δ → Prop} {r : Except ε α}
    {s : Except ε β} {k : α → γ} {k' : β → δ} (h : ResultAgree S r s)
    (hk : ∀ x y, S x y → T (k x) (k' y)) : ResultAgree T (r.map k) (s.map k') := by
  cases h with
  | error e => exact .error e
  | ok hxy => exact .ok (hk _ _ hxy)

variable {R : Value → Value → Prop} {o p : Options} {c d : Class} {f g : Field}

/-! ## A field -/

theorem changeOf_agree (hR : RespectsEqual R) (cls field : String)
    {before before' after after' : List Annotation} (hbefore : AgreeAll R before before')
    (hafter : AgreeAll R after after') :
    Option.Rel (FieldChange.Agree R) (changeOf cls field before after)
      (changeOf cls field before' after') := by
  unfold changeOf
  rw [equalList_congr hR hafter hbefore]
  split
  · exact .none
  · exact .some ⟨rfl, rfl, hbefore, hafter⟩

/-- Where related values are not always equal to the same values, the visits can still differ in
whether they report a change. -/
theorem FieldVisit.Visited.agree (hR : KeepsIntegers R) (ho : o.Agree R p) (hc : c.Agree R d)
    (hf : f.Agree R g) {annotations : List Annotation}
    {r : Except AnnotateError (Option FieldChange)} (h : Visited o c f annotations r) :
    ∃ annotations' r', Visited p d g annotations' r' ∧ AgreeAll R annotations annotations' ∧
      ResultAgree (fun ch ch' => RespectsEqual R → Option.Rel (FieldChange.Agree R) ch ch') r r' := by
  have hignored : f.carriesAny o.ignoredFields.toList = g.carriesAny p.ignoredFields.toList := by
    rw [hf.carriesAny, ho.ignoredFields]
  have hresolve : o.resolve c (o.typed f) = p.resolve d (p.typed g) :=
    ho.resolve hc (ho.typed hf)
  have htype : Settled f.annotations (o.annotationsFor f.type) ↔
      Settled g.annotations (p.annotationsFor g.type) := by
    rw [hf.type]
    exact settled_congr hf.annotations.kinds (ho.annotationsFor g.type).kinds
  have hrules (n : Nullability) : Settled f.annotations (o.rules c f n) ↔
      Settled g.annotations (p.rules d g n) :=
    settled_congr hf.annotations.kinds (ho.rules hR hc hf n).kinds
  -- Each way in which the first visit can end is open to the second one.
  cases h with
  | ignored hi => exact ⟨_, _, .ignored (hignored ▸ hi), hf.annotations, .ok fun _ => .none⟩
  | @inconsistent e hi hw hn =>
    refine ⟨_, _, .inconsistent (hignored ▸ hi) ?_ (hresolve ▸ hn), (ho.typed hf).annotations,
      .error e⟩
    exact fun hz => htype.1 (hw (hc.frozen.trans hz))
  | refused hi hz hr =>
    have hrefused : Visited p d g g.annotations (.error (.descriptor (.frozen d.name g.name))) := by
      refine .refused (hignored ▸ hi) (hc.frozen ▸ hz) ?_
      rwa [← htype, ← hresolve, ← exists_congr fun n => and_congr_right' (not_congr (hrules n))]
    rw [hc.name, hf.name]
    exact ⟨_, _, hrefused, hf.annotations, .error _⟩
  | @completed n hi hn hw =>
    have hafter := merged_agree hf.annotations (ho.rules hR hc hf n)
    refine ⟨_, _, .completed (hignored ▸ hi) (hresolve ▸ hn) ?_, hafter, .ok fun hequal => ?_⟩
    · exact fun hz => (hrules n).1 (hw (hc.frozen.trans hz))
    · rw [hc.name, hf.name]
      exact changeOf_agree hequal _ _ hf.annotations hafter

/-! ## A class -/

theorem Class.Agree.field? (h : c.Agree R d) {name : String} (hf : c.field? name = some f) :
    ∃ g, d.field? name = some g ∧ f.Agree R g := by
  have hfound : Option.Rel (Field.Agree R) (c.field? name) (d.field? name) :=
    rel_find? h.fields fun f g hfg => by rw [hfg.name]
  rw [hf] at hfound
  generalize d.field? name = found at hfound
  cases hfound with
  | some hfg => exact ⟨_, rfl, hfg⟩

theorem Class.Agree.withAnnotations (h : c.Agree R d) {l l' : List Annotation}
    (hl : AgreeAll R l l') (name : String) :
    (c.withAnnotations name l).Agree R (d.withAnnotations name l') where
  name := h.name
  annotations := h.annotations
  frozen := h.frozen
  fields := by
    show List.Forall₂ (Field.Agree R) (Class.modifyFirst (·.name = name) (·.withAnnotations l)
      c.fields) (Class.modifyFirst (·.name = name) (·.withAnnotations l') d.fields)
    have hfields := h.fields
    generalize c.fields = fields, d.fields = fields' at hfields
    induction hfields with
    | nil => exact .nil
    | @cons f g _ _ hfg hrest ih =>
      by_cases hname : f.name = name
      · rw [modifyFirst_cons_of_pos (by simpa using hname),
          modifyFirst_cons_of_pos (by simpa [← hfg.name] using hname)]
        exact .cons (hfg.withAnnotations hl) hrest
      · simp only [modifyFirst, ← hfg.name, hname, decide_false, Bool.false_eq_true, if_false]
        exact .cons hfg ih

theorem ClassVisited.agree (hR : KeepsIntegers R) (ho : o.Agree R p) {c' : Class}
    {names : List String} {r : Except AnnotateError (List FieldChange)}
    (h : ClassVisited o c names c' r) (hc : c.Agree R d) :
    ∃ d' r', ClassVisited p d names d' r' ∧ c'.Agree R d' ∧
      ResultAgree (fun l l' => RespectsEqual R → List.Forall₂ (FieldChange.Agree R) l l') r r' := by
  induction h generalizing d with
  | done => exact ⟨d, _, .done, hc, .ok fun _ => .nil⟩
  | @stopped c f _ _ e hf hv =>
    obtain ⟨g, hg, hfg⟩ := hc.field? hf
    obtain ⟨annotations', r', hv', hagree, hr⟩ := hv.agree hR ho hc hfg
    cases hr
    rw [hfg.name] at hg ⊢
    exact ⟨_, _, .stopped hg hv', hc.withAnnotations hagree _, .error e⟩
  | @next c _ f _ _ _ _ hf hv _ ih =>
    obtain ⟨g, hg, hfg⟩ := hc.field? hf
    obtain ⟨annotations', r', hv', hagree, hr⟩ := hv.agree hR ho hc hfg
    cases hr with
    | ok hchange =>
      rw [hfg.name] at hg ih ⊢
      obtain ⟨d', r', hlater, hd', hresult⟩ := ih (hc.withAnnotations hagree _)
      refine ⟨d', _, .next hg hv' hlater, hd', hresult.map fun l l' hl hequal => ?_⟩
      refine List.rel_append ?_ (hl hequal)
      cases hchange hequal with
      | none => exact .nil
      | some hch => exact .cons hch .nil

/-! ## A run -/

theorem Class.Agree.inScope (h : c.Agree R d) (filter : ClassFilter) :
    filter.inScope d = filter.inScope c :=
  filter.inScope_congr h.name.symm h.annotations.symm

theorem Class.Agree.map_name (h : c.Agree R d) :
    c.fields.map (·.name) = d.fields.map (·.name) :=
  (map_eq_of_forall₂ (fun _ _ hfg => hfg.name.symm) h.fields).symm

theorem Ran.agree (hR : KeepsIntegers R) (ho : o.Agree R p) {filter : ClassFilter}
    {classes after classes' : List Class} {r : Except AnnotateError Report}
    (h : Ran filter o classes after r) (hc : List.Forall₂ (Class.Agree R) classes classes') :
    ∃ after' r', Ran filter p classes' after' r' ∧
      List.Forall₂ (Class.Agree R) after after' ∧
      ResultAgree (fun s s' => RespectsEqual R → Report.Agree R s s') r r' := by
  induction h generalizing classes' with
  | done =>
    cases hc
    exact ⟨[], _, .done, .nil, .ok fun _ => ⟨rfl, rfl, .nil⟩⟩
  | unscoped hs =>
    obtain ⟨d, rest', hd, hrest, rfl⟩ := List.forall₂_cons_left_iff.1 hc
    exact ⟨_, _, .unscoped ((hd.inScope filter).trans hs), hc, .error _⟩
  | skipped hs _ ih =>
    obtain ⟨d, rest', hd, hrest, rfl⟩ := List.forall₂_cons_left_iff.1 hc
    obtain ⟨after', r', hlater, hafter, hresult⟩ := ih hrest
    refine ⟨_, _, .skipped ((hd.inScope filter).trans hs) hlater, .cons hd hafter,
      hresult.map fun s s' hss hequal => ?_⟩
    obtain ⟨hvisited, hskipped, hchanges⟩ := hss hequal
    exact ⟨hvisited, congrArg (· + 1) hskipped, hchanges⟩
  | stopped hs hv =>
    obtain ⟨d, rest', hd, hrest, rfl⟩ := List.forall₂_cons_left_iff.1 hc
    rw [hd.map_name] at hv
    obtain ⟨d', r', hv', hd', hresult⟩ := hv.agree hR ho hd
    cases hresult
    exact ⟨_, _, .stopped ((hd.inScope filter).trans hs) hv', .cons hd' hrest, .error _⟩
  | visited hs hv _ ih =>
    obtain ⟨d, rest', hd, hrest, rfl⟩ := List.forall₂_cons_left_iff.1 hc
    rw [hd.map_name] at hv
    obtain ⟨d', r', hv', hd', hresult⟩ := hv.agree hR ho hd
    obtain ⟨after', s', hlater, hafter, hreport⟩ := ih hrest
    cases hresult with
    | ok hchanges =>
      refine ⟨_, _, .visited ((hd.inScope filter).trans hs) hv' hlater, .cons hd' hafter,
        hreport.map fun s s' hss hequal => ?_⟩
      obtain ⟨hvisited, hskipped, hlist⟩ := hss hequal
      exact ⟨congrArg (· + 1) hvisited, hskipped, List.rel_append (hchanges hequal) hlist⟩

theorem annotate_agree (hR : KeepsIntegers R) (ho : o.Agree R p) (filter : ClassFilter)
    (classes : List Class) :
    List.Forall₂ (Class.Agree R) (annotate filter o classes).classes
        (annotate filter p classes).classes ∧
      ResultAgree (fun s s' => RespectsEqual R → Report.Agree R s s')
        (annotate filter o classes).result (annotate filter p classes).result := by
  have hsame : List.Forall₂ (Class.Agree R) classes classes :=
    List.forall₂_same.2 fun c _ => .refl hR.refl c
  obtain ⟨after', r', hran, hafter, hresult⟩ := (annotate_ran filter o classes).agree hR ho hsame
  obtain ⟨rfl, rfl⟩ := annotate_iff.2 hran
  exact ⟨hafter, hresult⟩

/-- With options that differ only in the order of the types in the policy and in the order of
attributes, a run leaves the same annotations with the same attributes on every field, fails with the
same error or not at all, visits and skips as many classes, and reports the same changes. -/
theorem annotate_order_irrelevant (ho : o.Agree Eq p) (filter : ClassFilter)
    (classes : List Class) :
    List.Forall₂ (Class.Agree Eq) (annotate filter o classes).classes
        (annotate filter p classes).classes ∧
      ResultAgree (Report.Agree Eq) (annotate filter o classes).result
        (annotate filter p classes).result := by
  obtain ⟨hclasses, hresult⟩ := annotate_agree keepsIntegers_eq ho filter classes
  refine ⟨hclasses, ?_⟩
  generalize (annotate filter o classes).result = r, (annotate filter p classes).result = s at hresult
  cases hresult with
  | error e => exact .error e
  | ok hreport => exact .ok (hreport respectsEqual_eq)

/-- Whichever way the options are ordered, a policy and a rule for texts of two attributes give the
same fields. -/
theorem twoWayOptions_run_alike :
    Samples.twoWayOptions false ≠ Samples.twoWayOptions true ∧
      (Samples.twoWayOptions false).Agree Eq (Samples.twoWayOptions true) ∧
      List.Forall₂ (Class.Agree Eq)
        (annotate {} (Samples.twoWayOptions false) [Samples.briefClass]).classes
        (annotate {} (Samples.twoWayOptions true) [Samples.briefClass]).classes ∧
      ResultAgree (Report.Agree Eq)
        (annotate {} (Samples.twoWayOptions false) [Samples.briefClass]).result
        (annotate {} (Samples.twoWayOptions true) [Samples.briefClass]).result := by
  exact ⟨by decide, Samples.twoWayOptions_agree,
    annotate_order_irrelevant Samples.twoWayOptions_agree {} [Samples.briefClass]⟩

end AutoAnnotate
