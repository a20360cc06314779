import AutoAnnotate.Proofs.Rules
/-!
# What a visit does to a field

While a visit makes sure of one annotation after the other, the field always carries
`merged before rules`, where `before` is what it carried at first and `rules` are the annotations
made sure of so far, and the visit remembers the kinds of `additions before rules`
(`ensure_leaves`). A frozen class lets this happen only as long as there is nothing to add.

`Visited` lists the four ways in which a visit can end, and `visit_leaves` says that every visit
ends in one of them.
-/

namespace AutoAnnotate

namespace Visit

variable {α β : Type} {c d e : Class}

/-- The step takes a class `c` to `d` and has the result `r`. -/
def Leaves (v : Visit α) (c d : Class) (r : Except AnnotateError α) : Prop :=
  (v.run c).cls = d ∧ (v.run c).result = r

theorem Leaves.bind {v : Visit α} {next : α → Visit β} {a : α} {r : Except AnnotateError β}
    (h : v.Leaves c d (.ok a)) (h' : (next a).Leaves d e r) : (v >>= next).Leaves c e r := by
  obtain ⟨rfl, ha⟩ := h
  unfold Leaves
  rw [run_bind, ha]
  exact h'

theorem Leaves.stop {v : Visit α} {x : AnnotateError} (h : v.Leaves c d (.error x))
    (next : α → Visit β) : (v >>= next).Leaves c d (.error x) := by
  obtain ⟨rfl, hx⟩ := h
  unfold Leaves
  rw [run_bind, hx]
  exact ⟨rfl, rfl⟩

theorem leaves_pure (a : α) : (pure a : Visit α).Leaves c c (.ok a) := ⟨rfl, rfl⟩

theorem leaves_current : current.Leaves c c (.ok c) := ⟨rfl, rfl⟩

theorem leaves_tell (event : Event) : (tell event).Leaves c c (.ok ()) := ⟨rfl, rfl⟩

theorem leaves_ofExcept (r : Except AnnotateError α) : (ofExcept r).Leaves c c r := ⟨rfl, rfl⟩

theorem leaves_field {name : String} {f : Field} (h : c.field? name = some f) :
    (field name).Leaves c c (.ok f) := by
  simp [Leaves, field, h]

theorem leaves_change {g : Class → Except MutationError Class} (h : g c = .ok d) :
    (change g).Leaves c d (.ok ()) := by
  simp [Leaves, change, h]

theorem leaves_change_error {g : Class → Except MutationError Class} {x : MutationError}
    (h : g c = .error x) : (change g).Leaves c c (.error (.descriptor x)) := by
  simp [Leaves, change, h]

end Visit

/-! ## Changes of a class -/

namespace Class

variable {c : Class} {f : Field} {name : String} {a : Annotation}

theorem writableField_frozen (hz : c.frozen = true) (name : String) :
    c.writableField name = .error (.frozen c.name name) := by
  rw [writableField, if_pos hz]

theorem writableField_ok (hf : c.field? name = some f) (hz : c.frozen = false) :
    c.writableField name = .ok f := by
  rw [writableField, hz, hf]
  rfl

theorem annotateField_frozen (hz : c.frozen = true) (name : String) (a : Annotation) :
    c.annotateField name a = .error (.frozen c.name name) := by
  rw [annotateField, writableField_frozen hz]
  rfl

theorem annotateField_ok (hf : c.field? name = some f) (hz : c.frozen = false)
    (ha : a.kind ∉ f.annotations.map (·.kind)) :
    c.annotateField name a = .ok (c.withAnnotations name (f.annotations ++ [a])) := by
  have hc : f.carries a.kind = false := carries_eq_false_iff.2 ha
  rw [annotateField, writableField_ok hf hz, ← modifyField_eq_withAnnotations hf (g := (·.attach a)) rfl]
  show (if f.carries a.kind = true then _ else _) = _
  rw [hc]
  rfl

theorem fillAttribute_ok (hf : c.field? name = some f) (hz : c.frozen = false) {kind : String}
    (hk : kind ∈ f.annotations.map (·.kind)) (e : String × Value) :
    (c.fillAttribute name kind e.1 e.2).map Prod.fst = .ok (c.withAnnotations name
      (modifyFirst (·.kind = kind) (·.supply e) f.annotations)) := by
  obtain ⟨a, ha⟩ := annotation?_isSome hk
  have hfirst : f.annotation? kind = some a := ha
  rw [fillAttribute, writableField_ok hf hz]
  simp only [bind, Except.bind, hfirst]
  by_cases he : a.attributes.contains e.1 = true
  · -- The attribute is there, so that nothing changes.
    have hself : modifyFirst (·.kind = kind) (·.supply e) f.annotations = f.annotations := by
      refine modifyFirst_eq_self fun x hx => ?_
      rw [Option.some.inj (hx.symm.trans ha), Annotation.supply, if_pos he]
    rw [hself, withAnnotations_self hf]
    simp [he, Except.map, pure, Except.pure]
  · have hfill : modifyFirst (·.kind = kind) (·.withAttribute e.1 e.2) f.annotations =
        modifyFirst (·.kind = kind) (·.supply e) f.annotations := by
      refine modifyFirst_congr fun x hx => ?_
      rw [Option.some.inj (hx.symm.trans ha), Annotation.supply, if_neg he]
    rw [← modifyField_eq_withAnnotations hf (g := fun g => g.withAnnotations
      (modifyFirst (·.kind = kind) (·.withAttribute e.1 e.2) g.annotations)) (by rw [hfill])]
    simp [he, Except.map, pure, Except.pure, Field.withAnnotations]

end Class

namespace FieldVisit

open Visit
open Annotation (kind_supply kind_completedBy)

/-! ## Making sure of annotations -/

/-- The kinds that a visit has added after making sure of the rules, the last one first. -/
def introducedBy (before rules : List Annotation) : List String :=
  ((additions before rules).map (·.kind)).reverse

theorem mem_introducedBy {before rules : List Annotation} {kind : String} :
    kind ∈ introducedBy before rules ↔
      kind ∈ rules.map (·.kind) ∧ kind ∉ before.map (·.kind) := by
  rw [introducedBy, List.mem_reverse, mem_kinds_additions]

section Ensure
variable {c : Class} {name : String} {f : Field} {before rules : List Annotation} {a : Annotation}

/-- Giving the first annotation of a kind the attributes that it lacks. -/
theorem fill_leaves {kind : String} (hf : c.field? name = some f) (hz : c.frozen = false)
    (hk : kind ∈ f.annotations.map (·.kind)) (es : List (String × Value)) :
    (es.forM fun e => change fun c => (c.fillAttribute name kind e.1 e.2).map Prod.fst).Leaves c
      (c.withAnnotations name (Class.modifyFirst (·.kind = kind)
        (fun a => es.foldl Annotation.supply a) f.annotations)) (.ok ()) := by
  induction es generalizing c f with
  | nil =>
    have hself : Class.modifyFirst (·.kind = kind) (fun a => [].foldl Annotation.supply a)
        f.annotations = f.annotations := Class.modifyFirst_eq_self fun _ _ => rfl
    rw [hself, Class.withAnnotations_self hf]
    exact leaves_pure ()
  | cons e rest ih =>
    -- The first annotation of the kind is the same one for every attribute.
    have hkinds : (Class.modifyFirst (·.kind = kind) (·.supply e) f.annotations).map (·.kind) =
        f.annotations.map (·.kind) := Class.map_modifyFirst (fun x => kind_supply x e) _
    have hrest := ih (Class.field?_withAnnotations hf) hz (hkinds ▸ hk)
    rw [Class.withAnnotations_withAnnotations, Field.withAnnotations_annotations,
      Class.modifyFirst_modifyFirst (fun x => by rw [kind_supply])] at hrest
    exact (leaves_change (Class.fillAttribute_ok hf hz hk e)).bind hrest

/-- One annotation made sure of: the field goes on to carry the merged list, with one rule more. -/
theorem ensure_leaves (hf : c.field? name = some f) (hb : f.annotations = merged before rules)
    (hw : c.frozen = true → a.kind ∈ before.map (·.kind)) :
    (ensure name a (introducedBy before rules)).Leaves c
      (c.withAnnotations name (merged before (rules ++ [a])))
      (.ok (introducedBy before (rules ++ [a]))) := by
  unfold ensure
  refine (leaves_field hf).bind ?_
  by_cases hbefore : a.kind ∈ before.map (·.kind)
  · -- The kind was there before the visit: it is kept.
    have hcarries : f.carries a.kind = true := carries_iff.2 (hb ▸ mem_kinds_merged.2 (.inl hbefore))
    have hnot : a.kind ∉ introducedBy before rules := fun h => (mem_introducedBy.1 h).2 hbefore
    have hmerged : merged before (rules ++ [a]) = f.annotations := by
      rw [hb, merged, merged, additions_concat_of_before hbefore]
    have hintroduced : introducedBy before (rules ++ [a]) = introducedBy before rules := by
      rw [introducedBy, additions_concat_of_before hbefore, introducedBy]
    rw [hmerged, hintroduced, Class.withAnnotations_self hf, hcarries, if_neg (by simp), if_neg hnot]
    exact leaves_current.bind ((leaves_tell _).bind (leaves_pure _))
  have hz : c.frozen = false := Bool.eq_false_iff.2 (mt hw hbefore)
  by_cases hrules : a.kind ∈ rules.map (·.kind)
  · -- The visit itself has added the kind: it is completed.
    have hkind : a.kind ∈ f.annotations.map (·.kind) := hb ▸ mem_kinds_merged.2 (.inr hrules)
    have hcarries : f.carries a.kind = true := carries_iff.2 hkind
    have hskip : ∀ x ∈ before, decide (x.kind = a.kind) = false := fun x hx => by
      simpa using fun heq => hbefore (List.mem_map.2 ⟨x, hx, heq⟩)
    have hmerged : merged before (rules ++ [a]) =
        Class.modifyFirst (·.kind = a.kind) (·.completedBy a) f.annotations := by
      rw [hb, merged, merged, Class.modifyFirst_append hskip, additions_concat_of_again hrules]
    have hintroduced : introducedBy before (rules ++ [a]) = introducedBy before rules := by
      rw [introducedBy, additions_concat_of_again hrules,
        Class.map_modifyFirst fun x => kind_completedBy x a, introducedBy]
    rw [hmerged, hintroduced, hcarries, if_neg (by simp), if_pos (mem_introducedBy.2 ⟨hrules, hbefore⟩)]
    exact (fill_leaves hf hz hkind a.attributes.entries).bind (leaves_pure _)
  · -- The kind is absent: the annotation is added.
    have hkind : a.kind ∉ f.annotations.map (·.kind) := by
      rw [hb, mem_kinds_merged]
      exact not_or.2 ⟨hbefore, hrules⟩
    have hcarries : f.carries a.kind = false := carries_eq_false_iff.2 hkind
    have hmerged : merged before (rules ++ [a]) = f.annotations ++ [a] := by
      rw [hb, merged, merged, additions_concat_of_new hbefore hrules, List.append_assoc]
    have hintroduced : introducedBy before (rules ++ [a]) = a.kind :: introducedBy before rules := by
      rw [introducedBy, additions_concat_of_new hbefore hrules, List.map_append, List.reverse_append]
      rfl
    rw [hmerged, hintroduced, hcarries, if_pos (by simp)]
    exact (leaves_change (Class.annotateField_ok hf hz hkind)).bind (leaves_pure _)

/-- A frozen class refuses the first annotation that it would have to add. -/
theorem ensure_refused (hf : c.field? name = some f) (hz : c.frozen = true)
    (ha : a.kind ∉ f.annotations.map (·.kind)) (introduced : List String) :
    (ensure name a introduced).Leaves c c (.error (.descriptor (.frozen c.name name))) := by
  have hcarries : f.carries a.kind = false := carries_eq_false_iff.2 ha
  unfold ensure
  refine (leaves_field hf).bind ?_
  rw [hcarries, if_pos (by simp)]
  exact (leaves_change_error (Class.annotateField_frozen hz name a)).stop _

/-- Making sure of more annotations, one after the other. -/
theorem ensureAll_leaves (before rules more : List Annotation) (hf : c.field? name = some f)
    (hb : f.annotations = merged before rules) (hw : c.frozen = true → Settled before more) :
    (ensureAll name more (introducedBy before rules)).Leaves c
      (c.withAnnotations name (merged before (rules ++ more)))
      (.ok (introducedBy before (rules ++ more))) := by
  unfold ensureAll
  induction more generalizing c f rules with
  | nil =>
    rw [List.append_nil, ← hb, Class.withAnnotations_self hf]
    exact leaves_pure _
  | cons a rest ih =>
    have hrest := ih (rules ++ [a]) (Class.field?_withAnnotations hf) rfl
      fun hz b hb => hw hz b (List.mem_cons_of_mem _ hb)
    rw [Class.withAnnotations_withAnnotations, List.append_assoc, List.singleton_append] at hrest
    rw [List.foldlM_cons]
    exact (ensure_leaves hf hb fun hz => hw hz a List.mem_cons_self).bind hrest

/-- In a frozen class, a visit that has had nothing to add so far fails at the first annotation that
it would have to add. -/
theorem ensureAll_refused (before rules more : List Annotation) (hf : c.field? name = some f)
    (hz : c.frozen = true) (hb : f.annotations = before) (hs : Settled before rules)
    (hm : ¬Settled before more) :
    (ensureAll name more (introducedBy before rules)).Leaves c c
      (.error (.descriptor (.frozen c.name name))) := by
  unfold ensureAll
  induction more generalizing rules with
  | nil => exact absurd (fun _ h => nomatch h) hm
  | cons a rest ih =>
    rw [List.foldlM_cons]
    by_cases ha : a.kind ∈ before.map (·.kind)
    · -- The kind is there, and the refusal is still to come.
      have hconcat : Settled before (rules ++ [a]) :=
        settled_append.2 ⟨hs, List.forall_mem_singleton.2 ha⟩
      have hstep := ensure_leaves hf (hb.trans (merged_of_settled hs).symm) fun _ => ha
      rw [merged_of_settled hconcat, ← hb, Class.withAnnotations_self hf, hb] at hstep
      refine hstep.bind (ih (rules ++ [a]) hconcat fun hrest => hm ?_)
      exact List.forall_mem_cons.2 ⟨ha, hrest⟩
    · exact (ensure_refused hf hz (hb ▸ ha) _).stop _

/-- Making sure of more annotations either goes through or meets a frozen class. -/
theorem ensureAll_cases (before rules more : List Annotation) (hf : c.field? name = some f)
    (hb : f.annotations = merged before rules) (hs : c.frozen = true → Settled before rules) :
    ((c.frozen = true → Settled before more) ∧
      (ensureAll name more (introducedBy before rules)).Leaves c
        (c.withAnnotations name (merged before (rules ++ more)))
        (.ok (introducedBy before (rules ++ more)))) ∨
    ((c.frozen = true ∧ ¬Settled before more) ∧
      (ensureAll name more (introducedBy before rules)).Leaves c c
        (.error (.descriptor (.frozen c.name name)))) := by
  by_cases hw : c.frozen = true → Settled before more
  · exact .inl ⟨hw, ensureAll_leaves before rules more hf hb hw⟩
  · obtain ⟨hz, hm⟩ := Classical.not_imp.1 hw
    have hb' : f.annotations = before := hb.trans (merged_of_settled (hs hz))
    exact .inr ⟨⟨hz, hm⟩, ensureAll_refused before rules more hf hz hb' (hs hz) hm⟩

end Ensure

/-! ## The ways in which a visit ends -/

/-- The change of a field between two lists of annotations, if they are not equal. -/
def changeOf (cls field : String) (before after : List Annotation) : Option FieldChange :=
  if Annotation.equalList after before then none else some ⟨cls, field, before, after⟩

/-- How a visit of a field of a class can end: with which annotations on the field, and with which
result. -/
inductive Visited (o : Options) (c : Class) (f : Field) :
    List Annotation → Except AnnotateError (Option FieldChange) → Prop
  /-- The field keeps the run away. -/
  | ignored (hi : f.carriesAny o.ignoredFields.toList = true) : Visited o c f f.annotations (.ok none)
  /-- The field gets what its type asks for, and then its markers contradict each other. -/
  | inconsistent {e : AnnotateError} (hi : f.carriesAny o.ignoredFields.toList = false)
      (hw : c.frozen = true → Settled f.annotations (o.annotationsFor f.type))
      (hn : o.resolve c (o.typed f) = .error e) :
      Visited o c f (o.typed f).annotations (.error e)
  /-- The class is frozen and something would have to be added. -/
  | refused (hi : f.carriesAny o.ignoredFields.toList = false) (hz : c.frozen = true)
      (hr : ¬Settled f.annotations (o.annotationsFor f.type) ∨
        ∃ n, o.resolve c (o.typed f) = .ok n ∧ ¬Settled f.annotations (o.rules c f n)) :
      Visited o c f f.annotations (.error (.descriptor (.frozen c.name f.name)))
  /-- The field gets all that is asked of it. -/
  | completed {n : Nullability} (hi : f.carriesAny o.ignoredFields.toList = false)
      (hn : o.resolve c (o.typed f) = .ok n)
      (hw : c.frozen = true → Settled f.annotations (o.rules c f n)) :
      Visited o c f (merged f.annotations (o.rules c f n))
        (.ok (changeOf c.name f.name f.annotations (merged f.annotations (o.rules c f n))))

theorem resolve_withAnnotations (o : Options) (c : Class) (name : String)
    (annotations : List Annotation) (f : Field) :
    o.resolve (c.withAnnotations name annotations) f = o.resolve c f := rfl

/-- The rest of a visit of a field `f`, once it has its validation annotations. -/
def finish (o : Options) (persistent : Bool) (cls : String) (f : Field) (n : Nullability)
    (introduced : List String) : Visit (Option FieldChange) := do
  if persistent && o.jpa.anyEnabled then
    let validated ← Visit.field f.name
    let _ ← ensureAll f.name (columnAnnotations o validated n) introduced
  let after := (← Visit.field f.name).annotations
  if Annotation.equalList after f.annotations then return none
  return some ⟨cls, f.name, f.annotations, after⟩

/-- The rest of a visit of a field `f`, once its nullability is known. -/
def conclude (o : Options) (persistent : Bool) (cls : String) (f : Field) (n : Nullability)
    (introduced : List String) : Visit (Option FieldChange) := do
  let introduced ← ensureAll f.name (validationAnnotations o f.type n) introduced
  finish o persistent cls f n introduced

theorem record_leaves {c : Class} {name : String} {f : Field} (hf : c.field? name = some f)
    (cls : String) (before : List Annotation) :
    (do
      let after := (← Visit.field name).annotations
      if Annotation.equalList after before then return none
      return some ⟨cls, name, before, after⟩ : Visit (Option FieldChange)).Leaves c c
      (.ok (changeOf cls name before f.annotations)) := by
  refine (leaves_field hf).bind ?_
  unfold changeOf
  by_cases h : Annotation.equalList f.annotations before = true
  · rw [if_pos h, if_pos h]
    exact leaves_pure _
  · rw [if_neg h, if_neg h]
    exact leaves_pure _

section Conclude
variable {o : Options} {c : Class} {f : Field} {n : Nullability}

theorem finish_leaves (hf : c.field? f.name = some f)
    (hi : f.carriesAny o.ignoredFields.toList = false) (hn : o.resolve c (o.typed f) = .ok n)
    (hw : c.frozen = true → Settled f.annotations (o.constraintRules f n)) :
    ∃ annotations r, Visited o c f annotations r ∧
      (finish o (o.isPersistent c) c.name f n
        (introducedBy f.annotations (o.constraintRules f n))).Leaves
        (c.withAnnotations f.name (merged f.annotations (o.constraintRules f n)))
        (c.withAnnotations f.name annotations) r := by
  have hf₂ : (c.withAnnotations f.name (merged f.annotations (o.constraintRules f n))).field?
      f.name = some (f.withAnnotations (merged f.annotations (o.constraintRules f n))) :=
    Class.field?_withAnnotations hf
  unfold finish
  cases hc : o.isPersistent c && o.jpa.anyEnabled with
  | false =>
    have hrules : o.rules c f n = o.constraintRules f n := by
      rw [Options.rules, Options.columnRules_eq_nil hc, List.append_nil]
    refine ⟨_, _, .completed hi hn (hrules ▸ hw), ?_⟩
    rw [if_neg (by simp), hrules]
    exact record_leaves hf₂ c.name f.annotations
  | true =>
    have hcolumns := Options.columnAnnotations_eq (Bool.and_eq_true_iff.1 hc).1
      (f.withAnnotations (merged f.annotations (o.constraintRules f n))) n
    rcases ensureAll_cases f.annotations _
      (o.columnRules c (merged f.annotations (o.constraintRules f n)) n) hf₂ rfl hw with
      ⟨hw₃, hcolumn⟩ | ⟨⟨hz, hs⟩, hstop⟩
    case inl =>
      rw [Class.withAnnotations_withAnnotations] at hcolumn
      have hf₃ : (c.withAnnotations f.name (merged f.annotations (o.rules c f n))).field? f.name =
        some (f.withAnnotations (merged f.annotations (o.rules c f n))) :=
        Class.field?_withAnnotations hf
      refine ⟨_, _, .completed hi hn fun hz => settled_append.2 ⟨hw hz, hw₃ hz⟩, ?_⟩
      rw [if_pos rfl]
      refine (leaves_field hf₂).bind ?_
      rw [hcolumns]
      exact hcolumn.bind (record_leaves hf₃ c.name f.annotations)
    case inr =>
      have hrefused : ¬Settled f.annotations (o.rules c f n) := fun h => hs (settled_append.1 h).2
      have hsame : c.withAnnotations f.name (merged f.annotations (o.constraintRules f n)) = c := by
        rw [merged_of_settled (hw hz), Class.withAnnotations_self hf]
      refine ⟨_, _, .refused hi hz (.inr ⟨n, hn, hrefused⟩), ?_⟩
      rw [Class.withAnnotations_self hf, if_pos rfl]
      refine (leaves_field hf₂).bind ?_
      rw [hcolumns]
      rw [hsame] at hstop ⊢
      exact hstop.stop _

theorem conclude_leaves (hf : c.field? f.name = some f)
    (hi : f.carriesAny o.ignoredFields.toList = false) (hn : o.resolve c (o.typed f) = .ok n)
    (hw : c.frozen = true → Settled f.annotations (o.annotationsFor f.type)) :
    ∃ annotations r, Visited o c f annotations r ∧
      (conclude o (o.isPersistent c) c.name f n
        (introducedBy f.annotations (o.annotationsFor f.type))).Leaves
        (c.withAnnotations f.name (o.typed f).annotations)
        (c.withAnnotations f.name annotations) r := by
  have hf₁ : (c.withAnnotations f.name (o.typed f).annotations).field? f.name = some (o.typed f) :=
    Class.field?_withAnnotations hf
  unfold conclude
  rw [Options.validationAnnotations_eq]
  rcases ensureAll_cases f.annotations _ (o.nullabilityRules f.type n) hf₁ rfl hw with
    ⟨hw₂, hvalidated⟩ | ⟨⟨hz, hs⟩, hstop⟩
  case inl =>
    rw [Class.withAnnotations_withAnnotations] at hvalidated
    obtain ⟨annotations, r, hv, hfinish⟩ := finish_leaves hf hi hn fun hz =>
      settled_append.2 ⟨hw hz, hw₂ hz⟩
    exact ⟨annotations, r, hv, hvalidated.bind hfinish⟩
  case inr =>
    have hrefused : ¬Settled f.annotations (o.rules c f n) := fun h =>
      hs (settled_append.1 (settled_append.1 h).1).2
    have hsame : c.withAnnotations f.name (o.typed f).annotations = c := by
      rw [Options.typed, merged_of_settled (hw hz), Field.withAnnotations_self,
        Class.withAnnotations_self hf]
    refine ⟨_, _, .refused hi hz (.inr ⟨n, hn, hrefused⟩), ?_⟩
    rw [hsame] at hstop ⊢
    rw [Class.withAnnotations_self hf]
    exact hstop.stop _

/-- Every visit of a field ends in one of the ways of `Visited`. -/
theorem visit_leaves (o : Options) (hf : c.field? f.name = some f) :
    ∃ annotations r, Visited o c f annotations r ∧
      (visit o (o.isPersistent c) f.name).Leaves c (c.withAnnotations f.name annotations) r := by
  unfold visit
  by_cases hi : f.carriesAny o.ignoredFields.toList = true
  · refine ⟨_, _, .ignored hi, leaves_current.bind ((leaves_field hf).bind ?_)⟩
    rw [if_pos hi, Class.withAnnotations_self hf]
    exact (leaves_tell _).bind (leaves_pure _)
  have hi' : f.carriesAny o.ignoredFields.toList = false := Bool.eq_false_iff.2 hi
  -- What the type asks for.
  rcases ensureAll_cases f.annotations [] (o.annotationsFor f.type) hf (merged_nil _).symm
    fun _ _ h => nomatch h with ⟨hw, htyped⟩ | ⟨⟨hz, hs⟩, hstop⟩
  case inr =>
    refine ⟨_, _, .refused hi' hz (.inl hs), leaves_current.bind ((leaves_field hf).bind ?_)⟩
    rw [if_neg hi, Class.withAnnotations_self hf]
    exact (leaves_tell _).bind (hstop.stop _)
  have hf₁ : (c.withAnnotations f.name (o.typed f).annotations).field? f.name = some (o.typed f) :=
    Class.field?_withAnnotations hf
  cases hn : o.resolve c (o.typed f) with
  | error e =>
    refine ⟨_, _, .inconsistent hi' hw hn, leaves_current.bind ((leaves_field hf).bind ?_)⟩
    rw [if_neg hi]
    refine (leaves_tell _).bind (htyped.bind ((leaves_field hf₁).bind (leaves_current.bind ?_)))
    rw [resolve_withAnnotations, hn]
    exact (leaves_ofExcept _).stop _
  | ok n =>
    obtain ⟨annotations, r, hv, hconclude⟩ := conclude_leaves hf hi' hn hw
    refine ⟨annotations, r, hv, leaves_current.bind ((leaves_field hf).bind ?_)⟩
    rw [if_neg hi]
    refine (leaves_tell _).bind (htyped.bind ((leaves_field hf₁).bind (leaves_current.bind ?_)))
    rw [resolve_withAnnotations, hn]
    exact (leaves_ofExcept _).bind ((leaves_tell _).bind hconclude)

end Conclude

end FieldVisit

end AutoAnnotate
