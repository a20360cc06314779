import AutoAnnotate.Samples
import AutoAnnotate.Proofs.FieldVisit
import AutoAnnotate.Proofs.Preservation
/-!
# What a class lets happen to it

A class is asked to annotate a field, to fill in an attribute, or to freeze. `Outcome` lists what can
come of such a call, the refusals in the order in which they are checked, and `Call.run_eq_iff` says
that a call ends exactly as listed. In every case the class has only grown (`Grown`), and so it has
after any number of calls (`Call.run_only_extends`). The names of fields and the kinds on a field may
repeat.
-/

namespace AutoAnnotate

namespace Class

/-- A change that is asked of a class. -/
inductive Call where
  | annotate (field : String) (a : Annotation)
  | fill (field kind name : String) (value : Value)
  | freeze

namespace Call

/-- The field that a call wants to change. -/
def field? : Call → Option String
  | .annotate field _ | .fill field _ _ _ => some field
  | .freeze => none

/-- What a class makes of a call. The flag is false if the attribute to be filled in was there. -/
def attempt (c : Class) : Call → Except MutationError (Class × Bool)
  | .annotate field a => (c.annotateField field a).map (·, true)
  | .fill field kind name value => c.fillAttribute field kind name value
  | .freeze => .ok (c.freeze, true)

/-- The class after a call, and its answer. -/
def run (c : Class) (call : Call) : Class × Except MutationError Bool :=
  match call.attempt c with
  | .ok (d, changed) => (d, .ok changed)
  | .error e => (c, .error e)

/-- The class after several calls, whatever it has answered. -/
def runAll (c : Class) (calls : List Call) : Class := calls.foldl (fun c call => (call.run c).1) c

end Call

/-- What can come of a call: the class afterwards, and its answer. -/
inductive Outcome (c : Class) : Call → Class → Except MutationError Bool → Prop
  | frozen {call : Call} {field : String} (hcall : call.field? = some field)
      (hz : c.frozen = true) : Outcome c call c (.error (.frozen c.name field))
  | fieldNotFound {call : Call} {field : String} (hcall : call.field? = some field)
      (hz : c.frozen = false) (hf : field ∉ c.fields.map (·.name)) :
      Outcome c call c (.error (.fieldNotFound c.name field))
  | alreadyAnnotated {field : String} {f : Field} {a : Annotation} (hz : c.frozen = false)
      (hf : c.field? field = some f) (ha : a.kind ∈ f.annotations.map (·.kind)) :
      Outcome c (.annotate field a) c (.error (.alreadyAnnotated c.name field a.kind))
  | annotationNotFound {field kind name : String} {f : Field} {value : Value}
      (hz : c.frozen = false) (hf : c.field? field = some f)
      (ha : kind ∉ f.annotations.map (·.kind)) :
      Outcome c (.fill field kind name value) c (.error (.annotationNotFound c.name field kind))
  /-- The first field of the name gets one annotation more. -/
  | attached {before rest : List Field} {f : Field} {a : Annotation} (hz : c.frozen = false)
      (hf : c.fields = before ++ f :: rest) (hbefore : f.name ∉ before.map (·.name))
      (ha : a.kind ∉ f.annotations.map (·.kind)) :
      Outcome c (.annotate f.name a)
        { c with fields := before ++ f.withAnnotations (f.annotations ++ [a]) :: rest } (.ok true)
  | present {field kind name : String} {f : Field} {a : Annotation} {value : Value}
      (hz : c.frozen = false) (hf : c.field? field = some f)
      (ha : f.annotation? kind = some a) (hname : a.attributes.contains name = true) :
      Outcome c (.fill field kind name value) c (.ok false)
  /-- The first annotation of the kind on the first field of the name gets one attribute more. -/
  | filled {before rest : List Field} {f : Field} {earlier later : List Annotation}
      {a a' : Annotation} {name : String} {value : Value} (hz : c.frozen = false)
      (hf : c.fields = before ++ f :: rest) (hbefore : f.name ∉ before.map (·.name))
      (ha : f.annotations = earlier ++ a :: later) (hearlier : a.kind ∉ earlier.map (·.kind))
      (hname : a.attributes.contains name = false) (hkind : a'.kind = a.kind)
      (hentries : a'.attributes.entries = a.attributes.entries ++ [(name, value)]) :
      Outcome c (.fill f.name a.kind name value)
        { c with fields := before ++ f.withAnnotations (earlier ++ a' :: later) :: rest } (.ok true)
  | froze : Outcome c .freeze { c with frozen := true } (.ok true)

/-! ## How a call ends -/

section Calls
variable {c d : Class} {call : Call} {field kind name : String} {f : Field} {a : Annotation}
  {value : Value} {r : Except MutationError Bool}

theorem Call.run_of_error {e : MutationError} (h : call.attempt c = .error e) :
    call.run c = (c, .error e) := by
  rw [run, h]

theorem Call.run_of_ok {changed : Bool} (h : call.attempt c = .ok (d, changed)) :
    call.run c = (d, .ok changed) := by
  rw [run, h]

theorem writableField_fieldNotFound (hz : c.frozen = false) (hf : field ∉ c.fields.map (·.name)) :
    c.writableField field = .error (.fieldNotFound c.name field) := by
  have hnone : c.field? field = none := find?_eq_none_iff_key.2 hf
  rw [writableField, hz, hnone]
  rfl

/-- A call for a field that cannot be written fails as the search for the field does. -/
theorem Call.attempt_of_writableField_error {e : MutationError} (hcall : call.field? = some field)
    (h : c.writableField field = .error e) : call.attempt c = .error e := by
  cases call with
  | freeze => cases hcall
  | annotate =>
    cases hcall
    rw [attempt, annotateField, h]
    rfl
  | fill =>
    cases hcall
    rw [attempt, fillAttribute, h]
    rfl

theorem Outcome.run_eq (h : Outcome c call d r) : call.run c = (d, r) := by
  cases h with
  | frozen hcall hz =>
    exact Call.run_of_error (Call.attempt_of_writableField_error hcall (writableField_frozen hz _))
  | fieldNotFound hcall hz hf =>
    exact Call.run_of_error
      (Call.attempt_of_writableField_error hcall (writableField_fieldNotFound hz hf))
  | @alreadyAnnotated _ f a hz hf ha =>
    have hcarries : f.carries a.kind = true := carries_iff.2 ha
    apply Call.run_of_error
    rw [Call.attempt, annotateField, writableField_ok hf hz]
    simp only [bind, Except.bind, hcarries]
    rfl
  | @annotationNotFound _ kind _ f _ hz hf ha =>
    have hnone : f.annotation? kind = none := find?_eq_none_iff_key.2 ha
    apply Call.run_of_error
    rw [Call.attempt, fillAttribute, writableField_ok hf hz]
    simp only [bind, Except.bind, hnone]
    rfl
  | attached hz hf hbefore ha =>
    apply Call.run_of_ok
    rw [Call.attempt, annotateField_ok (field?_of_fields hf hbefore) hz ha,
      withAnnotations_of_fields hf hbefore]
    rfl
  | present hz hf ha hname =>
    apply Call.run_of_ok
    rw [Call.attempt, fillAttribute, writableField_ok hf hz]
    simp only [bind, Except.bind, ha, hname]
    rfl
  | @filled _ _ f earlier later a a' name value hz hf hbefore ha hearlier hname hkind hentries =>
    have hfirst : f.annotation? a.kind = some a := by
      unfold Field.annotation? AutoAnnotate.annotation?
      rw [ha, find?_first Annotation.kind hearlier]
    have hfill : a.withAttribute name value = a' :=
      Annotation.ext hkind.symm
        ((OrderedMap.entries_insert_of_not_contains value hname).trans hentries.symm)
    apply Call.run_of_ok
    rw [Call.attempt, fillAttribute, writableField_ok (field?_of_fields hf hbefore) hz]
    simp only [bind, Except.bind, hfirst, hname]
    rw [← withAnnotations_of_fields hf hbefore, ← modifyField_eq_withAnnotations
      (field?_of_fields hf hbefore) (g := fun g => g.withAnnotations
        (modifyFirst (·.kind = a.kind) (·.withAttribute name value) g.annotations))
      (by rw [ha, modifyFirst_first Annotation.kind hearlier, hfill])]
    rfl
  | froze => rfl

theorem frozen_or_field (c : Class) (field : String) :
    c.frozen = true ∨ c.frozen = false ∧
      (field ∉ c.fields.map (·.name) ∨ ∃ f, c.field? field = some f) := by
  cases hz : c.frozen with
  | true =>
    left
    rfl
  | false =>
    right
    by_cases hf : field ∈ c.fields.map (·.name)
    · exact ⟨rfl, .inr (field?_isSome hf)⟩
    · exact ⟨rfl, .inl hf⟩

theorem exists_outcome (c : Class) (call : Call) : ∃ d r, Outcome c call d r := by
  cases call with
  | freeze => exact ⟨_, _, .froze⟩
  | annotate field a =>
    rcases c.frozen_or_field field with hz | ⟨hz, hnone | ⟨f, hf⟩⟩
    · exact ⟨c, _, .frozen rfl hz⟩
    · exact ⟨c, _, .fieldNotFound rfl hz hnone⟩
    by_cases ha : a.kind ∈ f.annotations.map (·.kind)
    · exact ⟨c, _, .alreadyAnnotated hz hf ha⟩
    · obtain ⟨rfl, before, rest, hfields, hbefore⟩ := exists_first hf
      exact ⟨_, _, .attached hz hfields hbefore ha⟩
  | fill field kind name value =>
    rcases c.frozen_or_field field with hz | ⟨hz, hnone | ⟨f, hf⟩⟩
    · exact ⟨c, _, .frozen rfl hz⟩
    · exact ⟨c, _, .fieldNotFound rfl hz hnone⟩
    by_cases ha : kind ∈ f.annotations.map (·.kind)
    · obtain ⟨a, hfirst⟩ := annotation?_isSome ha
      cases hname : a.attributes.contains name with
      | true => exact ⟨c, _, .present hz hf hfirst hname⟩
      | false =>
        obtain ⟨rfl, before, rest, hfields, hbefore⟩ := exists_first hf
        obtain ⟨rfl, earlier, later, hannotations, hearlier⟩ := exists_first hfirst
        have hkind : (a.withAttribute name value).kind = a.kind := rfl
        have hentries : (a.withAttribute name value).attributes.entries =
            a.attributes.entries ++ [(name, value)] :=
          OrderedMap.entries_insert_of_not_contains value hname
        exact ⟨_, _, .filled hz hfields hbefore hannotations hearlier hname hkind hentries⟩
    · exact ⟨c, _, .annotationNotFound hz hf ha⟩

/-- `Outcome` lists neither more nor less than what can come of a call. -/
theorem Call.run_eq_iff : call.run c = (d, r) ↔ Outcome c call d r := by
  refine ⟨?_, Outcome.run_eq⟩
  intro h
  obtain ⟨d', r', hd⟩ := exists_outcome c call
  obtain ⟨rfl, rfl⟩ := Prod.mk.inj (h.symm.trans hd.run_eq)
  exact hd

end Calls

end Class

/-! ## Growth -/

/-- What an annotation keeps: its kind and its attributes, which others can follow. -/
structure Annotation.Grown (a b : Annotation) : Prop where
  kind : b.kind = a.kind
  attributes : a.attributes.entries <+: b.attributes.entries

/-- What a field keeps: its annotations in their places, which others can follow. -/
structure Field.Grown (f g : Field) : Prop where
  name : g.name = f.name
  type : g.type = f.type
  annotations : ∀ (i : Nat) (a : Annotation), f.annotations[i]? = some a →
    ∃ b, g.annotations[i]? = some b ∧ a.Grown b
  distinct : (f.annotations.map (·.kind)).Nodup → (g.annotations.map (·.kind)).Nodup

/-- What a class keeps: all but the annotations on its fields and, unless it is frozen, its flag. -/
structure Class.Grown (c d : Class) : Prop where
  name : d.name = c.name
  annotations : d.annotations = c.annotations
  fields : List.Forall₂ Field.Grown c.fields d.fields
  frozen : c.frozen = true → d = c

section Growth
variable {a b : Annotation} {f g h : Field} {c d e : Class}

theorem Annotation.Grown.refl (a : Annotation) : a.Grown a := ⟨rfl, List.prefix_rfl⟩

theorem Annotation.Grown.trans {x : Annotation} (hab : a.Grown b) (hbx : b.Grown x) : a.Grown x :=
  ⟨hbx.kind.trans hab.kind, hab.attributes.trans hbx.attributes⟩

theorem Field.Grown.refl (f : Field) : f.Grown f :=
  ⟨rfl, rfl, fun _ a ha => ⟨a, ha, .refl a⟩, id⟩

theorem Field.Grown.trans (hfg : f.Grown g) (hgh : g.Grown h) : f.Grown h where
  name := hgh.name.trans hfg.name
  type := hgh.type.trans hfg.type
  annotations := by
    intro i a ha
    obtain ⟨b, hb, hab⟩ := hfg.annotations i a ha
    obtain ⟨x, hx, hbx⟩ := hgh.annotations i b hb
    exact ⟨x, hx, hab.trans hbx⟩
  distinct := fun hf => hgh.distinct (hfg.distinct hf)

theorem Class.Grown.refl (c : Class) : c.Grown c :=
  ⟨rfl, rfl, List.forall₂_same.2 fun f _ => .refl f, fun _ => rfl⟩

theorem Class.Grown.trans (hcd : c.Grown d) (hde : d.Grown e) : c.Grown e where
  name := hde.name.trans hcd.name
  annotations := hde.annotations.trans hcd.annotations
  fields := forall₂_trans (fun hfg hgh => hfg.trans hgh) hcd.fields hde.fields
  frozen := by
    intro hz
    obtain rfl := hcd.frozen hz
    exact hde.frozen hz

theorem Field.grown_append (ha : a.kind ∉ f.annotations.map (·.kind)) :
    f.Grown (f.withAnnotations (f.annotations ++ [a])) where
  name := rfl
  type := rfl
  annotations := by
    intro i x hx
    obtain ⟨hi, -⟩ := List.getElem?_eq_some_iff.1 hx
    exact ⟨x, (List.getElem?_append_left hi).trans hx, .refl x⟩
  distinct := by
    intro hf
    rw [withAnnotations_annotations, List.map_append, List.map_singleton]
    exact List.nodup_append.2 ⟨hf, by simp, by simpa using ha⟩

theorem Field.grown_replace {earlier later : List Annotation}
    (hf : f.annotations = earlier ++ a :: later) (hab : a.Grown b) :
    f.Grown (f.withAnnotations (earlier ++ b :: later)) where
  name := rfl
  type := rfl
  annotations := by
    intro i x hx
    rw [hf] at hx
    rw [withAnnotations_annotations]
    rcases Nat.lt_trichotomy i earlier.length with hi | rfl | hi
    · rw [List.getElem?_append_left hi] at hx ⊢
      exact ⟨x, hx, .refl x⟩
    · simp only [List.getElem?_append_right (Nat.le_refl _), Nat.sub_self,
        List.getElem?_cons_zero] at hx ⊢
      obtain rfl := Option.some.inj hx
      exact ⟨b, rfl, hab⟩
    · obtain ⟨k, rfl⟩ : ∃ k, i = earlier.length + (k + 1) := ⟨i - earlier.length - 1, by omega⟩
      simp only [List.getElem?_append_right (Nat.le_add_right _ _), Nat.add_sub_cancel_left,
        List.getElem?_cons_succ] at hx ⊢
      exact ⟨x, hx, .refl x⟩
  distinct := by
    intro hdistinct
    rw [hf] at hdistinct
    simpa [hab.kind] using hdistinct

/-- A class grows with one of its fields. -/
theorem Class.grown_replace {before rest : List Field} (hz : c.frozen = false)
    (hc : c.fields = before ++ f :: rest) (hfg : f.Grown g) :
    c.Grown { c with fields := before ++ g :: rest } where
  name := rfl
  annotations := rfl
  fields := by
    rw [hc]
    exact List.rel_append (List.forall₂_same.2 fun f _ => .refl f)
      (.cons hfg (List.forall₂_same.2 fun f _ => .refl f))
  frozen := fun hfrozen => absurd (hz.symm.trans hfrozen) Bool.false_ne_true

end Growth

namespace Class

theorem Outcome.grown {c d : Class} {call : Call} {r : Except MutationError Bool}
    (h : Outcome c call d r) : c.Grown d := by
  cases h with
  | frozen | fieldNotFound | alreadyAnnotated | annotationNotFound | present => exact .refl c
  | attached hz hf _ ha => exact grown_replace hz hf (Field.grown_append ha)
  | filled hz hf _ ha _ _ hkind hentries =>
    exact grown_replace hz hf (Field.grown_replace ha ⟨hkind, _, hentries.symm⟩)
  | froze =>
    refine ⟨rfl, rfl, List.forall₂_same.2 fun f _ => .refl f, ?_⟩
    intro hz
    rw [← hz]

theorem Call.grown_runAll (c : Class) (calls : List Call) : c.Grown (runAll c calls) := by
  unfold runAll
  induction calls generalizing c with
  | nil => exact .refl c
  | cons call rest ih =>
    have hstep : Outcome c call (call.run c).1 (call.run c).2 := run_eq_iff.1 rfl
    rw [List.foldl_cons]
    exact hstep.grown.trans (ih _)

/-- A call ends in one of the ways that `Outcome` lists. Unless it succeeds with a change, the class
is the same afterwards, and after any number of calls the class has at most grown. -/
theorem Call.run_only_extends (c : Class) :
    (∀ (call : Call) (d : Class) (r : Except MutationError Bool),
      call.run c = (d, r) ↔ Outcome c call d r) ∧
    (∀ (call : Call) (d : Class) (r : Except MutationError Bool),
      call.run c = (d, r) → r ≠ .ok true → d = c) ∧
    ∀ calls : List Call, c.Grown (runAll c calls) := by
  refine ⟨fun call d r => run_eq_iff, ?_, grown_runAll c⟩
  intro call d r h hr
  cases run_eq_iff.1 h with
  | frozen | fieldNotFound | alreadyAnnotated | annotationNotFound | present => rfl
  | attached | filled | froze => exact absurd rfl hr

/-- The first of two annotations of a kind on the first of two fields of a name gets an attribute. The
second request for the attribute changes nothing, and neither does a request to a frozen class. -/
theorem Call.run_only_extends_twice :
    let fill : Call := .fill "twice" "Column" "name" (.text "t")
    let named : Annotation := .withAttribute (.marker "Column") "name" (.text "t")
    let after : Class := { Samples.twiceClass with
      fields := [⟨"twice", "T", [named, .marker "Column"]⟩, .plain "twice" "U"] }
    Outcome Samples.twiceClass fill after (.ok true) ∧ Outcome after fill after (.ok false) ∧
      runAll Samples.twiceClass [fill, fill, .freeze, .annotate "twice" (.marker "Size")] =
        after.freeze ∧
      Samples.twiceClass.Grown after.freeze := by
  intro fill named after
  obtain ⟨hrun, -, hgrown⟩ := Call.run_only_extends Samples.twiceClass
  have hall : runAll Samples.twiceClass [fill, fill, .freeze, .annotate "twice" (.marker "Size")] =
      after.freeze := by decide +kernel
  exact ⟨(hrun _ _ _).1 (by decide +kernel),
    (Call.run_only_extends after).1 _ _ _ |>.1 (by decide +kernel), hall, hall ▸ hgrown _⟩

end Class

end AutoAnnotate
