import AutoAnnotate.Proofs.Agreement
import Mathlib.Logic.Relation
/-!
# How nullability is resolved

Nullability is decided by looking the markers of the options up on a field, while an error lists the
annotations of the field that are found among the markers. `Resolves` says how a field is resolved by
that list alone, and `resolve_by_markers` that this is how every field is resolved.

Only the set of markers on a field counts. Annotations may be put in another order, repeated, get other
attributes, or be joined by annotations that are no markers, any number of times (`Rearranges`).
-/

namespace AutoAnnotate

/-- The kinds of the annotations that are markers of either nullability, in the order in which they are
attached. -/
def Options.markerKinds (o : Options) (annotations : List Annotation) : List String :=
  (annotations.filter fun a => a.kind ∈ o.nonNull ∨ a.kind ∈ o.nullable).map (·.kind)

/-- One of the markers among some annotations is of a set. -/
def Options.MarkedBy (o : Options) (annotations : List Annotation) (markers : NameSet) : Prop :=
  ∃ kind ∈ o.markerKinds annotations, kind ∈ markers

/-- The first annotation that marks the class for annotation makes its unmarked fields non-null. -/
def Class.MakesNonNull (c : Class) : Prop :=
  ∃ before a rest, c.annotations = before ++ a :: rest ∧ a.kind = Vocabulary.autoAnnotated ∧
    a.kind ∉ before.map (·.kind) ∧
    (Vocabulary.fieldsAreNonNullByDefault, .bool true) ∈ a.attributes.entries

/-- How a field of a class can be resolved. -/
inductive Resolves (o : Options) (c : Class) (f : Field) : Except AnnotateError Nullability → Prop
  /-- Markers on a field of a primitive type do not count. -/
  | primitive (hp : isPrimitiveType f.type = true) : Resolves o c f (.ok .undetermined)
  | contradictory (hp : isPrimitiveType f.type = false) (hn : o.MarkedBy f.annotations o.nonNull)
      (hn' : o.MarkedBy f.annotations o.nullable) :
      Resolves o c f
        (.error (.inconsistentNullability c.name f.name (o.markerKinds f.annotations)))
  | nonNull (hp : isPrimitiveType f.type = false) (hn : o.MarkedBy f.annotations o.nonNull)
      (hn' : ¬o.MarkedBy f.annotations o.nullable) : Resolves o c f (.ok .nonNull)
  | nullable (hp : isPrimitiveType f.type = false) (hn : ¬o.MarkedBy f.annotations o.nonNull)
      (hn' : o.MarkedBy f.annotations o.nullable) : Resolves o c f (.ok .nullable)
  | nonNullByClass (hp : isPrimitiveType f.type = false) (hm : o.markerKinds f.annotations = [])
      (hc : c.MakesNonNull) : Resolves o c f (.ok .nonNull)
  | nullableByClass (hp : isPrimitiveType f.type = false) (hm : o.markerKinds f.annotations = [])
      (hc : ¬c.MakesNonNull) : Resolves o c f (.ok .nullable)

/-- A step that takes a list of annotations to one with the same markers. -/
inductive Rearranges (o : Options) : List Annotation → List Annotation → Prop
  | reordered {l l' : List Annotation} (h : l.Perm l') : Rearranges o l l'
  | repeated {l : List Annotation} {a : Annotation} (h : a ∈ l) : Rearranges o l (a :: l)
  | joined {l : List Annotation} {a : Annotation} (h : a.kind ∉ o.nonNull) (h' : a.kind ∉ o.nullable) :
      Rearranges o l (a :: l)
  /-- Only attributes change. -/
  | altered {l l' : List Annotation} (h : l.map (·.kind) = l'.map (·.kind)) : Rearranges o l l'

variable {o : Options} {c : Class} {f g : Field} {l l' : List Annotation} {kind : String}
  {r : Except AnnotateError Nullability}

/-! ## What counts -/

namespace Options

theorem markersOn_eq : o.markersOn f = o.markerKinds f.annotations :=
  List.filter_map

theorem mem_markerKinds : kind ∈ o.markerKinds l ↔
    kind ∈ l.map (·.kind) ∧ (kind ∈ o.nonNull ∨ kind ∈ o.nullable) := by
  simp only [markerKinds, List.mem_map, List.mem_filter, decide_eq_true_eq]
  constructor
  · rintro ⟨a, ⟨ha, hkind⟩, rfl⟩
    exact ⟨⟨a, ha, rfl⟩, hkind⟩
  · rintro ⟨⟨a, ha, rfl⟩, hkind⟩
    exact ⟨a, ⟨ha, hkind⟩, rfl⟩

/-- The markers of a set are found by looking either way. -/
theorem carriesAny_iff_markedBy {markers : NameSet}
    (h : ∀ kind, kind ∈ markers → kind ∈ o.nonNull ∨ kind ∈ o.nullable) :
    f.carriesAny markers.toList = true ↔ o.MarkedBy f.annotations markers := by
  rw [Field.carriesAny_iff]
  constructor
  · rintro ⟨a, ha, hkind⟩
    exact ⟨a.kind, mem_markerKinds.2 ⟨List.mem_map_of_mem ha, h a.kind hkind⟩, hkind⟩
  · rintro ⟨kind, hmem, hkind⟩
    obtain ⟨a, ha, rfl⟩ := List.mem_map.1 (mem_markerKinds.1 hmem).1
    exact ⟨a, ha, hkind⟩

theorem carriesAny_nonNull_iff :
    f.carriesAny o.nonNull.toList = true ↔ o.MarkedBy f.annotations o.nonNull :=
  carriesAny_iff_markedBy fun _ => .inl

theorem carriesAny_nullable_iff :
    f.carriesAny o.nullable.toList = true ↔ o.MarkedBy f.annotations o.nullable :=
  carriesAny_iff_markedBy fun _ => .inr

theorem markerKinds_eq_nil (hn : ¬o.MarkedBy l o.nonNull) (hn' : ¬o.MarkedBy l o.nullable) :
    o.markerKinds l = [] := by
  refine List.eq_nil_iff_forall_not_mem.2 fun kind hkind => ?_
  rcases (mem_markerKinds.1 hkind).2 with h | h
  · exact hn ⟨kind, hkind, h⟩
  · exact hn' ⟨kind, hkind, h⟩

/-- Without markers, a field carries none of either set. -/
theorem carriesAny_eq_false_of_nil (h : o.markerKinds f.annotations = []) :
    f.carriesAny o.nonNull.toList = false ∧ f.carriesAny o.nullable.toList = false := by
  have hnone (markers : NameSet) : ¬o.MarkedBy f.annotations markers := by
    rintro ⟨kind, hkind, -⟩
    rw [h] at hkind
    cases hkind
  exact ⟨Bool.eq_false_iff.2 (mt carriesAny_nonNull_iff.1 (hnone _)),
    Bool.eq_false_iff.2 (mt carriesAny_nullable_iff.1 (hnone _))⟩

end Options

/-- An attribute counts as set only if it is the Boolean `true`. -/
theorem flag_iff {a : Annotation} {name : String} :
    ((a.attributes.get? name).bind Value.asBool?).getD false = true ↔
      (name, .bool true) ∈ a.attributes.entries := by
  rw [← OrderedMap.get?_eq_some_iff]
  cases a.attributes.get? name with
  | none => simp
  | some v => cases v <;> simp [Value.asBool?]

theorem Class.nonNullByDefault_iff : c.nonNullByDefault = true ↔ c.MakesNonNull := by
  unfold nonNullByDefault Class.annotation? AutoAnnotate.annotation?
  constructor
  · intro h
    split at h
    · cases h
    · next a ha =>
      obtain ⟨hkind, before, rest, hannotations, hbefore⟩ := exists_first ha
      exact ⟨before, a, rest, hannotations, hkind, hbefore, flag_iff.1 h⟩
  · rintro ⟨before, a, rest, hannotations, hkind, hbefore, hflag⟩
    rw [hannotations, ← hkind, find?_first Annotation.kind hbefore]
    exact flag_iff.2 hflag

/-! ## How fields are resolved -/

theorem Resolves.resolve_eq (h : Resolves o c f r) : o.resolve c f = r := by
  unfold Options.resolve Options.explicitMarker
  cases h with
  | primitive hp => rw [if_pos hp]
  | contradictory hp hn hn' =>
    rw [Options.carriesAny_nonNull_iff.2 hn, Options.carriesAny_nullable_iff.2 hn', hp,
      Options.markersOn_eq]
    rfl
  | nonNull hp hn hn' =>
    rw [Options.carriesAny_nonNull_iff.2 hn,
      Bool.eq_false_iff.2 (mt Options.carriesAny_nullable_iff.1 hn'), hp]
    rfl
  | nullable hp hn hn' =>
    rw [Bool.eq_false_iff.2 (mt Options.carriesAny_nonNull_iff.1 hn),
      Options.carriesAny_nullable_iff.2 hn', hp]
    rfl
  | nonNullByClass hp hm hc =>
    obtain ⟨hn, hn'⟩ := Options.carriesAny_eq_false_of_nil hm
    rw [hn, hn', hp, Class.nonNullByDefault_iff.2 hc]
    rfl
  | nullableByClass hp hm hc =>
    obtain ⟨hn, hn'⟩ := Options.carriesAny_eq_false_of_nil hm
    rw [hn, hn', hp, Bool.eq_false_iff.2 (mt Class.nonNullByDefault_iff.1 hc)]
    rfl

theorem exists_resolves (o : Options) (c : Class) (f : Field) : ∃ r, Resolves o c f r := by
  cases hp : isPrimitiveType f.type with
  | true => exact ⟨_, .primitive hp⟩
  | false =>
    by_cases hn : o.MarkedBy f.annotations o.nonNull <;>
      by_cases hn' : o.MarkedBy f.annotations o.nullable
    · exact ⟨_, .contradictory hp hn hn'⟩
    · exact ⟨_, .nonNull hp hn hn'⟩
    · exact ⟨_, .nullable hp hn hn'⟩
    · have hm := Options.markerKinds_eq_nil hn hn'
      by_cases hc : c.MakesNonNull
      · exact ⟨_, .nonNullByClass hp hm hc⟩
      · exact ⟨_, .nullableByClass hp hm hc⟩

theorem resolve_eq_iff : o.resolve c f = r ↔ Resolves o c f r := by
  refine ⟨?_, Resolves.resolve_eq⟩
  rintro rfl
  obtain ⟨r, hr⟩ := exists_resolves o c f
  rwa [hr.resolve_eq]

/-! ## Annotations rearranged -/

/-- A step keeps the set of markers. -/
theorem Rearranges.mem_markerKinds (h : Rearranges o l l') :
    kind ∈ o.markerKinds l ↔ kind ∈ o.markerKinds l' := by
  rw [Options.mem_markerKinds, Options.mem_markerKinds]
  refine and_congr_left fun hmarker => ?_
  cases h with
  | reordered h => exact (h.map _).mem_iff
  | @repeated a h =>
    rw [List.map_cons, List.mem_cons]
    refine ⟨.inr, ?_⟩
    rintro (rfl | hkind)
    · exact List.mem_map_of_mem h
    · exact hkind
  | @joined a h h' =>
    rw [List.map_cons, List.mem_cons]
    refine ⟨.inr, fun hkind => hkind.resolve_left ?_⟩
    rintro rfl
    exact hmarker.elim h h'
  | altered h => rw [h]

theorem mem_markerKinds_of_eqvGen (h : Relation.EqvGen (Rearranges o) l l') :
    ∀ kind, kind ∈ o.markerKinds l ↔ kind ∈ o.markerKinds l' := by
  induction h with
  | rel _ _ h => exact fun kind => h.mem_markerKinds
  | refl => exact fun kind => Iff.rfl
  | symm _ _ _ ih => exact fun kind => (ih kind).symm
  | trans _ _ _ _ _ ih ih' => exact fun kind => (ih kind).trans (ih' kind)

/-- Fields of one type with the same set of markers both fail or are resolved alike. -/
theorem resolve_toOption_congr (ht : g.type = f.type)
    (h : ∀ kind, kind ∈ o.markerKinds f.annotations ↔ kind ∈ o.markerKinds g.annotations) :
    (o.resolve c g).toOption = (o.resolve c f).toOption := by
  have hmarked (markers : NameSet) :
      o.MarkedBy f.annotations markers ↔ o.MarkedBy g.annotations markers :=
    exists_congr fun kind => and_congr_left fun _ => h kind
  have hnonNull : f.carriesAny o.nonNull.toList = g.carriesAny o.nonNull.toList :=
    Bool.eq_iff_iff.2 (by simp only [Options.carriesAny_nonNull_iff, hmarked])
  have hnullable : f.carriesAny o.nullable.toList = g.carriesAny o.nullable.toList :=
    Bool.eq_iff_iff.2 (by simp only [Options.carriesAny_nullable_iff, hmarked])
  unfold Options.resolve Options.explicitMarker
  rw [ht, hnonNull, hnullable]
  cases isPrimitiveType f.type <;> cases g.carriesAny o.nonNull.toList <;>
    cases g.carriesAny o.nullable.toList <;> rfl

/-- Every field is resolved as its markers and its class say. Fields of one type whose annotations are
those of each other rearranged both fail to be resolved or are resolved alike. -/
theorem resolve_by_markers (o : Options) (c : Class) (f : Field) :
    (∀ r, o.resolve c f = r ↔ Resolves o c f r) ∧
    ∀ g : Field, g.type = f.type → Relation.EqvGen (Rearranges o) f.annotations g.annotations →
      (o.resolve c g).toOption = (o.resolve c f).toOption :=
  ⟨fun _ => resolve_eq_iff, fun _ ht h => resolve_toOption_congr ht (mem_markerKinds_of_eqvGen h)⟩

/-- Two markers that contradict each other still do so when they change places, one of them is repeated,
and an annotation that is no marker joins them. The error lists the markers as they are attached. -/
theorem resolve_by_markers_contradictory :
    let f : Field := ⟨"either", "V", [.marker "Nullable", .marker "NonNull"]⟩
    let g : Field := ⟨"either", "V", [.marker "Size", .marker "NonNull", .marker "NonNull",
      .marker "Nullable"]⟩
    Resolves Samples.briefOptions Samples.contradictoryClass f
        (.error (.inconsistentNullability "Contradictory" "either" ["Nullable", "NonNull"])) ∧
      (Samples.briefOptions.resolve Samples.contradictoryClass g).toOption = none := by
  intro f g
  obtain ⟨hresolves, hrearranged⟩ := resolve_by_markers Samples.briefOptions
    Samples.contradictoryClass f
  have hswapped : Rearranges Samples.briefOptions f.annotations
      [.marker "NonNull", .marker "Nullable"] := .reordered (.swap _ _ _)
  have hrepeated : Rearranges Samples.briefOptions [.marker "NonNull", .marker "Nullable"]
      [.marker "NonNull", .marker "NonNull", .marker "Nullable"] := .repeated List.mem_cons_self
  have hjoined : Rearranges Samples.briefOptions
      [.marker "NonNull", .marker "NonNull", .marker "Nullable"] g.annotations :=
    .joined (by decide) (by decide)
  refine ⟨(hresolves _).1 (by decide +kernel), ?_⟩
  rw [hrearranged g rfl (.trans _ _ _ (.rel _ _ hswapped)
    (.trans _ _ _ (.rel _ _ hrepeated) (.rel _ _ hjoined)))]
  decide +kernel

end AutoAnnotate
