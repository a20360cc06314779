import AutoAnnotate.Class
import Mathlib.Data.List.Forall2
/-!
# Look-up and change of fields

Annotations are looked up by kind and fields by name, and the first match wins. A change of a field
replaces the annotations of the first field of its name (`Class.withAnnotations`), and every other
look-up goes on as before.
-/

namespace AutoAnnotate

/-! ## Kinds in a list of annotations -/

@[simp] theorem carries_iff {annotations : List Annotation} {kind : String} :
    carries annotations kind = true ↔ kind ∈ annotations.map (·.kind) := by
  simp [carries]

theorem carries_eq_false_iff {annotations : List Annotation} {kind : String} :
    carries annotations kind = false ↔ kind ∉ annotations.map (·.kind) := by
  rw [← Bool.not_eq_true, carries_iff]

theorem carriesAny_iff {annotations : List Annotation} {kinds : List String} :
    carriesAny annotations kinds = true ↔ ∃ a ∈ annotations, a.kind ∈ kinds := by
  simp only [carriesAny, List.any_eq_true, carries_iff, List.mem_map]
  constructor
  · rintro ⟨_, hkind, a, ha, rfl⟩
    exact ⟨a, ha, hkind⟩
  · rintro ⟨a, ha, hkind⟩
    exact ⟨a.kind, hkind, a, ha, rfl⟩

theorem carriesAny_append (l l' : List Annotation) (kinds : List String) :
    carriesAny (l ++ l') kinds = (carriesAny l kinds || carriesAny l' kinds) := by
  rw [Bool.eq_iff_iff, Bool.or_eq_true, carriesAny_iff, carriesAny_iff, carriesAny_iff]
  simp only [List.mem_append, or_and_right, exists_or]

theorem Field.carriesAny_iff {f : Field} {kinds : List String} :
    f.carriesAny kinds = true ↔ ∃ a ∈ f.annotations, a.kind ∈ kinds :=
  AutoAnnotate.carriesAny_iff

theorem Field.carriesAny_eq_false_iff {f : Field} {kinds : List String} :
    f.carriesAny kinds = false ↔ ∀ a ∈ f.annotations, a.kind ∉ kinds := by
  rw [← Bool.not_eq_true, Field.carriesAny_iff]
  push Not
  rfl

theorem annotation?_isSome {annotations : List Annotation} {kind : String}
    (h : kind ∈ annotations.map (·.kind)) : ∃ a, annotation? annotations kind = some a := by
  obtain ⟨a, ha, rfl⟩ := List.mem_map.1 h
  rw [← Option.isSome_iff_exists, annotation?, List.find?_isSome]
  exact ⟨a, ha, by simp⟩

/-! ## The first element with a key -/

section FirstWithKey
variable {α : Type} {key : α → String} {k : String} {x : α} {l before rest : List α}

theorem find?_eq_none_iff_key : l.find? (key · = k) = none ↔ k ∉ l.map key := by
  simp [List.find?_eq_none, List.mem_map]

/-- An element behind elements with other keys is the first one with its key. -/
theorem find?_first (key : α → String) (hx : key x ∉ before.map key) :
    (before ++ x :: rest).find? (key · = key x) = some x := by
  simp [List.find?_append, find?_eq_none_iff_key.2 hx]

/-- A list around the first element with a key. -/
theorem exists_first (h : l.find? (key · = k) = some x) :
    key x = k ∧ ∃ before rest, l = before ++ x :: rest ∧ key x ∉ before.map key := by
  obtain ⟨hx, before, rest, rfl, hbefore⟩ := List.find?_eq_some_iff_append.1 h
  obtain rfl : key x = k := by simpa using hx
  refine ⟨rfl, before, rest, rfl, ?_⟩
  simpa [List.mem_map] using hbefore

/-- With distinct keys, no element has the key of a later one. -/
theorem key_not_mem_of_nodup (h : ((before ++ x :: rest).map key).Nodup) : key x ∉ before.map key := by
  rw [List.map_append, List.map_cons] at h
  exact fun hmem => (List.nodup_append.1 h).2.2 _ hmem _ List.mem_cons_self rfl

/-- With distinct keys, every element is the first one with its key. -/
theorem find?_of_mem (h : (l.map key).Nodup) (hx : x ∈ l) : l.find? (key · = key x) = some x := by
  obtain ⟨before, rest, rfl⟩ := List.append_of_mem hx
  exact find?_first key (key_not_mem_of_nodup h)

end FirstWithKey

/-! ## The first match changed -/

namespace Class

section ModifyFirst
variable {α β : Type} {p : α → Bool} {f g : α → α}

theorem modifyFirst_append {l l' : List α} (h : ∀ x ∈ l, p x = false) :
    modifyFirst p f (l ++ l') = l ++ modifyFirst p f l' := by
  induction l with
  | nil => rfl
  | cons x rest ih =>
    rw [List.cons_append, modifyFirst, h x List.mem_cons_self]
    simp only [Bool.false_eq_true, if_false]
    rw [ih fun y hy => h y (List.mem_cons_of_mem _ hy)]
    rfl

theorem modifyFirst_cons_of_pos {x : α} {l : List α} (h : p x = true) :
    modifyFirst p f (x :: l) = f x :: l := by
  simp [modifyFirst, h]

/-- Changing the first match and then changing it again is one change. -/
theorem modifyFirst_modifyFirst (hf : ∀ x, p (f x) = p x) (l : List α) :
    modifyFirst p g (modifyFirst p f l) = modifyFirst p (fun x => g (f x)) l := by
  induction l with
  | nil => rfl
  | cons x rest ih =>
    by_cases h : p x = true
    · simp [modifyFirst, h, hf]
    · simp [modifyFirst, h, ih]

theorem modifyFirst_eq_self {l : List α} (h : ∀ x, l.find? p = some x → f x = x) :
    modifyFirst p f l = l := by
  induction l with
  | nil => rfl
  | cons x rest ih =>
    by_cases hx : p x = true
    · rw [modifyFirst_cons_of_pos hx, h x (by simp [hx])]
    · simp only [modifyFirst, hx]
      rw [ih fun y hy => h y (by simpa [hx] using hy)]
      simp

/-- Only the image of the first match counts. -/
theorem modifyFirst_congr {l : List α} (h : ∀ x, l.find? p = some x → f x = g x) :
    modifyFirst p f l = modifyFirst p g l := by
  induction l with
  | nil => rfl
  | cons x rest ih =>
    by_cases hx : p x = true
    · rw [modifyFirst_cons_of_pos hx, modifyFirst_cons_of_pos hx, h x (by simp [hx])]
    · simp only [modifyFirst, hx]
      rw [ih fun y hy => h y (by simpa [hx] using hy)]
      rfl

theorem map_modifyFirst {key : α → β} (h : ∀ x, key (f x) = key x) (l : List α) :
    (modifyFirst p f l).map key = l.map key := by
  induction l with
  | nil => rfl
  | cons x rest ih =>
    by_cases hx : p x = true
    · simp [modifyFirst, hx, h]
    · simp [modifyFirst, hx, ih]

theorem mem_modifyFirst {y : α} {l : List α} (h : y ∈ modifyFirst p f l) :
    y ∈ l ∨ ∃ x ∈ l, y = f x := by
  induction l with
  | nil => exact .inl h
  | cons x rest ih =>
    by_cases hx : p x = true
    · rw [modifyFirst_cons_of_pos hx] at h
      rcases List.mem_cons.1 h with rfl | h
      · exact .inr ⟨x, List.mem_cons_self, rfl⟩
      · exact .inl (List.mem_cons_of_mem _ h)
    · simp only [modifyFirst, hx] at h
      rcases List.mem_cons.1 h with rfl | h
      · exact .inl List.mem_cons_self
      · refine (ih h).imp (List.mem_cons_of_mem _) ?_
        rintro ⟨z, hz, rfl⟩
        exact ⟨z, List.mem_cons_of_mem _ hz, rfl⟩

theorem find?_modifyFirst (hf : ∀ x, p (f x) = p x) (l : List α) :
    (modifyFirst p f l).find? p = (l.find? p).map f := by
  induction l with
  | nil => rfl
  | cons x rest ih =>
    by_cases h : p x = true
    · simp [modifyFirst, h, hf]
    · simp [modifyFirst, h, ih]

theorem find?_modifyFirst_of_disjoint {q : α → Bool} (hf : ∀ x, p x = true → q x = false)
    (hg : ∀ x, q (f x) = q x) (l : List α) : (modifyFirst p f l).find? q = l.find? q := by
  induction l with
  | nil => rfl
  | cons x rest ih =>
    by_cases h : p x = true
    · simp [modifyFirst, h, hg, hf x h]
    · by_cases hq : q x = true <;> simp [modifyFirst, h, hq, ih]

/-- With distinct keys, the first element with a key is the only one. -/
theorem modifyFirst_eq_map {key : α → String} {k : String} {l : List α} (h : (l.map key).Nodup) :
    modifyFirst (key · = k) f l = l.map fun x => if key x = k then f x else x := by
  induction l with
  | nil => rfl
  | cons x rest ih =>
    obtain ⟨hx, hrest⟩ := List.nodup_cons.1 h
    by_cases hk : key x = k
    · -- No element behind `x` has its key, so that the map leaves them all.
      subst hk
      have hkeep : rest.map (fun y => if key y = key x then f y else y) = rest := by
        refine (List.map_congr_left fun y hy => if_neg fun hyx => ?_).trans (List.map_id' rest)
        exact hx (hyx ▸ List.mem_map_of_mem hy)
      rw [modifyFirst_cons_of_pos (by simp), List.map_cons, hkeep, if_pos rfl]
    · simp [modifyFirst, hk, ih hrest]

theorem forall₂_modifyFirst {R : α → α → Prop} (hR : ∀ x, R x x) {l : List α}
    (h : ∀ x, l.find? p = some x → R x (f x)) : List.Forall₂ R l (modifyFirst p f l) := by
  induction l with
  | nil => exact .nil
  | cons x rest ih =>
    by_cases hx : p x = true
    · rw [modifyFirst_cons_of_pos hx]
      exact .cons (h x (by simp [hx])) (List.forall₂_same.2 fun y _ => hR y)
    · simp only [modifyFirst, hx]
      exact .cons (hR x) (ih fun y hy => h y (by simpa [hx] using hy))

/-- An element behind elements with other keys is the one that changes. -/
theorem modifyFirst_first {x : α} {before rest : List α} (key : α → String)
    (hx : key x ∉ before.map key) (f : α → α) :
    modifyFirst (key · = key x) f (before ++ x :: rest) = before ++ f x :: rest := by
  have hskip : ∀ y ∈ before, decide (key y = key x) = false := by
    intro y hy
    simpa using fun heq => hx (List.mem_map.2 ⟨y, hy, heq⟩)
  rw [modifyFirst_append hskip, modifyFirst_cons_of_pos (by simp)]

end ModifyFirst

end Class

/-! ## The annotations of a field replaced -/

/-- The field with other annotations. -/
def Field.withAnnotations (f : Field) (annotations : List Annotation) : Field :=
  { f with annotations := annotations }

section WithAnnotations
variable {f : Field} {annotations : List Annotation}

@[simp] theorem Field.withAnnotations_name : (f.withAnnotations annotations).name = f.name := rfl

@[simp] theorem Field.withAnnotations_annotations :
    (f.withAnnotations annotations).annotations = annotations := rfl

@[simp] theorem Field.withAnnotations_self : f.withAnnotations f.annotations = f := rfl

end WithAnnotations

namespace Class

/-- The class in which the first field of a name has other annotations. -/
def withAnnotations (c : Class) (name : String) (annotations : List Annotation) : Class :=
  c.modifyField name (·.withAnnotations annotations)

variable {c : Class} {f : Field} {name : String} {annotations : List Annotation}

theorem field?_name (h : c.field? name = some f) : f.name = name := by
  simpa using List.find?_some h

theorem field?_mem (h : c.field? name = some f) : f ∈ c.fields :=
  List.mem_of_find?_eq_some h

theorem field?_isSome (h : name ∈ c.fields.map (·.name)) : ∃ f, c.field? name = some f := by
  obtain ⟨f, hf, rfl⟩ := List.mem_map.1 h
  rw [← Option.isSome_iff_exists, field?, List.find?_isSome]
  exact ⟨f, hf, by simp⟩

/-- A class keeps the names of its fields. -/
theorem withAnnotations_fields_name :
    (c.withAnnotations name annotations).fields.map (·.name) = c.fields.map (·.name) :=
  map_modifyFirst (f := (·.withAnnotations annotations)) (fun _ => rfl) c.fields

theorem field?_withAnnotations (h : c.field? name = some f) :
    (c.withAnnotations name annotations).field? name = some (f.withAnnotations annotations) := by
  have hfind := find?_modifyFirst (p := (·.name = name))
    (f := (·.withAnnotations annotations)) (fun _ => rfl) c.fields
  exact hfind.trans (congrArg (Option.map _) h)

theorem field?_withAnnotations_of_ne {other : String} (h : other ≠ name) :
    (c.withAnnotations name annotations).field? other = c.field? other := by
  have hother : ∀ g : Field, decide (g.name = name) = true → decide (g.name = other) = false := by
    intro g hg
    have hg' : g.name = name := by simpa using hg
    simpa [hg'] using h.symm
  exact find?_modifyFirst_of_disjoint (q := (·.name = other))
    (f := (·.withAnnotations annotations)) hother (fun _ => rfl) c.fields

theorem withAnnotations_withAnnotations (later : List Annotation) :
    (c.withAnnotations name annotations).withAnnotations name later =
      c.withAnnotations name later := by
  have hfields := modifyFirst_modifyFirst (p := (·.name = name))
    (f := (·.withAnnotations annotations)) (g := (·.withAnnotations later)) (fun _ => rfl) c.fields
  unfold withAnnotations modifyField
  rw [hfields]
  rfl

theorem withAnnotations_self (h : c.field? name = some f) :
    c.withAnnotations name f.annotations = c := by
  have hself : modifyFirst (·.name = name) (·.withAnnotations f.annotations) c.fields = c.fields := by
    refine modifyFirst_eq_self fun g hg => ?_
    rw [field?, hg] at h
    rw [Option.some.inj h, Field.withAnnotations_self]
  unfold withAnnotations modifyField
  rw [hself]

theorem modifyField_eq_withAnnotations {g : Field → Field} (h : c.field? name = some f)
    (hg : g f = f.withAnnotations annotations) :
    c.modifyField name g = c.withAnnotations name annotations := by
  have hfields : modifyFirst (·.name = name) g c.fields =
      modifyFirst (·.name = name) (·.withAnnotations annotations) c.fields := by
    refine modifyFirst_congr fun x hx => ?_
    rw [field?, hx] at h
    rw [Option.some.inj h, hg]
  unfold withAnnotations modifyField
  rw [hfields]

section Split
variable {before rest : List Field}

theorem name_not_mem_of_distinct (h : c.fields = before ++ f :: rest)
    (hdistinct : (c.fields.map (·.name)).Nodup) : f.name ∉ before.map (·.name) :=
  key_not_mem_of_nodup (h ▸ hdistinct)

theorem ne_name_of_not_mem (hf : f.name ∉ before.map (·.name)) {g : Field} (hg : g ∈ before) :
    g.name ≠ f.name :=
  fun heq => hf (List.mem_map.2 ⟨g, hg, heq⟩)

/-- A field that stands behind fields of other names is the one its name means. -/
theorem field?_of_fields (h : c.fields = before ++ f :: rest)
    (hf : f.name ∉ before.map (·.name)) : c.field? f.name = some f := by
  rw [field?, h]
  exact find?_first Field.name hf

theorem withAnnotations_of_fields (h : c.fields = before ++ f :: rest)
    (hf : f.name ∉ before.map (·.name)) (annotations : List Annotation) :
    c.withAnnotations f.name annotations =
      { c with fields := before ++ f.withAnnotations annotations :: rest } := by
  have hfields : modifyFirst (·.name = f.name) (·.withAnnotations annotations) c.fields =
      before ++ f.withAnnotations annotations :: rest :=
    h ▸ modifyFirst_first Field.name hf (·.withAnnotations annotations)
  exact congrArg (fun fields => { c with fields }) hfields

end Split

end Class

end AutoAnnotate
