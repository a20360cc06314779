import AutoAnnotate.Proofs.NaNFree
import AutoAnnotate.Proofs.Preservation
import AutoAnnotate.Samples
import Mathlib.Data.List.Perm.Subperm
/-!
# Data that agree up to the order of entries

Two maps agree if each key has related values in both, or no value in either, whatever the order of
the entries. Annotations agree if they are of one kind and their attributes agree; fields, classes
and options agree if their annotations do and all else is equal. How values are related is a
parameter `R`: equality where only orders differ.

What a run computes from annotations cannot tell apart what agrees: not the annotations merged into a
list (`merged_agree`), not the rules for a field (`Options.Agree.rules`), and not whether two lists of
annotations are equal (`equalList_congr`).
-/

namespace AutoAnnotate

section Rel
variable {α β : Type} {R : α → β → Prop} {x : α} {y : β}

@[simp] theorem rel_some_some : Option.Rel R (some x) (some y) ↔ R x y :=
  ⟨fun h => by cases h; assumption, fun h => .some h⟩

@[simp] theorem not_rel_some_none : ¬Option.Rel R (some x) none := fun h => nomatch h

@[simp] theorem not_rel_none_some : ¬Option.Rel R none (some y) := fun h => nomatch h

theorem rel_self {R : α → α → Prop} (hR : ∀ x, R x x) (o : Option α) : Option.Rel R o o := by
  cases o with
  | none => exact .none
  | some x => exact .some (hR x)

theorem rel_bind {γ δ : Type} {S : γ → δ → Prop} {o : Option α} {o' : Option β} {k : α → Option γ}
    {k' : β → Option δ} (h : Option.Rel R o o') (hk : ∀ x y, R x y → Option.Rel S (k x) (k' y)) :
    Option.Rel S (o.bind k) (o'.bind k') := by
  cases h with
  | none => exact .none
  | some hxy => exact hk _ _ hxy

theorem rel_getElem? {l : List α} {l' : List β} (h : List.Forall₂ R l l') (i : Nat) :
    Option.Rel R l[i]? l'[i]? := by
  induction h generalizing i with
  | nil => exact .none
  | cons hxy _ ih =>
    cases i with
    | zero => exact .some hxy
    | succ i => simpa using ih i

theorem rel_find? {l : List α} {l' : List β} {p : α → Bool} {q : β → Bool}
    (h : List.Forall₂ R l l') (hpq : ∀ x y, R x y → p x = q y) :
    Option.Rel R (l.find? p) (l'.find? q) := by
  induction h with
  | nil => exact .none
  | @cons x y _ _ hxy _ ih =>
    rw [List.find?_cons, List.find?_cons, hpq x y hxy]
    cases q y with
    | true => exact .some hxy
    | false => exact ih

end Rel

section Maps
variable {α β : Type} {R : α → β → Prop} {m : OrderedMap α} {n : OrderedMap β}

/-- Each key has related values in both maps, or no value in either. -/
def OrderedMap.Agree (R : α → β → Prop) (m : OrderedMap α) (n : OrderedMap β) : Prop :=
  ∀ key, Option.Rel R (m.get? key) (n.get? key)

theorem OrderedMap.get?_eq_some_iff {key : String} {value : α} :
    m.get? key = some value ↔ (key, value) ∈ m.entries := by
  constructor
  · intro h
    obtain ⟨e, he, rfl⟩ := Option.map_eq_some_iff.1 h
    have hkey : e.1 = key := by simpa using List.find?_some he
    exact hkey ▸ List.mem_of_find?_eq_some he
  · exact fun h => get?_of_mem (e := (key, value)) h

theorem OrderedMap.mem_keys_iff {key : String} : key ∈ m.keys ↔ ∃ value, m.get? key = some value := by
  simp [keys, get?_eq_some_iff]

theorem OrderedMap.agree_of_perm {m n : OrderedMap α} (h : m.entries.Perm n.entries) :
    m.Agree Eq n := by
  intro key
  have hsame : m.get? key = n.get? key := Option.ext fun value => by
    rw [get?_eq_some_iff, get?_eq_some_iff, h.mem_iff]
  rw [hsame]
  exact rel_self (fun _ => rfl) _

theorem OrderedMap.Agree.keys_perm (h : m.Agree R n) : m.keys.Perm n.keys := by
  refine (List.perm_ext_iff_of_nodup m.nodup n.nodup).2 fun key => ?_
  show key ∈ m.keys ↔ key ∈ n.keys
  rw [mem_keys_iff, mem_keys_iff]
  have hvalue := h key
  generalize m.get? key = v, n.get? key = w at hvalue
  cases hvalue <;> simp

theorem OrderedMap.Agree.imp {S : α → β → Prop} (h : m.Agree R n)
    (himp : ∀ e ∈ m.entries, ∀ w, R e.2 w → S e.2 w) : m.Agree S n := by
  intro key
  have hkey := h key
  cases hv : m.get? key with
  | none =>
    rw [hv] at hkey
    generalize n.get? key = w at hkey
    cases hkey
    exact .none
  | some v =>
    rw [hv] at hkey
    generalize n.get? key = w at hkey
    cases hkey with
    | some hvw => exact .some (himp (key, v) (get?_eq_some_iff.1 hv) _ hvw)

theorem OrderedMap.Agree.symm {m n : OrderedMap α} (h : m.Agree Eq n) : n.Agree Eq m := by
  intro key
  have hkey := h key
  generalize m.get? key = v, n.get? key = w at hkey
  cases hkey with
  | none => exact .none
  | some heq => exact .some heq.symm

end Maps

/-! ## Annotations -/

/-- The annotations are of one kind, and each attribute has related values. -/
def Annotation.Agree (R : Value → Value → Prop) (a b : Annotation) : Prop :=
  a.kind = b.kind ∧ a.attributes.Agree R b.attributes

/-- Lists of annotations that agree place by place. -/
abbrev AgreeAll (R : Value → Value → Prop) : List Annotation → List Annotation → Prop :=
  List.Forall₂ fun a b => a.Agree R b

section Annotations
variable {R : Value → Value → Prop} {a b : Annotation} {l l' before before' rules rules' :
  List Annotation}

theorem Annotation.Agree.refl (hR : ∀ v, R v v) (a : Annotation) : a.Agree R a :=
  ⟨rfl, fun _ => rel_self hR _⟩

theorem agreeAll_refl (hR : ∀ v, R v v) (l : List Annotation) : AgreeAll R l l :=
  List.forall₂_same.2 fun a _ => .refl hR a

theorem Annotation.Agree.symm (h : a.Agree Eq b) : b.Agree Eq a := ⟨h.1.symm, h.2.symm⟩

theorem AgreeAll.symm (h : AgreeAll Eq l l') : AgreeAll Eq l' l := by
  induction h with
  | nil => exact .nil
  | cons hab _ ih => exact .cons hab.symm ih

theorem Annotation.Agree.imp {S : Value → Value → Prop} (h : a.Agree R b)
    (himp : ∀ e ∈ a.attributes.entries, ∀ w, R e.2 w → S e.2 w) : a.Agree S b :=
  ⟨h.1, h.2.imp himp⟩

theorem AgreeAll.imp {S : Value → Value → Prop} (h : AgreeAll R l l')
    (himp : ∀ a ∈ l, ∀ e ∈ a.attributes.entries, ∀ w, R e.2 w → S e.2 w) : AgreeAll S l l' := by
  induction h with
  | nil => exact .nil
  | cons hab _ ih =>
    obtain ⟨ha, himp⟩ := List.forall_mem_cons.1 himp
    exact .cons (hab.imp ha) (ih himp)

theorem AgreeAll.kinds (h : AgreeAll R l l') : l.map (·.kind) = l'.map (·.kind) := by
  induction h with
  | nil => rfl
  | cons hab _ ih => rw [List.map_cons, List.map_cons, hab.1, ih]

theorem carriesAny_congr (h : l.map (·.kind) = l'.map (·.kind)) (kinds : List String) :
    carriesAny l kinds = carriesAny l' kinds := by
  rw [Bool.eq_iff_iff]
  simp only [carriesAny, List.any_eq_true, carries_iff, h]

theorem settled_congr (hbefore : before.map (·.kind) = before'.map (·.kind))
    (hrules : rules.map (·.kind) = rules'.map (·.kind)) :
    Settled before rules ↔ Settled before' rules' := by
  have hkinds (before rules : List Annotation) :
      Settled before rules ↔ ∀ kind ∈ rules.map (·.kind), kind ∈ before.map (·.kind) := by
    rw [List.forall_mem_map]
    rfl
  rw [hkinds, hkinds, hbefore, hrules]

theorem AgreeAll.annotation? (h : AgreeAll R l l') (kind : String) :
    Option.Rel (fun a b => a.Agree R b) (annotation? l kind) (AutoAnnotate.annotation? l' kind) := by
  unfold AutoAnnotate.annotation?
  exact rel_find? h fun a b hab => by rw [hab.1]

/-! ## Annotations merged into a list -/

theorem find?_firstsBy {α : Type} (key : α → String) (l : List α) (k : String) :
    (firstsBy key l).find? (key · = k) = l.find? (key · = k) := by
  induction l with
  | nil => rfl
  | cons x rest ih =>
    by_cases h : key x = k
    · simp [firstsBy, h]
    · -- The filter takes away elements with the key of `x` only, which is not the key sought.
      have hfilter (y : α) :
          decide (decide (key y ≠ key x) = true ∧ decide (key y = k) = true) = decide (key y = k) := by
        by_cases hy : key y = k <;> simp [hy, Ne.symm h]
      rw [firstsBy, List.find?_cons_of_neg (by simpa using h), List.find?_filter]
      simp only [hfilter]
      rw [ih, List.find?_cons_of_neg (by simpa using h)]

/-- What the rules say about an attribute of a kind is what the first of them says that says
something about it, so that the order of attributes in a rule does not matter. -/
theorem get?_gathered (rules : List Annotation) (kind name : String) :
    (gathered rules kind).attributes.get? name =
      (rules.filter (·.kind = kind)).findSome? (·.attributes.get? name) := by
  unfold OrderedMap.get? gathered OrderedMap.ofFirsts
  rw [find?_firstsBy, List.find?_flatMap]
  induction rules.filter (·.kind = kind) with
  | nil => rfl
  | cons a rest ih =>
    rw [List.findSome?_cons, List.findSome?_cons]
    cases a.attributes.entries.find? (·.1 = name) with
    | none => exact ih
    | some e => rfl

theorem gathered_agree (h : AgreeAll R rules rules') (kind : String) :
    (gathered rules kind).Agree R (gathered rules' kind) := by
  refine ⟨rfl, fun name => ?_⟩
  rw [get?_gathered, get?_gathered]
  have hfilter : AgreeAll R (rules.filter (·.kind = kind)) (rules'.filter (·.kind = kind)) := by
    refine List.rel_filter (fun a b hab => ?_) h
    simp only [hab.1]
  generalize rules.filter (·.kind = kind) = l, rules'.filter (·.kind = kind) = l' at hfilter
  induction hfilter with
  | nil => exact .none
  | @cons a b _ _ hab _ ih =>
    rw [List.findSome?_cons, List.findSome?_cons]
    have hvalue := hab.2 name
    generalize a.attributes.get? name = v, b.attributes.get? name = w at hvalue
    cases hvalue with
    | some hvw => exact .some hvw
    | none => exact ih

theorem firstsBy_agree (h : AgreeAll R l l') :
    AgreeAll R (firstsBy (·.kind) l) (firstsBy (·.kind) l') := by
  induction h with
  | nil => exact .nil
  | cons hab _ ih =>
    refine .cons hab (List.rel_filter (fun x y hxy => ?_) ih)
    simp only [hxy.1, hab.1]

theorem merged_agree (hbefore : AgreeAll R before before') (hrules : AgreeAll R rules rules') :
    AgreeAll R (merged before rules) (merged before' rules') := by
  refine List.rel_append hbefore ?_
  unfold additions
  refine List.rel_map (fun a b hab => ?_) (List.rel_filter (fun a b hab => ?_)
    (firstsBy_agree hrules))
  · simp only [hab.1]
    exact gathered_agree hrules b.kind
  · simp only [hab.1, hbefore.kinds]

/-! ## Equality of annotations -/

/-- Equality of annotations is agreement by equality of values. -/
theorem Annotation.equal_iff : a.equal b = true ↔ a.Agree (fun v w => v.equal w = true) b := by
  unfold equal
  simp only [Bool.and_eq_true, decide_eq_true_eq, List.all_eq_true]
  constructor
  · rintro ⟨⟨hkind, hlength⟩, hall⟩
    refine ⟨hkind, fun key => ?_⟩
    have hfound (value : Value) (hvalue : a.attributes.get? key = some value) :
        ∃ w, b.attributes.get? key = some w ∧ value.equal w = true := by
      have he := hall _ (OrderedMap.get?_eq_some_iff.1 hvalue)
      cases hw : b.attributes.get? key with
      | none => simp [hw] at he
      | some w => exact ⟨w, rfl, by simpa [hw] using he⟩
    -- As many entries on both sides, and each key of the first in the second: the same keys.
    have hkeys : a.attributes.keys.Perm b.attributes.keys := by
      refine (List.Nodup.subperm a.attributes.nodup fun k hk => ?_).perm_of_length_le ?_
      · obtain ⟨e, he, rfl⟩ := List.mem_map.1 hk
        have hmatch := hall e he
        cases hw : b.attributes.get? e.1 with
        | none => simp [hw] at hmatch
        | some w => exact OrderedMap.mem_keys_iff.2 ⟨w, hw⟩
      · simp [OrderedMap.keys, hlength]
    cases hvalue : a.attributes.get? key with
    | some value =>
      obtain ⟨w, hw, hequal⟩ := hfound value hvalue
      rw [hw]
      exact .some hequal
    | none =>
      have hnot : key ∉ b.attributes.keys := by
        rw [← hkeys.mem_iff, OrderedMap.mem_keys_iff, hvalue]
        simp
      cases hw : b.attributes.get? key with
      | none => exact .none
      | some w => exact absurd (OrderedMap.mem_keys_iff.2 ⟨w, hw⟩) hnot
  · rintro ⟨hkind, hagree⟩
    have hlength := hagree.keys_perm.length_eq
    simp only [OrderedMap.keys, List.length_map] at hlength
    refine ⟨⟨hkind, hlength⟩, fun e he => ?_⟩
    have hvalue := hagree e.1
    rw [OrderedMap.get?_of_mem he] at hvalue
    cases hw : b.attributes.get? e.1 with
    | none => simp [hw] at hvalue
    | some w => simpa [hw] using hvalue

theorem Annotation.equalList_iff :
    equalList l l' = true ↔ AgreeAll (fun v w => v.equal w = true) l l' := by
  induction l generalizing l' with
  | nil => cases l' <;> simp [equalList]
  | cons a rest ih =>
    cases l' with
    | nil => simp [equalList]
    | cons b rest' => simp [equalList, Bool.and_eq_true, equal_iff, ih]

/-- Related values are equal to the same values. -/
def RespectsEqual (R : Value → Value → Prop) : Prop :=
  ∀ v v' w w', R v v' → R w w' → v.equal w = v'.equal w'

theorem respectsEqual_eq : RespectsEqual Eq := by
  rintro v _ w _ rfl rfl
  rfl

theorem Annotation.Agree.equal_congr (hR : RespectsEqual R) {a' b' : Annotation}
    (ha : a.Agree R a') (hb : b.Agree R b') : a.equal b = a'.equal b' := by
  rw [Bool.eq_iff_iff, equal_iff, equal_iff, Agree, Agree, ha.1, hb.1]
  refine and_congr_right fun _ => forall_congr' fun key => ?_
  have hvalue := ha.2 key
  have hvalue' := hb.2 key
  generalize a.attributes.get? key = v, a'.attributes.get? key = v', b.attributes.get? key = w,
    b'.attributes.get? key = w' at hvalue hvalue' ⊢
  cases hvalue with
  | none => cases hvalue' <;> simp
  | some hv => cases hvalue' with
    | none => simp
    | some hw => rw [rel_some_some, rel_some_some, hR _ _ _ _ hv hw]

theorem equalList_congr (hR : RespectsEqual R) {m m' : List Annotation} (hl : AgreeAll R l l')
    (hm : AgreeAll R m m') : Annotation.equalList l m = Annotation.equalList l' m' := by
  induction hl generalizing m m' with
  | nil => cases hm <;> rfl
  | cons hab _ ih =>
    cases hm with
    | nil => rfl
    | cons hcd hm =>
      unfold Annotation.equalList
      rw [hab.equal_congr hR hcd, ih hm]

end Annotations

/-! ## Options and rules -/

structure Options.Agree (R : Value → Value → Prop) (o p : Options) : Prop where
  policy : o.policy.Agree (AgreeAll R) p.policy
  inferNotNull : o.validation.inferNotNull = p.validation.inferNotNull
  inferNotBlank : o.validation.inferNotBlank = p.validation.inferNotBlank
  nullOrNotBlank : o.validation.nullOrNotBlank.Agree R p.validation.nullOrNotBlank
  jpa : o.jpa = p.jpa
  ignoredFields : o.ignoredFields = p.ignoredFields
  nonNull : o.nonNull = p.nonNull
  nullable : o.nullable = p.nullable
  textTypes : o.textTypes = p.textTypes

structure Field.Agree (R : Value → Value → Prop) (f g : Field) : Prop where
  name : f.name = g.name
  type : f.type = g.type
  annotations : AgreeAll R f.annotations g.annotations

structure Class.Agree (R : Value → Value → Prop) (c d : Class) : Prop where
  name : c.name = d.name
  annotations : c.annotations = d.annotations
  frozen : c.frozen = d.frozen
  fields : List.Forall₂ (Field.Agree R) c.fields d.fields

/-- The relation relates each value to itself, and never two integers that differ, or an integer to
something else: integers are the only values that decide what a rule asks for. -/
structure KeepsIntegers (R : Value → Value → Prop) : Prop where
  refl : ∀ v, R v v
  asInt : ∀ v w, R v w → v.asInt? = w.asInt?

theorem keepsIntegers_eq : KeepsIntegers Eq := ⟨fun _ => rfl, fun _ _ => congrArg _⟩

section Rules
variable {R : Value → Value → Prop} {o p : Options} {c d : Class} {f g : Field}
  {l l' : List Annotation}

theorem Field.Agree.refl (hR : ∀ v, R v v) (f : Field) : f.Agree R f :=
  ⟨rfl, rfl, agreeAll_refl hR _⟩

theorem Class.Agree.refl (hR : ∀ v, R v v) (c : Class) : c.Agree R c :=
  ⟨rfl, rfl, rfl, List.forall₂_same.2 fun f _ => .refl hR f⟩

theorem Field.Agree.withAnnotations (h : f.Agree R g) (hl : AgreeAll R l l') :
    (f.withAnnotations l).Agree R (g.withAnnotations l') :=
  ⟨h.name, h.type, hl⟩

theorem Field.Agree.carriesAny (h : f.Agree R g) (kinds : List String) :
    f.carriesAny kinds = g.carriesAny kinds :=
  carriesAny_congr h.annotations.kinds kinds

/-- The largest size is an integer, or there is none. -/
theorem sizeLimit_congr (hR : KeepsIntegers R) (h : AgreeAll R l l') :
    sizeLimit l = sizeLimit l' := by
  have hmax := rel_bind (h.annotation? Vocabulary.size) fun a b hab => hab.2 "max"
  have hlimit (l : List Annotation) : sizeLimit l =
      ((annotation? l Vocabulary.size).bind (·.attributes.get? "max")).bind Value.asInt? :=
    (Options.maxSize?_eq ⟨"", "", l⟩).symm
  rw [hlimit, hlimit]
  generalize (annotation? l Vocabulary.size).bind _ = v,
    (annotation? l' Vocabulary.size).bind _ = w at hmax ⊢
  cases hmax with
  | none => rfl
  | some hvw => exact hR.asInt _ _ hvw

namespace Options.Agree

theorem annotationsFor (h : o.Agree R p) (type : String) :
    AgreeAll R (o.annotationsFor type) (p.annotationsFor type) := by
  have htype := h.policy type
  unfold Options.annotationsFor
  generalize o.policy.get? type = m, p.policy.get? type = n at htype
  cases htype with
  | none => exact .nil
  | some hmn => exact hmn

theorem nullabilityRules (hR : KeepsIntegers R) (h : o.Agree R p) (type : String)
    (n : Nullability) : AgreeAll R (o.nullabilityRules type n) (p.nullabilityRules type n) := by
  unfold Options.nullabilityRules
  rw [h.inferNotNull, h.inferNotBlank, h.textTypes]
  refine List.rel_append (agreeAll_refl hR.refl _) ?_
  split
  · cases n with
    | nonNull | undetermined => exact agreeAll_refl hR.refl _
    | nullable => exact .cons h.nullOrNotBlank .nil
  · exact .nil

theorem precludes (h : o.Agree R p) (hl : AgreeAll R l l') : o.Precludes l ↔ p.Precludes l' := by
  have hkinds (o : Options) (l : List Annotation) : o.Precludes l ↔
      ∃ kind ∈ l.map (·.kind), kind = Vocabulary.transient ∨ kind ∈ o.jpa.precluding := by
    simp [Options.Precludes]
  rw [hkinds, hkinds, h.jpa, hl.kinds]

theorem isPersistent (h : o.Agree R p) (hc : c.Agree R d) : o.isPersistent c = p.isPersistent d := by
  rw [Options.isPersistent, Options.isPersistent, h.jpa, Class.carriesAny, Class.carriesAny,
    hc.annotations]

theorem columnRules (hR : KeepsIntegers R) (h : o.Agree R p) (hc : c.Agree R d)
    (hl : AgreeAll R l l') (n : Nullability) : o.columnRules c l n = p.columnRules d l' n := by
  simp only [Options.columnRules, h.isPersistent hc, h.precludes hl, h.jpa, sizeLimit_congr hR hl]

theorem constraintRules (hR : KeepsIntegers R) (h : o.Agree R p) (hf : f.Agree R g)
    (n : Nullability) : AgreeAll R (o.constraintRules f n) (p.constraintRules g n) := by
  unfold Options.constraintRules
  rw [hf.type]
  exact List.rel_append (h.annotationsFor g.type) (h.nullabilityRules hR g.type n)

theorem rules (hR : KeepsIntegers R) (h : o.Agree R p) (hc : c.Agree R d) (hf : f.Agree R g)
    (n : Nullability) : AgreeAll R (o.rules c f n) (p.rules d g n) := by
  have hconstraints := h.constraintRules hR hf n
  have hmerged := merged_agree hf.annotations hconstraints
  unfold Options.rules
  rw [h.columnRules hR hc hmerged]
  exact List.rel_append hconstraints (agreeAll_refl hR.refl _)

theorem typed (h : o.Agree R p) (hf : f.Agree R g) : (o.typed f).Agree R (p.typed g) := by
  refine hf.withAnnotations (merged_agree hf.annotations ?_)
  rw [hf.type]
  exact h.annotationsFor g.type

/-- The nullability of a field depends on kinds only. -/
theorem resolve (h : o.Agree R p) (hc : c.Agree R d) (hf : f.Agree R g) :
    o.resolve c f = p.resolve d g := by
  have hmarkers : o.markersOn f = p.markersOn g := by
    rw [Options.markersOn, Options.markersOn, hf.annotations.kinds, h.nonNull, h.nullable]
  have hdefault : c.nonNullByDefault = d.nonNullByDefault := by
    rw [Class.nonNullByDefault, Class.nonNullByDefault, Class.annotation?, Class.annotation?,
      hc.annotations]
  have hmarker : o.explicitMarker c f = p.explicitMarker d g := by
    unfold Options.explicitMarker
    rw [h.nonNull, h.nullable, hf.carriesAny, hf.carriesAny, hc.name, hf.name, hmarkers]
  unfold Options.resolve
  rw [hmarker, hdefault, hf.type]

end Options.Agree

end Rules

/-! ## Options in two orders -/

theorem Samples.twoWayOptions_agree :
    (Samples.twoWayOptions false).Agree Eq (Samples.twoWayOptions true) := by
  constructor
  case policy =>
    intro key
    by_cases hT : key = "T"
    · subst hT
      refine .some (.cons (.refl (fun _ => rfl) _) (.cons ⟨rfl, ?_⟩ .nil))
      exact OrderedMap.agree_of_perm (.swap _ _ _)
    · by_cases hU : key = "U"
      · subst hU
        exact .some (agreeAll_refl (fun _ => rfl) _)
      · simp [twoWayOptions, OrderedMap.ofList, OrderedMap.get?, OrderedMap.insert,
          OrderedMap.insertEntry, OrderedMap.empty, Ne.symm hT, Ne.symm hU]
  case nullOrNotBlank => exact ⟨rfl, OrderedMap.agree_of_perm (.swap _ _ _)⟩
  all_goals rfl

end AutoAnnotate
