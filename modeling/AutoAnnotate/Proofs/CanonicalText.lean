import AutoAnnotate.Fingerprint
import AutoAnnotate.Proofs.Agreement
import AutoAnnotate.Proofs.CompactText
/-!
# What a canonical text tells

Two configurations have one canonical text exactly if they agree (`Config.canonicalText_eq_iff`): the
order of the policy and of attributes is lost, because tables are sorted, and so is which number that is
not finite a value holds, because all of them are written as `null`. Where the numbers are finite, what
is lost is order alone (`Config.canonicalText_eq_iff_of_finite`).

The canonical text tells the form of a tree (`Tree.canonical_eq_iff`). The forms of the parts of a
configuration are then compared one kind of part after the other.
-/

namespace AutoAnnotate

namespace Tree

/-! ## Sorted tables -/

theorem insertByKey_perm (e : String × Tree) (entries : List (String × Tree)) :
    (insertByKey e entries).Perm (e :: entries) := by
  induction entries with
  | nil => exact .refl _
  | cons f rest ih =>
    unfold insertByKey
    split
    · exact .refl _
    · exact (ih.cons f).trans (.swap e f rest)

theorem pairwise_insertByKey {e : String × Tree} {entries : List (String × Tree)}
    (h : entries.Pairwise (·.1 < ·.1)) (hnew : ∀ f ∈ entries, f.1 ≠ e.1) :
    (insertByKey e entries).Pairwise (·.1 < ·.1) := by
  induction entries with
  | nil => simp [insertByKey]
  | cons f rest ih =>
    obtain ⟨hf, hrest⟩ := List.pairwise_cons.1 h
    obtain ⟨hne, hnew⟩ := List.forall_mem_cons.1 hnew
    unfold insertByKey
    split
    · next hlt =>
      refine List.pairwise_cons.2 ⟨List.forall_mem_cons.2 ⟨hlt, fun g hg => ?_⟩, h⟩
      exact String.lt_trans hlt (hf g hg)
    · next hlt =>
      refine List.pairwise_cons.2 ⟨fun g hg => ?_, ih hrest hnew⟩
      rcases List.mem_cons.1 ((insertByKey_perm e rest).mem_iff.1 hg) with rfl | hg
      · rcases Std.lt_trichotomy f.1 g.1 with h' | h' | h'
        · exact h'
        · exact absurd h' hne
        · exact absurd h' hlt
      · exact hf g hg

theorem sortKeysAll_eq_map (items : List Tree) : sortKeysAll items = items.map sortKeys := by
  induction items with
  | nil => rfl
  | cons t rest ih => rw [sortKeysAll, ih, List.map_cons]

theorem sortKeysEntries_perm (entries : List (String × Tree)) :
    (sortKeysEntries entries).Perm (entries.map fun e => (e.1, e.2.sortKeys)) := by
  induction entries with
  | nil => exact .refl _
  | cons e rest ih =>
    rw [sortKeysEntries, List.map_cons]
    exact (insertByKey_perm _ _).trans (ih.cons _)

theorem pairwise_sortKeysEntries {entries : List (String × Tree)}
    (h : (entries.map Prod.fst).Nodup) : (sortKeysEntries entries).Pairwise (·.1 < ·.1) := by
  induction entries with
  | nil => exact .nil
  | cons e rest ih =>
    obtain ⟨he, hrest⟩ := List.nodup_cons.1 h
    rw [sortKeysEntries]
    refine pairwise_insertByKey (ih hrest) fun f hf heq => he ?_
    obtain ⟨g, hg, rfl⟩ := List.mem_map.1 ((sortKeysEntries_perm rest).mem_iff.1 hf)
    have hkey : g.1 = e.1 := heq
    exact hkey ▸ List.mem_map_of_mem hg

/-! ## Forms -/

/-- What the canonical text of a tree tells: the tree with sorted tables, and with NaN in place of
every number that is not finite. -/
def form (t : Tree) : Tree := t.sortKeys.masked

theorem canonical_eq_iff {t u : Tree} : Json.canonical t = Json.canonical u ↔ t.form = u.form :=
  Json.compact_eq_iff

@[simp] theorem form_bool (b : Bool) : form (.bool b) = .bool b := rfl

@[simp] theorem form_text (s : String) : form (.text s) = .text s := rfl

theorem form_list (items : List Tree) : form (.list items) = .list (items.map form) := by
  unfold form
  rw [sortKeys, masked, sortKeysAll_eq_map, maskedAll_eq_map, List.map_map]
  rfl

/-- The entries of a table with the forms of their trees. -/
def formed (entries : List (String × Tree)) : List (String × Tree) :=
  entries.map fun e => (e.1, e.2.form)

theorem form_table (entries : List (String × Tree)) :
    form (.table entries) = .table ((sortKeysEntries entries).map fun e => (e.1, e.2.masked)) := by
  unfold form
  rw [sortKeys, masked, maskedEntries_eq_map]

theorem sorted_form_perm (entries : List (String × Tree)) :
    ((sortKeysEntries entries).map fun e => (e.1, e.2.masked)).Perm (formed entries) := by
  have := (sortKeysEntries_perm entries).map fun e => (e.1, e.2.masked)
  rwa [List.map_map] at this

/-- In the form of a table the order of its entries is gone, and nothing else. -/
theorem form_table_eq_iff {entries entries' : List (String × Tree)}
    (h : (entries.map Prod.fst).Nodup) (h' : (entries'.map Prod.fst).Nodup) :
    form (.table entries) = form (.table entries') ↔ (formed entries).Perm (formed entries') := by
  rw [form_table, form_table]
  constructor
  · intro heq
    have hsame := sorted_form_perm entries
    rw [Tree.table.inj heq] at hsame
    exact hsame.symm.trans (sorted_form_perm entries')
  · intro hperm
    have hsorted {entries : List (String × Tree)} (h : (entries.map Prod.fst).Nodup) :
        ((sortKeysEntries entries).map fun e => (e.1, e.2.masked)).Pairwise (·.1 < ·.1) :=
      List.pairwise_map.2 (pairwise_sortKeysEntries h)
    refine congrArg Tree.table (List.Perm.eq_of_pairwise ?_ (hsorted h) (hsorted h') ?_)
    · intro a b _ _ hab hba
      exact absurd (String.lt_trans hab hba) (String.lt_irrefl _)
    · exact (sorted_form_perm entries).trans (hperm.trans (sorted_form_perm entries').symm)

/-- Lists of entries with the same keys in the same order are only rearranged if they are equal. -/
theorem perm_iff_eq_of_keys {l l' : List (String × Tree)}
    (hkeys : l.map Prod.fst = l'.map Prod.fst) (hnodup : (l.map Prod.fst).Nodup) :
    l.Perm l' ↔ l = l' := by
  constructor
  · intro hperm
    induction l generalizing l' with
    | nil => exact (List.nil_perm.1 hperm).symm
    | cons e rest ih =>
      cases l' with
      | nil => cases hkeys
      | cons e' rest' =>
        obtain ⟨-, hrestKeys⟩ := List.cons.inj hkeys
        obtain ⟨he, hrest⟩ := List.nodup_cons.1 hnodup
        have hsame : e = e' := by
          rcases List.mem_cons.1 (hperm.mem_iff.1 List.mem_cons_self) with h | h
          · exact h
          · exact absurd (hrestKeys ▸ List.mem_map_of_mem h) he
        subst hsame
        rw [ih hrestKeys hrest ((List.perm_cons e).1 hperm)]
  · rintro rfl
    exact .refl _

/-- Records differ in their forms exactly if some member does. -/
theorem form_record_eq_iff {entries entries' : List (String × Tree)}
    (hkeys : entries.map Prod.fst = entries'.map Prod.fst) (hnodup : (entries.map Prod.fst).Nodup) :
    form (.table entries) = form (.table entries') ↔ formed entries = formed entries' := by
  have hfst (entries : List (String × Tree)) : (formed entries).map Prod.fst = entries.map Prod.fst := by
    simp [formed, Function.comp_def]
  rw [form_table_eq_iff hnodup (hkeys ▸ hnodup), perm_iff_eq_of_keys]
  · rw [hfst, hfst, hkeys]
  · rwa [hfst]

end Tree

/-! ## Values -/

mutual

/-- The value with NaN in place of every number that is not finite. -/
def Value.masked : Value → Value
  | .float x => .float x.masked
  | .list items => .list (Value.maskedAll items)
  | .bool b => .bool b
  | .int n => .int n
  | .text s => .text s

def Value.maskedAll : List Value → List Value
  | [] => []
  | v :: vs => v.masked :: Value.maskedAll vs

end

mutual

/-- A value has no tables, so that its form is the value with its numbers masked. -/
theorem Value.form_toTree : (v : Value) → v.toTree.form = v.masked.toTree
  | .bool _ | .int _ | .text _ | .float _ => rfl
  | .list items => by
    rw [toTree, Tree.form_list, form_toTrees items, masked, toTree]

theorem Value.form_toTrees :
    (vs : List Value) → (Value.toTrees vs).map Tree.form = Value.toTrees (Value.maskedAll vs)
  | [] => rfl
  | v :: vs => by
    rw [toTrees, List.map_cons, form_toTree v, form_toTrees vs, maskedAll, toTrees]

end

mutual

theorem Value.toTree_injective : (v w : Value) → v.toTree = w.toTree → v = w
  | .list items, w, h => by
    cases w with
    | list items' => rw [toTrees_injective items items' (Tree.list.inj h)]
    | bool | int | float | text => cases h
  | .bool _, w, h | .int _, w, h | .float _, w, h | .text _, w, h => by
    cases w <;> cases h
    rfl

theorem Value.toTrees_injective :
    (vs ws : List Value) → Value.toTrees vs = Value.toTrees ws → vs = ws
  | [], [], _ => rfl
  | [], _ :: _, h | _ :: _, [], h => nomatch h
  | v :: vs, w :: ws, h => by
    obtain ⟨hv, hvs⟩ := List.cons.inj h
    rw [toTree_injective v w hv, toTrees_injective vs ws hvs]

end

/-- Two values cannot be told apart in a text: they differ in numbers that are not finite at most. -/
def Value.SameText (v w : Value) : Prop := v.masked = w.masked

theorem Value.form_eq_iff {v w : Value} : v.toTree.form = w.toTree.form ↔ v.SameText w := by
  rw [form_toTree, form_toTree]
  exact ⟨toTree_injective _ _, congrArg _⟩

/-! ## Maps, sets and annotations -/

section Maps
variable {α : Type} {f : α → Tree} {m n : OrderedMap α}

theorem OrderedMap.mem_formed_iff {e : String × Tree} :
    e ∈ Tree.formed (m.entries.map fun e => (e.1, f e.2)) ↔
      ∃ v, m.get? e.1 = some v ∧ (f v).form = e.2 := by
  simp only [Tree.formed, List.map_map, List.mem_map, Function.comp_apply, Prod.exists, Prod.ext_iff,
    get?_eq_some_iff]
  constructor
  · rintro ⟨key, v, hmem, rfl, hform⟩
    exact ⟨v, hmem, hform⟩
  · rintro ⟨v, hmem, hform⟩
    exact ⟨e.1, v, hmem, rfl, hform⟩

/-- The form of a map tells the forms of its values under their keys. -/
theorem OrderedMap.form_eq_iff :
    (m.toTree f).form = (n.toTree f).form ↔ m.Agree (fun v w => (f v).form = (f w).form) n := by
  have hkeys (m : OrderedMap α) : ((m.entries.map fun e => (e.1, f e.2)).map Prod.fst).Nodup := by
    simpa [Function.comp_def] using m.nodup
  have hformed (m : OrderedMap α) : (Tree.formed (m.entries.map fun e => (e.1, f e.2))).Nodup := by
    refine List.Nodup.of_map Prod.fst ?_
    simpa [Tree.formed, Function.comp_def] using m.nodup
  unfold toTree
  rw [Tree.form_table_eq_iff (hkeys m) (hkeys n), List.perm_ext_iff_of_nodup (hformed m) (hformed n)]
  simp only [mem_formed_iff, Prod.forall]
  constructor
  -- The forms that stand under a key decide whether there is a value and which form it has.
  · intro h key
    have hkey := h key
    generalize m.get? key = v, n.get? key = w at hkey
    cases v with
    | none =>
      cases w with
      | none => exact .none
      | some w => simpa using hkey (f w).form
    | some v =>
      obtain ⟨w', hw', hform⟩ := (hkey (f v).form).1 ⟨v, rfl, rfl⟩
      subst hw'
      exact .some hform.symm
  · intro h key t
    have hkey := h key
    generalize m.get? key = v, n.get? key = w at hkey
    cases hkey with
    | none => simp
    | some hform => simp [hform]

end Maps

/-- The form of a list tells the forms of its elements place by place. -/
theorem forms_eq_iff {α : Type} {f : α → Tree} {l l' : List α} :
    Tree.form (.list (l.map f)) = Tree.form (.list (l'.map f)) ↔
      List.Forall₂ (fun a b => (f a).form = (f b).form) l l' := by
  rw [Tree.form_list, Tree.form_list, Tree.list.injEq, ← List.forall₂_eq_eq_eq, List.map_map,
    List.map_map, List.forall₂_map_left_iff, List.forall₂_map_right_iff]
  rfl

theorem NameSet.form_eq_iff {s t : NameSet} : s.toTree.form = t.toTree.form ↔ s = t := by
  unfold toTree
  rw [forms_eq_iff]
  simp only [Tree.form_text, Tree.text.injEq, List.forall₂_eq_eq_eq]
  exact ⟨NameSet.ext, congrArg _⟩

theorem OrderedMap.agree_of_isEmpty {α : Type} {R : α → α → Prop} {m n : OrderedMap α}
    (hm : m.isEmpty = true) (hn : n.isEmpty = true) : m.Agree R n := by
  intro key
  rw [get?, List.isEmpty_iff.1 hm, get?, List.isEmpty_iff.1 hn]
  exact .none

theorem OrderedMap.Agree.isEmpty {α : Type} {R : α → α → Prop} {m n : OrderedMap α}
    (h : m.Agree R n) : m.isEmpty = n.isEmpty := by
  have hkeys := h.keys_perm.length_eq
  rw [keys, keys, List.length_map, List.length_map] at hkeys
  rw [Bool.eq_iff_iff, OrderedMap.isEmpty, OrderedMap.isEmpty, List.isEmpty_iff_length_eq_zero,
    List.isEmpty_iff_length_eq_zero, hkeys]

/-- The form of an annotation tells its kind and its attributes in any order, also where it has none
and they are left out. -/
theorem Annotation.form_eq_iff {a b : Annotation} :
    a.toTree.form = b.toTree.form ↔ a.Agree Value.SameText b := by
  have hattributes : (a.attributes.toTree Value.toTree).form = (b.attributes.toTree Value.toTree).form ↔
      a.attributes.Agree Value.SameText b.attributes := by
    rw [OrderedMap.form_eq_iff]
    simp only [Value.form_eq_iff]
  unfold toTree Agree
  cases ha : a.attributes.isEmpty <;> cases hb : b.attributes.isEmpty <;>
    simp only [Bool.false_eq_true, if_true, if_false]
  case true.true =>
    rw [Tree.form_record_eq_iff (by simp) (by simp)]
    simp [Tree.formed, OrderedMap.agree_of_isEmpty ha hb]
  case false.false =>
    rw [Tree.form_record_eq_iff (by simp) (by simp), ← hattributes]
    simp [Tree.formed]
  -- Tables of one entry and of two are never rearrangements of each other.
  case true.false | false.true =>
    rw [Tree.form_table_eq_iff (by simp) (by simp)]
    constructor
    · intro h
      simpa [Tree.formed] using h.length_eq
    · rintro ⟨-, h⟩
      simpa [ha, hb] using h.isEmpty

theorem annotations_form_eq_iff {l l' : List Annotation} :
    Tree.form (.list (l.map Annotation.toTree)) = Tree.form (.list (l'.map Annotation.toTree)) ↔
      AgreeAll Value.SameText l l' := by
  have hform (a b : Annotation) : a.toTree.form = b.toTree.form ↔ a.Agree Value.SameText b :=
    Annotation.form_eq_iff
  rw [forms_eq_iff]
  simp only [hform]

/-! ## Configurations -/

theorem ClassFilter.form_eq_iff {f g : ClassFilter} : f.toTree.form = g.toTree.form ↔ f = g := by
  unfold toTree
  rw [Tree.form_record_eq_iff (by simp) (by simp)]
  simp only [Tree.formed, List.map_cons, List.map_nil, List.cons.injEq, Prod.mk.injEq, true_and,
    and_true, NameSet.form_eq_iff, Tree.form_text, Tree.text.injEq]
  cases f
  cases g
  simp

theorem JpaOptions.form_eq_iff {o p : JpaOptions} : o.toTree.form = p.toTree.form ↔ o = p := by
  unfold toTree
  rw [Tree.form_record_eq_iff (by simp) (by simp)]
  simp only [Tree.formed, List.map_cons, List.map_nil, List.cons.injEq, Prod.mk.injEq, true_and,
    and_true, NameSet.form_eq_iff, Tree.form_bool, Tree.bool.injEq]
  cases o
  cases p
  simp

theorem Options.form_eq_iff {o p : Options} :
    o.toTree.form = p.toTree.form ↔ o.Agree Value.SameText p := by
  unfold toTree ValidationOptions.toTree
  rw [Tree.form_record_eq_iff (by simp) (by simp)]
  simp only [Tree.formed, List.map_cons, List.map_nil, List.cons.injEq, Prod.mk.injEq, true_and,
    and_true, NameSet.form_eq_iff, JpaOptions.form_eq_iff, OrderedMap.form_eq_iff,
    annotations_form_eq_iff]
  rw [Tree.form_record_eq_iff (by simp) (by simp)]
  simp only [Tree.formed, List.map_cons, List.map_nil, List.cons.injEq, Prod.mk.injEq, true_and,
    and_true, Tree.form_bool, Tree.bool.injEq, Annotation.form_eq_iff]
  constructor
  · rintro ⟨h1, ⟨h2, h3, h4⟩, h5, h6, h7, h8, h9⟩
    exact ⟨h1, h2, h3, h4, h5, h6, h7, h8, h9⟩
  · rintro ⟨h1, h2, h3, h4, h5, h6, h7, h8, h9⟩
    exact ⟨h1, ⟨h2, h3, h4⟩, h5, h6, h7, h8, h9⟩

structure Config.Agree (R : Value → Value → Prop) (c d : Config) : Prop where
  filter : c.filter = d.filter
  options : c.options.Agree R d.options

/-- Two configurations have one canonical text exactly if they agree, where numbers that are not
finite count as the same. -/
theorem Config.canonicalText_eq_iff {c d : Config} :
    c.canonicalText = d.canonicalText ↔ c.Agree Value.SameText d := by
  unfold canonicalText
  rw [Tree.canonical_eq_iff, toTree, toTree, Tree.form_record_eq_iff (by simp) (by simp)]
  simp only [Tree.formed, List.map_cons, List.map_nil, List.cons.injEq, Prod.mk.injEq, true_and,
    and_true, ClassFilter.form_eq_iff, Options.form_eq_iff]
  exact ⟨fun ⟨h1, h2⟩ => ⟨h1, h2⟩, fun ⟨h1, h2⟩ => ⟨h1, h2⟩⟩

/-! ## Finite configurations -/

mutual

/-- Whether every number in a value is finite. -/
def Value.isFinite : Value → Bool
  | .float x => x.isFinite
  | .list items => Value.allFinite items
  | .bool _ | .int _ | .text _ => true

def Value.allFinite : List Value → Bool
  | [] => true
  | v :: vs => v.isFinite && Value.allFinite vs

end

theorem Binary64.eq_of_masked_eq {x y : Binary64} (hx : x.isFinite = true)
    (h : x.masked = y.masked) : x = y := by
  unfold masked at h
  rw [if_pos hx] at h
  split at h
  · exact h
  · rw [h] at hx
    exact absurd hx (by decide)

mutual

/-- A value without numbers that are not finite is told by its text. -/
theorem Value.eq_of_sameText : (v w : Value) → v.isFinite = true → v.masked = w.masked → v = w
  | .list items, w, hv, h => by
    cases w with
    | list items' => rw [eq_of_sameTexts items items' hv (Value.list.inj h)]
    | bool | int | float | text => cases h
  | .float x, w, hv, h => by
    cases w with
    | float y => rw [Binary64.eq_of_masked_eq hv (Value.float.inj h)]
    | bool | int | text | list => cases h
  | .bool _, w, _, h | .int _, w, _, h | .text _, w, _, h => by
    cases w <;> cases h
    rfl

theorem Value.eq_of_sameTexts : (vs ws : List Value) → Value.allFinite vs = true →
    Value.maskedAll vs = Value.maskedAll ws → vs = ws
  | [], [], _, _ => rfl
  | [], _ :: _, _, h | _ :: _, [], _, h => nomatch h
  | v :: vs, w :: ws, hvs, h => by
    obtain ⟨hv, hvs⟩ := Bool.and_eq_true_iff.1 hvs
    obtain ⟨hhead, htail⟩ := List.cons.inj h
    rw [eq_of_sameText v w hv hhead, eq_of_sameTexts vs ws hvs htail]

end

/-- Every number in the attributes is finite. -/
def Annotation.Finite (a : Annotation) : Prop := ∀ e ∈ a.attributes.entries, e.2.isFinite = true

/-- Every number in the annotations of a configuration is finite. -/
structure Config.Finite (c : Config) : Prop where
  policy : ∀ entry ∈ c.options.policy.entries, ∀ a ∈ entry.2, a.Finite
  nullOrNotBlank : c.options.validation.nullOrNotBlank.Finite

/-- The canonical text of a configuration whose numbers are finite tells its filter, its switches and
sets, its policy in any order of the types, and the annotations in it down to the bits of their values,
in any order of attributes. -/
theorem Config.canonicalText_eq_iff_of_finite {c d : Config} (hc : c.Finite) :
    c.canonicalText = d.canonicalText ↔ c.Agree Eq d := by
  rw [canonicalText_eq_iff]
  constructor
  · rintro ⟨hfilter, hoptions⟩
    refine ⟨hfilter, { hoptions with policy := ?_, nullOrNotBlank := ?_ }⟩
    · refine hoptions.policy.imp fun entry hentry l' h => h.imp fun a ha e he w => ?_
      exact Value.eq_of_sameText e.2 w (hc.policy entry hentry a ha e he)
    · refine hoptions.nullOrNotBlank.imp fun e he w => ?_
      exact Value.eq_of_sameText e.2 w (hc.nullOrNotBlank e he)
  · rintro ⟨hfilter, hoptions⟩
    have hsame (v w : Value) : v = w → v.SameText w := congrArg Value.masked
    refine ⟨hfilter, { hoptions with policy := ?_, nullOrNotBlank := ?_ }⟩
    · exact hoptions.policy.imp fun _ _ _ h => h.imp fun _ _ e _ w => hsame e.2 w
    · exact hoptions.nullOrNotBlank.imp fun e _ w => hsame e.2 w

/-- Two orders of one configuration with a number that is not whole. -/
theorem twoWayConfig_same_text :
    Config.Finite ⟨Samples.filter, Samples.twoWayOptions false⟩ ∧
      Config.canonicalText ⟨Samples.filter, Samples.twoWayOptions false⟩ =
        Config.canonicalText ⟨Samples.filter, Samples.twoWayOptions true⟩ := by
  have hfinite : Config.Finite ⟨Samples.filter, Samples.twoWayOptions false⟩ :=
    ⟨by unfold Annotation.Finite; decide, by unfold Annotation.Finite; decide⟩
  exact ⟨hfinite, (Config.canonicalText_eq_iff_of_finite hfinite).2
    ⟨rfl, Samples.twoWayOptions_agree⟩⟩

end AutoAnnotate
