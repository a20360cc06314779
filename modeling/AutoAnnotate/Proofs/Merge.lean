import AutoAnnotate.Proofs.Lookup
/-!
# Annotations merged into a list

What is on a field after a list of annotations was made sure of on it, said without any order of
steps. `merged before rules` is the list `before` followed by `additions before rules`: one
annotation for each kind that `rules` name and `before` lacks, in the order in which the rules first
name the kinds, with all attributes that the rules give the kind, each with the value given first.

The three lemmas `additions_concat_*` say what one more rule does to the additions: nothing, if the
kind was there before; it completes the addition of its kind, if there is one; and it is appended
otherwise.
-/

namespace AutoAnnotate

/-! ## First occurrences -/

section FirstsBy
variable {α : Type} {key : α → String} {l l' : List α}

/-- The elements whose key no earlier element has. -/
def firstsBy (key : α → String) : List α → List α
  | [] => []
  | x :: rest => x :: (firstsBy key rest).filter fun y => key y ≠ key x

theorem mem_of_mem_firstsBy {x : α} (h : x ∈ firstsBy key l) : x ∈ l := by
  induction l with
  | nil => exact h
  | cons y rest ih =>
    rcases List.mem_cons.1 h with rfl | h
    · exact List.mem_cons_self
    · exact List.mem_cons_of_mem _ (ih (List.mem_filter.1 h).1)

theorem mem_map_firstsBy (key : α → String) (l : List α) {k : String} :
    k ∈ (firstsBy key l).map key ↔ k ∈ l.map key := by
  induction l with
  | nil => rfl
  | cons x rest ih =>
    by_cases hk : k = key x
    · simp [firstsBy, hk]
    · -- The filter takes away the key of `x` only.
      have hfilter : k ∈ ((firstsBy key rest).filter fun y => key y ≠ key x).map key ↔
          k ∈ (firstsBy key rest).map key := by
        simp only [List.mem_map, List.mem_filter, decide_eq_true_eq]
        constructor
        · rintro ⟨y, ⟨hy, -⟩, rfl⟩
          exact ⟨y, hy, rfl⟩
        · rintro ⟨y, hy, rfl⟩
          exact ⟨y, ⟨hy, hk⟩, rfl⟩
      rw [firstsBy, List.map_cons, List.map_cons, List.mem_cons, List.mem_cons, hfilter, ih]

theorem nodup_map_firstsBy (key : α → String) (l : List α) : ((firstsBy key l).map key).Nodup := by
  induction l with
  | nil => exact List.nodup_nil
  | cons x rest ih =>
    refine List.nodup_cons.2 ⟨?_, (List.filter_sublist.map key).nodup ih⟩
    intro hx
    obtain ⟨y, hy, hyx⟩ := List.mem_map.1 hx
    simpa [hyx] using (List.mem_filter.1 hy).2

theorem firstsBy_of_nodup (h : (l.map key).Nodup) : firstsBy key l = l := by
  induction l with
  | nil => rfl
  | cons x rest ih =>
    obtain ⟨hx, hrest⟩ := List.nodup_cons.1 h
    rw [firstsBy, ih hrest, List.filter_eq_self.2]
    intro y hy
    simpa using fun heq => hx (List.mem_map.2 ⟨y, hy, heq⟩)

theorem firstsBy_append :
    firstsBy key (l ++ l') =
      firstsBy key l ++ (firstsBy key l').filter fun y => key y ∉ l.map key := by
  induction l with
  | nil => simp [firstsBy]
  | cons x rest ih =>
    rw [List.cons_append, firstsBy, ih, List.filter_append, List.filter_filter, firstsBy]
    simp only [List.cons_append, List.map_cons, List.mem_cons, not_or, Bool.decide_and]

end FirstsBy

/-- The map of the pairs of a list, each key with its first value. -/
def OrderedMap.ofFirsts {α : Type} (pairs : List (String × α)) : OrderedMap α :=
  ⟨firstsBy Prod.fst pairs, nodup_map_firstsBy Prod.fst pairs⟩

/-! ## Attributes filled in -/

namespace OrderedMap

variable {α : Type}

theorem contains_iff {m : OrderedMap α} {key : String} :
    m.contains key = true ↔ key ∈ m.entries.map Prod.fst := by
  simp [contains]

theorem entries_insert_of_not_contains {m : OrderedMap α} {key : String} (value : α)
    (h : m.contains key = false) : (m.insert key value).entries = m.entries ++ [(key, value)] := by
  have hkey : ∀ e ∈ m.entries, e.1 ≠ key := by
    simpa [contains] using h
  show insertEntry key value m.entries = _
  revert hkey
  induction m.entries with
  | nil => intro _; rfl
  | cons e rest ih =>
    intro hkey
    rw [insertEntry, if_neg (hkey e List.mem_cons_self),
      ih fun e' he' => hkey e' (List.mem_cons_of_mem _ he')]
    rfl

end OrderedMap

namespace Annotation

@[ext] theorem ext {a b : Annotation} (hk : a.kind = b.kind)
    (he : a.attributes.entries = b.attributes.entries) : a = b := by
  obtain ⟨k, m⟩ := a
  obtain ⟨k', m'⟩ := b
  cases hk
  cases OrderedMap.ext he
  rfl

/-- The annotation with one attribute more, unless it has one of that name. -/
def supply (a : Annotation) (e : String × Value) : Annotation :=
  if a.attributes.contains e.1 then a else a.withAttribute e.1 e.2

/-- The annotation with the attributes of another one that it lacks. -/
def completedBy (a b : Annotation) : Annotation := b.attributes.entries.foldl supply a

theorem kind_supply (a : Annotation) (e : String × Value) : (a.supply e).kind = a.kind := by
  unfold supply
  split <;> rfl

theorem kind_foldl_supply (a : Annotation) (es : List (String × Value)) :
    (es.foldl supply a).kind = a.kind := by
  induction es generalizing a with
  | nil => rfl
  | cons e rest ih => rw [List.foldl_cons, ih, kind_supply]

@[simp] theorem kind_completedBy (a b : Annotation) : (a.completedBy b).kind = a.kind :=
  kind_foldl_supply a _

theorem entries_supply_of_not_contains {a : Annotation} {e : String × Value}
    (h : a.attributes.contains e.1 = false) :
    (a.supply e).attributes.entries = a.attributes.entries ++ [e] := by
  rw [supply, h]
  exact OrderedMap.entries_insert_of_not_contains e.2 h

theorem entries_foldl_supply (a : Annotation) (es : List (String × Value))
    (h : (es.map Prod.fst).Nodup) :
    (es.foldl supply a).attributes.entries =
      a.attributes.entries ++ es.filter fun e => e.1 ∉ a.attributes.entries.map Prod.fst := by
  induction es generalizing a with
  | nil => simp
  | cons e rest ih =>
    obtain ⟨he, hrest⟩ := List.nodup_cons.1 h
    rw [List.foldl_cons, ih _ hrest]
    by_cases hc : a.attributes.contains e.1 = true
    · -- The attribute is there, and the filter drops it.
      have hmem := OrderedMap.contains_iff.1 hc
      rw [supply, if_pos hc, List.filter_cons_of_neg (by simpa using hmem)]
    · have hmem : e.1 ∉ a.attributes.entries.map Prod.fst := mt OrderedMap.contains_iff.2 hc
      rw [entries_supply_of_not_contains (Bool.eq_false_iff.2 hc), List.append_assoc,
        List.filter_cons_of_pos (by simpa using hmem), List.singleton_append]
      -- The entries still to come have other keys, so `e` does not decide about them.
      congr 2
      refine List.filter_congr fun e' he' => decide_eq_decide.2 (not_congr ?_)
      have hne : e'.1 ≠ e.1 := fun heq => he (heq ▸ List.mem_map_of_mem he')
      simp [hne]

theorem entries_completedBy (a b : Annotation) :
    (a.completedBy b).attributes.entries = a.attributes.entries ++
      b.attributes.entries.filter fun e => e.1 ∉ a.attributes.entries.map Prod.fst :=
  entries_foldl_supply a _ b.attributes.nodup

end Annotation

/-! ## The additions -/

open Annotation (kind_completedBy entries_completedBy)

/-- What the rules say about a kind: all attributes they give it, each with its first value. -/
def gathered (rules : List Annotation) (kind : String) : Annotation :=
  ⟨kind, .ofFirsts ((rules.filter (·.kind = kind)).flatMap (·.attributes.entries))⟩

/-- What the rules add to a list of annotations. -/
def additions (before rules : List Annotation) : List Annotation :=
  ((firstsBy (·.kind) rules).filter fun a => a.kind ∉ before.map (·.kind)).map
    fun a => gathered rules a.kind

/-- A list of annotations with what the rules add. -/
def merged (before rules : List Annotation) : List Annotation := before ++ additions before rules

/-- Whether the list names every kind that the rules name, so that they add nothing. -/
def Settled (before rules : List Annotation) : Prop :=
  ∀ a ∈ rules, a.kind ∈ before.map (·.kind)

section Additions
variable {before rules : List Annotation} {a : Annotation}

theorem gathered_concat {kind : String} (h : a.kind = kind) :
    gathered (rules ++ [a]) kind = (gathered rules kind).completedBy a := by
  have hone : [a].filter (·.kind = kind) = [a] := by simp [h]
  have hentries : ((rules ++ [a]).filter (·.kind = kind)).flatMap (·.attributes.entries) =
      (rules.filter (·.kind = kind)).flatMap (·.attributes.entries) ++ a.attributes.entries := by
    rw [List.filter_append, hone, List.flatMap_append, List.flatMap_singleton]
  refine Annotation.ext (by rw [kind_completedBy]; rfl) ?_
  rw [entries_completedBy]
  simp only [gathered, OrderedMap.ofFirsts]
  rw [hentries, firstsBy_append, firstsBy_of_nodup a.attributes.nodup]
  congr 1
  exact List.filter_congr fun e _ =>
    decide_eq_decide.2 (not_congr (mem_map_firstsBy Prod.fst _).symm)

theorem gathered_concat_of_ne {kind : String} (h : a.kind ≠ kind) :
    gathered (rules ++ [a]) kind = gathered rules kind := by
  simp [gathered, h]

theorem gathered_concat_of_not_mem (h : a.kind ∉ rules.map (·.kind)) :
    gathered (rules ++ [a]) a.kind = a := by
  have hnone : rules.filter (·.kind = a.kind) = [] := by
    rw [List.filter_eq_nil_iff]
    intro b hb
    simpa using fun heq => h (List.mem_map.2 ⟨b, hb, heq⟩)
  refine Annotation.ext rfl ?_
  simp only [gathered, OrderedMap.ofFirsts, List.filter_append, hnone]
  simp [firstsBy_of_nodup a.attributes.nodup]

theorem map_kind_additions : (additions before rules).map (·.kind) =
    ((firstsBy (·.kind) rules).filter fun a => a.kind ∉ before.map (·.kind)).map (·.kind) := by
  rw [additions, List.map_map]
  rfl

theorem mem_kinds_additions {kind : String} :
    kind ∈ (additions before rules).map (·.kind) ↔
      kind ∈ rules.map (·.kind) ∧ kind ∉ before.map (·.kind) := by
  rw [map_kind_additions, ← mem_map_firstsBy (·.kind) rules]
  simp only [List.mem_map, List.mem_filter, decide_eq_true_eq]
  constructor
  · rintro ⟨b, ⟨hb, hn⟩, rfl⟩
    exact ⟨⟨b, hb, rfl⟩, hn⟩
  · rintro ⟨⟨b, hb, rfl⟩, hn⟩
    exact ⟨b, ⟨hb, hn⟩, rfl⟩

theorem mem_kinds_merged {kind : String} :
    kind ∈ (merged before rules).map (·.kind) ↔
      kind ∈ before.map (·.kind) ∨ kind ∈ rules.map (·.kind) := by
  rw [merged, List.map_append, List.mem_append, mem_kinds_additions]
  tauto

theorem nodup_kinds_additions : ((additions before rules).map (·.kind)).Nodup := by
  rw [map_kind_additions]
  exact (List.filter_sublist.map _).nodup (nodup_map_firstsBy _ rules)

theorem settled_append {more : List Annotation} :
    Settled before (rules ++ more) ↔ Settled before rules ∧ Settled before more :=
  List.forall_mem_append

theorem additions_eq_nil (h : Settled before rules) : additions before rules = [] := by
  rw [additions, List.map_eq_nil_iff, List.filter_eq_nil_iff]
  intro b hb
  simpa using h b (mem_of_mem_firstsBy hb)

theorem merged_nil (before : List Annotation) : merged before [] = before :=
  List.append_nil before

theorem merged_of_settled (h : Settled before rules) : merged before rules = before := by
  rw [merged, additions_eq_nil h, List.append_nil]

/-! ## One rule more -/

theorem additions_concat_of_before (h : a.kind ∈ before.map (·.kind)) :
    additions before (rules ++ [a]) = additions before rules := by
  have hkeep : ∀ b ∈ (firstsBy (·.kind) rules).filter fun b => b.kind ∉ before.map (·.kind),
      gathered (rules ++ [a]) b.kind = gathered rules b.kind := by
    -- What is added is of a kind that `before` lacks, so it is not of the kind of `a`.
    intro b hb
    have hb' : b.kind ∉ before.map (·.kind) := by simpa using (List.mem_filter.1 hb).2
    exact gathered_concat_of_ne fun heq => hb' (heq ▸ h)
  have hnone : ([a].filter fun b => b.kind ∉ rules.map (·.kind)).filter
      (fun b => b.kind ∉ before.map (·.kind)) = [] := by
    rw [List.filter_filter]
    simpa using fun h' => absurd h (by simpa using h')
  rw [additions, firstsBy_append, List.filter_append, firstsBy_of_nodup (l := [a]) (by simp), hnone,
    List.append_nil]
  exact List.map_congr_left hkeep

theorem additions_concat_of_new (hbefore : a.kind ∉ before.map (·.kind))
    (hrules : a.kind ∉ rules.map (·.kind)) :
    additions before (rules ++ [a]) = additions before rules ++ [a] := by
  have hkeep : ∀ b ∈ (firstsBy (·.kind) rules).filter fun b => b.kind ∉ before.map (·.kind),
      gathered (rules ++ [a]) b.kind = gathered rules b.kind := by
    intro b hb
    have hb' := mem_of_mem_firstsBy (List.mem_filter.1 hb).1
    exact gathered_concat_of_ne fun heq => hrules (List.mem_map.2 ⟨b, hb', heq.symm⟩)
  have hone : ([a].filter fun b => b.kind ∉ rules.map (·.kind)).filter
      (fun b => b.kind ∉ before.map (·.kind)) = [a] := by
    rw [List.filter_cons_of_pos (by simpa using hrules), List.filter_nil,
      List.filter_cons_of_pos (by simpa using hbefore), List.filter_nil]
  rw [additions, firstsBy_append, List.filter_append, firstsBy_of_nodup (l := [a]) (by simp), hone,
    List.map_append, List.map_congr_left hkeep, List.map_singleton,
    gathered_concat_of_not_mem hrules]
  rfl

theorem additions_concat_of_again (hrules : a.kind ∈ rules.map (·.kind)) :
    additions before (rules ++ [a]) =
      Class.modifyFirst (·.kind = a.kind) (·.completedBy a) (additions before rules) := by
  have hnone : ([a].filter fun b => b.kind ∉ rules.map (·.kind)) = [] := by
    rw [List.filter_cons_of_neg (by simpa using hrules), List.filter_nil]
  rw [Class.modifyFirst_eq_map nodup_kinds_additions, additions, firstsBy_append,
    firstsBy_of_nodup (l := [a]) (by simp), hnone, List.append_nil, additions, List.map_map]
  refine List.map_congr_left fun b _ => ?_
  by_cases hb : b.kind = a.kind
  · rw [gathered_concat hb.symm]
    exact (if_pos hb).symm
  · rw [gathered_concat_of_ne (Ne.symm hb)]
    exact (if_neg hb).symm

example :
    merged [.marker "Size"]
      [.withAttribute (.marker "Column") "name" (.text "t"), .marker "Size",
        .withAttribute (.marker "Column") "nullable" (.bool false)] =
      [.marker "Size", ⟨"Column", .ofList [("name", .text "t"), ("nullable", .bool false)]⟩] := by
  decide

/-! ## Look-ups -/

theorem carriesAny_merged (before rules : List Annotation) (kinds : List String) :
    carriesAny (merged before rules) kinds = (carriesAny before kinds || carriesAny rules kinds) := by
  rw [Bool.eq_iff_iff, Bool.or_eq_true]
  simp only [carriesAny, List.any_eq_true, carries_iff, mem_kinds_merged, and_or_left, exists_or]

/-- Rules of other kinds do not change what an annotation is. -/
theorem annotation?_merged_append {more : List Annotation} {kind : String}
    (h : ∀ a ∈ more, a.kind ≠ kind) :
    annotation? (merged before (rules ++ more)) kind = annotation? (merged before rules) kind := by
  induction more generalizing rules with
  | nil => rw [List.append_nil]
  | cons a rest ih =>
    obtain ⟨ha, hrest⟩ := List.forall_mem_cons.1 h
    rw [← List.singleton_append, ← List.append_assoc, ih hrest]
    unfold annotation? merged
    rw [List.find?_append, List.find?_append]
    congr 1
    -- Each of the three things that one more rule can do leaves the other kinds alone.
    by_cases hbefore : a.kind ∈ before.map (·.kind)
    · rw [additions_concat_of_before hbefore]
    by_cases hrules : a.kind ∈ rules.map (·.kind)
    · rw [additions_concat_of_again hrules]
      refine Class.find?_modifyFirst_of_disjoint ?_ (fun x => by rw [kind_completedBy]) _
      intro x hx
      have hxa : x.kind = a.kind := by simpa using hx
      simpa [hxa] using ha
    · rw [additions_concat_of_new hbefore hrules, List.find?_append]
      simp [ha]

end Additions

end AutoAnnotate
