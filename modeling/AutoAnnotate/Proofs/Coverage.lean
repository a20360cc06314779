import AutoAnnotate.Proofs.Agreement
/-!
# Rules that say all that other rules say

A list of rules is covered by another one if that names all its kinds and gives all its attributes
the same values. What it adds to a field is then in what the other one adds
(`CoveredBy.keptIn_additions`).

Because the value given first stays, rules that say more can also say something else: it matters
where the new rules stand. Behind the same rules they do no harm (`CoveredBy.append_left`), and in
front of other rules they do none if they leave their attributes alone (`CoveredBy.append`).
-/

namespace AutoAnnotate

/-- The value that rules give an attribute of a kind. -/
def given? (rules : List Annotation) (kind name : String) : Option Value :=
  (gathered rules kind).attributes.get? name

/-- All kinds that rules name, and all values that they give, are also in other rules. -/
structure CoveredBy (rules rules' : List Annotation) : Prop where
  kinds : rules.map (·.kind) ⊆ rules'.map (·.kind)
  values : ∀ kind name v, given? rules kind name = some v → given? rules' kind name = some v

/-- No attribute of a kind has a value in both lists. -/
def Independent (rules rules' : List Annotation) : Prop :=
  ∀ a ∈ rules, ∀ b ∈ rules', a.kind = b.kind → ∀ name,
    a.attributes.get? name = none ∨ b.attributes.get? name = none

section CoveredBy
variable {rules rules' more more' before : List Annotation} {kind name : String} {v : Value}

theorem given?_append (rules more : List Annotation) (kind name : String) :
    given? (rules ++ more) kind name = (given? rules kind name).or (given? more kind name) := by
  simp only [given?, get?_gathered, List.filter_append, List.findSome?_append]

theorem exists_of_given? (h : given? rules kind name = some v) :
    ∃ a ∈ rules, a.kind = kind ∧ a.attributes.get? name = some v := by
  rw [given?, get?_gathered] at h
  obtain ⟨a, ha, hv⟩ := List.exists_of_findSome?_eq_some h
  obtain ⟨hmem, hkind⟩ := List.mem_filter.1 ha
  exact ⟨a, hmem, by simpa using hkind, hv⟩

theorem given?_eq_none (h : kind ∉ rules.map (·.kind)) : given? rules kind name = none := by
  rw [Option.eq_none_iff_forall_ne_some]
  intro v hv
  obtain ⟨a, ha, rfl, -⟩ := exists_of_given? hv
  exact h (List.mem_map_of_mem ha)

theorem CoveredBy.refl (rules : List Annotation) : CoveredBy rules rules :=
  ⟨List.Subset.refl _, fun _ _ _ h => h⟩

theorem CoveredBy.nil (rules : List Annotation) : CoveredBy [] rules :=
  ⟨List.nil_subset _, fun _ _ _ h => by cases h⟩

theorem CoveredBy.ite {p q : Prop} [Decidable p] [Decidable q] (hpq : p → q)
    (h : p → CoveredBy rules rules') :
    CoveredBy (if p then rules else []) (if q then rules' else []) := by
  by_cases hp : p
  · rw [if_pos hp, if_pos (hpq hp)]
    exact h hp
  · rw [if_neg hp]
    exact .nil _

theorem Independent.ite {p q : Prop} [Decidable p] [Decidable q] (h : Independent rules rules') :
    Independent (if p then rules else []) (if q then rules' else []) := by
  split
  · split
    · exact h
    · exact fun _ _ _ hb => nomatch hb
  · exact fun _ ha => nomatch ha

theorem independent_singleton {a b : Annotation} (h : ∀ name,
    a.attributes.get? name = none ∨ b.attributes.get? name = none) : Independent [a] [b] := by
  intro a' ha b' hb _
  rw [List.mem_singleton.1 ha, List.mem_singleton.1 hb]
  exact h

/-- Rules behind the same rules say nothing new about what these have given. -/
theorem CoveredBy.append_left (h : CoveredBy more more') (rules : List Annotation) :
    CoveredBy (rules ++ more) (rules ++ more') where
  kinds := by
    rw [List.map_append, List.map_append]
    exact List.append_subset.2
      ⟨List.subset_append_left _ _, List.subset_append_of_subset_right _ h.kinds⟩
  values := by
    intro kind name v hv
    rw [given?_append] at hv ⊢
    cases hr : given? rules kind name with
    | some w => rwa [hr] at hv
    | none =>
      rw [hr] at hv
      exact h.values kind name v hv

/-- What covers the first rules must not give a value before the second rules give theirs. -/
theorem CoveredBy.append (h : CoveredBy rules rules') (hmore : CoveredBy more more')
    (hi : Independent rules' more) : CoveredBy (rules ++ more) (rules' ++ more') where
  kinds := by
    rw [List.map_append, List.map_append]
    exact List.append_subset.2
      ⟨List.subset_append_of_subset_left _ h.kinds,
        List.subset_append_of_subset_right _ hmore.kinds⟩
  values := by
    intro kind name v hv
    rw [given?_append] at hv ⊢
    cases hr : given? rules kind name with
    | some w =>
      rw [hr] at hv
      rw [h.values kind name w hr]
      exact hv
    | none =>
      rw [hr] at hv
      have hsecond : given? more kind name = some v := hv
      have hfirst : given? rules' kind name = none := by
        rw [Option.eq_none_iff_forall_ne_some]
        intro w hw
        obtain ⟨a, ha, rfl, haw⟩ := exists_of_given? hw
        obtain ⟨b, hb, hkind, hbv⟩ := exists_of_given? hsecond
        rcases hi a ha b hb hkind.symm name with hnone | hnone
        · exact Option.some_ne_none w (haw.symm.trans hnone)
        · exact Option.some_ne_none v (hbv.symm.trans hnone)
      rw [hfirst]
      exact hmore.values kind name v hsecond

theorem get?_withAttribute_marker_of_ne {kind key name : String} {value : Value} (h : key ≠ name) :
    (.withAttribute (.marker kind) key value : Annotation).attributes.get? name = none := by
  have hentries : (.withAttribute (.marker kind) key value : Annotation).attributes.entries =
      [(key, value)] := rfl
  rw [OrderedMap.get?, hentries, List.find?_cons_of_neg (by simpa using h)]
  rfl

/-! ## Annotations merged into a list -/

/-- Every annotation of a list has one of its kind in the other list, with all its attributes. -/
def KeptIn (l l' : List Annotation) : Prop :=
  ∀ a ∈ l, ∃ a' ∈ l', a'.kind = a.kind ∧
    ∀ name v, a.attributes.get? name = some v → a'.attributes.get? name = some v

theorem gathered_mem_additions (hrules : kind ∈ rules.map (·.kind))
    (hbefore : kind ∉ before.map (·.kind)) : gathered rules kind ∈ additions before rules := by
  obtain ⟨b, hb, rfl⟩ := List.mem_map.1 ((mem_map_firstsBy (·.kind) rules).2 hrules)
  exact List.mem_map.2 ⟨b, List.mem_filter.2 ⟨hb, by simpa using hbefore⟩, rfl⟩

theorem eq_gathered_of_mem_additions {a : Annotation} (h : a ∈ additions before rules) :
    a = gathered rules a.kind := by
  obtain ⟨b, -, rfl⟩ := List.mem_map.1 h
  rfl

theorem CoveredBy.keptIn_additions (h : CoveredBy rules rules') (before : List Annotation) :
    KeptIn (additions before rules) (additions before rules') := by
  intro a ha
  obtain ⟨hrules, hbefore⟩ := mem_kinds_additions.1 (List.mem_map_of_mem ha)
  refine ⟨gathered rules' a.kind, gathered_mem_additions (h.kinds hrules) hbefore, rfl, ?_⟩
  intro name v hv
  rw [eq_gathered_of_mem_additions ha] at hv
  exact h.values a.kind name v hv

/-- An attribute in a merged list is what it was before, if its kind was there, and otherwise what
the rules give it. -/
theorem attribute_merged (before rules : List Annotation) (kind name : String) :
    (annotation? (merged before rules) kind).bind (·.attributes.get? name) =
      if kind ∈ before.map (·.kind) then (annotation? before kind).bind (·.attributes.get? name)
      else given? rules kind name := by
  unfold annotation? merged
  rw [List.find?_append]
  split
  · next hbefore =>
    obtain ⟨a, ha⟩ := annotation?_isSome hbefore
    rw [show before.find? (·.kind = kind) = some a from ha]
    rfl
  next hbefore =>
  rw [find?_eq_none_iff_key.2 hbefore, Option.none_or]
  by_cases hrules : kind ∈ rules.map (·.kind)
  · have hfound := find?_of_mem nodup_kinds_additions (gathered_mem_additions hrules hbefore)
    rw [show (additions before rules).find? (·.kind = kind) = some (gathered rules kind)
      from hfound]
    rfl
  · have hnone : kind ∉ (additions before rules).map (·.kind) := fun h =>
      hrules (mem_kinds_additions.1 h).1
    rw [find?_eq_none_iff_key.2 hnone, given?_eq_none hrules]
    rfl

theorem sizeLimit_eq_some_iff {l : List Annotation} {max : Int64} :
    sizeLimit l = some max ↔
      (annotation? l Vocabulary.size).bind (·.attributes.get? "max") = some (.int max) := by
  unfold sizeLimit
  generalize (annotation? l Vocabulary.size).bind (·.attributes.get? "max") = value
  cases value with
  | none => simp
  | some v => cases v <;> simp

/-- A size that some rules leave on a field is the one that the rules that cover them leave. -/
theorem CoveredBy.sizeLimit (h : CoveredBy rules rules') {max : Int64}
    (hmax : sizeLimit (merged before rules) = some max) :
    AutoAnnotate.sizeLimit (merged before rules') = some max := by
  rw [sizeLimit_eq_some_iff, attribute_merged] at hmax ⊢
  split at hmax
  · next hbefore => rwa [if_pos hbefore]
  · next hbefore =>
    rw [if_neg hbefore]
    exact h.values _ _ _ hmax

end CoveredBy

end AutoAnnotate
