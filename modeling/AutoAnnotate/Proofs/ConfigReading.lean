import AutoAnnotate.Config.Text
import AutoAnnotate.Proofs.JsonWriting
import AutoAnnotate.Proofs.Merge
import AutoAnnotate.Proofs.RecordReading
import AutoAnnotate.Samples
import Mathlib.Data.List.Sort
/-!
# Configurations read back from JSON

A configuration is read from every JSON text that says what it says: the text that is written for it, and
any that differs from it in space, in the order of members, in members that nothing knows, and in members
that are left out because they are the default (`Config.ofJson_toJson`).

What each record says is a list of slots (`Config.slots` and the other `slots`). Values, sets and the
lists between brackets stand as they are written; annotations, wherever they are, may vary as the other
records do.
-/

namespace AutoAnnotate

open Json

/-! ## What the records say -/

/-- A slot for a tree as it is written. -/
def Json.Slot.written (name : String) (t : Tree) (omittable : Prop) : Slot :=
  ⟨name, fun d => d = t.draft, omittable⟩

def Annotation.slots (a : Annotation) : List Slot :=
  [.written "kind" (.text a.kind) False,
   .written "attributes" (a.attributes.toTree Value.toTree) (a.attributes = {})]

/-- The draft is an array that says what annotations say, place by place. -/
def ConveysAnnotations (annotations : List Annotation) (d : Draft) : Prop :=
  ∃ items, d = .array items none ∧
    List.Forall₂ (fun a item => Conveys a.slots item) annotations items

/-- The draft is an object that says what a policy says, in its order. -/
def ConveysPolicy (policy : OrderedMap (List Annotation)) (d : Draft) : Prop :=
  ∃ members, d = .object members none ∧
    List.Forall₂ (fun entry member => member.1 = .text entry.1 ∧ ConveysAnnotations entry.2 member.2)
      policy.entries members

def ClassFilter.slots (f : ClassFilter) : List Slot :=
  [.written "package_prefix" (.text f.packagePrefix)
     (f.packagePrefix = ({} : ClassFilter).packagePrefix),
   .written "marker_annotations" f.markers.toTree (f.markers = ({} : ClassFilter).markers),
   .written "ignored_annotations" f.ignored.toTree (f.ignored = ({} : ClassFilter).ignored)]

def ValidationOptions.slots (o : ValidationOptions) : List Slot :=
  [.written "infer_not_null_constraint" (.bool o.inferNotNull)
     (o.inferNotNull = ({} : ValidationOptions).inferNotNull),
   .written "infer_strings_not_blank_constraints" (.bool o.inferNotBlank)
     (o.inferNotBlank = ({} : ValidationOptions).inferNotBlank),
   ⟨"null_or_not_blank_annotation", Conveys o.nullOrNotBlank.slots,
     o.nullOrNotBlank = ({} : ValidationOptions).nullOrNotBlank⟩]

def JpaOptions.slots (o : JpaOptions) : List Slot :=
  [.written "infer_column_nullable" (.bool o.inferNullable)
     (o.inferNullable = ({} : JpaOptions).inferNullable),
   .written "infer_column_length" (.bool o.inferLength) (o.inferLength = ({} : JpaOptions).inferLength),
   .written "jpa_class_annotations" o.classMarkers.toTree
     (o.classMarkers = ({} : JpaOptions).classMarkers),
   .written "annotations_that_preclude_column_annotation" o.precluding.toTree
     (o.precluding = ({} : JpaOptions).precluding)]

def Options.slots (o : Options) : List Slot :=
  [⟨"annotations_by_field_type", ConveysPolicy o.policy, o.policy = ({} : Options).policy⟩,
   ⟨"validation_annotations", Conveys o.validation.slots, o.validation = ({} : Options).validation⟩,
   ⟨"jpa_annotations", Conveys o.jpa.slots, o.jpa = ({} : Options).jpa⟩,
   .written "ignored_field_annotations" o.ignoredFields.toTree
     (o.ignoredFields = ({} : Options).ignoredFields),
   .written "non_null_annotations" o.nonNull.toTree (o.nonNull = ({} : Options).nonNull),
   .written "nullable_annotations" o.nullable.toTree (o.nullable = ({} : Options).nullable),
   .written "text_types" o.textTypes.toTree (o.textTypes = ({} : Options).textTypes)]

def Config.slots (c : Config) : List Slot :=
  [⟨"class_filter", Conveys c.filter.slots, c.filter = ({} : Config).filter⟩,
   ⟨"class_options", Conveys c.options.slots, c.options = ({} : Config).options⟩]

/-! ## Lists, maps and values -/

section Parts
variable {α : Type} {read : Draft → Except Fault α} {R : α → Draft → Prop}

theorem mapM_of_forall₂ {ε β : Type} {f : β → Except ε α} {as : List α} {bs : List β}
    (h : List.Forall₂ (fun a b => f b = .ok a) as bs) : bs.mapM f = .ok as := by
  induction h with
  | nil => rfl
  | cons hf _ ih =>
    rw [List.mapM_cons, hf, ih]
    rfl

theorem readList_of_forall₂ (hread : ∀ a d, R a d → read d = .ok a) {as : List α}
    {items : List Draft} (h : List.Forall₂ R as items) :
    Draft.readList read (.array items none) = .ok as := by
  have hmap : items.mapM read = .ok as := mapM_of_forall₂ (h.imp hread)
  simp only [Draft.readList, hmap]
  rfl

theorem OrderedMap.foldl_insert {entries : List (String × α)} (m : OrderedMap α)
    (h : ((m.entries ++ entries).map Prod.fst).Nodup) :
    (entries.foldl (fun m e => m.insert e.1 e.2) m).entries = m.entries ++ entries := by
  induction entries generalizing m with
  | nil => simp
  | cons e rest ih =>
    have hnew : m.contains e.1 = false := by
      rw [← Bool.not_eq_true, OrderedMap.contains_iff]
      exact key_not_mem_of_nodup h
    have hentries := OrderedMap.entries_insert_of_not_contains e.2 hnew
    rw [List.foldl_cons, ih, hentries]
    · simp
    · rw [hentries]
      simpa using h

theorem OrderedMap.ofList_entries (m : OrderedMap α) : OrderedMap.ofList m.entries = m := by
  have hnodup : ((OrderedMap.empty.entries ++ m.entries).map Prod.fst).Nodup := m.nodup
  exact OrderedMap.ext (OrderedMap.foldl_insert OrderedMap.empty hnodup)

theorem readMap_of_forall₂ (hread : ∀ a d, R a d → read d = .ok a) {m : OrderedMap α}
    {members : List (Draft × Draft)}
    (h : List.Forall₂ (fun entry member => member.1 = .text entry.1 ∧ R entry.2 member.2)
      m.entries members) : Draft.readMap read (.object members none) = .ok m := by
  have hmap : (members.mapM fun e => do
      let key ← e.1.readText
      return (key, ← read e.2)) = .ok m.entries := by
    apply mapM_of_forall₂
    apply h.imp
    rintro entry member ⟨hkey, hvalue⟩
    rw [hkey, hread _ _ hvalue]
    rfl
  simp only [Draft.readMap, hmap]
  show Except.ok (OrderedMap.ofList m.entries) = _
  rw [OrderedMap.ofList_entries]

end Parts

mutual

/-- The variant of a value is told by its draft. -/
theorem readAny_toTree : (v : Value) → v.toTree.draft.readAny = .ok (some v)
  | .bool _ | .int _ | .float _ | .text _ => rfl
  | .list items => by
    show (Draft.array (Tree.drafts (Value.toTrees items)) none).readAny = _
    rw [Draft.readAny, readAnyAll_toTrees items]
    rfl

theorem readAnyAll_toTrees :
    (vs : List Value) → Draft.readAnyAll (Tree.drafts (Value.toTrees vs)) = .ok (some vs)
  | [] => rfl
  | v :: vs => by
    show Draft.readAnyAll (v.toTree.draft :: Tree.drafts (Value.toTrees vs)) = _
    rw [Draft.readAnyAll, readAny_toTree v, readAnyAll_toTrees vs]
    rfl

end

theorem readValue_toTree (v : Value) : v.toTree.draft.readValue = .ok v := by
  rw [Draft.readValue, readAny_toTree v]
  rfl

theorem readAttributes_toTree (m : OrderedMap Value) :
    reader.map reader.value (m.toTree Value.toTree).draft = .ok m := by
  show Draft.readMap Draft.readValue (.object (Tree.memberDrafts _) none) = _
  rw [Tree.memberDrafts_eq_map]
  refine readMap_of_forall₂ (R := fun v d => d = v.toTree.draft) ?_ ?_
  · rintro v d rfl
    exact readValue_toTree v
  · rw [List.map_map]
    exact List.forall₂_map_right_iff.2 (List.forall₂_same.2 fun e _ => ⟨rfl, rfl⟩)

theorem NameSet.ofList_toList (s : NameSet) : NameSet.ofList s.toList = s :=
  NameSet.ext ((ofList s.toList).sorted.eq_of_mem_iff s.sorted fun _ => mem_ofList)

theorem readNames_toTree (s : NameSet) : TreeReader.names reader s.toTree.draft = .ok s := by
  have hlist : Draft.readList Draft.readText s.toTree.draft = .ok s.toList := by
    show Draft.readList Draft.readText (.array (Tree.drafts (s.toList.map .text)) none) = _
    rw [Tree.drafts_eq_map, List.map_map]
    refine readList_of_forall₂ (R := fun name d => d = .text name) ?_ ?_
    · rintro name d rfl
      rfl
    · exact List.forall₂_map_right_iff.2 (List.forall₂_same.2 fun _ _ => rfl)
  show (do return NameSet.ofList (← Draft.readList Draft.readText s.toTree.draft)) = _
  rw [hlist]
  show Except.ok (NameSet.ofList s.toList) = _
  rw [NameSet.ofList_toList]

/-! ## Records -/

section Fits
variable {σ α : Type} {start : σ} {name : String} {read : Draft → Except Fault α}
  {put : σ → α → σ} {v v₀ : α}

/-- The action of a member: what it has read is put into the record. -/
theorem put_of_read {d : Draft} (h : read d = .ok v) (s : σ) :
    (do return put s (← read d)) = .ok (put s v) := by
  rw [h]
  rfl

theorem fits_optional {Stands : Draft → Prop} (hread : ∀ d, Stands d → read d = .ok v)
    (hstart : put start v₀ = start) :
    Fits start (TreeReader.optional name read put) ⟨name, Stands, v = v₀⟩ (put · v) where
  name := rfl
  read := by
    intro d s hd
    exact put_of_read (hread d hd) s
  leave := by
    rintro rfl
    exact ⟨rfl, hstart⟩

theorem fits_required {Stands : Draft → Prop} (hread : ∀ d, Stands d → read d = .ok v) :
    Fits start (TreeReader.required name read put) ⟨name, Stands, False⟩ (put · v) where
  name := rfl
  read := by
    intro d s hd
    exact put_of_read (hread d hd) s
  leave := False.elim

/-- Reading what is written as it is written. -/
theorem read_written {t : Tree} (h : read t.draft = .ok v) (d : Draft) (hd : d = t.draft) :
    read d = .ok v := hd ▸ h

end Fits

theorem Annotation.read_of_conveys {a : Annotation} {d : Draft} (h : Conveys a.slots d) :
    reader.annotation d = .ok a := by
  show Draft.readRecord _ _ d = _
  refine (readRecord_of_conveys (.cons (fits_required ?_) <| .cons (fits_optional ?_ rfl) .nil)
    ?_ ?_ h).trans rfl
  · exact read_written rfl
  · exact read_written (readAttributes_toTree a.attributes)
  · simp
  · simp [Apart]

theorem readAnnotations_of_conveys {annotations : List Annotation} {d : Draft}
    (h : ConveysAnnotations annotations d) : reader.annotations d = .ok annotations := by
  obtain ⟨items, rfl, hitems⟩ := h
  apply readList_of_forall₂ _ hitems
  intro a item ha
  exact Annotation.read_of_conveys ha

theorem readPolicy_of_conveys {policy : OrderedMap (List Annotation)} {d : Draft}
    (h : ConveysPolicy policy d) : reader.map reader.annotations d = .ok policy := by
  obtain ⟨members, rfl, hmembers⟩ := h
  apply readMap_of_forall₂ _ hmembers
  intro annotations d hannotations
  exact readAnnotations_of_conveys hannotations

theorem ClassFilter.read_of_conveys {f : ClassFilter} {d : Draft} (h : Conveys f.slots d) :
    reader.filter d = .ok f := by
  show Draft.readRecord _ _ d = _
  refine (readRecord_of_conveys (.cons (fits_optional ?_ rfl) <| .cons (fits_optional ?_ rfl) <|
    .cons (fits_optional ?_ rfl) .nil) ?_ ?_ h).trans rfl
  · exact read_written rfl
  · exact read_written (readNames_toTree f.markers)
  · exact read_written (readNames_toTree f.ignored)
  · simp
  · simp [Apart]

theorem ValidationOptions.read_of_conveys {o : ValidationOptions} {d : Draft} (h : Conveys o.slots d) :
    reader.validation d = .ok o := by
  show Draft.readRecord _ _ d = _
  refine (readRecord_of_conveys (.cons (fits_optional ?_ rfl) <| .cons (fits_optional ?_ rfl) <|
    .cons (fits_optional ?_ rfl) .nil) ?_ ?_ h).trans rfl
  · exact read_written rfl
  · exact read_written rfl
  · exact fun _ => Annotation.read_of_conveys
  · simp
  · simp [Apart]

theorem JpaOptions.read_of_conveys {o : JpaOptions} {d : Draft} (h : Conveys o.slots d) :
    reader.jpa d = .ok o := by
  show Draft.readRecord _ _ d = _
  refine (readRecord_of_conveys (.cons (fits_optional ?_ rfl) <| .cons (fits_optional ?_ rfl) <|
    .cons (fits_optional ?_ rfl) <| .cons (fits_optional ?_ rfl) .nil) ?_ ?_ h).trans rfl
  · exact read_written rfl
  · exact read_written rfl
  · exact read_written (readNames_toTree o.classMarkers)
  · exact read_written (readNames_toTree o.precluding)
  · simp
  · simp [Apart]

theorem Options.read_of_conveys {o : Options} {d : Draft} (h : Conveys o.slots d) :
    reader.options d = .ok o := by
  show Draft.readRecord _ _ d = _
  refine (readRecord_of_conveys (.cons (fits_optional ?_ rfl) <| .cons (fits_optional ?_ rfl) <|
    .cons (fits_optional ?_ rfl) <| .cons (fits_optional ?_ rfl) <| .cons (fits_optional ?_ rfl) <|
    .cons (fits_optional ?_ rfl) <| .cons (fits_optional ?_ rfl) .nil) ?_ ?_ h).trans rfl
  · exact fun _ => readPolicy_of_conveys
  · exact fun _ => ValidationOptions.read_of_conveys
  · exact fun _ => JpaOptions.read_of_conveys
  · exact read_written (readNames_toTree o.ignoredFields)
  · exact read_written (readNames_toTree o.nonNull)
  · exact read_written (readNames_toTree o.nullable)
  · exact read_written (readNames_toTree o.textTypes)
  · simp
  · simp [Apart]

theorem Config.read_of_conveys {c : Config} {d : Draft} (h : Conveys c.slots d) :
    reader.config d = .ok c := by
  show Draft.readRecord _ _ d = _
  refine (readRecord_of_conveys (.cons (fits_optional ?_ rfl) <| .cons (fits_optional ?_ rfl) .nil)
    ?_ ?_ h).trans rfl
  · exact fun _ => ClassFilter.read_of_conveys
  · exact fun _ => Options.read_of_conveys
  · simp
  · simp [Apart]

/-! ## What is written says what the record says -/

/-- An object with the record's own members only, in order. -/
theorem conveys_of_kept {slots : List Slot} {members : List (Draft × Draft)} (h : Kept slots members) :
    Conveys slots (.object members none) :=
  ⟨members, members, [], rfl, by simp, h, List.forall_mem_nil _⟩

theorem Annotation.conveys_toTree (a : Annotation) : Conveys a.slots a.toTree.draft := by
  unfold toTree
  by_cases hempty : a.attributes.isEmpty = true
  · have hnone : a.attributes = {} := OrderedMap.ext (List.isEmpty_iff.1 hempty)
    rw [if_pos hempty]
    exact conveys_of_kept (.keep rfl (.leave hnone .nil))
  · rw [if_neg hempty]
    exact conveys_of_kept (.keep rfl (.keep rfl .nil))

theorem conveysAnnotations_toTree (annotations : List Annotation) :
    ConveysAnnotations annotations (Tree.list (annotations.map Annotation.toTree)).draft := by
  refine ⟨_, rfl, ?_⟩
  rw [Tree.drafts_eq_map, List.map_map]
  exact List.forall₂_map_right_iff.2 (List.forall₂_same.2 fun a _ => a.conveys_toTree)

theorem conveysPolicy_toTree (policy : OrderedMap (List Annotation)) :
    ConveysPolicy policy
      (policy.toTree fun annotations => .list (annotations.map Annotation.toTree)).draft := by
  refine ⟨_, rfl, ?_⟩
  rw [Tree.memberDrafts_eq_map, List.map_map]
  exact List.forall₂_map_right_iff.2
    (List.forall₂_same.2 fun e _ => ⟨rfl, conveysAnnotations_toTree e.2⟩)

theorem ClassFilter.conveys_toTree (f : ClassFilter) : Conveys f.slots f.toTree.draft :=
  conveys_of_kept (.keep rfl (.keep rfl (.keep rfl .nil)))

theorem ValidationOptions.conveys_toTree (o : ValidationOptions) : Conveys o.slots o.toTree.draft :=
  conveys_of_kept (.keep rfl (.keep rfl (.keep o.nullOrNotBlank.conveys_toTree .nil)))

theorem JpaOptions.conveys_toTree (o : JpaOptions) : Conveys o.slots o.toTree.draft :=
  conveys_of_kept (.keep rfl (.keep rfl (.keep rfl (.keep rfl .nil))))

theorem Options.conveys_toTree (o : Options) : Conveys o.slots o.toTree.draft :=
  conveys_of_kept (.keep (conveysPolicy_toTree o.policy) (.keep o.validation.conveys_toTree
    (.keep o.jpa.conveys_toTree (.keep rfl (.keep rfl (.keep rfl (.keep rfl .nil)))))))

theorem Config.conveys_toTree (c : Config) : Conveys c.slots c.toTree.draft :=
  conveys_of_kept (.keep c.filter.conveys_toTree (.keep c.options.conveys_toTree .nil))

/-! ## Texts -/

/-- A text that says what a configuration says is read as the configuration. -/
theorem Config.ofJson_of_conveys {c : Config} {d : Draft} {s : String} (hd : Conveys c.slots d)
    (hdepth : d.depth ≤ Document.nestingLimit) (hs : Spells s d) : ofJson s = .ok c := by
  unfold ofJson AutoAnnotate.ofJson
  rw [Document.ofString_of_spells hs hdepth]
  show Except.mapError ConfigError.invalidJson (do
    let c ← reader.config d
    Draft.clear none
    return c) = _
  rw [Config.read_of_conveys hd]
  rfl

/-- A configuration is read back from the text that is written for it, and from every text that says
what it says. The numbers in it have to be read back as what they are. -/
theorem Config.ofJson_toJson {c : Config} (hfinite : ∀ x ∈ c.toTree.floats, x.isFinite = true)
    (hread : ∀ x ∈ c.toTree.floats, x.isFinite = true → x.ReadsBack)
    (hdepth : c.toTree.draft.depth ≤ Document.nestingLimit) :
    ofJson c.toJson = .ok c ∧
      ∀ d s, Conveys c.slots d → d.depth ≤ Document.nestingLimit → Spells s d → ofJson s = .ok c := by
  constructor
  · apply ofJson_of_conveys c.conveys_toTree hdepth
    apply spells_pretty
    intro x hx
    exact ⟨hfinite x hx, hread x hx (hfinite x hx)⟩
  · intro d s hd hnested hs
    exact ofJson_of_conveys hd hnested hs

/-- The policy of a configuration with a bound, written with more and in another order. -/
def Samples.loosePolicy (max : Binary64) : Tree :=
  .table [("int", .list [.table [("attributes", .table [("max", .float max)]),
    ("kind", .text "Limit"), ("since", .int 3)]])]

/-- The configuration written with more, and without what is the default. -/
def Samples.looseLimit (max : Binary64) : Tree :=
  .table [("comment", .list [.text "bounds"]),
    ("class_options", .table [("annotations_by_field_type", loosePolicy max)])]

theorem Samples.conveys_loosePolicy (max : Binary64) :
    ConveysPolicy (limitConfig max).options.policy (loosePolicy max).draft := by
  have hlimit : Conveys (⟨"Limit", .ofList [("max", .float max)]⟩ : Annotation).slots
      (Tree.draft (.table [("attributes", .table [("max", .float max)]), ("kind", .text "Limit"),
        ("since", .int 3)])) := by
    refine ⟨_, [(.text "kind", .text "Limit"), (.text "attributes", _)],
      [(.text "since", .number (.int 3))], rfl, .swap _ _ [_], .keep rfl (.keep rfl .nil), ?_⟩
    intro member hmember
    obtain rfl := List.mem_singleton.1 hmember
    exact ⟨"since", by simp [Slot.written, Annotation.slots], rfl, _, spelled_int 3⟩
  refine ⟨[(.text "int", .array [_] none)], rfl, .cons ⟨rfl, ?_⟩ .nil⟩
  exact ⟨_, rfl, .cons hlimit .nil⟩

theorem Samples.conveys_looseLimit (max : Binary64) :
    Conveys (limitConfig max).slots (looseLimit max).draft := by
  have hoptions : Conveys (limitConfig max).options.slots
      (Tree.draft (.table [("annotations_by_field_type", loosePolicy max)])) :=
    conveys_of_kept (.keep (conveys_loosePolicy max) (.leave rfl (.leave rfl (.leave rfl (.leave rfl
      (.leave rfl (.leave rfl .nil)))))))
  refine ⟨_, [(.text "class_options", _)], [(.text "comment", .array [.text "bounds"] none)], rfl,
    .swap _ _ [], .leave rfl (.keep hoptions .nil), ?_⟩
  intro member hmember
  obtain rfl := List.mem_singleton.1 hmember
  exact ⟨"comment", by simp [Config.slots], rfl, _,
    spelled_prettyAt (.list [.text "bounds"]) 0 (List.forall_mem_nil _)⟩

/-- A bound of one and a half is read back, from its own text and from a looser one. -/
theorem Config.limitConfig_ofJson_toJson :
    let x := Binary64.ofRatio false 3 2
    ofJson (Samples.limitConfig x).toJson = .ok (Samples.limitConfig x) ∧
      ofJson (pretty (Samples.looseLimit x)) = .ok (Samples.limitConfig x) := by
  intro x
  have hfinite : x.isFinite = true := by decide +kernel
  have hreads : x.ReadsBack := by
    unfold Binary64.ReadsBack
    decide +kernel
  have hfloats : (Samples.limitConfig x).toTree.floats = [x] := by decide +kernel
  have hloose : (Samples.looseLimit x).floats = [x] := by decide +kernel
  obtain ⟨hread, hall⟩ := Config.ofJson_toJson (c := Samples.limitConfig x)
    (by simpa [hfloats] using hfinite) (by simpa [hfloats] using fun _ => hreads) (by decide +kernel)
  refine ⟨hread, hall _ _ (Samples.conveys_looseLimit x) (by decide +kernel) (spells_pretty ?_)⟩
  simpa [hloose] using ⟨hfinite, hreads⟩

end AutoAnnotate
