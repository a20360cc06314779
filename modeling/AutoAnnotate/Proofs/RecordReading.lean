import AutoAnnotate.Json.Reading
import AutoAnnotate.Proofs.JsonText
import AutoAnnotate.Proofs.Lookup
import Mathlib.Data.List.Perm.Basic
import Mathlib.Data.List.ReduceOption
/-!
# Records read from objects

An object says what a record says (`Conveys`) if it has the record's members, in any order, with the
exception of some that may be left out, and any other members. Reading such an object gives the record,
if each member fills in its part of the record (`Fits`), the parts are apart, and a member that is left
out would have filled in nothing new (`readRecord_of_conveys`).
-/

namespace AutoAnnotate.Json

open Draft (Member readMembers readRecord)

/-- What a record says under a name: the drafts that stand for it, and whether it may be left out. -/
structure Slot where
  name : String
  Stands : Draft → Prop
  Omittable : Prop

/-- The record's own members in an object, each of them there or left out. -/
inductive Kept : List Slot → List (Draft × Draft) → Prop
  | nil : Kept [] []
  | keep {slot : Slot} {slots : List Slot} {d : Draft} {members : List (Draft × Draft)}
      (hd : slot.Stands d) (h : Kept slots members) :
      Kept (slot :: slots) ((.text slot.name, d) :: members)
  | leave {slot : Slot} {slots : List Slot} {members : List (Draft × Draft)}
      (ho : slot.Omittable) (h : Kept slots members) : Kept (slot :: slots) members

/-- A member of an object that the record does not know: any JSON value under any other name. -/
def Unknown (slots : List Slot) (member : Draft × Draft) : Prop :=
  ∃ name ∉ slots.map (·.name), member.1 = .text name ∧ ∃ cs, Spelled member.2 cs

/-- The draft is an object that says what a record says. -/
def Conveys (slots : List Slot) (d : Draft) : Prop :=
  ∃ members kept unknown, d = .object members none ∧ members.Perm (kept ++ unknown) ∧
    Kept slots kept ∧ ∀ member ∈ unknown, Unknown slots member

/-! ## What members do -/

section Members
variable {σ : Type}

/-- Reading a member fills in a part of the record. A member that may be left out fills in nothing new
at the start. -/
structure Fits (start : σ) (m : Member σ) (slot : Slot) (fill : σ → σ) : Prop where
  name : m.name = slot.name
  read : ∀ d s, slot.Stands d → m.read d s = .ok (fill s)
  leave : slot.Omittable → m.required = false ∧ fill start = start

inductive AllFit (start : σ) : List (Member σ) → List Slot → List (σ → σ) → Prop
  | nil : AllFit start [] [] []
  | cons {m : Member σ} {slot : Slot} {fill : σ → σ} {ms : List (Member σ)} {slots : List Slot}
      {fills : List (σ → σ)} (h : Fits start m slot fill) (rest : AllFit start ms slots fills) :
      AllFit start (m :: ms) (slot :: slots) (fill :: fills)

/-- What reading a member of an object does to the record: under the name of one of the record's own
members something, otherwise nothing. -/
inductive Acts (ms : List (Member σ)) : Draft × Draft → Option (String × (σ → σ)) → Prop
  | known {m : Member σ} {d : Draft} {fill : σ → σ} (hm : ms.find? (·.name = m.name) = some m)
      (hread : ∀ s, m.read d s = .ok (fill s)) : Acts ms (.text m.name, d) (some (m.name, fill))
  | unknown {name : String} {d : Draft} (hm : ms.find? (·.name = name) = none)
      (hpass : d.pass = .ok ()) : Acts ms (.text name, d) none

/-- The record with all parts filled in, one after the other. -/
def fillAll (fills : List (σ → σ)) (s : σ) : σ := fills.foldl (fun s fill => fill s) s

variable {start : σ} {ms : List (Member σ)} {slots : List Slot} {fills : List (σ → σ)}

theorem AllFit.names (h : AllFit start ms slots fills) : ms.map (·.name) = slots.map (·.name) := by
  induction h with
  | nil => rfl
  | cons h _ ih => rw [List.map_cons, List.map_cons, h.name, ih]

theorem fillAll_cons (fill : σ → σ) (s : σ) : fillAll (fill :: fills) s = fillAll fills (fill s) := rfl

/-- The members of an object whose names differ are read one after the other. -/
theorem readMembers_of_acts {members : List (Draft × Draft)}
    {acts : List (Option (String × (σ → σ)))} (h : List.Forall₂ (Acts ms) members acts)
    (seen : List String) (s : σ) (hnodup : (acts.reduceOption.map Prod.fst ++ seen).Nodup) :
    ∃ seen', readMembers ms members seen s =
        .ok (seen', fillAll (acts.reduceOption.map Prod.snd) s) ∧
      ∀ name ∈ acts.reduceOption.map Prod.fst ++ seen, name ∈ seen' := by
  induction h generalizing seen s with
  | nil => exact ⟨seen, rfl, fun _ hname => hname⟩
  | @cons member act members acts hact _ ih =>
    cases hact with
    | @unknown name d hm hpass =>
      obtain ⟨seen', hread, hseen⟩ := ih seen s hnodup
      refine ⟨seen', ?_, hseen⟩
      simp only [readMembers, Draft.readText, bind, Except.bind, hm, hpass]
      exact hread
    | @known m d fill hm hread =>
      simp only [List.reduceOption_cons_of_some, List.map_cons, List.cons_append] at hnodup ⊢
      obtain ⟨hnew, hrest⟩ := List.nodup_cons.1 hnodup
      have hmiddle : (acts.reduceOption.map Prod.fst ++ m.name :: seen).Nodup :=
        List.perm_middle.nodup_iff.2 (List.nodup_cons.2 ⟨hnew, hrest⟩)
      obtain ⟨seen', hrun, hseen⟩ := ih (m.name :: seen) (fill s) hmiddle
      have hunseen : m.name ∉ seen := by
        intro hmem
        exact hnew (List.mem_append_right _ hmem)
      refine ⟨seen', ?_, ?_⟩
      · simp only [readMembers, Draft.readText, bind, Except.bind, hm, hread, if_neg hunseen]
        exact hrun
      · intro name hname
        exact hseen name (List.perm_middle.mem_iff.2 hname)

/-- The parts of a record are apart: it does not matter which of two is filled in first. -/
def Apart (fills : List (σ → σ)) : Prop := fills.Pairwise fun f g => ∀ s, f (g s) = g (f s)

theorem Apart.commute (h : Apart fills) {f g : σ → σ} (hf : f ∈ fills) (hg : g ∈ fills) (s : σ) :
    f (g s) = g (f s) := by
  have : Std.Symm fun f g : σ → σ => ∀ s, f (g s) = g (f s) := ⟨fun _ _ hfg s => (hfg s).symm⟩
  exact h.forall_of_forall (fun _ _ _ => rfl) hf hg s

/-- The members that are there fill in what all would. -/
theorem Kept.acts {all : List (Member σ)} (h : AllFit start ms slots fills) (hapart : Apart fills)
    (hall : ∀ m ∈ ms, all.find? (·.name = m.name) = some m) {members : List (Draft × Draft)}
    (hkept : Kept slots members) :
    ∃ acts : List (String × (σ → σ)), List.Forall₂ (Acts all) members (acts.map some) ∧
      (acts.map Prod.fst).Sublist (slots.map (·.name)) ∧ (acts.map Prod.snd).Sublist fills ∧
      (∀ m ∈ ms, m.required = true → m.name ∈ acts.map Prod.fst) ∧
      ∀ s, (∀ fill ∈ fills, fill start = start → fill s = s) →
        fillAll (acts.map Prod.snd) s = fillAll fills s := by
  induction h generalizing members with
  | nil =>
    cases hkept
    exact ⟨[], .nil, .slnil, .slnil, List.forall_mem_nil _, fun _ _ => rfl⟩
  | @cons m slot fill ms slots fills hfit _ ih =>
    obtain ⟨hfill, hrest⟩ := List.pairwise_cons.1 hapart
    obtain ⟨hfind, hfinds⟩ := List.forall_mem_cons.1 hall
    cases hkept with
    | keep hd hkept =>
      obtain ⟨acts, hacts, hnames, hfills, hrequired, hall⟩ := ih hrest hfinds hkept
      refine ⟨(m.name, fill) :: acts, ?_, ?_, ?_, ?_, ?_⟩
      · rw [← hfit.name]
        exact .cons (.known hfind fun s => hfit.read _ s hd) hacts
      · rw [List.map_cons, List.map_cons, hfit.name]
        exact hnames.cons_cons _
      · exact hfills.cons_cons _
      · intro m' hm' hreq
        rcases List.mem_cons.1 hm' with rfl | hm'
        · exact List.mem_cons_self
        · exact List.mem_cons_of_mem _ (hrequired m' hm' hreq)
      · intro s hs
        apply hall (fill s)
        intro g hg hstart
        rw [← hfill g hg, hs g (List.mem_cons_of_mem _ hg) hstart]
    | leave ho hkept =>
      obtain ⟨acts, hacts, hnames, hfills, hrequired, hall⟩ := ih hrest hfinds hkept
      obtain ⟨hoptional, hstart⟩ := hfit.leave ho
      refine ⟨acts, hacts, hnames.cons _, hfills.cons _, ?_, ?_⟩
      · intro m' hm' hreq
        rcases List.mem_cons.1 hm' with rfl | hm'
        · rw [hoptional] at hreq
          cases hreq
        · exact hrequired m' hm' hreq
      · intro s hs
        rw [fillAll_cons, hs fill List.mem_cons_self hstart]
        apply hall s
        intro g hg
        exact hs g (List.mem_cons_of_mem _ hg)

/-- An object that says what a record says is read as that record. -/
theorem readRecord_of_conveys {d : Draft} (h : AllFit start ms slots fills)
    (hnames : (slots.map (·.name)).Nodup) (hapart : Apart fills) (hd : Conveys slots d) :
    readRecord ms start d = .ok (fillAll fills start) := by
  obtain ⟨members, kept, unknown, rfl, hperm, hkept, hunknown⟩ := hd
  have hmembers : (ms.map (·.name)).Nodup := h.names ▸ hnames
  obtain ⟨acts, hacts, hactNames, hactFills, hrequired, hfill⟩ :=
    hkept.acts h hapart fun m hm => find?_of_mem hmembers hm
  have hnothing : List.Forall₂ (Acts ms) unknown (unknown.map fun _ => none) := by
    rw [List.forall₂_map_right_iff, List.forall₂_same]
    rintro ⟨key, d⟩ hmember
    obtain ⟨name, hname, rfl, cs, hspelled⟩ := hunknown _ hmember
    exact .unknown (find?_eq_none_iff_key.2 (h.names ▸ hname)) hspelled.pass
  -- In the order of the object, the actions are those of the record's members and some that are none.
  obtain ⟨acts', hacts', hactsPerm⟩ := List.perm_comp_forall₂ hperm (List.rel_append hacts hnothing)
  have hreduced : acts'.reduceOption.Perm acts := by
    have hsome : (acts.map some ++ unknown.map fun _ => none).reduceOption = acts := by
      simp [List.reduceOption, List.filterMap_map]
    rw [← hsome]
    exact hactsPerm.filterMap id
  have hnodup : (acts'.reduceOption.map Prod.fst ++ []).Nodup := by
    rw [List.append_nil]
    exact (hreduced.map _).nodup_iff.2 (hactNames.nodup hnames)
  obtain ⟨seen, hread, hseen⟩ := readMembers_of_acts hacts' [] start hnodup
  have hcommute : ∀ f ∈ acts'.reduceOption.map Prod.snd, ∀ g ∈ acts'.reduceOption.map Prod.snd,
      ∀ s, g (f s) = f (g s) := by
    intro f hf g hg
    have hmem {fill : σ → σ} (h : fill ∈ acts'.reduceOption.map Prod.snd) : fill ∈ fills :=
      hactFills.subset ((hreduced.map _).mem_iff.1 h)
    exact hapart.commute (hmem hg) (hmem hf)
  have hresult : fillAll (acts'.reduceOption.map Prod.snd) start = fillAll fills start :=
    ((hreduced.map Prod.snd).foldl_eq' hcommute start).trans (hfill start fun _ _ hstart => hstart)
  have hnone : (ms.any fun m => m.required && m.name ∉ seen) = false := by
    rw [List.any_eq_false]
    intro m hm hmissing
    obtain ⟨hreq, hunseen⟩ := Bool.and_eq_true_iff.1 hmissing
    refine of_decide_eq_true hunseen (hseen m.name ?_)
    rw [List.append_nil]
    exact (hreduced.map Prod.fst).mem_iff.2 (hrequired m hm hreq)
  rw [hresult] at hread
  simp only [readRecord, hread, bind, Except.bind, Draft.clear, hnone]
  rfl

end Members

end AutoAnnotate.Json
