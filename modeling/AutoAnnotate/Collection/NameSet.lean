/-!
# Sets of names

A `NameSet` lists its members in strictly ascending order, so every text made from a set names its
members in one order, whatever the order in which they were put in. Strings are compared character
by character by code point. `mem_insert` and `mem_ofList` say which members a set has.
-/

namespace AutoAnnotate

/-- A finite set of strings, listed in ascending order. -/
structure NameSet where
  toList : List String
  sorted : toList.Pairwise (· < ·)

namespace NameSet

@[ext] theorem ext {s t : NameSet} (h : s.toList = t.toList) : s = t := by
  cases s; cases t; cases h; rfl

instance : DecidableEq NameSet := fun s t =>
  decidable_of_iff (s.toList = t.toList) ⟨NameSet.ext, fun h => h ▸ rfl⟩

/-- The set without members. -/
def empty : NameSet := ⟨[], List.Pairwise.nil⟩

instance : EmptyCollection NameSet := ⟨empty⟩

instance : Inhabited NameSet := ⟨empty⟩

instance : Membership String NameSet := ⟨fun s name => name ∈ s.toList⟩

theorem mem_def {s : NameSet} {name : String} : name ∈ s ↔ name ∈ s.toList := Iff.rfl

instance (name : String) (s : NameSet) : Decidable (name ∈ s) :=
  inferInstanceAs (Decidable (name ∈ s.toList))

def isEmpty (s : NameSet) : Bool := s.toList.isEmpty

/-- Puts a name at its place in an ascending list, unless it is there. -/
def insertSorted (name : String) : List String → List String
  | [] => [name]
  | x :: rest =>
    if name < x then name :: x :: rest
    else if name = x then x :: rest
    else x :: insertSorted name rest

theorem mem_insertSorted {name x : String} {l : List String} :
    x ∈ insertSorted name l ↔ x = name ∨ x ∈ l := by
  induction l with
  | nil => simp [insertSorted]
  | cons y rest ih =>
    simp only [insertSorted]
    split
    · simp
    · split
      · next h => subst h; simp
      · simp only [List.mem_cons, ih]
        exact or_left_comm

theorem pairwise_insertSorted (name : String) {l : List String} (h : l.Pairwise (· < ·)) :
    (insertSorted name l).Pairwise (· < ·) := by
  induction l with
  | nil => simp [insertSorted]
  | cons y rest ih =>
    obtain ⟨hy, hrest⟩ := List.pairwise_cons.1 h
    simp only [insertSorted]
    split
    · next hlt =>
      refine List.pairwise_cons.2 ⟨fun z hz => ?_, h⟩
      rcases List.mem_cons.1 hz with rfl | hz
      · exact hlt
      · exact String.lt_trans hlt (hy z hz)
    · next hlt =>
      split
      · exact h
      · next hne =>
        refine List.pairwise_cons.2 ⟨fun z hz => ?_, ih hrest⟩
        rcases mem_insertSorted.1 hz with rfl | hz
        · rcases Std.lt_trichotomy y z with h' | h' | h'
          · exact h'
          · exact absurd h'.symm hne
          · exact absurd h' hlt
        · exact hy z hz

/-- The set with one more member. -/
def insert (s : NameSet) (name : String) : NameSet :=
  ⟨insertSorted name s.toList, pairwise_insertSorted name s.sorted⟩

theorem mem_insert {s : NameSet} {name x : String} : x ∈ s.insert name ↔ x = name ∨ x ∈ s :=
  mem_insertSorted

/-- The set of the names in a list. -/
def ofList (names : List String) : NameSet := names.foldl insert empty

theorem mem_foldl_insert {names : List String} {s : NameSet} {x : String} :
    x ∈ names.foldl insert s ↔ x ∈ names ∨ x ∈ s := by
  induction names generalizing s with
  | nil => simp
  | cons n rest ih =>
    simp only [List.foldl_cons, ih, mem_insert, List.mem_cons, or_assoc]
    exact or_left_comm

theorem mem_ofList {names : List String} {x : String} : x ∈ ofList names ↔ x ∈ names := by
  rw [ofList, mem_foldl_insert]
  exact ⟨fun h => h.elim id (fun h => absurd h (List.not_mem_nil)), .inl⟩

end NameSet

end AutoAnnotate
