/-!
# Maps that remember insertion order

An `OrderedMap` is a list of key and value pairs in which no key occurs twice. Inserting under a key
that is present replaces the value and keeps the key's place; inserting under a new key appends.
The keys after an insertion are given by `keys_insert`.
-/

namespace AutoAnnotate

/-- A map from strings to values, listed in the order in which its keys first came. -/
structure OrderedMap (α : Type) where
  entries : List (String × α)
  nodup : (entries.map Prod.fst).Nodup

namespace OrderedMap

variable {α : Type}

@[ext] theorem ext {m n : OrderedMap α} (h : m.entries = n.entries) : m = n := by
  cases m; cases n; cases h; rfl

instance [DecidableEq α] : DecidableEq (OrderedMap α) := fun m n =>
  decidable_of_iff (m.entries = n.entries) ⟨OrderedMap.ext, fun h => h ▸ rfl⟩

/-- The map without entries. -/
def empty : OrderedMap α := ⟨[], by simp⟩

instance : EmptyCollection (OrderedMap α) := ⟨empty⟩

instance : Inhabited (OrderedMap α) := ⟨empty⟩

/-- The keys in order. -/
def keys (m : OrderedMap α) : List String := m.entries.map Prod.fst

def isEmpty (m : OrderedMap α) : Bool := m.entries.isEmpty

/-- The value under a key. -/
def get? (m : OrderedMap α) (key : String) : Option α :=
  (m.entries.find? (·.1 = key)).map Prod.snd

def contains (m : OrderedMap α) (key : String) : Bool := m.entries.any (·.1 = key)

/-- Replaces the value in the first entry with the key, or appends a new entry. -/
def insertEntry (key : String) (value : α) : List (String × α) → List (String × α)
  | [] => [(key, value)]
  | e :: rest => if e.1 = key then (key, value) :: rest else e :: insertEntry key value rest

theorem map_fst_insertEntry (key : String) (value : α) (es : List (String × α)) :
    (insertEntry key value es).map Prod.fst =
      if key ∈ es.map Prod.fst then es.map Prod.fst else es.map Prod.fst ++ [key] := by
  induction es with
  | nil => rfl
  | cons e rest ih =>
    by_cases h : e.1 = key
    · simp [insertEntry, h]
    · have h' : ¬key = e.1 := fun heq => h heq.symm
      simp only [insertEntry, h, if_false, List.map_cons, List.mem_cons, h', false_or, ih]
      split <;> rfl

/-- Puts a value under a key: in the key's old place, or at the end. -/
def insert (m : OrderedMap α) (key : String) (value : α) : OrderedMap α where
  entries := insertEntry key value m.entries
  nodup := by
    rw [map_fst_insertEntry]
    split
    · exact m.nodup
    · next h =>
      rw [List.nodup_append]
      refine ⟨m.nodup, by simp, ?_⟩
      intro a ha b hb
      rw [List.mem_singleton] at hb
      subst hb
      exact fun heq => h (heq ▸ ha)

theorem keys_insert (m : OrderedMap α) (key : String) (value : α) :
    (m.insert key value).keys = if key ∈ m.keys then m.keys else m.keys ++ [key] :=
  map_fst_insertEntry key value m.entries

/-- The map that arises from inserting the pairs one by one: a repeated key keeps its first place
and takes its last value. -/
def ofList (pairs : List (String × α)) : OrderedMap α :=
  pairs.foldl (fun m p => m.insert p.1 p.2) empty

end OrderedMap

end AutoAnnotate
