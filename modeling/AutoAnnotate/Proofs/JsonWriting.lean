import AutoAnnotate.Config.Text
import AutoAnnotate.Proofs.JsonText
/-!
# Written trees are JSON texts

A tree on many lines spells the draft that looks like it (`spelled_prettyAt`), provided that its
floating-point numbers are read back as what they are. A reader rounds a number twice, so that the
latter is not so for every number, and it never is for one that is not finite.
-/

namespace AutoAnnotate

open Json

mutual

/-- What a reader finds in a tree that is written. -/
def Tree.draft : Tree → Draft
  | .bool b => .bool b
  | .int n => .number (.int n)
  | .float x => .number (.float x)
  | .text s => .text s
  | .list items => .array (Tree.drafts items) none
  | .table entries => .object (Tree.memberDrafts entries) none

def Tree.drafts : List Tree → List Draft
  | [] => []
  | t :: rest => t.draft :: Tree.drafts rest

def Tree.memberDrafts : List (String × Tree) → List (Draft × Draft)
  | [] => []
  | (key, t) :: rest => (.text key, t.draft) :: Tree.memberDrafts rest

end

mutual

/-- The floating-point numbers in a tree. -/
def Tree.floats : Tree → List Binary64
  | .float x => [x]
  | .list items => Tree.floatsOfAll items
  | .table entries => Tree.floatsOfEntries entries
  | .bool _ | .int _ | .text _ => []

def Tree.floatsOfAll : List Tree → List Binary64
  | [] => []
  | t :: rest => t.floats ++ Tree.floatsOfAll rest

def Tree.floatsOfEntries : List (String × Tree) → List Binary64
  | [] => []
  | (_, t) :: rest => t.floats ++ Tree.floatsOfEntries rest

end

theorem Tree.drafts_eq_map (items : List Tree) : drafts items = items.map draft := by
  induction items with
  | nil => rfl
  | cons t rest ih => rw [drafts, ih, List.map_cons]

theorem Tree.memberDrafts_eq_map (entries : List (String × Tree)) :
    memberDrafts entries = entries.map fun e => (.text e.1, e.2.draft) := by
  induction entries with
  | nil => rfl
  | cons e rest ih => rw [memberDrafts, ih, List.map_cons]

theorem Tree.floatsOfAll_eq_flatMap (items : List Tree) : floatsOfAll items = items.flatMap floats := by
  induction items with
  | nil => rfl
  | cons t rest ih => rw [floatsOfAll, ih, List.flatMap_cons]

theorem Tree.floatsOfEntries_eq_flatMap (entries : List (String × Tree)) :
    floatsOfEntries entries = entries.flatMap fun e => e.2.floats := by
  induction entries with
  | nil => rfl
  | cons e rest ih => rw [floatsOfEntries, ih, List.flatMap_cons]

/-- A number that is written and read again is the same. -/
def Binary64.ReadsBack (x : Binary64) : Prop :=
  ofJson TreeReader.value (pretty (.float x)) = .ok (.float x)

/-- A sixteenth digit can be lost. -/
example : (Binary64.ofRatio false 1 11).isFinite = true ∧ ¬(Binary64.ofRatio false 1 11).ReadsBack := by
  unfold Binary64.ReadsBack
  decide +kernel

namespace Json

/-! ## Numbers -/

theorem numeralSpelled_int (n : Int) :
    NumeralSpelled ⟨decide (n < 0), Nat.toDigits 10 n.natAbs, none, none⟩ (toString n).toList := by
  have hzero : (Nat.toDigits 10 n.natAbs).head? = some '0' → (Nat.toDigits 10 n.natAbs).length = 1 := by
    intro h0
    by_cases hn : n.natAbs = 0
    · rw [hn]
      rfl
    · exact absurd h0 (head?_toDigits hn)
  have hspelled : NumeralSpelled ⟨decide (n < 0), Nat.toDigits 10 n.natAbs, none, none⟩ _ :=
    .intro (allDigits_toDigits n.natAbs) Nat.toDigits_ne_nil hzero .absent .absent
  rw [toList_toString_int]
  simpa using hspelled

theorem toNumber?_int (n : Int64) :
    Numeral.toNumber? ⟨decide (n.toInt < 0), Nat.toDigits 10 n.toInt.natAbs, none, none⟩ =
      some (.int n) := by
  have hlow := Int64.le_toInt n
  have hhigh := Int64.toInt_lt n
  have hpow : Nat.pow 2 63 = 9223372036854775808 := rfl
  simp only [Numeral.toNumber?, digitsValue_toDigits, Option.isNone_none, Bool.and_self, Bool.true_and]
  by_cases hneg : n.toInt < 0
  · have habs : -(n.toInt.natAbs : Int) = n.toInt := by omega
    have hbounds : 0 < n.toInt.natAbs ∧ n.toInt.natAbs ≤ Nat.pow 2 63 := by omega
    rw [habs, Int64.ofInt_toInt]
    simp [hneg, hbounds]
  · have habs : (n.toInt.natAbs : Int) = n.toInt := by omega
    have hbound : n.toInt.natAbs < Nat.pow 2 63 := by omega
    rw [← Int64.ofInt_eq_ofNat, habs, Int64.ofInt_toInt]
    simp [hneg, hbound]

/-- The text of an integer spells the integer. -/
theorem spelled_int (n : Int64) : Spelled (.number (.int n)) (toString n.toInt).toList := by
  have hdraft : Numeral.draft ⟨decide (n.toInt < 0), Nat.toDigits 10 n.toInt.natAbs, none, none⟩ =
      .number (.int n) := by
    rw [Numeral.draft, toNumber?_int]
  rw [← hdraft]
  exact .number (numeralSpelled_int n.toInt)

/-- A finite number is written as a number. -/
theorem numeralSpelled_float {x : Binary64} (h : x.isFinite = true) :
    ∃ n, NumeralSpelled n (FloatFormat.json.render x).toList := by
  obtain ⟨n, hn, hsign, -⟩ := FloatFormat.spellsRat_magnitude .json x
  rw [toList_render_json h]
  exact ⟨_, hn.signed hsign x.isNegative⟩

theorem Spelled.spells {s : String} {d : Draft} (h : Spelled d s.toList) : Spells s d :=
  ⟨[], s.toList, [], by simp, blank_nil, blank_nil, h⟩

/-- The text of a number spells the number if it is read back. -/
theorem spelled_float {x : Binary64} (hfinite : x.isFinite = true) (hread : x.ReadsBack) :
    Spelled (.number (.float x)) (FloatFormat.json.render x).toList := by
  obtain ⟨n, hn⟩ := numeralSpelled_float hfinite
  have hspelled : Spelled n.draft (FloatFormat.json.render x).toList := .number hn
  have hdepth : n.draft.depth ≤ Document.nestingLimit := by
    unfold Numeral.draft
    cases n.toNumber? <;> exact Nat.zero_le _
  have hdocument : Document.ofString (pretty (.float x)) = ⟨n.draft, none⟩ :=
    Document.ofString_of_spells hspelled.spells hdepth
  unfold Binary64.ReadsBack ofJson at hread
  rw [hdocument] at hread
  -- What is read is the number, so that this is what is spelled.
  have hdraft : n.draft = .number (.float x) := by
    unfold Numeral.draft at hread ⊢
    cases hnumber : n.toNumber? with
    | none =>
      rw [hnumber] at hread
      cases hread
    | some number =>
      rw [hnumber] at hread
      cases number with
      | int => cases hread
      | float y =>
        cases hread
        rfl
  rw [← hdraft]
  exact hspelled

/-! ## Trees -/

theorem blank_newLine (level : Nat) : Blank (newLine level).toList := by
  intro c hc
  simp only [newLine, String.toList_ofList, List.mem_cons, List.mem_replicate] at hc
  rcases hc with rfl | ⟨-, rfl⟩ <;> rfl

theorem prettyAll_eq_map (level : Nat) (items : List Tree) :
    prettyAll level items = items.map (prettyAt level) := by
  induction items with
  | nil => rfl
  | cons t rest ih => rw [prettyAll, ih, List.map_cons]

theorem prettyEntries_eq_map (level : Nat) (entries : List (String × Tree)) :
    prettyEntries level entries =
      entries.map fun e => encodeString e.1 ++ ": " ++ prettyAt level e.2 := by
  induction entries with
  | nil => rfl
  | cons e rest ih => rw [prettyEntries, ih, List.map_cons]

/-- The lines of a block behind its first part. -/
def laterLines (level : Nat) (parts : List String) (closing : Char) : List Char :=
  parts.flatMap (fun part => (',' :: (newLine (level + 1)).toList) ++ part.toList) ++
    ((newLine level).toList ++ [closing])

section Blocks
variable {level : Nat} {opening closing : Char}

theorem toList_block_nil :
    (block (String.singleton opening) (String.singleton closing) level []).toList =
      [opening, closing] := by
  simp [block]

theorem toList_block_cons {part : String} {rest : List String} :
    (block (String.singleton opening) (String.singleton closing) level (part :: rest)).toList =
      opening :: ((newLine (level + 1)).toList ++ (part.toList ++ laterLines level rest closing)) := by
  simp [block, laterLines, String.toList_intercalate, intercalate_cons, List.flatMap_map]

theorem itemsSpelled_laterLines {items : List Tree}
    (h : ∀ t ∈ items, Spelled t.draft (prettyAt (level + 1) t).toList) :
    ItemsSpelled false (items.map Tree.draft)
      (laterLines level (items.map (prettyAt (level + 1))) ']') := by
  unfold laterLines
  induction items with
  | nil => exact .close (blank_newLine level)
  | cons t rest ih =>
    obtain ⟨ht, hrest⟩ := List.forall_mem_cons.1 h
    rw [List.map_cons, List.map_cons, List.flatMap_cons, List.append_assoc, List.append_assoc]
    exact .item (.next blank_nil (blank_newLine _)) ht (ih hrest)

theorem spelled_list {items : List Tree}
    (h : ∀ t ∈ items, Spelled t.draft (prettyAt (level + 1) t).toList) :
    Spelled (Tree.list items).draft (prettyAt level (.list items)).toList := by
  show Spelled (.array (Tree.drafts items) none)
    (block (String.singleton '[') (String.singleton ']') level (prettyAll (level + 1) items)).toList
  rw [prettyAll_eq_map, Tree.drafts_eq_map]
  cases items with
  | nil =>
    rw [List.map_nil, List.map_nil, toList_block_nil]
    exact .array (.close blank_nil)
  | cons t rest =>
    obtain ⟨ht, hrest⟩ := List.forall_mem_cons.1 h
    rw [List.map_cons, List.map_cons, toList_block_cons]
    exact .array (.item (.first (blank_newLine _)) ht (itemsSpelled_laterLines hrest))

/-- An entry on its line: a key, a colon, a blank and a value. -/
theorem membersSpelled_entry {first : Bool} {e : String × Tree} {members : List (Draft × Draft)}
    {sep rest : List Char} (hsep : Separator first sep)
    (he : Spelled e.2.draft (prettyAt (level + 1) e.2).toList)
    (hrest : MembersSpelled false members rest) :
    MembersSpelled first ((.text e.1, e.2.draft) :: members)
      (sep ++ ((encodeString e.1 ++ ": " ++ prettyAt (level + 1) e.2).toList ++ rest)) := by
  have hspace : Blank [' '] := by simp [Blank, isSpace]
  have hmember : MembersSpelled first ((.text e.1, e.2.draft) :: members) _ :=
    .member hsep blank_nil hspace he hrest
  simpa using hmember

theorem membersSpelled_laterLines {entries : List (String × Tree)}
    (h : ∀ e ∈ entries, Spelled e.2.draft (prettyAt (level + 1) e.2).toList) :
    MembersSpelled false (entries.map fun e => (.text e.1, e.2.draft))
      (laterLines level
        (entries.map fun e => encodeString e.1 ++ ": " ++ prettyAt (level + 1) e.2) '\x7d') := by
  unfold laterLines
  induction entries with
  | nil => exact .close (blank_newLine level)
  | cons e rest ih =>
    obtain ⟨he, hrest⟩ := List.forall_mem_cons.1 h
    rw [List.map_cons, List.map_cons, List.flatMap_cons, List.append_assoc, List.append_assoc]
    exact membersSpelled_entry (.next blank_nil (blank_newLine _)) he (ih hrest)

theorem spelled_table {entries : List (String × Tree)}
    (h : ∀ e ∈ entries, Spelled e.2.draft (prettyAt (level + 1) e.2).toList) :
    Spelled (Tree.table entries).draft (prettyAt level (.table entries)).toList := by
  show Spelled (.object (Tree.memberDrafts entries) none) (block (String.singleton '\x7b')
    (String.singleton '\x7d') level (prettyEntries (level + 1) entries)).toList
  rw [prettyEntries_eq_map, Tree.memberDrafts_eq_map]
  cases entries with
  | nil =>
    rw [List.map_nil, List.map_nil, toList_block_nil]
    exact .object (.close blank_nil)
  | cons e rest =>
    obtain ⟨he, hrest⟩ := List.forall_mem_cons.1 h
    rw [List.map_cons, List.map_cons, toList_block_cons]
    exact .object (membersSpelled_entry (.first (blank_newLine _)) he (membersSpelled_laterLines hrest))

end Blocks

/-- A tree on many lines spells its draft if its numbers are read back. -/
theorem spelled_prettyAt (t : Tree) (level : Nat)
    (h : ∀ x ∈ t.floats, x.isFinite = true ∧ x.ReadsBack) :
    Spelled t.draft (prettyAt level t).toList := by
  induction t using Tree.induction generalizing level with
  | word t hword =>
    cases t with
    | bool b =>
      have htext : (prettyAt level (.bool b)).toList =
          if b then ['t', 'r', 'u', 'e'] else ['f', 'a', 'l', 's', 'e'] := by
        cases b <;> simp [prettyAt, compact]
      rw [htext]
      exact .bool b
    | int n => exact spelled_int n
    | float x =>
      obtain ⟨hfinite, hread⟩ := h x (List.mem_singleton_self x)
      exact spelled_float hfinite hread
    | text | list | table => cases hword
  | text s => exact .text s
  | list items ih =>
    apply spelled_list
    intro t ht
    apply ih t ht (level + 1)
    intro x hx
    apply h
    rw [Tree.floats, Tree.floatsOfAll_eq_flatMap]
    exact List.mem_flatMap.2 ⟨t, ht, hx⟩
  | table entries ih =>
    apply spelled_table
    intro e he
    apply ih e he (level + 1)
    intro x hx
    apply h
    rw [Tree.floats, Tree.floatsOfEntries_eq_flatMap]
    exact List.mem_flatMap.2 ⟨e, he, hx⟩

theorem spells_pretty {t : Tree} (h : ∀ x ∈ t.floats, x.isFinite = true ∧ x.ReadsBack) :
    Spells (pretty t) t.draft :=
  (spelled_prettyAt t 0 h).spells

end Json

end AutoAnnotate
