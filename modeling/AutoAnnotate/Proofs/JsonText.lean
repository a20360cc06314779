import AutoAnnotate.Json.Document
import AutoAnnotate.Proofs.CompactText
import Mathlib.Data.List.DropRight
/-!
# JSON texts that are read

The grammar of JSON: `Spelled` relates a draft without faults to the texts that spell it, with any
space between the words and any way to write a number. A text that spells a draft is read as that
draft, whatever stands behind it (`scanValue_of_spelled`), and all of a text is if arrays and objects are
nested at most as deep as a reader goes (`Document.ofString_of_spells`).
-/

namespace AutoAnnotate.Json

/-! ## The grammar -/

/-- Space between words. -/
def Blank (cs : List Char) : Prop := ∀ c ∈ cs, isSpace c = true

/-- What stands before the first element of a sequence and before each later one. -/
inductive Separator : Bool → List Char → Prop
  | first {ws : List Char} (h : Blank ws) : Separator true ws
  | next {ws ws' : List Char} (h : Blank ws) (h' : Blank ws') : Separator false (ws ++ ',' :: ws')

mutual

/-- The text is a JSON value, and the draft is what it says. -/
inductive Spelled : Draft → List Char → Prop
  | null : Spelled .null ['n', 'u', 'l', 'l']
  | bool (b : Bool) :
      Spelled (.bool b) (if b then ['t', 'r', 'u', 'e'] else ['f', 'a', 'l', 's', 'e'])
  | number {n : Numeral} {cs : List Char} (h : NumeralSpelled n cs) : Spelled n.draft cs
  | text (s : String) : Spelled (.text s) (encodeString s).toList
  | array {items : List Draft} {cs : List Char} (h : ItemsSpelled true items cs) :
      Spelled (.array items none) ('[' :: cs)
  | object {members : List (Draft × Draft)} {cs : List Char} (h : MembersSpelled true members cs) :
      Spelled (.object members none) ('\x7b' :: cs)

/-- The items of an array from the first one or a later one on, and the closing bracket. -/
inductive ItemsSpelled : Bool → List Draft → List Char → Prop
  | close {first : Bool} {ws : List Char} (hws : Blank ws) : ItemsSpelled first [] (ws ++ [']'])
  | item {first : Bool} {d : Draft} {items : List Draft} {sep cs rest : List Char}
      (hsep : Separator first sep) (hd : Spelled d cs) (hrest : ItemsSpelled false items rest) :
      ItemsSpelled first (d :: items) (sep ++ (cs ++ rest))

/-- The members of an object from the first one or a later one on, and the closing brace. -/
inductive MembersSpelled : Bool → List (Draft × Draft) → List Char → Prop
  | close {first : Bool} {ws : List Char} (hws : Blank ws) :
      MembersSpelled first [] (ws ++ ['\x7d'])
  | member {first : Bool} {key : String} {d : Draft} {members : List (Draft × Draft)}
      {sep ws ws' cs rest : List Char} (hsep : Separator first sep) (hws : Blank ws)
      (hws' : Blank ws') (hd : Spelled d cs) (hrest : MembersSpelled false members rest) :
      MembersSpelled first ((.text key, d) :: members)
        (sep ++ ((encodeString key).toList ++ (ws ++ ':' :: (ws' ++ (cs ++ rest)))))

end

/-- All of a text spells a draft, with space around it. -/
def Spells (s : String) (d : Draft) : Prop :=
  ∃ ws cs ws', s.toList = ws ++ (cs ++ ws') ∧ Blank ws ∧ Blank ws' ∧ Spelled d cs

/-! ## Space -/

theorem blank_nil : Blank [] := fun _ h => nomatch h

theorem skipSpace_append {ws cs : List Char} (h : Blank ws) : skipSpace (ws ++ cs) = skipSpace cs :=
  List.dropWhile_append_of_pos h

theorem skipSpace_cons {c : Char} {cs : List Char} (h : isSpace c = false) :
    skipSpace (c :: cs) = c :: cs := by
  simp [skipSpace, h]

/-! ## Values -/

/-- A value begins with a character that is neither space nor closes an array. -/
theorem Spelled.head {d : Draft} {cs : List Char} (h : Spelled d cs) :
    ∃ c rest, cs = c :: rest ∧ isSpace c = false ∧ c ≠ ']' := by
  cases h with
  | null => exact ⟨_, _, rfl, by decide, by decide⟩
  | bool b => cases b <;> exact ⟨_, _, rfl, by decide, by decide⟩
  | number h =>
    obtain ⟨c, rest, rfl, rfl | hc⟩ := h.head
    · exact ⟨_, _, rfl, by decide, by decide⟩
    · refine ⟨c, rest, rfl, ?_, ?_⟩
      · simp only [isSpace, Bool.or_eq_false_iff, decide_eq_false_iff_not]
        refine ⟨⟨⟨?_, ?_⟩, ?_⟩, ?_⟩ <;> rintro rfl <;> cases hc
      · rintro rfl
        cases hc
  | text s => exact ⟨'"', _, by simp [encodeString]; rfl, by decide, by decide⟩
  | array | object => exact ⟨_, _, rfl, by decide, by decide⟩

theorem scanString_encoded (s : String) (rest : List Char) :
    ∃ cs, (encodeString s).toList ++ rest = '"' :: cs ∧
      scanString (.ok []) cs = (.text s, some rest) := by
  refine ⟨s.toList.flatMap escapeChar ++ '"' :: rest, by simp [encodeString], ?_⟩
  simp [scanString_escaped]

theorem Spelled.length_pos {d : Draft} {cs : List Char} (h : Spelled d cs) : 0 < cs.length := by
  obtain ⟨c, cs, rfl, -⟩ := h.head
  simp

theorem ItemsSpelled.length_pos {first : Bool} {items : List Draft} {cs : List Char}
    (h : ItemsSpelled first items cs) : 0 < cs.length := by
  cases h with
  | close => simp
  | item _ hd =>
    have := hd.length_pos
    simp only [List.length_append]
    omega

theorem MembersSpelled.length_pos {first : Bool} {members : List (Draft × Draft)} {cs : List Char}
    (h : MembersSpelled first members cs) : 0 < cs.length := by
  cases h with
  | close => simp
  | member _ _ _ hd =>
    simp only [List.length_append, List.length_cons]
    omega

theorem skipSpace_spelled {d : Draft} {ws cs rest : List Char} (hws : Blank ws) (h : Spelled d cs) :
    skipSpace (ws ++ (cs ++ rest)) = cs ++ rest := by
  obtain ⟨c, cs, rfl, hc, -⟩ := h.head
  rw [skipSpace_append hws, List.cons_append, skipSpace_cons hc]

theorem EndsNumber.of_cons {c : Char} {rest : List Char}
    (hc : isSpace c = true ∨ c ∈ [',', ']', '\x7d']) : EndsNumber (c :: rest) := by
  intro c' hc'
  obtain rfl : c = c' := by simpa using hc'
  simp only [isSpace, Bool.or_eq_true, decide_eq_true_eq, List.mem_cons, List.not_mem_nil,
    or_false] at hc
  rcases hc with (((rfl | rfl) | rfl) | rfl) | rfl | rfl | rfl <;> decide

theorem EndsNumber.of_blank {ws rest : List Char} (hws : Blank ws) (hrest : EndsNumber rest) :
    EndsNumber (ws ++ rest) := by
  cases ws with
  | nil => exact hrest
  | cons c ws => exact .of_cons (.inl (hws c (by simp)))

theorem Separator.endsNumber {sep rest : List Char} (h : Separator false sep) :
    EndsNumber (sep ++ rest) := by
  cases h with
  | next h =>
    rw [List.append_assoc]
    exact .of_blank h (.of_cons (.inr (by simp)))

theorem ItemsSpelled.endsNumber {items : List Draft} {cs : List Char}
    (h : ItemsSpelled false items cs) (rest : List Char) : EndsNumber (cs ++ rest) := by
  cases h with
  | close hws =>
    rw [List.append_assoc]
    exact .of_blank hws (.of_cons (.inr (by simp)))
  | item hsep =>
    rw [List.append_assoc]
    exact hsep.endsNumber

theorem MembersSpelled.endsNumber {members : List (Draft × Draft)} {cs : List Char}
    (h : MembersSpelled false members cs) (rest : List Char) : EndsNumber (cs ++ rest) := by
  cases h with
  | close hws =>
    rw [List.append_assoc]
    exact .of_blank hws (.of_cons (.inr (by simp)))
  | member hsep =>
    rw [List.append_assoc]
    exact hsep.endsNumber

section Sequences
variable {fuel : Nat} {first : Bool} {sep ws cs rest : List Char}

theorem scanItems_close (hws : Blank ws) :
    scanItems (fuel + 1) first (ws ++ ']' :: rest) = ([], none, some rest) := by
  have hclose : isSpace ']' = false := by decide
  simp [scanItems, skipSpace_append hws, skipSpace_cons hclose]

theorem scanMembers_close (hws : Blank ws) :
    scanMembers (fuel + 1) first (ws ++ '\x7d' :: rest) = ([], none, some rest) := by
  have hclose : isSpace '\x7d' = false := by decide
  simp [scanMembers, skipSpace_append hws, skipSpace_cons hclose]

/-- Behind a separator an item is expected. -/
theorem scanItems_separator {c : Char} (hsep : Separator first sep) (hcs : cs = c :: rest)
    (hc : isSpace c = false) (hne : c ≠ ']') :
    scanItems (fuel + 1) first (sep ++ cs) = scanItem fuel cs := by
  subst hcs
  cases hsep with
  | first h => simp [scanItems, skipSpace_append h, skipSpace_cons hc]
  | next h h' =>
    have hcomma : isSpace ',' = false := by decide
    simp [scanItems, skipSpace_append h, skipSpace_cons hcomma, skipSpace_append h',
      skipSpace_cons hc]
    split
    · next heq => exact absurd (List.cons.inj heq).1 hne
    · rfl

/-- Behind a separator a member is expected. -/
theorem scanMembers_separator (hsep : Separator first sep) :
    scanMembers (fuel + 1) first (sep ++ '"' :: rest) = scanMember fuel ('"' :: rest) := by
  have hquote : isSpace '"' = false := by decide
  cases hsep with
  | first h => simp [scanMembers, skipSpace_append h, skipSpace_cons hquote]
  | next h h' =>
    have hcomma : isSpace ',' = false := by decide
    simp [scanMembers, skipSpace_append h, skipSpace_cons hcomma, skipSpace_append h',
      skipSpace_cons hquote]

/-- A member is a key, a colon and a value. -/
theorem scanMember_key (key : String) {text after : List Char} {d : Draft}
    {members : List (Draft × Draft)} (hws : Blank ws)
    (hvalue : scanValue fuel text = (d, some after))
    (hmembers : scanMembers fuel false after = (members, none, some rest)) :
    scanMember (fuel + 1) ((encodeString key).toList ++ (ws ++ ':' :: text)) =
      ((.text key, d) :: members, none, some rest) := by
  obtain ⟨cs, htext, hscan⟩ := scanString_encoded key (ws ++ ':' :: text)
  have hcolon : isSpace ':' = false := by decide
  rw [htext, scanMember]
  simp only [hscan, skipSpace_append hws, skipSpace_cons hcolon, hvalue, hmembers]

end Sequences

theorem scanValue_skipSpace (fuel : Nat) (cs : List Char) :
    scanValue fuel (skipSpace cs) = scanValue fuel cs := by
  have hskip : skipSpace (skipSpace cs) = skipSpace cs := List.dropWhile_idempotent isSpace cs
  cases fuel with
  | zero => rfl
  | succ fuel => rw [scanValue, scanValue, hskip]

/-- A number is told by its first character. -/
theorem scanValue_number {fuel : Nat} {n : Numeral} {cs rest : List Char} (h : NumeralSpelled n cs)
    (hrest : EndsNumber rest) : scanValue (fuel + 1) (cs ++ rest) = (n.draft, some rest) := by
  have hscan := scanNumber_of_spelled h hrest
  have hskip : skipSpace (cs ++ rest) = cs ++ rest := skipSpace_spelled blank_nil (.number h)
  obtain ⟨c, cs, rfl, hc⟩ := h.head
  rw [List.cons_append] at hscan hskip ⊢
  rw [scanValue, hskip]
  split
  case h_8 heq =>
    obtain ⟨rfl, rfl⟩ := List.cons.inj heq
    rw [if_pos (by simpa using hc), hscan]
  case h_1 heq => cases heq
  all_goals
    next heq =>
      obtain ⟨rfl, -⟩ := List.cons.inj heq
      exact absurd hc (by decide)

mutual

/-- A value is read to its end if the text behind it does not go on with a number. -/
theorem scanValue_of_spelled {d : Draft} {cs : List Char} (h : Spelled d cs) (fuel : Nat)
    (ws rest : List Char) (hws : Blank ws) (hrest : EndsNumber rest)
    (hfuel : 3 * cs.length ≤ fuel) : scanValue fuel (ws ++ (cs ++ rest)) = (d, some rest) := by
  obtain ⟨fuel, rfl⟩ : ∃ k, fuel = k + 1 := by
    obtain ⟨c, cs, rfl, -⟩ := h.head
    exact ⟨fuel - 1, by simp at hfuel; omega⟩
  rw [← scanValue_skipSpace, skipSpace_spelled hws h]
  cases h with
  | null => rfl
  | bool b => cases b <;> rfl
  | number h => exact scanValue_number h hrest
  | text s =>
    obtain ⟨cs, htext, hscan⟩ := scanString_encoded s rest
    rw [htext]
    exact hscan
  | array hitems =>
    have hscan := scanItems_of_spelled hitems fuel rest (by simp at hfuel; omega)
    show (let (items, close, rest) := scanItems fuel true (_ ++ rest)
      (Draft.array items close, rest)) = _
    rw [hscan]
  | object hmembers =>
    have hscan := scanMembers_of_spelled hmembers fuel rest (by simp at hfuel; omega)
    show (let (members, close, rest) := scanMembers fuel true (_ ++ rest);
      (Draft.object members close, rest)) = _
    rw [hscan]

theorem scanItems_of_spelled {first : Bool} {items : List Draft} {cs : List Char}
    (h : ItemsSpelled first items cs) (fuel : Nat) (rest : List Char) (hfuel : 3 * cs.length ≤ fuel) :
    scanItems fuel first (cs ++ rest) = (items, none, some rest) := by
  cases h with
  | close hws =>
    obtain ⟨fuel, rfl⟩ : ∃ k, fuel = k + 1 := ⟨fuel - 1, by simp at hfuel; omega⟩
    rw [List.append_assoc]
    exact scanItems_close hws
  | item hsep hd hitems =>
    have := hd.length_pos
    have := hitems.length_pos
    simp only [List.length_append] at hfuel
    obtain ⟨fuel, rfl⟩ : ∃ k, fuel = k + 2 := ⟨fuel - 2, by omega⟩
    have hvalue := scanValue_of_spelled hd fuel [] _ blank_nil
      (hitems.endsNumber rest) (by omega)
    have hrest := scanItems_of_spelled hitems fuel rest (by omega)
    obtain ⟨c, cs, rfl, hc, hne⟩ := hd.head
    rw [List.append_assoc, List.append_assoc]
    refine (scanItems_separator hsep (List.cons_append ..) hc hne).trans ?_
    rw [List.nil_append] at hvalue
    rw [scanItem, hvalue]
    simp only [hrest]

theorem scanMembers_of_spelled {first : Bool} {members : List (Draft × Draft)} {cs : List Char}
    (h : MembersSpelled first members cs) (fuel : Nat) (rest : List Char)
    (hfuel : 3 * cs.length ≤ fuel) :
    scanMembers fuel first (cs ++ rest) = (members, none, some rest) := by
  cases h with
  | close hws =>
    obtain ⟨fuel, rfl⟩ : ∃ k, fuel = k + 1 := ⟨fuel - 1, by simp at hfuel; omega⟩
    rw [List.append_assoc]
    exact scanMembers_close hws
  | @member _ key _ _ _ _ _ _ _ hsep hws hws' hd hmembers =>
    have := hd.length_pos
    have := hmembers.length_pos
    simp only [List.length_append, List.length_cons] at hfuel
    obtain ⟨fuel, rfl⟩ : ∃ k, fuel = k + 2 := ⟨fuel - 2, by omega⟩
    have hvalue := scanValue_of_spelled hd fuel _ _ hws' (hmembers.endsNumber rest) (by omega)
    have hrest := scanMembers_of_spelled hmembers fuel rest (by omega)
    have hmember := scanMember_key key hws hvalue hrest
    obtain ⟨text, htext, -⟩ := scanString_encoded key []
    simp only [List.append_assoc, List.cons_append] at hmember ⊢
    rw [List.append_nil] at htext
    rw [htext] at hmember ⊢
    exact (scanMembers_separator hsep).trans hmember

end

/-! ## Nesting -/

mutual

/-- How many arrays and objects stand inside each other. -/
def Draft.depth : Draft → Nat
  | .array items _ => Draft.depthAll items + 1
  | .object members _ => Draft.depthMembers members + 1
  | .null | .bool _ | .number _ | .text _ | .broken _ _ => 0

def Draft.depthAll : List Draft → Nat
  | [] => 0
  | d :: rest => max d.depth (Draft.depthAll rest)

def Draft.depthMembers : List (Draft × Draft) → Nat
  | [] => 0
  | (_, d) :: rest => max d.depth (Draft.depthMembers rest)

end

mutual

/-- The limit does not show in a draft that keeps to it. -/
theorem Draft.limitNesting_eq_self : (d : Draft) → (n : Nat) → d.depth ≤ n → d.limitNesting n = d
  | .array _ _, 0, h | .object _ _, 0, h => absurd h (Nat.not_succ_le_zero _)
  | .array items close, n + 1, h => by
    rw [limitNesting, limitNestingAll_eq_self items n (Nat.le_of_succ_le_succ h)]
  | .object members close, n + 1, h => by
    rw [limitNesting, limitNestingMembers_eq_self members n (Nat.le_of_succ_le_succ h)]
  | .null, n, _ | .bool _, n, _ | .number _, n, _ | .text _, n, _ | .broken _ _, n, _ => by
    cases n <;> rfl

theorem Draft.limitNestingAll_eq_self :
    (items : List Draft) → (n : Nat) → Draft.depthAll items ≤ n → limitNestingAll n items = items
  | [], _, _ => rfl
  | d :: rest, n, h => by
    obtain ⟨hd, hrest⟩ := Nat.max_le.1 h
    rw [limitNestingAll, limitNesting_eq_self d n hd, limitNestingAll_eq_self rest n hrest]

theorem Draft.limitNestingMembers_eq_self :
    (members : List (Draft × Draft)) → (n : Nat) → Draft.depthMembers members ≤ n →
      limitNestingMembers n members = members
  | [], _, _ => rfl
  | (key, d) :: rest, n, h => by
    obtain ⟨hd, hrest⟩ := Nat.max_le.1 h
    rw [limitNestingMembers, limitNesting_eq_self d n hd, limitNestingMembers_eq_self rest n hrest]

end

mutual

/-- What is spelled can be passed over. -/
theorem Spelled.pass {d : Draft} {cs : List Char} (h : Spelled d cs) : d.pass = .ok () := by
  cases h with
  | null | bool | text => rfl
  | @number n _ h =>
    unfold Numeral.draft
    cases n.toNumber? <;> rfl
  | array h =>
    rw [Draft.pass, h.pass]
    rfl
  | object h =>
    rw [Draft.pass, h.pass]
    rfl

theorem ItemsSpelled.pass {first : Bool} {items : List Draft} {cs : List Char}
    (h : ItemsSpelled first items cs) : Draft.passAll items = .ok () := by
  cases h with
  | close => rfl
  | item _ hd hrest =>
    rw [Draft.passAll, hd.pass, hrest.pass]
    rfl

theorem MembersSpelled.pass {first : Bool} {members : List (Draft × Draft)} {cs : List Char}
    (h : MembersSpelled first members cs) : Draft.passMembers members = .ok () := by
  cases h with
  | close => rfl
  | member _ _ _ hd hrest =>
    rw [Draft.passMembers, Draft.pass, hd.pass, hrest.pass]
    rfl

end

/-! ## Documents -/

theorem Document.ofString_of_spells {s : String} {d : Draft} (h : Spells s d)
    (hdepth : d.depth ≤ nestingLimit) : ofString s = ⟨d, none⟩ := by
  obtain ⟨ws, cs, ws', htext, hws, hws', hd⟩ := h
  have hend : EndsNumber ws' := by
    rw [← List.append_nil ws']
    exact .of_blank hws' (by simp [EndsNumber])
  have hscan := scanValue_of_spelled hd (4 * s.toList.length + 4) ws ws' hws hend (by
    rw [htext]
    simp only [List.length_append]
    omega)
  have hskip : skipSpace ws' = [] := by
    rw [← List.append_nil ws', skipSpace_append hws']
    rfl
  rw [← htext] at hscan
  simp [ofString, hscan, hskip, Draft.limitNesting_eq_self d _ hdepth]

end AutoAnnotate.Json
