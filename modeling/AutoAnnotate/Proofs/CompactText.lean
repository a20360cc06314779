import AutoAnnotate.Json.Writing
import AutoAnnotate.Proofs.Numeral
import Mathlib.Tactic.IntervalCases
import Mathlib.Tactic.SplitIfs
/-!
# What a compact JSON text tells

A tree can be recovered from its compact text, except that all numbers that are not finite are written
alike (`compact_eq_iff`). A part of a text tells what it means and where it ends, provided that it
stands before a delimiter (`Unique`): strings because the reader takes each escaped character for the
character, numbers and other words because they hold no delimiter, lists and tables by their elements.
-/

namespace AutoAnnotate.Json

/-- The two digits of a control character are read as its code point. -/
theorem controlDigits_eq {c : Char} (h : c.toNat < 0x20) :
    ∃ a b, controlDigits c = [a, b] ∧ fourHex? '0' '0' a b = some c.toNat := by
  unfold controlDigits
  generalize c.toNat = n at h
  dsimp only
  interval_cases n <;> exact ⟨_, _, rfl, rfl⟩

/-- Reading takes an escaped character for the character. -/
theorem scanString_escapeChar (acc : List Char) (c : Char) (rest : List Char) :
    scanString (.ok acc) (escapeChar c ++ rest) = scanString (.ok (c :: acc)) rest := by
  unfold escapeChar
  split_ifs with h1 h2 h3 h4 h5 h6 h7 hcontrol
  case pos | pos | pos | pos | pos | pos | pos =>
    subst_vars
    simp [scanString, shortEscape?]
    rfl
  case pos =>
    obtain ⟨a, b, hdigits, hcode⟩ := controlDigits_eq hcontrol
    have hlow : isLowSurrogate c.toNat = false := by simp [isLowSurrogate]; omega
    have hhigh : isHighSurrogate c.toNat = false := by simp [isHighSurrogate]; omega
    rw [hdigits]
    simp only [List.cons_append, List.nil_append]
    rw [scanString]
    simp [hcode, hlow, hhigh, Contents.push, Except.map]
  case neg =>
    rw [List.singleton_append, scanString, if_neg hcontrol]
    · rfl
    all_goals simp_all

theorem scanString_escaped (acc cs rest : List Char) :
    scanString (.ok acc) (cs.flatMap escapeChar ++ '"' :: rest) =
      (.text (String.ofList (acc.reverse ++ cs)), some rest) := by
  induction cs generalizing acc with
  | nil => simp [scanString]
  | cons c cs ih =>
    rw [List.flatMap_cons, List.append_assoc, scanString_escapeChar, ih]
    simp

/-- The text of a string determines the string and the text behind it. -/
theorem encodeString_append_inj {s s' : String} {r r' : List Char}
    (h : (encodeString s).toList ++ r = (encodeString s').toList ++ r') : s = s' ∧ r = r' := by
  have hscan (s : String) (r : List Char) :
      scanString (.ok []) (s.toList.flatMap escapeChar ++ '"' :: r) = (.text s, some r) := by
    simp [scanString_escaped]
  simp only [encodeString, String.toList_ofList, List.cons_append, List.append_assoc,
    List.nil_append, List.cons.injEq, true_and] at h
  have heq := (hscan s r).symm.trans ((congrArg _ h).trans (hscan s' r'))
  simpa using heq

end AutoAnnotate.Json

namespace AutoAnnotate

/-! ## What is lost in writing -/

/-- The number, or NaN if it is not finite. -/
def Binary64.masked (x : Binary64) : Binary64 := if x.isFinite then x else nan

mutual

/-- The tree with NaN in place of every number that is not finite. -/
def Tree.masked : Tree → Tree
  | .float x => .float x.masked
  | .list items => .list (Tree.maskedAll items)
  | .table entries => .table (Tree.maskedEntries entries)
  | .bool b => .bool b
  | .int n => .int n
  | .text s => .text s

def Tree.maskedAll : List Tree → List Tree
  | [] => []
  | t :: rest => t.masked :: Tree.maskedAll rest

def Tree.maskedEntries : List (String × Tree) → List (String × Tree)
  | [] => []
  | (key, t) :: rest => (key, t.masked) :: Tree.maskedEntries rest

end

/-- Whether a tree is written as one word. -/
def Tree.isWord : Tree → Bool
  | .bool _ | .int _ | .float _ => true
  | .text _ | .list _ | .table _ => false

/-- Induction on trees: lists and tables by their elements, with one case for all words. -/
theorem Tree.induction {P : Tree → Prop} (word : ∀ t : Tree, t.isWord = true → P t)
    (text : ∀ s, P (.text s)) (list : ∀ items, (∀ t ∈ items, P t) → P (.list items))
    (table : ∀ entries, (∀ e ∈ entries, P e.2) → P (.table entries)) : ∀ t, P t
  | .bool b => word _ rfl
  | .int n => word _ rfl
  | .float x => word _ rfl
  | .text s => text s
  | .list items => list items fun t _ht => induction word text list table t
  | .table entries => table entries fun e _he => induction word text list table e.2
termination_by t => sizeOf t
decreasing_by
  · have := List.sizeOf_lt_of_mem _ht
    simp only [Tree.list.sizeOf_spec]
    omega
  · have := List.sizeOf_lt_of_mem _he
    obtain ⟨key, t⟩ := e
    simp only [Tree.table.sizeOf_spec, Prod.mk.sizeOf_spec] at *
    omega

theorem Tree.maskedAll_eq_map (items : List Tree) :
    maskedAll items = items.map masked := by
  induction items with
  | nil => rfl
  | cons t rest ih => rw [maskedAll, ih, List.map_cons]

theorem Tree.maskedEntries_eq_map (entries : List (String × Tree)) :
    maskedEntries entries = entries.map fun e => (e.1, e.2.masked) := by
  induction entries with
  | nil => rfl
  | cons e rest ih => rw [maskedEntries, ih, List.map_cons]

namespace Json

theorem compact_bool (b : Bool) : compact (.bool b) = if b then "true" else "false" := by
  rw [compact]

theorem compactAll_eq_map (items : List Tree) : compactAll items = items.map compact := by
  induction items with
  | nil => rfl
  | cons t rest ih => rw [compactAll, ih, List.map_cons]

theorem compactEntries_eq_map (entries : List (String × Tree)) :
    compactEntries entries = entries.map fun e => encodeString e.1 ++ ":" ++ compact e.2 := by
  induction entries with
  | nil => rfl
  | cons e rest ih => rw [compactEntries, ih, List.map_cons]

/-! ## Words -/

/-- A character that ends a word. -/
def IsDelimiter (c : Char) : Prop := c ∈ [',', ']', '\x7d']

instance (c : Char) : Decidable (IsDelimiter c) := inferInstanceAs (Decidable (c ∈ _))

/-- A text that is empty or starts with a delimiter. -/
def Delimited (cs : List Char) : Prop := ∀ c ∈ cs.head?, IsDelimiter c

/-- A word is cut off where the first delimiter stands. -/
theorem word_append_inj {w w' r r' : List Char} (hw : ∀ c ∈ w, ¬IsDelimiter c)
    (hw' : ∀ c ∈ w', ¬IsDelimiter c) (hr : Delimited r) (hr' : Delimited r')
    (h : w ++ r = w' ++ r') : w = w' ∧ r = r' := by
  induction w generalizing w' with
  | nil =>
    -- If one word ended earlier, the other would go on with a delimiter.
    cases w' with
    | nil => exact ⟨rfl, h⟩
    | cons c w' =>
      subst h
      exact absurd (hr c rfl) (hw' c (by simp))
  | cons c w ih =>
    cases w' with
    | nil =>
      subst h
      exact absurd (hr' c rfl) (hw c (by simp))
    | cons c' w' =>
      obtain ⟨rfl, hrest⟩ := List.cons.inj h
      obtain ⟨rfl, rfl⟩ := ih (List.forall_mem_cons.1 hw).2 (List.forall_mem_cons.1 hw').2 hrest
      exact ⟨rfl, rfl⟩

/-! ## Sequences -/

theorem intercalate_cons {sep : List Char} (first : List Char) (rest : List (List Char)) :
    sep.intercalate (first :: rest) = first ++ rest.flatMap (sep ++ ·) := by
  induction rest generalizing first with
  | nil => simp
  | cons next rest ih => simp [List.intercalate_cons_cons, ih]

section Sequences
variable {α β : Type} {text : α → List Char} {meaning : α → β} {closing : Char} {r r' : List Char}

/-- The text of an element tells what it means and where it ends, before a delimiter. -/
def Unique (text : α → List Char) (meaning : α → β) (a : α) : Prop :=
  ∀ b r r', Delimited r → Delimited r' → text a ++ r = text b ++ r' → meaning a = meaning b ∧ r = r'

theorem delimited_tail (hclosing : IsDelimiter closing) (as : List α) (r : List Char) :
    Delimited (as.flatMap (',' :: text ·) ++ closing :: r) := by
  cases as with
  | nil => simpa [Delimited] using hclosing
  | cons a as => simp [Delimited, IsDelimiter]

theorem tail_append_inj (hclosing : IsDelimiter closing) (hcomma : closing ≠ ',') {as bs : List α}
    (has : ∀ a ∈ as, Unique text meaning a)
    (h : as.flatMap (',' :: text ·) ++ closing :: r = bs.flatMap (',' :: text ·) ++ closing :: r') :
    as.map meaning = bs.map meaning ∧ r = r' := by
  induction as generalizing bs with
  | nil =>
    cases bs with
    | nil => simpa using h
    | cons b bs => simp [hcomma] at h
  | cons a as ih =>
    cases bs with
    | nil => simp [hcomma.symm] at h
    | cons b bs =>
      obtain ⟨ha, has⟩ := List.forall_mem_cons.1 has
      simp only [List.flatMap_cons, List.cons_append, List.append_assoc, List.cons.injEq,
        true_and] at h
      obtain ⟨hmeaning, hrest⟩ :=
        ha b _ _ (delimited_tail hclosing as r) (delimited_tail hclosing bs r') h
      obtain ⟨hmeanings, hr⟩ := ih has hrest
      exact ⟨by rw [List.map_cons, List.map_cons, hmeaning, hmeanings], hr⟩

/-- The text of a sequence with its closing bracket tells what its elements mean and where it ends. -/
theorem sequence_append_inj (hclosing : IsDelimiter closing) (hcomma : closing ≠ ',')
    (hhead : ∀ a, ∃ c cs, text a = c :: cs ∧ ¬IsDelimiter c) {as bs : List α}
    (has : ∀ a ∈ as, Unique text meaning a)
    (h : [','].intercalate (as.map text) ++ closing :: r =
      [','].intercalate (bs.map text) ++ closing :: r') :
    as.map meaning = bs.map meaning ∧ r = r' := by
  have hstart (a : α) (cs cs' : List Char) : text a ++ cs ≠ closing :: cs' := by
    obtain ⟨c, cs, htext, hc⟩ := hhead a
    rw [htext]
    rintro heq
    obtain ⟨rfl, -⟩ := List.cons.inj heq
    exact hc hclosing
  cases as with
  | nil =>
    cases bs with
    | nil => simpa using h
    | cons b bs =>
      rw [List.map_cons, intercalate_cons, List.append_assoc] at h
      exact absurd h.symm (hstart b _ _)
  | cons a as =>
    cases bs with
    | nil =>
      rw [List.map_cons, intercalate_cons, List.append_assoc] at h
      exact absurd h (hstart a _ _)
    | cons b bs =>
      obtain ⟨ha, has⟩ := List.forall_mem_cons.1 has
      simp only [List.map_cons, intercalate_cons, List.append_assoc, List.flatMap_map,
        List.singleton_append] at h
      obtain ⟨hmeaning, hrest⟩ :=
        ha b _ _ (delimited_tail hclosing as r) (delimited_tail hclosing bs r') h
      obtain ⟨hmeanings, hr⟩ := tail_append_inj hclosing hcomma has hrest
      exact ⟨by rw [List.map_cons, List.map_cons, hmeaning, hmeanings], hr⟩

end Sequences

/-! ## Numbers -/

theorem toList_toString_int (n : Int) :
    (toString n).toList = (if n < 0 then ['-'] else []) ++ Nat.toDigits 10 n.natAbs := by
  rw [Int.toString_eq_repr, Int.repr_eq_if]
  split
  · next h =>
    rw [if_neg (by omega), List.nil_append, Nat.repr_eq_ofList_toDigits, String.toList_ofList]
    congr 1
    omega
  · next h =>
    rw [if_pos (by omega), show (-n).toNat = n.natAbs by omega, Nat.repr_eq_ofList_toDigits]
    simp

theorem toString_int_injective {m n : Int} (h : toString m = toString n) : m = n := by
  have hdigit (n : Int) : StartsWithDigit (Nat.toDigits 10 n.natAbs) :=
    (allDigits_toDigits _).startsWithDigit Nat.toDigits_ne_nil
  rw [← String.toList_inj, toList_toString_int, toList_toString_int] at h
  obtain ⟨hsign, hdigits⟩ := sign_append_inj (hdigit m) (hdigit n) h
  have hvalue := congrArg digitsValue hdigits
  rw [digitsValue_toDigits, digitsValue_toDigits] at hvalue
  omega

theorem mem_toString_int {n : Int} {c : Char} (h : c ∈ (toString n).toList) :
    c.isDigit = true ∨ c = '-' := by
  rw [toList_toString_int, List.mem_append] at h
  rcases h with h | h
  · split at h <;> simp at h
    exact .inr h
  · exact .inl (allDigits_toDigits _ c h)

theorem toList_render_json {x : Binary64} (h : x.isFinite = true) :
    (FloatFormat.json.render x).toList =
      (if x.isNegative then ['-'] else []) ++ FloatFormat.json.magnitude x := by
  rw [FloatFormat.render_of_isFinite _ h, String.toList_ofList]

theorem render_json_of_not_finite {x : Binary64} (h : ¬x.isFinite = true) :
    FloatFormat.json.render x = "null" := by
  unfold FloatFormat.render FloatFormat.json
  simp [h]

theorem isNumberChar_render_json {x : Binary64} (h : x.isFinite = true) :
    ∀ c ∈ (FloatFormat.json.render x).toList, FloatFormat.IsNumberChar c := by
  rw [toList_render_json h, List.forall_mem_append]
  refine ⟨?_, FloatFormat.isNumberChar_magnitude _ x⟩
  split <;> simp [FloatFormat.IsNumberChar]

theorem render_json_injective {x y : Binary64}
    (h : FloatFormat.json.render x = FloatFormat.json.render y) : x.masked = y.masked := by
  unfold Binary64.masked
  by_cases hx : x.isFinite = true <;> by_cases hy : y.isFinite = true
  · rw [FloatFormat.render_injective _ hx hy h]
  · rw [render_json_of_not_finite hy] at h
    have := isNumberChar_render_json hx 'n' (by simp [h])
    simp [FloatFormat.IsNumberChar] at this
  · rw [render_json_of_not_finite hx] at h
    have := isNumberChar_render_json hy 'n' (by simp [← h])
    simp [FloatFormat.IsNumberChar] at this
  · rw [if_neg hx, if_neg hy]

theorem render_json_ne_int (x : Binary64) (n : Int) : FloatFormat.json.render x ≠ toString n := by
  intro h
  have hchars (c : Char) (hc : c ∈ (FloatFormat.json.render x).toList) : c.isDigit = true ∨ c = '-' :=
    mem_toString_int (h ▸ hc)
  by_cases hx : x.isFinite = true
  · rw [toList_render_json hx] at hchars
    rcases FloatFormat.point_or_exponent_mem_magnitude (f := .json) rfl x with hmem | hmem
    · have := hchars _ (List.mem_append_right _ hmem)
      revert this
      decide
    · have := hchars _ (List.mem_append_right _ hmem)
      revert this
      decide
  · rw [render_json_of_not_finite hx] at hchars
    have := hchars 'n' (by decide)
    revert this
    decide

/-! ## Words of a tree -/

/-- What a word is written with. -/
def IsWordChar (c : Char) : Prop := c.isAlphanum = true ∨ c ∈ ['.', '+', '-']

instance (c : Char) : Decidable (IsWordChar c) := inferInstanceAs (Decidable (_ ∨ _))

theorem IsWordChar.not_isDelimiter {c : Char} (h : IsWordChar c) : ¬IsDelimiter c := by
  intro hc
  simp only [IsDelimiter, List.mem_cons, List.not_mem_nil, or_false] at hc
  rcases hc with rfl | rfl | rfl <;> revert h <;> decide

theorem isWordChar_of_isNumberChar {c : Char} (h : FloatFormat.IsNumberChar c) : IsWordChar c := by
  rcases h with h | h
  · exact .inl (by simp [Char.isAlphanum, h])
  · simp only [List.mem_cons, List.not_mem_nil, or_false] at h
    rcases h with rfl | rfl | rfl | rfl <;> decide

theorem isWordChar_compact {t : Tree} (h : t.isWord = true) :
    ∀ c ∈ (compact t).toList, IsWordChar c := by
  cases t with
  | bool b => cases b <;> simp [compact_bool, IsWordChar]
  | int n =>
    intro c hc
    rcases mem_toString_int hc with hc | rfl
    · exact isWordChar_of_isNumberChar (.inl hc)
    · exact isWordChar_of_isNumberChar (.inr (by simp))
  | float x =>
    by_cases hx : x.isFinite = true
    · exact fun c hc => isWordChar_of_isNumberChar (isNumberChar_render_json hx c hc)
    · simp [compact, render_json_of_not_finite hx, IsWordChar]
  | text | list | table => cases h

/-- No number is written with the letters of a truth value. -/
theorem exists_letter_mem_compact_bool (b : Bool) :
    ∃ c ∈ (compact (.bool b)).toList, ¬FloatFormat.IsNumberChar c := by
  cases b
  · exact ⟨'f', by simp [compact_bool], by unfold FloatFormat.IsNumberChar; decide⟩
  · exact ⟨'t', by simp [compact_bool], by unfold FloatFormat.IsNumberChar; decide⟩

theorem compact_bool_ne_int (b : Bool) (n : Int64) : compact (.bool b) ≠ compact (.int n) := by
  intro heq
  obtain ⟨c, hc, hnot⟩ := exists_letter_mem_compact_bool b
  rw [heq] at hc
  rcases mem_toString_int hc with hc | rfl
  · exact hnot (.inl hc)
  · exact hnot (.inr (by simp))

theorem compact_bool_ne_float (b : Bool) (x : Binary64) :
    compact (.bool b) ≠ compact (.float x) := by
  intro heq
  by_cases hx : x.isFinite = true
  · obtain ⟨c, hc, hnot⟩ := exists_letter_mem_compact_bool b
    rw [heq] at hc
    exact hnot (isNumberChar_render_json hx c hc)
  · simp only [compact, render_json_of_not_finite hx] at heq
    cases b <;> simp at heq

/-- A word tells which tree it was made from, up to what is lost in writing. -/
theorem compact_word_inj {t u : Tree} (ht : t.isWord = true) (hu : u.isWord = true)
    (h : compact t = compact u) : t.masked = u.masked := by
  cases t with
  | bool b =>
    cases u with
    | bool b' => cases b <;> cases b' <;> first | rfl | simp [compact_bool] at h
    | int n => exact absurd h (compact_bool_ne_int b n)
    | float x => exact absurd h (compact_bool_ne_float b x)
    | text | list | table => cases hu
  | int n =>
    cases u with
    | bool b => exact absurd h.symm (compact_bool_ne_int b n)
    | int n' =>
      rw [Int64.toInt_inj.1 (toString_int_injective h)]
    | float x => exact absurd h.symm (render_json_ne_int x n.toInt)
    | text | list | table => cases hu
  | float x =>
    cases u with
    | bool b => exact absurd h.symm (compact_bool_ne_float b x)
    | int n => exact absurd h (render_json_ne_int x n.toInt)
    | float y => exact congrArg Tree.float (render_json_injective h)
    | text | list | table => cases hu
  | text | list | table => cases ht

/-! ## Trees -/

theorem toList_compact_text (s : String) : (compact (.text s)).toList =
    '"' :: (s.toList.flatMap escapeChar ++ ['"']) := by
  simp [compact, encodeString]

theorem toList_compact_list (items : List Tree) : (compact (.list items)).toList =
    '[' :: ([','].intercalate (items.map fun t => (compact t).toList) ++ [']']) := by
  simp [compact, compactAll_eq_map, String.toList_intercalate, Function.comp_def]

theorem toList_compact_table (entries : List (String × Tree)) :
    (compact (.table entries)).toList = '\x7b' :: ([','].intercalate (entries.map fun e =>
      (encodeString e.1).toList ++ ':' :: (compact e.2).toList) ++ ['\x7d']) := by
  simp [compact, compactEntries_eq_map, String.toList_intercalate, Function.comp_def]

/-- A tree that is no word starts with a quotation mark or a bracket. -/
theorem head_compact_of_not_isWord {t : Tree} (h : t.isWord = false) :
    ∃ c cs, (compact t).toList = c :: cs ∧ c ∈ ['"', '[', '\x7b'] := by
  cases t with
  | bool | int | float => cases h
  | text s => exact ⟨_, _, toList_compact_text s, by decide⟩
  | list items => exact ⟨_, _, toList_compact_list items, by decide⟩
  | table entries => exact ⟨_, _, toList_compact_table entries, by decide⟩

theorem compact_word_ne_nil {t : Tree} (h : t.isWord = true) : (compact t).toList ≠ [] := by
  cases t with
  | bool b => cases b <;> simp [compact_bool]
  | int n =>
    simp only [compact, toList_toString_int]
    simp [Nat.toDigits_ne_nil]
  | float x =>
    by_cases hx : x.isFinite = true
    · obtain ⟨c, cs, htext, -⟩ := FloatFormat.startsWithDigit_magnitude .json x
      simp [compact, toList_render_json hx, htext]
    · simp [compact, render_json_of_not_finite hx]
  | text | list | table => cases h

theorem head_compact_of_isWord {t : Tree} (h : t.isWord = true) :
    ∃ c cs, (compact t).toList = c :: cs ∧ IsWordChar c := by
  obtain ⟨c, cs, htext⟩ := List.exists_cons_of_ne_nil (compact_word_ne_nil h)
  exact ⟨c, cs, htext, isWordChar_compact h c (by simp [htext])⟩

theorem head_compact (t : Tree) : ∃ c cs, (compact t).toList = c :: cs ∧ ¬IsDelimiter c := by
  cases h : t.isWord with
  | false =>
    obtain ⟨c, cs, htext, hc⟩ := head_compact_of_not_isWord h
    refine ⟨c, cs, htext, ?_⟩
    simp only [List.mem_cons, List.not_mem_nil, or_false] at hc
    rcases hc with rfl | rfl | rfl <;> decide
  | true =>
    obtain ⟨c, cs, htext, hc⟩ := head_compact_of_isWord h
    exact ⟨c, cs, htext, hc.not_isDelimiter⟩

/-- A word cannot be confused with a tree that is none. -/
theorem compact_word_ne {t u : Tree} (ht : t.isWord = true) (hu : u.isWord = false)
    (r r' : List Char) : (compact t).toList ++ r ≠ (compact u).toList ++ r' := by
  obtain ⟨c, cs, htext, hc⟩ := head_compact_of_isWord ht
  obtain ⟨d, ds, htext', hd⟩ := head_compact_of_not_isWord hu
  rw [htext, htext']
  intro h
  obtain ⟨rfl, -⟩ := List.cons.inj h
  simp only [List.mem_cons, List.not_mem_nil, or_false] at hd
  rcases hd with rfl | rfl | rfl <;> revert hc <;> decide

theorem unique_word {t : Tree} (h : t.isWord = true) :
    Unique (fun t => (compact t).toList) Tree.masked t := by
  intro u r r' hr hr' heq
  cases hu : u.isWord with
  | false => exact absurd heq (compact_word_ne h hu r r')
  | true =>
    have hends {t : Tree} (h : t.isWord = true) : ∀ c ∈ (compact t).toList, ¬IsDelimiter c :=
      fun c hc => (isWordChar_compact h c hc).not_isDelimiter
    obtain ⟨htext, hrest⟩ := word_append_inj (hends h) (hends hu) hr hr' heq
    exact ⟨compact_word_inj h hu (String.toList_inj.1 htext), hrest⟩

/-- The text of a key is closed by its quotation mark, so that the text behind it is that of the
value. -/
theorem unique_entry {e : String × Tree}
    (h : Unique (fun t => (compact t).toList) Tree.masked e.2) :
    Unique (fun e : String × Tree => (encodeString e.1).toList ++ ':' :: (compact e.2).toList)
      (fun e => (e.1, e.2.masked)) e := by
  intro e' r r' hr hr' heq
  simp only [List.append_assoc, List.cons_append] at heq
  obtain ⟨hkey, hvalue⟩ := encodeString_append_inj heq
  obtain ⟨hmasked, hrest⟩ := h e'.2 r r' hr hr' (List.cons.inj hvalue).2
  exact ⟨Prod.ext hkey hmasked, hrest⟩

theorem head_entry (e : String × Tree) : ∃ c cs,
    (encodeString e.1).toList ++ ':' :: (compact e.2).toList = c :: cs ∧ ¬IsDelimiter c :=
  ⟨'"', _, by simp [encodeString]; rfl, by decide⟩

/-- The text of a tree tells the tree, up to what is lost in writing, and where it ends. -/
theorem unique_compact (t : Tree) : Unique (fun t => (compact t).toList) Tree.masked t := by
  -- Trees of two kinds differ in their first characters: only trees of one kind are left to compare.
  induction t using Tree.induction with
  | word t h => exact unique_word h
  | text s =>
    intro u r r' _ _ heq
    cases u with
    | bool | int | float => exact absurd heq.symm (compact_word_ne rfl rfl r' r)
    | text s' =>
      obtain ⟨rfl, hrest⟩ := encodeString_append_inj heq
      exact ⟨rfl, hrest⟩
    | list => simp [toList_compact_text, toList_compact_list] at heq
    | table => simp [toList_compact_text, toList_compact_table] at heq
  | list items ih =>
    intro u r r' _ _ heq
    cases u with
    | bool | int | float => exact absurd heq.symm (compact_word_ne rfl rfl r' r)
    | text => simp [toList_compact_text, toList_compact_list] at heq
    | list items' =>
      simp only [toList_compact_list, List.cons_append, List.append_assoc, List.nil_append,
        List.cons.injEq, true_and] at heq
      obtain ⟨hitems, hrest⟩ :=
        sequence_append_inj (by decide) (by decide) head_compact ih heq
      refine ⟨?_, hrest⟩
      rw [Tree.masked, Tree.masked, Tree.maskedAll_eq_map, Tree.maskedAll_eq_map, hitems]
    | table => simp [toList_compact_list, toList_compact_table] at heq
  | table entries ih =>
    intro u r r' _ _ heq
    cases u with
    | bool | int | float => exact absurd heq.symm (compact_word_ne rfl rfl r' r)
    | text => simp [toList_compact_text, toList_compact_table] at heq
    | list => simp [toList_compact_list, toList_compact_table] at heq
    | table entries' =>
      simp only [toList_compact_table, List.cons_append, List.append_assoc, List.nil_append,
        List.cons.injEq, true_and] at heq
      obtain ⟨hentries, hrest⟩ := sequence_append_inj (by decide) (by decide) head_entry
        (fun e he => unique_entry (ih e he)) heq
      refine ⟨?_, hrest⟩
      rw [Tree.masked, Tree.masked, Tree.maskedEntries_eq_map, Tree.maskedEntries_eq_map, hentries]

theorem compact_injective {t u : Tree} (h : compact t = compact u) : t.masked = u.masked := by
  have hend : Delimited [] := by simp [Delimited]
  exact (unique_compact t u [] [] hend hend (by simpa using congrArg String.toList h)).1

/-- Masking does not show in the text. -/
theorem compact_masked (t : Tree) : compact t.masked = compact t := by
  induction t using Tree.induction with
  | word t h =>
    cases t with
    | bool | int => rfl
    | float x =>
      simp only [Tree.masked, compact, Binary64.masked]
      split
      · rfl
      · next hx => rw [render_json_of_not_finite hx, render_json_of_not_finite (by decide)]
    | text | list | table => cases h
  | text s => rfl
  | list items ih =>
    simp only [Tree.masked, compact, Tree.maskedAll_eq_map, compactAll_eq_map, List.map_map]
    rw [List.map_congr_left (f := compact ∘ Tree.masked) fun t ht => ih t ht]
  | table entries ih =>
    simp only [Tree.masked, compact, Tree.maskedEntries_eq_map, compactEntries_eq_map, List.map_map]
    rw [List.map_congr_left fun e he => ?_]
    simp only [Function.comp_apply, ih e he]

/-- Two trees have one text exactly if they differ in numbers that are not finite at most. -/
theorem compact_eq_iff {t u : Tree} : compact t = compact u ↔ t.masked = u.masked :=
  ⟨compact_injective, fun h => by rw [← compact_masked t, h, compact_masked u]⟩

end Json

end AutoAnnotate
