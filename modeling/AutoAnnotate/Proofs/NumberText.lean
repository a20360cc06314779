import AutoAnnotate.Json.Lexical
import Mathlib.Data.List.TakeDrop
import Mathlib.Tactic.Tauto
/-!
# Numbers that are read

`NumeralSpelled` relates a numeral to the texts that JSON allows for it. The scanner takes such a text
apart as it was put together and stops where it ends (`scanNumber_of_spelled`).
-/

namespace AutoAnnotate.Json

/-! ## The grammar -/

/-- Characters that are all digits. -/
def AllDigits (cs : List Char) : Prop := ∀ c ∈ cs, c.isDigit = true

inductive FractionSpelled : Option (List Char) → List Char → Prop
  | absent : FractionSpelled none []
  | digits {digits : List Char} (h : AllDigits digits) (hne : digits ≠ []) :
      FractionSpelled (some digits) ('.' :: digits)

inductive ExponentSpelled : Option (Bool × List Char) → List Char → Prop
  | absent : ExponentSpelled none []
  | negative {mark : Char} {digits : List Char} (hmark : mark = 'e' ∨ mark = 'E')
      (h : AllDigits digits) (hne : digits ≠ []) :
      ExponentSpelled (some (true, digits)) (mark :: '-' :: digits)
  | plus {mark : Char} {digits : List Char} (hmark : mark = 'e' ∨ mark = 'E')
      (h : AllDigits digits) (hne : digits ≠ []) :
      ExponentSpelled (some (false, digits)) (mark :: '+' :: digits)
  | unsigned {mark : Char} {digits : List Char} (hmark : mark = 'e' ∨ mark = 'E')
      (h : AllDigits digits) (hne : digits ≠ []) :
      ExponentSpelled (some (false, digits)) (mark :: digits)

/-- The ways to write a number. The part before the point does not begin with a zero unless it is
the zero. -/
inductive NumeralSpelled : Numeral → List Char → Prop
  | intro {negative : Bool} {whole fractionText exponentText : List Char}
      {fraction : Option (List Char)} {exponent : Option (Bool × List Char)}
      (h : AllDigits whole) (hne : whole ≠ []) (hzero : whole.head? = some '0' → whole.length = 1)
      (hfraction : FractionSpelled fraction fractionText)
      (hexponent : ExponentSpelled exponent exponentText) :
      NumeralSpelled ⟨negative, whole, fraction, exponent⟩
        ((if negative then ['-'] else []) ++ whole ++ fractionText ++ exponentText)

/-- What a reader makes of a number: one out of range can only be passed over. -/
def Numeral.draft (n : Numeral) : Draft :=
  match n.toNumber? with
  | some x => .number x
  | none => .broken .malformed none

/-- A text that does not go on with the number before it. -/
def EndsNumber (rest : List Char) : Prop :=
  ∀ c ∈ rest.head?, c.isDigit = false ∧ c ∉ ['.', 'e', 'E']

theorem endsNumber_nil : EndsNumber [] := by simp [EndsNumber]

variable {n : Numeral} {digits cs rest : List Char} {fraction : Option (List Char)}
  {exponent : Option (Bool × List Char)}

/-! ## Where the parts of a number begin -/

theorem ExponentSpelled.head (h : ExponentSpelled exponent cs) (hrest : EndsNumber rest) :
    ∀ c ∈ (cs ++ rest).head?, c.isDigit = false ∧ c ≠ '.' := by
  cases h with
  | absent =>
    intro c hc
    obtain ⟨hdigit, hother⟩ := hrest c hc
    refine ⟨hdigit, ?_⟩
    rintro rfl
    simp at hother
  | negative hmark | plus hmark | unsigned hmark => rcases hmark with rfl | rfl <;> simp

theorem FractionSpelled.head (h : FractionSpelled fraction cs)
    (hrest : ∀ c ∈ rest.head?, c.isDigit = false) : ∀ c ∈ (cs ++ rest).head?, c.isDigit = false := by
  cases h with
  | absent => exact hrest
  | digits => simp

theorem FractionSpelled.ne_some_nil (h : FractionSpelled fraction cs) : fraction ≠ some [] := by
  cases h with
  | absent => simp
  | digits h hne => simpa using hne

theorem NumeralSpelled.head (h : NumeralSpelled n cs) :
    ∃ c rest, cs = c :: rest ∧ (c = '-' ∨ c.isDigit = true) := by
  obtain @⟨negative, whole, _, _, _, _, hdigits, hne, -, -, -⟩ := h
  obtain ⟨d, ds, rfl⟩ := List.exists_cons_of_ne_nil hne
  cases negative with
  | true => exact ⟨'-', _, rfl, .inl rfl⟩
  | false => exact ⟨d, _, rfl, .inr (hdigits d (by simp))⟩

/-! ## Scanning -/

theorem spanDigits_append (h : AllDigits digits) (hrest : ∀ c ∈ rest.head?, c.isDigit = false) :
    spanDigits (digits ++ rest) = (digits, rest) := by
  unfold spanDigits
  rw [List.takeWhile_append_of_pos h, List.dropWhile_append_of_pos h]
  cases rest with
  | nil => simp
  | cons c rest =>
    have hc := hrest c rfl
    simp [hc]

theorem scanExponent_of_spelled (h : ExponentSpelled exponent cs) (hrest : EndsNumber rest) :
    scanExponent (cs ++ rest) = (exponent, rest, false) := by
  have hspan {digits : List Char} (h : AllDigits digits) :
      spanDigits (digits ++ rest) = (digits, rest) :=
    spanDigits_append h fun c hc => (hrest c hc).1
  cases h with
  | absent =>
    cases rest with
    | nil => rfl
    | cons c rest =>
      obtain ⟨-, hother⟩ := hrest c rfl
      have hmark : ¬((c = 'e' || c = 'E') = true) := by
        simp only [List.mem_cons, List.not_mem_nil, or_false] at hother
        simp
        tauto
      simp [scanExponent, hmark]
  | negative hmark h hne => simp [scanExponent, hmark, hspan h, hne]
  | plus hmark h hne => simp [scanExponent, hmark, hspan h, hne]
  | @unsigned mark digits hmark h hne =>
    obtain ⟨d, ds, rfl⟩ := List.exists_cons_of_ne_nil hne
    -- The first digit is not taken for a sign.
    have hd : d.isDigit = true := h d (by simp)
    have hminus : d ≠ '-' := by rintro rfl; cases hd
    have hplus : d ≠ '+' := by rintro rfl; cases hd
    have hdigits := hspan h
    rw [List.cons_append] at hdigits
    simp only [scanExponent, List.cons_append, hmark, Bool.or_eq_true, decide_eq_true_eq, if_true]
    split
    · next heq => exact absurd (List.cons.inj heq).1 hminus
    · next heq => exact absurd (List.cons.inj heq).1 hplus
    · simp [hdigits]

theorem scanFraction_of_spelled (h : FractionSpelled fraction cs)
    (hrest : ∀ c ∈ rest.head?, c.isDigit = false ∧ c ≠ '.') :
    scanFraction (cs ++ rest) = (fraction, rest) := by
  cases h with
  | absent =>
    cases rest with
    | nil => rfl
    | cons c rest =>
      have hpoint : c ≠ '.' := (hrest c rfl).2
      unfold scanFraction
      split
      · next heq => exact absurd (List.cons.inj heq).1 hpoint
      · rfl
  | digits h => simp [scanFraction, spanDigits_append h fun c hc => (hrest c hc).1]

/-- A number is read to its end. -/
theorem scanNumber_of_spelled (h : NumeralSpelled n cs) (hrest : EndsNumber rest) :
    scanNumber (cs ++ rest) = (n.draft, some rest) := by
  obtain @⟨negative, whole, fractionText, exponentText, fraction, exponent, hdigits, hne, hzero,
    hfraction, hexponent⟩ := h
  have hhead := hexponent.head hrest
  have hwhole : spanDigits (whole ++ (fractionText ++ (exponentText ++ rest))) =
      (whole, fractionText ++ (exponentText ++ rest)) :=
    spanDigits_append hdigits (hfraction.head fun c hc => (hhead c hc).1)
  have hleading : ¬(whole.head? = some '0' ∧ 1 < whole.length) := by
    rintro ⟨h0, hlong⟩
    have hone := hzero h0
    omega
  have hfractionText := scanFraction_of_spelled hfraction hhead
  have hexponentText := scanExponent_of_spelled hexponent hrest
  unfold scanNumber
  split
  next sign tail heq =>
    simp only [List.append_assoc] at heq
    -- The sign is taken off, and a digit is not taken for it.
    obtain ⟨rfl, rfl⟩ : negative = sign ∧ whole ++ (fractionText ++ (exponentText ++ rest)) = tail := by
      cases negative with
      | true =>
        cases heq
        exact ⟨rfl, rfl⟩
      | false =>
        obtain ⟨d, ds, rfl⟩ := List.exists_cons_of_ne_nil hne
        have hd : d.isDigit = true := hdigits d (by simp)
        simp only [Bool.false_eq_true, if_false, List.nil_append] at heq
        split at heq
        · next hminus =>
          rw [(List.cons.inj hminus).1] at hd
          cases hd
        · cases heq
          exact ⟨rfl, rfl⟩
    simp only [hwhole, hfractionText, hexponentText]
    simp only [List.isEmpty_iff, hne, hleading, hfraction.ne_some_nil, Bool.and_eq_true,
      decide_eq_true_eq, gt_iff_lt, if_false, Bool.false_eq_true]
    unfold Numeral.draft
    cases Numeral.toNumber? ⟨negative, whole, fraction, exponent⟩ <;> rfl

end AutoAnnotate.Json
