import AutoAnnotate.Binary64.Text
import AutoAnnotate.Proofs.NumberText
import AutoAnnotate.Proofs.Shortest
import Mathlib.Tactic.IntervalCases
/-!
# Texts of numbers

The text of a finite number determines the number, in every format (`render_injective`). The text of a
magnitude is a number as JSON allows it and stands for the shortest decimal, whether it is written
with a point in place or with an exponent (`spellsRat_magnitude`), and the shortest decimal rounds to
one number only.

The numeral is taken apart by the reader's own functions. Its value is exact here, where the reader
rounds.
-/

namespace AutoAnnotate

namespace Json

/-- A text without a sign, taken apart as a numeral. -/
def Numeral.ofText (cs : List Char) : Numeral :=
  let (whole, afterWhole) := spanDigits cs
  let (fraction, afterFraction) := scanFraction afterWhole
  ⟨false, whole, fraction, (scanExponent afterFraction).1⟩

/-- The rational number that a numeral stands for, its sign aside. -/
def Numeral.value (n : Numeral) : ℚ :=
  digitsValue (n.whole ++ n.fraction.getD []) *
    10 ^ (n.writtenExponent - (n.fraction.getD []).length)

/-! ## Digits -/

variable {digits : List Char}

theorem digitsValue_toDigits (n : Nat) : digitsValue (Nat.toDigits 10 n) = n :=
  Nat.ofDigitChars_toDigits (by decide) (by decide)

theorem digitsValue_append_zeros (digits : List Char) (n : Nat) :
    digitsValue (digits ++ List.replicate n '0') = 10 ^ n * digitsValue digits := by
  show Nat.ofDigitChars 10 _ 0 = _
  rw [Nat.ofDigitChars_append, Nat.ofDigitChars_replicate_zero]
  rfl

theorem digitsValue_zeros_append (digits : List Char) (n : Nat) :
    digitsValue (List.replicate n '0' ++ digits) = digitsValue digits := by
  show Nat.ofDigitChars 10 _ 0 = _
  rw [Nat.ofDigitChars_append, Nat.ofDigitChars_replicate_zero, mul_zero]
  rfl

theorem allDigits_toDigits (n : Nat) : AllDigits (Nat.toDigits 10 n) := fun _ hc =>
  Nat.isDigit_of_mem_toDigits (by decide) (by decide) hc

theorem head?_toDigits {n : Nat} (h : n ≠ 0) : (Nat.toDigits 10 n).head? ≠ some '0' := by
  induction n using Nat.strong_induction_on with
  | _ n ih =>
    rw [Nat.toDigits_eq_if (by decide)]
    split
    · interval_cases n <;> first | exact absurd rfl h | decide
    · have hrest := ih (n / 10) (by omega) (by omega)
      rwa [List.head?_append_of_ne_nil _ Nat.toDigits_ne_nil]

theorem allDigits_zeros (n : Nat) : AllDigits (List.replicate n '0') := by
  intro c hc
  rw [List.eq_of_mem_replicate hc]
  rfl

/-- A text whose first character is a digit. -/
def StartsWithDigit (cs : List Char) : Prop := ∃ c rest, cs = c :: rest ∧ c.isDigit = true

theorem AllDigits.startsWithDigit (h : AllDigits digits) (hne : digits ≠ []) :
    StartsWithDigit digits := by
  obtain ⟨d, ds, rfl⟩ := List.exists_cons_of_ne_nil hne
  exact ⟨d, ds, rfl, h d (by simp)⟩

/-- A minus sign can be told from the digits behind it. -/
theorem sign_append_inj {p q : Prop} [Decidable p] [Decidable q] {cs ds : List Char}
    (hcs : StartsWithDigit cs) (hds : StartsWithDigit ds)
    (h : (if p then ['-'] else []) ++ cs = (if q then ['-'] else []) ++ ds) :
    (p ↔ q) ∧ cs = ds := by
  obtain ⟨c, cs, rfl, hc⟩ := hcs
  obtain ⟨d, ds, rfl, hd⟩ := hds
  by_cases hp : p <;> by_cases hq : q <;> simp [hp, hq] at h
  · simp [hp, hq, h]
  · rw [← h.1] at hd
    cases hd
  · rw [h.1] at hc
    cases hc
  · simp [hp, hq, h]

/-! ## Numerals -/

section Numerals
variable {n : Numeral} {cs whole : List Char} {fraction : Option (List Char)}
  {exponent : Option (Bool × List Char)}

/-- A text without a sign is taken apart as it was put together. -/
theorem ofText_of_spelled (h : NumeralSpelled n cs) (hsign : n.negative = false) :
    Numeral.ofText cs = n := by
  obtain @⟨negative, whole, fractionText, exponentText, fraction, exponent, hdigits, -, -,
    hfraction, hexponent⟩ := h
  obtain rfl : negative = false := hsign
  have hscan := scanExponent_of_spelled hexponent endsNumber_nil
  have hhead := hexponent.head endsNumber_nil
  rw [List.append_nil] at hscan hhead
  have hwhole := spanDigits_append hdigits (hfraction.head fun c hc => (hhead c hc).1)
  simp [Numeral.ofText, hwhole, scanFraction_of_spelled hfraction hhead, hscan]

theorem NumeralSpelled.startsWithDigit (h : NumeralSpelled n cs) (hsign : n.negative = false) :
    StartsWithDigit cs := by
  obtain @⟨negative, whole, _, _, _, _, hdigits, hne, -, -, -⟩ := h
  obtain rfl : negative = false := hsign
  obtain ⟨c, rest, rfl, hc⟩ := hdigits.startsWithDigit hne
  exact ⟨c, _, rfl, hc⟩

theorem NumeralSpelled.signed (h : NumeralSpelled n cs) (hsign : n.negative = false)
    (negative : Bool) :
    NumeralSpelled { n with negative } ((if negative then ['-'] else []) ++ cs) := by
  obtain @⟨sign, whole, fractionText, exponentText, fraction, exponent, hdigits, hne, hzero,
    hfraction, hexponent⟩ := h
  obtain rfl : sign = false := hsign
  have hspelled : NumeralSpelled ⟨negative, whole, fraction, exponent⟩ _ :=
    .intro hdigits hne hzero hfraction hexponent
  simpa using hspelled

/-- A text without a sign that stands for a rational number. -/
def SpellsRat (cs : List Char) (q : ℚ) : Prop :=
  ∃ n, NumeralSpelled n cs ∧ n.negative = false ∧ n.value = q

/-- The text of a number, put together from its parts. -/
theorem SpellsRat.intro {fractionText exponentText : List Char} (h : AllDigits whole)
    (hne : whole ≠ []) (hzero : whole.head? = some '0' → whole.length = 1)
    (hfraction : FractionSpelled fraction fractionText)
    (hexponent : ExponentSpelled exponent exponentText)
    (hcs : cs = whole ++ fractionText ++ exponentText) :
    SpellsRat cs (Numeral.value ⟨false, whole, fraction, exponent⟩) := by
  subst hcs
  exact ⟨_, .intro h hne hzero hfraction hexponent, rfl, rfl⟩

theorem value_whole (whole : List Char) :
    Numeral.value ⟨false, whole, none, none⟩ = digitsValue whole := by
  simp [Numeral.value, Numeral.writtenExponent]

theorem value_fraction (whole fraction : List Char) :
    Numeral.value ⟨false, whole, some fraction, none⟩ =
      digitsValue (whole ++ fraction) * 10 ^ (-(fraction.length : Int)) := by
  simp [Numeral.value, Numeral.writtenExponent]

end Numerals

end Json

open Json

namespace FloatFormat

variable {digits : List Char} {leading : Int}

/-- Zeros in front of the digits, behind the point, do not count. -/
theorem spellsRat_leading (h : AllDigits digits) (hne : digits ≠ []) (n : Nat) :
    SpellsRat (['0', '.'] ++ List.replicate n '0' ++ digits)
      (digitsValue digits * 10 ^ (-(n + digits.length : Nat) : Int)) := by
  have hfraction : AllDigits (List.replicate n '0' ++ digits) :=
    List.forall_mem_append.2 ⟨allDigits_zeros n, h⟩
  have hvalue : Numeral.value ⟨false, ['0'], some (List.replicate n '0' ++ digits), none⟩ =
      digitsValue digits * 10 ^ (-(n + digits.length : Nat) : Int) := by
    rw [value_fraction]
    show (digitsValue (List.replicate (n + 1) '0' ++ digits) : ℚ) * _ = _
    rw [digitsValue_zeros_append, List.length_append, List.length_replicate]
  rw [← hvalue]
  exact .intro (allDigits_zeros 1) (by simp) (by simp) (.digits hfraction (by simp [hne])) .absent
    (by simp)

/-- Zeros behind the digits scale the number, whether it has a point behind them or none. -/
theorem spellsRat_padded (f : FloatFormat) (h : AllDigits digits) (hne : digits ≠ []) {n : Nat}
    (hzero : digits.head? = some '0' → digits.length + n = 1) :
    SpellsRat (digits ++ List.replicate n '0' ++ if f.wholeHasPoint then ['.', '0'] else [])
      (digitsValue digits * 10 ^ n) := by
  have hwhole : AllDigits (digits ++ List.replicate n '0') :=
    List.forall_mem_append.2 ⟨h, allDigits_zeros n⟩
  have hleading : (digits ++ List.replicate n '0').head? = some '0' →
      (digits ++ List.replicate n '0').length = 1 := by
    rw [List.head?_append_of_ne_nil _ hne, List.length_append, List.length_replicate]
    exact hzero
  cases f.wholeHasPoint with
  | true =>
    have hvalue : Numeral.value ⟨false, digits ++ List.replicate n '0', some ['0'], none⟩ =
        digitsValue digits * 10 ^ n := by
      rw [value_fraction]
      show (digitsValue (digits ++ List.replicate n '0' ++ List.replicate 1 '0') : ℚ) * _ = _
      rw [List.append_assoc, ← List.replicate_add, digitsValue_append_zeros, zpow_neg, zpow_natCast,
        pow_add]
      push_cast
      simp
      ring
    rw [← hvalue]
    exact .intro hwhole (by simp [hne]) hleading (.digits (allDigits_zeros 1) (by simp)) .absent
      (by simp)
  | false =>
    have hvalue : Numeral.value ⟨false, digits ++ List.replicate n '0', none, none⟩ =
        digitsValue digits * 10 ^ n := by
      rw [value_whole, digitsValue_append_zeros]
      push_cast
      rw [mul_comm]
    rw [← hvalue]
    exact .intro hwhole (by simp [hne]) hleading .absent .absent (by simp)

/-- A point between the digits divides the number. -/
theorem spellsRat_pointed (h : AllDigits digits) {n : Nat} (hn : 0 < n) (hlong : n < digits.length)
    (hzero : digits.head? ≠ some '0') :
    SpellsRat (digits.take n ++ ['.'] ++ digits.drop n)
      (digitsValue digits * 10 ^ (-(digits.length - n : Nat) : Int)) := by
  have htake : AllDigits (digits.take n) := fun c hc => h c (List.mem_of_mem_take hc)
  have hdrop : AllDigits (digits.drop n) := fun c hc => h c (List.mem_of_mem_drop hc)
  have hvalue : Numeral.value ⟨false, digits.take n, some (digits.drop n), none⟩ =
      digitsValue digits * 10 ^ (-(digits.length - n : Nat) : Int) := by
    rw [value_fraction, List.take_append_drop, List.length_drop]
  have hne : digits.take n ≠ [] := by
    rw [← List.length_pos_iff, List.length_take]
    omega
  have hrest : digits.drop n ≠ [] := by
    rw [← List.length_pos_iff, List.length_drop]
    omega
  have hhead : (digits.take n).head? = digits.head? := by
    rw [List.head?_take, if_neg (by omega)]
  rw [← hvalue]
  exact .intro htake hne (fun h0 => absurd (hhead ▸ h0) hzero) (.digits hdrop hrest) .absent (by simp)

/-- Digits with a point in place stand for the number that they spell, scaled to the exponent of the
first one. -/
theorem spellsRat_positional (f : FloatFormat) (h : AllDigits digits) (hne : digits ≠ [])
    (hzero : digits.head? = some '0' → digits.length = 1 ∧ leading = 0) :
    SpellsRat (f.positional digits leading)
      (digitsValue digits * 10 ^ (leading + 1 - digits.length)) := by
  unfold positional
  dsimp only
  split
  · next hneg =>
    have hexponent : leading + 1 - digits.length =
        -((-leading - 1).toNat + digits.length : Nat) := by omega
    rw [hexponent]
    exact spellsRat_leading h hne _
  split
  · next hplaces =>
    have hexponent : leading + 1 - digits.length = (leading.toNat + 1 - digits.length : Nat) := by
      omega
    rw [hexponent, zpow_natCast]
    apply spellsRat_padded f h hne
    intro h0
    obtain ⟨hone, rfl⟩ := hzero h0
    simp [hone]
  · next hplaces =>
    have hexponent : leading + 1 - digits.length =
        -(digits.length - (leading.toNat + 1) : Nat) := by omega
    rw [hexponent]
    apply spellsRat_pointed h (by omega) (by omega)
    intro h0
    obtain ⟨hone, rfl⟩ := hzero h0
    simp [hone] at hplaces

/-- An exponent is written as what it is, with or without a plus sign. -/
theorem exponentSpelled (f : FloatFormat) (leading : Int) :
    ∃ exponent, ExponentSpelled exponent ('e' ::
        ((if leading < 0 then ['-'] else if f.exponentHasPlus then ['+'] else []) ++
          Nat.toDigits 10 leading.natAbs)) ∧
      ∀ whole fraction, Numeral.writtenExponent ⟨false, whole, fraction, exponent⟩ = leading := by
  have hdigits := allDigits_toDigits leading.natAbs
  by_cases hneg : leading < 0
  · rw [if_pos hneg]
    refine ⟨_, .negative (.inl rfl) hdigits Nat.toDigits_ne_nil, ?_⟩
    simp [Numeral.writtenExponent, digitsValue_toDigits, abs_of_neg hneg]
  rw [if_neg hneg]
  have hvalue : |leading| = leading := abs_of_nonneg (not_lt.1 hneg)
  split
  · refine ⟨_, .plus (.inl rfl) hdigits Nat.toDigits_ne_nil, ?_⟩
    simp [Numeral.writtenExponent, digitsValue_toDigits, hvalue]
  · refine ⟨_, .unsigned (.inl rfl) hdigits Nat.toDigits_ne_nil, ?_⟩
    simp [Numeral.writtenExponent, digitsValue_toDigits, hvalue]

/-- Digits with a point after the first one and an exponent stand for the same number. -/
theorem spellsRat_exponential (f : FloatFormat) (h : AllDigits digits) (hne : digits ≠ []) :
    SpellsRat (f.exponential digits leading)
      (digitsValue digits * 10 ^ (leading + 1 - digits.length)) := by
  obtain ⟨d, ds, rfl⟩ := List.exists_cons_of_ne_nil hne
  obtain ⟨hd, hds⟩ := List.forall_mem_cons.1 h
  have hfirst : AllDigits [d] := List.forall_mem_singleton.2 hd
  obtain ⟨exponent, hexponent, hvalue⟩ := exponentSpelled f leading
  cases ds with
  | nil =>
    have hspelled : SpellsRat _ (Numeral.value ⟨false, [d], none, exponent⟩) :=
      .intro hfirst (by simp) (by simp) .absent hexponent rfl
    simpa [Numeral.value, hvalue, exponential] using hspelled
  | cons d' ds =>
    have hspelled : SpellsRat _ (Numeral.value ⟨false, [d], some (d' :: ds), exponent⟩) :=
      .intro hfirst (by simp) (by simp) (.digits hds (by simp)) hexponent rfl
    simpa [Numeral.value, hvalue, exponential] using hspelled

/-! ## The text of a magnitude -/

theorem significantDigits_append_zeros (n : Nat) :
    ∃ k, Nat.toDigits 10 n = significantDigits n ++ List.replicate k '0' := by
  refine ⟨((Nat.toDigits 10 n).reverse.takeWhile (· = '0')).length, ?_⟩
  have hsplit := List.takeWhile_append_dropWhile (p := (· = '0')) (l := (Nat.toDigits 10 n).reverse)
  have hzeros : (Nat.toDigits 10 n).reverse.takeWhile (· = '0') =
      List.replicate ((Nat.toDigits 10 n).reverse.takeWhile (· = '0')).length '0' := by
    refine List.eq_replicate_iff.2 ⟨rfl, fun c hc => ?_⟩
    simpa using List.all_eq_true.1 List.all_takeWhile c hc
  have := congrArg List.reverse hsplit
  rw [List.reverse_append, List.reverse_reverse, hzeros, List.reverse_replicate] at this
  exact this.symm

theorem significantDigits_spec {n : Nat} (h : n ≠ 0) :
    AllDigits (significantDigits n) ∧ significantDigits n ≠ [] ∧
      (significantDigits n).head? ≠ some '0' ∧
      ∃ k, (Nat.toDigits 10 n).length = (significantDigits n).length + k ∧
        n = 10 ^ k * digitsValue (significantDigits n) := by
  obtain ⟨k, hk⟩ := significantDigits_append_zeros n
  have hvalue := digitsValue_toDigits n
  have hdigits := allDigits_toDigits n
  rw [hk] at hdigits
  rw [hk, digitsValue_append_zeros] at hvalue
  have hne : significantDigits n ≠ [] := by
    intro hnil
    rw [hnil] at hvalue
    exact h (hvalue.symm.trans (by simp [digitsValue]))
  have hhead := head?_toDigits h
  rw [hk, List.head?_append_of_ne_nil _ hne] at hhead
  exact ⟨(List.forall_mem_append.1 hdigits).1, hne, hhead, k, by simp [hk], hvalue.symm⟩

/-- A magnitude is written from the digits of the shortest decimal and the exponent of the first of
them, which is a zero only if the number is zero. -/
theorem magnitude_cases (f : FloatFormat) (x : Binary64) :
    ∃ (digits : List Char) (leading : Int), AllDigits digits ∧ digits ≠ [] ∧
      (digits.head? = some '0' → digits.length = 1 ∧ leading = 0) ∧
      (digitsValue digits : ℚ) * 10 ^ (leading + 1 - digits.length) = (x.shortest f.tie).value ∧
      (f.magnitude x = f.positional digits leading ∨
        f.magnitude x = f.exponential digits leading) := by
  unfold magnitude
  generalize x.shortest f.tie = d
  obtain ⟨n, e⟩ := d
  dsimp only
  split
  · next hzero =>
    refine ⟨['0'], 0, by simp [AllDigits], by simp, by simp, ?_, .inl rfl⟩
    simp [digitsValue, digitValue, Binary64.Decimal.value, hzero]
  · next hne =>
    obtain ⟨hdigits, hnonempty, hhead, k, hlength, hvalue⟩ := significantDigits_spec hne
    refine ⟨significantDigits n, (Nat.toDigits 10 n).length - 1 + e, hdigits, hnonempty,
      fun h0 => absurd h0 hhead, ?_, ?_⟩
    · have hexponent : ((Nat.toDigits 10 n).length - 1 + e : Int) + 1 -
          (significantDigits n).length = k + e := by omega
      have hcast : (n : ℚ) = 10 ^ k * digitsValue (significantDigits n) := by exact_mod_cast hvalue
      rw [hexponent, Binary64.Decimal.value, hcast, zpow_add₀ (by norm_num), zpow_natCast]
      ring
    · split
      · exact .inl rfl
      · exact .inr rfl

/-- The text of a magnitude is a number and stands for the shortest decimal. -/
theorem spellsRat_magnitude (f : FloatFormat) (x : Binary64) :
    SpellsRat (f.magnitude x) (x.shortest f.tie).value := by
  obtain ⟨digits, leading, hdigits, hne, hzero, hvalue, htext | htext⟩ := magnitude_cases f x
  · rw [htext, ← hvalue]
    exact spellsRat_positional f hdigits hne hzero
  · rw [htext, ← hvalue]
    exact spellsRat_exponential f hdigits hne

theorem value_magnitude (f : FloatFormat) (x : Binary64) :
    (Numeral.ofText (f.magnitude x)).value = (x.shortest f.tie).value := by
  obtain ⟨n, hn, hsign, hvalue⟩ := spellsRat_magnitude f x
  rw [ofText_of_spelled hn hsign, hvalue]

theorem startsWithDigit_magnitude (f : FloatFormat) (x : Binary64) :
    StartsWithDigit (f.magnitude x) := by
  obtain ⟨n, hn, hsign, -⟩ := spellsRat_magnitude f x
  exact hn.startsWithDigit hsign

/-- Where every whole number has a point, a magnitude is no text of an integer. -/
theorem point_or_exponent_mem_magnitude {f : FloatFormat} (hf : f.wholeHasPoint = true)
    (x : Binary64) : '.' ∈ f.magnitude x ∨ 'e' ∈ f.magnitude x := by
  obtain ⟨digits, leading, -, -, -, -, htext | htext⟩ := magnitude_cases f x <;> rw [htext]
  · left
    unfold positional
    dsimp only
    split
    · simp
    · split <;> simp
  · right
    simp [exponential]

/-- What a number is written with. -/
def IsNumberChar (c : Char) : Prop := c.isDigit = true ∨ c ∈ ['.', 'e', '+', '-']

theorem isNumberChar_positional (f : FloatFormat) (h : AllDigits digits) (leading : Int) :
    ∀ c ∈ f.positional digits leading, IsNumberChar c := by
  have hdigits : ∀ c ∈ digits, IsNumberChar c := fun c hc => .inl (h c hc)
  have hzeros (n : Nat) : ∀ c ∈ List.replicate n '0', IsNumberChar c :=
    fun c hc => .inl (allDigits_zeros n c hc)
  unfold positional
  dsimp only
  split
  · simp only [List.forall_mem_append]
    exact ⟨⟨by simp [IsNumberChar], hzeros _⟩, hdigits⟩
  · split
    · simp only [List.forall_mem_append]
      refine ⟨⟨hdigits, hzeros _⟩, ?_⟩
      split <;> simp [IsNumberChar]
    · simp only [List.forall_mem_append]
      exact ⟨⟨fun c hc => hdigits c (List.mem_of_mem_take hc), by simp [IsNumberChar]⟩,
        fun c hc => hdigits c (List.mem_of_mem_drop hc)⟩

theorem isNumberChar_exponential (f : FloatFormat) (h : AllDigits digits) (leading : Int) :
    ∀ c ∈ f.exponential digits leading, IsNumberChar c := by
  have hdigits : ∀ c ∈ digits, IsNumberChar c := fun c hc => .inl (h c hc)
  unfold exponential
  simp only [List.forall_mem_append]
  refine ⟨⟨⟨⟨fun c hc => hdigits c (List.mem_of_mem_take hc), ?_⟩, by simp [IsNumberChar]⟩, ?_⟩,
    fun c hc => .inl (allDigits_toDigits _ c hc)⟩
  · split
    · simp only [List.forall_mem_append]
      exact ⟨by simp [IsNumberChar], fun c hc => hdigits c (List.mem_of_mem_drop hc)⟩
    · simp
  · split
    · simp [IsNumberChar]
    · split <;> simp [IsNumberChar]

theorem isNumberChar_magnitude (f : FloatFormat) (x : Binary64) :
    ∀ c ∈ f.magnitude x, IsNumberChar c := by
  obtain ⟨digits, leading, hdigits, -, -, -, htext | htext⟩ := magnitude_cases f x <;> rw [htext]
  · exact isNumberChar_positional f hdigits leading
  · exact isNumberChar_exponential f hdigits leading

theorem render_of_isFinite (f : FloatFormat) {x : Binary64} (h : x.isFinite = true) :
    f.render x = String.ofList ((if x.isNegative then ['-'] else []) ++ f.magnitude x) := by
  have hnan : x.isNaN = false := by
    simp only [Binary64.isNaN, Binary64.isFinite, decide_eq_true_eq, decide_eq_false_iff_not] at *
    exact fun hnan => h hnan.1
  simp [render, hnan, h]

/-- The text of a finite number determines the number. -/
theorem render_injective (f : FloatFormat) {x y : Binary64} (hx : x.isFinite = true)
    (hy : y.isFinite = true) (h : f.render x = f.render y) : x = y := by
  rw [render_of_isFinite f hx, render_of_isFinite f hy, String.ofList_inj] at h
  obtain ⟨hsign, htext⟩ :=
    sign_append_inj (startsWithDigit_magnitude f x) (startsWithDigit_magnitude f y) h
  have hholds := Binary64.shortest_holds x f.tie
  -- The shortest decimal of the one number rounds to both.
  rw [← value_magnitude, htext, value_magnitude] at hholds
  exact Binary64.eq_of_rank_eq (Bool.eq_iff_iff.2 hsign)
    (Binary64.rank_eq_of_holds hholds (Binary64.shortest_holds y f.tie))

end FloatFormat

end AutoAnnotate
