import AutoAnnotate.Binary64.Rounding
import AutoAnnotate.Yaml.FlowScalar
/-!
# What plain scalars mean

A plain scalar is null, a Boolean, a number or a text, by its spelling alone. A writer needs to know
this too: it quotes a text that would otherwise mean something else.
-/

namespace AutoAnnotate.Yaml

/-- What the spelling of a plain scalar means. -/
inductive Meaning where
  | null
  | bool (b : Bool)
  | int (n : Int64)
  | float (x : Binary64)
  /-- A whole number of more than 64 bits and at most 128. -/
  | wide
  | text
  deriving DecidableEq, Repr

/-- The Boolean that a spelling means. -/
def bool? (s : String) : Option Bool :=
  if s = "true" ∨ s = "True" ∨ s = "TRUE" then some true
  else if s = "false" ∨ s = "False" ∨ s = "FALSE" then some false
  else none

/-- Whether a spelling means null. -/
def isNull (s : String) : Bool := s = "~" || s = "null" || s = "Null" || s = "NULL"

/-- Whether a text begins with a minus sign, and the text behind its sign, if it has one. -/
def splitSign : List Char → Bool × List Char
  | '+' :: cs => (false, cs)
  | '-' :: cs => (true, cs)
  | cs => (false, cs)

/-- Whether a spelling has decimal digits only, up to a sign, and more than one of which the first
is zero. Such a spelling means a text. -/
def isPaddedDigits (cs : List Char) : Bool :=
  match (splitSign cs).2 with
  | '0' :: rest => !rest.isEmpty && rest.all Char.isDigit
  | _ => false

/-! ## Whole numbers -/

/-- The natural number that digits spell in a base up to sixteen. -/
def digitsIn? (base : Nat) (cs : List Char) : Option Nat :=
  let more (n : Nat) (c : Char) : Option Nat := do
    let d ← hexValue? c
    if d < base then some (base * n + d) else none
  if cs.isEmpty then none else cs.foldlM more 0

/-- The whole number that a spelling stands for, however large. -/
def integer? (cs : List Char) : Option Int := do
  let (negative, cs) := splitSign cs
  let (base, digits) := match cs with
    | '0' :: 'x' :: digits => (16, digits)
    | '0' :: 'o' :: digits => (8, digits)
    | '0' :: 'b' :: digits => (2, digits)
    | digits => (10, digits)
  if base = 10 && isPaddedDigits cs then none
  let n ← digitsIn? base digits
  return if negative then -(n : Int) else n

/-! ## Numbers with a fraction -/

/-- The exponent at the end of a decimal number; zero if there is none. -/
def exponent? : List Char → Option Int
  | [] => some 0
  | c :: cs =>
    if c = 'e' || c = 'E' then
      let (negative, digits) := splitSign cs
      (digitsIn? 10 digits).map fun n => if negative then -(n : Int) else n
    else none

/-- A decimal number without sign: its digits as a number, and the power of ten that scales them. -/
def decimal? (cs : List Char) : Option (Nat × Int) := do
  let whole := cs.takeWhile Char.isDigit
  let (fraction, rest) := match cs.dropWhile Char.isDigit with
    | '.' :: more => (more.takeWhile Char.isDigit, more.dropWhile Char.isDigit)
    | rest => ([], rest)
  let digits ← digitsIn? 10 (whole ++ fraction)
  return (digits, (← exponent? rest) - fraction.length)

/-- The floating-point number that a spelling means: a finite decimal number, an infinity, or the
NaN, which has no sign. -/
def float? (cs : List Char) : Option Binary64 :=
  let (negative, unsigned) := splitSign cs
  let is (names : List String) (cs : List Char) : Bool := names.any (·.toList = cs)
  if is [".inf", ".Inf", ".INF"] unsigned then some (.infinity negative)
  else if is [".nan", ".NaN", ".NAN"] cs then some .nan
  else match decimal? unsigned with
    | none => none
    | some (digits, exponent) =>
      let x := Binary64.ofDecimal negative digits exponent
      if x.isFinite then some x else none

/-! ## The meaning of a spelling -/

/-- The number that a whole number means: an integer if it fits 64 signed bits, else a
floating-point number if it fits 64 unsigned bits. With 128 bits it means no number at all. What is
larger still is no whole number. -/
def integerMeaning? (n : Int) : Option Meaning :=
  if -Int.pow 2 63 ≤ n ∧ n < Int.pow 2 63 then some (.int (.ofInt n))
  else if 0 ≤ n ∧ n < Int.pow 2 64 then some (.float (.ofNat n.toNat))
  else if -Int.pow 2 127 ≤ n ∧ n < Int.pow 2 128 then some .wide
  else none

/-- What a spelling means as a whole number. -/
def wholeMeaning? (cs : List Char) : Option Meaning :=
  (integer? cs).bind integerMeaning?

/-- What a spelling means. -/
def meaning (s : String) : Meaning :=
  let cs := s.toList
  if s.isEmpty || isNull s then .null
  else match bool? s with
    | some b => .bool b
    | none => match wholeMeaning? cs with
      | some m => m
      | none =>
        if isPaddedDigits cs then .text
        else match float? cs with
          | some x => .float x
          | none => .text

end AutoAnnotate.Yaml
