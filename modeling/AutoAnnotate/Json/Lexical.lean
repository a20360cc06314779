import AutoAnnotate.Json.Draft
/-!
# The words of a JSON text

Space, literal names, numbers and strings. Each function takes the text from the word on and returns
a draft of it and the text behind it; there is no text behind a word that cannot be passed over.
-/

namespace AutoAnnotate.Json

/-- A draft and the text behind it, if reading can go on there. -/
abbrev Scan := Draft × Option (List Char)

def isSpace (c : Char) : Bool := c = ' ' || c = '\t' || c = '\n' || c = '\r'

/-- The text without the space at its start. -/
def skipSpace (cs : List Char) : List Char := cs.dropWhile isSpace

/-- The text behind an expected word, or the fault. -/
def expect : List Char → List Char → Except Fault (List Char)
  | [], cs => .ok cs
  | _ :: _, [] => .error .truncated
  | w :: ws, c :: cs => if w = c then expect ws cs else .error .malformed

/-- A literal name, which stands for a draft. -/
def scanWord (word : List Char) (meaning : Draft) (cs : List Char) : Scan :=
  match expect word cs with
  | .ok rest => (meaning, some rest)
  | .error f => (.stop f, none)

/-! ## Numbers -/

/-- The digits at the start of a text, and the text behind them. -/
def spanDigits (cs : List Char) : List Char × List Char :=
  (cs.takeWhile Char.isDigit, cs.dropWhile Char.isDigit)

/-- A number that lacks digits. If the text ends there, a reader finds it truncated, while passing
over finds it malformed. -/
def lackingDigits (rest : List Char) : Draft :=
  .broken (if rest.isEmpty then .truncated else .malformed) (some .malformed)

/-- The exponent at the start of a text, if there is one, and the text behind it; `none` in place
of a text if the exponent lacks digits. -/
def scanExponent : List Char → Option (Bool × List Char) × List Char × Bool
  | c :: cs =>
    if c = 'e' || c = 'E' then
      let (negative, cs) : Bool × List Char := match cs with
        | '-' :: r => (true, r)
        | '+' :: r => (false, r)
        | r => (false, r)
      let (digits, rest) := spanDigits cs
      (some (negative, digits), rest, digits.isEmpty)
    else (none, c :: cs, false)
  | [] => (none, [], false)

/-- The fraction at the start of a text, if there is one, and the text behind it. -/
def scanFraction : List Char → Option (List Char) × List Char
  | '.' :: cs => let (digits, rest) := spanDigits cs; (some digits, rest)
  | cs => (none, cs)

/-- A number. -/
def scanNumber (cs : List Char) : Scan :=
  let (negative, cs) : Bool × List Char := match cs with
    | '-' :: r => (true, r)
    | r => (false, r)
  let (whole, afterWhole) := spanDigits cs
  if whole.isEmpty then (lackingDigits afterWhole, none)
  else if whole.head? = some '0' && whole.length > 1 then (.stop .malformed, none)
  else
    let (fraction, afterFraction) := scanFraction afterWhole
    if fraction = some [] then (lackingDigits afterFraction, none)
    else
      let (exponent, rest, lacking) := scanExponent afterFraction
      if lacking then (lackingDigits rest, none)
      else match Numeral.toNumber? ⟨negative, whole, fraction, exponent⟩ with
        | some n => (.number n, some rest)
        | none => (.broken .malformed none, some rest)

/-! ## Strings -/

/-- What a string holds as far as it is scanned: its characters, last first, or the first fault
that only reading it meets. -/
abbrev Contents := Except Fault (List Char)

/-- The contents with one more character. -/
def Contents.push (s : Contents) (c : Char) : Contents := s.map (c :: ·)

/-- The contents with a fault, unless there is one already. -/
def Contents.spoil (s : Contents) (f : Fault) : Contents := s.bind fun _ => .error f

/-- A string that cannot even be passed over. -/
def brokenString (s : Contents) (f : Fault) : Scan :=
  match s with
  | .ok _ => (.stop f, none)
  | .error g => (.broken g (some f), none)

def hexValue? (c : Char) : Option Nat :=
  if c.isDigit then some (c.toNat - '0'.toNat)
  else if 'a' ≤ c ∧ c ≤ 'f' then some (c.toNat - 'a'.toNat + 10)
  else if 'A' ≤ c ∧ c ≤ 'F' then some (c.toNat - 'A'.toNat + 10)
  else none

/-- The number that four hexadecimal digits spell. -/
def fourHex? (a b c d : Char) : Option Nat := do
  return ((((← hexValue? a) * 16 + (← hexValue? b)) * 16 + (← hexValue? c)) * 16 + (← hexValue? d))

/-- The fault in a text that should begin with four hexadecimal digits: it is truncated if it has
fewer than four octets left. -/
def hexFault (cs : List Char) : Fault :=
  if (String.ofList cs).utf8ByteSize < 4 then .truncated else .malformed

def isHighSurrogate (n : Nat) : Bool := 0xD800 ≤ n && n ≤ 0xDBFF

def isLowSurrogate (n : Nat) : Bool := 0xDC00 ≤ n && n ≤ 0xDFFF

/-- The character of a surrogate pair. -/
def pairedChar (high low : Nat) : Char :=
  .ofNat (0x10000 + (high - 0xD800) * 0x400 + (low - 0xDC00))

/-- The fault in reading what follows a high surrogate, where no escape of four digits stands. -/
def unpairedFault : List Char → Fault
  | [] => .truncated
  | ['\\'] => .truncated
  | '\\' :: 'u' :: cs => hexFault cs
  | _ => .malformed

/-- The character that a short escape stands for. -/
def shortEscape? (c : Char) : Option Char :=
  match c with
  | '"' => some '"'
  | '\\' => some '\\'
  | '/' => some '/'
  | 'b' => some '\x08'
  | 'f' => some '\x0c'
  | 'n' => some '\n'
  | 'r' => some '\r'
  | 't' => some '\t'
  | _ => none

/-- The rest of a string behind its opening quotation mark. -/
def scanString (s : Contents) : List Char → Scan
  | [] => brokenString s .truncated
  | '"' :: rest =>
    match s with
    | .ok chars => (.text (String.ofList chars.reverse), some rest)
    | .error f => (.broken f none, some rest)
  | '\\' :: 'u' :: a :: b :: c :: d :: rest =>
    match fourHex? a b c d with
    | none => brokenString s (hexFault (a :: b :: c :: d :: rest))
    | some n =>
      if isLowSurrogate n then scanString (s.spoil .malformed) rest
      else if isHighSurrogate n then
        match rest with
        | '\\' :: 'u' :: a' :: b' :: c' :: d' :: rest' =>
          match fourHex? a' b' c' d' with
          | some m =>
            if isLowSurrogate m then scanString (s.push (pairedChar n m)) rest'
            else scanString (s.spoil .malformed) ('\\' :: 'u' :: a' :: b' :: c' :: d' :: rest')
          | none => brokenString s (hexFault (a' :: b' :: c' :: d' :: rest'))
        | rest => scanString (s.spoil (unpairedFault rest)) rest
      else scanString (s.push (.ofNat n)) rest
  | '\\' :: 'u' :: rest => brokenString s (hexFault rest)
  | '\\' :: c :: rest =>
    match shortEscape? c with
    | some e => scanString (s.push e) rest
    | none => brokenString s .malformed
  | ['\\'] => brokenString s .truncated
  | c :: rest =>
    if c.toNat < 0x20 then brokenString s .malformed else scanString (s.push c) rest

end AutoAnnotate.Json
