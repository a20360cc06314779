import AutoAnnotate.Yaml.Folding
/-!
# Plain and quoted scalars

Each function takes the text from the scalar on and the place where it stands. It returns the text
of the scalar, the place behind it and the text from there, or nothing if the scalar is malformed.
-/

namespace AutoAnnotate.Yaml

/-! ## Plain scalars -/

/-- The outcome of scanning a plain scalar; the flag says that a line ended behind its last word. -/
structure PlainScan where
  text : String
  endsLine : Bool
  mark : Mark
  rest : List Char

/-- Whether a colon in a flow collection stands where it cannot: right before an indicator. -/
def misplacedColon : List Char → Bool
  | ':' :: c :: _ => isFlowIndicator c || c = '?'
  | _ => false

/-- Whether a plain scalar ends before this text: at a colon that ends a word, and in a flow
collection at an indicator. -/
def endsPlain (inFlow : Bool) : List Char → Bool
  | [] => true
  | c :: rest => (c = ':' && endsWord rest) || (inFlow && isFlowIndicator c)

/-- The rest of a plain scalar. Words of a block collection's scalar stand to the right of the
collection, in column `least` or beyond; `atWord` says that no character of the next word came
yet. -/
def scanPlain (inFlow : Bool) (least : Nat) (f : Folding) (atWord : Bool) (m : Mark) :
    List Char → Option PlainScan
  | [] => some ⟨f.result, f.hasBreak, m, []⟩
  | c :: rest =>
    if isBlank c then
      if f.hasBreak && c = '\t' && m.column < least then none
      else scanPlain inFlow least (f.pushBlank c) true (m.past c) rest
    else if isBreak c then scanPlain inFlow least (f.pushBreak c) true m.down rest
    else
      let stop := some ⟨f.result, f.hasBreak, m, c :: rest⟩
      if atWord && (!f.text.isEmpty && !inFlow && m.column < least) then stop
      else if atWord && (c = '#' || (m.column = 0 && atDocumentMarker (c :: rest))) then stop
      else if inFlow && misplacedColon (c :: rest) then none
      else if endsPlain inFlow (c :: rest) then stop
      else scanPlain inFlow least (f.push c) false (m.past c) rest

/-! ## Quoted scalars -/

/-- The outcome of scanning a scalar. -/
structure TextScan where
  text : String
  mark : Mark
  rest : List Char

/-- The rest of a scalar in single quotation marks, which stand twice for one. -/
def scanSingleQuoted (f : Folding) (m : Mark) : List Char → Option TextScan
  | [] => none
  | '\'' :: '\'' :: rest => scanSingleQuoted (f.push '\'') (m.right 2) rest
  | '\'' :: rest => some ⟨String.ofList f.settle.reverse, m.right 1, rest⟩
  | c :: rest =>
    if isBlank c then scanSingleQuoted (f.pushBlank c) (m.past c) rest
    else if isBreak c then scanSingleQuoted (f.pushBreak c) m.down rest
    else if m.column = 0 && atDocumentMarker (c :: rest) then none
    else scanSingleQuoted (f.push c) (m.past c) rest

/-- The character that a short escape stands for. -/
def escapedChar? (c : Char) : Option Char :=
  match c with
  | '0' => some '\x00'
  | 'a' => some '\x07'
  | 'b' => some '\x08'
  | 't' => some '\t'
  | '\t' => some '\t'
  | 'n' => some '\n'
  | 'v' => some '\x0b'
  | 'f' => some '\x0c'
  | 'r' => some '\r'
  | 'e' => some '\x1b'
  | ' ' => some ' '
  | '"' => some '"'
  | '/' => some '/'
  | '\\' => some '\\'
  | 'N' => some '\x85'
  | '_' => some '\xa0'
  | 'L' => some '\u2028'
  | 'P' => some '\u2029'
  | _ => none

/-- How many hexadecimal digits follow a letter that announces a code point. -/
def codeLength? (c : Char) : Option Nat :=
  match c with
  | 'x' => some 2
  | 'u' => some 4
  | 'U' => some 8
  | _ => none

def hexValue? (c : Char) : Option Nat :=
  if c.isDigit then some (c.toNat - '0'.toNat)
  else if 'a' ≤ c ∧ c ≤ 'f' then some (c.toNat - 'a'.toNat + 10)
  else if 'A' ≤ c ∧ c ≤ 'F' then some (c.toNat - 'A'.toNat + 10)
  else none

/-- What an escape in double quotation marks leaves to be done: nothing, or some digits of a code
point, whose value so far is given. -/
inductive Pending where
  | none
  | digits (left value : Nat)

/-- The rest of a scalar in double quotation marks. -/
def scanDoubleQuoted (f : Folding) (m : Mark) : Pending → List Char → Option TextScan
  | _, [] => none
  | .digits left value, c :: rest =>
    match hexValue? c with
    | none => none
    | some d =>
      let value := value * 16 + d
      if left > 1 then scanDoubleQuoted f (m.right 1) (.digits (left - 1) value) rest
      else if value.isValidChar then scanDoubleQuoted (f.push (.ofNat value)) (m.right 1) .none rest
      else none
  | .none, '"' :: rest => some ⟨String.ofList f.settle.reverse, m.right 1, rest⟩
  | .none, '\\' :: c :: rest =>
    if isBreak c then scanDoubleQuoted f.pushEscapedBreak m.down .none rest
    else match escapedChar? c with
      | some e => scanDoubleQuoted (f.push e) (m.right 2) .none rest
      | none => match codeLength? c with
        | some n => scanDoubleQuoted f (m.right 2) (.digits n 0) rest
        | none => none
  | .none, c :: rest =>
    if isBlank c then scanDoubleQuoted (f.pushBlank c) (m.past c) .none rest
    else if isBreak c then scanDoubleQuoted (f.pushBreak c) m.down .none rest
    else if m.column = 0 && atDocumentMarker (c :: rest) then none
    else scanDoubleQuoted (f.push c) (m.past c) .none rest

end AutoAnnotate.Yaml
