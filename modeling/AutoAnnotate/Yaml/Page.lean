import AutoAnnotate.Yaml.ScalarForm
/-!
# A page of YAML

A `Page` is the YAML text written so far. It knows its column, and whether a space or a line is due
before more can be written, so that indicators, scalars and lines can be put one after the other.
-/

namespace AutoAnnotate.Yaml

/-- A YAML text being written. -/
structure Page where
  /-- What is written, last character first. -/
  written : List Char := []
  column : Nat := 0
  /-- Whether nothing, or a gap, stands before this place. -/
  atGap : Bool := true
  /-- Whether nothing but indentation and indicators stands before this place on its line. -/
  atIndent : Bool := true

namespace Page

def text (p : Page) : String := String.ofList p.written.reverse

/-- Writes a character of a line. -/
def put (p : Page) (c : Char) : Page := { p with written := c :: p.written, column := p.column + 1 }

def putAll (p : Page) (cs : List Char) : Page := cs.foldl put p

/-- Writes a character that ends the line. -/
def putBreak (p : Page) (c : Char) : Page := { p with written := c :: p.written, column := 0 }

/-- Goes to a column, on a new line unless there is nothing but indentation left of it on this
one. -/
def startLine (p : Page) (indent : Nat) : Page :=
  let stays := p.atIndent && (p.column < indent || (p.column = indent && p.atGap))
  let p := if stays then p else p.putBreak '\n'
  { p.putAll (List.replicate (indent - p.column) ' ') with atGap := true, atIndent := true }

/-- Writes a space unless there is a gap already. -/
def ensureGap (p : Page) : Page := if p.atGap then p else p.put ' '

/-- Writes an indicator that stands apart from what is before it, and behind which a collection may
begin on the same line. -/
def indicator (p : Page) (c : Char) : Page := { p.ensureGap.put c with atGap := false }

/-- Writes characters of a scalar or of an empty collection. -/
def word (p : Page) (cs : List Char) : Page :=
  { p.putAll cs with atGap := false, atIndent := false }

/-! ## Scalars -/

/-- A plain scalar. -/
def plain (p : Page) (s : String) : Page := p.ensureGap.word s.toList

/-- The rest of a scalar in single quotes. A line may end in it, but no space begins the next. -/
def singleQuotedRest (indent : Nat) (atBreak : Bool) (p : Page) : List Char → Page
  | [] => (if atBreak then p.startLine indent else p).word ['\'']
  | c :: rest =>
    if endsLine c then
      singleQuotedRest indent true { p.putBreak c with atIndent := true } rest
    else
      let p := if atBreak then p.startLine indent else p
      let p := (if c = '\'' then p.put c else p).put c
      singleQuotedRest indent false { p with atIndent := false } rest

/-- A scalar in single quotes; lines after the first are indented. -/
def singleQuoted (p : Page) (indent : Nat) (s : String) : Page :=
  singleQuotedRest indent false (p.ensureGap.word ['\'']) s.toList

/-- The digits of a number in base sixteen, of a given length. -/
def hexDigits (length n : Nat) : List Char :=
  let digits := (Nat.toDigits 16 n).map Char.toUpper
  List.replicate (length - digits.length) '0' ++ digits

/-- The escape of a character in double quotes. -/
def escaped (c : Char) : List Char :=
  let code := match c with
    | '\x00' => ['0']
    | '\x07' => ['a']
    | '\x08' => ['b']
    | '\t' => ['t']
    | '\n' => ['n']
    | '\x0b' => ['v']
    | '\x0c' => ['f']
    | '\r' => ['r']
    | '\x1b' => ['e']
    | '"' => ['"']
    | '\\' => ['\\']
    | '\x85' => ['N']
    | '\u2028' => ['L']
    | '\u2029' => ['P']
    | c =>
      if c.toNat ≤ 0xFF then 'x' :: hexDigits 2 c.toNat
      else if c.toNat ≤ 0xFFFF then 'u' :: hexDigits 4 c.toNat
      else 'U' :: hexDigits 8 c.toNat
  '\\' :: code

/-- A character as it stands in double quotes. -/
def inDoubleQuotes (c : Char) : List Char :=
  if !isPrintable c || endsLine c || c = '"' || c = '\\' then escaped c else [c]

def doubleQuoted (p : Page) (s : String) : Page :=
  p.ensureGap.word ('"' :: s.toList.flatMap inDoubleQuotes ++ ['"'])

/-- What the header of a literal scalar says: the indentation, if the text does not show it, and
what becomes of line breaks at the end. -/
def literalHeader (cs : List Char) : List Char :=
  let begins := match cs with
    | c :: _ => c = ' ' || endsLine c
    | [] => false
  let chomping := match cs.reverse with
    | [] => ['-']
    | [c] => if endsLine c then ['+'] else ['-']
    | c :: d :: _ => if !endsLine c then ['-'] else if endsLine d then ['+'] else []
  '|' :: (if begins then ['2'] else []) ++ chomping

/-- The lines of a literal scalar. -/
def literalLines (indent : Nat) (atBreak : Bool) (p : Page) : List Char → Page
  | [] => p
  | c :: rest =>
    if endsLine c then literalLines indent true { p.putBreak c with atIndent := true } rest
    else
      let p := if atBreak then p.startLine indent else p
      literalLines indent false { p.put c with atIndent := false } rest

/-- A literal scalar, whose lines are indented. -/
def literal (p : Page) (indent : Nat) (s : String) : Page :=
  let p := (p.ensureGap.word (literalHeader s.toList)).putBreak '\n'
  literalLines indent true { p with atGap := true, atIndent := true } s.toList

/-- A text as a scalar whose lines are indented. -/
def scalar (p : Page) (indent : Nat) (s : String) : Page :=
  match scalarForm s with
  | .plain => p.plain s
  | .singleQuoted => p.singleQuoted indent s
  | .literal | .folded => p.literal indent s
  | .doubleQuoted => p.doubleQuoted s

end Page

end AutoAnnotate.Yaml
