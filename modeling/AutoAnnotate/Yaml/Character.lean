/-!
# Characters of YAML texts

The classes of characters that the words of a YAML text are made of, and places in a text. A text is
prepared before it is read: line breaks are written as line feeds, and a character that no YAML text
may hold makes the text unreadable.
-/

namespace AutoAnnotate.Yaml

def isBlank (c : Char) : Bool := c = ' ' || c = '\t'

/-- A line break in a prepared text: a line feed, or the line or paragraph separator. -/
def isBreak (c : Char) : Bool := c = '\n' || c = '\u2028' || c = '\u2029'

/-- Whether a word ends here: before a blank or a line break, or with the text. -/
def endsWord : List Char → Bool
  | [] => true
  | c :: _ => isBlank c || isBreak c

/-- A character of names of anchors, tag handles and directives. -/
def isWordChar (c : Char) : Bool := c.isAlphanum || c = '-' || c = '_'

/-- Indicators of the flow style that end a plain scalar there. -/
def isFlowIndicator (c : Char) : Bool := c = ',' || c = '[' || c = ']' || c = '\x7b' || c = '\x7d'

/-- A character that a YAML text may hold. -/
def isAllowed (c : Char) : Bool :=
  let n := c.toNat
  n = 0x09 || n = 0x0A || n = 0x0D || (0x20 ≤ n && n ≤ 0x7E) || n = 0x85 ||
    (0xA0 ≤ n && n ≤ 0xFFFD) || 0x10000 ≤ n

/-- A document marker at the start of a line: three dashes or three dots that end a word. -/
def atDocumentMarker : List Char → Bool
  | '-' :: '-' :: '-' :: rest => endsWord rest
  | '.' :: '.' :: '.' :: rest => endsWord rest
  | _ => false

/-- A text with every line break that is not a separator written as a line feed. -/
def unifyBreaks : List Char → List Char
  | [] => []
  | '\r' :: '\n' :: rest => '\n' :: unifyBreaks rest
  | c :: rest => (if c = '\r' || c = '\x85' then '\n' else c) :: unifyBreaks rest

/-- A text ready to be read, if it can be. -/
def prepare (s : String) : Option (List Char) :=
  let cs := s.toList
  if cs.all isAllowed then some (unifyBreaks cs) else none

/-- A place in a text: how many lines stand before it, how many characters on its line, and how many
octets these take in UTF-8. -/
structure Mark where
  line : Nat := 0
  column : Nat := 0
  octets : Nat := 0
  deriving Repr

namespace Mark

/-- The place behind one more character of the line. -/
def past (m : Mark) (c : Char) : Mark :=
  { m with column := m.column + 1, octets := m.octets + c.utf8Size }

/-- The place behind a few more characters of the line, which are ASCII. -/
def right (m : Mark) (count : Nat) : Mark :=
  { m with column := m.column + count, octets := m.octets + count }

/-- The place at the start of the next line. -/
def down (m : Mark) : Mark := { line := m.line + 1 }

end Mark

end AutoAnnotate.Yaml
