import AutoAnnotate.Yaml.Meaning
import AutoAnnotate.Yaml.Token
/-!
# Choosing how to write a text

A text of several lines is written as a literal scalar; any other text is written plain, unless it
would mean something else, or in single quotes. Some texts cannot be written as one would like:
indicators and space in the wrong places ask for quotes, and what cannot stand for itself asks for
double quotes, which can hold any text.
-/

namespace AutoAnnotate.Yaml

/-- A character that ends a line when a text is written. -/
def endsLine (c : Char) : Bool := isBreak c || c = '\r' || c = '\x85'

/-- Whether a character may stand for itself in a written text. -/
def isPrintable (c : Char) : Bool :=
  c = '\n' || (' ' ≤ c && c ≤ '~') ||
    (0xA0 ≤ c.toNat && c ≠ '\ufeff' && c ≠ '\ufffe' && c ≠ '\uffff')

/-- Whether an indicator next to this character is apart from the text. -/
def isGap (c : Char) : Bool := isBlank c || endsLine c || c = '\x00'

/-- Whether some character and the next one are related. -/
def hasPair (r : Char → Char → Bool) : List Char → Bool
  | a :: b :: rest => r a b || hasPair r (b :: rest)
  | _ => false

/-- Whether the first character makes a reader see no plain scalar. -/
def beginsWithIndicator : List Char → Bool
  | [] => false
  | c :: rest =>
    "#,[]\x7b\x7d&*!|>'\"%@`".toList.contains c ||
      ((c = '?' || c = ':' || c = '-') && (rest.head?.map isGap).getD true)

/-- Whether a reader would see an indicator somewhere in the text. -/
def hasIndicator (cs : List Char) : Bool :=
  ['-', '-', '-'].isPrefixOf cs || ['.', '.', '.'].isPrefixOf cs || beginsWithIndicator cs ||
    hasPair (fun a b => a = ':' && isGap b) cs || cs.getLast? = some ':' ||
    hasPair (fun a b => isGap a && b = '#') cs

/-- Whether the text holds a character that cannot stand for itself, or has a space at the end of a
line that is not the last one. -/
def needsEscapes (cs : List Char) : Bool :=
  !cs.all isPrintable || hasPair (fun a b => a = ' ' && endsLine b) cs

def allowsSingleQuotes (cs : List Char) : Bool :=
  !needsEscapes cs && !hasPair (fun a b => endsLine a && b = ' ') cs

def allowsPlain (cs : List Char) : Bool :=
  allowsSingleQuotes cs && !cs.any endsLine && !hasIndicator cs &&
    cs.head? ≠ some ' ' && cs.getLast? ≠ some ' '

def allowsLiteral (cs : List Char) : Bool := !needsEscapes cs && cs.getLast? ≠ some ' '

/-- Whether a plain scalar would not mean the text that it spells. -/
def meansOther (s : String) : Bool := meaning s ≠ .text || isPaddedDigits s.toList

/-- How a text is written. -/
def scalarForm (s : String) : ScalarStyle :=
  let cs := s.toList
  if cs.contains '\n' then (if allowsLiteral cs then .literal else .doubleQuoted)
  else if !meansOther s && allowsPlain cs then .plain
  else if allowsSingleQuotes cs then .singleQuoted
  else .doubleQuoted

/-- Whether a text may be written as a key with nothing but a colon behind it: on one line, in at
most 128 octets. -/
def isSimpleKey (s : String) : Bool := !s.toList.any endsLine && s.utf8ByteSize ≤ 128

end AutoAnnotate.Yaml
