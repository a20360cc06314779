import AutoAnnotate.Yaml.BlockScalar
import AutoAnnotate.Yaml.Tag
/-!
# The words of a YAML text

A text is cut into tokens. Indentation becomes tokens too: a block collection begins in the column
of its first dash or key, and ends before the first word that stands to the left of it. A simple key
shows only by the colon behind it. So each place where one may begin is remembered as a candidate,
and the colon then puts the tokens of the key before it. A candidate is given up at the end of its
line, or after 1024 octets.
-/

namespace AutoAnnotate.Yaml

/-- How a scalar is written. -/
inductive ScalarStyle where
  | plain
  | singleQuoted
  | doubleQuoted
  | literal
  | folded
  deriving DecidableEq, Repr

inductive Token where
  | directive (d : Directive)
  | documentStart
  | documentEnd
  | beginSequence
  | beginMapping
  | endBlock
  | openBracket
  | closeBracket
  | openBrace
  | closeBrace
  | dash
  | comma
  | key
  | value
  | alias (name : String)
  | anchor (name : String)
  | tag (t : WrittenTag)
  | scalar (style : ScalarStyle) (text : String)
  deriving Repr

/-- A place where a simple key may begin. -/
structure KeyCandidate where
  /-- How many tokens stand before it. -/
  position : Nat
  mark : Mark
  /-- Whether nothing but a key can stand there. -/
  required : Bool
  deriving Repr

/-- Whether a place is too far behind a candidate to lie behind its key. -/
def KeyCandidate.isStale (k : KeyCandidate) (m : Mark) : Bool :=
  k.mark.line < m.line || k.mark.octets + 1024 < m.octets

/-- A text that is cut into tokens up to a mark. -/
structure Scanner where
  text : List Char
  mark : Mark := {}
  /-- The tokens so far, last first. -/
  tokens : List Token := []
  /-- How many they are. -/
  count : Nat := 0
  /-- The columns of the open block collections, innermost first. -/
  indents : List Nat := []
  /-- Whether a simple key may begin here. -/
  mayBeginKey : Bool := true
  /-- The candidate in the innermost flow collection. -/
  candidate : Option KeyCandidate := none
  /-- The candidates around each of the open flow collections, innermost first. -/
  outerCandidates : List (Option KeyCandidate) := []

namespace Scanner

/-- Whether a flow collection is open. -/
def inFlow (s : Scanner) : Bool := !s.outerCandidates.isEmpty

/-- The column of the innermost block collection; -1 if there is none. -/
def indent (s : Scanner) : Int :=
  match s.indents with
  | [] => -1
  | column :: _ => column

/-- Puts a token behind the first ones. -/
def insertAt (s : Scanner) (position : Nat) (t : Token) : Scanner :=
  let later := s.count - position
  { s with tokens := s.tokens.take later ++ t :: s.tokens.drop later, count := s.count + 1 }

/-- Appends a token and goes on at a place behind it. -/
def emit (s : Scanner) (t : Token) (m : Mark) (rest : List Char) : Scanner :=
  { s with tokens := t :: s.tokens, count := s.count + 1, mark := m, text := rest }

/-- Appends a token of a few characters on one line. -/
def emitShort (s : Scanner) (t : Token) (length : Nat) : Scanner :=
  s.emit t (s.mark.right length) (s.text.drop length)

/-! ## Block collections -/

/-- Closes the block collections that stand to the right of a column. -/
def closeBlocks (s : Scanner) (column : Int) : Scanner :=
  if s.inFlow then s
  else
    let closed := s.indents.takeWhile fun (n : Nat) => column < n
    { s with
      tokens := closed.map (fun _ => .endBlock) ++ s.tokens
      count := s.count + closed.length
      indents := s.indents.drop closed.length }

/-- Opens a block collection in a column, at a position, unless there is one. -/
def openBlock (s : Scanner) (column position : Nat) (t : Token) : Scanner :=
  if s.inFlow || s.indent ≥ column then s
  else { s.insertAt position t with indents := column :: s.indents }

/-- Opens a block collection here, unless there is one; a flow collection has none inside. -/
def openBlockHere (s : Scanner) (t : Token) : Option Scanner :=
  if s.inFlow then some s
  else if s.mayBeginKey then some (s.openBlock s.mark.column s.count t)
  else none

/-! ## Candidates for keys -/

/-- Gives up the candidate, if it may be given up. -/
def dropCandidate (s : Scanner) : Option Scanner :=
  if s.candidate.any (·.required) then none else some { s with candidate := none }

/-- Remembers that a key may begin here. -/
def offerCandidate (s : Scanner) : Option Scanner :=
  if s.mayBeginKey then do
    let s ← s.dropCandidate
    let required := !s.inFlow && s.indent = s.mark.column
    return { s with candidate := some ⟨s.count, s.mark, required⟩ }
  else some s

/-- Gives up all candidates that are too far behind. -/
def dropStale (s : Scanner) : Option Scanner :=
  let isLost (k : KeyCandidate) : Bool := k.isStale s.mark
  if (s.candidate :: s.outerCandidates).any (·.any fun k => k.required && isLost k) then none
  else
    let keep (k : Option KeyCandidate) : Option KeyCandidate := k.filter (!isLost ·)
    some { s with candidate := keep s.candidate, outerCandidates := s.outerCandidates.map keep }

/-! ## From word to word -/

/-- Skips blanks, comments and line breaks, and a byte order mark at the start of a line. A tab
counts as a blank only where no key may begin. -/
def skipFiller (inFlow mayBeginKey inComment : Bool) (m : Mark) :
    List Char → Bool × Mark × List Char
  | [] => (mayBeginKey, m, [])
  | c :: rest =>
    if isBreak c then skipFiller inFlow (mayBeginKey || !inFlow) false m.down rest
    else if inComment || c = '#' then skipFiller inFlow mayBeginKey true (m.past c) rest
    else if c = ' ' || (c = '\t' && (inFlow || !mayBeginKey)) || (c = '\ufeff' && m.column = 0) then
      skipFiller inFlow mayBeginKey false (m.past c) rest
    else (mayBeginKey, m, c :: rest)

/-- Goes to the next word, and closes what ends before it. -/
def toNextWord (s : Scanner) : Option Scanner := do
  let (mayBeginKey, mark, text) := skipFiller s.inFlow s.mayBeginKey false s.mark s.text
  let s ← { s with mayBeginKey, mark, text }.dropStale
  return s.closeBlocks s.mark.column

/-! ## One token -/

/-- A token that stands between parts of a document: a directive or a document marker. -/
def scanBoundary (s : Scanner) : Option Scanner := do
  let s ← (s.closeBlocks (-1)).dropCandidate
  let s := { s with mayBeginKey := false }
  match s.text with
  | '%' :: rest => do
    let (directive, rest) ← scanDirective rest
    return s.emit (.directive directive) (s.mark.right 1) rest
  | '-' :: _ => return s.emitShort .documentStart 3
  | _ => return s.emitShort .documentEnd 3

/-- An opening bracket or brace. -/
def scanOpening (s : Scanner) (t : Token) : Option Scanner := do
  let s ← s.offerCandidate
  return { s.emitShort t 1 with
    mayBeginKey := true, candidate := none, outerCandidates := s.candidate :: s.outerCandidates }

/-- A closing bracket or brace. -/
def scanClosing (s : Scanner) (t : Token) : Option Scanner := do
  let s ← s.dropCandidate
  let s := { s.emitShort t 1 with mayBeginKey := false }
  match s.outerCandidates with
  | [] => return s
  | k :: outer => return { s with candidate := k, outerCandidates := outer }

def scanComma (s : Scanner) : Option Scanner := do
  let s ← s.dropCandidate
  return { s.emitShort .comma 1 with mayBeginKey := true }

/-- The dash of an item. -/
def scanDash (s : Scanner) : Option Scanner := do
  let s ← (← s.openBlockHere .beginSequence).dropCandidate
  return { s.emitShort .dash 1 with mayBeginKey := true }

/-- The question mark of a key. -/
def scanKey (s : Scanner) : Option Scanner := do
  let s ← (← s.openBlockHere .beginMapping).dropCandidate
  return { s.emitShort .key 1 with mayBeginKey := !s.inFlow }

/-- The colon before a value. -/
def scanValue (s : Scanner) : Option Scanner := do
  match s.candidate with
  | some k =>
    let s := (s.insertAt k.position .key).openBlock k.mark.column k.position .beginMapping
    return { s.emitShort .value 1 with mayBeginKey := false, candidate := none }
  | none =>
    let s ← s.openBlockHere .beginMapping
    return { s.emitShort .value 1 with mayBeginKey := !s.inFlow }

/-- Whether the name of an anchor may end here. -/
def endsName (cs : List Char) : Bool :=
  endsWord cs || cs.head?.any ("?:,]\x7d%@`".toList.contains ·)

/-- An anchor or an alias. -/
def scanName (s : Scanner) (t : String → Token) : Option Scanner := do
  let s ← s.offerCandidate
  let name := (s.text.drop 1).takeWhile isWordChar
  let rest := (s.text.drop 1).dropWhile isWordChar
  if name.isEmpty || !endsName rest then none
  return { s.emit (t (String.ofList name)) (s.mark.right (name.length + 1)) rest with
    mayBeginKey := false }

def scanTagToken (s : Scanner) : Option Scanner := do
  let s ← s.offerCandidate
  let (tag, rest) ← scanTag s.inFlow s.text
  return { s.emit (.tag tag) (s.mark.right (s.text.length - rest.length)) rest with
    mayBeginKey := false }

/-- A block scalar, from its indicator on. -/
def scanBlockScalar (s : Scanner) (style : ScalarStyle) : Option Scanner := do
  let s ← s.dropCandidate
  let found ← scanBlock (style = .literal) s.indent (s.mark.right 1) (s.text.drop 1)
  return { s.emit (.scalar style found.text) found.mark found.rest with mayBeginKey := true }

/-- A quoted scalar, from its first quotation mark on. -/
def scanQuoted (s : Scanner) (style : ScalarStyle) : Option Scanner := do
  let s ← s.offerCandidate
  let inside := s.text.drop 1
  let found ←
    if style = .singleQuoted then scanSingleQuoted {} (s.mark.right 1) inside
    else scanDoubleQuoted {} (s.mark.right 1) .none inside
  return { s.emit (.scalar style found.text) found.mark found.rest with mayBeginKey := false }

/-- A plain scalar. The next key may begin behind it only if a line has ended. -/
def scanPlainScalar (s : Scanner) : Option Scanner := do
  let s ← s.offerCandidate
  let found ← scanPlain s.inFlow (s.indent + 1).toNat {} true s.mark s.text
  return { s.emit (.scalar .plain found.text) found.mark found.rest with
    mayBeginKey := found.endsLine }

/-- Whether a plain scalar may begin with a character. -/
def beginsPlain (inFlow : Bool) (c : Char) (rest : List Char) : Bool :=
  if c = '-' then !rest.head?.any isBlank
  else if c = '?' || c = ':' then !inFlow && !endsWord rest
  else !(isBlank c || ",[]\x7b\x7d#&*!|>'\"%@`".toList.contains c)

/-- The token that begins with a character. -/
def scanToken (s : Scanner) (c : Char) (rest : List Char) : Option Scanner :=
  if s.mark.column = 0 && (c = '%' || atDocumentMarker (c :: rest)) then s.scanBoundary
  else if c = '-' && endsWord rest then s.scanDash
  else if c = '?' && (s.inFlow || endsWord rest) then s.scanKey
  else if c = ':' && (s.inFlow || endsWord rest) then s.scanValue
  else if c = '|' && !s.inFlow then s.scanBlockScalar .literal
  else if c = '>' && !s.inFlow then s.scanBlockScalar .folded
  else match c with
    | '[' => s.scanOpening .openBracket
    | '{' => s.scanOpening .openBrace
    | ']' => s.scanClosing .closeBracket
    | '}' => s.scanClosing .closeBrace
    | ',' => s.scanComma
    | '*' => s.scanName .alias
    | '&' => s.scanName .anchor
    | '!' => s.scanTagToken
    | '\'' => s.scanQuoted .singleQuoted
    | '"' => s.scanQuoted .doubleQuoted
    | _ => if beginsPlain s.inFlow c rest then s.scanPlainScalar else none

/-- The tokens of the whole text. Each step takes at least one character, so one step more than
there are characters is enough. -/
def scanAll : Nat → Scanner → Option (List Token)
  | 0, _ => none
  | steps + 1, s => do
    let s ← s.toNextWord
    match s.text with
    | [] => do
      let s ← (s.closeBlocks (-1)).dropCandidate
      return s.tokens.reverse
    | c :: rest => scanAll steps (← s.scanToken c rest)

end Scanner

/-- The tokens of a prepared text, if it is well formed. -/
def scanTokens (text : List Char) : Option (List Token) :=
  Scanner.scanAll (text.length + 1) { text := text }

end AutoAnnotate.Yaml
