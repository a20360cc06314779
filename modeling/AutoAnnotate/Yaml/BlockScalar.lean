import AutoAnnotate.Yaml.FlowScalar
/-!
# Block scalars

A block scalar is a header line and the lines below it that are indented enough. Its indentation is
given in the header or by the first line that is not empty. A literal scalar keeps its line breaks;
a folded one turns a single line break between two lines that begin with a word into a space. The
header also says what becomes of the line breaks at the end.
-/

namespace AutoAnnotate.Yaml

/-- What becomes of the line breaks at the end of a block scalar. -/
inductive Chomping where
  /-- None is kept. -/
  | strip
  /-- The first one is kept. -/
  | clip
  /-- All are kept. -/
  | keep
  deriving DecidableEq, Repr

/-- The header of a block scalar. -/
structure BlockHeader where
  chomping : Chomping := .clip
  /-- The indentation, relative to the collection around the scalar. -/
  indentation : Option Nat := none

/-- The chomping that a character stands for. -/
def chomping? (c : Char) : Option Chomping :=
  if c = '+' then some .keep else if c = '-' then some .strip else none

/-- The indentation that a digit stands for; there is none for zero. -/
def indentationDigit? (c : Char) : Option Nat :=
  if c.isDigit && c ≠ '0' then some (c.toNat - '0'.toNat) else none

/-- The indicators of a block scalar, in either order, and the text behind them. -/
def scanBlockHeader (cs : List Char) : Option (BlockHeader × List Char) :=
  match cs with
  | a :: b :: rest =>
    match chomping? a, indentationDigit? b with
    | some ch, some n => some (⟨ch, some n⟩, rest)
    | some ch, none => if b = '0' then none else some ({ chomping := ch }, b :: rest)
    | none, _ =>
      if a = '0' then none
      else match indentationDigit? a with
        | none => some ({}, cs)
        | some n => match chomping? b with
          | some ch => some (⟨ch, some n⟩, rest)
          | none => some ({ indentation := some n }, b :: rest)
  | [a] =>
    match chomping? a, indentationDigit? a with
    | some ch, _ => some ({ chomping := ch }, [])
    | none, some n => some ({ indentation := some n }, [])
    | none, none => if a = '0' then none else some ({}, [a])
  | [] => some ({}, [])

/-- A block scalar as far as it is scanned. Characters are listed last first. -/
structure BlockText where
  text : List Char := []
  /-- The line break at the end of the last line. -/
  lineBreak : List Char := []
  /-- The line breaks after it. -/
  emptyLines : List Char := []
  /-- Whether the last line begins with a blank. -/
  indented : Bool := false
  /-- The column in which lines begin, once it is known. -/
  column : Option Nat := none
  /-- The most spaces on a line so far, while the column is not known. -/
  mostSpaces : Nat := 0

namespace BlockText

/-- A line with a first character begins. -/
def beginLine (b : BlockText) (literal : Bool) (first : Char) : BlockText :=
  let joins := !literal && b.lineBreak = ['\n'] && !b.indented && !isBlank first
  let text :=
    if joins then (if b.emptyLines.isEmpty then ' ' :: b.text else b.emptyLines ++ b.text)
    else b.emptyLines ++ (b.lineBreak ++ b.text)
  { b with text := text, lineBreak := [], emptyLines := [], indented := isBlank first }

/-- The text, with the line breaks at its end as the header asks. -/
def result (b : BlockText) (chomping : Chomping) : String :=
  let text := match chomping with
    | .strip => b.text
    | .clip => b.lineBreak ++ b.text
    | .keep => b.emptyLines ++ (b.lineBreak ++ b.text)
  String.ofList text.reverse

end BlockText

/-- The lines of a block scalar. `least` is the least column in which its lines may begin, and
`inLine` says that a character of the line came already. -/
def scanBlockLines (literal : Bool) (chomping : Chomping) (least : Nat) (b : BlockText)
    (inLine : Bool) (m : Mark) : List Char → Option TextScan
  | [] => some ⟨b.result chomping, m, []⟩
  | c :: rest =>
    if inLine then
      if isBreak c then
        scanBlockLines literal chomping least { b with lineBreak := [c] } false m.down rest
      else
        scanBlockLines literal chomping least { b with text := c :: b.text } true (m.past c) rest
    else
      let beforeColumn := match b.column with
        | none => true
        | some column => decide (m.column < column)
      if c = ' ' && beforeColumn then
        scanBlockLines literal chomping least b false (m.right 1) rest
      else if c = '\t' && beforeColumn then none
      else
        let b := { b with mostSpaces := max b.mostSpaces m.column }
        if isBreak c then
          scanBlockLines literal chomping least { b with emptyLines := c :: b.emptyLines } false
            m.down rest
        else
          let column := b.column.getD (max b.mostSpaces (max least 1))
          if m.column = column then
            let b := { b with column := some column }.beginLine literal c
            scanBlockLines literal chomping least { b with text := c :: b.text } true (m.past c)
              rest
          else some ⟨b.result chomping, m, c :: rest⟩

/-- A block scalar behind its indicator. `indent` is the column of the collection around it; -1 if
there is none. -/
def scanBlock (literal : Bool) (indent : Int) (m : Mark) (cs : List Char) : Option TextScan := do
  let (header, afterHeader) ← scanBlockHeader cs
  let afterBlanks := afterHeader.dropWhile isBlank
  let afterComment := match afterBlanks with
    | '#' :: _ => afterBlanks.dropWhile (!isBreak ·)
    | _ => afterBlanks
  let column := header.indentation.map fun n => (max indent 0).toNat + n
  let least := (indent + 1).toNat
  match afterComment with
  | [] => scanBlockLines literal header.chomping least { column } false m []
  | c :: rest =>
    if isBreak c then
      scanBlockLines literal header.chomping least { column } false m.down rest
    else none

end AutoAnnotate.Yaml
