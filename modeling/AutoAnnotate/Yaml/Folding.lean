import AutoAnnotate.Yaml.Character
/-!
# Text over several lines

Plain and quoted scalars may go over several lines. The white space between two words is kept if it
has no line break. With a line break, the blanks around it are dropped: one line feed becomes a
space, further line breaks are kept. White space is therefore held back until a word follows.
-/

namespace AutoAnnotate.Yaml

/-- The text of a scalar so far, with the white space behind it. Characters are listed last
first. -/
structure Folding where
  text : List Char := []
  /-- Blanks since the last word, if no line has ended since. -/
  blanks : List Char := []
  /-- The line break that ended the line of the last word; no character if it was escaped. -/
  firstBreak : Option (Option Char) := none
  /-- Line breaks after the first one. -/
  moreBreaks : List Char := []

namespace Folding

/-- Whether a line has ended since the last word. -/
def hasBreak (f : Folding) : Bool := f.firstBreak.isSome

/-- The text with the white space behind it folded in. -/
def settle (f : Folding) : List Char :=
  match f.firstBreak with
  | none => f.blanks ++ f.text
  | some none => f.moreBreaks ++ f.text
  | some (some b) =>
    if b = '\n' then (if f.moreBreaks.isEmpty then ' ' :: f.text else f.moreBreaks ++ f.text)
    else f.moreBreaks ++ b :: f.text

/-- A character of a word follows. -/
def push (f : Folding) (c : Char) : Folding := { text := c :: f.settle }

/-- A blank follows; it counts only on the line of the last word. -/
def pushBlank (f : Folding) (c : Char) : Folding :=
  if f.hasBreak then f else { f with blanks := c :: f.blanks }

/-- A line break follows. -/
def pushBreak (f : Folding) (c : Char) : Folding :=
  if f.hasBreak then { f with moreBreaks := c :: f.moreBreaks }
  else { f with blanks := [], firstBreak := some (some c) }

/-- An escaped line break follows. -/
def pushEscapedBreak (f : Folding) : Folding :=
  { text := f.settle, firstBreak := some none }

/-- The text, first character first. -/
def result (f : Folding) : String := String.ofList f.text.reverse

end Folding

end AutoAnnotate.Yaml
