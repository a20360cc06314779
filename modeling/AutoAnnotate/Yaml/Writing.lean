import AutoAnnotate.Binary64.Text
import AutoAnnotate.Tree.Basic
import AutoAnnotate.Yaml.Page
/-!
# Writing YAML

A tree is written in block style: an item or an entry a line, every level indented by two spaces,
except that a list that is the value of a simple key stands in the column of the key. Empty
collections are written in flow style.
-/

namespace AutoAnnotate.Yaml

/-- The column of a collection inside another one, whose column is given. -/
def innerColumn : Option Nat → Nat
  | none => 0
  | some column => column + 2

/-- The least column for the lines of a scalar in a collection, whose column is given. -/
def scalarColumn (outer : Option Nat) : Nat := outer.getD 0 + 2

/-- A key on a line of its own, up to its value. A key that is not simple stands between a question
mark and a line with a colon. -/
def putKey (p : Page) (column : Nat) (key : String) : Page :=
  let p := p.startLine column
  if isSimpleKey key then (p.scalar (column + 2) key).word [':']
  else (((p.indicator '?').scalar (column + 2) key).startLine column).indicator ':'

mutual

/-- Writes a tree inside a collection in a column. The flag says that it is the value of a key. -/
def putTree (outer : Option Nat) (isValue : Bool) (p : Page) : Tree → Page
  | .bool b => p.plain (if b then "true" else "false")
  | .int n => p.plain (toString n.toInt)
  | .float x => p.plain (FloatFormat.yaml.render x)
  | .text s => p.scalar (scalarColumn outer) s
  | .list items =>
    if items.isEmpty then p.ensureGap.word ['[', ']']
    else
      let indentless := isValue && !p.atIndent
      putItems (if indentless then outer.getD 0 else innerColumn outer) p items
  | .table entries =>
    if entries.isEmpty then p.ensureGap.word ['\x7b', '\x7d']
    else putEntries (innerColumn outer) p entries

/-- Writes the items of a list in a column. -/
def putItems (column : Nat) (p : Page) : List Tree → Page
  | [] => p
  | t :: rest =>
    putItems column (putTree (some column) false ((p.startLine column).indicator '-') t) rest

/-- Writes the entries of a table in a column. -/
def putEntries (column : Nat) (p : Page) : List (String × Tree) → Page
  | [] => p
  | (key, t) :: rest =>
    putEntries column (putTree (some column) true (putKey p column key) t) rest

end

/-- A tree as a YAML text. -/
def render (t : Tree) : String := ((putTree none false {} t).startLine 0).text

end AutoAnnotate.Yaml
