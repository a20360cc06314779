import AutoAnnotate.Binary64.Text
import AutoAnnotate.Tree.Basic
/-!
# Writing JSON

A tree is written on one line without space, or on many lines with every level indented by two
spaces. In a text the quotation mark, the backslash and the characters below U+0020 are escaped;
every other character stands for itself. A number that is not finite becomes `null`.
-/

namespace AutoAnnotate.Json

/-- The last two digits of the code point of a control character. -/
def controlDigits (c : Char) : List Char :=
  let digits := Nat.toDigits 16 c.toNat
  List.replicate (2 - digits.length) '0' ++ digits

/-- A character as it stands inside a JSON string. -/
def escapeChar (c : Char) : List Char :=
  if c = '"' then ['\\', '"']
  else if c = '\\' then ['\\', '\\']
  else if c = '\x08' then ['\\', 'b']
  else if c = '\x0c' then ['\\', 'f']
  else if c = '\n' then ['\\', 'n']
  else if c = '\r' then ['\\', 'r']
  else if c = '\t' then ['\\', 't']
  else if c.toNat < 0x20 then ['\\', 'u', '0', '0'] ++ controlDigits c
  else [c]

/-- A text as a JSON string. -/
def encodeString (s : String) : String :=
  String.ofList ('"' :: s.toList.flatMap escapeChar ++ ['"'])

mutual

/-- A tree on one line. -/
def compact : Tree → String
  | .bool b => if b then "true" else "false"
  | .int n => toString n.toInt
  | .float x => FloatFormat.json.render x
  | .text s => encodeString s
  | .list items => "[" ++ ",".intercalate (compactAll items) ++ "]"
  | .table entries => "\x7b" ++ ",".intercalate (compactEntries entries) ++ "\x7d"

def compactAll : List Tree → List String
  | [] => []
  | t :: rest => compact t :: compactAll rest

def compactEntries : List (String × Tree) → List String
  | [] => []
  | (key, t) :: rest => (encodeString key ++ ":" ++ compact t) :: compactEntries rest

end

/-- A line break and the space before the text of a level. -/
def newLine (level : Nat) : String := String.ofList ('\n' :: List.replicate (2 * level) ' ')

/-- Parts between brackets, each on a line of its own one level below the brackets. -/
def block (opening closing : String) (level : Nat) (parts : List String) : String :=
  if parts.isEmpty then opening ++ closing
  else
    opening ++ newLine (level + 1) ++ ("," ++ newLine (level + 1)).intercalate parts ++
      newLine level ++ closing

mutual

/-- A tree on many lines, at a level of indentation. -/
def prettyAt (level : Nat) : Tree → String
  | .list items => block "[" "]" level (prettyAll (level + 1) items)
  | .table entries => block "\x7b" "\x7d" level (prettyEntries (level + 1) entries)
  | .bool b => compact (.bool b)
  | .int n => compact (.int n)
  | .float x => compact (.float x)
  | .text s => compact (.text s)

def prettyAll (level : Nat) : List Tree → List String
  | [] => []
  | t :: rest => prettyAt level t :: prettyAll level rest

def prettyEntries (level : Nat) : List (String × Tree) → List String
  | [] => []
  | (key, t) :: rest =>
    (encodeString key ++ ": " ++ prettyAt level t) :: prettyEntries level rest

end

/-- A tree on many lines. -/
def pretty (t : Tree) : String := prettyAt 0 t

/-- A tree on one line with the keys of all tables in ascending order, so that the order in which
they were put in does not show. -/
def canonical (t : Tree) : String := compact t.sortKeys

end AutoAnnotate.Json
