import AutoAnnotate.Binary64.Basic
/-!
# Data as a tree

A `Tree` is what a configuration or a class looks like as data: the shape that JSON texts and YAML
texts have in common. Tables keep the order of their entries.
-/

namespace AutoAnnotate

/-- A piece of data that can be written as JSON or as YAML. -/
inductive Tree where
  | bool (b : Bool)
  | int (n : Int64)
  | float (x : Binary64)
  | text (s : String)
  | list (items : List Tree)
  | table (entries : List (String × Tree))
  deriving Repr

namespace Tree

/-- Puts an entry before the first entry with a greater key. -/
def insertByKey (e : String × Tree) : List (String × Tree) → List (String × Tree)
  | [] => [e]
  | f :: rest => if e.1 < f.1 then e :: f :: rest else f :: insertByKey e rest

mutual

/-- The tree with the entries of all its tables in ascending order of their keys. -/
def sortKeys : Tree → Tree
  | .list items => .list (sortKeysAll items)
  | .table entries => .table (sortKeysEntries entries)
  | .bool b => .bool b
  | .int n => .int n
  | .float x => .float x
  | .text s => .text s

def sortKeysAll : List Tree → List Tree
  | [] => []
  | t :: rest => sortKeys t :: sortKeysAll rest

def sortKeysEntries : List (String × Tree) → List (String × Tree)
  | [] => []
  | (key, t) :: rest => insertByKey (key, sortKeys t) (sortKeysEntries rest)

end

end Tree

end AutoAnnotate
