import AutoAnnotate.Tree.Decoding
import AutoAnnotate.Yaml.Document
import AutoAnnotate.Yaml.Meaning
/-!
# Reading classes and configurations from YAML

Where a text is expected, any scalar is taken by its spelling; where a list, a map or a record is
expected, a scalar that is not there counts as an empty one. Aliases are followed, but only so many
times in a document that it cannot blow up, and collections may be nested at most 128 deep.
-/

namespace AutoAnnotate.Yaml

/-- A node in its document; no node if the document is empty. -/
structure Place where
  document : Document
  /-- How many more collections may be nested here. -/
  depth : Nat
  node : Option Node

/-- Reads something, or fails. The state is the number of aliases that may still be followed. -/
abbrev Read := StateT Nat Option

namespace Place

/-- The node of a place, behind an alias if it is one. -/
def contents (p : Place) : Read (Option Node) := do
  match p.node with
  | some (.alias anchor) =>
    match ← get with
    | 0 => failure
    | left + 1 =>
      set left
      match p.document.target? anchor with
      | some n => return some n
      | none => failure
  | n => return n

/-- Where the nodes stand that are nested in the collection of this place. -/
def nested (p : Place) : Read (Node → Place) :=
  match p.depth with
  | 0 => failure
  | depth + 1 => return fun n => { p with depth, node := some n }

end Place

/-- Whether a node is missing or an empty plain scalar. -/
def isNothing : Option Node → Bool
  | none => true
  | some (.scalar _ style text) => style = .plain && text.isEmpty
  | _ => false

def readText (p : Place) : Read String := do
  match ← p.contents with
  | some (.scalar _ _ text) => return text
  | _ => failure

/-- Whether a scalar may be a switch: a plain one, or a literal one with the tag for it. -/
def mayBeFlag (style : ScalarStyle) (tag : Option Tag) : Bool :=
  style = .plain || (style = .literal && tag = some Tag.bool)

def readFlag (p : Place) : Read Bool := do
  match ← p.contents with
  | some (.scalar q style text) => if mayBeFlag style q.tag then bool? text else none
  | _ => failure

/-! ## Values -/

/-- Whether a node has a tag that no value has. -/
def isForeign (p : Properties) : Bool := p.tag.any Tag.isApplication

/-- The value that a spelling means, if it means one. -/
def Meaning.value? : Meaning → String → Option Value
  | .bool b, _ => some (.bool b)
  | .int n, _ => some (.int n)
  | .float x, _ => some (.float x)
  | .text, s => some (.text s)
  | .null, _ | .wide, _ => none

/-- The value of a scalar. A tag for Booleans, numbers or null decides how it is read. Else a scalar
is read by its spelling if it is plain and has at most a local tag, and is a text if not. -/
def scalarValue? (tag : Option Tag) (style : ScalarStyle) (text : String) : Option Value :=
  if tag = some Tag.bool then (bool? text).map .bool
  else if tag = some Tag.int then (wholeMeaning? text.toList).bind (·.value? text)
  else if tag = some Tag.float then (float? text.toList).map .float
  else if tag = some Tag.null then none
  else if style = .plain && tag.all Tag.isLocal then (meaning text).value? text
  else some (.text text)

/-- The value of a node that stands in a document, with a number of collections that may still be
nested there. -/
def readValueAt (d : Document) (depth : Nat) (n : Node) : Read Value := do
  match ← Place.contents ⟨d, depth, some n⟩ with
  | some (.scalar p style text) =>
    if isForeign p then failure else scalarValue? p.tag style text
  | some (.sequence p items) =>
    if isForeign p then failure
    else match depth with
      | 0 => failure
      | depth + 1 => return .list (← items.mapM (readValueAt d depth))
  | _ => failure

def readValue (p : Place) : Read Value :=
  match p.node with
  | some n => readValueAt p.document p.depth n
  | none => failure

/-! ## Collections -/

def readList {α : Type} (read : Place → Read α) (p : Place) : Read (List α) := do
  match ← p.contents with
  | some (.sequence _ items) => do
    let place ← p.nested
    items.mapM fun n => read (place n)
  | n => if isNothing n then return [] else failure

/-- Reads the entries of a mapping one after the other: the text of a key, then what stands under
it. -/
def readEntries {α : Type} (read : String → Place → α → Read α) (start : α) (p : Place) :
    Read α := do
  match ← p.contents with
  | some (.mapping _ entries) => do
    let place ← p.nested
    entries.foldlM (fun a e => do read (← readText (place e.1)) (place e.2) a) start
  | n => if isNothing n then return start else failure

def readMap {α : Type} (read : Place → Read α) : Place → Read (OrderedMap α) :=
  readEntries (fun key p m => do return m.insert key (← read p)) {}

/-- Reads a member of a record into what was read so far, unless it came before. Values under other
names do not count. -/
def readMember {σ : Type} (ms : List (RecordMember Read Place σ)) (name : String) (p : Place) :
    List String × σ → Read (List String × σ)
  | (seen, s) =>
    match ms.find? (·.name = name) with
    | none => return (seen, s)
    | some m => if name ∈ seen then failure else return (name :: seen, ← m.read p s)

def readRecord {σ : Type} (ms : List (RecordMember Read Place σ)) (start : σ) (p : Place) :
    Read σ := do
  let (seen, s) ← readEntries (readMember ms) ([], start) p
  if ms.any fun m => m.required && m.name ∉ seen then failure else return s

/-- How YAML is read. -/
def reader : TreeReader Read Place where
  text := readText
  flag := readFlag
  value := readValue
  list := readList
  map := readMap
  record := readRecord

namespace Document

/-- How deep collections may be nested. -/
def nestingLimit : Nat := 128

/-- How often aliases may be followed in a document, for each node in it. -/
def aliasesPerNode : Nat := 100

/-- Reads the whole document. -/
def read {α : Type} (d : Document) (read : Place → Read α) : Option α :=
  ((read ⟨d, nestingLimit, d.root⟩).run (aliasesPerNode * d.size)).map Prod.fst

end Document

end AutoAnnotate.Yaml
