import AutoAnnotate.Json.Document
import AutoAnnotate.Tree.Decoding
/-!
# Reading classes and configurations from JSON

A draft is read from left to right, so the first fault decides. A record may be written as an object
or as an array of its members in order. In an object, members with other names are passed over, a
name given twice is a mismatch, and so is a missing member without default; in an array, members may
be missing at the end.
-/

namespace AutoAnnotate.Json

namespace Draft

/-- The fault of a draft that is not of the expected kind. -/
def mismatched : Draft → Fault
  | .broken f _ => f
  | _ => .mismatch

def readText : Draft → Except Fault String
  | .text s => .ok s
  | d => .error d.mismatched

def readFlag : Draft → Except Fault Bool
  | .bool b => .ok b
  | d => .error d.mismatched

mutual

/-- Reads a whole draft; the answer is its value, or `none` if no value has its shape. -/
def readAny : Draft → Except Fault (Option Value)
  | .null => .ok none
  | .bool b => .ok (some (.bool b))
  | .number (.int n) => .ok (some (.int n))
  | .number (.float x) => .ok (some (.float x))
  | .text s => .ok (some (.text s))
  | .array items close => do
    let values ← readAnyAll items
    clear close
    return values.map .list
  | .object members close => do
    readAnyMembers members
    clear close
    return none
  | .broken f _ => .error f

def readAnyAll : List Draft → Except Fault (Option (List Value))
  | [] => .ok (some [])
  | d :: rest => do
    let v ← readAny d
    let vs ← readAnyAll rest
    return do return (← v) :: (← vs)

def readAnyMembers : List (Draft × Draft) → Except Fault Unit
  | [] => .ok ()
  | (key, d) :: rest => do
    let _ ← readAny key
    let _ ← readAny d
    readAnyMembers rest

end

/-- Reads an attribute value: the whole draft first, then its shape counts. -/
def readValue (d : Draft) : Except Fault Value := do
  match ← d.readAny with
  | some v => return v
  | none => throw .mismatch

def readList {α : Type} (read : Draft → Except Fault α) : Draft → Except Fault (List α)
  | .array items close => do
    let values ← items.mapM read
    clear close
    return values
  | d => .error d.mismatched

def readMap {α : Type} (read : Draft → Except Fault α) : Draft → Except Fault (OrderedMap α)
  | .object members close => do
    let entries ← members.mapM fun e => do
      let key ← e.1.readText
      return (key, ← read e.2)
    clear close
    return .ofList entries
  | d => .error d.mismatched

/-- A member of a record in JSON. -/
abbrev Member (σ : Type) := RecordMember (Except Fault) Draft σ

/-- Reads the items of an array as members in order, and makes sure that all of the array has been
read. -/
def readPositions {σ : Type} (close : Option Fault) :
    List (Member σ) → List Draft → σ → Except Fault σ
  | [], [], s => do clear close; return s
  | [], _ :: _, _ => .error .malformed
  | m :: ms, [], s => do
    clear close
    if m.required then throw .mismatch
    readPositions close ms [] s
  | m :: ms, d :: ds, s => do readPositions close ms ds (← m.read d s)

/-- Reads the members of an object one by one, with the names that came before. -/
def readMembers {σ : Type} (ms : List (Member σ)) :
    List (Draft × Draft) → List String → σ → Except Fault (List String × σ)
  | [], seen, s => .ok (seen, s)
  | (key, d) :: rest, seen, s => do
    let name ← key.readText
    match ms.find? (·.name = name) with
    | none => do
      d.pass
      readMembers ms rest seen s
    | some m =>
      if name ∈ seen then throw .mismatch
      readMembers ms rest (name :: seen) (← m.read d s)

def readRecord {σ : Type} (ms : List (Member σ)) (start : σ) : Draft → Except Fault σ
  | .array items close => readPositions close ms items start
  | .object members close => do
    let (seen, s) ← readMembers ms members [] start
    clear close
    if ms.any fun m => m.required && m.name ∉ seen then throw .mismatch
    return s
  | d => .error d.mismatched

end Draft

/-- How JSON is read. -/
def reader : TreeReader (Except Fault) Draft where
  text := Draft.readText
  flag := Draft.readFlag
  value := Draft.readValue
  list := Draft.readList
  map := Draft.readMap
  record := Draft.readRecord

end AutoAnnotate.Json
