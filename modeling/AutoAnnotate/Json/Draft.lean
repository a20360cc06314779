import AutoAnnotate.Json.Number
/-!
# What a reader finds in a JSON text

A reader goes from left to right and stops at the first fault. A `Draft` is the tree that it has
found by then: the whole text, or the part before the fault with the fault as its last leaf. A fault
may depend on what the reader is after. A value that is only passed over may hold a number out of
range, half of a surrogate pair, or more nesting than a value that is read; so a leaf that is
refused when read says separately what happens when it is passed over (`Draft.pass`).
-/

namespace AutoAnnotate.Json

/-- What is wrong with a text. -/
inductive Fault where
  /-- The text is not JSON. -/
  | malformed
  /-- The text is JSON, but does not have the expected shape. -/
  | mismatch
  /-- The text ends too early. -/
  | truncated
  deriving DecidableEq, Repr

/-- What a reader finds in a JSON text. -/
inductive Draft where
  | null
  | bool (b : Bool)
  | number (n : Number)
  | text (s : String)
  /-- Items, and the fault that stands in place of the closing bracket. -/
  | array (items : List Draft) (close : Option Fault)
  /-- Members, with drafts of texts as keys, and the fault that stands in place of the next member
  or the closing brace. -/
  | object (members : List (Draft × Draft)) (close : Option Fault)
  /-- A place that cannot be read, and the fault in passing it over, if there is one. -/
  | broken (fault : Fault) (passing : Option Fault)
  deriving Repr

namespace Draft

/-- A place that can neither be read nor passed over. -/
def stop (fault : Fault) : Draft := .broken fault (some fault)

/-- Nothing, or the fault that is there. -/
def clear : Option Fault → Except Fault Unit
  | none => .ok ()
  | some f => .error f

mutual

/-- Passes over a draft without reading it. -/
def pass : Draft → Except Fault Unit
  | .null | .bool _ | .number _ | .text _ => .ok ()
  | .broken _ passing => clear passing
  | .array items close => do passAll items; clear close
  | .object members close => do passMembers members; clear close

def passAll : List Draft → Except Fault Unit
  | [] => .ok ()
  | d :: rest => do pass d; passAll rest

def passMembers : List (Draft × Draft) → Except Fault Unit
  | [] => .ok ()
  | (key, d) :: rest => do pass key; pass d; passMembers rest

end

/-- The fault in passing over a draft, if there is one. -/
def passFault? (d : Draft) : Option Fault :=
  match d.pass with
  | .ok _ => none
  | .error f => some f

mutual

/-- Refuses to read what is nested in more than a number of arrays and objects. -/
def limitNesting : Nat → Draft → Draft
  | 0, .array items close => .broken .malformed (passFault? (.array items close))
  | 0, .object members close => .broken .malformed (passFault? (.object members close))
  | n + 1, .array items close => .array (limitNestingAll n items) close
  | n + 1, .object members close => .object (limitNestingMembers n members) close
  | _, .null => .null
  | _, .bool b => .bool b
  | _, .number n => .number n
  | _, .text s => .text s
  | _, .broken f passing => .broken f passing

def limitNestingAll (n : Nat) : List Draft → List Draft
  | [] => []
  | d :: rest => limitNesting n d :: limitNestingAll n rest

def limitNestingMembers (n : Nat) : List (Draft × Draft) → List (Draft × Draft)
  | [] => []
  | (key, d) :: rest => (key, limitNesting n d) :: limitNestingMembers n rest

end

end Draft

end AutoAnnotate.Json
