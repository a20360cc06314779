import AutoAnnotate.Json.Lexical
/-!
# JSON texts

A JSON text is one value with space around it. Its draft is found by recursive descent. A text is
read as long as arrays and objects are nested at most 127 deep.
-/

namespace AutoAnnotate.Json

mutual

/-- A value. The first argument bounds the depth of the recursion; a step that takes no character
is followed by at most two more of that kind, so four times the length of the text is enough. -/
def scanValue : Nat → List Char → Scan
  | 0, _ => (.stop .truncated, none)
  | fuel + 1, cs =>
    match skipSpace cs with
    | [] => (.stop .truncated, none)
    | '"' :: rest => scanString (.ok []) rest
    | 'n' :: rest => scanWord ['u', 'l', 'l'] .null rest
    | 't' :: rest => scanWord ['r', 'u', 'e'] (.bool true) rest
    | 'f' :: rest => scanWord ['a', 'l', 's', 'e'] (.bool false) rest
    | '[' :: rest =>
      let (items, close, rest) := scanItems fuel true rest
      (.array items close, rest)
    | '{' :: rest =>
      let (members, close, rest) := scanMembers fuel true rest
      (.object members close, rest)
    | c :: rest =>
      if c = '-' || c.isDigit then scanNumber (c :: rest) else (.stop .malformed, none)

/-- The items of an array and its closing bracket; the flag says that no item came yet. -/
def scanItems : Nat → Bool → List Char → List Draft × Option Fault × Option (List Char)
  | 0, _, _ => ([], some .truncated, none)
  | fuel + 1, first, cs =>
    match skipSpace cs with
    | [] => ([], some .truncated, none)
    | ']' :: rest => ([], none, some rest)
    | c :: rest =>
      if first then scanItem fuel (c :: rest)
      else if c = ',' then
        match skipSpace rest with
        | ']' :: _ => ([.stop .malformed], none, none)
        | rest => scanItem fuel rest
      else ([], some .malformed, none)

/-- An item of an array, and what follows it. -/
def scanItem : Nat → List Char → List Draft × Option Fault × Option (List Char)
  | 0, _ => ([], some .truncated, none)
  | fuel + 1, cs =>
    match scanValue fuel cs with
    | (d, none) => ([d], none, none)
    | (d, some rest) =>
      let (items, close, rest) := scanItems fuel false rest
      (d :: items, close, rest)

/-- The members of an object and its closing brace; the flag says that no member came yet. -/
def scanMembers :
    Nat → Bool → List Char → List (Draft × Draft) × Option Fault × Option (List Char)
  | 0, _, _ => ([], some .truncated, none)
  | fuel + 1, first, cs =>
    match skipSpace cs with
    | [] => ([], some .truncated, none)
    | '}' :: rest => ([], none, some rest)
    | c :: rest =>
      if first then scanMember fuel (c :: rest)
      else if c = ',' then scanMember fuel (skipSpace rest)
      else ([], some .malformed, none)

/-- A member of an object, and what follows it. -/
def scanMember : Nat → List Char → List (Draft × Draft) × Option Fault × Option (List Char)
  | 0, _ => ([], some .truncated, none)
  | _ + 1, [] => ([], some .truncated, none)
  | fuel + 1, '"' :: cs =>
    match scanString (.ok []) cs with
    | (key, none) => ([(key, .stop .truncated)], none, none)
    | (key, some rest) =>
      match skipSpace rest with
      | [] => ([(key, .stop .truncated)], none, none)
      | ':' :: rest =>
        match scanValue fuel rest with
        | (d, none) => ([(key, d)], none, none)
        | (d, some rest) =>
          let (members, close, rest) := scanMembers fuel false rest
          ((key, d) :: members, close, rest)
      | _ :: _ => ([(key, .stop .malformed)], none, none)
  | _ + 1, _ :: _ => ([], some .malformed, none)

end

/-- A JSON text: its value, and the fault in what stands behind it. -/
structure Document where
  root : Draft
  trailing : Option Fault

namespace Document

/-- How deep arrays and objects may be nested. -/
def nestingLimit : Nat := 127

/-- What a reader finds in a text. -/
def ofString (s : String) : Document :=
  let cs := s.toList
  let (d, rest) := scanValue (4 * cs.length + 4) cs
  let trailing := match rest with
    | some rest => if (skipSpace rest).isEmpty then none else some .malformed
    | none => none
  ⟨d.limitNesting nestingLimit, trailing⟩

/-- Reads the value of a text, then makes sure that nothing stands behind it. -/
def read {α : Type} (doc : Document) (read : Draft → Except Fault α) : Except Fault α := do
  let a ← read doc.root
  Draft.clear doc.trailing
  return a

end Document

end AutoAnnotate.Json
