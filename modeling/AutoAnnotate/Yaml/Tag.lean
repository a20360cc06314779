import AutoAnnotate.Yaml.FlowScalar
/-!
# Tags and directives

A tag names the type of a node. It is written with a handle, which directives may give a meaning, or
verbatim in angle brackets; octets that a tag cannot show are written as escapes. A tag is therefore
a string of octets. A zero octet ends what is written of it: the octets behind it do not count.
-/

namespace AutoAnnotate.Yaml

/-- A tag as the octets of its name. -/
abbrev Tag := List UInt8

namespace Tag

def ofString (s : String) : Tag := s.toUTF8.toList

/-- What the handle with two exclamation marks stands for. -/
def coreHandle : Tag := ofString "tag:yaml.org,2002:"

def bool : Tag := coreHandle ++ ofString "bool"
def int : Tag := coreHandle ++ ofString "int"
def float : Tag := coreHandle ++ ofString "float"
def null : Tag := coreHandle ++ ofString "null"

/-- The tag of one exclamation mark. -/
def bang : Tag := ofString "!"

/-- Whether a tag begins with an exclamation mark. -/
def isLocal (t : Tag) : Bool := t.head? = bang.head?

/-- Whether a tag belongs to an application: it is local, and a text. -/
def isApplication (t : Tag) : Bool := t.isLocal && (String.fromUTF8? ⟨t.toArray⟩).isSome

/-- The octets that count: those before the first zero. -/
def untilZero (t : Tag) : Tag := t.takeWhile (· ≠ 0)

end Tag

/-- A character as an octet; only for characters below U+0080. -/
def octetOf (c : Char) : UInt8 := c.toNat.toUInt8

/-- A character that a tag may hold, besides those of names and the percent sign of an escape. -/
def isTagPunctuation (c : Char) : Bool := ";/?:@&=+$.!~*'()".toList.contains c

/-- A character that only a verbatim tag may hold. -/
def isVerbatimPunctuation (c : Char) : Bool := c = ',' || c = '[' || c = ']'

/-- How many octets a character takes whose first octet is given. -/
def octetCount? (first : Nat) : Option Nat :=
  if first < 0x80 then some 1
  else if 0xC0 ≤ first ∧ first < 0xE0 then some 2
  else if 0xE0 ≤ first ∧ first < 0xF0 then some 3
  else if 0xF0 ≤ first ∧ first < 0xF8 then some 4
  else none

/-- The characters of a tag, its octets last first. `owed` says how many octets of an escaped
character are still to come. -/
def scanTagText (verbatim : Bool) (octets : Tag) (owed : Nat) :
    List Char → Option (Tag × List Char)
  | '%' :: a :: b :: rest => do
    let octet := (← hexValue? a) * 16 + (← hexValue? b)
    if owed = 0 then
      match octetCount? octet with
      | some n => scanTagText verbatim (octet.toUInt8 :: octets) (n - 1) rest
      | none => none
    else if octet / 64 = 2 then scanTagText verbatim (octet.toUInt8 :: octets) (owed - 1) rest
    else none
  | [] => if owed = 0 then some (octets.reverse, []) else none
  | c :: rest =>
    if owed > 0 || c = '%' then none
    else if isWordChar c || isTagPunctuation c || (verbatim && isVerbatimPunctuation c) then
      scanTagText verbatim (octetOf c :: octets) 0 rest
    else some (octets.reverse, c :: rest)

/-- A tag as it is written: a handle, empty if there is none, and what follows it. -/
structure WrittenTag where
  handle : List Char
  suffix : Tag
  deriving Repr

/-- The handle at the start of a text: an exclamation mark, and word characters up to another one if
there is one. -/
def scanHandle : List Char → Option (List Char × List Char)
  | '!' :: cs =>
    let word := cs.takeWhile isWordChar
    match cs.dropWhile isWordChar with
    | '!' :: rest => some ('!' :: word ++ ['!'], rest)
    | rest => some ('!' :: word, rest)
  | _ => none

/-- A tag, with the exclamation mark before it, and the text behind it. -/
def scanTag (inFlow : Bool) (cs : List Char) : Option (WrittenTag × List Char) := do
  let (tag, rest) ← match cs with
    | '!' :: '<' :: cs => do
      match ← scanTagText true [] 0 cs with
      | ([], _) => none
      | (suffix, '>' :: rest) => some (WrittenTag.mk [] suffix.untilZero, rest)
      | _ => none
    | _ => do
      let (handle, rest) ← scanHandle cs
      if handle.length > 1 && handle.getLast? = some '!' then
        match ← scanTagText false [] 0 rest with
        | ([], _) => none
        | (suffix, rest) => some (⟨handle, suffix.untilZero⟩, rest)
      else
        let (more, rest) ← scanTagText false [] 0 rest
        let suffix := Tag.untilZero ((handle.drop 1).map octetOf ++ more)
        if suffix.isEmpty then some (⟨[], Tag.bang⟩, rest) else some (⟨['!'], suffix⟩, rest)
  if endsWord rest || (inFlow && rest.head? = some ',') then some (tag, rest) else none

/-- A line that tells how to read the document below it. -/
inductive Directive where
  | version (major minor : Nat)
  | tag (handle : List Char) (meaning : Tag)
  deriving Repr

/-- A number of at most nine digits, and the text behind it. -/
def scanVersionNumber (cs : List Char) : Option (Nat × List Char) :=
  let digits := cs.takeWhile Char.isDigit
  if digits.isEmpty || digits.length > 9 then none
  else some (digits.foldl (fun n c => 10 * n + (c.toNat - '0'.toNat)) 0, cs.dropWhile Char.isDigit)

/-- A version: two numbers with a dot between them. -/
def scanVersion (cs : List Char) : Option (Directive × List Char) := do
  match ← scanVersionNumber (cs.dropWhile isBlank) with
  | (major, '.' :: rest) => do
    let (minor, rest) ← scanVersionNumber rest
    return (.version major minor, rest)
  | _ => none

/-- A handle and its meaning. -/
def scanTagDirective (cs : List Char) : Option (Directive × List Char) := do
  let (handle, rest) ← scanHandle (cs.dropWhile isBlank)
  if handle.length > 1 && handle.getLast? ≠ some '!' then none
  else if !(rest.head?.map isBlank).getD false then none
  else
    match ← scanTagText true [] 0 (rest.dropWhile isBlank) with
    | ([], _) => none
    | (meaning, rest) => if endsWord rest then some (.tag handle meaning.untilZero, rest) else none

/-- A directive behind its percent sign, and the text behind it, from the line break on. -/
def scanDirective (cs : List Char) : Option (Directive × List Char) := do
  let name := String.ofList (cs.takeWhile isWordChar)
  let rest := cs.dropWhile isWordChar
  if !endsWord rest then none
  let (directive, rest) ←
    if name = "YAML" then scanVersion rest
    else if name = "TAG" then scanTagDirective rest
    else none
  let rest := rest.dropWhile isBlank
  let rest := match rest with
    | '#' :: _ => rest.dropWhile (!isBreak ·)
    | _ => rest
  match rest with
  | [] => some (directive, [])
  | c :: _ => if isBreak c then some (directive, rest) else none

end AutoAnnotate.Yaml
