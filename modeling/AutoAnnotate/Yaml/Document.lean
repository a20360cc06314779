import AutoAnnotate.Collection.OrderedMap
import AutoAnnotate.Yaml.Node
/-!
# YAML texts

The tokens of a YAML text form at most one document: directives, a marker, a node, and markers of
its end. The node is found by recursive descent. Where a key or a value is missing, an empty plain
scalar stands in for it.
-/

namespace AutoAnnotate.Yaml

/-- What a handle of a tag stands for. -/
abbrev Handles := List (List Char × Tag)

/-- The tokens still to be read, and the anchors that came before them. -/
structure Remaining where
  tokens : List Token
  /-- The names of anchors with their latest numbers. -/
  anchors : OrderedMap Nat := {}

/-- Reads a part of the tokens, or fails. -/
abbrev Parse := StateT Remaining Option

namespace Parse

/-- The next token, which stays. -/
def peek : Parse (Option Token) := do return (← get).tokens.head?

/-- Drops the next token. -/
def skip : Parse Unit := modify fun r => { r with tokens := r.tokens.tail }

/-- Drops a comma, which must be there. -/
def skipComma : Parse Unit := do
  match ← peek with
  | some .comma => skip
  | _ => failure

/-- A number for an anchor: how many different names came before. -/
def nameAnchor (name : String) : Parse Nat := do
  let anchors := (← get).anchors
  let number := anchors.entries.length
  modify fun r => { r with anchors := anchors.insert name number }
  return number

/-- The tag that is written with some handle. -/
def resolveTag (handles : Handles) (t : WrittenTag) : Parse Tag :=
  if t.handle.isEmpty then return t.suffix
  else match handles.lookup t.handle with
    | some meaning => return meaning ++ t.suffix
    | none => failure

/-- What stands before the contents of a node: an anchor and a tag in either order. -/
def properties (handles : Handles) : Parse Properties := do
  match ← peek with
  | some (.anchor name) => do
    skip
    let tag ← match ← peek with
      | some (.tag t) => do skip; pure (some (← resolveTag handles t))
      | _ => pure none
    return { anchor := some (← nameAnchor name), tag }
  | some (.tag t) => do
    skip
    let tag ← resolveTag handles t
    match ← peek with
    | some (.anchor name) => do skip; return { anchor := some (← nameAnchor name), tag := some tag }
    | _ => return { tag := some tag }
  | _ => return {}

/-- The scalar in place of a node that is missing. -/
def nothing : Node := .scalar {} .plain ""

/-- Whether a node that may be missing is missing before a token. -/
def endsBlockEntry : Option Token → Bool
  | some .key | some .value | some .endBlock => true
  | _ => false

def endsIndentlessItem : Option Token → Bool
  | some .dash => true
  | t => endsBlockEntry t

def endsFlowItem : Option Token → Bool
  | some .value | some .comma | some .closeBracket => true
  | _ => false

def endsFlowEntry : Option Token → Bool
  | some .value | some .comma | some .closeBrace => true
  | _ => false

mutual

/-- A node. `block` allows block collections, and `indentless` a sequence whose dashes stand in the
column of the key before it. The last argument bounds the depth of the recursion: at most three
steps in a row take no token, so four for each token are enough. -/
def node (handles : Handles) (block indentless : Bool) : Nat → Parse Node
  | 0 => failure
  | fuel + 1 => do
    match ← peek with
    | some (.alias name) =>
      skip
      match (← get).anchors.get? name with
      | some number => return .alias number
      | none => failure
    | _ =>
      let p ← properties handles
      match ← peek with
      | some (.scalar style text) => skip; return .scalar p style text
      | some .openBracket => skip; return .sequence p (← flowItems handles true fuel)
      | some .openBrace => skip; return .mapping p (← flowEntries handles true fuel)
      | some .beginSequence => do
        if !block then missing p
        else skip; return .sequence p (← blockItems handles fuel)
      | some .beginMapping => do
        if !block then missing p
        else skip; return .mapping p (← blockEntries handles fuel)
      | some .dash => do
        if !indentless then missing p
        else return .sequence p (← indentlessItems handles fuel)
      | _ => missing p
where
  /-- A node of which only properties are there. -/
  missing (p : Properties) : Parse Node :=
    if p.anchor.isNone && p.tag.isNone then failure else return .scalar p .plain ""

/-- The items of a block sequence, and its end. -/
def blockItems (handles : Handles) : Nat → Parse (List Node)
  | 0 => failure
  | fuel + 1 => do
    match ← peek with
    | some .dash =>
      skip
      let item ← match ← peek with
        | some .dash | some .endBlock => pure nothing
        | _ => node handles true false fuel
      return item :: (← blockItems handles fuel)
    | some .endBlock => skip; return []
    | _ => failure

/-- The items of a sequence whose dashes stand in the column of the key before it. -/
def indentlessItems (handles : Handles) : Nat → Parse (List Node)
  | 0 => failure
  | fuel + 1 => do
    match ← peek with
    | some .dash =>
      skip
      let item ← if endsIndentlessItem (← peek) then pure nothing
        else node handles true false fuel
      return item :: (← indentlessItems handles fuel)
    | _ => return []

/-- The entries of a block mapping, and its end. -/
def blockEntries (handles : Handles) : Nat → Parse (List (Node × Node))
  | 0 => failure
  | fuel + 1 => do
    match ← peek with
    | some .key =>
      skip
      let key ← if endsBlockEntry (← peek) then pure nothing else node handles true true fuel
      let value ← match ← peek with
        | some .value => do
          skip
          if endsBlockEntry (← peek) then pure nothing else node handles true true fuel
        | _ => pure nothing
      return (key, value) :: (← blockEntries handles fuel)
    | some .endBlock => skip; return []
    | _ => failure

/-- The items of a flow sequence, and its closing bracket; the flag says that no item came yet. -/
def flowItems (handles : Handles) (first : Bool) : Nat → Parse (List Node)
  | 0 => failure
  | fuel + 1 => do
    match ← peek with
    | some .closeBracket => skip; return []
    | _ =>
      if !first then skipComma
      match ← peek with
      | some .key =>
        skip
        let pair ← flowPair handles fuel
        return .mapping {} [pair] :: (← flowItems handles false fuel)
      | some .closeBracket => skip; return []
      | _ =>
        let item ← node handles false false fuel
        return item :: (← flowItems handles false fuel)

/-- A single entry among the items of a flow sequence, behind its question mark. The token that
stands in place of a missing key goes with it. -/
def flowPair (handles : Handles) : Nat → Parse (Node × Node)
  | 0 => failure
  | fuel + 1 => do
    let key ←
      if endsFlowItem (← peek) then do skip; pure nothing else node handles false false fuel
    match ← peek with
    | some .value => do
      skip
      match ← peek with
      | some .comma | some .closeBracket => return (key, nothing)
      | _ => return (key, ← node handles false false fuel)
    | _ => return (key, nothing)

/-- The entries of a flow mapping, and its closing brace; the flag says that no entry came yet. -/
def flowEntries (handles : Handles) (first : Bool) : Nat → Parse (List (Node × Node))
  | 0 => failure
  | fuel + 1 => do
    match ← peek with
    | some .closeBrace => skip; return []
    | _ =>
      if !first then skipComma
      match ← peek with
      | some .key =>
        skip
        let key ←
          if endsFlowEntry (← peek) then pure nothing else node handles false false fuel
        let value ← match ← peek with
          | some .value => do
            skip
            match ← peek with
            | some .comma | some .closeBrace => pure nothing
            | _ => node handles false false fuel
          | _ => pure nothing
        return (key, value) :: (← flowEntries handles false fuel)
      | some .closeBrace => skip; return []
      | _ =>
        let key ← node handles false false fuel
        return (key, nothing) :: (← flowEntries handles false fuel)

end

/-! ## Documents -/

/-- What handles stand for if no directive says otherwise. -/
def usualHandles : Handles := [(['!'], Tag.bang), (['!', '!'], Tag.coreHandle)]

/-- The directives at the start: the handles they define; a version must be 1.1 or 1.2, and nothing
may be said twice. -/
def directives (versionCame : Bool) (handles : Handles) : List Token → Option (Handles × List Token)
  | .directive (.version major minor) :: rest =>
    if versionCame || major ≠ 1 || (minor ≠ 1 && minor ≠ 2) then none
    else directives true handles rest
  | .directive (.tag handle meaning) :: rest =>
    if (handles.lookup handle).isSome then none
    else directives versionCame (handles ++ [(handle, meaning)]) rest
  | rest => some (handles, rest)

/-- Whether nothing of a node is there behind the marker of a document. -/
def endsDocument : Option Token → Bool
  | none | some .documentStart | some .documentEnd | some (.directive _) => true
  | _ => false

/-- The node of a document, from its first token or its marker on. -/
def rootNode (handles : Handles) (fuel : Nat) : Parse Node := do
  let handles := handles ++ usualHandles
  match ← peek with
  | some .documentStart =>
    skip
    if endsDocument (← peek) then return nothing else node handles true false fuel
  | _ => node handles true false fuel

/-- The node that all tokens of a text make up, if there are any. -/
def root (tokens : List Token) : Option (Option Node) := do
  if tokens.isEmpty then return none
  let (handles, tokens) ← match tokens with
    | .directive _ :: _ => do
      let (handles, rest) ← directives false [] tokens
      match rest with
      | .documentStart :: _ => some (handles, rest)
      | _ => none
    | _ => some ([], tokens)
  let (n, r) ← (rootNode handles (4 * tokens.length + 4)).run { tokens }
  let isEnd : Token → Bool
    | .documentEnd => true
    | _ => false
  if r.tokens.all isEnd then return some n else none

end Parse

/-- The document that a text holds, if it is well formed. -/
def Document.ofString (s : String) : Option Document := do
  let text ← prepare s
  let tokens ← scanTokens text
  return .ofRoot (← Parse.root tokens)

end AutoAnnotate.Yaml
