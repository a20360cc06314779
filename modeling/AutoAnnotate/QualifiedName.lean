import AutoAnnotate.Text.Alphanumeric
/-!
# Dotted names

A qualified name is a list of segments, written with dots between them. A text is a name if it is
empty (the root) or each piece between its dots is a non-empty run of letters, digits, `_` and `$`.
The leftmost bad piece decides the error. A name belongs to the package made of all its segments
but the last.
-/

namespace AutoAnnotate

/-- Why a text is not a name. -/
inductive NameError where
  /-- Two dots meet, or a dot stands at an end. Holds the whole text. -/
  | emptySegment (name : String)
  /-- A piece between dots holds a character that names do not have. Holds that piece. -/
  | invalidSegment (segment : String)
  deriving DecidableEq, Repr

def NameError.message : NameError → String
  | .emptySegment name => "name '" ++ name ++ "' contains an empty segment"
  | .invalidSegment segment =>
    "invalid segment: " ++ segment ++ " (must be alphanumeric, '_' or '$')"

/-- A dotted name of a class or a package, as its segments. -/
structure QualifiedName where
  segments : List String
  deriving DecidableEq, Repr

namespace QualifiedName

/-- The name without segments. -/
def root : QualifiedName := ⟨[]⟩

def isRoot (n : QualifiedName) : Bool := n.segments.isEmpty

/-- The name as text: its segments with dots between them. -/
def text (n : QualifiedName) : String := ".".intercalate n.segments

/-- The name without its last segment. -/
def package (n : QualifiedName) : QualifiedName := ⟨n.segments.dropLast⟩

/-- The last segment. -/
def simpleName (n : QualifiedName) : Option String := n.segments.getLast?

/-- The name with one more segment at its end. -/
def child (n : QualifiedName) (segment : String) : QualifiedName := ⟨n.segments ++ [segment]⟩

/-- Whether another name begins with all segments of this one. -/
def isPrefixOf (n other : QualifiedName) : Bool := n.segments.isPrefixOf other.segments

/-- The order of names: segment by segment, each by code point. -/
def cmp (a b : QualifiedName) : Ordering :=
  if a.segments < b.segments then .lt else if a.segments = b.segments then .eq else .gt

/-! ## Reading -/

/-- The pieces between the dots of a text; a text without dots is one piece. -/
def pieces : List Char → List (List Char)
  | [] => [[]]
  | c :: rest =>
    if c = '.' then [] :: pieces rest
    else match pieces rest with
      | [] => [[c]]
      | piece :: more => (c :: piece) :: more

/-- Whether a character may stand in a segment. -/
def isSegmentChar (c : Char) : Bool := Text.isAlphanumeric c || c = '_' || c = '$'

/-- One piece of a text as a segment. -/
def segmentOfPiece (name : String) (piece : List Char) : Except NameError String :=
  if piece.isEmpty then .error (.emptySegment name)
  else if piece.all isSegmentChar then .ok (String.ofList piece)
  else .error (.invalidSegment (String.ofList piece))

/-- The name that a text spells. -/
def parse (s : String) : Except NameError QualifiedName :=
  if s.isEmpty then .ok root
  else ((pieces s.toList).mapM (segmentOfPiece s)).map QualifiedName.mk

end QualifiedName

end AutoAnnotate
