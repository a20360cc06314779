import AutoAnnotate.Blake3
import AutoAnnotate.Json.Writing
import AutoAnnotate.Tree.Encoding
/-!
# Fingerprints of configurations

A run leaves existing annotations alone, so classes that were annotated by one configuration do not
follow a change of it. A fingerprint tells whether the configuration is still the one that classes
were annotated by: it is a digest of the configuration's canonical text, in which neither the order
of the policy nor that of attributes shows.
-/

namespace AutoAnnotate

/-- The digest of a configuration, as text. -/
structure Fingerprint where
  hex : String
  deriving DecidableEq, Repr

namespace Fingerprint

/-- The characters of a text whose octets are the first of a number; `none` if the text is shorter
or a character straddles the end. -/
def takeOctets : Nat → List Char → Option (List Char)
  | 0, _ => some []
  | _ + 1, [] => none
  | n + 1, c :: rest =>
    if c.utf8Size ≤ n + 1 then (takeOctets (n + 1 - c.utf8Size) rest).map (c :: ·) else none

/-- The first eight octets of the text; all of it if it has fewer, or if they end inside a
character. -/
def short (f : Fingerprint) : String :=
  match takeOctets 8 f.hex.toList with
  | some cs => String.ofList cs
  | none => f.hex

end Fingerprint

/-- The configuration is not the one that classes were annotated by. -/
structure ConfigurationChanged where
  previous : String
  current : String
  deriving DecidableEq, Repr

def ConfigurationChanged.message (e : ConfigurationChanged) : String :=
  "the configuration has changed (was " ++ e.previous ++ ", now " ++ e.current ++
    "); clean and rebuild before annotating again"

namespace Config

/-- The text that a configuration is identified by. -/
def canonicalText (c : Config) : String := Json.canonical c.toTree

def fingerprint (c : Config) : Fingerprint := ⟨Blake3.hexDigest c.canonicalText⟩

/-- The fingerprint of a configuration, if it is the same as before or there was none before. -/
def ensureUnchanged (c : Config) (previous : Option Fingerprint) :
    Except ConfigurationChanged Fingerprint :=
  match previous with
  | none => .ok c.fingerprint
  | some p =>
    if p = c.fingerprint then .ok c.fingerprint else .error ⟨p.hex, c.fingerprint.hex⟩

end Config

end AutoAnnotate
