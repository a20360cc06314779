import AutoAnnotate.Fingerprint
import AutoAnnotate.Json.Reading
import AutoAnnotate.Yaml.Reading
import AutoAnnotate.Yaml.Writing
/-!
# Configurations as text

A configuration is loaded from JSON or YAML text and written as either. What a text leaves out has
its default.
-/

namespace AutoAnnotate

/-- Why a configuration cannot be loaded, written or used. -/
inductive ConfigError where
  | invalidJson (fault : Json.Fault)
  | invalidYaml
  | serialization (reason : String)
  | changed (change : ConfigurationChanged)
  deriving DecidableEq, Repr

/-- Reads a JSON text as what a description of its shape says. -/
def ofJson {α : Type} (shape : TreeReader (Except Json.Fault) Json.Draft → Json.Draft →
    Except Json.Fault α) (s : String) : Except Json.Fault α :=
  (Json.Document.ofString s).read (shape Json.reader)

/-- Reads a YAML text as what a description of its shape says. -/
def ofYaml? {α : Type} (shape : TreeReader Yaml.Read Yaml.Place → Yaml.Place → Yaml.Read α)
    (s : String) : Option α := do
  (← Yaml.Document.ofString s).read (shape Yaml.reader)

namespace ConfigError

/-- The wording of the errors that have one of their own. -/
def message? : ConfigError → Option String
  | .serialization reason => some ("serialization failed: " ++ reason)
  | .changed c => some c.message
  | .invalidJson _ | .invalidYaml => none

end ConfigError

namespace Config

def ofJson (s : String) : Except ConfigError Config :=
  (AutoAnnotate.ofJson TreeReader.config s).mapError .invalidJson

def ofYaml (s : String) : Except ConfigError Config :=
  match AutoAnnotate.ofYaml? TreeReader.config s with
  | some c => .ok c
  | none => .error .invalidYaml

/-- The configuration as JSON on many lines. -/
def toJson (c : Config) : String := Json.pretty c.toTree

def toYaml (c : Config) : String := Yaml.render c.toTree

end Config

/-- The version of the format and of the rules. -/
def version : String := "0.1.0"

end AutoAnnotate
