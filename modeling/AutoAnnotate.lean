import AutoAnnotate.Text.Quoted
import AutoAnnotate.Collection.NameSet
import AutoAnnotate.Collection.OrderedMap
import AutoAnnotate.Text.Alphanumeric
import AutoAnnotate.Binary64.Basic
import AutoAnnotate.Binary64.Rounding
import AutoAnnotate.Binary64.Shortest
import AutoAnnotate.Binary64.Text
import AutoAnnotate.Annotation.Basic
import AutoAnnotate.Annotation.Vocabulary
import AutoAnnotate.QualifiedName
import AutoAnnotate.Class
import AutoAnnotate.ClassFilter
import AutoAnnotate.Options
import AutoAnnotate.AnnotateError
import AutoAnnotate.Event
import AutoAnnotate.FieldVisit
import AutoAnnotate.Run
import AutoAnnotate.Config
import AutoAnnotate.Tree.Basic
import AutoAnnotate.Tree.Decoding
import AutoAnnotate.Tree.Encoding
import AutoAnnotate.Json.Draft
import AutoAnnotate.Json.Lexical
import AutoAnnotate.Json.Document
import AutoAnnotate.Json.Reading
import AutoAnnotate.Json.Writing
import AutoAnnotate.Blake3
import AutoAnnotate.Fingerprint
import AutoAnnotate.Samples
import AutoAnnotate.Yaml.Character
import AutoAnnotate.Yaml.FlowScalar
import AutoAnnotate.Yaml.BlockScalar
import AutoAnnotate.Yaml.Tag
import AutoAnnotate.Yaml.Token
import AutoAnnotate.Yaml.Document
import AutoAnnotate.Yaml.Meaning
import AutoAnnotate.Yaml.Reading
import AutoAnnotate.Yaml.Page
import AutoAnnotate.Yaml.Writing
import AutoAnnotate.Config.Text
import AutoAnnotate.Proofs.Merge
import AutoAnnotate.Proofs.Rules
import AutoAnnotate.Proofs.FieldVisit
import AutoAnnotate.Proofs.Traversal
import AutoAnnotate.Proofs.Reference
import AutoAnnotate.Proofs.Preservation
import AutoAnnotate.Proofs.FinalField
import AutoAnnotate.Proofs.Justification
import AutoAnnotate.Proofs.NaNFree
import AutoAnnotate.Proofs.Idempotence
import AutoAnnotate.Proofs.Determinism
import AutoAnnotate.Proofs.FailFast
import AutoAnnotate.Proofs.FailedVisit
import AutoAnnotate.Proofs.Frozen
import AutoAnnotate.Proofs.Order
import AutoAnnotate.Proofs.Agreement
import AutoAnnotate.Proofs.Reporting
import AutoAnnotate.Proofs.AddedAnnotations
import AutoAnnotate.Proofs.OrderIndependence
import AutoAnnotate.Proofs.RoundingInterval
import AutoAnnotate.Proofs.Shortest
import AutoAnnotate.Proofs.NumberText
import AutoAnnotate.Proofs.Numeral
import AutoAnnotate.Proofs.CompactText
import AutoAnnotate.Proofs.CanonicalText
import AutoAnnotate.Proofs.ChangeDetection
import AutoAnnotate.Proofs.FalseChange
import AutoAnnotate.Proofs.Refusal
import AutoAnnotate.Proofs.Mutation
import AutoAnnotate.Proofs.JsonText
import AutoAnnotate.Proofs.ConfigReading
import AutoAnnotate.Proofs.NameText
import AutoAnnotate.Proofs.Scope
import AutoAnnotate.Proofs.Resolution
import AutoAnnotate.Proofs.Coverage
import AutoAnnotate.Proofs.MoreInference
import AutoAnnotate.Proofs.LogLines
import AutoAnnotate.Proofs.Telling
import AutoAnnotate.Proofs.Logging
