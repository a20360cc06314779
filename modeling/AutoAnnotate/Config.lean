import AutoAnnotate.Run
/-!
# Configurations

A configuration says which classes a run visits and what it adds to their fields.
-/

namespace AutoAnnotate

/-- What a run works by. -/
structure Config where
  filter : ClassFilter := {}
  options : Options := {}
  deriving DecidableEq

namespace Config

instance : Inhabited Config := ⟨{}⟩

/-- A run over classes by a configuration. -/
def annotate (c : Config) (classes : List Class) : Outcome :=
  AutoAnnotate.annotate c.filter c.options classes

/-- Whether two policies have the same types, in any order, with equal annotations. -/
def equalPolicies (p q : OrderedMap (List Annotation)) : Bool :=
  p.entries.length = q.entries.length &&
  p.entries.all fun e =>
    match q.get? e.1 with
    | some annotations => Annotation.equalList e.2 annotations
    | none => false

def equalValidation (v w : ValidationOptions) : Bool :=
  v.inferNotNull = w.inferNotNull && v.inferNotBlank = w.inferNotBlank &&
  v.nullOrNotBlank.equal w.nullOrNotBlank

def equalOptions (o p : Options) : Bool :=
  equalPolicies o.policy p.policy && equalValidation o.validation p.validation && o.jpa = p.jpa &&
  o.ignoredFields = p.ignoredFields && o.nonNull = p.nonNull && o.nullable = p.nullable &&
  o.textTypes = p.textTypes

/-- Whether two configurations mean the same: the orders of the policy and of attributes do not
count, and values are compared by `Value.equal`. -/
def equal (c d : Config) : Bool := c.filter = d.filter && equalOptions c.options d.options

end Config

end AutoAnnotate
