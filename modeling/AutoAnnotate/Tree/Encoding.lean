import AutoAnnotate.Config
import AutoAnnotate.Tree.Basic
/-!
# Classes and configurations as trees

Every record becomes a table with its members in a fixed order. Only the attributes of an annotation
are left out when there are none; every other member is always written.
-/

namespace AutoAnnotate

mutual

def Value.toTree : Value → Tree
  | .bool b => .bool b
  | .int n => .int n
  | .float x => .float x
  | .text s => .text s
  | .list items => .list (Value.toTrees items)

def Value.toTrees : List Value → List Tree
  | [] => []
  | v :: vs => v.toTree :: Value.toTrees vs

end

/-- A map as a table. -/
def OrderedMap.toTree {α : Type} (f : α → Tree) (m : OrderedMap α) : Tree :=
  .table (m.entries.map fun e => (e.1, f e.2))

def NameSet.toTree (s : NameSet) : Tree := .list (s.toList.map .text)

def Annotation.toTree (a : Annotation) : Tree :=
  .table (("kind", .text a.kind) ::
    if a.attributes.isEmpty then [] else [("attributes", a.attributes.toTree Value.toTree)])

def Field.toTree (f : Field) : Tree :=
  .table [("name", .text f.name), ("type", .text f.type),
    ("annotations", .list (f.annotations.map Annotation.toTree))]

def Class.toTree (c : Class) : Tree :=
  .table [("name", .text c.name), ("annotations", .list (c.annotations.map Annotation.toTree)),
    ("fields", .list (c.fields.map Field.toTree)), ("frozen", .bool c.frozen)]

def ClassFilter.toTree (f : ClassFilter) : Tree :=
  .table [("package_prefix", .text f.packagePrefix), ("marker_annotations", f.markers.toTree),
    ("ignored_annotations", f.ignored.toTree)]

def ValidationOptions.toTree (o : ValidationOptions) : Tree :=
  .table [("infer_not_null_constraint", .bool o.inferNotNull),
    ("infer_strings_not_blank_constraints", .bool o.inferNotBlank),
    ("null_or_not_blank_annotation", o.nullOrNotBlank.toTree)]

def JpaOptions.toTree (o : JpaOptions) : Tree :=
  .table [("infer_column_nullable", .bool o.inferNullable),
    ("infer_column_length", .bool o.inferLength),
    ("jpa_class_annotations", o.classMarkers.toTree),
    ("annotations_that_preclude_column_annotation", o.precluding.toTree)]

def Options.toTree (o : Options) : Tree :=
  .table [
    ("annotations_by_field_type",
      o.policy.toTree fun annotations => .list (annotations.map Annotation.toTree)),
    ("validation_annotations", o.validation.toTree),
    ("jpa_annotations", o.jpa.toTree),
    ("ignored_field_annotations", o.ignoredFields.toTree),
    ("non_null_annotations", o.nonNull.toTree),
    ("nullable_annotations", o.nullable.toTree),
    ("text_types", o.textTypes.toTree)]

def Config.toTree (c : Config) : Tree :=
  .table [("class_filter", c.filter.toTree), ("class_options", c.options.toTree)]

end AutoAnnotate
