/-!
# The kinds of annotation with a meaning of their own

The names of the annotations that are looked for or added, and the lists of kinds that options
start from.
-/

namespace AutoAnnotate.Vocabulary

/-! ## Validation -/

def notNull : String := "javax.validation.constraints.NotNull"
def notBlank : String := "javax.validation.constraints.NotBlank"
def pattern : String := "javax.validation.constraints.Pattern"
def size : String := "javax.validation.constraints.Size"

/-! ## Persistence -/

def column : String := "javax.persistence.Column"
def transient : String := "javax.persistence.Transient"
def manyToOne : String := "javax.persistence.ManyToOne"
def entity : String := "javax.persistence.Entity"
def embeddable : String := "javax.persistence.Embeddable"
def mappedSuperclass : String := "javax.persistence.MappedSuperclass"

/-! ## Control of a run -/

/-- Keeps a run away from a class or a field. -/
def ignored : String := "fieldmark.Ignored"

/-- Marks a class for annotation. -/
def autoAnnotated : String := "fieldmark.AutoAnnotated"

/-- The attribute of `autoAnnotated` that makes unmarked fields non-null. -/
def fieldsAreNonNullByDefault : String := "fieldsAreNonnullByDefault"

/-! ## Lists that options start from -/

def nonNullMarkers : List String :=
  ["org.jetbrains.annotations.NotNull",
   "javax.annotation.Nonnull",
   "edu.umd.cs.findbugs.annotations.NonNull",
   "android.support.annotation.NonNull",
   "androidx.annotation.NonNull",
   "androidx.annotation.RecentlyNonNull",
   "org.checkerframework.checker.nullness.qual.NonNull",
   "org.checkerframework.checker.nullness.compatqual.NonNullDecl",
   "org.checkerframework.checker.nullness.compatqual.NonNullType",
   "com.android.annotations.NonNull",
   notNull,
   "javax.validation.constraints.NotNull.List"]

def nullableMarkers : List String :=
  ["org.jetbrains.annotations.Nullable",
   "javax.annotation.Nullable",
   "javax.annotation.CheckForNull",
   "edu.umd.cs.findbugs.annotations.Nullable",
   "android.support.annotation.Nullable",
   "androidx.annotation.Nullable",
   "androidx.annotation.RecentlyNullable",
   "org.checkerframework.checker.nullness.qual.Nullable",
   "org.checkerframework.checker.nullness.compatqual.NullableDecl",
   "org.checkerframework.checker.nullness.compatqual.NullableType",
   "com.android.annotations.Nullable"]

/-- The kinds of class annotation that make a class persistent. -/
def jpaClassMarkers : List String := [entity, embeddable, mappedSuperclass]

/-- The types whose fields hold no reference, so that nullability does not apply to them. -/
def primitiveTypes : List String :=
  ["boolean", "byte", "char", "short", "int", "long", "float", "double"]

/-- The type of texts. -/
def stringType : String := "java.lang.String"

/-- Matches a text that has a character other than white space. -/
def notBlankPattern : String := "(?s).*\\S.*"

end AutoAnnotate.Vocabulary
