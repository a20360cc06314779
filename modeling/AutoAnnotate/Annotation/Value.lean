import AutoAnnotate.Binary64.Text
import AutoAnnotate.Text.Quoted
/-!
# Attribute values

The value of an annotation attribute is a Boolean, a 64-bit integer, a floating-point number, a
text, or a list of values. `=` compares values down to the bits of their numbers. `equal` compares
what they mean: variant by variant, numbers by value, so that a value that holds a NaN does not even
equal itself.
-/

namespace AutoAnnotate

/-- A value of an annotation attribute. -/
inductive Value where
  | bool (b : Bool)
  | int (n : Int64)
  | float (x : Binary64)
  | text (s : String)
  | list (items : List Value)
  deriving Repr

namespace Value

mutual

/-- Whether two values have the same variant and the same contents, bit by bit. -/
def decEq : (v w : Value) → Decidable (v = w)
  | .bool a, .bool b => decidable_of_iff (a = b) (by simp)
  | .int a, .int b => decidable_of_iff (a = b) (by simp)
  | .float a, .float b => decidable_of_iff (a = b) (by simp)
  | .text a, .text b => decidable_of_iff (a = b) (by simp)
  | .list a, .list b => @decidable_of_iff _ (a = b) (by simp) (decEqList a b)
  | .bool _, .int _ | .bool _, .float _ | .bool _, .text _ | .bool _, .list _
  | .int _, .bool _ | .int _, .float _ | .int _, .text _ | .int _, .list _
  | .float _, .bool _ | .float _, .int _ | .float _, .text _ | .float _, .list _
  | .text _, .bool _ | .text _, .int _ | .text _, .float _ | .text _, .list _
  | .list _, .bool _ | .list _, .int _ | .list _, .float _ | .list _, .text _ =>
    .isFalse (by simp)

/-- The same for lists of values. -/
def decEqList : (vs ws : List Value) → Decidable (vs = ws)
  | [], [] => .isTrue rfl
  | [], _ :: _ | _ :: _, [] => .isFalse (by simp)
  | v :: vs, w :: ws =>
    @decidable_of_iff _ (v = w ∧ vs = ws) (by simp)
      (@instDecidableAnd _ _ (decEq v w) (decEqList vs ws))

end

instance : DecidableEq Value := decEq

mutual

/-- Whether two values mean the same: equal variants, and numbers equal as numbers. -/
def equal : Value → Value → Bool
  | .bool a, .bool b => a = b
  | .int a, .int b => a = b
  | .float a, .float b => a.equal b
  | .text a, .text b => a = b
  | .list a, .list b => equalList a b
  | _, _ => false

/-- Whether two lists of values mean the same, place by place. -/
def equalList : List Value → List Value → Bool
  | [], [] => true
  | v :: vs, w :: ws => equal v w && equalList vs ws
  | _, _ => false

end

mutual

/-- Whether a value is or contains a NaN. -/
def hasNaN : Value → Bool
  | .float x => x.isNaN
  | .list items => anyHasNaN items
  | _ => false

def anyHasNaN : List Value → Bool
  | [] => false
  | v :: vs => hasNaN v || anyHasNaN vs

end

mutual

/-- A value means the same as itself exactly if it holds no NaN. -/
theorem equal_self : (v : Value) → equal v v = !hasNaN v
  | .bool _ | .int _ | .text _ => by simp [equal, hasNaN]
  | .float x => by simp [equal, hasNaN, Binary64.equal_self]
  | .list items => by simp [equal, hasNaN, equalList_self items]

theorem equalList_self : (vs : List Value) → equalList vs vs = !anyHasNaN vs
  | [] => rfl
  | v :: vs => by simp [equalList, anyHasNaN, equal_self v, equalList_self vs]

end

/-! ## Views of one variant -/

def asText? : Value → Option String
  | .text s => some s
  | _ => none

def asInt? : Value → Option Int64
  | .int n => some n
  | _ => none

def asBool? : Value → Option Bool
  | .bool b => some b
  | _ => none

/-! ## Values in messages -/

mutual

/-- A value as messages show it: texts quoted, lists in braces. -/
def display : Value → String
  | .bool b => if b then "true" else "false"
  | .int n => toString n.toInt
  | .float x => FloatFormat.message.render x
  | .text s => Text.quote s
  | .list items => "\x7b" ++ ", ".intercalate (displayAll items) ++ "\x7d"

def displayAll : List Value → List String
  | [] => []
  | v :: vs => display v :: displayAll vs

end

end Value

end AutoAnnotate
