import Prewire.Java.Primitive

/-! References to Java types: primitives, possibly generic classes, arrays and type variables. -/
namespace Prewire.Java

inductive JavaType where
  | primitive (keyword : Primitive)
  /-- A class or interface; a raw type has no arguments. -/
  | classType (name : ClassName) (arguments : List JavaType)
  | array (component : JavaType)
  /-- A type variable that no concrete type has replaced. -/
  | variable (name : String)
  deriving Repr, Inhabited

namespace JavaType

mutual
def decEq : (a b : JavaType) → Decidable (a = b)
  | .primitive p, .primitive q => decidable_of_iff (p = q) (by simp)
  | .classType n as, .classType m bs =>
    match decEqAll as bs with
    | .isTrue h => decidable_of_iff (n = m) (by simp [h])
    | .isFalse h => .isFalse (by simp [h])
  | .array a, .array b =>
    match decEq a b with
    | .isTrue h => .isTrue (by rw [h])
    | .isFalse h => .isFalse (by simp [h])
  | .variable v, .variable w => decidable_of_iff (v = w) (by simp)
  | .primitive _, .classType .. | .primitive _, .array _ | .primitive _, .variable _
  | .classType .., .primitive _ | .classType .., .array _ | .classType .., .variable _
  | .array _, .primitive _ | .array _, .classType .. | .array _, .variable _
  | .variable _, .primitive _ | .variable _, .classType .. | .variable _, .array _ =>
    .isFalse nofun
def decEqAll : (as bs : List JavaType) → Decidable (as = bs)
  | [], [] => .isTrue rfl
  | a :: as, b :: bs =>
    match decEq a b, decEqAll as bs with
    | .isTrue h, .isTrue k => .isTrue (by rw [h, k])
    | .isFalse h, _ => .isFalse (by simp [h])
    | _, .isFalse k => .isFalse (by simp [k])
  | [], _ :: _ | _ :: _, [] => .isFalse nofun
end

instance : DecidableEq JavaType := decEq

def ofClass (name : ClassName) : JavaType := .classType name []

/-- The primitive of that keyword, otherwise the raw class of that name. -/
def named (text : String) : JavaType :=
  match Primitive.ofKeyword? text with
  | some p => .primitive p
  | none => .ofClass (ClassName.parse text)

def rawClass? : JavaType → Option ClassName
  | .classType name _ => some name
  | _ => none

def arguments : JavaType → List JavaType
  | .classType _ args => args
  | _ => []

def component? : JavaType → Option JavaType
  | .array component => some component
  | _ => none

def primitive? : JavaType → Option Primitive
  | .primitive p => some p
  | _ => none

def isArray (t : JavaType) : Bool := t.component?.isSome

def isPrimitive (t : JavaType) : Bool := t.primitive?.isSome

def isVariable : JavaType → Bool
  | .variable _ => true
  | _ => false

def isGeneric (t : JavaType) : Bool := !t.arguments.isEmpty

mutual
def mentionsVariable : JavaType → Bool
  | .primitive _ => false
  | .classType _ args => anyMentionsVariable args
  | .array component => component.mentionsVariable
  | .variable _ => true
def anyMentionsVariable : List JavaType → Bool
  | [] => false
  | t :: ts => t.mentionsVariable || anyMentionsVariable ts
end

mutual
def variableNames : JavaType → List String
  | .primitive _ => []
  | .classType _ arguments => variableNamesOfAll arguments
  | .array component => component.variableNames
  | .variable name => [name]
def variableNamesOfAll : List JavaType → List String
  | [] => []
  | t :: ts => t.variableNames ++ variableNamesOfAll ts
end

/-- The type with its type arguments dropped, also below arrays. -/
def erasure : JavaType → JavaType
  | .classType name _ => .ofClass name
  | .array component => .array component.erasure
  | t => t

def boxed : JavaType → JavaType
  | .primitive p => .ofClass p.boxed
  | t => t

/-- The primitive that a type stands for, boxed or not. -/
def primitiveForm? : JavaType → Option Primitive
  | .primitive p => some p
  | .classType name _ => Primitive.unboxed? name
  | _ => none

mutual
def substitute (value? : String → Option JavaType) : JavaType → JavaType
  | .primitive p => .primitive p
  | .classType name args => .classType name (substituteAll value? args)
  | .array component => .array (component.substitute value?)
  | .variable name => (value? name).getD (.variable name)
def substituteAll (value? : String → Option JavaType) : List JavaType → List JavaType
  | [] => []
  | t :: ts => t.substitute value? :: substituteAll value? ts
end

theorem substituteAll_eq_map (value? : String → Option JavaType) (ts : List JavaType) :
    substituteAll value? ts = ts.map (·.substitute value?) := by
  induction ts with
  | nil => rfl
  | cons t ts ih => simp [substituteAll, ih]

mutual
def classes : JavaType → List ClassName
  | .primitive _ => []
  | .classType name args => name :: classesOfAll args
  | .array component => component.classes
  | .variable _ => []
def classesOfAll : List JavaType → List ClassName
  | [] => []
  | t :: ts => t.classes ++ classesOfAll ts
end

mutual
/-- Number of classes, variables, primitives and arrays that the type is put together from. -/
def size : JavaType → Nat
  | .primitive _ => 1
  | .classType _ args => 1 + sizeOfAll args
  | .array component => 1 + component.size
  | .variable _ => 1
def sizeOfAll : List JavaType → Nat
  | [] => 0
  | t :: ts => t.size + sizeOfAll ts
end

mutual
/-- The type as source code writes it, with each class named by `className`. -/
def render (className : ClassName → String) : JavaType → String
  | .primitive p => p.keyword
  | .classType name [] => className name
  | .classType name (t :: ts) =>
    className name ++ "<" ++ t.render className ++ renderRest className ts ++ ">"
  | .array component => component.render className ++ "[]"
  | .variable name => name
def renderRest (className : ClassName → String) : List JavaType → String
  | [] => ""
  | t :: ts => ", " ++ t.render className ++ renderRest className ts
end

instance : ToString JavaType := ⟨render ClassName.canonicalName⟩

end JavaType

/-- Values of type variables. Where a variable has several, the last one holds. -/
abbrev Bindings := List (String × JavaType)

def Bindings.value? (bindings : Bindings) (name : String) : Option JavaType :=
  bindings.reverse.lookup name

end Prewire.Java
