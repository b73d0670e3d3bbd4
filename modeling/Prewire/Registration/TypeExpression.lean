import Prewire.Java.Expression
import Prewire.Types.Known

/-! Types as expressions: class literals, and expressions that keep the type arguments. -/
namespace Prewire.Registration

open Java

/-- The class object of a type, without type arguments. -/
def rawTypeExpression (type : JavaType) : Expression := .classLiteral type.erasure

mutual
/-- A class literal, or for a class with type arguments a call that lists these. Such a call takes
either class objects only or resolvable types only. -/
def genericTypeExpression : JavaType → Expression
  | .classType name [] => .classOf name
  | .classType name (t :: ts) =>
    .staticCall Known.resolvableType "forClassWithGenerics"
      (.classOf name :: typeArguments ((t :: ts).any JavaType.isGeneric) (t :: ts))
  | t => rawTypeExpression t
def typeArguments (resolvable : Bool) : List JavaType → List Expression
  | [] => []
  | t :: ts =>
    (if !resolvable then rawTypeExpression t
      else if t.isGeneric then genericTypeExpression t
      else .staticCall Known.resolvableType "forClass" [rawTypeExpression t])
    :: typeArguments resolvable ts
end

/-- The type of a bean, without type arguments when a variable occurs in them. -/
def typeExpression (type : JavaType) : Expression :=
  if type.mentionsVariable then rawTypeExpression type else genericTypeExpression type

end Prewire.Registration
