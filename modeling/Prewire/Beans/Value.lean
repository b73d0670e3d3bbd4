import Prewire.Types.Known

/-! Bean definitions and the values configured in them. Values hold definitions of inner beans and
definitions hold values, as arguments and as properties. -/
namespace Prewire.Beans

open Java

inductive Role where
  | application | support | infrastructure
  deriving DecidableEq, Repr, Inhabited

def Role.code : Role → Nat
  | .application => 0 | .support => 1 | .infrastructure => 2

/-- A qualifier annotation with the value of its attribute. -/
structure Qualifier where
  type : ClassName
  value : Option String
  deriving DecidableEq, Repr, Inhabited

mutual
inductive BeanValue where
  | null
  | boolean (value : Bool)
  | byte (value : Int8)
  | short (value : Int16)
  | int (value : Int32)
  | long (value : Int64)
  /-- A single precision number by its bits. -/
  | float (bits : UInt32)
  /-- A double precision number by its bits. -/
  | double (bits : UInt64)
  | char (value : Char)
  | string (value : String)
  | enumConstant (type : ClassName) (constant : String)
  | classLiteral (type : JavaType)
  | array (component : JavaType) (elements : List BeanValue)
  | list (elements : List BeanValue)
  | set (elements : List BeanValue)
  | reference (beanName : String)
  | inner (definition : BeanDefinition)
  /-- An instance that no source code denotes. -/
  | opaqueInstance (type : JavaType)

structure ArgumentValue where
  value : BeanValue
  type : Option JavaType

/-- Arguments by position, in the order of their positions, and arguments without one. -/
structure ConstructorArguments where
  indexed : List (Nat × ArgumentValue)
  generic : List ArgumentValue

structure BeanDefinition where
  beanClass : Option ClassName
  /-- The type of the bean where it is more precise than what creates it. -/
  targetType : Option JavaType
  /-- The bean that the factory method is called on; without one the method is static. -/
  factoryBean : Option String
  factoryMethod : Option String
  arguments : ConstructorArguments
  properties : List (String × BeanValue)
  role : Role
  isPrimary : Bool
  scope : Option String
  isLazy : Bool
  qualifiers : List Qualifier
  /-- Whether the definition only serves as a template. -/
  isAbstract : Bool
end

instance : Inhabited BeanValue := ⟨.null⟩

namespace BeanValue

mutual
/-- Whether source code denotes the value without help of the container. -/
def isLiteral : BeanValue → Bool
  | .reference _ | .inner _ | .opaqueInstance _ => false
  | .array _ elements | .list elements | .set elements => allLiteral elements
  | _ => true
def allLiteral : List BeanValue → Bool
  | [] => true
  | v :: vs => v.isLiteral && allLiteral vs
end

/-- The collection of the elements' type when all have one known type, otherwise the raw one. -/
def collectionType (collection : ClassName) : List (Option JavaType) → JavaType
  | some first :: rest =>
    if rest.all (· = some first) then .classType collection [first] else .ofClass collection
  | _ => .ofClass collection

mutual
/-- The type of a value that tells it itself; primitives as their wrapper classes. Neither `null`
nor a reference nor an inner bean does. -/
def literalType? : BeanValue → Option JavaType
  | .null | .reference _ | .inner _ => none
  | .boolean _ => some (.ofClass Primitive.boolean.boxed)
  | .byte _ => some (.ofClass Primitive.byte.boxed)
  | .short _ => some (.ofClass Primitive.short.boxed)
  | .int _ => some (.ofClass Primitive.int.boxed)
  | .long _ => some (.ofClass Primitive.long.boxed)
  | .float _ => some (.ofClass Primitive.float.boxed)
  | .double _ => some (.ofClass Primitive.double.boxed)
  | .char _ => some (.ofClass Primitive.char.boxed)
  | .string _ => some (.ofClass Known.string)
  | .enumConstant type _ => some (.ofClass type)
  | .classLiteral type => some (.classType Known.classOf [type.erasure.boxed])
  | .array component _ => some (.array component)
  | .list elements => some (collectionType Known.list (literalTypes elements))
  | .set elements => some (collectionType Known.set (literalTypes elements))
  | .opaqueInstance type => some type
def literalTypes : List BeanValue → List (Option JavaType)
  | [] => []
  | v :: vs => v.literalType? :: literalTypes vs
end

end BeanValue

namespace ConstructorArguments

def empty : ConstructorArguments := ⟨[], []⟩

instance : Inhabited ConstructorArguments := ⟨empty⟩

def isEmpty (a : ConstructorArguments) : Bool := a.indexed.isEmpty && a.generic.isEmpty

def count (a : ConstructorArguments) : Nat := a.indexed.length + a.generic.length

/-- Puts an argument at a position, in place of one that is there. -/
def insertAt (index : Nat) (argument : ArgumentValue) :
    List (Nat × ArgumentValue) → List (Nat × ArgumentValue)
  | [] => [(index, argument)]
  | (other, present) :: rest =>
    if index < other then (index, argument) :: (other, present) :: rest
    else if index = other then (index, argument) :: rest
    else (other, present) :: insertAt index argument rest

def addIndexed (a : ConstructorArguments) (index : Nat) (argument : ArgumentValue) :
    ConstructorArguments :=
  { a with indexed := insertAt index argument a.indexed }

def addGeneric (a : ConstructorArguments) (argument : ArgumentValue) : ConstructorArguments :=
  { a with generic := a.generic ++ [argument] }

/-- The indexed arguments by position, then the others. -/
def ordered (a : ConstructorArguments) : List ArgumentValue :=
  a.indexed.map Prod.snd ++ a.generic

end ConstructorArguments

def BeanDefinition.blank : BeanDefinition where
  beanClass := none
  targetType := none
  factoryBean := none
  factoryMethod := none
  arguments := .empty
  properties := []
  role := .application
  isPrimary := false
  scope := none
  isLazy := false
  qualifiers := []
  isAbstract := false

instance : Inhabited BeanDefinition := ⟨.blank⟩

end Prewire.Beans
