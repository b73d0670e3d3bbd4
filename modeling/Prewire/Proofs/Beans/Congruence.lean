import Prewire.Beans.Factory
import Prewire.Proofs.Types.Corresponding

/-! What the types of beans depend on. A registry is asked for views as a supertype and for the return types
of factory methods, and only those of the definitions matter that a type is asked of on the way. -/
namespace Prewire.Beans

open Java Types

/-- What the type of a value can depend on: what an inner definition produces, and the type of a bean. -/
inductive Question where
  | definition (d : BeanDefinition)
  | bean (name : String)

/-- What is asked for the type of a value, before any bean that is asked of asks on. -/
inductive BeanValue.Asks : BeanValue → Question → Prop
  | reference (name : String) : Asks (.reference name) (.bean name)
  | inner (d : BeanDefinition) : Asks (.inner d) (.definition d)
  | factory {d : BeanDefinition} {name : String} (called : d.factoryBean = some name) :
    Asks (.inner d) (.bean name)
  | argument {d : BeanDefinition} {a : ArgumentValue} {q : Question}
    (configured : a ∈ d.arguments.ordered) (untyped : a.type = none) (asks : Asks a.value q) :
    Asks (.inner d) q

namespace BeanFactory

section
variable {r s : Registry} (views : ∀ t name, r.view? t name = s.view? t name)
include views

theorem acceptsArguments_congr (parameters : List JavaType) (arguments : List ArgumentType) :
    acceptsArguments r parameters arguments = acceptsArguments s parameters arguments := by
  induction parameters generalizing arguments with
  | nil => simp only [acceptsArguments]
  | cons p parameters ih =>
    cases arguments with
    | nil => simp only [acceptsArguments]
    | cons a arguments => simp only [acceptsArguments, Registry.isAssignable_eq views, ih]

theorem agreedReturnType_congr (arguments : List ArgumentType) (agreed : Option JavaType)
    (methods : List Executable) :
    agreedReturnType r arguments agreed methods = agreedReturnType s arguments agreed methods := by
  induction methods generalizing agreed with
  | nil => rfl
  | cons m rest ih => simp only [agreedReturnType, acceptsArguments_congr views, ih]

theorem producedType_congr {beanType : String → Answer (Option JavaType)} {d : BeanDefinition}
    {arguments : List ArgumentType}
    (returned : methodReturnType r beanType d arguments = methodReturnType s beanType d arguments) :
    producedType r beanType d arguments = producedType s beanType d arguments := by
  simp only [producedType, returned, objectType?, views]

end

theorem producedType_of_beanType {r : Registry} {left right : String → Answer (Option JavaType)}
    {d : BeanDefinition} (same : ∀ name, d.factoryBean = some name → left name = right name)
    (arguments : List ArgumentType) :
    producedType r left d arguments = producedType r right d arguments := by
  have owner : factoryClassBy left d = factoryClassBy right d := by
    cases called : d.factoryBean with
    | none => simp only [factoryClassBy, called]
    | some name => simp only [factoryClassBy, called, same name called]
  simp only [producedType, methodReturnType, owner]

def SameProduced (r s : Registry) (d : BeanDefinition) : Prop :=
  ∀ beanType arguments, producedType r beanType d arguments = producedType s beanType d arguments

def SameAnswer (r s : Registry) (left right : String → Answer (Option JavaType)) : Question → Prop
  | .definition d => SameProduced r s d
  | .bean name => left name = right name

section
variable {r s : Registry} {left right : String → Answer (Option JavaType)}

def SameAsked (r s : Registry) (left right : String → Answer (Option JavaType))
    (arguments : List ArgumentValue) : Prop :=
  ∀ a ∈ arguments, a.type = none → ∀ q, a.value.Asks q → SameAnswer r s left right q

mutual
theorem valueTypeBy_congr : ∀ value : BeanValue, (∀ q, value.Asks q → SameAnswer r s left right q) →
    valueTypeBy r left value = valueTypeBy s right value
  | .inner d, same => by simp only [valueTypeBy, definitionTypeBy_congr d same]
  | .reference name, same => by
    simp only [valueTypeBy]
    exact same _ (.reference name)
  | .null, _ | .boolean _, _ | .byte _, _ | .short _, _ | .int _, _ | .long _, _ | .float _, _
  | .double _, _ | .char _, _ | .string _, _ | .enumConstant .., _ | .classLiteral _, _
  | .array .., _ | .list _, _ | .set _, _ | .opaqueInstance _, _ => by simp only [valueTypeBy]
theorem definitionTypeBy_congr : ∀ d : BeanDefinition,
    (∀ q, (BeanValue.inner d).Asks q → SameAnswer r s left right q) →
    definitionTypeBy r left d = definitionTypeBy s right d
  | .mk a b c m (.mk indexed generic) p ro pr sc l q ab, same => by
    have produced := same _ (.inner _)
    have inside : SameAsked r s left right (indexed.map Prod.snd ++ generic) :=
      fun a configured untyped q asks => same q (.argument configured untyped asks)
    simp only [definitionTypeBy, argumentTypesBy, produced _ _,
      indexedTypesBy_congr indexed fun a member => inside a (List.mem_append_left _ member),
      genericTypesBy_congr generic fun a member => inside a (List.mem_append_right _ member)]
    exact producedType_of_beanType (fun name called => same _ (.factory called)) _
theorem argumentTypeBy_congr : ∀ a : ArgumentValue,
    (a.type = none → ∀ q, a.value.Asks q → SameAnswer r s left right q) →
    argumentTypeBy r left a = argumentTypeBy s right a
  | .mk _ (some _), _ => by simp only [argumentTypeBy]
  | .mk value none, same => by simp only [argumentTypeBy, valueTypeBy_congr value (same rfl)]
theorem indexedTypesBy_congr : ∀ indexed : List (Nat × ArgumentValue),
    SameAsked r s left right (indexed.map Prod.snd) →
    indexedTypesBy r left indexed = indexedTypesBy s right indexed
  | [], _ => by simp only [indexedTypesBy]
  | (_, a) :: rest, same => by
    simp only [indexedTypesBy, argumentTypeBy_congr a (same a (by simp)),
      indexedTypesBy_congr rest fun b member => same b (List.mem_cons_of_mem _ member)]
theorem genericTypesBy_congr : ∀ generic : List ArgumentValue, SameAsked r s left right generic →
    genericTypesBy r left generic = genericTypesBy s right generic
  | [], _ => by simp only [genericTypesBy]
  | a :: rest, same => by
    simp only [genericTypesBy, argumentTypeBy_congr a (same a List.mem_cons_self),
      genericTypesBy_congr rest fun b member => same b (List.mem_cons_of_mem _ member)]
end

end

/-- The definitions that are asked for the type of a value, through beans that are asked of too. -/
inductive Asked (f : BeanFactory) : BeanValue → BeanDefinition → Prop
  | here {value : BeanValue} {d : BeanDefinition} (asks : value.Asks (.definition d)) : Asked f value d
  | singleton {value other : BeanValue} {name : String} {d : BeanDefinition}
    (asks : value.Asks (.bean name)) (present : f.singleton? name = some other)
    (further : Asked f other d) : Asked f value d
  | definition {value : BeanValue} {name : String} {d e : BeanDefinition}
    (asks : value.Asks (.bean name)) (absent : f.singleton? name = none)
    (defined : f.definition? name = some e) (further : Asked f (.inner e) d) : Asked f value d

/-- What a bean asks is asked by all that ask for the type of the bean. -/
theorem Asked.of_reference {f : BeanFactory} {value : BeanValue} {name : String} {d : BeanDefinition}
    (asked : f.Asked (.reference name) d) (asks : value.Asks (.bean name)) : f.Asked value d := by
  cases asked with
  | here none => cases none
  | singleton own present further =>
    cases own
    exact .singleton asks present further
  | definition own absent defined further =>
    cases own
    exact .definition asks absent defined further

structure SameBeans (f g : BeanFactory) : Prop where
  definitions : f.definitions = g.definitions
  singletons : f.singletons = g.singletons

namespace SameBeans

variable {f g : BeanFactory} (same : f.SameBeans g)
include same

theorem beanTypeWithin_eq (depth : Nat) (name : String)
    (produced : ∀ d, f.Asked (.reference name) d → SameProduced f.registry g.registry d) :
    f.beanTypeWithin depth name = g.beanTypeWithin depth name := by
  induction depth generalizing name with
  | zero => rfl
  | succ depth ih =>
    have singleton : g.singleton? name = f.singleton? name := by simp only [singleton?, same.singletons]
    have definition : g.definition? name = f.definition? name := by
      simp only [definition?, same.definitions]
    -- What the bean asks is asked on its behalf, with less depth.
    have answers {value : BeanValue}
        (asked : ∀ d, f.Asked value d → f.Asked (.reference name) d) (q : Question)
        (asks : value.Asks q) :
        SameAnswer f.registry g.registry (f.beanTypeWithin depth) (g.beanTypeWithin depth) q := by
      cases q with
      | definition d => exact produced d (asked d (.here asks))
      | bean other => exact ih other fun d further => produced d (asked d (further.of_reference asks))
    simp only [beanTypeWithin, singleton, definition]
    cases present : f.singleton? name with
    | some value =>
      exact valueTypeBy_congr value (answers fun d => .singleton (.reference name) present)
    | none =>
      cases defined : f.definition? name with
      | none => rfl
      | some d =>
        exact definitionTypeBy_congr d
          (answers fun e => .definition (.reference name) present defined)

theorem beanTypeAnswer_eq (name : String)
    (produced : ∀ d, f.Asked (.reference name) d → SameProduced f.registry g.registry d) :
    f.beanTypeAnswer name = g.beanTypeAnswer name := by
  simp only [beanTypeAnswer, dependencyLimit, same.definitions, same.singletons,
    same.beanTypeWithin_eq _ name produced]

theorem factoryClass?_eq {d : BeanDefinition}
    (produced : ∀ name, d.factoryBean = some name →
      ∀ e, f.Asked (.reference name) e → SameProduced f.registry g.registry e) :
    f.factoryClass? d = g.factoryClass? d := by
  cases called : d.factoryBean with
  | none => simp only [factoryClass?, factoryClassAnswer, factoryClassBy, called]
  | some name =>
    simp only [factoryClass?, factoryClassAnswer, factoryClassBy, called,
      same.beanTypeAnswer_eq name (produced name called)]

theorem argumentTypes_eq {d : BeanDefinition}
    (produced : ∀ a ∈ d.arguments.ordered, a.type = none →
      ∀ e, f.Asked a.value e → SameProduced f.registry g.registry e) :
    f.argumentTypes d = g.argumentTypes d := by
  apply List.map_congr_left
  intro a member
  rw [argumentTypeBy_congr a]
  intro untyped q asks
  cases q with
  | definition e => exact produced a member untyped e (.here asks)
  | bean name =>
    exact same.beanTypeAnswer_eq name fun e asked =>
      produced a member untyped e (asked.of_reference asks)

end SameBeans
end BeanFactory
end Prewire.Beans
