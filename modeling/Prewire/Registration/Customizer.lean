import Prewire.Registration.ValueExpression
import Prewire.Plan.BeanPlan

/-! Calls on the definition of a bean, for what its registration does not say otherwise. -/
namespace Prewire.Registration

open Java Beans Plan

/-- The parameter of the customizing lambda. An inner bean is written inside the lambda of the outer
one, so that each level has a name of its own. -/
def customizerParameter : Nat → String
  | 0 => "bd"
  | level + 1 => "bd" ++ toString (level + 1)

def propertyCustomizer (target : Expression) (name : String) (value : Expression) : Expression :=
  .chain target [⟨"getPropertyValues", []⟩, ⟨"addPropertyValue", [.string name, value]⟩]

/-- Scopes that a registration names: neither the absent nor the usual one. -/
def namedScope? (d : BeanDefinition) : Option String :=
  d.scope.filter fun scope => scope ≠ "" && scope ≠ "singleton"

def qualifierCustomizer (target : Expression) (q : Qualifier) : Expression :=
  target.call "addQualifier"
    [.create (.ofClass Known.candidateQualifier)
      (.classOf q.type :: (q.value.map Expression.string).toList)]

/-- The calls for everything but properties. -/
def metadataCustomizers (target : Expression) (d : BeanDefinition) : List Expression :=
  (if d.isPrimary then [target.call "setPrimary" [.boolean true]] else [])
    ++ (namedScope? d).toList.map (fun scope => target.call "setScope" [.string scope])
    ++ (if d.role = .application then []
        else [target.call "setRole" [.number (.int d.role.code)]])
    ++ (if d.isLazy then [target.call "setLazyInit" [.boolean true]] else [])
    ++ d.qualifiers.map (qualifierCustomizer target)

/-- The call that customizes a definition, if there is anything to say. -/
def customize (parameter : String) : List Expression → List Call
  | [] => []
  | [customizer] => [⟨"customize", [.lambda [parameter] customizer]⟩]
  | customizers => [⟨"customize", [.blockLambda [parameter] (customizers.map .expression)]⟩]

end Prewire.Registration
