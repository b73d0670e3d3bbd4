import Prewire.Registration.Injection
import Prewire.Registration.Customizer
import Prewire.Notice

/-! The calls that register a bean, one after the other: its type, what creates it, how the
instance is supplied, and what is customized. Inner beans are such calls inside the values of the
outer bean. -/
namespace Prewire.Registration

open Java Types Beans Plan Output

mutual
/-- How many definitions are nested in the values of a definition, one inside the other. -/
def valueDepth : BeanValue → Nat
  | .inner definition => definitionDepth definition + 1
  | .array _ elements | .list elements | .set elements => valuesDepth elements
  | _ => 0
def valuesDepth : List BeanValue → Nat
  | [] => 0
  | v :: vs => max (valueDepth v) (valuesDepth vs)
def definitionDepth : BeanDefinition → Nat
  | .mk _ _ _ _ _ properties _ _ _ _ _ _ => propertiesDepth properties
def propertiesDepth : List (String × BeanValue) → Nat
  | [] => 0
  | (_, v) :: rest => max (valueDepth v) (propertiesDepth rest)
end

/-- What writing a registration leaves besides its code: members that need reflection, and
notices. -/
structure Progress where
  reflection : Reflection := {}
  notices : List Notice := []
  deriving Repr, Inhabited

/-- Writing may fail; what was reported before stays. -/
abbrev Writing := ExceptT Failure (StateM Progress)

def report (notices : List Notice) : Writing Unit :=
  modify fun p => { p with notices := p.notices ++ notices }

def recordInjections (injections : List Dependency) : Writing Unit :=
  modify fun p => { p with reflection := injections.foldl recordInjection p.reflection }

def innerPlan (f : BeanFactory) (d : BeanDefinition) : Writing BeanPlan := do
  report (detectionNotices d (detect f d))
  match BeanPlan.ofDefinition f d with
  | .error failure => throw failure
  | .ok none => throw (.unsupportedValue (.innerBean d.beanClass))
  | .ok (some plan) => return plan

def requireCreator (beanName : String) (plan : BeanPlan) : Except Failure Creator :=
  match plan.creator with
  | some creator => .ok creator
  | none => .error (.missingInstanceCreator beanName)

def supplierCall (f : BeanFactory) (d : BeanDefinition) (plan : BeanPlan) (creator : Creator) :
    Except Failure Call := do
  let arguments ← directArguments f d creator
  return ⟨"instanceSupplier", [supplier creator.executable arguments plan.injections]⟩

/-- The calls on the definition of a plan, given how inner beans are written. -/
def customizers {m : Type → Type} [Monad m] [MonadExceptOf Failure m]
    (innerBean : BeanDefinition → m Expression) (target : Expression) (d : BeanDefinition)
    (properties : List PropertySetting) : m (List Expression) := do
  let settings ← properties.mapM fun p => do
    return propertyCustomizer target p.name (← valueExpression innerBean p.value p.type)
  return settings ++ metadataCustomizers target d

/-- A chain that yields the definition of an inner bean, at a level and with at most `depth` levels
below it. -/
def innerChain (f : BeanFactory) (beanName : String) :
    (depth level : Nat) → BeanDefinition → Writing Expression
  | 0, _, d => refuseInner d
  | depth + 1, level, d => do
    let plan ← innerPlan f d
    let creator ← requireCreator beanName plan
    let supply ← supplierCall f d plan creator
    recordInjections plan.injections
    let parameter := customizerParameter level
    let customizing ← customizers (innerChain f beanName depth (level + 1)) (.name parameter) d
      plan.properties
    return .chain (.typeName (.ofClass Known.beanRegistrar))
      (⟨"inner", [typeExpression plan.beanType]⟩ :: selection creator.executable ++ [supply]
        ++ customize parameter customizing ++ [⟨"toBeanDefinition", []⟩])

def chainHead (beanName : String) (plan : BeanPlan) (creator : Creator) : Expression :=
  .chain (.typeName (.ofClass Known.beanRegistrar))
    (⟨"of", [.string beanName, typeExpression plan.beanType]⟩ :: selection creator.executable)

def planDepth (plan : BeanPlan) : Nat :=
  propertiesDepth (plan.properties.map fun p => (p.name, p.value))

def registration (f : BeanFactory) (beanName : String) (d : BeanDefinition) (plan : BeanPlan)
    (creator : Creator) (supply : Call) : Writing Statement := do
  recordInjections plan.injections
  let parameter := customizerParameter 0
  let customizing ← customizers (innerChain f beanName (planDepth plan) 1) (.name parameter) d
    plan.properties
  return .brokenChain (chainHead beanName plan creator)
    (supply :: customize parameter customizing ++ [⟨"register", [.name contextName]⟩])

/-- The code of a registration, or the code up to where it failed. -/
structure Written where
  code : Code
  outcome : Except Failure Unit
  progress : Progress

/-- Writes the statement that registers a bean. What fails while it is customized leaves the calls
before that behind. -/
def writeRegistration (f : BeanFactory) (beanName : String) (d : BeanDefinition) (plan : BeanPlan) :
    Written :=
  let start : Except Failure (Creator × Call) := do
    let creator ← requireCreator beanName plan
    return (creator, ← supplierCall f d plan creator)
  match start with
  | .error failure => ⟨.empty, .error failure, {}⟩
  | .ok (creator, supply) =>
    match (registration f beanName d plan creator supply).run.run {} with
    | (.ok statement, progress) => ⟨statement.code, .ok (), progress⟩
    | (.error failure, progress) =>
      ⟨openChainCode (chainHead beanName plan creator) [supply], .error failure, progress⟩

end Prewire.Registration
