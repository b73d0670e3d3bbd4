import Prewire.Pass.Basic
import Prewire.Proofs.Java.Variables
import Prewire.Proofs.Output.FreshName
import Prewire.Proofs.Registration.Block

/-! The variables of a registration. Inner beans are written in the lambdas that customize the outer
ones, each with a parameter of its own, and all other variables are gone where an inner bean begins. So
no variable shadows another one, however deep inner beans are nested. -/
namespace Prewire.Registration

open Java Types Beans Plan Output

def methodScope (m : Method) : List Variable := enter [] false (m.parameters.map Prod.snd)

def mainScope : List Variable := scopeAfter (methodScope (Pass.initializer .empty)) Pass.infrastructure

def Block.scope : Block → List Variable
  | call _ routine code => methodScope (contextRoutine routine code)
  | _ => mainScope

def factoryName : String := "beanFactory"

/-- The variables that are in scope at a level of inner beans: the context, maybe the bean factory, and
the parameters of the lambdas that customize the outer beans. -/
structure Ambient (level : Nat) (scope : List Variable) : Prop where
  context : ⟨contextName, false⟩ ∈ scope
  known : ∀ v ∈ scope, v = ⟨contextName, false⟩ ∨ v = ⟨factoryName, false⟩ ∨
    ∃ outer < level, v = ⟨customizerParameter outer, true⟩

def suppliedNames : List String := [attributesName, "field", "method"]

structure Supplies (scope : List Variable) : Prop where
  context : ⟨contextName, false⟩ ∈ scope
  instanceContext : ⟨instanceContextName, false⟩ ∈ scope
  fresh : ∀ name ∈ suppliedNames, ∀ v ∈ scope, v.name ≠ name

def Plain (scope : List Variable) (e : Expression) : Prop :=
  ∀ customizes, WellScoped (e.sites scope customizes)

section
variable {level : Nat} {scope : List Variable}

theorem customizerParameter_injective : Function.Injective customizerParameter :=
  OutputClass.numbered_injective "bd"

theorem customizerParameter_ne {name : String} (apart : ¬ "bd".toList <+: name.toList) (level : Nat) :
    customizerParameter level ≠ name := by
  rintro rfl
  obtain ⟨digits, read, -⟩ := OutputClass.read_numbered "bd" level
  exact apart ⟨digits, read.symm⟩

/-- A routine outside of the main class is given the context alone. -/
theorem scope_block (block : Block) : block.scope = [⟨factoryName, false⟩, ⟨contextName, false⟩] ∨
    block.scope = [⟨contextName, false⟩] := by
  cases block with
  | call owner routine code => exact .inr rfl
  | _ => exact .inl rfl

theorem ambient_block (block : Block) : Ambient 0 block.scope := by
  rcases scope_block block with whole | whole <;> constructor <;> simp [whole]

/-- Names of no other kind are new at any level. -/
theorem Ambient.fresh (ambient : Ambient level scope) {name : String}
    (other : name ≠ contextName ∧ name ≠ factoryName ∧ ¬ "bd".toList <+: name.toList) :
    ∀ v ∈ scope, v.name ≠ name := by
  intro v member
  rcases ambient.known v member with rfl | rfl | ⟨outer, -, rfl⟩
  · exact other.1.symm
  · exact other.2.1.symm
  · exact customizerParameter_ne other.2.2 outer

/-- The parameter of a level is new there. -/
theorem Ambient.fresh_parameter (ambient : Ambient level scope) :
    ∀ v ∈ scope, v.name ≠ customizerParameter level := by
  intro v member
  rcases ambient.known v member with rfl | rfl | ⟨outer, below, rfl⟩
  · exact (customizerParameter_ne (by decide) level).symm
  · exact (customizerParameter_ne (by decide) level).symm
  · exact fun same => below.ne (customizerParameter_injective same)

/-- The lambda that customizes leads to the next level. -/
theorem Ambient.next (ambient : Ambient level scope) :
    Ambient (level + 1) (⟨customizerParameter level, true⟩ :: scope) := by
  refine ⟨.tail _ ambient.context, List.forall_mem_cons.mpr ⟨?_, fun v member => ?_⟩⟩
  · exact .inr (.inr ⟨level, level.lt_succ_self, rfl⟩)
  · exact (ambient.known v member).imp_right (Or.imp_right fun ⟨outer, below, same⟩ =>
      ⟨outer, Nat.lt_succ_of_lt below, same⟩)

/-- The lambda that supplies an instance. -/
theorem Ambient.supplies (ambient : Ambient level scope) :
    Supplies (⟨instanceContextName, false⟩ :: scope) := by
  have apart : ∀ name ∈ suppliedNames, instanceContextName ≠ name ∧ name ≠ contextName ∧
      name ≠ factoryName ∧ ¬ "bd".toList <+: name.toList := by decide
  refine ⟨.tail _ ambient.context, .head _, fun name listed => List.forall_mem_cons.mpr ?_⟩
  exact ⟨(apart name listed).1, ambient.fresh (apart name listed).2⟩

theorem Supplies.withBean (supplies : Supplies scope) : Supplies (⟨beanVariable, false⟩ :: scope) := by
  have apart : ∀ name ∈ suppliedNames, beanVariable ≠ name := by decide
  refine ⟨.tail _ supplies.context, .tail _ supplies.instanceContext, fun name listed => ?_⟩
  exact List.forall_mem_cons.mpr ⟨apart name listed, supplies.fresh name listed⟩

theorem Supplies.isSound_attributes (supplies : Supplies scope) :
    (Site.declared attributesName scope).IsSound :=
  .declared (supplies.fresh attributesName (.head _))

@[simp] theorem plain_rawTypeExpression (type : JavaType) : Plain scope (rawTypeExpression type) := by
  simp [Plain, rawTypeExpression]

theorem plain_name {name : String} (known : ⟨name, false⟩ ∈ scope) : Plain scope (.name name) :=
  fun _ => List.forall_mem_singleton.mpr (isSound_used known)

@[simp] theorem plain_string (value : String) : Plain scope (.string value) := by simp [Plain]

@[simp] theorem plain_boolean (value : Bool) : Plain scope (.boolean value) := by simp [Plain]

@[simp] theorem plain_number (literal : NumberLiteral) : Plain scope (.number literal) := by simp [Plain]

@[simp] theorem plain_classOf (name : ClassName) : Plain scope (.classOf name) := by
  simp [Plain, Expression.classOf]

theorem plain_staticCall {name : ClassName} {method : String} {arguments : List Expression}
    (plain : ∀ e ∈ arguments, Plain scope e) : Plain scope (.staticCall name method arguments) := by
  intro customizes
  simpa [Expression.staticCall] using fun e listed => plain e listed _

mutual
theorem plain_genericTypeExpression : ∀ type : JavaType, Plain scope (genericTypeExpression type)
  | .classType name [] => by simp [genericTypeExpression]
  | .classType name (t :: ts) => by
    rw [genericTypeExpression]
    refine plain_staticCall (List.forall_mem_cons.mpr ⟨plain_classOf name, ?_⟩)
    exact plain_typeArguments ((t :: ts).any JavaType.isGeneric) (t :: ts)
  | .primitive _ | .variable _ | .array _ => by
    rw [genericTypeExpression.eq_def]
    exact plain_rawTypeExpression _
theorem plain_typeArguments (resolvable : Bool) : ∀ types,
    ∀ e ∈ typeArguments resolvable types, Plain scope e
  | [] => by simp [typeArguments]
  | t :: ts => by
    rw [typeArguments, List.forall_mem_cons]
    refine ⟨?_, plain_typeArguments resolvable ts⟩
    split
    · exact plain_rawTypeExpression t
    · split
      · exact plain_genericTypeExpression t
      · exact plain_staticCall (by simp)
end

@[simp] theorem plain_typeExpression (type : JavaType) : Plain scope (typeExpression type) := by
  rw [typeExpression]
  split
  · exact plain_rawTypeExpression type
  · exact plain_genericTypeExpression type

theorem plain_parameterTypeExpressions (e : Executable) :
    ∀ x ∈ parameterTypeExpressions e, Plain scope x := by
  simp [parameterTypeExpressions]

theorem wellScoped_selection (e : Executable) : ∀ call ∈ selection e, ∀ x ∈ call.arguments,
    WellScoped (x.sites scope (call.method = "customize")) := by
  have types : ∀ x ∈ parameterTypeExpressions e, Plain scope x := plain_parameterTypeExpressions e
  have plain : ∀ call ∈ selection e, ∀ x ∈ call.arguments, Plain scope x := by
    rw [selection]
    split
    · simpa using types
    · split
      · simp
      · simpa using types
  exact fun call listed x given => plain call listed x given _

theorem plain_attributeArguments (known : ⟨attributesName, false⟩ ∈ scope) (count : Nat) :
    ∀ x ∈ attributeArguments count, Plain scope x := by
  intro x listed customizes
  obtain ⟨index, -, rfl⟩ := List.mem_map.mp listed
  simpa [Expression.call] using isSound_used known

theorem plain_invocation {e : Executable} {arguments : List Expression}
    (context : ⟨contextName, false⟩ ∈ scope) (plain : ∀ x ∈ arguments, Plain scope x) :
    Plain scope (invocation e arguments) := by
  have each (customizes : Bool) (x : Expression) (listed : x ∈ arguments) := plain x listed customizes
  intro customizes
  rw [invocation]
  split
  · simpa using each false
  · exact plain_staticCall plain customizes
  · simpa [isSound_used context, Expression.classOf] using each _

theorem plain_lookedUpCreation (supplies : Supplies scope) (e : Executable) :
    Plain scope (lookedUpCreation e) := by
  have created : Plain (⟨attributesName, false⟩ :: scope)
      (invocation e (attributeArguments e.parameterCount)) :=
    plain_invocation (.tail _ supplies.context) (plain_attributeArguments (.head _) _)
  intro customizes
  simp [lookedUpCreation, Expression.call, isSound_used supplies.context,
    isSound_used supplies.instanceContext, supplies.isSound_attributes, created false]

/-- Looking values up leaves it to the lambda whether the calls are well scoped. -/
theorem wellScoped_lookup {isRequired : Bool} {lambda : Expression}
    (context : ⟨contextName, false⟩ ∈ scope) (inside : WellScoped (lambda.sites scope false)) :
    ∀ call ∈ lookup isRequired lambda, ∀ x ∈ call.arguments,
      WellScoped (x.sites scope (call.method = "customize")) := by
  cases isRequired <;> simp [lookup, isSound_used context, inside]

def holding (holder : String) (scope : List Variable) : List Variable :=
  ⟨holder, false⟩ :: ⟨attributesName, false⟩ :: scope

theorem wellScoped_reflective {type : ClassName} {holder find use : String}
    {findArguments useArguments : List Expression} (supplies : Supplies scope)
    (bean : ⟨beanVariable, false⟩ ∈ scope) (listed : holder ∈ ["field", "method"])
    (finds : ∀ x ∈ findArguments, Plain (holding holder scope) x)
    (uses : ∀ x ∈ useArguments, Plain (holding holder scope) x) :
    WellScoped ((reflective type holder find use findArguments useArguments).sites scope false) := by
  have apart : ∀ name ∈ ["field", "method"], attributesName ≠ name := by decide
  have declared : (Site.declared holder (⟨attributesName, false⟩ :: scope)).IsSound :=
    .declared (List.forall_mem_cons.mpr ⟨apart holder listed, supplies.fresh holder (.tail _ listed)⟩)
  have held : Plain (holding holder scope) (.name holder) := plain_name (.head _)
  have injected : Plain (holding holder scope) (.name beanVariable) :=
    plain_name (.tail _ (.tail _ bean))
  have found : Plain _ (.staticCall Known.reflectionUtils find findArguments) := plain_staticCall finds
  have opened : Plain _ (.staticCall Known.reflectionUtils "makeAccessible" [.name holder]) :=
    plain_staticCall (List.forall_mem_singleton.mpr held)
  have used : Plain _ (.staticCall Known.reflectionUtils use
      (.name holder :: .name beanVariable :: useArguments)) :=
    plain_staticCall (List.forall_mem_cons.mpr ⟨held, List.forall_mem_cons.mpr ⟨injected, uses⟩⟩)
  rw [holding] at found opened used
  simp [reflective, statementSites, Statement.variables, supplies.isSound_attributes, declared,
    found false, opened false, used false]

theorem wellScoped_fieldLambda (supplies : Supplies scope) (bean : ⟨beanVariable, false⟩ ∈ scope)
    (field : Field) : WellScoped ((fieldLambda field).sites scope false) := by
  rw [fieldLambda]
  split
  · refine wellScoped_reflective supplies bean (.head _) (by simp) ?_
    exact plain_attributeArguments (.tail _ (.head _)) 1
  · have bean : (Site.used beanVariable (⟨attributesName, false⟩ :: scope)).IsSound :=
      isSound_used (.tail _ bean)
    have attributes : (Site.used attributesName (⟨attributesName, false⟩ :: scope)).IsSound :=
      isSound_used (.head _)
    simp [supplies.isSound_attributes, Expression.call, bean, attributes]

theorem wellScoped_methodLambda (supplies : Supplies scope) (bean : ⟨beanVariable, false⟩ ∈ scope)
    (m : Executable) : WellScoped ((methodLambda m).sites scope false) := by
  rw [methodLambda]
  split
  · refine wellScoped_reflective supplies bean (.tail _ (.head _)) ?_ ?_
    · simpa using plain_parameterTypeExpressions m
    · exact plain_attributeArguments (.tail _ (.head _)) m.parameterCount
  · have bean : (Site.used beanVariable (⟨attributesName, false⟩ :: scope)).IsSound :=
      isSound_used (.tail _ bean)
    have attributes : ∀ x ∈ attributeArguments m.parameterCount,
        Plain (⟨attributesName, false⟩ :: scope) x := plain_attributeArguments (.head _) m.parameterCount
    simpa [supplies.isSound_attributes, Expression.call, bean] using
      fun x listed => attributes x listed _

/-- A member is found by values that are written out. -/
theorem wellScoped_found {member : String} {arguments : List Expression} {isRequired : Bool}
    {lambda : Expression} (supplies : Supplies scope) (plain : ∀ x ∈ arguments, Plain scope x)
    (inside : WellScoped (lambda.sites scope false)) :
    WellScoped ((Statement.expression (.chain (.name instanceContextName)
      (⟨member, arguments⟩ :: lookup isRequired lambda))).sites scope) := by
  have looksUp : ∀ call ∈ lookup isRequired lambda, ∀ x ∈ call.arguments,
      WellScoped (x.sites scope (call.method = "customize")) :=
    wellScoped_lookup supplies.context inside
  simpa [isSound_used supplies.instanceContext] using ⟨fun x listed => plain x listed _, looksUp⟩

theorem wellScoped_injection (supplies : Supplies scope) (bean : ⟨beanVariable, false⟩ ∈ scope)
    {d : Dependency} {s : Statement} (injects : injection d = some s) :
    s.variables = [] ∧ WellScoped (s.sites scope) := by
  rw [injection] at injects
  split at injects
  · cases injects
  · next field _ =>
    obtain rfl := Option.some.inj injects
    exact ⟨rfl, wellScoped_found supplies (by simp) (wellScoped_fieldLambda supplies bean field)⟩
  · next m _ =>
    obtain rfl := Option.some.inj injects
    refine ⟨rfl, wellScoped_found supplies ?_ (wellScoped_methodLambda supplies bean m)⟩
    simpa using plain_parameterTypeExpressions m

theorem wellScoped_supplier (ambient : Ambient level scope) (e : Executable)
    {arguments : Option (List Expression)} (injections : List Dependency)
    (plain : ∀ scope, ∀ x ∈ arguments.getD [], Plain scope x) :
    WellScoped ((supplier e arguments injections).sites scope false) := by
  have supplies := ambient.supplies
  have declared : (Site.declared instanceContextName scope).IsSound :=
    .declared (ambient.fresh (by decide))
  have created {scope : List Variable} (supplies : Supplies scope) :
      Plain scope ((arguments.map (invocation e)).getD (lookedUpCreation e)) := by
    cases arguments with
    | none => exact plain_lookedUpCreation supplies e
    | some arguments => exact plain_invocation supplies.context (plain scope)
  rw [supplier.eq_def]
  split
  · cases arguments with
    | none => simpa [declared] using plain_lookedUpCreation supplies e false
    | some arguments => simpa using plain_invocation ambient.context (plain scope) false
  · have bean : (Site.declared beanVariable (⟨instanceContextName, false⟩ :: scope)).IsSound :=
      .declared (List.forall_mem_cons.mpr ⟨by decide, ambient.fresh (by decide)⟩)
    have inScope := supplies.withBean
    have each : ∀ s ∈ injections.filterMap injection ++ [.giveBack (.name beanVariable)],
        s.variables = [] ∧
          WellScoped (s.sites (⟨beanVariable, false⟩ :: ⟨instanceContextName, false⟩ :: scope)) := by
      intro s listed
      rcases List.mem_append.mp listed with injected | last
      · obtain ⟨d, -, injects⟩ := List.mem_filterMap.mp injected
        exact wellScoped_injection inScope (.head _) injects
      · obtain rfl := List.mem_singleton.mp last
        exact ⟨rfl, by simpa using isSound_used (.head _)⟩
    have statements := (wellScoped_statementSites fun s listed => (each s listed).1).mpr
      fun s listed => (each s listed).2
    simp [statementSites, declared, bean, Statement.variables, created inScope false, statements]

/-- What a literal value is written as is an expression without variables. -/
theorem plain_floating (format : Decimal.BinaryFormat) (p : Primitive) (bits : Nat)
    (literal : NumberLiteral) : Plain scope (floating format p bits literal) := by
  intro customizes
  rw [floating.eq_def]
  cases format.magnitude bits <;> simp [constantOf]

/-- Values have no variables but those of inner beans. -/
theorem plain_value {m : Type → Type} [Monad m] [LawfulMonad m] [MonadExceptOf Failure m]
    {o : Outcome m} {innerBean : BeanDefinition → m Expression}
    (inner : ∀ d e, o.Yields (innerBean d) e → Plain scope e) (v : BeanValue) (type : Option JavaType)
    (e : Expression) (yields : o.Yields (valueExpression innerBean v type) e) : Plain scope e := by
  refine o.value_induction (motive := fun _ _ e => Plain scope e) (fun v _ elements es known each => ?_)
    (fun v _ e single yields => ?_) yields
  · have plain : ∀ e ∈ es, Plain scope e := by
      clear known
      induction each with
      | nil => simp
      | cons one _ ih => exact List.forall_mem_cons.mpr ⟨one, ih⟩
    cases v with
    | array =>
      intro customizes
      simpa [collected] using fun e listed => plain e listed false
    | list | set => cases es <;> exact plain_staticCall plain
    | _ => cases known
  · cases v with
    | array | list | set => cases single
    | inner d =>
      rw [valueExpression] at yields
      exact inner d e yields
    | opaqueInstance =>
      rw [valueExpression] at yields
      exact absurd yields o.not_throw
    | float | double =>
      rw [valueExpression] at yields
      obtain rfl := o.eq_of_pure yields
      exact plain_floating _ _ _ _
    | _ =>
      rw [valueExpression] at yields
      obtain rfl := o.eq_of_pure yields
      simp [Plain, whole, beanReference]

/-- No inner bean occurs in arguments that are written out. -/
theorem plain_arguments {f : BeanFactory} {d : BeanDefinition} {creator : Creator}
    {arguments : Option (List Expression)} (direct : directArguments f d creator = .ok arguments)
    (scope : List Variable) : ∀ x ∈ arguments.getD [], Plain scope x := by
  have inner : ∀ d e, Outcome.ofExcept.Yields (refuseInner d) e → Plain scope e :=
    fun _ _ yields => absurd yields Outcome.ofExcept.not_throw
  cases arguments with
  | none => simp
  | some written =>
    have each := directArguments_ok direct
    clear direct
    simp only [Option.getD_some]
    generalize bindings creator.executable d.arguments = bound at each
    induction each with
    | nil => simp
    | cons one _ ih => exact List.forall_mem_cons.mpr ⟨plain_value inner _ _ _ one, ih⟩

def Customizes (scope : List Variable) (parameter : String) (x : Expression) : Prop :=
  x.receiver? = some parameter ∧ WellScoped (x.sites scope false)

theorem customizes_call {parameter method : String} {arguments : List Expression}
    (inner : (Site.used parameter scope).IsSound) (plain : ∀ e ∈ arguments, Plain scope e) :
    Customizes scope parameter ((Expression.name parameter).call method arguments) := by
  refine ⟨rfl, ?_⟩
  simpa [Expression.call, inner] using fun e listed => plain e listed _

theorem customizes_metadata {parameter : String} (inner : (Site.used parameter scope).IsSound)
    (d : BeanDefinition) :
    ∀ x ∈ metadataCustomizers (.name parameter) d, Customizes scope parameter x := by
  have call {method : String} {e : Expression} (plain : Plain scope e) :
      Customizes scope parameter ((Expression.name parameter).call method [e]) :=
    customizes_call inner (List.forall_mem_singleton.mpr plain)
  have qualified (q : Qualifier) :
      Customizes scope parameter (qualifierCustomizer (.name parameter) q) :=
    call fun _ => by cases q.value <;> simp [Expression.classOf]
  simp only [metadataCustomizers, List.forall_mem_append, List.forall_mem_map, qualified]
  refine ⟨⟨⟨⟨?_, fun _ _ => call (plain_string _)⟩, ?_⟩, ?_⟩, fun _ _ => trivial⟩
  all_goals split <;> simp [call]

section
variable {innerBean : BeanDefinition → Writing Expression} {parameter : String}
variable {properties : List PropertySetting}

theorem customizes_settings (inner : (Site.used parameter scope).IsSound)
    (beans : ∀ d e, Outcome.ofWriting.Yields (innerBean d) e → Plain scope e)
    {settings : List Expression}
    (each : List.Forall₂ (AddsProperty innerBean (.name parameter)) properties settings) :
    ∀ x ∈ settings, Customizes scope parameter x := by
  induction each with
  | nil => simp
  | cons adds _ ih =>
    obtain ⟨value, written, rfl⟩ := adds
    refine List.forall_mem_cons.mpr ⟨⟨rfl, ?_⟩, ih⟩
    simpa [propertyCustomizer, inner] using plain_value beans _ _ _ written false

theorem customizes_customizers (inner : (Site.used parameter scope).IsSound)
    (beans : ∀ d e, Outcome.ofWriting.Yields (innerBean d) e → Plain scope e) {d : BeanDefinition}
    {customizing : List Expression}
    (yields : Outcome.ofWriting.Yields (customizers innerBean (.name parameter) d properties)
      customizing) :
    ∀ x ∈ customizing, Customizes scope parameter x := by
  obtain ⟨settings, each, rfl⟩ := customizers_ok yields
  exact List.forall_mem_append.mpr
    ⟨customizes_settings inner beans each, customizes_metadata inner d⟩

end

/-- The parameter of a level is the innermost one in the lambda of that level. -/
theorem isSound_parameter (level : Nat) (scope : List Variable) :
    (Site.used (customizerParameter level) (⟨customizerParameter level, true⟩ :: scope)).IsSound :=
  .used (v := ⟨customizerParameter level, true⟩) (.head _) fun _ => rfl

theorem wellScoped_customize (ambient : Ambient level scope) {customizing : List Expression}
    (each : ∀ x ∈ customizing, Customizes (⟨customizerParameter level, true⟩ :: scope)
      (customizerParameter level) x) :
    ∀ call ∈ customize (customizerParameter level) customizing, ∀ x ∈ call.arguments,
      WellScoped (x.sites scope (call.method = "customize")) := by
  have declared : (Site.declared (customizerParameter level) scope).IsSound :=
    .declared ambient.fresh_parameter
  have called : (Site.customizing (some (customizerParameter level))
      (⟨customizerParameter level, true⟩ :: scope)).IsSound := .customizing rfl
  have each : ∀ x ∈ customizing,
      (Site.customizing x.receiver? (⟨customizerParameter level, true⟩ :: scope)).IsSound ∧
        WellScoped (x.sites (⟨customizerParameter level, true⟩ :: scope) false) := fun x listed => by
    obtain ⟨receiver, inside⟩ := each x listed
    exact ⟨receiver ▸ called, inside⟩
  cases customizing with
  | nil => simp [customize]
  | cons first rest =>
    cases rest with
    | nil =>
      obtain ⟨calls, inside⟩ := each first List.mem_cons_self
      simp [customize, declared, calls, inside]
    | cons second rest =>
      have block := wellScoped_blockCustomizing.mpr ⟨declared, each⟩
      exact List.forall_mem_singleton.mpr (List.forall_mem_singleton.mpr block)

variable {f : BeanFactory} {beanName : String} {d : BeanDefinition} {plan : BeanPlan}
variable {creator : Creator}

/-- The calls that supply and customize, of an outer or an inner bean. -/
theorem wellScoped_instance (ambient : Ambient level scope) {arguments : Option (List Expression)}
    (direct : directArguments f d creator = .ok arguments)
    {innerBean : BeanDefinition → Writing Expression}
    (beans : ∀ d e, Outcome.ofWriting.Yields (innerBean d) e →
      Plain (⟨customizerParameter level, true⟩ :: scope) e) {customizing : List Expression}
    (customized : Outcome.ofWriting.Yields (customizers innerBean (.name (customizerParameter level)) d
      plan.properties) customizing) :
    ∀ call ∈ ⟨"instanceSupplier", [supplier creator.executable arguments plan.injections]⟩
        :: customize (customizerParameter level) customizing,
      ∀ x ∈ call.arguments, WellScoped (x.sites scope (call.method = "customize")) := by
  refine List.forall_mem_cons.mpr ⟨List.forall_mem_singleton.mpr ?_, ?_⟩
  · exact wellScoped_supplier ambient creator.executable plan.injections (plain_arguments direct)
  · exact wellScoped_customize ambient
      (customizes_customizers (isSound_parameter level scope) beans customized)

/-- The chain of an inner bean is well scoped at its level. -/
theorem plain_innerChain (depth : Nat) (ambient : Ambient level scope) (e : Expression)
    (yields : Outcome.ofWriting.Yields (innerChain f beanName depth level d) e) : Plain scope e := by
  induction depth generalizing level scope d e with
  | zero => exact absurd yields Outcome.ofWriting.not_throw
  | succ depth ih =>
    obtain ⟨plan, creator, arguments, customizing, source, customized, rfl⟩ := innerChain_ok yields
    have instantiates := wellScoped_instance ambient source.direct
      (fun d e yields => ih ambient.next e yields) customized
    intro customizes
    simp only [Expression.sites, wellScoped_append, wellScoped_nil, wellScoped_callSites,
      List.forall_mem_append, List.forall_mem_cons, List.not_mem_nil, false_imp_iff, implies_true,
      and_true, true_and] at instantiates ⊢
    exact ⟨⟨⟨plain_typeExpression _ _, wellScoped_selection creator.executable⟩, instantiates.1⟩,
      instantiates.2⟩

/-- The statement of a registration is well scoped wherever beans are registered. -/
theorem wellScoped_registration (ambient : Ambient 0 scope) {supply : Call} {statement : Statement}
    {p q : Progress} (supplied : supplierCall f d plan creator = .ok supply)
    (ran : (registration f beanName d plan creator supply).run.run p = (.ok statement, q)) :
    WellScoped (statement.sites scope) := by
  obtain ⟨arguments, direct, rfl⟩ := supplierCall_ok supplied
  obtain ⟨customizing, p, q, customized, rfl⟩ := registration_ok ran
  have instantiates := wellScoped_instance ambient direct
    (fun d e yields => plain_innerChain _ ambient.next e yields) ⟨p, q, customized⟩
  simp only [registrationStatement, chainHead, Statement.sites, Expression.sites, wellScoped_append,
    wellScoped_nil, wellScoped_cons, wellScoped_callSites, List.forall_mem_append, List.forall_mem_cons,
    List.not_mem_nil, false_imp_iff, implies_true, and_true, true_and] at instantiates ⊢
  exact ⟨⟨plain_typeExpression _ _, wellScoped_selection creator.executable⟩, instantiates,
    isSound_used ambient.context⟩

/-- A registration that succeeds places the statement of the bean. However deep inner beans are nested
there, what is declared has a new name in its scope, what is used is in scope, and what customizes is
called on the parameter of the innermost lambda that customizes. -/
theorem register_unshadowed {t after : Target}
    (registered : register f beanName d plan t = (.ok (), after)) :
    ∃ creator supply statement progress, ∃ block : Block, plan.creator = some creator ∧
      supplierCall f d plan creator = .ok supply ∧
      (registration f beanName d plan creator supply).run.run {} = (.ok statement, progress) ∧
      block.Places statement.code t.classes.mainPackage ∧
      Extends t block.code block.routine?.toList after ∧
      (∀ name scope, .declared name scope ∈ statement.sites block.scope → ∀ v ∈ scope, v.name ≠ name) ∧
      (∀ receiver scope, .customizing receiver scope ∈ statement.sites block.scope →
        ∃ parameter, receiver = some parameter ∧ innermost? scope = some parameter) ∧
      (∀ name scope, .used name scope ∈ statement.sites block.scope →
        ∃ v ∈ scope, v.name = name ∧ (v.customizes → innermost? scope = some name)) ∧
      ∀ code, .verbatim code ∉ statement.sites block.scope := by
  obtain ⟨complete, -, block, places, extended⟩ := register_block registered
  obtain ⟨creator, supply, statement, progress, known, supplied, ran, code⟩ :=
    writeRegistration_ran complete
  have sound := wellScoped_registration (ambient_block block) supplied ran
  refine ⟨creator, supply, statement, progress, block, known, supplied, ran, code ▸ places, extended,
    ?_, ?_, ?_, ?_⟩
  · intro name scope member
    cases sound _ member with
    | declared fresh => exact fresh
  · intro receiver scope member
    cases sound _ member with
    | customizing inner => exact ⟨_, rfl, inner⟩
  · intro name scope member
    cases sound _ member with
    | @used v _ known inner => exact ⟨v, known, rfl, inner⟩
  · exact fun code member => nomatch sound _ member

end

namespace NestedSample

def service : ClassName := ⟨"com.example", ["Service"]⟩

def constructor : Executable where
  declaringClass := service
  kind := .constructor
  visibility := .publicAccess

def field : Field where
  declaringClass := service
  name := "next"
  type := .ofClass service
  annotations := [{ type := Known.autowired }]

def container : BeanFactory where
  registry := ⟨[{ name := service, constructors := [constructor], fields := [field] }]⟩

def primary : BeanDefinition :=
  { BeanDefinition.blank with beanClass := some service, isPrimary := true }

def holder (d : BeanDefinition) : BeanDefinition :=
  { BeanDefinition.blank with beanClass := some service, properties := [("parts", .set [.inner d])] }

def definition : BeanDefinition := holder (holder primary)

def plan : BeanPlan := .ofExecutable container definition constructor

def creator : Creator := .of container.registry constructor

def target : Target := { classes := .named "com.example.boot" "Bootstrap" }

def places (scope : List Variable) : List Site :=
  match supplierCall container definition plan creator with
  | .error _ => []
  | .ok supply =>
    match (registration container "service" definition plan creator supply).run.run {} with
    | (.ok statement, _) => statement.sites scope
    | (.error _, _) => []

end NestedSample

open NestedSample in
/-- Two levels down the field is new in its scope, and it is the third parameter that is set primary. -/
theorem register_unshadowed_nested : ∃ after, ∃ statement : Statement, ∃ block : Block,
    register container "service" definition plan target = (.ok (), after) ∧
    block.Places statement.code "com.example.boot" ∧
    .declared "bd2" (⟨"bd1", true⟩ :: ⟨"bd", true⟩ :: block.scope) ∈ statement.sites block.scope ∧
    .customizing (some "bd2") (⟨"bd2", true⟩ :: ⟨"bd1", true⟩ :: ⟨"bd", true⟩ :: block.scope) ∈
      statement.sites block.scope ∧
    .declared "field" (⟨"attributes", false⟩ :: ⟨"bean", false⟩ :: ⟨"instanceContext", false⟩
      :: ⟨"bd1", true⟩ :: ⟨"bd", true⟩ :: block.scope) ∈ statement.sites block.scope ∧
    ∀ name scope, .declared name scope ∈ statement.sites block.scope → ∀ v ∈ scope, v.name ≠ name := by
  have succeeds : (register container "service" definition plan target).1 = .ok () := by decide +kernel
  obtain ⟨_, supply, statement, progress, block, known, supplied, ran, placed, -, fresh, -⟩ :=
    register_unshadowed (Prod.ext succeeds rfl)
  obtain rfl := Option.some.inj known
  have whole (scope : List Variable) : statement.sites scope = places scope := by
    have supplied : supplierCall container definition plan creator = .ok supply := supplied
    have ran : (registration container "service" definition plan creator supply).run.run {} =
        (.ok statement, progress) := ran
    rw [places, supplied]
    simp only [ran]
  refine ⟨_, statement, block, Prod.ext succeeds rfl, placed, ?_, ?_, ?_, fresh⟩
  all_goals
    rw [whole]
    rcases scope_block block with same | same <;> rw [same] <;> decide +kernel

end Prewire.Registration
