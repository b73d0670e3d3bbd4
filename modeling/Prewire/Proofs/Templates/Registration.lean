import Prewire.Proofs.Failure
import Prewire.Proofs.Registration.Literals
import Prewire.Proofs.Templates.Creation
import Prewire.Registration.Chain

/-! Whole registrations from templates, inner beans included. What they leave is what a registration
leaves, after any code. -/
namespace Prewire.Templates

open Java Types Beans Plan Registration

section
variable {m : Type → Type} [Monad m] [MonadExceptOf Failure m]

def qualifierStep (parameter : Argument) (q : Qualifier) : CodeStep :=
  let type : Argument := .type (.ofClass Known.candidateQualifier)
  match q.value with
  | some value => .add "$N.addQualifier(new $T($T.class, $S))"
      [parameter, type, .type (.ofClass q.type), .text value]
  | none => .add "$N.addQualifier(new $T($T.class))" [parameter, type, .type (.ofClass q.type)]

/-- Templates for everything but properties. The first argument of each is the parameter. -/
def metadata (parameter : String) (d : BeanDefinition) : List CodeStep :=
  let parameter : Argument := .text parameter
  (if d.isPrimary then [.add "$N.setPrimary(true)" [parameter]] else [])
    ++ (namedScope? d).toList.map (fun scope => .add "$N.setScope($S)" [parameter, .text scope])
    ++ (if d.role = .application then []
        else [.add "$N.setRole($L)" [parameter, .text (toString d.role.code)]])
    ++ (if d.isLazy then [.add "$N.setLazyInit(true)" [parameter]] else [])
    ++ d.qualifiers.map (qualifierStep parameter)

def settingCode (innerBean : BeanDefinition → m Code) (parameter : String) (p : PropertySetting) :
    m Code := do
  let value ← valueCode innerBean p.value p.type
  block "$N.getPropertyValues().addPropertyValue($S, $L)" [.text parameter, .text p.name, .code value]

def customizerCodes (innerBean : BeanDefinition → m Code) (parameter : String) (d : BeanDefinition)
    (properties : List PropertySetting) : m (List Code) := do
  let settings ← properties.mapM (settingCode innerBean parameter)
  return settings ++ (← (metadata parameter d).mapM fun step => write [step] .empty)

def writeCustomize (parameter : String) (customizers : List Code) (code : Code) : m Code :=
  match customizers with
  | [] => pure code
  | [customizer] => write [.add ".customize(($N) -> $L)" [.text parameter, .code customizer]] code
  | customizers =>
    write (.add ".customize(($N) -> \x7b\n$>" [.text parameter]
      :: customizers.map (fun customizer => .statement "$L" [.code customizer])
      ++ [.add "$<\x7d)" []]) code

end

def refuseInnerCode (definition : BeanDefinition) : Except Failure Code :=
  throw (.unsupportedValue (.innerBean definition.beanClass))

def literalCodes : List BeanValue → List JavaType → Except Failure (List Code)
  | value :: values, parameter :: parameters => do
    let first ← valueCode refuseInnerCode value (some parameter)
    return first :: (← literalCodes values parameters)
  | _, _ => .ok []

def directCodes (f : BeanFactory) (d : BeanDefinition) (creator : Creator) :
    Except Failure (Option (List Code)) :=
  let e := creator.executable
  let values := d.arguments.ordered.map fun a => f.resolve a.value
  if e.parameterCount = 0 then .ok (some [])
  else if creator.parameters.any (·.kind = some .provider) || values.length ≠ e.parameterCount
      || !values.all BeanValue.isLiteral || !bindAll f e.isVarargs values e.parameterTypes
  then .ok none
  else (literalCodes values e.parameterTypes).map some

/-- The start of a chain, up to how the instance is supplied: of an inner bean, or of a bean of its own,
whose chain goes on in the next line. -/
def writeOpening (f : BeanFactory) (beanName : String) (d : BeanDefinition) (plan : BeanPlan)
    (isInner : Bool) (code : Code) : Except Failure Code := do
  let creator ← requireCreator beanName plan
  let registrar : Argument := .type (.ofClass Known.beanRegistrar)
  let type ← beanTypeCode plan.beanType
  let code ← write [if isInner then .add "$T.inner($L)" [registrar, .code type]
    else .add "$T.of($S, $L)" [registrar, .text beanName, .code type]] code
  let code ← writeSelection creator.executable code
  let code ← write ((if isInner then [] else [.add "\n$>$>" []]) ++ [.add ".instanceSupplier(" []]) code
  let code ← writeSupplier creator.executable (← directCodes f d creator) plan.injections code
  write [.add ")" []] code

def innerCode (f : BeanFactory) (beanName : String) :
    (depth level : Nat) → BeanDefinition → Writing Code
  | 0, _, d => throw (.unsupportedValue (.innerBean d.beanClass))
  | depth + 1, level, d => do
    let plan ← innerPlan f d
    let code ← writeOpening f beanName d plan true .empty
    recordInjections plan.injections
    let parameter := customizerParameter level
    let inner := innerCode f beanName depth (level + 1)
    let customizing ← customizerCodes inner parameter d plan.properties
    let code ← writeCustomize parameter customizing code
    write [.add ".toBeanDefinition()" []] code

def finishRegistration (f : BeanFactory) (beanName : String) (d : BeanDefinition) (plan : BeanPlan)
    (opening : Code) : Writing Code := do
  recordInjections plan.injections
  let parameter := customizerParameter 0
  let inner := innerCode f beanName (planDepth plan) 1
  let customizing ← customizerCodes inner parameter d plan.properties
  let code ← writeCustomize parameter customizing opening
  write [.add ".register(context);\n$<$<" []] code

def registration (f : BeanFactory) (beanName : String) (d : BeanDefinition) (plan : BeanPlan)
    (code : Code) : Written :=
  match writeOpening f beanName d plan false code with
  | .error failure => ⟨code, .error failure, {}⟩
  | .ok opening =>
    match (finishRegistration f beanName d plan opening).run.run {} with
    | (.ok code, progress) => ⟨code, .ok (), progress⟩
    | (.error failure, progress) => ⟨opening, .error failure, progress⟩

section
variable {m : Type → Type} [Monad m] [MonadExceptOf Failure m]

theorem ofSteps_statements (es : List Expression) :
    Code.ofSteps? ((es.map Expression.code).map fun code => .statement "$L" [.code code]) =
      some (statementsCode (es.map .expression)) := by
  induction es with
  | nil => rfl
  | cons e rest ih =>
    rw [List.map_cons, List.map_cons, Code.ofSteps?, ih]
    simp

theorem appends_customize (parameter : String) (es : List Expression) :
    Appends (m := m) (writeCustomize parameter (es.map Expression.code))
      (callsCode (customize parameter es)) := by
  match es with
  | [] =>
    intro code
    simp [writeCustomize, customize]
  | [e] =>
    have step : Code.ofSteps? [.add ".customize(($N) -> $L)" [.text parameter, .code e.code]] =
        some (callsCode (customize parameter [e])) := by simp [customize]
    exact appends_write step
  | e :: next :: rest =>
    have opening : Code.ofSteps? [.add ".customize(($N) -> \x7b\n$>" [.text parameter]] =
        some (Code.text (".customize((" ++ parameter ++ ") -> \x7b\n") ++ Code.indent) := by simp
    have closing : Code.ofSteps? [.add "$<\x7d)" []] = some (Code.unindent ++ Code.text "\x7d)") := by simp
    have statements := ofSteps_statements (e :: next :: rest)
    have steps := Code.ofSteps_append (Code.ofSteps_append opening statements) closing
    refine appends_write (steps.trans ?_)
    simp [customize]

def Fit (steps : List CodeStep) (es : List Expression) : Prop :=
  steps.map CodeStep.meaning? = es.map fun e => some e.code

theorem Fit.append {a b : List CodeStep} {x y : List Expression} (first : Fit a x) (rest : Fit b y) :
    Fit (a ++ b) (x ++ y) := by
  rw [Fit, List.map_append, List.map_append, first, rest]

theorem fit_metadata (parameter : String) (d : BeanDefinition) :
    Fit (metadata parameter d) (metadataCustomizers (.name parameter) d) := by
  have qualifier (q : Qualifier) : (qualifierStep (.text parameter) q).meaning? =
      some (qualifierCustomizer (.name parameter) q).code := by
    cases held : q.value <;> simp [qualifierStep, qualifierCustomizer, held]
  have qualifiers : Fit (d.qualifiers.map (qualifierStep (.text parameter)))
      (d.qualifiers.map (qualifierCustomizer (.name parameter))) := by
    simp only [Fit, List.map_map]
    exact List.map_congr_left fun q _ => qualifier q
  refine Fit.append (Fit.append (Fit.append (Fit.append ?_ ?_) ?_) ?_) qualifiers
  · split <;> simp [Fit]
  · cases namedScope? d <;> simp [Fit]
  · split <;> simp [Fit]
  · split <;> simp [Fit]

theorem mapM_write [LawfulMonad m] {steps : List CodeStep} {es : List Expression} (fit : Fit steps es) :
    (steps.mapM fun step => (write [step] .empty : m Code)) = pure (es.map Expression.code) := by
  induction steps generalizing es with
  | nil =>
    obtain rfl : es = [] := by simpa [Fit] using fit.symm
    rfl
  | cons step steps ih =>
    cases es with
    | nil => cases fit
    | cons e es =>
      obtain ⟨one, others⟩ := List.cons.inj fit
      have written : Code.ofSteps? [step] = some e.code := by
        rw [Code.ofSteps?, one]
        simp
      rw [List.mapM_cons, write_of_ofSteps written, pure_bind, ih others, pure_bind, Code.empty_append,
        List.map_cons]

theorem map_mapM {n : Type → Type} [Monad n] [LawfulMonad n] {α β γ : Type} (g : β → γ)
    (action : α → n β) (list : List α) :
    (list.mapM fun a => g <$> action a) = List.map g <$> list.mapM action := by
  induction list with
  | nil => simp
  | cons a rest ih => simp [List.mapM_cons, ih]

theorem customizerCodes_eq [LawfulMonad m] (stops : StopsAtFailure m)
    (inner : BeanDefinition → m Expression) (parameter : String) (d : BeanDefinition)
    (properties : List PropertySetting) :
    customizerCodes (fun d => Expression.code <$> inner d) parameter d properties =
      List.map Expression.code <$> customizers inner (.name parameter) d properties := by
  have setting (p : PropertySetting) : settingCode (fun d => Expression.code <$> inner d) parameter p =
      Expression.code <$> (do
        return propertyCustomizer (.name parameter) p.name (← valueExpression inner p.value p.type)) := by
    rw [settingCode, valueCode_eq stops]
    simp only [bind_map_left, map_bind, map_pure]
    refine bind_congr fun e => block_of_meaning ?_
    simp [propertyCustomizer]
  rw [customizerCodes, funext setting, map_mapM, mapM_write (fit_metadata parameter d)]
  simp [customizers]

end

variable (f : BeanFactory) (beanName : String) (d : BeanDefinition)

theorem literalCodes_eq (values : List BeanValue) (parameters : List JavaType) :
    literalCodes values parameters =
      (literalArguments values parameters).map (·.map Expression.code) := by
  fun_induction literalArguments values parameters with
  | case1 value values parameter parameters ih =>
    have first : valueCode refuseInnerCode value (some parameter) =
        Expression.code <$> plainExpression value (some parameter) :=
      valueCode_eq (m := Except Failure) (fun _ _ => rfl) refuseInner value (some parameter)
    rw [literalCodes, first, ih]
    cases plainExpression value (some parameter) with
    | error => rfl
    | ok e => cases literalArguments values parameters <;> rfl
  | case2 values parameters nothing =>
    rw [literalCodes]
    · rfl
    · exact nothing

theorem directCodes_eq (creator : Creator) : directCodes f d creator =
    (directArguments f d creator).map (·.map (·.map Expression.code)) := by
  rw [directCodes, directArguments]
  split
  · rfl
  split
  · rfl
  · rw [literalCodes_eq]
    cases literalArguments (d.arguments.ordered.map fun a => f.resolve a.value)
      creator.executable.parameterTypes <;> rfl

section
variable {f beanName d} {plan : BeanPlan} {creator : Creator} {supply : Call}

/-- A chain that is not finished: of an inner bean, or of a bean of its own. -/
def openingCode (beanName : String) (plan : BeanPlan) (creator : Creator) (supply : Call) : Bool → Code
  | true => (Expression.chain (.typeName (.ofClass Known.beanRegistrar))
      (⟨"inner", [typeExpression plan.beanType]⟩ :: selection creator.executable ++ [supply])).code
  | false => openChainCode (chainHead beanName plan creator) [supply]

theorem writeOpening_eq (created : plan.creator = some creator)
    (supplied : supplierCall f d plan creator = .ok supply) (isInner : Bool) (code : Code) :
    writeOpening f beanName d plan isInner code =
      .ok (code ++ openingCode beanName plan creator supply isInner) := by
  obtain ⟨arguments, direct, rfl⟩ : ∃ arguments, directArguments f d creator = .ok arguments ∧
      ⟨"instanceSupplier", [supplier creator.executable arguments plan.injections]⟩ = supply := by
    obtain ⟨arguments, direct, same⟩ := eq_ok_of_bind supplied
    exact ⟨arguments, direct, Except.ok.inj same⟩
  have required : requireCreator beanName plan = pure creator := by rw [requireCreator, created]; rfl
  have literal : directCodes f d creator = pure (arguments.map (·.map Expression.code)) := by
    rw [directCodes_eq, direct]; rfl
  have supplying := appends_supplier (m := Except Failure) creator.executable arguments plan.injections
  have selecting := appends_selection (m := Except Failure) creator.executable
  have closing : Code.ofSteps? [.add ")" []] = some (Code.text ")") := by simp
  rw [writeOpening, required, pure_bind, beanTypeCode_eq, pure_bind]
  cases isInner with
  | true =>
    have head : Code.ofSteps? [.add "$T.inner($L)" [.type (.ofClass Known.beanRegistrar),
          .code (typeExpression plan.beanType).code]] =
        some (Expression.staticCall Known.beanRegistrar "inner" [typeExpression plan.beanType]).code := by
      simp
    have between : Code.ofSteps? [.add ".instanceSupplier(" []] =
        some (Code.text ".instanceSupplier(") := by simp
    simp only [if_true, List.nil_append, write_of_ofSteps head, pure_bind, selecting _,
      write_of_ofSteps between, literal, supplying _, write_of_ofSteps closing]
    simp [openingCode, callsCode_append, pure, Except.pure]
  | false =>
    have head : Code.ofSteps? [.add "$T.of($S, $L)" [.type (.ofClass Known.beanRegistrar), .text beanName,
          .code (typeExpression plan.beanType).code]] =
        some (Expression.staticCall Known.beanRegistrar "of"
          [.string beanName, typeExpression plan.beanType]).code := by simp
    have between : Code.ofSteps? [.add "\n$>$>" [], .add ".instanceSupplier(" []] =
        some (Code.text "\n" ++ Code.indent ++ Code.indent ++ Code.text ".instanceSupplier(") := by
      simp
    simp only [Bool.false_eq_true, if_false, List.cons_append, List.nil_append, write_of_ofSteps head,
      pure_bind, selecting _, write_of_ofSteps between, literal, supplying _, write_of_ofSteps closing]
    simp [openingCode, openChainCode, chainHead, pure, Except.pure]

theorem writeOpening_uncreated (uncreated : plan.creator = none) (isInner : Bool) (code : Code) :
    writeOpening f beanName d plan isInner code = .error (.missingInstanceCreator beanName) := by
  rw [writeOpening, requireCreator, uncreated]
  rfl

theorem lift_ok {α : Type} (a : α) :
    (liftM (Except.ok a : Except Failure α) : Writing α) = pure a := rfl

theorem stops_writing : StopsAtFailure Writing := fun _ _ => rfl

/-- An inner bean is written as its chain is, whatever is nested in it. -/
theorem innerCode_eq (depth level : Nat) (d : BeanDefinition) :
    innerCode f beanName depth level d = Expression.code <$> innerChain f beanName depth level d := by
  induction depth generalizing level d with
  | zero => rfl
  | succ depth ih =>
    have nested : innerCode f beanName depth (level + 1) =
        fun d => Expression.code <$> innerChain f beanName depth (level + 1) d :=
      funext (ih (level + 1))
    have customizing (plan : BeanPlan) := customizerCodes_eq stops_writing
      (innerChain f beanName depth (level + 1)) (customizerParameter level) d plan.properties
    have closing : Code.ofSteps? [.add ".toBeanDefinition()" []] =
        some (Code.text ".toBeanDefinition()") := by simp
    rw [innerCode, innerChain, map_bind]
    refine bind_congr fun plan => ?_
    cases created : plan.creator with
    | none =>
      rw [writeOpening_uncreated created, requireCreator, created]
      rfl
    | some creator =>
      obtain ⟨supply, supplied⟩ := supplierCall_total f d plan creator
      have required : requireCreator beanName plan = .ok creator := by rw [requireCreator, created]
      simp only [writeOpening_eq created supplied true, nested, required, supplied, lift_ok, pure_bind,
        map_bind, customizing, bind_map_left, map_pure]
      refine bind_congr fun _ => bind_congr fun es => ?_
      rw [appends_customize, pure_bind, write_of_ofSteps closing]
      obtain ⟨method, arguments⟩ := supply
      simp [openingCode, callsCode_append]

/-- A registration is written from its templates as it is from its statement, after any code, and where it
fails it leaves the same behind. -/
theorem registration_eq (plan : BeanPlan) (code : Code) :
    registration f beanName d plan code =
      { writeRegistration f beanName d plan with
        code := code ++ (writeRegistration f beanName d plan).code } := by
  cases created : plan.creator with
  | none =>
    rw [registration, writeOpening_uncreated created]
    simp [writeRegistration, requireCreator, created, bind, Except.bind]
  | some creator =>
    obtain ⟨supply, supplied⟩ := supplierCall_total f d plan creator
    have required : requireCreator beanName plan = .ok creator := by rw [requireCreator, created]
    have nested : innerCode f beanName (planDepth plan) 1 =
        fun d => Expression.code <$> innerChain f beanName (planDepth plan) 1 d :=
      funext (innerCode_eq _ 1)
    have customizing := customizerCodes_eq stops_writing (innerChain f beanName (planDepth plan) 1)
      (customizerParameter 0) d plan.properties
    have closing : Code.ofSteps? [.add ".register(context);\n$<$<" []] =
        some (Code.text ".register(context);\n" ++ Code.unindent ++ Code.unindent) := by simp
    have finished : finishRegistration f beanName d plan
        (code ++ openingCode beanName plan creator supply false) =
        (fun s => code ++ s.code) <$> Registration.registration f beanName d plan creator supply := by
      simp only [finishRegistration, Registration.registration, nested, customizing, map_bind,
        bind_map_left, map_pure]
      refine bind_congr fun _ => bind_congr fun es => ?_
      rw [appends_customize, pure_bind, write_of_ofSteps closing]
      obtain ⟨method, arguments⟩ := supply
      simp [openingCode, openChainCode, callsCode_append, contextName]
    rw [registration, writeOpening_eq created supplied false code]
    simp only [finished, writeRegistration, required, supplied, bind, Except.bind, pure, Except.pure,
      ExceptT.run_map, StateT.run_map]
    cases result : (Registration.registration f beanName d plan creator supply).run.run {} with
    | mk outcome progress =>
      cases outcome with
      | ok statement => rfl
      | error failure => rfl

end

end Prewire.Templates
