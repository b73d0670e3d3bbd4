import Prewire.Proofs.Pass.Beans
import Prewire.Proofs.Templates.Registration

/-! A whole pass from templates. It does what a pass does, so that no template of it fails to fit its
arguments. -/
namespace Prewire.Templates

open Java Types Beans Plan Output Registration Pass

/-- A pass goes on with the code, unless a template does not fit. -/
def appendCode (steps : List CodeStep) (t : Target) : Except Failure Unit × Target :=
  match (write steps t.code : Except Failure Code) with
  | .error failure => (.error failure, t)
  | .ok code => (.ok (), { t with code := code })

def registerInMain (f : BeanFactory) (beanName : String) (d : BeanDefinition) (plan : BeanPlan)
    (t : Target) : Except Failure Unit × Target :=
  let written := registration f beanName d plan t.code
  (written.outcome, adopt { t with code := written.code } written)

def registerInPackage (f : BeanFactory) (beanName : String) (d : BeanDefinition) (plan : BeanPlan)
    (package : String) (t : Target) : Except Failure Unit × Target :=
  let (routine, t) := t.reserve package (routineName plan)
  let written := registration f beanName d plan .empty
  match written.outcome with
  | .error failure => (.error failure, adopt t written)
  | .ok () =>
    let t := t.modifyClass package (·.addMethod (contextRoutine routine written.code))
    let owner := (t.classes.classFor package).name
    let (outcome, t) := appendCode
      [.statement "$T.$N(context)" [.type (.ofClass owner), .text routine]] t
    (outcome, adopt t written)

def register (f : BeanFactory) (beanName : String) (d : BeanDefinition) (plan : BeanPlan) (t : Target) :
    Except Failure Unit × Target :=
  route f.registry beanName plan (registerInMain f beanName d plan)
    (registerInPackage f beanName d plan) t

def fromTemplates (f : BeanFactory) : Customs := fun beanName d =>
  match BeanPlan.ofDefinition f d with
  | .ok (some plan) => some
    { userClass := plan.userClass
      write := fun t => register f beanName d plan (t.report (detectionNotices d (detect f d))) }
  | _ => none

def descriptionCode (l : Listener) : Except Failure Code := do
  let name : Argument := .text (injectedMethodName l.method)
  let types ← parameterTypesCode l.method
  write
    [.add "$T.forBean($S, $T.class)"
        [.type (.ofClass Known.listenerMetadata), .text l.beanName, .type (.ofClass l.beanClass)],
      if types.isEmpty then .add ".annotatedMethod($S)" [name]
      else .add ".annotatedMethod($S, $L)" [name, .code types]] .empty

def listenersCode (listeners : List Listener) : Except Failure Code := do
  let entries ← listeners.mapM descriptionCode
  write [.add "return $T.of(\n$>$L\n$<)" [.type (.ofClass Known.list), .code (Code.join ",\n" entries)],
    .add ";\n" []] .empty

def writeListenersIn (package : String) (listeners : List Listener) (t : Target) :
    Except Failure Unit × Target :=
  match listenersCode listeners with
  | .error failure => (.error failure, t)
  | .ok body =>
    let (routine, t) := t.reserve package "getEventListenersMetadata"
    let t := t.modifyClass package (·.addMethod { listenersRoutine routine listeners with body := body })
    let (outcome, t) := appendCode
      [.statement "context.registerBean($S, $T.class, () -> new $T(context, $T.$N()))"
        [.text Known.listenerRegistrarBean, .type (.ofClass Known.listenerRegistrar),
          .type (.ofClass Known.listenerRegistrar), .type (.ofClass (t.classes.classFor package).name),
          .text routine]] t
    let reflection := listeners.foldl (fun acc l => acc.addExecutable l.method) t.reflection
    (outcome, { t with reflection := reflection }.report [.listenersWritten listeners.length package])

def writeListeners (f : BeanFactory) (t : Target) : Except Failure Unit × Target :=
  routeListeners f writeListenersIn t

def propertyStep (key value : String) : CodeStep :=
  .statement "$T.setProperty($S, $S)" [.type (.ofClass Known.system), .text key, .text value]

def onDemandSteps (asked : Bool) (steps : List CodeStep) : List CodeStep := if asked then steps else []

def toggleSteps (o : Options) : List CodeStep :=
  onDemandSteps o.removesYaml [propertyStep "spring.native.remove-yaml-support" "true"]
    ++ onDemandSteps o.removesXml [propertyStep "spring.xml.ignore" "true"]
    ++ onDemandSteps o.removesSpel [propertyStep "spring.spel.ignore" "true"]
    ++ onDemandSteps o.forcesNativePath
      [.beginBlock "if (!$T.inNativeImage())" [.type (.ofClass Known.nativeDetector)],
        propertyStep "org.graalvm.nativeimage.imagecode" "runtime", .endBlock]
    ++ onDemandSteps o.detectsHibernate
      [.beginBlock "if ($T.isPresent($S, null))"
          [.type (.ofClass Known.classUtils), .text "org.hibernate.Session"],
        propertyStep "hibernate.bytecode.provider" "none", .endBlock]

def infrastructureSteps : List CodeStep :=
  [.add "// infrastructure\n" [],
    .statement "$T beanFactory = context.getDefaultListableBeanFactory()"
      [.type (.ofClass Known.listableBeanFactory)],
    .statement "beanFactory.setAutowireCandidateResolver(new $T())"
      [.type (.ofClass Known.candidateResolver)]]

def start (o : Options) : Except Failure Target := do
  let staticBlock ← write (toggleSteps o) .empty
  let code ← write infrastructureSteps .empty
  let classes := Classes.named o.bootstrapPackage o.className
  let main := (classes.main.reserve mainRoutine).2
  return { classes := classes.put { main with staticBlock := staticBlock }, code := code }

def run (o : Options) (f : BeanFactory) : Except Failure Unit × Target :=
  match start o with
  | .error failure => (.error failure, { classes := .named o.bootstrapPackage o.className })
  | .ok t =>
    match writeBeans o (fromTemplates f) f f.definitions t with
    | (.error failure, t) => (.error failure, t)
    | (.ok beans, t) =>
      match writeListeners f t with
      | (.error failure, t) => (.error failure, t)
      | (.ok (), t) => (.ok (), finish beans t)

section
variable (o : Options) (f : BeanFactory) (beanName : String) (d : BeanDefinition) (t : Target)

theorem appendCode_eq {steps : List CodeStep} {added : Code} (fits : Code.ofSteps? steps = some added) :
    appendCode steps t = (.ok (), t.append added) := by
  rw [appendCode, write_of_ofSteps fits]
  rfl

theorem registerInMain_eq (plan : BeanPlan) :
    registerInMain f beanName d plan t = Registration.registerInMain f beanName d plan t := by
  rw [registerInMain, registration_eq]
  rfl

theorem registerInPackage_eq (plan : BeanPlan) (package : String) :
    registerInPackage f beanName d plan package t =
      Registration.registerInPackage f beanName d plan package t := by
  have call (owner : ClassName) (routine : String) :
      Code.ofSteps? [.statement "$T.$N(context)" [.type (.ofClass owner), .text routine]] =
        some (routineCall owner routine).code := by simp [routineCall]
  simp only [registerInPackage, registration_eq, Code.empty_append, appendCode_eq _ (call _ _)]
  rfl

theorem register_eq (plan : BeanPlan) :
    register f beanName d plan t = Registration.register f beanName d plan t := by
  have inMain : registerInMain f beanName d plan = Registration.registerInMain f beanName d plan :=
    funext fun t => registerInMain_eq f beanName d t plan
  have inPackage : registerInPackage f beanName d plan =
      Registration.registerInPackage f beanName d plan :=
    funext fun package => funext fun t => registerInPackage_eq f beanName d t plan package
  rw [register, inMain, inPackage, Registration.register]

theorem writeOrSkip_eq :
    writeOrSkip o (fromTemplates f) f beanName d t = writeOrSkip o noCustoms f beanName d t := by
  rw [writeOrSkip, writeOrSkip]
  split
  · rfl
  split
  · rfl
  simp only [noCustoms, writePlanned, planBean, fromTemplates]
  cases BeanPlan.ofDefinition f d with
  | error failure => rfl
  | ok planned =>
    cases planned with
    | none => rfl
    | some plan =>
      simp only [register_eq]

theorem writeBeans_eq (definitions : List (String × BeanDefinition)) :
    writeBeans o (fromTemplates f) f definitions t = writeBeans o noCustoms f definitions t := by
  induction definitions generalizing t with
  | nil => rfl
  | cons named rest ih =>
    obtain ⟨beanName, d⟩ := named
    simp only [writeBeans, writeBean, writeOrSkip_eq, ih]

theorem descriptionCode_eq (l : Listener) : descriptionCode l = .ok l.description.code := by
  have call : Code.ofSteps? [.add "$T.forBean($S, $T.class)"
        [.type (.ofClass Known.listenerMetadata), .text l.beanName, .type (.ofClass l.beanClass)],
      if l.method.parameters.isEmpty then .add ".annotatedMethod($S)" [.text (injectedMethodName l.method)]
      else .add ".annotatedMethod($S, $L)" [.text (injectedMethodName l.method),
        .code (argumentsCode ", " (parameterTypeExpressions l.method))]] = some l.description.code := by
    cases bare : l.method.parameters with
    | nil => simp [Listener.description, parameterTypes_nil bare]
    | cons p rest => simp [Listener.description, restCode_parameterTypes bare]
  rw [descriptionCode, parameterTypesCode_eq, pure_bind, isEmpty_parameterTypes, write_of_ofSteps call]
  rfl

theorem listenersCode_eq (name : String) (listeners : List Listener) :
    listenersCode listeners = .ok (listenersRoutine name listeners).body := by
  have each : descriptionCode = fun l => pure l.description.code := funext descriptionCode_eq
  have codes : listeners.map (fun l => l.description.code) =
      (listeners.map Listener.description).map Expression.code := by simp
  have body : Code.ofSteps? [.add "return $T.of(\n$>$L\n$<)" [.type (.ofClass Known.list),
      .code (argumentsCode ",\n" (listeners.map Listener.description))], .add ";\n" []] =
      some (listenersRoutine name listeners).body := by simp [listenersRoutine]
  rw [listenersCode, each, List.mapM_pure, pure_bind, codes, join_codes, write_of_ofSteps body]
  rfl

theorem writeListenersIn_eq (package : String) (listeners : List Listener) :
    writeListenersIn package listeners t = (.ok (), Pass.writeListenersIn package listeners t) := by
  have call (owner : ClassName) (routine : String) : Code.ofSteps?
      [.statement "context.registerBean($S, $T.class, () -> new $T(context, $T.$N()))"
        [.text Known.listenerRegistrarBean, .type (.ofClass Known.listenerRegistrar),
          .type (.ofClass Known.listenerRegistrar), .type (.ofClass owner), .text routine]] =
      some (registrarStatement owner routine).code := by simp [registrarStatement, parameterList]
  simp only [writeListenersIn, listenersCode_eq "" listeners, appendCode_eq _ (call _ _)]
  rfl

theorem writeListeners_eq : writeListeners f t = Pass.writeListeners f t := by
  have writeIn : writeListenersIn = fun package listeners t =>
      (.ok (), Pass.writeListenersIn package listeners t) :=
    funext fun package => funext fun listeners => funext fun t => writeListenersIn_eq t package listeners
  rw [writeListeners, writeIn, Pass.writeListeners]

theorem ofSteps_toggles : Code.ofSteps? (toggleSteps o) = some (statementsCode (toggles o)) := by
  have onDemand {steps : List CodeStep} {statement : Statement}
      (fits : Code.ofSteps? steps = some statement.code) (asked : Bool) :
      Code.ofSteps? (onDemandSteps asked steps) = some (statementsCode (onDemand asked statement)) := by
    cases asked <;> simp [onDemandSteps, onDemand, fits]
  have property (key value : String) :
      Code.ofSteps? [propertyStep key value] = some (setProperty key value).code := by
    simp [propertyStep, setProperty]
  have forced : Code.ofSteps?
      [.beginBlock "if (!$T.inNativeImage())" [.type (.ofClass Known.nativeDetector)],
        propertyStep "org.graalvm.nativeimage.imagecode" "runtime", .endBlock] =
      some forceNativePath.code := by
    simp [propertyStep, setProperty, forceNativePath]
  have disabled : Code.ofSteps?
      [.beginBlock "if ($T.isPresent($S, null))"
          [.type (.ofClass Known.classUtils), .text "org.hibernate.Session"],
        propertyStep "hibernate.bytecode.provider" "none", .endBlock] =
      some disableHibernateBytecode.code := by
    simp [propertyStep, setProperty, disableHibernateBytecode]
  rw [toggleSteps, toggles]
  simp only [statementsCode_append]
  have yaml := onDemand (property "spring.native.remove-yaml-support" "true") o.removesYaml
  have xml := onDemand (property "spring.xml.ignore" "true") o.removesXml
  have spel := onDemand (property "spring.spel.ignore" "true") o.removesSpel
  have beforeBlocks := Code.ofSteps_append (Code.ofSteps_append yaml xml) spel
  exact Code.ofSteps_append (Code.ofSteps_append beforeBlocks (onDemand forced o.forcesNativePath))
    (onDemand disabled o.detectsHibernate)

theorem start_eq : start o = .ok (Pass.start o) := by
  have steps : Code.ofSteps? infrastructureSteps = some (statementsCode infrastructure) := by
    simp [infrastructureSteps, infrastructure]
  rw [start, write_of_ofSteps (ofSteps_toggles o), pure_bind, write_of_ofSteps steps, pure_bind]
  simp only [Code.empty_append]
  rfl

theorem run_eq : run o f = Pass.run o noCustoms f := by
  rw [run, start_eq]
  simp only [writeBeans_eq, writeListeners_eq]
  rfl

end
end Prewire.Templates
