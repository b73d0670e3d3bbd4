import Prewire.Pass.Listeners
import Prewire.Pass.Toggles

/-! A whole pass: the main class is given a routine that registers every bean in the order of the
definitions and then the listeners. The pass stops at the first bean that cannot be written. -/
namespace Prewire.Pass

open Java Types Beans Plan Output Registration

/-- Another way to register a bean than from its plan. -/
structure CustomWriter where
  /-- The class of the bean. -/
  userClass : ClassName
  write : Target → Except Failure Unit × Target

/-- The beans that are written in a way of their own. -/
abbrev Customs := String → BeanDefinition → Option CustomWriter

def mainRoutine : String := "initialize"

def infrastructure : List Statement :=
  [.comment "infrastructure",
    .declare (.ofClass Known.listableBeanFactory) "beanFactory"
      (.call (.name contextName) "getDefaultListableBeanFactory" []),
    .expression (.call (.name "beanFactory") "setAutowireCandidateResolver"
      [.create (.ofClass Known.candidateResolver) []])]

def start (o : Options) : Target :=
  let classes := Classes.named o.bootstrapPackage o.className
  let main := (classes.main.reserve mainRoutine).2
  { classes := classes.put { main with staticBlock := statementsCode (toggles o) }
    code := statementsCode infrastructure }

def isExcluded (o : Options) (f : BeanFactory) (d : BeanDefinition) : Bool :=
  ((f.definitionType? d).bind JavaType.rawClass?).any fun name => o.isExcluded name.canonicalName

/-- Configuration classes stay reachable by reflection. -/
def recordConfiguration (r : Registry) (userClass : ClassName) (t : Target) : Target :=
  if (r.get? userClass).any (·.isAnnotated Known.configuration)
  then { t with reflection := t.reflection.addType userClass } else t

inductive BeanOutcome where
  | written (userClass : ClassName)
  | skipped (reason : String)
  deriving DecidableEq, Repr

def planBean (f : BeanFactory) (d : BeanDefinition) (t : Target) :
    Except Failure (Option BeanPlan) × Target :=
  (BeanPlan.ofDefinition f d, t.report (detectionNotices d (detect f d)))

/-- Writes a bean from its plan, which is not there when nothing creates the bean. -/
def writePlanned (f : BeanFactory) (beanName : String) (d : BeanDefinition) (t : Target) :
    Except Failure BeanOutcome × Target :=
  match planBean f d t with
  | (.error failure, t) => (.error failure, t)
  | (.ok none, t) => (.ok (.skipped "no instance creator"), t)
  | (.ok (some plan), t) =>
    let (outcome, t) := register f beanName d plan t
    (outcome.map fun _ => .written plan.userClass, t)

def writeOrSkip (o : Options) (customs : Customs) (f : BeanFactory) (beanName : String)
    (d : BeanDefinition) (t : Target) : Except Failure BeanOutcome × Target :=
  if d.isAbstract then (.ok (.skipped "abstract definition"), t)
  else if isExcluded o f d then (.ok (.skipped "excluded type"), t)
  else match customs beanName d with
    | some custom =>
      let (outcome, t) := custom.write t
      (outcome.map fun _ => .written custom.userClass, t)
    | none => writePlanned f beanName d t

def writeBean (o : Options) (customs : Customs) (f : BeanFactory) (beanName : String)
    (d : BeanDefinition) (t : Target) : Except Failure Bool × Target :=
  match writeOrSkip o customs f beanName d t with
  | (.error failure, t) => (.error failure, t)
  | (.ok (.skipped reason), t) => (.ok false, t.report [.beanSkipped beanName reason])
  | (.ok (.written userClass), t) => (.ok true, recordConfiguration f.registry userClass t)

def writeBeans (o : Options) (customs : Customs) (f : BeanFactory) :
    List (String × BeanDefinition) → Target → Except Failure Nat × Target
  | [], t => (.ok 0, t)
  | (beanName, d) :: rest, t =>
    match writeBean o customs f beanName d t with
    | (.error failure, t) => (.error failure, t)
    | (.ok isWritten, t) =>
      let (count, t) := writeBeans o customs f rest t
      (count.map fun n => n + if isWritten then 1 else 0, t)

def initializer (code : Code) : Method where
  name := mainRoutine
  annotations := [Known.override]
  modifiers := [.publicMark]
  parameters := [(.ofClass Known.applicationContext, contextName)]
  body := code

def initializerInterface : JavaType :=
  .classType Known.contextInitializer [.ofClass Known.applicationContext]

/-- Puts the code of the pass into the main class, ahead of its other routines. -/
def finish (beans : Nat) (t : Target) : Target :=
  let main := { t.classes.main with interface := some initializerInterface }
  let t := { t with classes := t.classes.put (main.addMethodFirst (initializer t.code)) }
  t.report
    [.passCompleted beans t.classes.helpers.length t.reflection.entries.length]

/-- Writes all beans and listeners of a container. -/
def run (o : Options) (customs : Customs) (f : BeanFactory) : Except Failure Unit × Target :=
  match writeBeans o customs f f.definitions (start o) with
  | (.error failure, t) => (.error failure, t)
  | (.ok beans, t) =>
    match writeListeners f t with
    | (.error failure, t) => (.error failure, t)
    | (.ok (), t) => (.ok (), finish beans t)

end Prewire.Pass
