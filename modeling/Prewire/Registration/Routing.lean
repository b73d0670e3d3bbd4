import Prewire.Registration.Access
import Prewire.Registration.Chain
import Prewire.Output.Target

/-! Where the registration of a bean is written: in the main routine, or, when it touches elements
of another package that are not public, in a routine of its own in a class of that package. -/
namespace Prewire.Registration

open Java Types Beans Plan Output

/-- A routine is named for what creates the bean. -/
def routineName (plan : BeanPlan) : String :=
  "register" ++ match plan.creator.map Creator.executable with
    | some e =>
      match e.methodName? with
      | some method => e.declaringClass.simpleName ++ "_" ++ method
      | none => "_".intercalate e.declaringClass.simpleNames
    | none => "_".intercalate plan.userClass.simpleNames

def contextRoutine (name : String) (body : Code) : Method where
  name := name
  modifiers := [.publicMark, .staticMark]
  parameters := [(.ofClass Known.applicationContext, contextName)]
  body := body

def routineCall (owner : ClassName) (routine : String) : Statement :=
  .expression (.staticCall owner routine [.name contextName])

/-- Adopts what writing left, the reflection only when it succeeded. -/
def adopt (t : Target) (written : Written) : Target :=
  let t := t.report written.progress.notices
  match written.outcome with
  | .ok () => { t with reflection := t.reflection.merge written.progress.reflection }
  | .error _ => t

def registerInMain (f : BeanFactory) (beanName : String) (d : BeanDefinition) (plan : BeanPlan)
    (t : Target) : Except Failure Unit × Target :=
  let written := writeRegistration f beanName d plan
  (written.outcome, adopt (t.append written.code) written)

/-- Writes a registration into a routine of its own. The name of the routine stays taken when that
fails. -/
def registerInPackage (f : BeanFactory) (beanName : String) (d : BeanDefinition) (plan : BeanPlan)
    (package : String) (t : Target) : Except Failure Unit × Target :=
  let (routine, t) := t.reserve package (routineName plan)
  let written := writeRegistration f beanName d plan
  match written.outcome with
  | .error failure => (.error failure, adopt t written)
  | .ok () =>
    let t := t.modifyClass package (·.addMethod (contextRoutine routine written.code))
    let call := routineCall (t.classes.classFor package).name routine
    (.ok (), adopt (t.append call.code) written)

/-- Writes a registration where the package of its plan asks for it. -/
def route (r : Registry) (beanName : String) (plan : BeanPlan)
    (inMain : Target → Except Failure Unit × Target)
    (inPackage : String → Target → Except Failure Unit × Target) (t : Target) :
    Except Failure Unit × Target :=
  match hostPackage r beanName plan with
  | .error failure => (.error failure, t)
  | .ok host =>
    let package := host.filter (· ≠ t.classes.mainPackage)
    let (outcome, t) := match package with
      | some package => inPackage package t
      | none => inMain t
    match outcome with
    | .ok () => (.ok (), t.report [.registrationWritten beanName package])
    | .error failure => (.error failure, t)

def register (f : BeanFactory) (beanName : String) (d : BeanDefinition) (plan : BeanPlan)
    (t : Target) : Except Failure Unit × Target :=
  route f.registry beanName plan (registerInMain f beanName d plan)
    (registerInPackage f beanName d plan) t

end Prewire.Registration
