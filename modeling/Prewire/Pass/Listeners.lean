import Prewire.Registration.Routing

/-! Methods of beans that listen to events. One routine describes them all, and a registrar that is
given its result is registered as a bean. -/
namespace Prewire.Pass

open Java Types Beans Output Registration

structure Listener where
  beanName : String
  beanClass : ClassName
  method : Executable
  deriving DecidableEq, Repr

namespace Listener

/-- An annotation marks listeners itself, or its own annotations do. -/
def marks (r : Registry) (a : Annotation) : Bool :=
  Known.isNamed Known.eventListener a.type
    || (r.get? a.type).any fun d => (marker? d.annotations Known.eventListener).isSome

def isListening (r : Registry) (m : Executable) : Bool := m.annotations.any (marks r)

/-- The class in which the listening methods of a bean are looked up. -/
def hostClass? (f : BeanFactory) (d : BeanDefinition) : Option ClassName :=
  if d.isAbstract then none else (f.definitionType? d).bind JavaType.rawClass?

def ofDefinition (f : BeanFactory) (beanName : String) (d : BeanDefinition) : List Listener :=
  match hostClass? f d with
  | none => []
  | some name =>
    ((f.registry.methodsOf name).filter (isListening f.registry)).map (⟨beanName, name, ·⟩)

def all (f : BeanFactory) : List Listener :=
  f.definitions.flatMap fun (beanName, d) => ofDefinition f beanName d

/-- Whether any package may call the method. -/
def isOpen (r : Registry) (l : Listener) : Bool :=
  r.isAccessible l.beanClass && l.method.visibility.isPublic

def description (l : Listener) : Expression :=
  .chain (.typeName (.ofClass Known.listenerMetadata))
    [⟨"forBean", [.string l.beanName, .classOf l.beanClass]⟩,
      ⟨"annotatedMethod",
        .string (injectedMethodName l.method) :: parameterTypeExpressions l.method⟩]

end Listener

/-- The packages of listeners that are not open to all. -/
def listenerPackages (r : Registry) (listeners : List Listener) : List String :=
  (((listeners.filter fun l => !l.isOpen r).map (·.beanClass.package)).mergeSort).eraseDups

def listenersRoutine (name : String) (listeners : List Listener) : Method where
  name := name
  modifiers := [.publicMark, .staticMark]
  returns := some (.classType Known.list [.ofClass Known.listenerMetadata])
  body := (Statement.giveBackListed (.ofClass Known.list) "of"
    (listeners.map Listener.description)).code

def registrarStatement (owner : ClassName) (routine : String) : Statement :=
  .expression (.call (.name contextName) "registerBean"
    [.string Known.listenerRegistrarBean, .classOf Known.listenerRegistrar,
      .lambda [] (.create (.ofClass Known.listenerRegistrar)
        [.name contextName, .staticCall owner routine []])])

def writeListenersIn (package : String) (listeners : List Listener) (t : Target) : Target :=
  let (routine, t) := t.reserve package "getEventListenersMetadata"
  let t := t.modifyClass package (·.addMethod (listenersRoutine routine listeners))
  let call := registrarStatement (t.classes.classFor package).name routine
  let reflection := listeners.foldl (fun acc l => acc.addExecutable l.method) t.reflection
  { t.append call.code with reflection := reflection }.report
    [.listenersWritten listeners.length package]

/-- Writes the registration of the listeners, if there are any: into the main class, or into that of
the only package with listeners that are not open. -/
def routeListeners (f : BeanFactory)
    (writeIn : String → List Listener → Target → Except Failure Unit × Target) (t : Target) :
    Except Failure Unit × Target :=
  match Listener.all f with
  | [] => (.ok (), t)
  | listeners =>
    match listenerPackages f.registry listeners with
    | [] => writeIn t.classes.mainPackage listeners t
    | [package] => writeIn package listeners t
    | packages => (.error (.conflictingPackageAccess Known.listenerRegistrarBean packages), t)

def writeListeners (f : BeanFactory) (t : Target) : Except Failure Unit × Target :=
  routeListeners f (fun package listeners t => (.ok (), writeListenersIn package listeners t)) t

end Prewire.Pass
