import Prewire.Proofs.Pass.Trace
import Prewire.Proofs.Registration.Access

/-! Access from the class that describes the listeners. Its package is chosen by the classes and the
methods of the listeners alone, while the routine also names the types of what they listen to, so these
decide whether the routine may stand there. -/
namespace Prewire.Pass

open Java Types Beans Output Registration Target

/-- The classes that a listener is described by: that of its bean, and those of the erased types by
which its method is found. -/
def Listener.classes (l : Listener) : List ClassName :=
  l.beanClass :: l.method.parameterTypes.flatMap (·.erasure.classes)

/-- The classes that every description of listeners relies on. -/
def descriptionClasses : List ClassName := [Known.list, Known.listenerMetadata]

theorem classes_description (l : Listener) :
    l.description.code.classes = Known.listenerMetadata :: l.classes := by
  simp [Listener.description, Listener.classes, classes_parameterTypeExpressions]

/-- The routine names the classes of the listeners, and those that it relies on. -/
theorem mem_classes_listenersRoutine {routine : String} {listeners : List Listener} {c : ClassName} :
    c ∈ (listenersRoutine routine listeners).classes ↔
      c ∈ descriptionClasses ∨ ∃ l ∈ listeners, c ∈ l.classes := by
  have body : (listenersRoutine routine listeners).body.classes =
      Known.list :: listeners.flatMap fun l => Known.listenerMetadata :: l.classes := by
    simp [listenersRoutine, classesOfCode, List.flatMap_map, classes_description]
  have signature : (listenersRoutine routine listeners).classes =
      descriptionClasses ++ (listenersRoutine routine listeners).body.classes := by
    simp [Method.classes, listenersRoutine, JavaType.classes, JavaType.classesOfAll, JavaType.ofClass,
      descriptionClasses]
  rw [signature, body]
  simp only [descriptionClasses, List.mem_append, List.mem_cons, List.mem_flatMap, List.not_mem_nil,
    or_false]
  grind

section
variable {f : BeanFactory} {t after : Target} {listeners : List Listener} {host : Option String}

theorem mem_listenerPackages {r : Registry} {l : Listener} (listed : l ∈ listeners)
    (restricted : l.isOpen r = false) : l.beanClass.package ∈ listenerPackages r listeners := by
  rw [listenerPackages, List.mem_eraseDups, List.mem_mergeSort]
  exact List.mem_map_of_mem (List.mem_filter.mpr ⟨listed, by simp [restricted]⟩)

/-- The class of a listener is in reach: it is open to all, or its package is the one that is chosen. -/
theorem reachable_beanClass {r : Registry} (routed : listenerPackages r listeners = host.toList)
    {l : Listener} (listed : l ∈ listeners) (main : String) :
    Reachable r (host.getD main) l.beanClass := by
  cases access : l.isOpen r with
  | true =>
    rw [Listener.isOpen, Bool.and_eq_true] at access
    exact .inl access.1
  | false =>
    have chosen := mem_listenerPackages listed access
    rw [routed, Option.mem_toList] at chosen
    obtain rfl := chosen
    exact .inr rfl

/-- What is written for some listeners, and for which package. -/
theorem writeListeners_routed (written : writeListeners f t = (.ok (), after))
    (listening : Listener.all f ≠ []) :
    ∃ host : Option String, listenerPackages f.registry (Listener.all f) = host.toList ∧
      after = writeListenersIn (host.getD t.classes.mainPackage) (Listener.all f) t := by
  rw [writeListeners, routeListeners.eq_def] at written
  split at written
  · next none => exact absurd none listening
  split at written
  · next anywhere =>
    obtain ⟨-, rfl⟩ := Prod.mk.inj written
    exact ⟨none, anywhere, rfl⟩
  · next package only =>
    obtain ⟨-, rfl⟩ := Prod.mk.inj written
    exact ⟨some package, only, rfl⟩
  · simp at written

/-- The routine stands in the class of the package, and the main routine hands its result on. -/
theorem exists_routine_writeListenersIn (package : String) (listeners : List Listener) (t : Target) :
    let after := writeListenersIn package listeners t
    ∃ routine, listenersRoutine routine listeners ∈ (after.classes.classFor package).methods ∧
      after.code = t.code ++
        (registrarStatement (after.classes.classFor package).name routine).code := by
  intro after
  obtain ⟨classes, code, -⟩ := parts_writeListenersIn package listeners t
  refine ⟨(t.reserve package "getEventListenersMetadata").1, ?_, ?_⟩
  · rw [classes]
    exact mem_addMethod _ package _
  · rw [code, code_addRoutine, classes]

/-- A routine for listeners is written to the only package with listeners that are not open, or else to
the main class. It names their classes, which are in reach there, and the erased types of the parameters
of their methods, so that it may stand there exactly if these types are in reach as well. -/
theorem listeners_reachable_iff (written : writeListeners f t = (.ok (), after))
    (listening : Listener.all f ≠ []) :
    ∃ (host : Option String) (package routine : String),
      listenerPackages f.registry (Listener.all f) = host.toList ∧
      package = host.getD t.classes.mainPackage ∧
      (after.classes.classFor package).name.package = package ∧
      listenersRoutine routine (Listener.all f) ∈ (after.classes.classFor package).methods ∧
      after.code = t.code ++
        (registrarStatement (after.classes.classFor package).name routine).code ∧
      (∀ c, c ∈ (listenersRoutine routine (Listener.all f)).classes ↔
        c ∈ descriptionClasses ∨ ∃ l ∈ Listener.all f, c ∈ l.classes) ∧
      ((∀ l ∈ Listener.all f, ∀ c ∈ l.classes, Reachable f.registry package c) ↔
        ∀ l ∈ Listener.all f, ∀ type ∈ l.method.parameterTypes, ∀ c ∈ type.erasure.classes,
          Reachable f.registry package c) := by
  obtain ⟨host, routed, rfl⟩ := writeListeners_routed written listening
  obtain ⟨routine, present, called⟩ :=
    exists_routine_writeListenersIn (host.getD t.classes.mainPackage) (Listener.all f) t
  refine ⟨host, _, routine, routed, rfl, Classes.package_classFor _, present, called,
    fun c => mem_classes_listenersRoutine, ?_⟩
  constructor
  · intro reachable l listed type parameter c named
    apply reachable l listed
    exact List.mem_cons_of_mem _ (List.mem_flatMap.mpr ⟨type, parameter, named⟩)
  · intro parameters l listed c named
    rcases List.mem_cons.mp named with rfl | named
    · exact reachable_beanClass routed listed _
    · obtain ⟨type, parameter, named⟩ := List.mem_flatMap.mp named
      exact parameters l listed type parameter c named

end

namespace ListenerAccessSample

def service : ClassName := ⟨"com.example", ["Service"]⟩
def event : ClassName := ⟨"com.example", ["Internal"]⟩

def onEvent (visibility : Visibility) : Executable where
  declaringClass := service
  kind := .method "onEvent" none false
  parameters := [{ name := "event", type := .ofClass event }]
  visibility := visibility
  annotations := [{ type := Known.eventListener }]

def container (visibility : Visibility) : BeanFactory where
  registry := ⟨[{ name := service, methods := [onEvent visibility] },
    { name := event, visibility := .packageAccess }]⟩
  definitions := [("service", { BeanDefinition.blank with beanClass := some service })]

def listener (visibility : Visibility) : Listener := ⟨"service", service, onEvent visibility⟩

def target : Target := { classes := .named "com.example.boot" "Bootstrap" }

def written (visibility : Visibility) : Except Failure Unit × Target :=
  writeListeners (container visibility) target

theorem succeeds (visibility : Visibility) :
    written visibility = (.ok (), (written visibility).2) := by
  have complete : (written visibility).1 = .ok () := by cases visibility <;> decide +kernel
  exact Prod.ext complete rfl

theorem all_eq (visibility : Visibility) :
    Listener.all (container visibility) = [listener visibility] := by
  cases visibility <;> decide +kernel

end ListenerAccessSample

open ListenerAccessSample in
/-- A method that is not public takes the routine to the package that also sees the class of the event. -/
theorem listeners_reachable_sample :
    written .packageAccess = (.ok (), (written .packageAccess).2) ∧
    ∃ package routine,
      listenersRoutine routine [listener .packageAccess] ∈
        ((written .packageAccess).2.classes.classFor package).methods ∧
      ∀ c ∈ (listener .packageAccess).classes,
        Reachable (container .packageAccess).registry package c := by
  have routed : listenerPackages (container .packageAccess).registry [listener .packageAccess] =
      ["com.example"] := by decide +kernel
  obtain ⟨host, package, routine, hosted, rfl, -, present, -, -, reachable⟩ :=
    listeners_reachable_iff (succeeds .packageAccess) (by simp [all_eq])
  rw [all_eq] at hosted present reachable
  obtain rfl : host = some "com.example" := by
    cases host <;> simp_all
  refine ⟨succeeds .packageAccess, _, routine, present, reachable.mpr ?_ _ List.mem_cons_self⟩
  decide +kernel

open ListenerAccessSample in
/-- A public method of a public class is described in the main class, which does not see the class of
the event. -/
theorem listeners_not_reachable :
    ∃ after routine, written .publicAccess = (.ok (), after) ∧
      listenersRoutine routine [listener .publicAccess] ∈ after.classes.main.methods ∧
      event ∈ (listenersRoutine routine [listener .publicAccess]).classes ∧
      event ∈ (listener .publicAccess).method.parameterTypes.flatMap (·.erasure.classes) ∧
      ¬ Reachable (container .publicAccess).registry after.classes.mainPackage event := by
  have anywhere : listenerPackages (container .publicAccess).registry [listener .publicAccess] = [] := by
    decide +kernel
  have main : (written .publicAccess).2.classes.mainPackage = target.classes.mainPackage := by
    decide +kernel
  obtain ⟨host, hosted, reached⟩ := writeListeners_routed (succeeds .publicAccess) (by simp [all_eq])
  obtain ⟨routine, present, -⟩ := exists_routine_writeListenersIn (host.getD target.classes.mainPackage)
    (Listener.all (container .publicAccess)) target
  rw [← reached, all_eq] at present
  obtain rfl : host = none := by
    rw [all_eq, anywhere] at hosted
    simpa using hosted.symm
  rw [Option.getD_none, ← main, Classes.classFor_main] at present
  refine ⟨_, routine, succeeds .publicAccess, present, ?_, by decide, ?_⟩
  · exact mem_classes_listenersRoutine.mpr (.inr ⟨_, List.mem_cons_self, by decide⟩)
  · rw [main]
    decide +kernel

end Prewire.Pass
