import Mathlib.Data.List.Basic
import Prewire.Proofs.Pass.Beans

/-! The listeners of a pass and the beans they are called on. Every definition that is not abstract is
searched for listeners, while a pass registers fewer of them. -/
namespace Prewire.Pass

open Java Types Beans Plan Output Registration Target

/-- A routine describes the listeners, and the main routine registers the registrar with it. -/
def IsDescribed (t : Target) (listeners : List Listener) : Prop :=
  ∃ package routine before after,
    listenersRoutine routine listeners ∈ (t.classes.classFor package).methods ∧
    t.code = before ++ (registrarStatement (t.classes.classFor package).name routine).code ++ after

section
variable {o : Options} {f : BeanFactory} {t after : Target} {listeners : List Listener}

theorem IsDescribed.mono (described : IsDescribed t listeners) (grows : Grows t after) :
    IsDescribed after listeners := by
  obtain ⟨package, routine, before, rest, present, called⟩ := described
  obtain ⟨added, appended⟩ := grows.code
  refine ⟨package, routine, before, rest ++ added, grows.methods _ _ present, ?_⟩
  rw [appended, called, grows.names, Code.append_assoc]

structure Describes (listeners : List Listener) (t after : Target) : Prop where
  grows : Grows t after
  silent : after.registrations = t.registrations
  described : listeners ≠ [] → IsDescribed after listeners

/-- A routine for the listeners, with its call. -/
theorem describes_addMethod (package routine : String) (listeners : List Listener) (t : Target)
    (reflection : Reflection) :
    let added := t.modifyClass package (·.addMethod (listenersRoutine routine listeners))
    let call := registrarStatement (added.classes.classFor package).name routine
    Describes listeners t ({ added.append call.code with reflection := reflection }.report
      [.listenersWritten listeners.length package]) := by
  intro added call
  have reports : Grows (added.append call.code)
      ({ added.append call.code with reflection := reflection }.report
        [.listenersWritten listeners.length package]) := .of_eq rfl rfl
  refine ⟨?_, ?_, fun _ => .mono ?_ reports⟩
  · exact (grows_addMethod t package _).trans ((grows_append added call.code).trans reports)
  · rw [registrations_report]
    have silent : added.registrations = t.registrations := registrations_modifyClass t package _
    exact (List.append_nil _).trans silent
  · refine ⟨package, routine, added.code, .empty, ?_, (Code.append_empty _).symm⟩
    exact mem_addMethod t package (listenersRoutine routine listeners)

theorem describes_writeListenersIn (package : String) (listeners : List Listener) (t : Target) :
    Describes listeners t (writeListenersIn package listeners t) := by
  rw [writeListenersIn]
  have grows := grows_reserve t package "getEventListenersMetadata"
  have silent := registrations_reserve t package "getEventListenersMetadata"
  generalize t.reserve package "getEventListenersMetadata" = reserve at grows silent ⊢
  obtain ⟨routine, reserved⟩ := reserve
  let added := reserved.modifyClass package (·.addMethod (listenersRoutine routine listeners))
  have adds := describes_addMethod package routine listeners reserved
    (listeners.foldl (fun acc l => acc.addExecutable l.method) added.reflection)
  exact ⟨grows.trans adds.grows, adds.silent.trans silent, adds.described⟩

theorem describes_writeListeners (written : writeListeners f t = (.ok (), after)) :
    Describes (Listener.all f) t after := by
  rw [writeListeners, routeListeners] at written
  split at written
  · next none =>
    obtain ⟨-, rfl⟩ := Prod.mk.inj written
    exact ⟨.refl t, rfl, fun some => absurd none some⟩
  · split at written
    · obtain ⟨-, rfl⟩ := Prod.mk.inj written
      exact describes_writeListenersIn _ _ t
    · obtain ⟨-, rfl⟩ := Prod.mk.inj written
      exact describes_writeListenersIn _ _ t
    · simp at written

/-- Putting the code of the pass into the main class keeps its other routines. -/
theorem grows_finish (beans : Nat) (t : Target) :
    Grows t (finish beans t) ∧ initializer t.code ∈ (finish beans t).classes.main.methods := by
  let main := ({ t.classes.main with interface := some initializerInterface } : OutputClass)
  let changed := main.addMethodFirst (initializer t.code)
  have own : changed.name.package = t.classes.mainPackage := rfl
  have named : changed.name = (t.classes.classFor changed.name.package).name := by
    rw [own, Classes.classFor_main]
    rfl
  have put : (finish beans t).classes = t.classes.put changed := rfl
  refine ⟨⟨⟨.empty, (Code.append_empty _).symm⟩, ?_, fun package => ?_, fun package m member => ?_⟩, ?_⟩
  · rw [put, Classes.mainPackage_put named]
  · rw [put, Classes.classFor_put named]
    split
    · next same => rw [same, ← named]
    · rfl
  · rw [put, Classes.classFor_put named]
    split
    · next same =>
      rw [same, own, Classes.classFor_main] at member
      exact List.mem_cons_of_mem _ member
    · exact member
  · have kept : (t.classes.put changed).main = changed := by rw [Classes.put, if_pos own]
    rw [put, kept]
    exact List.mem_cons_self

theorem registrations_finish (beans : Nat) (t : Target) :
    (finish beans t).registrations = t.registrations := by
  rw [finish, registrations_report]
  exact List.append_nil _

theorem run_eq_of_ok {customs : Customs} (complete : (run o customs f).1 = .ok ()) :
    run o customs f = (.ok (), (run o customs f).2) := by
  rw [← complete]

theorem IsDescribed.listed (described : IsDescribed t listeners) :
    ∃ c ∈ t.classes.all, ∃ routine before after, listenersRoutine routine listeners ∈ c.methods ∧
      t.code = before ++ (registrarStatement c.name routine).code ++ after := by
  obtain ⟨package, routine, before, after, present, called⟩ := described
  exact ⟨_, Classes.classFor_mem_all present, routine, before, after, present, called⟩

/-- In what a pass leaves behind, the main routine holds the code of the pass, a routine describes the
listeners, and the bean of a listener is registered exactly when the pass registers a definition of
its name. -/
theorem isRegistered_iff_of_run (complete : run o noCustoms f = (.ok (), t)) :
    initializer t.code ∈ t.classes.main.methods ∧
    (Listener.all f ≠ [] → ∃ c ∈ t.classes.all, ∃ routine before after,
      listenersRoutine routine (Listener.all f) ∈ c.methods ∧
      t.code = before ++ (registrarStatement c.name routine).code ++ after) ∧
    ∀ l ∈ Listener.all f, (∃ d, (l.beanName, d) ∈ f.definitions ∧ IsRegistered f t l.beanName d) ↔
      ∃ d, (l.beanName, d) ∈ f.definitions ∧ Registers o f d := by
  rw [run] at complete
  split at complete
  · simp at complete
  · next beans between written =>
    split at complete
    · simp at complete
    · next unfinished listed =>
      obtain ⟨-, rfl⟩ := Prod.mk.inj complete
      obtain ⟨finished, initialized⟩ := grows_finish beans unfinished
      have describes := describes_writeListeners listed
      have unreported : (start o).registrations = [] := rfl
      have started : Tracks o f [] (start o) := ⟨by simp, by simp [unreported]⟩
      have silent := (registrations_finish beans unfinished).trans describes.silent
      have tracks := (started.writeBeans written).mono (describes.grows.trans finished) silent
      refine ⟨initialized, fun some => ?_, fun l _ => ⟨?_, ?_⟩⟩
      · exact ((describes.described some).mono finished).listed
      · rintro ⟨d, -, plan, package, -, reported, -⟩
        exact tracks.only l.beanName package reported
      · rintro ⟨d, listed, registers⟩
        exact ⟨d, listed, tracks.present l.beanName d listed registers⟩

end

namespace ListenerSample

def beanClass : ClassName := ⟨"com.example", ["Service"]⟩

def listening : Executable where
  declaringClass := beanClass
  kind := .method "onEvent" none false
  annotations := [{ type := Known.eventListener }]

def constructor : Executable := { declaringClass := beanClass, kind := .constructor }

def definition : BeanDefinition := { BeanDefinition.blank with beanClass := some beanClass }

def listener : Listener := ⟨"service", beanClass, listening⟩

def container (isAbstract : Bool) : BeanFactory where
  registry := ⟨[{ name := beanClass, declaredAbstract := isAbstract
                  constructors := [constructor]
                  methods := [listening] }]⟩
  definitions := [("service", definition)]

def excluding : Options := { excludedTypes := ["com.example.Service"] }

end ListenerSample

open ListenerSample in
theorem isRegistered_listener : ∃ t, run {} noCustoms (container false) = (.ok (), t) ∧
    listener ∈ Listener.all (container false) ∧
    ∃ d, (listener.beanName, d) ∈ (container false).definitions ∧
      IsRegistered (container false) t listener.beanName d := by
  have succeeds : (run {} noCustoms (container false)).1 = .ok () := by decide +kernel
  have complete := run_eq_of_ok succeeds
  have found : listener ∈ Listener.all (container false) := by decide +kernel
  have created : detect (container false) definition = .ok (some constructor) := by decide +kernel
  have registers : Registers {} (container false) definition := ⟨rfl, by decide +kernel, _, created⟩
  exact ⟨_, complete, found,
    ((isRegistered_iff_of_run complete).2.2 listener found).mpr ⟨definition, by simp [container, listener], registers⟩⟩

open ListenerSample in
/-- A listener is described though the type of its bean is excluded, or nothing creates the bean. -/
theorem listener_not_registered :
    (∃ t, run excluding noCustoms (container false) = (.ok (), t) ∧
      listener ∈ Listener.all (container false) ∧
      ∀ d, ¬ IsRegistered (container false) t listener.beanName d) ∧
    (∃ t, run {} noCustoms (container true) = (.ok (), t) ∧
      listener ∈ Listener.all (container true) ∧
      ∀ d, ¬ IsRegistered (container true) t listener.beanName d) := by
  have unreported {f : BeanFactory} {t : Target} (none : t.registrations = []) (d : BeanDefinition) :
      ¬ IsRegistered f t listener.beanName d := by
    rintro ⟨plan, package, -, reported, -⟩
    simp [none] at reported
  refine ⟨⟨_, run_eq_of_ok ?_, ?_, unreported ?_⟩, ⟨_, run_eq_of_ok ?_, ?_, unreported ?_⟩⟩
  all_goals decide +kernel

end Prewire.Pass
