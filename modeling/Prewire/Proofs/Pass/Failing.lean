import Prewire.Pass.Listeners
import Prewire.Proofs.Output.Routines
import Prewire.Proofs.Registration.Literals
import Prewire.Proofs.Registration.Routing

/-! What a registration leaves behind when it fails. Reflection and the routines of all classes are as
before. Unless it fails ahead of all writing, though, the start of its chain stays in the main routine,
or the name of its routine stays taken in the class of its package. -/
namespace Prewire.Registration

open Java Types Beans Plan Output Target

/-- All that is written out is as before; only more may have been reported. -/
structure Unchanged (t after : Target) : Prop where
  code : after.code = t.code
  classes : after.classes = t.classes
  reflection : after.reflection = t.reflection

/-- A registration that can fail ahead of all writing: the packages that it needs are in conflict, or
it belongs into the main routine and nothing creates the bean. -/
inductive StopsAtStart (f : BeanFactory) (beanName : String) (plan : BeanPlan) (t : Target) : Prop
  | conflict {failure : Failure} (refused : hostPackage f.registry beanName plan = .error failure)
  | uncreated {host : Option String} (hosted : hostPackage f.registry beanName plan = .ok host)
    (main : host.filter (· ≠ t.classes.mainPackage) = none) (nothing : plan.creator = none)

/-- What a registration that fails leaves of code and classes. -/
inductive Remains (f : BeanFactory) (beanName : String) (d : BeanDefinition) (plan : BeanPlan)
    (t : Target) : Code → Classes → Prop
  | nothing (start : StopsAtStart f beanName plan t) : Remains f beanName d plan t t.code t.classes
  /-- A chain up to how the instance is supplied, with its levels still open. -/
  | openChain {host : Option String} {creator : Creator} {supply : Call}
    (hosted : hostPackage f.registry beanName plan = .ok host)
    (main : host.filter (· ≠ t.classes.mainPackage) = none) (created : plan.creator = some creator)
    (supplied : supplierCall f d plan creator = .ok supply) :
    Remains f beanName d plan t (t.code ++ openChainCode (chainHead beanName plan creator) [supply])
      t.classes
  /-- The name of a routine that is not there. -/
  | takenName {host : Option String} {package : String}
    (hosted : hostPackage f.registry beanName plan = .ok host)
    (routed : host.filter (· ≠ t.classes.mainPackage) = some package) :
    Remains f beanName d plan t t.code (t.reserve package (routineName plan)).2.classes

/-- A name that was free is taken. -/
theorem classes_reserve_ne (t : Target) (package name : String) :
    (t.reserve package name).2.classes ≠ t.classes := by
  intro same
  have taken := congrArg (fun cs => (cs.classFor package).reserved) same
  simp only [reserve] at taken
  rw [classFor_modifyClass t package (fun c => (c.reserve name).2) fun _ => rfl, if_pos rfl] at taken
  exact List.cons_ne_self _ _ taken

/-- The start of a chain names a class at least. -/
theorem append_openChain_ne (code : Code) (beanName : String) (plan : BeanPlan) (creator : Creator)
    (supply : Call) : code ++ openChainCode (chainHead beanName plan creator) [supply] ≠ code := by
  intro same
  have classes := congrArg Code.classes same
  rw [Code.classes_append, List.append_right_eq_self, classes_openChainCode] at classes
  have named : (chainHead beanName plan creator).code.classes = [] := (List.append_eq_nil_iff.mp classes).1
  simp [chainHead, Expression.code, JavaType.ofClass, JavaType.classes] at named

section
variable {f : BeanFactory} {beanName : String} {d : BeanDefinition} {plan : BeanPlan}
variable {t after : Target} {failure : Failure}

theorem adopt_error (t : Target) {written : Written} (failed : written.outcome = .error failure) :
    adopt t written = t.report written.progress.notices := by
  rw [adopt, failed]

/-- Writing that fails leaves nothing where nothing creates the bean, and otherwise the start of the
chain. -/
theorem code_of_failed (failed : (writeRegistration f beanName d plan).outcome = .error failure) :
    (plan.creator = none ∧ (writeRegistration f beanName d plan).code = .empty) ∨
      ∃ creator supply, plan.creator = some creator ∧ supplierCall f d plan creator = .ok supply ∧
        (writeRegistration f beanName d plan).code =
          openChainCode (chainHead beanName plan creator) [supply] := by
  cases created : plan.creator with
  | none => exact .inl ⟨rfl, by simp [writeRegistration, requireCreator, created, bind, Except.bind]⟩
  | some creator =>
    obtain ⟨supply, supplied⟩ := supplierCall_total f d plan creator
    refine .inr ⟨creator, supply, rfl, supplied, ?_⟩
    simp only [writeRegistration, requireCreator, created, supplied, bind, Except.bind, pure,
      Except.pure] at failed ⊢
    split at failed
    · cases failed
    · rfl

/-- A registration that fails has no package that can host it, or its writing fails in the main routine
or in another package. -/
theorem register_error_cases (failed : register f beanName d plan t = (.error failure, after)) :
    (hostPackage f.registry beanName plan = .error failure ∧ after = t) ∨
      ∃ host, hostPackage f.registry beanName plan = .ok host ∧
        ((host.filter (· ≠ t.classes.mainPackage) = none ∧
            registerInMain f beanName d plan t = (.error failure, after)) ∨
          ∃ package, host.filter (· ≠ t.classes.mainPackage) = some package ∧
            registerInPackage f beanName d plan package t = (.error failure, after)) := by
  obtain ⟨_, refused, same, rfl⟩ | ⟨host, between, hosted, rfl, written⟩ := route_cases failed
  · obtain rfl := Except.error.inj same
    exact .inl ⟨refused, rfl⟩
  · exact .inr ⟨host, hosted, written.imp_right fun ⟨package, found, _, result⟩ =>
      ⟨package, found, result⟩⟩

theorem remains_of_main {host : Option String}
    (hosted : hostPackage f.registry beanName plan = .ok host)
    (main : host.filter (· ≠ t.classes.mainPackage) = none)
    (failed : registerInMain f beanName d plan t = (.error failure, after)) :
    after.reflection = t.reflection ∧ Remains f beanName d plan t after.code after.classes := by
  obtain ⟨stopped, rfl⟩ := Prod.mk.inj failed
  rw [adopt_error _ stopped]
  refine ⟨rfl, ?_⟩
  show Remains f beanName d plan t (t.code ++ (writeRegistration f beanName d plan).code) t.classes
  rcases code_of_failed stopped with ⟨uncreated, empty⟩ | ⟨creator, supply, created, supplied, begun⟩
  · rw [empty, Code.append_empty]
    exact .nothing (.uncreated hosted main uncreated)
  · rw [begun]
    exact .openChain hosted main created supplied

theorem remains_of_package {host : Option String} {package : String}
    (hosted : hostPackage f.registry beanName plan = .ok host)
    (routed : host.filter (· ≠ t.classes.mainPackage) = some package)
    (failed : registerInPackage f beanName d plan package t = (.error failure, after)) :
    after.reflection = t.reflection ∧ Remains f beanName d plan t after.code after.classes := by
  simp only [registerInPackage] at failed
  split at failed
  · next stopped =>
    obtain ⟨-, rfl⟩ := Prod.mk.inj failed
    obtain ⟨code, reflection⟩ := kept_modifyClass t package fun c => (c.reserve (routineName plan)).2
    rw [adopt_error _ stopped]
    refine ⟨reflection, ?_⟩
    show Remains f beanName d plan t (t.reserve package (routineName plan)).2.code
      (t.reserve package (routineName plan)).2.classes
    rw [show (t.reserve package (routineName plan)).2.code = t.code from code]
    exact .takenName hosted routed
  · simp at failed

theorem remains_of_register (failed : register f beanName d plan t = (.error failure, after)) :
    after.reflection = t.reflection ∧ Remains f beanName d plan t after.code after.classes := by
  rcases register_error_cases failed with ⟨refused, rfl⟩ | ⟨host, hosted, main | package⟩
  · exact ⟨rfl, .nothing (.conflict refused)⟩
  · exact remains_of_main hosted main.1 main.2
  · obtain ⟨package, routed, stopped⟩ := package
    exact remains_of_package hosted routed stopped

variable {code : Code} {classes : Classes}

/-- The routines of all classes are as before. -/
theorem Remains.methods (remains : Remains f beanName d plan t code classes) (package : String) :
    (classes.classFor package).methods = (t.classes.classFor package).methods := by
  cases remains with
  | nothing => rfl
  | openChain => rfl
  | @takenName _ other =>
    rw [reserve, classFor_modifyClass t other (fun c => (c.reserve (routineName plan)).2) fun _ => rfl]
    split
    · next same => rw [same]; rfl
    · rfl

/-- Nothing remains exactly where a registration fails ahead of all writing. -/
theorem Remains.eq_iff (remains : Remains f beanName d plan t code classes) :
    code = t.code ∧ classes = t.classes ↔ StopsAtStart f beanName plan t := by
  cases remains with
  | nothing start => simp [start]
  | @openChain host creator supply hosted main created =>
    have left := append_openChain_ne t.code beanName plan creator supply
    refine iff_of_false (fun same => left same.1) fun start => ?_
    cases start with
    | conflict refused => cases hosted.symm.trans refused
    | uncreated _ _ nothing => cases created.symm.trans nothing
  | @takenName host package hosted routed =>
    have left := classes_reserve_ne t package (routineName plan)
    refine iff_of_false (fun same => left same.2) fun start => ?_
    cases start with
    | conflict refused => cases hosted.symm.trans refused
    | uncreated other main =>
      obtain rfl := Except.ok.inj (hosted.symm.trans other)
      cases routed.symm.trans main

end
end Prewire.Registration

namespace Prewire.Pass

open Java Types Beans Plan Output Registration

/-- A registration of listeners that fails changes nothing. -/
theorem eq_of_writeListeners_error {f : BeanFactory} {t after : Target} {failure : Failure}
    (failed : writeListeners f t = (.error failure, after)) : after = t := by
  rw [writeListeners, routeListeners] at failed
  split at failed
  · cases failed
  split at failed
  · cases failed
  · cases failed
  · exact (Prod.mk.inj failed).2.symm

/-- A registration that fails keeps reflection and all routines, and changes nothing at all exactly where
it fails ahead of all writing. Otherwise the start of its chain or the name of its routine remains. The
registration of the listeners fails without a change. -/
theorem unchanged_iff_of_failed (f : BeanFactory) (t : Target) :
    (∀ beanName d plan failure after, register f beanName d plan t = (.error failure, after) →
      after.reflection = t.reflection ∧
      (∀ package, (after.classes.classFor package).methods = (t.classes.classFor package).methods) ∧
      Remains f beanName d plan t after.code after.classes ∧
      (Unchanged t after ↔ StopsAtStart f beanName plan t)) ∧
    ∀ failure after, writeListeners f t = (.error failure, after) → after = t := by
  refine ⟨fun beanName d plan failure after failed => ?_, fun _ _ => eq_of_writeListeners_error⟩
  obtain ⟨reflection, remains⟩ := remains_of_register failed
  refine ⟨reflection, remains.methods, remains, ?_⟩
  rw [← remains.eq_iff]
  exact ⟨fun same => ⟨same.code, same.classes⟩, fun same => ⟨same.1, same.2, reflection⟩⟩

namespace FailingSample

def beanClass : ClassName := ⟨"com.example", ["Service"]⟩

def constructor (visibility : Visibility) : Executable where
  declaringClass := beanClass
  kind := .constructor
  visibility := visibility

def handleType : JavaType := .ofClass ⟨"com.example", ["Handle"]⟩

def plan (visibility : Visibility) : BeanPlan where
  beanType := .ofClass beanClass
  creator := some ⟨constructor visibility, []⟩
  properties := [⟨"part", .opaqueInstance handleType, none⟩]

def refused : Failure := .unsupportedValue (.instance handleType)

def listeningClass (package : String) : ClassName := ⟨package, ["Listening"]⟩

def listening (package : String) : TypeDeclaration where
  name := listeningClass package
  visibility := .packageAccess
  methods := [{ declaringClass := listeningClass package, kind := .method "onEvent" none false
                annotations := [{ type := Known.eventListener }] }]

def definition (name : ClassName) : BeanDefinition := { BeanDefinition.blank with beanClass := some name }

def container : BeanFactory where
  registry := ⟨[{ name := beanClass }, listening "com.first", listening "com.second"]⟩
  definitions := [("first", definition (listeningClass "com.first")),
    ("second", definition (listeningClass "com.second"))]

def before : Target := { classes := .named "com.example.boot" "Bootstrap" }

def registered (visibility : Visibility) : Except Failure Unit × Target :=
  register container "service" (definition beanClass) (plan visibility) before

theorem listeners_conflict : (writeListeners container before).1 =
    .error (.conflictingPackageAccess Known.listenerRegistrarBean ["com.first", "com.second"]) := by
  have packages : (((Listener.all container).filter fun l => !l.isOpen container.registry).map
      (·.beanClass.package)) = ["com.first", "com.second"] := by decide +kernel
  have sorted : listenerPackages container.registry (Listener.all container) =
      ["com.first", "com.second"] := by
    rw [listenerPackages, packages, List.mergeSort_of_pairwise (by decide)]
    decide
  rw [writeListeners, routeListeners]
  split
  · next none => rw [none] at packages; cases packages
  · rw [sorted]

end FailingSample

open FailingSample in
/-- The chain of a bean of the main routine stays open, while listeners in two packages change
nothing. -/
theorem failed_openChain :
    ∃ after, registered .publicAccess = (.error refused, after) ∧ ¬ Unchanged before after ∧
      ∃ failure, writeListeners container before = (.error failure, before) := by
  have failed : (registered .publicAccess).1 = .error refused := by decide +kernel
  have stops : ¬ StopsAtStart container "service" (plan .publicAccess) before := by
    have hosted : hostPackage container.registry "service" (plan .publicAccess) = .ok none := by
      decide +kernel
    intro start
    cases start with
    | conflict refused => cases hosted.symm.trans refused
    | uncreated _ _ nothing => cases nothing
  obtain ⟨general, listeners⟩ := unchanged_iff_of_failed container before
  have remains := general "service" (definition beanClass) (plan .publicAccess) _ _ (Prod.ext failed rfl)
  refine ⟨_, Prod.ext failed rfl, fun same => stops (remains.2.2.2.mp same), _,
    Prod.ext listeners_conflict ?_⟩
  exact listeners _ _ (Prod.ext listeners_conflict rfl)

open FailingSample in
/-- The start of a chain is left in the main routine, and a name stays taken for a routine that is not
there, in a class that was not there before either. -/
theorem failed_not_unchanged :
    (∃ after, registered .publicAccess = (.error refused, after) ∧ ¬ Unchanged before after) ∧
    ∃ after, registered .packageAccess = (.error refused, after) ∧ ¬ Unchanged before after ∧
      (after.classes.classFor "com.example").reserved = ["registerService"] ∧
      (after.classes.helpers.map fun c => (c.name.package, c.methods.length)) =
        [("com.example", 0)] := by
  have main : (registered .publicAccess).1 = .error refused := by decide +kernel
  have package : (registered .packageAccess).1 = .error refused := by decide +kernel
  refine ⟨⟨_, Prod.ext main rfl, fun same => ?_⟩,
    _, Prod.ext package rfl, fun same => ?_, by decide +kernel, by decide +kernel⟩
  · have left : (registered .publicAccess).2.code ≠ before.code := by decide +kernel
    exact left same.code
  · have created : (registered .packageAccess).2.classes.helpers.length ≠
        before.classes.helpers.length := by decide +kernel
    exact created (congrArg (fun cs => cs.helpers.length) same.classes)

end Prewire.Pass
