import Mathlib.Data.List.Basic
import Prewire.Proofs.Registration.NamedClasses
import Prewire.Proofs.Registration.Routing

/-! Access from the unit that a registration is written to. Routing looks at everything but private
members, so the classes by which these are found, and a private creator, decide whether the unit may
name and use what the code of the registration does. -/
namespace Prewire.Registration

open Java Types Beans Plan Output Target

def Reachable (r : Registry) (package : String) (c : ClassName) : Prop :=
  r.isAccessible c = true ∨ c.package = package

instance (r : Registry) (package : String) (c : ClassName) : Decidable (Reachable r package c) :=
  inferInstanceAs (Decidable (_ ∨ _))

/-- Whether code in a package may use a member of a class. -/
def Usable (package : String) (owner : ClassName) (visibility : Visibility) : Prop :=
  visibility.isPublic = true ∨ (visibility.isPrivate = false ∧ owner.package = package)

instance (package : String) (owner : ClassName) (visibility : Visibility) :
    Decidable (Usable package owner visibility) := inferInstanceAs (Decidable (_ ∨ _))

/-- The members that the code of a registration uses without reflection. -/
inductive UsedDirectly (plan : BeanPlan) (creator : Creator) : ClassName → Visibility → Prop
  | creator :
    UsedDirectly plan creator creator.executable.declaringClass creator.executable.visibility
  | field {d : Dependency} {field : Field} (listed : d ∈ plan.injections)
    (target : d.member = .field field)
    (assigned : fieldLambda field = .lambda [attributesName]
      (.assign (.member (.name beanVariable) field.name)
        (.call (.name attributesName) "get" [.number (.int 0)]))) :
    UsedDirectly plan creator field.declaringClass field.visibility
  | method {d : Dependency} {m : Executable} (listed : d ∈ plan.injections)
    (target : d.member = .method m)
    (called : methodLambda m = .lambda [attributesName]
      (.call (.name beanVariable) (injectedMethodName m) (attributeArguments m.parameterCount))) :
    UsedDirectly plan creator m.declaringClass m.visibility

/-- Creation and injection compile in a package. -/
structure Sound (r : Registry) (package : String) (plan : BeanPlan) (creator : Creator) : Prop where
  named : ∀ c ∈ namedClasses plan creator.executable, Reachable r package c
  used : ∀ owner visibility, UsedDirectly plan creator owner visibility →
    Usable package owner visibility

section
variable {r : Registry} {beanName : String} {plan : BeanPlan} {host : Option String}

/-- All restrictions ask for the same package. -/
theorem host_of_restricted (hosted : hostPackage r beanName plan = .ok host) {package : String}
    (restricted : package ∈ packagesOfType r plan.beanType ++ packagesOfClass r plan.userClass
      ++ (plan.creator.map (packagesOfCreator r)).getD []
      ++ plan.injections.flatMap (packagesOfInjection r)
      ++ plan.properties.flatMap (packagesOfSetting r)) : host = some package := by
  have listed : package ∈ restrictedPackages r plan := by
    rw [restrictedPackages, List.mem_eraseDups, List.mem_mergeSort]
    exact restricted
  rw [hostPackage] at hosted
  split at hosted
  · next none => simp [none] at listed
  · next only one =>
    obtain rfl : package = only := by simpa [one] using listed
    exact (Except.ok.inj hosted).symm
  · simp at hosted

theorem reachable_of_routed {main : String} {c : ClassName}
    (routed : ∀ package ∈ packagesOfClass r c, host = some package) :
    Reachable r (host.getD main) c := by
  by_cases accessible : r.isAccessible c
  · exact .inl accessible
  · have host := routed c.package (by simp [packagesOfClass, accessible])
    exact .inr (by simp [host])

theorem reachable_of_type {main : String} {type : JavaType}
    (routed : ∀ package ∈ packagesOfType r type, host = some package) :
    ∀ c ∈ type.classes, Reachable r (host.getD main) c := fun c named =>
  reachable_of_routed fun package restricted =>
    routed package (List.mem_flatMap.mpr ⟨c, named, restricted⟩)

/-- The classes of a member are in reach where its packages are asked for. -/
theorem reachable_of_member {main : String} {owner : ClassName} {visibility : Visibility}
    {types : List JavaType}
    (routed : ∀ package ∈ packagesOfMember r owner visibility ++ types.flatMap (packagesOfType r),
      host = some package) :
    ∀ c ∈ owner :: types.flatMap JavaType.classes, Reachable r (host.getD main) c := by
  intro c named
  rcases List.mem_cons.mp named with rfl | typed
  · refine reachable_of_routed fun package restricted => routed package ?_
    simp [packagesOfMember, restricted]
  · obtain ⟨type, listed, named⟩ := List.mem_flatMap.mp typed
    refine reachable_of_type (fun package restricted => routed package ?_) c named
    exact List.mem_append_right _ (List.mem_flatMap.mpr ⟨type, listed, restricted⟩)

/-- A member that is not private is used where its class is routed to. -/
theorem usable_of_routed (r : Registry) {main : String} {owner : ClassName} {visibility : Visibility}
    (exposed : visibility.isPrivate = false)
    (routed : ∀ package ∈ packagesOfMember r owner visibility, host = some package) :
    Usable (host.getD main) owner visibility := by
  by_cases isPublic : visibility.isPublic
  · exact .inl isPublic
  · have host := routed owner.package (by simp [packagesOfMember, isPublic])
    exact .inr ⟨exposed, by simp [host]⟩

variable {creator : Creator} {main : String}

theorem reachable_of_creator (hosted : hostPackage r beanName plan = .ok host)
    (known : plan.creator = some creator) :
    ∀ c ∈ executableClasses creator.executable, Reachable r (host.getD main) c := by
  let types := creator.executable.returnType?.toList ++ creator.executable.parameterTypes
  have classes : executableClasses creator.executable =
      creator.executable.declaringClass :: types.flatMap JavaType.classes := by
    cases returns : creator.executable.returnType? <;> simp [executableClasses, types, returns]
  have packages : packagesOfCreator r creator =
      packagesOfMember r creator.executable.declaringClass creator.executable.visibility
        ++ types.flatMap (packagesOfType r) := by
    cases returns : creator.executable.returnType? <;> simp [packagesOfCreator, types, returns]
  have routed : ∀ package ∈ packagesOfCreator r creator, host = some package := by
    intro package restricted
    apply host_of_restricted hosted
    simp [known, restricted]
  rw [classes]
  exact reachable_of_member (packages ▸ routed)

theorem routed_of_injection (hosted : hostPackage r beanName plan = .ok host) {d : Dependency}
    (listed : d ∈ plan.injections) :
    ∀ package ∈ packagesOfInjection r d, host = some package := fun package restricted => by
  apply host_of_restricted hosted
  exact List.mem_append_left _ (List.mem_append_right _ (List.mem_flatMap.mpr ⟨d, listed, restricted⟩))

/-- The classes of a member that is not private are in reach. -/
theorem reachable_of_injection (hosted : hostPackage r beanName plan = .ok host) {d : Dependency}
    (listed : d ∈ plan.injections) (exposed : isPrivateMember d = false) :
    ∀ c ∈ memberClasses d, Reachable r (host.getD main) c := by
  have routed := routed_of_injection hosted listed
  have erased (types : List JavaType) : (types.flatMap fun type => type.erasure.classes) ⊆
      types.flatMap JavaType.classes := by
    intro c named
    obtain ⟨type, listed, named⟩ := List.mem_flatMap.mp named
    exact List.mem_flatMap.mpr ⟨type, listed, type.classes_erasure_subset named⟩
  intro c named
  rw [isPrivateMember.eq_def] at exposed
  rw [memberClasses.eq_def] at named
  rw [packagesOfInjection.eq_def] at routed
  split at exposed
  · next field target =>
    simp only [target, exposed, Bool.false_eq_true, if_false] at routed named
    have routed : ∀ package ∈ packagesOfMember r field.declaringClass field.visibility
        ++ [field.type].flatMap (packagesOfType r), host = some package := by simpa using routed
    refine reachable_of_member routed c (List.cons_subset_cons _ (erased [field.type]) ?_)
    simpa using named
  · next m target =>
    simp only [target, exposed, Bool.false_eq_true, if_false] at routed named
    exact reachable_of_member routed c (List.cons_subset_cons _ (erased m.parameterTypes) named)
  · next target => simp [target] at named

theorem usable_of_direct (hosted : hostPackage r beanName plan = .ok host)
    (known : plan.creator = some creator) (exposed : creator.executable.visibility.isPrivate = false)
    {owner : ClassName} {visibility : Visibility}
    (direct : UsedDirectly plan creator owner visibility) :
    Usable (host.getD main) owner visibility := by
  cases direct with
  | creator =>
    refine usable_of_routed r exposed fun package restricted => ?_
    apply host_of_restricted hosted
    simp [known, packagesOfCreator, restricted]
  | @field d field listed target assigned =>
    have exposed : field.visibility.isPrivate = false := by
      cases hidden : field.visibility.isPrivate with
      | false => rfl
      | true => simp [fieldLambda, hidden, reflective] at assigned
    refine usable_of_routed r exposed fun package restricted =>
      routed_of_injection hosted listed package ?_
    simp [packagesOfInjection, target, exposed, restricted]
  | @method d m listed target called =>
    have exposed : m.visibility.isPrivate = false := by
      cases hidden : m.visibility.isPrivate with
      | false => rfl
      | true => simp [methodLambda, hidden, reflective] at called
    refine usable_of_routed r exposed fun package restricted =>
      routed_of_injection hosted listed package ?_
    simp [packagesOfInjection, target, exposed, restricted]

/-- Routing is sound but for private creators and the classes of private members. -/
theorem sound_iff (hosted : hostPackage r beanName plan = .ok host)
    (known : plan.creator = some creator) :
    Sound r (host.getD main) plan creator ↔ creator.executable.visibility.isPrivate = false ∧
      ∀ d ∈ plan.injections, isPrivateMember d → ∀ c ∈ memberClasses d,
        Reachable r (host.getD main) c := by
  constructor
  · intro sound
    refine ⟨?_, fun d listed _ c named => sound.named c ?_⟩
    · rcases sound.used _ _ .creator with isPublic | ⟨exposed, -⟩
      · generalize creator.executable.visibility = visibility at isPublic
        cases visibility <;> simp_all [Visibility.isPublic, Visibility.isPrivate]
      · exact exposed
    · exact List.mem_append_right _ (List.mem_flatMap.mpr ⟨d, listed, named⟩)
  · rintro ⟨exposed, hidden⟩
    refine ⟨fun c named => ?_, fun owner visibility => usable_of_direct hosted known exposed⟩
    rw [namedClasses, List.mem_append, List.mem_append] at named
    rcases named with (typed | created) | injected
    · refine reachable_of_type (fun package restricted => ?_) c typed
      apply host_of_restricted hosted
      simp [restricted]
    · exact reachable_of_creator hosted known c created
    · obtain ⟨d, listed, named⟩ := List.mem_flatMap.mp injected
      cases access : isPrivateMember d with
      | true => exact hidden d listed access c named
      | false => exact reachable_of_injection hosted listed access c named

end

section
variable {f : BeanFactory} {beanName : String} {d : BeanDefinition} {plan : BeanPlan}

def registrationStatement (beanName : String) (plan : BeanPlan) (creator : Creator)
    (supply : Call) (customizing : List Expression) : Statement :=
  .brokenChain (chainHead beanName plan creator)
    (supply :: customize (customizerParameter 0) customizing
      ++ [⟨"register", [.name contextName]⟩])

theorem registration_ok {creator : Creator} {supply : Call} {statement : Statement} {p q : Progress}
    (ran : (registration f beanName d plan creator supply).run.run p = (.ok statement, q)) :
    ∃ customizing p q, (customizers (innerChain f beanName (planDepth plan) 1)
        (.name (customizerParameter 0)) d plan.properties).run.run p = (.ok customizing, q) ∧
      statement = registrationStatement beanName plan creator supply customizing := by
  rw [registration] at ran
  obtain ⟨_, _, -, ran⟩ := run_bind_ok ran
  obtain ⟨customizing, _, customized, ran⟩ := run_bind_ok ran
  obtain ⟨same, -⟩ := Prod.mk.inj ran
  exact ⟨customizing, _, _, customized, (Except.ok.inj same).symm⟩

theorem supplierCall_ok {creator : Creator} {supply : Call}
    (supplied : supplierCall f d plan creator = .ok supply) :
    ∃ arguments, directArguments f d creator = .ok arguments ∧
      supply = ⟨"instanceSupplier", [supplier creator.executable arguments plan.injections]⟩ := by
  rw [supplierCall] at supplied
  cases written : directArguments f d creator with
  | error failure => simp [written, bind, Except.bind] at supplied
  | ok arguments =>
    refine ⟨arguments, rfl, ?_⟩
    simpa [written, bind, Except.bind, pure, Except.pure, eq_comm] using supplied

/-- What a registration that succeeds writes is the statement of the bean. -/
theorem writeRegistration_ran (complete : (writeRegistration f beanName d plan).outcome = .ok ()) :
    ∃ creator supply statement progress, plan.creator = some creator ∧
      supplierCall f d plan creator = .ok supply ∧
      (registration f beanName d plan creator supply).run.run {} = (.ok statement, progress) ∧
      (writeRegistration f beanName d plan).code = statement.code := by
  rw [writeRegistration] at complete ⊢
  cases known : plan.creator with
  | none => simp [requireCreator, known, bind, Except.bind] at complete
  | some creator =>
    cases supplied : supplierCall f d plan creator with
    | error failure => simp [requireCreator, known, supplied, bind, Except.bind] at complete
    | ok supply =>
      simp only [requireCreator, known, supplied, bind, Except.bind, pure, Except.pure] at complete ⊢
      split at complete
      · next statement progress ran =>
        exact ⟨creator, supply, statement, progress, rfl, supplied, ran, rfl⟩
      · simp at complete

/-- A registration that succeeds leaves its whole statement. -/
theorem writeRegistration_statement
    (complete : (writeRegistration f beanName d plan).outcome = .ok ()) :
    ∃ creator arguments customizing p q, plan.creator = some creator ∧
      directArguments f d creator = .ok arguments ∧
      (customizers (innerChain f beanName (planDepth plan) 1) (.name (customizerParameter 0)) d
        plan.properties).run.run p = (.ok customizing, q) ∧
      (writeRegistration f beanName d plan).code =
        (registrationStatement beanName plan creator
          ⟨"instanceSupplier", [supplier creator.executable arguments plan.injections]⟩
          customizing).code := by
  obtain ⟨creator, supply, statement, progress, known, supplied, ran, code⟩ := writeRegistration_ran complete
  obtain ⟨arguments, written, rfl⟩ := supplierCall_ok supplied
  obtain ⟨customizing, p, q, customized, rfl⟩ := registration_ok ran
  exact ⟨creator, arguments, customizing, p, q, known, written, customized, code⟩

theorem writeRegistration_ok (complete : (writeRegistration f beanName d plan).outcome = .ok ()) :
    ∃ creator arguments rest, plan.creator = some creator ∧
      directArguments f d creator = .ok arguments ∧
      (writeRegistration f beanName d plan).code =
        creationCode beanName plan creator arguments ++ rest := by
  obtain ⟨creator, arguments, customizing, _, _, known, written, -, code⟩ :=
    writeRegistration_statement complete
  obtain ⟨rest, begins⟩ := code_brokenChain (chainHead beanName plan creator) _ _
  exact ⟨creator, arguments, rest, known, written, code.trans begins⟩

/-- A registration that succeeds is in place in a unit, whose package its creation and injection suit
unless the creator is private or a private member is found by a class that is out of reach there.
Creation and injection name the classes that the registration is written from, those of the written
arguments and some of the container, and in any case all classes of private members. -/
theorem register_sound_iff {t after : Target}
    (registered : register f beanName d plan t = (.ok (), after)) :
    ∃ creator arguments rest package, plan.creator = some creator ∧
      directArguments f d creator = .ok arguments ∧
      (hostPackage f.registry beanName plan).map (·.filter (· ≠ t.classes.mainPackage)) =
        .ok package ∧
      Placed after (creationCode beanName plan creator arguments ++ rest) package ∧
      (creationCode beanName plan creator arguments).classes ⊆
        scaffolding ++ classesOfCode (arguments.getD []) ++ namedClasses plan creator.executable ∧
      (∀ d ∈ plan.injections, isPrivateMember d →
        memberClasses d ⊆ (creationCode beanName plan creator arguments).classes) ∧
      (Sound f.registry (package.getD after.classes.mainPackage) plan creator ↔
        creator.executable.visibility.isPrivate = false ∧
          ∀ d ∈ plan.injections, isPrivateMember d → ∀ c ∈ memberClasses d,
            Reachable f.registry (package.getD after.classes.mainPackage) c) := by
  obtain ⟨host, hosted, ⟨complete, grows, placed⟩, -⟩ := register_ok registered
  obtain ⟨creator, arguments, rest, known, written, code⟩ := writeRegistration_ok complete
  have unit : (host.filter (· ≠ t.classes.mainPackage)).getD after.classes.mainPackage =
      host.getD t.classes.mainPackage := by
    rw [grows.mainPackage]
    cases host with
    | none => rfl
    | some package => by_cases main : package = t.classes.mainPackage <;> simp [Option.filter, main]
  have routed : (hostPackage f.registry beanName plan).map (·.filter (· ≠ t.classes.mainPackage)) =
      .ok (host.filter (· ≠ t.classes.mainPackage)) := by rw [hosted, Except.map]
  refine ⟨creator, arguments, rest, _, known, written, routed, code ▸ placed, ?_, ?_, ?_⟩
  · exact classes_creationCode beanName plan creator arguments
  · exact fun d listed => memberClasses_subset beanName plan creator arguments listed
  · rw [unit]
    exact sound_iff hosted known

end

namespace AccessSample

def service : ClassName := ⟨"com.example", ["Service"]⟩
def internal : ClassName := ⟨"com.example", ["Internal"]⟩

def constructor (visibility : Visibility) : Executable where
  declaringClass := service
  kind := .constructor
  visibility := visibility

def hiddenField : Field where
  declaringClass := service
  name := "internal"
  type := .ofClass internal
  annotations := [{ type := Known.autowired }]

def container (visibility : Visibility) (fields : List Field) : BeanFactory where
  registry := ⟨[{ name := service, constructors := [constructor visibility], fields := fields },
    { name := internal, visibility := .packageAccess }]⟩

def definition : BeanDefinition := { BeanDefinition.blank with beanClass := some service }

def plan (visibility : Visibility) (fields : List Field) : BeanPlan :=
  .ofExecutable (container visibility fields) definition (constructor visibility)

def target : Target := { classes := .named "com.example.boot" "Bootstrap" }

def registered (visibility : Visibility) (fields : List Field) : Except Failure Unit × Target :=
  register (container visibility fields) "service" definition (plan visibility fields) target

end AccessSample

open AccessSample in
/-- The constructor takes the registration to the package that also sees the class of the field. -/
theorem register_sound_sample :
    (registered .packageAccess [hiddenField]).1 = .ok () ∧
    ∃ creator, (plan .packageAccess [hiddenField]).creator = some creator ∧
      Sound (container .packageAccess [hiddenField]).registry "com.example"
        (plan .packageAccess [hiddenField]) creator := by
  have succeeds : (registered .packageAccess [hiddenField]).1 = .ok () := by decide +kernel
  have host : hostPackage (container .packageAccess [hiddenField]).registry "service"
      (plan .packageAccess [hiddenField]) = .ok (some "com.example") := by decide +kernel
  obtain ⟨creator, _, _, package, known, -, routed, -, -, -, sound⟩ :=
    register_sound_iff (Prod.ext succeeds rfl)
  obtain rfl : package = some "com.example" := by
    rw [host] at routed
    exact (Except.ok.inj routed).symm
  refine ⟨succeeds, creator, known, sound.mpr ?_⟩
  obtain rfl : Creator.of (container .packageAccess [hiddenField]).registry
    (constructor .packageAccess) = creator := Option.some.inj known
  refine ⟨rfl, ?_⟩
  change ∀ d ∈ (plan .packageAccess [hiddenField]).injections, isPrivateMember d →
    ∀ c ∈ memberClasses d,
      Reachable (container .packageAccess [hiddenField]).registry "com.example" c
  decide +kernel

open AccessSample in
/-- A private constructor is invoked all the same, and a private field is found by the literal of a
class that the main package does not see. -/
theorem register_not_sound :
    (∃ after creator, registered .privateAccess [] = (.ok (), after) ∧
      (plan .privateAccess []).creator = some creator ∧
      Placed after (writeRegistration (container .privateAccess []) "service" definition
        (plan .privateAccess [])).code (some "com.example") ∧
      ¬ Sound (container .privateAccess []).registry "com.example" (plan .privateAccess [])
        creator) ∧
    (∃ after creator, registered .publicAccess [hiddenField] = (.ok (), after) ∧
      (plan .publicAccess [hiddenField]).creator = some creator ∧
      Placed after (writeRegistration (container .publicAccess [hiddenField]) "service" definition
        (plan .publicAccess [hiddenField])).code none ∧
      ¬ Sound (container .publicAccess [hiddenField]).registry target.classes.mainPackage
        (plan .publicAccess [hiddenField]) creator) := by
  constructor
  · have succeeds : (registered .privateAccess []).1 = .ok () := by decide +kernel
    have hosted : hostPackage (container .privateAccess []).registry "service"
        (plan .privateAccess []) = .ok (some "com.example") := by decide +kernel
    obtain ⟨host, routed, inPlace, -⟩ := register_ok (Prod.ext succeeds rfl)
    obtain rfl : host = some "com.example" := Except.ok.inj (routed.symm.trans hosted)
    refine ⟨_, _, Prod.ext succeeds rfl, rfl, inPlace.placed, fun sound => ?_⟩
    have usable : Usable "com.example" service .privateAccess := sound.used _ _ .creator
    exact absurd usable (by decide)
  · have succeeds : (registered .publicAccess [hiddenField]).1 = .ok () := by decide +kernel
    have hosted : hostPackage (container .publicAccess [hiddenField]).registry "service"
        (plan .publicAccess [hiddenField]) = .ok none := by decide +kernel
    obtain ⟨host, routed, inPlace, -⟩ := register_ok (Prod.ext succeeds rfl)
    obtain rfl : host = none := Except.ok.inj (routed.symm.trans hosted)
    refine ⟨_, _, Prod.ext succeeds rfl, rfl, inPlace.placed, fun sound => ?_⟩
    have named : internal ∈ namedClasses (plan .publicAccess [hiddenField])
        (constructor .publicAccess) := by decide +kernel
    exact absurd (sound.named internal named) (by decide +kernel)

end Prewire.Registration
