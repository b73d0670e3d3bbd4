import Prewire.Proofs.Registration.Access
import Prewire.Proofs.Registration.Bindings
import Prewire.Proofs.Registration.ValueClasses

/-! Access to the classes of configured values. Routing looks at the values of properties, but into no
inner bean, and at neither written arguments nor qualifiers, so these decide whether the unit of a
registration may name what is configured. -/
namespace Prewire.Registration

open Java Types Beans Plan BeanValue Output Target

def argumentValues (f : BeanFactory) (d : BeanDefinition) (e : Executable) : List BeanValue :=
  (bindings e d.arguments).map fun b => f.resolve b.argument.value

def qualifierClasses (d : BeanDefinition) : List ClassName :=
  d.qualifiers.flatMap fun q => [Known.candidateQualifier, q.type]

def ArgumentNames (f : BeanFactory) (d : BeanDefinition) (e : Executable)
    (arguments : Option (List Expression)) (c : ClassName) : Prop :=
  arguments.isSome ∧ ∃ v ∈ argumentValues f d e, v.Names (fun _ _ => False) c

/-- What a definition is written from: its plan, what creates the bean, and the arguments of that
where they are written. -/
structure WrittenFrom (f : BeanFactory) (d : BeanDefinition) (plan : BeanPlan) (creator : Creator)
    (arguments : Option (List Expression)) : Prop where
  planned : BeanPlan.ofDefinition f d = .ok (some plan)
  known : plan.creator = some creator
  direct : directArguments f d creator = .ok arguments

theorem eq_of_planned {f : BeanFactory} {d : BeanDefinition} {plan other : BeanPlan}
    (planned : BeanPlan.ofDefinition f d = .ok (some plan))
    (again : BeanPlan.ofDefinition f d = .ok (some other)) : plan = other :=
  Option.some.inj (Except.ok.inj (planned.symm.trans again))

theorem WrittenFrom.unique {f : BeanFactory} {d : BeanDefinition} {plan plan' : BeanPlan}
    {creator creator' : Creator} {arguments arguments' : Option (List Expression)}
    (first : WrittenFrom f d plan creator arguments)
    (second : WrittenFrom f d plan' creator' arguments') :
    plan = plan' ∧ creator = creator' ∧ arguments = arguments' := by
  obtain rfl := eq_of_planned first.planned second.planned
  obtain rfl := Option.some.inj (first.known.symm.trans second.known)
  exact ⟨rfl, rfl, Except.ok.inj (first.direct.symm.trans second.direct)⟩

/-- The classes that the definition of an inner bean names. -/
inductive DefinitionNames (f : BeanFactory) : BeanDefinition → ClassName → Prop
  | creation {d : BeanDefinition} {plan : BeanPlan} {creator : Creator}
    {arguments : Option (List Expression)} {c : ClassName}
    (source : WrittenFrom f d plan creator arguments)
    (named : c ∈ (creationCode "" plan creator none).classes) : DefinitionNames f d c
  | argument {d : BeanDefinition} {plan : BeanPlan} {creator : Creator}
    {arguments : Option (List Expression)} {c : ClassName}
    (source : WrittenFrom f d plan creator arguments)
    (named : ArgumentNames f d creator.executable arguments c) : DefinitionNames f d c
  | qualifier {d : BeanDefinition} {c : ClassName} (named : c ∈ qualifierClasses d) :
    DefinitionNames f d c
  | value {d : BeanDefinition} {plan : BeanPlan} {p : PropertySetting} {part : BeanValue}
    {c : ClassName} (planned : BeanPlan.ofDefinition f d = .ok (some plan))
    (listed : p ∈ plan.properties) (within : part ∈ p.value.parts)
    (named : c ∈ part.ownClasses ∨ c ∈ part.libraryClasses) : DefinitionNames f d c
  | inner {d inner : BeanDefinition} {plan : BeanPlan} {p : PropertySetting} {c : ClassName}
    (planned : BeanPlan.ofDefinition f d = .ok (some plan)) (listed : p ∈ plan.properties)
    (within : .inner inner ∈ p.value.parts) (named : DefinitionNames f inner c) :
    DefinitionNames f d c

section
variable {f : BeanFactory} {d : BeanDefinition} {c : ClassName}

/-- Written arguments name the classes of their values, in none of which an inner bean occurs. -/
theorem mem_classes_arguments {creator : Creator} {arguments : Option (List Expression)}
    (direct : directArguments f d creator = .ok arguments) :
    c ∈ classesOfCode (arguments.getD []) ↔ ArgumentNames f d creator.executable arguments c := by
  have exact : Outcome.ofExcept.Exact refuseInner fun _ _ => False := fun _ _ yields =>
    absurd yields Outcome.ofExcept.not_throw
  cases arguments with
  | none => simp [ArgumentNames]
  | some written =>
    have each := directArguments_ok direct
    clear direct
    simp only [Option.getD_some, ArgumentNames, Option.isSome_some, true_and, argumentValues]
    generalize bindings creator.executable d.arguments = bound at each
    induction each with
    | nil => simp
    | cons one _ ih => simp [mem_classes_value exact _ _ _ one c, ih]

theorem classes_chainHead (beanName : String) (plan : BeanPlan) (creator : Creator) :
    (chainHead beanName plan creator).code.classes =
      Known.beanRegistrar :: (typeExpression plan.beanType).code.classes
        ++ (selection creator.executable).flatMap fun call => classesOfCode call.arguments := by
  simp [chainHead]

/-- Arguments only add their own classes to a creation. -/
theorem mem_classes_supplier {e : Executable} {arguments : Option (List Expression)}
    {injections : List Dependency} :
    c ∈ (supplier e arguments injections).code.classes ↔
      c ∈ (supplier e none injections).code.classes ∨ c ∈ classesOfCode (arguments.getD []) := by
  simp only [classes_supplier, classes_created, Option.getD_none, classesOfCode_nil]
  split
  · simp
  · simp only [List.mem_append, List.mem_cons, List.not_mem_nil, or_false]
    tauto

theorem mem_classes_creationCode {beanName : String} {plan : BeanPlan} {creator : Creator}
    {arguments : Option (List Expression)} :
    c ∈ (creationCode beanName plan creator arguments).classes ↔
      c ∈ (creationCode "" plan creator none).classes ∨ c ∈ classesOfCode (arguments.getD []) := by
  simp only [creationCode, classes_openChainCode, classes_chainHead, List.flatMap_singleton,
    classesOfCode_cons, classesOfCode_nil, List.append_nil, List.mem_append]
  rw [mem_classes_supplier]
  simp only [or_assoc]

theorem classes_customize (parameter : String) (customizing : List Expression) :
    ((customize parameter customizing).flatMap fun call => classesOfCode call.arguments) =
      classesOfCode customizing := by
  cases customizing with
  | nil => rfl
  | cons first rest =>
    cases rest with
    | nil => simp [customize]
    | cons second rest => simp [customize, classesOfCode, List.flatMap_map]

theorem classes_metadataCustomizers (parameter : String) :
    classesOfCode (metadataCustomizers (.name parameter) d) = qualifierClasses d := by
  have qualifiers : classesOfCode (d.qualifiers.map (qualifierCustomizer (.name parameter))) =
      qualifierClasses d := by
    simp only [classesOfCode, qualifierClasses, List.flatMap_map]
    congr 1
    funext q
    cases value : q.value <;> simp [qualifierCustomizer, Expression.call, value]
  simp only [metadataCustomizers, classesOfCode, List.flatMap_append] at qualifiers ⊢
  rw [qualifiers]
  have scope : (((namedScope? d).toList.map fun scope =>
      (Expression.name parameter).call "setScope" [.string scope]).flatMap
        fun e => e.code.classes) = [] := by
    cases namedScope? d <;> simp [Expression.call]
  rw [scope]
  cases d.isPrimary <;> cases d.isLazy <;> cases d.role <;> simp [Expression.call]

def AddsProperty (innerBean : BeanDefinition → Writing Expression) (target : Expression)
    (p : PropertySetting) (x : Expression) : Prop :=
  ∃ value, Outcome.ofWriting.Yields (valueExpression innerBean p.value p.type) value ∧
    x = propertyCustomizer target p.name value

section
variable {innerBean : BeanDefinition → Writing Expression} {properties : List PropertySetting}

/-- A definition is customized by an expression for each of its properties, and by those that say the
rest. -/
theorem customizers_ok {target : Expression} {customizing : List Expression}
    (yields : Outcome.ofWriting.Yields (customizers innerBean target d properties) customizing) :
    ∃ settings, List.Forall₂ (AddsProperty innerBean target) properties settings ∧
      customizing = settings ++ metadataCustomizers target d := by
  obtain ⟨settings, set, yields⟩ := Outcome.of_bind _ yields
  obtain rfl := Outcome.eq_of_pure _ yields
  refine ⟨settings, (Outcome.of_mapM _ set).imp fun p x adds => ?_, rfl⟩
  obtain ⟨value, written, adds⟩ := Outcome.of_bind _ adds
  exact ⟨value, written, (Outcome.eq_of_pure _ adds).symm⟩

variable {definitionNames : BeanDefinition → ClassName → Prop} {parameter : String}
variable (exact : Outcome.ofWriting.Exact innerBean definitionNames)
include exact

theorem mem_classes_settings {settings : List Expression}
    (each : List.Forall₂ (AddsProperty innerBean (.name parameter)) properties settings) :
    c ∈ classesOfCode settings ↔ ∃ p ∈ properties, p.value.Names definitionNames c := by
  induction each with
  | nil => simp
  | cons adds _ ih =>
    obtain ⟨value, written, rfl⟩ := adds
    simp [propertyCustomizer, mem_classes_value exact _ _ _ written c, ih]

/-- Customizing names the classes of the properties and of the qualifiers. -/
theorem mem_classes_customizers {customizing : List Expression}
    (yields : Outcome.ofWriting.Yields (customizers innerBean (.name parameter) d properties)
      customizing) :
    c ∈ classesOfCode customizing ↔
      (∃ p ∈ properties, p.value.Names definitionNames c) ∨ c ∈ qualifierClasses d := by
  obtain ⟨settings, each, rfl⟩ := customizers_ok yields
  have appended : classesOfCode (settings ++ metadataCustomizers (.name parameter) d) =
      classesOfCode settings ++ qualifierClasses d := by
    rw [← classes_metadataCustomizers parameter, classesOfCode, List.flatMap_append]
    rfl
  rw [appended, List.mem_append, mem_classes_settings exact each]

end

theorem eq_ok_of_lift {α : Type} {result : Except Failure α} {a : α}
    (yields : Outcome.ofWriting.Yields (liftM result : Writing α) a) : result = .ok a := by
  obtain ⟨p, q, ran⟩ := yields
  cases result with
  | error failure => cases (Prod.mk.inj ran).1
  | ok b => exact (Prod.mk.inj ran).1

theorem innerPlan_ok {plan : BeanPlan} (yields : Outcome.ofWriting.Yields (innerPlan f d) plan) :
    BeanPlan.ofDefinition f d = .ok (some plan) := by
  obtain ⟨_, -, yields⟩ := Outcome.of_bind _ yields
  split at yields
  next => exact absurd yields Outcome.ofWriting.not_throw
  next => exact absurd yields Outcome.ofWriting.not_throw
  next found planned =>
    obtain rfl := Outcome.eq_of_pure _ yields
    exact planned

theorem requireCreator_ok {beanName : String} {plan : BeanPlan} {creator : Creator}
    (required : requireCreator beanName plan = .ok creator) : plan.creator = some creator := by
  rw [requireCreator] at required
  split at required
  next found known => rw [known, Except.ok.inj required]
  next => cases required

/-- What an inner bean yields is written from its plan, like a definition of its own but for both ends of
the chain. -/
theorem innerChain_ok {beanName : String} {depth level : Nat} {e : Expression}
    (yields : Outcome.ofWriting.Yields (innerChain f beanName (depth + 1) level d) e) :
    ∃ plan creator arguments customizing, WrittenFrom f d plan creator arguments ∧
      Outcome.ofWriting.Yields (customizers (innerChain f beanName depth (level + 1))
        (.name (customizerParameter level)) d plan.properties) customizing ∧
      e = .chain (.typeName (.ofClass Known.beanRegistrar))
        (⟨"inner", [typeExpression plan.beanType]⟩ :: selection creator.executable
          ++ [⟨"instanceSupplier", [supplier creator.executable arguments plan.injections]⟩]
          ++ customize (customizerParameter level) customizing
          ++ [⟨"toBeanDefinition", []⟩]) := by
  rw [innerChain] at yields
  obtain ⟨plan, planned, yields⟩ := Outcome.of_bind _ yields
  obtain ⟨creator, known, yields⟩ := Outcome.of_bind _ yields
  obtain ⟨supply, supplied, yields⟩ := Outcome.of_bind _ yields
  obtain ⟨_, -, yields⟩ := Outcome.of_bind _ yields
  obtain ⟨customizing, customized, yields⟩ := Outcome.of_bind _ yields
  obtain ⟨arguments, direct, rfl⟩ := supplierCall_ok (eq_ok_of_lift supplied)
  have source : WrittenFrom f d plan creator arguments :=
    ⟨innerPlan_ok planned, requireCreator_ok (eq_ok_of_lift known), direct⟩
  exact ⟨plan, creator, arguments, customizing, source, customized,
    (Outcome.eq_of_pure _ yields).symm⟩

/-- What an inner bean yields names the classes of its definition. -/
theorem innerChain_exact (f : BeanFactory) (beanName : String) (depth level : Nat) :
    Outcome.ofWriting.Exact (innerChain f beanName depth level) (DefinitionNames f) := by
  induction depth generalizing level with
  | zero => exact fun _ _ yields => absurd yields Outcome.ofWriting.not_throw
  | succ depth ih =>
    intro d e yields c
    obtain ⟨plan, creator, arguments, customizing, source, customized, rfl⟩ := innerChain_ok yields
    -- The chain is the one of an outer bean, with the calls that customize after it.
    have whole : c ∈ (Expression.chain (.typeName (.ofClass Known.beanRegistrar))
        (⟨"inner", [typeExpression plan.beanType]⟩ :: selection creator.executable
          ++ [⟨"instanceSupplier", [supplier creator.executable arguments plan.injections]⟩]
          ++ customize (customizerParameter level) customizing
          ++ [⟨"toBeanDefinition", []⟩])).code.classes ↔
        c ∈ (creationCode beanName plan creator arguments).classes ∨
          c ∈ classesOfCode customizing := by
      simp [creationCode, classes_openChainCode, classes_chainHead, classes_customize, or_assoc]
    rw [whole, mem_classes_creationCode, mem_classes_arguments source.direct,
      mem_classes_customizers (ih (level + 1)) customized]
    constructor
    · rintro ((created | argument) | ⟨p, listed, part, within, named⟩ | qualifier)
      · exact .creation source created
      · exact .argument source argument
      · rcases named with own | library | ⟨inner, rfl, named⟩
        · exact .value source.planned listed within (.inl own)
        · exact .value source.planned listed within (.inr library)
        · exact .inner source.planned listed within named
      · exact .qualifier qualifier
    · intro named
      cases named with
      | creation other created =>
        obtain ⟨rfl, rfl, rfl⟩ := source.unique other
        exact .inl (.inl created)
      | argument other argument =>
        obtain ⟨rfl, rfl, rfl⟩ := source.unique other
        exact .inl (.inr argument)
      | qualifier qualifier => exact .inr (.inr qualifier)
      | value other listed within named =>
        obtain rfl := eq_of_planned source.planned other
        exact .inr (.inl ⟨_, listed, _, within, named.imp_right .inl⟩)
      | inner other listed within named =>
        obtain rfl := eq_of_planned source.planned other
        exact .inr (.inl ⟨_, listed, _, within, .inr (.inr ⟨_, rfl, named⟩)⟩)

end

theorem mem_valuesClasses {vs : List BeanValue} {c : ClassName} :
    c ∈ valuesClasses vs ↔ ∃ v ∈ vs, c ∈ valueClasses v := by
  induction vs with
  | nil => simp [valuesClasses]
  | cons v rest ih => simp [valuesClasses, ih]

theorem valuesClasses_subset {v : BeanValue} {elements : List BeanValue}
    (known : v.elements? = some elements) : valuesClasses elements ⊆ valueClasses v := by
  intro c named
  cases v with
  | array component =>
    obtain rfl := Option.some.inj known
    rw [valueClasses]
    exact List.mem_append_right _ named
  | list | set =>
    obtain rfl := Option.some.inj known
    rwa [valueClasses]
  | _ => cases known

theorem ownClasses_subset_valueClasses (v : BeanValue) : v.ownClasses ⊆ valueClasses v := by
  intro c named
  cases v with
  | array component elements =>
    rw [valueClasses]
    exact List.mem_append_left _ (component.classes_erasure_subset named)
  | classLiteral type => exact type.classes_erasure_subset named
  | enumConstant => exact named
  | _ => cases named

/-- Routing looks at the classes of a value and its elements, with their type arguments. -/
theorem ownClasses_subset (v : BeanValue) : ∀ part ∈ v.parts, part.ownClasses ⊆ valueClasses v := by
  induction v using elements_induction with
  | collection v elements known ih =>
    intro part within c named
    rw [parts_of_elements known] at within
    rcases List.mem_cons.mp within with rfl | deeper
    · exact ownClasses_subset_valueClasses part named
    · obtain ⟨e, member, within⟩ := mem_partsOfAll.mp deeper
      exact valuesClasses_subset known (mem_valuesClasses.mpr ⟨e, member, ih e member part within named⟩)
  | single v single =>
    rw [parts_of_single single, List.forall_mem_singleton]
    exact ownClasses_subset_valueClasses v

/-- The configured classes that routing looks at: those of property values outside of inner beans. -/
def RoutedNames (plan : BeanPlan) (c : ClassName) : Prop :=
  ∃ p ∈ plan.properties, ∃ part ∈ p.value.parts, c ∈ part.ownClasses

/-- The classes of configured values that routing does not look at. -/
inductive UnroutedNames (f : BeanFactory) (d : BeanDefinition) (plan : BeanPlan)
    (creator : Creator) (arguments : Option (List Expression)) : ClassName → Prop
  | argument {c : ClassName} (named : ArgumentNames f d creator.executable arguments c) :
    UnroutedNames f d plan creator arguments c
  | qualifier {c : ClassName} (named : c ∈ qualifierClasses d) :
    UnroutedNames f d plan creator arguments c
  | library {p : PropertySetting} {part : BeanValue} {c : ClassName} (listed : p ∈ plan.properties)
    (within : part ∈ p.value.parts) (named : c ∈ part.libraryClasses) :
    UnroutedNames f d plan creator arguments c
  | inner {p : PropertySetting} {inner : BeanDefinition} {c : ClassName}
    (listed : p ∈ plan.properties) (within : .inner inner ∈ p.value.parts)
    (named : DefinitionNames f inner c) : UnroutedNames f d plan creator arguments c

section
variable {f : BeanFactory} {beanName : String} {d : BeanDefinition} {plan : BeanPlan}

/-- The code of configured values names exactly these classes. -/
theorem mem_classes_configured {creator : Creator} {arguments : Option (List Expression)}
    {customizing : List Expression} {c : ClassName} {depth level : Nat} {parameter : String}
    (direct : directArguments f d creator = .ok arguments)
    (customized : Outcome.ofWriting.Yields (customizers (innerChain f beanName depth level)
      (.name parameter) d plan.properties) customizing) :
    c ∈ classesOfCode (arguments.getD [] ++ customizing) ↔
      RoutedNames plan c ∨ UnroutedNames f d plan creator arguments c := by
  have appended : classesOfCode (arguments.getD [] ++ customizing) =
      classesOfCode (arguments.getD []) ++ classesOfCode customizing := List.flatMap_append
  rw [appended, List.mem_append, mem_classes_arguments direct,
    mem_classes_customizers (innerChain_exact f beanName depth level) customized]
  constructor
  · rintro (argument | ⟨p, listed, part, within, named⟩ | qualifier)
    · exact .inr (.argument argument)
    · rcases named with own | library | ⟨inner, rfl, named⟩
      · exact .inl ⟨p, listed, part, within, own⟩
      · exact .inr (.library listed within library)
      · exact .inr (.inner listed within named)
    · exact .inr (.qualifier qualifier)
  · rintro (⟨p, listed, part, within, own⟩ | unrouted)
    · exact .inr (.inl ⟨p, listed, part, within, .inl own⟩)
    · cases unrouted with
      | argument named => exact .inl named
      | qualifier named => exact .inr (.inr named)
      | library listed within named =>
        exact .inr (.inl ⟨_, listed, _, within, .inr (.inl named)⟩)
      | inner listed within named =>
        exact .inr (.inl ⟨_, listed, _, within, .inr (.inr ⟨_, rfl, named⟩)⟩)

theorem reachable_of_property {r : Registry} {host : Option String} {main : String}
    (hosted : hostPackage r beanName plan = .ok host) {c : ClassName}
    (routed : RoutedNames plan c) : Reachable r (host.getD main) c := by
  obtain ⟨p, listed, part, within, own⟩ := routed
  refine reachable_of_routed fun package restricted => host_of_restricted hosted ?_
  have named : c ∈ valueClasses p.value := ownClasses_subset p.value part within own
  refine List.mem_append_right _ (List.mem_flatMap.mpr ⟨p, listed, ?_⟩)
  exact List.mem_flatMap.mpr ⟨c, named, restricted⟩

/-- The unit of a registration is in the package that it is routed to. -/
theorem package_of_unit (host : Option String) (main : String) :
    (host.filter (· ≠ main)).getD main = host.getD main := by
  cases host with
  | none => rfl
  | some package => by_cases same : package = main <;> simp [Option.filter, same]

/-- The code of configured values is in place where the registration is. -/
theorem configured_placed {t after : Target}
    (registered : register f beanName d plan t = (.ok (), after)) :
    ∃ host creator arguments customizing, hostPackage f.registry beanName plan = .ok host ∧
      plan.creator = some creator ∧ directArguments f d creator = .ok arguments ∧
      after.classes.mainPackage = t.classes.mainPackage ∧
      Placed after (registrationStatement beanName plan creator
        ⟨"instanceSupplier", [supplier creator.executable arguments plan.injections]⟩
        customizing).code (host.filter (· ≠ t.classes.mainPackage)) ∧
      ∀ c, c ∈ classesOfCode (arguments.getD [] ++ customizing) ↔
        RoutedNames plan c ∨ UnroutedNames f d plan creator arguments c := by
  obtain ⟨host, hosted, ⟨complete, grows, placed⟩, -⟩ := register_ok registered
  obtain ⟨creator, arguments, customizing, p, q, known, direct, customized, code⟩ :=
    writeRegistration_statement complete
  refine ⟨host, creator, arguments, customizing, hosted, known, direct, grows.mainPackage,
    code ▸ placed, fun c => ?_⟩
  exact mem_classes_configured direct ⟨p, q, customized⟩

/-- A registration that succeeds is in place in a unit. The code of its configured values names the
classes of property values, which are in reach there, and classes that nothing was routed by: those
of written arguments, of qualifiers, of the container and of inner beans. So all are in reach if and
only if these are. -/
theorem configured_sound_iff {t after : Target}
    (registered : register f beanName d plan t = (.ok (), after)) :
    ∃ creator arguments customizing package, plan.creator = some creator ∧
      directArguments f d creator = .ok arguments ∧
      (hostPackage f.registry beanName plan).map (·.filter (· ≠ t.classes.mainPackage)) =
        .ok package ∧
      Placed after (registrationStatement beanName plan creator
        ⟨"instanceSupplier", [supplier creator.executable arguments plan.injections]⟩
        customizing).code package ∧
      (∀ c, c ∈ classesOfCode (arguments.getD [] ++ customizing) ↔
        RoutedNames plan c ∨ UnroutedNames f d plan creator arguments c) ∧
      (∀ c, RoutedNames plan c → Reachable f.registry (package.getD after.classes.mainPackage) c) ∧
      ((∀ c ∈ classesOfCode (arguments.getD [] ++ customizing),
          Reachable f.registry (package.getD after.classes.mainPackage) c) ↔
        ∀ c, UnroutedNames f d plan creator arguments c →
          Reachable f.registry (package.getD after.classes.mainPackage) c) := by
  obtain ⟨host, creator, arguments, customizing, hosted, known, direct, main, placed, named⟩ :=
    configured_placed registered
  have routed : (hostPackage f.registry beanName plan).map (·.filter (· ≠ t.classes.mainPackage)) =
      .ok (host.filter (· ≠ t.classes.mainPackage)) := by rw [hosted, Except.map]
  have reached (c : ClassName) (property : RoutedNames plan c) :
      Reachable f.registry ((host.filter (· ≠ t.classes.mainPackage)).getD
        after.classes.mainPackage) c := by
    rw [main, package_of_unit]
    exact reachable_of_property hosted property
  refine ⟨creator, arguments, customizing, _, known, direct, routed, placed, named, reached, ?_⟩
  constructor
  · exact fun sound c unrouted => sound c ((named c).mpr (.inr unrouted))
  · intro reachable c listed
    rcases (named c).mp listed with property | unrouted
    · exact reached c property
    · exact reachable c unrouted

end

namespace ConfiguredSample

def service : ClassName := ⟨"com.example", ["Service"]⟩
def internal : ClassName := ⟨"com.example", ["Internal"]⟩

def creates (owner : ClassName) (parameters : List Parameter) : Executable where
  declaringClass := owner
  kind := .constructor
  visibility := .publicAccess
  parameters := parameters

def container (parameters : List Parameter) : BeanFactory where
  registry := ⟨[{ name := service, constructors := [creates service parameters] },
    { name := internal, visibility := .packageAccess, constructors := [creates internal []] }]⟩

def mode : BeanValue := .enumConstant internal "DEFAULT"

def definition (properties : List (String × BeanValue)) : BeanDefinition :=
  { BeanDefinition.blank with beanClass := some service, properties := properties }

def plan (parameters : List Parameter) (d : BeanDefinition) : BeanPlan :=
  .ofExecutable (container parameters) d (creates service parameters)

def target : Target := { classes := .named "com.example.boot" "Bootstrap" }

def registered (parameters : List Parameter) (d : BeanDefinition) : Except Failure Unit × Target :=
  register (container parameters) "service" d (plan parameters d) target

/-- The registration succeeds in the main package, but its configured values name a class that is out
of reach there. -/
def IsMisplaced (parameters : List Parameter) (d : BeanDefinition) : Prop :=
  ∃ after creator arguments customizing, registered parameters d = (.ok (), after) ∧
    Placed after (registrationStatement "service" (plan parameters d) creator
      ⟨"instanceSupplier", [supplier creator.executable arguments (plan parameters d).injections]⟩
      customizing).code none ∧
    internal ∈ classesOfCode (arguments.getD [] ++ customizing) ∧
    ¬ Reachable (container parameters).registry after.classes.mainPackage internal

theorem isMisplaced_of_unrouted {parameters : List Parameter} {d : BeanDefinition}
    (succeeds : (registered parameters d).1 = .ok ())
    (hosted : hostPackage (container parameters).registry "service" (plan parameters d) = .ok none)
    (unrouted : ∀ arguments, directArguments (container parameters) d
        (.of (container parameters).registry (creates service parameters)) = .ok arguments →
      UnroutedNames (container parameters) d (plan parameters d)
        (.of (container parameters).registry (creates service parameters)) arguments internal) :
    IsMisplaced parameters d := by
  obtain ⟨host, creator, arguments, customizing, routed, known, direct, main, placed, named⟩ :=
    configured_placed (Prod.ext succeeds rfl)
  obtain rfl : host = none := Except.ok.inj (routed.symm.trans hosted)
  obtain rfl : Creator.of (container parameters).registry (creates service parameters) = creator :=
    Option.some.inj known
  refine ⟨_, _, arguments, customizing, Prod.ext succeeds rfl, placed, ?_, ?_⟩
  · exact (named internal).mpr (.inr (unrouted arguments direct))
  · rw [registered, main]
    have hidden : (container parameters).registry.isAccessible internal = false := rfl
    rintro (accessible | same)
    · simp [hidden] at accessible
    · exact absurd same (by decide)

def qualified : BeanDefinition := { definition [] with qualifiers := [⟨internal, none⟩] }

def anything : Parameter := { name := "mode", type := .ofClass Known.object }

def argued : BeanDefinition := { definition [] with arguments := ⟨[], [⟨mode, none⟩]⟩ }

def hiddenBean : BeanDefinition := { BeanDefinition.blank with beanClass := some internal }

def nesting : BeanDefinition := definition [("part", .list [.inner hiddenBean])]

end ConfiguredSample

open ConfiguredSample in
/-- A list of constants of the enumeration takes the registration to its package. -/
theorem configured_sound_sample :
    (registered [] (definition [("modes", .list [mode])])).1 = .ok () ∧
      ∃ creator arguments customizing,
        (plan [] (definition [("modes", .list [mode])])).creator = some creator ∧
        directArguments (container []) (definition [("modes", .list [mode])]) creator =
          .ok arguments ∧
        internal ∈ classesOfCode (arguments.getD [] ++ customizing) ∧
        ∀ c ∈ classesOfCode (arguments.getD [] ++ customizing),
          Reachable (container []).registry "com.example" c := by
  have succeeds : (registered [] (definition [("modes", .list [mode])])).1 = .ok () := by
    decide +kernel
  have hosted : hostPackage (container []).registry "service"
      (plan [] (definition [("modes", .list [mode])])) = .ok (some "com.example") := by
    decide +kernel
  obtain ⟨creator, arguments, customizing, package, known, direct, routed, -, named, -, sound⟩ :=
    configured_sound_iff (Prod.ext succeeds rfl)
  obtain rfl : package = some "com.example" := by
    rw [hosted] at routed
    exact (Except.ok.inj routed).symm
  obtain rfl : Creator.of (container []).registry (creates service []) = creator :=
    Option.some.inj known
  have parts : ∀ p ∈ (plan [] (definition [("modes", .list [mode])])).properties,
      p.value.parts = [.list [mode], mode] := fun p listed => by
    obtain rfl := List.mem_singleton.mp listed
    rfl
  refine ⟨succeeds, _, arguments, customizing, known, direct, ?_, sound.mpr fun c unrouted => ?_⟩
  · exact (named internal).mpr (.inl ⟨_, .head _, mode, .tail _ (.head _), .head _⟩)
  cases unrouted with
  | argument named =>
    obtain ⟨-, v, listed, -⟩ := named
    cases listed
  | qualifier named => cases named
  | library listed within named =>
    rw [parts _ listed] at within
    rcases List.mem_cons.mp within with rfl | within
    · obtain rfl : c = Known.list := List.mem_singleton.mp named
      exact .inl (by decide +kernel)
    · obtain rfl := List.mem_singleton.mp within
      cases named
  | inner listed within named =>
    rw [parts _ listed] at within
    simp [mode] at within

open ConfiguredSample in
/-- A qualifier, a written argument and an inner bean of the class do not take the registration to its
package. -/
theorem configured_not_sound :
    IsMisplaced [] qualified ∧ IsMisplaced [anything] argued ∧ IsMisplaced [] nesting := by
  refine ⟨?_, ?_, ?_⟩
  · refine isMisplaced_of_unrouted (by decide +kernel) (by decide +kernel) fun arguments _ => ?_
    exact .qualifier (.tail _ (.head _))
  · refine isMisplaced_of_unrouted (by decide +kernel) (by decide +kernel) fun arguments direct => ?_
    have written : ∃ texts, directArguments (container [anything]) argued
        (.of (container [anything]).registry (creates service [anything])) = .ok (some texts) := by
      rw [directArguments, if_neg (by decide +kernel), if_neg (by decide +kernel)]
      exact ⟨_, rfl⟩
    obtain ⟨texts, written⟩ := written
    obtain rfl : arguments = some texts := Except.ok.inj (direct.symm.trans written)
    exact .argument ⟨rfl, mode, .head _, mode, .head _, .inl (.head _)⟩
  · refine isMisplaced_of_unrouted (by decide +kernel) (by decide +kernel) fun arguments _ => ?_
    have detected : detect (container []) hiddenBean = .ok (some (creates internal [])) := by
      decide +kernel
    have source : WrittenFrom (container []) hiddenBean
        (.ofExecutable (container []) hiddenBean (creates internal []))
        (.of (container []).registry (creates internal [])) (some []) := by
      refine ⟨?_, rfl, rfl⟩
      rw [BeanPlan.ofDefinition, detected]
      rfl
    exact .inner (.head _) (.tail _ (.head _)) (.creation source (by decide +kernel))

end Prewire.Registration
