import Mathlib.Data.Finset.Card
import Prewire.Beans.Factory
import Prewire.Proofs.Types.Reachability

/-! Types of beans whose definitions are acyclic. The type of a value descends into inner definitions and
jumps to other beans by name, without a guard against cycles. Where no bean leads back to itself, each
jump leaves fewer beans within reach, so that there is an answer for every name, definition and value, and
the limit on jumps plays no part in it. -/
namespace Prewire.Beans

open Java Types

/-- Whether the type of what a definition produces is left to its factory method. -/
def BeanDefinition.AsksFactoryMethod (d : BeanDefinition) : Prop :=
  d.targetType = none ∧ d.factoryMethod.isSome

/-- The type of a value depends on a bean: the one that it refers to or, for an inner definition that asks
its factory method, the factory bean and those that untyped arguments depend on. -/
inductive BeanValue.DependsOn : BeanValue → String → Prop
  | reference (name : String) : DependsOn (.reference name) name
  | factory {d : BeanDefinition} {name : String} (asks : d.AsksFactoryMethod)
    (called : d.factoryBean = some name) : DependsOn (.inner d) name
  | argument {d : BeanDefinition} {a : ArgumentValue} {name : String} (asks : d.AsksFactoryMethod)
    (configured : a ∈ d.arguments.ordered) (untyped : a.type = none)
    (depends : DependsOn a.value name) : DependsOn (.inner d) name

namespace BeanValue

theorem dependsOn_reference {bean name : String} : (reference bean).DependsOn name ↔ name = bean := by
  constructor
  · rintro ⟨⟩
    rfl
  · rintro rfl
    exact .reference name

theorem dependsOn_inner {d : BeanDefinition} {name : String} : (inner d).DependsOn name ↔
    d.AsksFactoryMethod ∧ (d.factoryBean = some name ∨
      ∃ a ∈ d.arguments.ordered, a.type = none ∧ a.value.DependsOn name) := by
  constructor
  · rintro (_ | ⟨asks, called⟩ | ⟨asks, configured, untyped, depends⟩)
    · exact ⟨asks, .inl called⟩
    · exact ⟨asks, .inr ⟨_, configured, untyped, depends⟩⟩
  · rintro ⟨asks, called | ⟨a, configured, untyped, depends⟩⟩
    · exact .factory asks called
    · exact .argument asks configured untyped depends

end BeanValue

namespace BeanFactory

theorem mem_of_lookup {α : Type} {beans : List (String × α)} {name : String} {a : α}
    (found : beans.lookup name = some a) : (name, a) ∈ beans := by
  obtain ⟨before, after, rfl, -⟩ := List.lookup_eq_some_iff.mp found
  simp

/-- The type of one bean depends on another one. A singleton stands before a definition of its name. -/
inductive DependsOn (f : BeanFactory) (name other : String) : Prop
  | singleton {value : BeanValue} (present : f.singleton? name = some value)
    (depends : value.DependsOn other) : DependsOn f name other
  | definition {d : BeanDefinition} (absent : f.singleton? name = none)
    (defined : f.definition? name = some d) (depends : (BeanValue.inner d).DependsOn other) :
    DependsOn f name other

/-- No bean leads back to itself. -/
def IsAcyclic (f : BeanFactory) : Prop := ∀ name, ¬ Relation.TransGen f.DependsOn name name

def beanNames (f : BeanFactory) : List String :=
  f.definitions.map Prod.fst ++ f.singletons.map Prod.fst

theorem DependsOn.mem_beanNames {f : BeanFactory} {name other : String} (depends : f.DependsOn name other) :
    name ∈ f.beanNames := by
  cases depends with
  | singleton present =>
    exact List.mem_append_right _ (List.mem_map.mpr ⟨_, mem_of_lookup present, rfl⟩)
  | definition _ defined =>
    exact List.mem_append_left _ (List.mem_map.mpr ⟨_, mem_of_lookup defined, rfl⟩)

/-! ### Fewer beans within reach -/

open Classical in
/-- The beans that a name leads to, itself included if it is one. -/
noncomputable def withinReach (f : BeanFactory) (name : String) : Finset String :=
  f.beanNames.toFinset.filter (Relation.ReflTransGen f.DependsOn name)

open Classical in
theorem mem_withinReach {f : BeanFactory} {name other : String} :
    other ∈ f.withinReach name ↔
      other ∈ f.beanNames ∧ Relation.ReflTransGen f.DependsOn name other := by
  simp [withinReach]

theorem card_withinReach_lt {f : BeanFactory} (acyclic : f.IsAcyclic) {name other : String}
    (depends : f.DependsOn name other) : (f.withinReach other).card < (f.withinReach name).card := by
  apply Finset.card_lt_card
  rw [Finset.ssubset_iff_of_subset]
  · refine ⟨name, mem_withinReach.mpr ⟨depends.mem_beanNames, .refl⟩, fun back => ?_⟩
    exact acyclic name (.head' depends (mem_withinReach.mp back).2)
  · intro further reached
    obtain ⟨known, leads⟩ := mem_withinReach.mp reached
    exact mem_withinReach.mpr ⟨known, .head depends leads⟩

theorem card_withinReach_lt_dependencyLimit (f : BeanFactory) (name : String) :
    (f.withinReach name).card < f.dependencyLimit := by
  have known : f.withinReach name ⊆ f.beanNames.toFinset := fun other reached =>
    List.mem_toFinset.mpr (mem_withinReach.mp reached).1
  have fewer := Finset.card_le_card known
  have listed : f.beanNames.toFinset.card ≤ f.beanNames.length := List.toFinset_card_le _
  have counted : f.beanNames.length = f.definitions.length + f.singletons.length := by
    simp [beanNames]
  rw [dependencyLimit]
  omega

end BeanFactory

/-! ### One answer from the answers it depends on -/

def Answer.Agree {α : Type} (left right : Answer α) : Prop := ∃ a, left = some a ∧ right = some a

namespace Answer

variable {α β : Type}

theorem Agree.pure (a : α) : Agree (pure a) (pure a) := ⟨a, rfl, rfl⟩

theorem Agree.bind {left right : Answer α} (agree : left.Agree right) {next other : α → Answer β}
    (after : ∀ a, (next a).Agree (other a)) : Agree (left >>= next) (right >>= other) := by
  obtain ⟨a, rfl, rfl⟩ := agree
  exact after a

theorem Agree.eq_join {answer : Answer (Option α)} (agree : answer.Agree answer) :
    answer = some answer.join := by
  obtain ⟨a, rfl, -⟩ := agree
  rfl

end Answer

namespace BeanFactory

section
variable {r : Registry} {left right : String → Answer (Option JavaType)}

def AgreeAll (arguments others : List ArgumentType) : Prop :=
  List.Forall₂ (fun argument other => (argument ()).Agree (other ())) arguments others

theorem acceptsArguments_agree (parameters : List JavaType) {arguments others : List ArgumentType}
    (agree : AgreeAll arguments others) :
    (acceptsArguments r parameters arguments).Agree (acceptsArguments r parameters others) := by
  induction agree generalizing parameters with
  | nil =>
    simp only [acceptsArguments]
    exact .pure true
  | cons first _ ih =>
    cases parameters with
    | nil =>
      simp only [acceptsArguments]
      exact .pure true
    | cons parameter parameters =>
      simp only [acceptsArguments]
      refine first.bind fun type => ?_
      cases type with
      | none => exact ih parameters
      | some type =>
        simp only
        split
        · exact ih parameters
        · exact .pure false

theorem agreedReturnType_agree {arguments others : List ArgumentType} (agree : AgreeAll arguments others)
    (agreed : Option JavaType) (methods : List Executable) :
    (agreedReturnType r arguments agreed methods).Agree (agreedReturnType r others agreed methods) := by
  induction methods generalizing agreed with
  | nil => exact .pure agreed
  | cons m rest ih =>
    simp only [agreedReturnType]
    refine (acceptsArguments_agree m.parameterTypes agree).bind fun taken => ?_
    split
    · split
      · exact ih _
      · exact ih _
      · split
        · exact ih _
        · exact .pure none
    · exact ih agreed

theorem factoryClassBy_agree {d : BeanDefinition}
    (agree : ∀ name, d.factoryBean = some name → (left name).Agree (right name)) :
    (factoryClassBy left d).Agree (factoryClassBy right d) := by
  simp only [factoryClassBy]
  split
  · next name called => exact (agree name called).bind fun type => .pure _
  · exact .pure _

theorem methodReturnType_agree {d : BeanDefinition} {arguments others : List ArgumentType}
    (factory : ∀ name, d.factoryBean = some name → (left name).Agree (right name))
    (agree : AgreeAll arguments others) :
    (methodReturnType r left d arguments).Agree (methodReturnType r right d others) := by
  simp only [methodReturnType, agree.length_eq]
  split
  · exact .pure none
  · refine (factoryClassBy_agree factory).bind fun owner => ?_
    cases owner with
    | none => exact .pure none
    | some owner => exact agreedReturnType_agree agree none _

/-- What a definition produces only depends on other beans where it asks its factory method. -/
theorem producedType_agree {d : BeanDefinition} {arguments others : List ArgumentType}
    (factory : d.AsksFactoryMethod → ∀ name, d.factoryBean = some name → (left name).Agree (right name))
    (agree : d.AsksFactoryMethod → AgreeAll arguments others) :
    (producedType r left d arguments).Agree (producedType r right d others) := by
  simp only [producedType]
  split
  · exact .pure _
  · next untargeted =>
    suffices returned : (methodReturnType r left d arguments).Agree (methodReturnType r right d others)
      from returned.bind fun type => .pure _
    cases method : d.factoryMethod with
    | none =>
      simp only [methodReturnType, method]
      exact .pure none
    | some name =>
      have asks : d.AsksFactoryMethod := ⟨untargeted, by rw [method]; rfl⟩
      exact methodReturnType_agree (factory asks) (agree asks)

end

section
variable {r : Registry} {left right : String → Answer (Option JavaType)}

/-- The beans that the untyped ones of some arguments depend on have one type. -/
def AgreeOn (left right : String → Answer (Option JavaType)) (arguments : List ArgumentValue) : Prop :=
  ∀ a ∈ arguments, a.type = none → ∀ name, a.value.DependsOn name → (left name).Agree (right name)

mutual
theorem valueTypeBy_agree : ∀ value : BeanValue,
    (∀ name, value.DependsOn name → (left name).Agree (right name)) →
    (valueTypeBy r left value).Agree (valueTypeBy r right value)
  | .inner d, agree => by
    simp only [valueTypeBy]
    exact definitionTypeBy_agree d agree
  | .reference name, agree => by
    simp only [valueTypeBy]
    exact agree name (.reference name)
  | .null, _ | .boolean _, _ | .byte _, _ | .short _, _ | .int _, _ | .long _, _ | .float _, _
  | .double _, _ | .char _, _ | .string _, _ | .enumConstant .., _ | .classLiteral _, _
  | .array .., _ | .list _, _ | .set _, _ | .opaqueInstance _, _ => by
    simp only [valueTypeBy]
    exact .pure _
theorem definitionTypeBy_agree : ∀ d : BeanDefinition,
    (∀ name, (BeanValue.inner d).DependsOn name → (left name).Agree (right name)) →
    (definitionTypeBy r left d).Agree (definitionTypeBy r right d)
  | .mk a b c m (.mk indexed generic) p ro pr sc l q ab, agree => by
    simp only [definitionTypeBy, argumentTypesBy]
    refine producedType_agree (fun asks name called => agree name (.factory asks called)) fun asks => ?_
    have inside : AgreeOn left right (indexed.map Prod.snd ++ generic) :=
      fun a configured untyped name depends => agree name (.argument asks configured untyped depends)
    exact List.rel_append
      (indexedTypesBy_agree indexed fun a member => inside a (List.mem_append_left _ member))
      (genericTypesBy_agree generic fun a member => inside a (List.mem_append_right _ member))
theorem argumentTypeBy_agree : ∀ a : ArgumentValue,
    (a.type = none → ∀ name, a.value.DependsOn name → (left name).Agree (right name)) →
    (argumentTypeBy r left a).Agree (argumentTypeBy r right a)
  | .mk _ (some _), _ => by
    simp only [argumentTypeBy]
    exact .pure _
  | .mk value none, agree => by
    simp only [argumentTypeBy]
    exact valueTypeBy_agree value (agree rfl)
theorem indexedTypesBy_agree : ∀ indexed : List (Nat × ArgumentValue),
    AgreeOn left right (indexed.map Prod.snd) →
    AgreeAll (indexedTypesBy r left indexed) (indexedTypesBy r right indexed)
  | [], _ => .nil
  | (_, a) :: rest, agree => by
    simp only [indexedTypesBy]
    exact .cons (argumentTypeBy_agree a (agree a List.mem_cons_self))
      (indexedTypesBy_agree rest fun b member => agree b (List.mem_cons_of_mem _ member))
theorem genericTypesBy_agree : ∀ generic : List ArgumentValue, AgreeOn left right generic →
    AgreeAll (genericTypesBy r left generic) (genericTypesBy r right generic)
  | [], _ => .nil
  | a :: rest, agree => by
    simp only [genericTypesBy]
    exact .cons (argumentTypeBy_agree a (agree a List.mem_cons_self))
      (genericTypesBy_agree rest fun b member => agree b (List.mem_cons_of_mem _ member))
end

end

/-! ### Every type has an answer -/

section
variable {f : BeanFactory} (acyclic : f.IsAcyclic)
include acyclic

/-- Limits that leave room for the beans within reach give one and the same answer. -/
theorem beanTypeWithin_agree {depth other : Nat} {name : String}
    (room : (f.withinReach name).card < depth) (otherRoom : (f.withinReach name).card < other) :
    (f.beanTypeWithin depth name).Agree (f.beanTypeWithin other name) := by
  induction depth generalizing other name with
  | zero => cases room
  | succ depth ih =>
    obtain ⟨other, rfl⟩ := Nat.exists_eq_succ_of_ne_zero (Nat.ne_zero_of_lt otherRoom)
    -- What the bean depends on has fewer beans within reach, and the limits are one less.
    have further {above : String} (depends : f.DependsOn name above) :
        (f.beanTypeWithin depth above).Agree (f.beanTypeWithin other above) := by
      have fewer := card_withinReach_lt acyclic depends
      exact ih (by omega) (by omega)
    simp only [beanTypeWithin]
    cases present : f.singleton? name with
    | some value => exact valueTypeBy_agree value fun _ depends => further (.singleton present depends)
    | none =>
      cases defined : f.definition? name with
      | some d => exact definitionTypeBy_agree d fun _ depends => further (.definition present defined depends)
      | none => exact .pure none

theorem beanTypeAnswer_agree (name : String) :
    (f.beanTypeAnswer name).Agree (f.beanTypeAnswer name) :=
  beanTypeWithin_agree acyclic (f.card_withinReach_lt_dependencyLimit name)
    (f.card_withinReach_lt_dependencyLimit name)

theorem beanTypeWithin_eq_of_le {depth : Nat} (deep : f.dependencyLimit ≤ depth) (name : String) :
    f.beanTypeWithin depth name = f.beanTypeAnswer name := by
  have room := f.card_withinReach_lt_dependencyLimit name
  obtain ⟨type, within, answer⟩ := beanTypeWithin_agree acyclic (Nat.lt_of_lt_of_le room deep) room
  exact within.trans answer.symm

/-- Every name, definition and value has an answer. A bean has the type of its singleton or of what its
definition produces, and it has it at every higher limit too. -/
theorem typeAnswers_of_acyclic :
    (∀ name, f.beanTypeAnswer name = some (f.beanType? name)) ∧
    (∀ d, f.definitionTypeAnswer d = some (f.definitionType? d)) ∧
    (∀ d, f.factoryClassAnswer d = some (f.factoryClass? d)) ∧
    (∀ value, f.valueTypeAnswer value = some (f.valueType? value)) ∧
    (∀ name, f.beanType? name = match f.singleton? name with
      | some value => f.valueType? value
      | none => (f.definition? name).bind f.definitionType?) ∧
    ∀ depth name, f.dependencyLimit ≤ depth → f.beanTypeWithin depth name = f.beanTypeAnswer name := by
  have answered := beanTypeAnswer_agree acyclic
  refine ⟨fun name => (answered name).eq_join, fun d => ?_, fun d => ?_, fun value => ?_,
    fun name => ?_, fun depth name deep => beanTypeWithin_eq_of_le acyclic deep name⟩
  · exact (definitionTypeBy_agree d fun name _ => answered name).eq_join
  · exact (factoryClassBy_agree fun name _ => answered name).eq_join
  · exact (valueTypeBy_agree value fun name _ => answered name).eq_join
  · -- One step of the recursion at the next limit, which gives the same answers.
    have next := beanTypeWithin_eq_of_le acyclic (Nat.le_succ f.dependencyLimit) name
    rw [beanType?, ← next, beanTypeWithin]
    cases present : f.singleton? name with
    | some value => rfl
    | none => cases defined : f.definition? name <;> rfl

end

namespace AcyclicSample

def named (name : String) : ClassName := ⟨"com.example", [name]⟩

def parameter (type : ClassName) : Parameter := { name := "value", type := .ofClass type }

def factory : TypeDeclaration where
  name := named "Factory"
  methods := [
    { declaringClass := named "Factory"
      kind := .method "create" (some (.ofClass (named "Table"))) false
      parameters := [parameter Known.string] },
    { declaringClass := named "Factory"
      kind := .method "title" (some (.ofClass Known.string)) true
      parameters := [parameter Known.string] }]

def made (factoryBean : Option String) (method : String) (argument : BeanValue) : BeanDefinition :=
  { BeanDefinition.blank with
    beanClass := some (named "Factory")
    factoryBean := factoryBean
    factoryMethod := some method
    arguments := ⟨[], [⟨argument, none⟩]⟩ }

/-- A table made by a factory bean, its title by an inner definition from another bean. Two definitions
name themselves: one has a target type, and a singleton stands before the other. -/
def beans : BeanFactory where
  registry := ⟨[factory]⟩
  definitions := [
    ("factory", { BeanDefinition.blank with beanClass := some (named "Factory") }),
    ("table", made (some "factory") "create" (.inner (made none "title" (.reference "label")))),
    ("alias", made (some "alias") "create" .null),
    ("typed", { made (some "typed") "create" .null with targetType := some (.ofClass (named "Table")) })]
  singletons := [("label", .string "Prices"), ("alias", .reference "table")]

def rank (name : String) : Nat := if name = "alias" then 2 else if name = "table" then 1 else 0

theorem dependsOn_made {factoryBean : Option String} {method name : String} {argument : BeanValue} :
    (BeanValue.inner (made factoryBean method argument)).DependsOn name ↔
      factoryBean = some name ∨ argument.DependsOn name := by
  simp [BeanValue.dependsOn_inner, BeanDefinition.AsksFactoryMethod, made, BeanDefinition.blank,
    ConstructorArguments.ordered]

theorem isAcyclic : beans.IsAcyclic := by
  apply not_transGen_self_of_rank rank
  intro name other depends
  cases depends with
  | singleton present depends =>
    have listed := mem_of_lookup present
    simp only [beans, List.mem_cons, Prod.mk.injEq, List.not_mem_nil, or_false] at listed
    obtain ⟨rfl, rfl⟩ | ⟨rfl, rfl⟩ := listed
    · cases depends
    · obtain rfl := BeanValue.dependsOn_reference.mp depends
      decide
  | definition absent defined depends =>
    have listed := mem_of_lookup defined
    simp only [beans, List.mem_cons, Prod.mk.injEq, List.not_mem_nil, or_false] at listed
    obtain ⟨rfl, rfl⟩ | ⟨rfl, rfl⟩ | ⟨rfl, rfl⟩ | ⟨rfl, rfl⟩ := listed
    · cases (BeanValue.dependsOn_inner.mp depends).1.2
    · simp only [dependsOn_made, BeanValue.dependsOn_reference, reduceCtorEq, false_or] at depends
      obtain same | rfl := depends
      · obtain rfl := Option.some.inj same
        decide
      · decide
    · exact absurd absent (by decide)
    · cases (BeanValue.dependsOn_inner.mp depends).1.1

end AcyclicSample

open AcyclicSample in
/-- The alias has the type of the table, which asks the factory bean and, through an inner definition, the
label. -/
theorem typeAnswers_of_acyclic_tables : beans.IsAcyclic ∧
    beans.beanTypeAnswer "alias" = some (some (.ofClass (named "Table"))) ∧
    beans.valueTypeAnswer (.inner (made none "title" (.reference "label"))) =
      some (some (.ofClass Known.string)) := by
  obtain ⟨ofBeans, -, -, ofValues, -⟩ := typeAnswers_of_acyclic isAcyclic
  refine ⟨isAcyclic, (ofBeans "alias").trans ?_, (ofValues _).trans ?_⟩
  · decide +kernel
  · decide +kernel

end BeanFactory
end Prewire.Beans
