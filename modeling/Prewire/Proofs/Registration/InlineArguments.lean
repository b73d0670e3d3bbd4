import Prewire.Proofs.Registration.Bindings
import Prewire.Proofs.Registration.LiteralConversion

/-! Arguments that are written out, and the parameters that they are written for. A parameter takes its
argument in the conversions of a call, but for bytes and shorts that are written as `int`s, and for type
arguments that are not compared in full. -/
namespace Prewire.Registration

open Java Types Beans BeanValue Plan Registry

/-- The types that the parameter at a place takes: its own, and as the last one of many that of its
elements. -/
def targets (e : Executable) (place : Nat) (parameter : JavaType) : List JavaType :=
  parameter :: if e.isVarargs && place + 1 = e.parameterCount then parameter.component?.toList else []

def boundsOf (r : Registry) (e : Executable) : Bindings := r.parameterBounds e.declaringClass

def TakesArgument (r : Registry) (e : Executable) (place : Nat) (parameter : JavaType)
    (type : PassedType) : Prop :=
  ∃ target ∈ targets e place parameter, r.Takes (boundsOf r e) target type

/-- What keeps a parameter from taking an argument. -/
inductive Mismatch (r : Registry) (e : Executable) (place : Nat) (parameter : JavaType)
    (value : BeanValue) (type : PassedType) : Prop
  /-- A byte or short is written as an `int`. -/
  | narrow (narrow : value.isNarrow) (plain : type = .of (.primitive .int))
  /-- The parameter asks for elements of a type, and those of the collection share none that they
  keep. -/
  | elements (collection : value.isCollection) (generic : parameter.erasure ≠ parameter)
    (mixed : keepsType value (some parameter) = false)
  /-- The type of the value only fits where raw types and variables agree with anything. -/
  | loose (generic : parameter.erasure ≠ parameter ∨
      ∃ t, value.literalType? = some t ∧ t.variableNames ≠ [])
    (apart : ∀ target ∈ targets e place parameter, ∀ t, value.HasType t →
      ¬ r.WidensToInstance (boundsOf r e) target t)
  /-- A variable of the parameter has a bound, which plays no part in the choice. -/
  | bounded {name : String} (occurs : name ∈ parameter.variableNames)
    (bound : (boundsOf r e).value? name ≠ none)
  /-- A type is declared below a variable, an array or a primitive. -/
  | supertypes (illegal : ¬ r.HasClassSupertypes)

section
variable {r : Registry} {e : Executable} {place : Nat} {parameter target t : JavaType}
variable {value : BeanValue}

theorem mem_targets : target ∈ targets e place parameter ↔
    target = parameter ∨
      (e.isVarargs ∧ place + 1 = e.parameterCount) ∧ parameter = .array target := by
  rw [targets, List.mem_cons]
  split
  · next last =>
    rw [Bool.and_eq_true, decide_eq_true_eq] at last
    cases parameter <;> simp [JavaType.component?, last, eq_comm]
  · next last =>
    rw [Bool.and_eq_true, decide_eq_true_eq] at last
    simp [last]

/-- The elements of a last parameter have no type arguments or bounds that it has not. -/
theorem plain_of_mem_targets (listed : target ∈ targets e place parameter)
    (plain : parameter.erasure = parameter) : target.erasure = target := by
  rcases mem_targets.mp listed with rfl | ⟨-, rfl⟩
  · exact plain
  · exact JavaType.array.inj plain

theorem unbounded_of_mem_targets {bounds : Bindings} (listed : target ∈ targets e place parameter)
    (unbounded : Unbounded bounds parameter) : Unbounded bounds target := by
  rcases mem_targets.mp listed with rfl | ⟨-, rfl⟩
  · exact unbounded
  · exact unbounded

/-- A collection is taken without a look at its elements where the parameter has no type arguments. -/
theorem takes_collection {bounds : Bindings} (classes : r.HasClassSupertypes) {c : ClassName}
    {own : List JavaType} {types : List PassedType}
    (objects : ∀ type ∈ types, r.Converts type (.ofClass Known.object))
    (assignable : r.isAssignable target (.classType c own)) (reference : target.isPrimitive = false)
    (plain : target.erasure = target) (unbounded : Unbounded bounds target) :
    r.Takes bounds target (.collection c types) := by
  cases target with
  | primitive => cases reference
  | array => simp [isAssignable, assigns] at assignable
  | classType n arguments =>
    obtain rfl : [] = arguments := by simpa [JavaType.erasure, JavaType.ofClass] using plain
    have widens := widens_any_arguments classes (widens_of_isAssignable assignable)
      [.ofClass Known.object]
    exact ⟨_, isInstance_self unbounded, .collection rfl objects widens⟩
  | «variable» =>
    exact ⟨.classType c [.ofClass Known.object], isInstance_variable (unbounded _ List.mem_cons_self) rfl,
      .collection rfl objects (.refl rfl)⟩

theorem not_isAssignable_collection {q : Primitive} {c : ClassName} {own : List JavaType}
    (known : c = Known.list ∨ c = Known.set) : ¬ r.isAssignable (.primitive q) (.classType c own) := by
  intro assignable
  obtain ⟨name, arguments, p, same, wraps, -⟩ := isAssignable_primitive assignable rfl rfl
  obtain ⟨rfl, -⟩ := JavaType.classType.inj same
  have none : Primitive.unboxed? c = none := by rcases known with rfl | rfl <;> decide
  cases none.symm.trans wraps

/-- What a collection is: its factory, the type that stands for it in the choice, and the types of its
elements, which all convert to `Object`. -/
theorem collection_forms (collection : value.isCollection) (declared : Option JavaType) :
    ∃ c own types, (c = Known.list ∨ c = Known.set) ∧ value.literalType? = some (.classType c own) ∧
      formType value declared = .collection c types ∧
      ∀ type ∈ types, r.Converts type (.ofClass Known.object) := by
  cases value with
  | list elements =>
    obtain ⟨own, same⟩ := exists_collectionType Known.list (literalTypes elements)
    exact ⟨_, own, _, .inl rfl, congrArg some same, rfl, converts_objects elements _⟩
  | set elements =>
    obtain ⟨own, same⟩ := exists_collectionType Known.set (literalTypes elements)
    exact ⟨_, own, _, .inr rfl, congrArg some same, rfl, converts_objects elements _⟩
  | _ => cases collection

theorem takes_or_mismatch_of_collection (classes : r.HasClassSupertypes)
    (unbounded : Unbounded (boundsOf r e) parameter) (literal : value.isLiteral)
    (collection : value.isCollection) (listed : target ∈ targets e place parameter)
    (typed : value.literalType? = some t) (assignable : r.isAssignable target t) :
    TakesArgument r e place parameter (formType value (some parameter)) ∨
      Mismatch r e place parameter value (formType value (some parameter)) := by
  by_cases plain : parameter.erasure = parameter
  · obtain ⟨c, own, types, known, same, written, objects⟩ :=
      collection_forms (r := r) collection (some parameter)
    obtain rfl := Option.some.inj (typed.symm.trans same)
    have reference : target.isPrimitive = false := by
      cases target with
      | primitive => exact absurd assignable (not_isAssignable_collection known)
      | _ => rfl
    rw [written]
    exact .inl ⟨target, listed, takes_collection classes objects assignable reference
      (plain_of_mem_targets listed plain) (unbounded_of_mem_targets listed unbounded)⟩
  · cases keeps : keepsType value (some parameter) with
    | false => exact .inr (.elements collection plain keeps)
    | true =>
      by_cases fits : ∃ target ∈ targets e place parameter, ∃ t, value.HasType t ∧
          r.WidensToInstance (boundsOf r e) target t
      · obtain ⟨target, listed, t, typed, above, instantiated, widens⟩ := fits
        exact .inl ⟨target, listed, above, instantiated,
          converts_of_hasType classes literal keeps typed widens⟩
      · exact .inr (.loose (.inl plain) fun target listed t typed widens =>
          fits ⟨target, listed, t, typed, widens⟩)

theorem hasType_of_single (single : value.isCollection = false) :
    value.HasType t ↔ value.literalType? = some t := by
  cases value with
  | list | set => cases single
  | _ => exact .rfl

theorem takes_or_mismatch_of_single (classes : r.HasClassSupertypes)
    (unbounded : Unbounded (boundsOf r e) parameter) (literal : value.isLiteral)
    (single : value.isCollection = false) (listed : target ∈ targets e place parameter)
    (typed : value.literalType? = some t) (assignable : r.isAssignable target t) :
    TakesArgument r e place parameter (formType value (some parameter)) ∨
      Mismatch r e place parameter value (formType value (some parameter)) := by
  rcases form_cases (r := r) value single parameter with converts | keeps | ⟨narrow, plain⟩
  · exact .inl ⟨parameter, List.mem_cons_self, parameter, isInstance_self unbounded, converts⟩
  · have takes {target t : JavaType} (listed : target ∈ targets e place parameter)
        (typed : value.literalType? = some t) (widens : r.WidensToInstance (boundsOf r e) target t) :
        TakesArgument r e place parameter (formType value (some parameter)) := by
      obtain ⟨above, instantiated, widens⟩ := widens
      exact ⟨target, listed, above, instantiated,
        converts_of_widens classes single literal keeps typed widens⟩
    cases primitive : target.isPrimitive with
    | true =>
      cases target with
      | primitive q =>
        have converts := converts_primitive literal keeps typed assignable
        exact .inl ⟨_, listed, _, isInstance_self (unbounded_of_mem_targets listed unbounded), converts⟩
      | _ => cases primitive
    | false =>
      by_cases generic : parameter.erasure ≠ parameter ∨
          ∃ t, value.literalType? = some t ∧ t.variableNames ≠ []
      · by_cases fits : ∃ target ∈ targets e place parameter, r.WidensToInstance (boundsOf r e) target t
        · obtain ⟨target, listed, widens⟩ := fits
          exact .inl (takes listed typed widens)
        · refine .inr (.loose generic fun target listed other known widens => fits ⟨target, listed, ?_⟩)
          obtain rfl := Option.some.inj (typed.symm.trans ((hasType_of_single single).mp known))
          exact widens
      · simp only [not_or, not_not, not_exists, not_and] at generic
        refine .inl (takes listed typed (widensToInstance_of_isAssignable assignable
          (plain_of_mem_targets listed generic.1) (unbounded_of_mem_targets listed unbounded) primitive
          (isReference_of_literalType? literal typed).1 (generic.2 t typed)))
  · exact .inr (.narrow narrow plain)

variable {f : BeanFactory}

theorem valueType?_of_isLiteral (literal : value.isLiteral) : f.valueType? value = value.literalType? :=
  congrArg Option.join (valueTypeAnswer_of_isLiteral literal f)

/-- A value that is found fit for a parameter has no type, or the form that the parameter asks for, or is
assignable to a type that the parameter takes. -/
theorem bindsDirectly_cases (literal : value.isLiteral)
    (binds : bindsDirectly f value parameter (e.isVarargs && place + 1 = e.parameterCount)) :
    (value.literalType? = none ∧ parameter.isPrimitive = false) ∨ takesForm value parameter ∨
      ∃ t, value.literalType? = some t ∧
        ∃ target ∈ targets e place parameter, f.registry.isAssignable target t := by
  rw [bindsDirectly, valueType?_of_isLiteral literal] at binds
  cases typed : value.literalType? with
  | none =>
    rw [typed] at binds
    exact .inl ⟨rfl, by simpa using binds⟩
  | some t =>
    simp only [typed, Bool.or_eq_true, Bool.and_eq_true, decide_eq_true_eq] at binds
    rcases binds with (assignable | form) | ⟨last, element⟩
    · exact .inr (.inr ⟨t, rfl, parameter, List.mem_cons_self, assignable⟩)
    · exact .inr (.inl form)
    · cases parameter with
      | array component =>
        exact .inr (.inr ⟨t, rfl, component, mem_targets.mpr (.inr ⟨last, rfl⟩),
          by simpa [JavaType.component?] using element⟩)
      | _ => simp [JavaType.component?] at element

/-- A parameter takes the source form of a value that is found fit for it, if there is no mismatch. -/
theorem takes_or_mismatch (literal : value.isLiteral)
    (binds : bindsDirectly f value parameter (e.isVarargs && place + 1 = e.parameterCount)) :
    TakesArgument f.registry e place parameter (formType value (some parameter)) ∨
      Mismatch f.registry e place parameter value (formType value (some parameter)) := by
  by_cases classes : f.registry.HasClassSupertypes
  swap
  · exact .inr (.supertypes classes)
  by_cases unbounded : Unbounded (boundsOf f.registry e) parameter
  swap
  · simp only [Unbounded, not_forall] at unbounded
    obtain ⟨name, occurs, bound⟩ := unbounded
    exact .inr (.bounded occurs bound)
  have takes (converts : f.registry.Converts (formType value (some parameter)) parameter) :
      TakesArgument f.registry e place parameter (formType value (some parameter)) :=
    ⟨parameter, List.mem_cons_self, parameter, isInstance_self unbounded, converts⟩
  rcases bindsDirectly_cases literal binds with ⟨none, reference⟩ | form | ⟨t, typed, target, listed, fits⟩
  · have null : formType value (some parameter) = .null := by
      cases value <;> first | rfl | cases none
    exact .inl (takes (null ▸ .null reference))
  · exact .inl (takes (converts_of_takesForm form))
  · cases collection : value.isCollection with
    | true => exact takes_or_mismatch_of_collection classes unbounded literal collection listed typed fits
    | false => exact takes_or_mismatch_of_single classes unbounded literal collection listed typed fits

variable {d : BeanDefinition} {creator : Creator} {arguments : List Expression}

theorem bindsDirectly_of_bindAll {values : List BeanValue} {parameters : List JavaType} {many : Bool}
    (binds : bindAll f many values parameters) {place : Nat} (known : values[place]? = some value)
    (typed : parameters[place]? = some parameter) :
    bindsDirectly f value parameter (many && place + 1 = parameters.length) := by
  induction values generalizing parameters place with
  | nil => cases known
  | cons v vs ih =>
    cases parameters with
    | nil => cases typed
    | cons p ps =>
      rw [bindAll, Bool.and_eq_true] at binds
      cases place with
      | zero =>
        obtain rfl := Option.some.inj known
        obtain rfl := Option.some.inj typed
        have last : decide (0 + 1 = (p :: ps).length) = ps.isEmpty := by cases ps <;> simp
        rw [last]
        exact binds.1
      | succ place => simpa using ih binds.2 known typed

/-- Arguments that are written out are literals, one for each parameter and found fit for it. -/
theorem directArguments_cases (direct : directArguments f d creator = .ok (some arguments)) :
    creator.executable.parameterTypes = [] ∨
      let values := d.arguments.ordered.map fun a => f.resolve a.value
      values.length = creator.executable.parameterCount ∧ (∀ value ∈ values, value.isLiteral) ∧
        bindAll f creator.executable.isVarargs values creator.executable.parameterTypes := by
  rw [directArguments] at direct
  split at direct
  · next none =>
    exact .inl (by simpa [Executable.parameterTypes, Executable.parameterCount] using none)
  · split at direct
    · cases direct
    · next fits =>
      simp only [Bool.or_eq_true, not_or, Bool.not_eq_true, Bool.not_eq_false', decide_eq_true_eq, not_not,
        List.all_eq_true] at fits
      exact .inr ⟨fits.1.1.2, fits.1.2, fits.2⟩

/-- Each argument is a literal that is found fit for the parameter it is bound to. -/
theorem fits_of_bindings (direct : directArguments f d creator = .ok (some arguments)) {b : Binding}
    (bound : (bindings creator.executable d.arguments)[place]? = some b) :
    (f.resolve b.argument.value).isLiteral ∧
      bindsDirectly f (f.resolve b.argument.value) b.parameter
        (creator.executable.isVarargs && place + 1 = creator.executable.parameterCount) := by
  have source := source_of_bindings bound
  have typed : creator.executable.parameterTypes[place]? = some b.parameter := by
    rw [bindings, bindAlong, List.getElem?_zipWith] at bound
    cases known : creator.executable.parameterTypes[place]? with
    | none => simp [known] at bound
    | some parameter => simpa [known, source, eq_comm] using congrArg (Option.map Binding.parameter) bound
  have known : (d.arguments.ordered.map fun a => f.resolve a.value)[place]? =
      some (f.resolve b.argument.value) := by
    rw [ConstructorArguments.ordered_eq]
    simp [source]
  rcases directArguments_cases direct with none | ⟨-, literal, binds⟩
  · simp [none] at typed
  · refine ⟨literal _ (List.mem_of_getElem? known), ?_⟩
    have last : creator.executable.parameterCount = creator.executable.parameterTypes.length :=
      (List.length_map _).symm
    rw [last]
    exact bindsDirectly_of_bindAll binds known typed

theorem length_bindings_of_direct (direct : directArguments f d creator = .ok (some arguments)) :
    (bindings creator.executable d.arguments).length = creator.executable.parameterCount := by
  have types : creator.executable.parameterTypes.length = creator.executable.parameterCount :=
    List.length_map _
  rw [bindings, bindAlong, List.length_zipWith, types]
  rcases directArguments_cases direct with none | ⟨counts, -⟩
  · rw [none] at types
    rw [← types]
    exact Nat.zero_min _
  · rw [ConstructorArguments.ordered_eq] at counts
    simp only [List.length_map] at counts
    rw [counts, Nat.min_self]

/-- No `int` is narrowed. -/
theorem not_takesArgument_int {q : Primitive} (small : q = .byte ∨ q = .short) :
    ¬ TakesArgument r e place (.primitive q) (.of (.primitive .int)) := by
  rintro ⟨target, listed, above, ⟨value?, rfl, -⟩, converts⟩
  rcases mem_targets.mp listed with rfl | ⟨-, same⟩
  · cases converts with
    | widening wider => rcases small with rfl | rfl <;> cases wider
    | boxing widens => cases widens.to_reference
    | reference widens => cases widens.to_reference
  · cases same

/-- Arguments that are written out are one for each parameter, and each has a type that its parameter
takes, if there is no mismatch. A byte or short that is written as an `int` is not taken by a parameter
of its own type. -/
theorem takes_directArguments (direct : directArguments f d creator = .ok (some arguments)) :
    arguments.length = creator.executable.parameterCount ∧
      (bindings creator.executable d.arguments).length = creator.executable.parameterCount ∧
      ∀ place b argument, (bindings creator.executable d.arguments)[place]? = some b →
        arguments[place]? = some argument → ∃ type, argument.passedType? = some type ∧
          (TakesArgument f.registry creator.executable place b.parameter type ∨
            Mismatch f.registry creator.executable place b.parameter (f.resolve b.argument.value) type) ∧
          (type = .of (.primitive .int) →
            b.parameter = .primitive .byte ∨ b.parameter = .primitive .short →
              ¬ TakesArgument f.registry creator.executable place b.parameter type) := by
  have written := directArguments_ok direct
  have each := length_bindings_of_direct direct
  refine ⟨written.length_eq.symm.trans each, each, fun place b argument bound listed => ?_⟩
  have form : plainExpression (f.resolve b.argument.value) (some b.parameter) = .ok argument := by
    obtain ⟨below, rfl⟩ := List.getElem?_eq_some_iff.mp bound
    obtain ⟨other, rfl⟩ := List.getElem?_eq_some_iff.mp listed
    exact written.get below other
  obtain ⟨literal, binds⟩ := fits_of_bindings direct bound
  refine ⟨_, passedType?_of_plain literal form, takes_or_mismatch literal binds, fun plain small => ?_⟩
  rw [plain]
  rcases small with same | same
  · exact same ▸ not_takesArgument_int (.inl rfl)
  · exact same ▸ not_takesArgument_int (.inr rfl)

end

namespace InlineSample

def owner : ClassName := ⟨"com.example", ["Sample"]⟩

def constructor (types : List JavaType) : Executable where
  declaringClass := owner
  kind := .constructor
  parameters := types.map fun type => { name := "value", type := type }

def container : BeanFactory where
  registry := ⟨[{ name := owner }]⟩

def definition (values : List BeanValue) : BeanDefinition :=
  { BeanDefinition.blank with
    beanClass := some owner
    arguments := ⟨[], values.map fun value => ⟨value, none⟩⟩ }

def creator (types : List JavaType) : Creator := .of container.registry (constructor types)

def listOf (element : JavaType) : JavaType := .classType Known.list [element]

def integer : JavaType := .ofClass Primitive.int.boxed

def string : JavaType := .ofClass Known.string

theorem hasClassSupertypes : container.registry.HasClassSupertypes :=
  hasClassSupertypes_of_declared (by decide)

/-- Only the class of the bean is declared, so that all others have no supertypes. -/
theorem eq_of_superChain {name : ClassName} (other : name ≠ owner) {arguments : List JavaType}
    {view : JavaType} (chain : container.registry.SuperChain (.classType name arguments) view) :
    view = .classType name arguments := by
  have unknown : container.registry.get? name = none := by
    simp [container, Registry.get?, other.symm]
  rcases Relation.ReflTransGen.cases_head chain with same | ⟨next, direct, -⟩
  · exact same.symm
  · simp [directSupertypes, unknown] at direct

theorem eq_of_widens {name above : ClassName} {own asked : List JavaType} (other : name ≠ owner)
    (below : ¬ Known.isNamed Known.object above)
    (widens : container.registry.Widens (.classType name own) (.classType above asked)) :
    name = above ∧ (asked = [] ∨ own = [] ∨ asked = own) := by
  cases widens with
  | refl => exact ⟨rfl, .inr (.inr rfl)⟩
  | object _ top => exact absurd top below
  | supertype chain agree =>
    obtain ⟨rfl, rfl⟩ := JavaType.classType.inj (eq_of_superChain other chain)
    refine ⟨rfl, ?_⟩
    rcases agree with none | none | ⟨_, _, raw, -⟩ | same
    · exact .inl none
    · exact .inr (.inl none)
    · exact .inr (.inl (JavaType.classType.inj raw).2)
    · exact .inr (.inr same)

theorem not_converts_int_string : ¬ container.registry.Converts (.of (.primitive .int)) string := by
  intro converts
  cases converts with
  | boxing widens =>
    have same := (eq_of_widens (by decide) (by decide +kernel) widens).1
    exact absurd same (by decide)
  | reference widens => cases widens.from_reference

end InlineSample

open InlineSample in
/-- A list of numbers for a parameter that asks for one, and an `int` in the form of a `long`. -/
theorem takes_directArguments_list :
    directArguments container (definition [.list [.int 1, .int 2], .int 5])
        (creator [listOf integer, .primitive .long]) =
      .ok (some [.staticCall Known.list "of" [.number (.int 1), .number (.int 2)], .number (.long 5)]) ∧
    TakesArgument container.registry (constructor [listOf integer, .primitive .long]) 0 (listOf integer)
      (.collection Known.list [.of (.primitive .int), .of (.primitive .int)]) := by
  have direct : directArguments container (definition [.list [.int 1, .int 2], .int 5])
        (creator [listOf integer, .primitive .long]) =
      .ok (some [.staticCall Known.list "of" [.number (.int 1), .number (.int 2)],
        .number (.long 5)]) := by
    rw [directArguments, if_neg (by decide +kernel), if_neg (by decide +kernel)]
    rfl
  obtain ⟨type, known, taken, -⟩ := (takes_directArguments direct).2.2 0
    ⟨listOf integer, none, ⟨.list [.int 1, .int 2], none⟩⟩ _ rfl rfl
  obtain rfl := Option.some.inj (known.symm.trans (passedType?_list rfl))
  refine ⟨direct, taken.resolve_right fun mismatch => ?_⟩
  cases mismatch with
  | narrow narrow => cases narrow
  | elements _ _ mixed => exact absurd mixed (by decide +kernel)
  | loose _ apart =>
    refine apart (listOf integer) List.mem_cons_self (listOf integer) rfl ⟨_, isInstance_self ?_, .refl rfl⟩
    intro name occurs
    cases occurs
  | bounded occurs => cases occurs
  | supertypes illegal => exact illegal hasClassSupertypes

open InlineSample in
/-- A byte is written as an `int`, which no parameter of type `byte` takes, and a list is written with
elements that the type of the parameter refuses. -/
theorem not_takes_directArguments :
    (directArguments container (definition [.byte 5]) (creator [.primitive .byte]) =
        .ok (some [.number (.int 5)]) ∧
      ¬ TakesArgument container.registry (constructor [.primitive .byte]) 0 (.primitive .byte)
        (.of (.primitive .int))) ∧
    (directArguments container (definition [.list [.int 1, .string "a"]]) (creator [listOf InlineSample.string]) =
        .ok (some [.staticCall Known.list "of" [.number (.int 1), .string "a"]]) ∧
      ¬ TakesArgument container.registry (constructor [listOf InlineSample.string]) 0
        (listOf InlineSample.string) (.collection Known.list [.of (.primitive .int), .of InlineSample.string])) := by
  refine ⟨⟨?_, not_takesArgument_int (.inl rfl)⟩, ?_, ?_⟩
  · rw [directArguments, if_neg (by decide +kernel), if_neg (by decide +kernel)]
    rfl
  · rw [directArguments, if_neg (by decide +kernel), if_neg (by decide +kernel)]
    rfl
  · rintro ⟨target, listed, above, ⟨value?, rfl, -⟩, converts⟩
    rcases mem_targets.mp listed with rfl | ⟨-, same⟩
    · cases converts with
      | @collection _ _ element _ _ fit widens =>
        rcases (eq_of_widens (by decide) (by decide +kernel) widens).2 with none | none | same
        · cases none
        · cases none
        · have asked : InlineSample.string = element := (List.cons.inj same).1
          exact not_converts_int_string (asked ▸ fit _ List.mem_cons_self)
    · cases same

end Prewire.Registration
