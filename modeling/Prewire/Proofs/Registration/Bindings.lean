import Prewire.Proofs.Beans.Arguments
import Prewire.Proofs.Failure
import Prewire.Proofs.Plan.Overload
import Prewire.Registration.Creation

/-! Which parameter an argument is for. Choice and creation both go through the parameters and the
ordered arguments in step, so that an argument is tested against the parameter it is written for. -/
namespace Prewire.Registration

open Java Types Beans Plan

/-- An argument at a parameter, with the index that the argument is configured for. -/
structure Binding where
  parameter : JavaType
  index : Option Nat
  argument : ArgumentValue

def bindAlong (parameters : List JavaType) (sources : List (Option Nat × ArgumentValue)) :
    List Binding :=
  List.zipWith (fun parameter source => ⟨parameter, source.1, source.2⟩) parameters sources

def bindings (e : Executable) (arguments : ConstructorArguments) : List Binding :=
  bindAlong e.parameterTypes arguments.sources

namespace Binding

def fits (f : BeanFactory) (tier : Tier) (b : Binding) : Bool :=
  (BeanFactory.argumentTypeBy f.registry f.beanTypeAnswer b.argument).join.all
    (Plan.fits f.registry tier b.parameter)

def expression (f : BeanFactory) (b : Binding) : Except Failure Expression :=
  plainExpression (f.resolve b.argument.value) (some b.parameter)

end Binding

section
variable {f : BeanFactory} {d : BeanDefinition}

/-- Choice tests each argument against the parameter that it is bound to. -/
theorem accepts_eq_bindings (tier : Tier) (e : Executable) :
    accepts f.registry (f.argumentTypes d) tier e = (bindings e d.arguments).all (·.fits f tier) := by
  rw [accepts, BeanFactory.argumentTypes, ConstructorArguments.ordered_eq, List.map_map, bindings]
  generalize e.parameterTypes = parameters, d.arguments.sources = sources
  induction parameters generalizing sources with
  | nil => simp [allFit, bindAlong]
  | cons parameter parameters ih =>
    cases sources with
    | nil => simp [allFit, bindAlong]
    | cons source sources =>
      rw [List.map_cons, allFit, ih]
      rfl

/-- The values of arguments that are written, in order. -/
theorem literalArguments_ok {parameters : List JavaType}
    {sources : List (Option Nat × ArgumentValue)} {written : List Expression}
    (succeeded : literalArguments (sources.map fun source => f.resolve source.2.value) parameters =
      .ok written) :
    List.Forall₂ (fun b text => b.expression f = .ok text) (bindAlong parameters sources)
      written := by
  induction parameters generalizing sources written with
  | nil =>
    have : literalArguments (sources.map fun source => f.resolve source.2.value) [] = .ok [] := by
      cases sources <;> rfl
    obtain rfl : [] = written := Except.ok.inj (this.symm.trans succeeded)
    exact .nil
  | cons parameter parameters ih =>
    cases sources with
    | nil =>
      obtain rfl : [] = written := Except.ok.inj succeeded
      exact .nil
    | cons source sources =>
      rw [List.map_cons, literalArguments] at succeeded
      obtain ⟨first, one, succeeded⟩ := eq_ok_of_bind succeeded
      obtain ⟨rest, others, succeeded⟩ := eq_ok_of_bind succeeded
      obtain rfl : first :: rest = written := Except.ok.inj succeeded
      exact .cons one (ih others)

/-- Arguments that are written out are written for the parameters that they are bound to. -/
theorem directArguments_ok {creator : Creator} {written : List Expression}
    (succeeded : directArguments f d creator = .ok (some written)) :
    List.Forall₂ (fun b text => b.expression f = .ok text)
      (bindings creator.executable d.arguments) written := by
  simp only [directArguments, ConstructorArguments.ordered_eq, List.map_map] at succeeded
  split at succeeded
  next none =>
    obtain rfl : [] = written := by simpa using succeeded
    have : creator.executable.parameterTypes = [] := by
      simpa [Executable.parameterTypes, Executable.parameterCount] using none
    rw [bindings, this]
    exact .nil
  next =>
    split at succeeded
    next => cases succeeded
    next =>
      obtain ⟨texts, literal, same⟩ := eq_ok_of_map succeeded
      obtain rfl : texts = written := Option.some.inj same
      exact literalArguments_ok literal

/-- Each argument is bound to the parameter of its place. -/
theorem getElem?_bindings {e : Executable} (counts : e.parameterCount = d.arguments.count)
    {place : Nat} {source : Option Nat × ArgumentValue}
    (found : d.arguments.sources[place]? = some source) :
    ∃ parameter, e.parameterTypes[place]? = some parameter ∧
      (bindings e d.arguments)[place]? = some ⟨parameter, source.1, source.2⟩ := by
  have bound : place < e.parameterTypes.length := by
    have := (List.getElem?_eq_some_iff.mp found).1
    rw [ConstructorArguments.length_sources, ← counts] at this
    simpa [Executable.parameterTypes, Executable.parameterCount] using this
  have known := List.getElem?_eq_getElem bound
  exact ⟨_, known, by simp [bindings, bindAlong, List.getElem?_zipWith, known, found]⟩

theorem source_of_bindings {e : Executable} {place : Nat} {b : Binding}
    (found : (bindings e d.arguments)[place]? = some b) :
    d.arguments.sources[place]? = some (b.index, b.argument) := by
  rw [bindings, bindAlong, List.getElem?_zipWith] at found
  cases known : e.parameterTypes[place]? with
  | none => simp [known] at found
  | some parameter =>
    cases source : d.arguments.sources[place]? with
    | none => simp [known, source] at found
    | some source =>
      obtain rfl := by simpa [known, source] using found
      rfl

/-- The argument of an index is the one that the parameter at a place gets. -/
def IsBoundAt (e : Executable) (arguments : ConstructorArguments) (index place : Nat) : Prop :=
  ∃ b, (bindings e arguments)[place]? = some b ∧ b.index = some index

theorem isBoundAt_iff {e : Executable} (counts : e.parameterCount = d.arguments.count)
    (built : d.arguments.Built) {index : Nat} {argument : ArgumentValue}
    (configured : (index, argument) ∈ d.arguments.indexed) (place : Nat) :
    IsBoundAt e d.arguments index place ↔ place = d.arguments.position index := by
  constructor
  · rintro ⟨b, found, same⟩
    have source := source_of_bindings found
    rw [same] at source
    exact built.eq_position source
  · rintro rfl
    obtain ⟨parameter, -, found⟩ := getElem?_bindings counts (built.sources_position configured)
    exact ⟨_, found, rfl⟩

/-- Where arguments choose an executable, each candidate with a parameter for every argument is
tested by its bindings, and the arguments are written by the bindings of the chosen one. The argument
of an index is bound to the parameter at that index if and only if every smaller index is configured;
in general to the one at the number of these. -/
theorem isBoundAt_index_iff {owner : ClassName} {candidates : List Executable} {e : Executable}
    {index : Nat} {argument : ArgumentValue} (built : d.arguments.Built)
    (contested : Contested f d owner candidates) (detected : detect f d = .ok (some e))
    (configured : (index, argument) ∈ d.arguments.indexed) :
    (e ∈ candidates ∧ e.parameterCount = d.arguments.count) ∧
    (∀ c ∈ candidates, c.parameterCount = d.arguments.count →
      (∀ tier, accepts f.registry (f.argumentTypes d) tier c =
        (bindings c d.arguments).all (·.fits f tier)) ∧
      (∃ parameter, c.parameterTypes[d.arguments.position index]? = some parameter ∧
        (bindings c d.arguments)[d.arguments.position index]? =
          some ⟨parameter, some index, argument⟩) ∧
      (IsBoundAt c d.arguments index index ↔
        ∀ smaller < index, smaller ∈ d.arguments.indexed.map Prod.fst)) ∧
    ∀ written, directArguments f d (.of f.registry e) = .ok (some written) →
      List.Forall₂ (fun b text => b.expression f = .ok text) (bindings e d.arguments) written := by
  have length : (f.argumentTypes d).length = d.arguments.count := by
    rw [BeanFactory.argumentTypes, ConstructorArguments.ordered_eq, List.length_map, List.length_map,
      ConstructorArguments.length_sources]
  rw [contested.detect_eq] at detected
  obtain ⟨member, counts⟩ := mem_of_select detected
  refine ⟨⟨member, counts.trans length⟩, fun c _ counts => ⟨?_, ?_, ?_⟩, fun written direct => ?_⟩
  · exact fun tier => accepts_eq_bindings tier c
  · exact getElem?_bindings counts (built.sources_position configured)
  · rw [isBoundAt_iff counts built configured, eq_comm, built.position_eq_iff]
  · exact directArguments_ok direct

end

namespace BindingSample

def owner : ClassName := ⟨"com.example", ["Sample"]⟩
def text : JavaType := .ofClass Known.string
def number : JavaType := .ofClass Primitive.int.boxed

def constructor (first second : JavaType) : Executable where
  declaringClass := owner
  kind := .constructor
  visibility := .publicAccess
  parameters := [{ name := "first", type := first }, { name := "second", type := second }]

def constructors : List Executable := [constructor text number, constructor number text]

def container : BeanFactory where
  registry := ⟨[{ name := owner, constructors := constructors }]⟩

def arguments (index : Nat) : ConstructorArguments :=
  (ConstructorArguments.empty.addIndexed index ⟨.string "x", none⟩).addGeneric ⟨.int 42, none⟩

theorem built_arguments (index : Nat) : (arguments index).Built := .generic (.indexed .empty _ _) _

def definition (index : Nat) : BeanDefinition :=
  { BeanDefinition.blank with beanClass := some owner, arguments := arguments index }

theorem contested (index : Nat) : Contested container (definition index) owner constructors := by
  have known : container.registry.get? owner =
      some { name := owner, constructors := constructors } := rfl
  exact .constructors rfl rfl known (by decide +kernel) rfl (by decide) (by decide +kernel)

end BindingSample

open BindingSample in
/-- Index 0 leaves no smaller one out. -/
theorem isBoundAt_index_first :
    detect container (definition 0) = .ok (some (constructor text number)) ∧
      IsBoundAt (constructor text number) (arguments 0) 0 0 := by
  have detected : detect container (definition 0) = .ok (some (constructor text number)) := by
    decide +kernel
  have configured : (0, ⟨.string "x", none⟩) ∈ (definition 0).arguments.indexed := .head _
  obtain ⟨⟨member, counts⟩, bound, -⟩ :=
    isBoundAt_index_iff (built_arguments 0) (contested 0) detected configured
  refine ⟨detected, (bound _ member counts).2.2.mpr fun smaller less => ?_⟩
  exact absurd less (Nat.not_lt_zero _)

open BindingSample in
/-- Without an argument of index 0, the one of index 1 decides over the first parameter and is written
first. -/
theorem not_isBoundAt_index :
    detect container (definition 1) = .ok (some (constructor text number)) ∧
      (1, ⟨.string "x", none⟩) ∈ (arguments 1).indexed ∧
      ¬ IsBoundAt (constructor text number) (arguments 1) 1 1 ∧
      IsBoundAt (constructor text number) (arguments 1) 1 0 ∧
      directArguments container (definition 1) (.of container.registry (constructor text number)) =
        .ok (some [.string "x", .number (.int 42)]) := by
  have counts : (constructor text number).parameterCount = (definition 1).arguments.count := rfl
  have configured : (1, ⟨.string "x", none⟩) ∈ (definition 1).arguments.indexed := .head _
  have bound := isBoundAt_iff counts (built_arguments 1) configured
  refine ⟨by decide +kernel, configured, ?_, ?_, ?_⟩
  · exact fun wrong => absurd ((bound 1).mp wrong) (by decide)
  · exact (bound 0).mpr rfl
  · rw [directArguments]
    rw [if_neg (by decide +kernel), if_neg (by decide +kernel)]
    rfl

end Prewire.Registration
