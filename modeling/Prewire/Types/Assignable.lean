import Prewire.Types.Supertypes

/-! Assignment compatibility: identity, widening, boxing and unboxing, supertypes and array
covariance. Type arguments have to agree, except that raw types and type variables agree with
anything. What a variable of the target accepts is a parameter of the rules, so that a bound can
bring in the rules again. -/
namespace Prewire.Types

open Java

namespace Registry

/-- The supertypes of every array. -/
def isArraySupertype (name : ClassName) : Bool :=
  Known.isNamed Known.object name || Known.isNamed Known.cloneable name
    || Known.isNamed Known.serializable name

mutual
/-- Whether a value of type `source` can be assigned to `target`, given which types each variable of
the target accepts. There is no answer where `accepts` has none. -/
def assigns (r : Registry) (accepts : String → JavaType → Option Bool) :
    (target source : JavaType) → Option Bool
  | .primitive p, source =>
    if JavaType.primitive p = source then some true else
    match source with
    | .primitive q => some (q.widensTo p)
    | .classType name _ => some ((Primitive.unboxed? name).any (·.widensTo p))
    | .array _ => some false
    | .variable _ => some true
  | .classType name arguments, source =>
    if JavaType.classType name arguments = source then some true else
    match source with
    | .variable _ => some true
    | .array _ => some (isArraySupertype name)
    | source =>
      match r.view? source.boxed name with
      | none => some false
      | some view =>
        if arguments.isEmpty || view.arguments.isEmpty then some true
        else if arguments.length ≠ view.arguments.length then some false
        else agreeAll r accepts arguments view.arguments
  | .array component, source =>
    if JavaType.array component = source then some true else
    match source with
    | .array other =>
      if component.isPrimitive || other.isPrimitive then some (component = other)
      else assigns r accepts component other
    | .variable _ => some true
    | _ => some false
  | .variable name, source =>
    if JavaType.variable name = source then some true else accepts name source
/-- Whether a type argument of the target agrees with one of the source. -/
def agrees (r : Registry) (accepts : String → JavaType → Option Bool) :
    (target source : JavaType) → Option Bool
  | .variable name, source => accepts name source
  | .primitive p, source => some (source.isVariable || JavaType.primitive p = source)
  | .classType name arguments, source =>
    match source with
    | .variable _ => some true
    | .classType other others =>
      if name ≠ other then some false
      else if arguments.isEmpty || others.isEmpty then some true
      else if arguments.length ≠ others.length then some false
      else agreeAll r accepts arguments others
    | _ => some false
  | .array component, source =>
    match source with
    | .variable _ => some true
    | .array other => agrees r accepts component other
    | _ => some false
/-- Argument by argument, up to the first that does not agree. -/
def agreeAll (r : Registry) (accepts : String → JavaType → Option Bool) :
    (targets sources : List JavaType) → Option Bool
  | target :: targets, source :: sources =>
    match agrees r accepts target source with
    | some true => agreeAll r accepts targets sources
    | decided => decided
  | _, _ => some true
end

def isAssignable (r : Registry) (target source : JavaType) : Bool :=
  r.assigns (fun _ _ => some true) target source == some true

/-- A relation between answers that every decided answer has to itself, and that a comparison of the next
type arguments keeps. -/
structure AnswerRelation (related : Option Bool → Option Bool → Prop) : Prop where
  decided (answer : Bool) : related (some answer) (some answer)
  next {first other later laterOther : Option Bool} : related first other →
    related later laterOther →
      related
        (match first with
        | some true => later
        | decided => decided)
        (match other with
        | some true => laterOther
        | decided => decided)

section
variable {r : Registry} {accepts others : String → JavaType → Option Bool}
variable {related : Option Bool → Option Bool → Prop} (relation : AnswerRelation related)
include relation

mutual
theorem agrees_related : ∀ target source,
    (∀ name ∈ target.variableNames, ∀ source, related (accepts name source) (others name source)) →
      related (r.agrees accepts target source) (r.agrees others target source)
  | .variable name, source, accept => by
    simp only [agrees]
    exact accept name List.mem_cons_self source
  | .primitive p, source, _ => by
    simp only [agrees]
    exact relation.decided _
  | .classType name arguments, source, accept => by
    cases source with
    | classType other others =>
      simp only [agrees]
      split
      · exact relation.decided _
      · split
        · exact relation.decided _
        · split
          · exact relation.decided _
          · exact agreeAll_related arguments others accept
    | _ =>
      simp only [agrees]
      exact relation.decided _
  | .array component, source, accept => by
    cases source with
    | array other =>
      simp only [agrees]
      exact agrees_related component other accept
    | _ =>
      simp only [agrees]
      exact relation.decided _
theorem agreeAll_related : ∀ targets sources,
    (∀ name ∈ JavaType.variableNamesOfAll targets, ∀ source,
      related (accepts name source) (others name source)) →
      related (r.agreeAll accepts targets sources) (r.agreeAll others targets sources)
  | [], _, _ | _ :: _, [], _ => by
    simp only [agreeAll]
    exact relation.decided _
  | target :: targets, source :: sources, accept => by
    simp only [agreeAll]
    refine relation.next (agrees_related target source fun name occurs => ?_)
      (agreeAll_related targets sources fun name occurs => ?_)
    · exact accept name (List.mem_append_left _ occurs)
    · exact accept name (List.mem_append_right _ occurs)
end

/-- The rules carry a relation of what the variables of the target accept over to the answers. -/
theorem assigns_related : ∀ target source,
    (∀ name ∈ target.variableNames, ∀ source, related (accepts name source) (others name source)) →
      related (r.assigns accepts target source) (r.assigns others target source)
  | .variable name, source, accept => by
    simp only [assigns]
    split
    · exact relation.decided _
    · exact accept name List.mem_cons_self source
  | .primitive p, source, _ => by
    simp only [assigns]
    split
    · exact relation.decided _
    · cases source <;> exact relation.decided _
  | .classType name arguments, source, accept => by
    simp only [assigns]
    split
    · exact relation.decided _
    · split
      · exact relation.decided _
      · exact relation.decided _
      · split
        · exact relation.decided _
        · split
          · exact relation.decided _
          · split
            · exact relation.decided _
            · exact agreeAll_related relation arguments _ accept
  | .array component, source, accept => by
    simp only [assigns]
    split
    · exact relation.decided _
    · cases source with
      | array other =>
        simp only
        split
        · exact relation.decided _
        · exact assigns_related component other accept
      | _ => exact relation.decided _

end

/-- What a variable accepts: anything, or what its bound accepts. -/
def withinBound (bounds : Bindings) (assignable : JavaType → JavaType → Option Bool) (name : String)
    (source : JavaType) : Option Bool :=
  match bounds.value? name with
  | none => some true
  | some bound => assignable bound source

/-- Assignments that are related give related answers where bounds bring them in. -/
theorem assigns_withinBound_related (r : Registry) (bounds : Bindings)
    {related : Option Bool → Option Bool → Prop} (relation : AnswerRelation related)
    {assignable others : JavaType → JavaType → Option Bool}
    (bounded : ∀ bound source, related (assignable bound source) (others bound source))
    (target source : JavaType) :
    related (r.assigns (withinBound bounds assignable) target source)
      (r.assigns (withinBound bounds others) target source) := by
  refine assigns_related relation target source fun name _ source => ?_
  simp only [withinBound]
  split
  · exact relation.decided true
  · next bound _ => exact bounded bound source

section
variable (r : Registry) (bounds : Bindings)

/-- Assignment where a variable with a bound accepts only what its bound accepts, which brings in the
rules again. There is no answer where bounds unfold without end. -/
def assignsWithin (target source : JavaType) : Option Bool :=
  r.assigns (withinBound bounds assignsWithin) target source
partial_fixpoint monotonicity by
  intro less more below target source
  -- The order itself is a relation of answers, in which no answer is below all others.
  have kept := r.assigns_withinBound_related bounds ?_ below target source
  · exact kept
  · constructor
    · exact fun _ => .refl
    · intro first other later laterOther agreed agreedLater
      cases agreed with
      | bot => exact .bot
      | refl =>
        cases first with
        | none => exact .refl
        | some agreed =>
          cases agreed with
          | true => exact agreedLater
          | false => exact .refl

end

def isAssignableWithin (r : Registry) (bounds : Bindings) (target source : JavaType) : Bool :=
  r.assignsWithin bounds target source == some true

/-- The first bound of every bounded type parameter of a class. -/
def parameterBounds (r : Registry) (name : ClassName) : Bindings :=
  match r.get? name with
  | none => []
  | some d => d.typeParameters.filterMap fun p => p.bounds.head?.map (p.name, ·)

end Registry
end Prewire.Types
