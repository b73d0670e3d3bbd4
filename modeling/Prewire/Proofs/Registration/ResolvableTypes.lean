import Prewire.Registration.TypeExpression

/-! Type expressions read back: a class literal is a raw type, and `ResolvableType` applies a class to
what its arguments read as. Its overloads take class objects or resolvable types, so no call may mix
the two. -/
namespace Prewire.Java

namespace JavaType

mutual
def components : JavaType → List JavaType
  | .primitive _ | .variable _ => []
  | .classType _ args => componentsOfAll args
  | .array component => component :: component.components
def componentsOfAll : List JavaType → List JavaType
  | [] => []
  | t :: ts => t.components ++ componentsOfAll ts
end

mutual
/-- The type with the type arguments below arrays dropped. -/
def eraseArrays : JavaType → JavaType
  | .classType name args => .classType name (eraseArraysOfAll args)
  | .array component => .array component.erasure
  | t => t
def eraseArraysOfAll : List JavaType → List JavaType
  | [] => []
  | t :: ts => t.eraseArrays :: eraseArraysOfAll ts
end

@[simp] theorem erasure_idem : ∀ t : JavaType, t.erasure.erasure = t.erasure
  | .array component => by rw [erasure, erasure, erasure_idem component]
  | .primitive _ | .classType .. | .variable _ => rfl

theorem mentionsVariable_erasure : ∀ {t : JavaType}, t.mentionsVariable = false →
    t.erasure.mentionsVariable = false
  | .array component, closed => mentionsVariable_erasure (t := component) closed
  | .classType .., _ => rfl
  | .primitive _, closed => closed

theorem eraseArrays_of_not_isGeneric {t : JavaType} (plain : t.isGeneric = false) :
    t.eraseArrays = t.erasure := by
  cases t with
  | classType name args =>
    cases args with
    | nil => rfl
    | cons t ts => cases plain
  | _ => rfl

theorem erasure_eq_self_iff : ∀ t : JavaType,
    t.erasure = t ↔ t.isGeneric = false ∧ ∀ c ∈ t.components, c.isGeneric = false
  | .classType _ [] | .primitive _ | .variable _ => by
    simp [erasure, ofClass, isGeneric, arguments, components, componentsOfAll]
  | .classType _ (_ :: _) => by simp [erasure, ofClass, isGeneric, arguments]
  | .array component => by
    simp [erasure, erasure_eq_self_iff component, isGeneric, arguments, components]

mutual
theorem eraseArrays_eq_self_iff : ∀ t : JavaType,
    t.eraseArrays = t ↔ ∀ c ∈ t.components, c.isGeneric = false
  | .classType _ args => by
    simp [eraseArrays, components, eraseArraysOfAll_eq_self_iff args]
  | .array component => by
    simp [eraseArrays, components, erasure_eq_self_iff component]
  | .primitive _ | .variable _ => by simp [eraseArrays, components]
theorem eraseArraysOfAll_eq_self_iff : ∀ ts : List JavaType,
    eraseArraysOfAll ts = ts ↔ ∀ c ∈ componentsOfAll ts, c.isGeneric = false
  | [] => by simp [eraseArraysOfAll, componentsOfAll]
  | t :: ts => by
    simp [eraseArraysOfAll, componentsOfAll, eraseArrays_eq_self_iff t,
      eraseArraysOfAll_eq_self_iff ts, or_imp, forall_and]
end

/-- The type that a class literal may name: it has no type arguments and no variables. -/
def literal? (type : JavaType) : Option JavaType :=
  if type.erasure = type ∧ type.mentionsVariable = false then some type else none

theorem literal?_erasure {t : JavaType} (closed : t.mentionsVariable = false) :
    t.erasure.literal? = some t.erasure :=
  if_pos ⟨t.erasure_idem, mentionsVariable_erasure closed⟩

end JavaType

def plainType? : List Expression → Option JavaType
  | [.classLiteral type] => type.literal?
  | _ => none

mutual
/-- The type that an expression stands for; there is none for other code. -/
def Expression.readType? : Expression → Option JavaType
  | .classLiteral type => type.literal?
  | .chain (.typeName owner) calls =>
    if owner = .ofClass Known.resolvableType then resolvedType? calls else none
  | _ => none
def resolvedType? : List Call → Option JavaType
  | [.mk method arguments] =>
    if method = "forClass" then plainType? arguments
    else if method = "forClassWithGenerics" then appliedType? arguments
    else none
  | _ => none
def appliedType? : List Expression → Option JavaType
  | .classLiteral (.classType name []) :: arguments => (readTypes? arguments).map (.classType name)
  | _ => none
def readTypes? : List Expression → Option (List JavaType)
  | [] => some []
  | e :: rest => do return (← e.readType?) :: (← readTypes? rest)
end

mutual
def Expression.calls : Expression → List Call
  | .nullLiteral | .boolean _ | .number _ | .character _ | .string _ | .classLiteral _
  | .typeName _ | .name _ | .verbatim _ => []
  | .member receiver _ => receiver.calls
  | .chain receiver calls => receiver.calls ++ callsOfChain calls
  | .create _ arguments => callsOfAll arguments
  | .createArray _ elements => callsOfAll elements
  | .assign target value => target.calls ++ value.calls
  | .negate condition => condition.calls
  | .lambda _ body => body.calls
  | .blockLambda _ body => callsOfBlock body
def callsOfChain : List Call → List Call
  | [] => []
  | .mk method arguments :: rest => ⟨method, arguments⟩ :: callsOfAll arguments ++ callsOfChain rest
def callsOfAll : List Expression → List Call
  | [] => []
  | e :: rest => e.calls ++ callsOfAll rest
def Statement.calls : Statement → List Call
  | .comment _ => []
  | .expression e => e.calls
  | .declare _ _ value => value.calls
  | .giveBack value => value.calls
  | .giveBackListed _ method arguments => ⟨method, arguments⟩ :: callsOfAll arguments
  | .ifThen condition body => condition.calls ++ callsOfBlock body
  | .brokenChain receiver calls => receiver.calls ++ callsOfChain calls
def callsOfBlock : List Statement → List Call
  | [] => []
  | s :: rest => s.calls ++ callsOfBlock rest
end

def Expression.isClassLiteral : Expression → Bool
  | .classLiteral _ => true
  | _ => false

def Expression.isResolvableType : Expression → Bool
  | .chain (.typeName owner) [call] =>
    owner = .ofClass Known.resolvableType
      && (call.method = "forClass" || call.method = "forClassWithGenerics")
  | _ => false

/-- Where a call applies a class to type arguments, these are all class literals or all resolvable
types. -/
def Call.IsUniform (call : Call) : Prop :=
  call.method = "forClassWithGenerics" →
    ∃ name arguments, call.arguments = .classOf name :: arguments ∧
      ((∀ a ∈ arguments, a.isClassLiteral) ∨ ∀ a ∈ arguments, a.isResolvableType)

end Prewire.Java

namespace Prewire.Registration

open Java

theorem isResolvableType_genericTypeExpression {type : JavaType} (generic : type.isGeneric) :
    (genericTypeExpression type).isResolvableType := by
  obtain ⟨name, t, ts, rfl⟩ : ∃ name t ts, type = .classType name (t :: ts) := by
    cases type with
    | classType name args =>
      cases args with
      | nil => cases generic
      | cons t ts => exact ⟨name, t, ts, rfl⟩
    | _ => cases generic
  simp [genericTypeExpression, Expression.staticCall, Expression.isResolvableType]

/-- The arguments of one call are of one kind. -/
theorem typeArguments_kind : ∀ (resolvable : Bool) (ts : List JavaType),
    ∀ a ∈ typeArguments resolvable ts, if resolvable then a.isResolvableType else a.isClassLiteral
  | _, [] => by simp [typeArguments]
  | resolvable, t :: ts => by
    have others := typeArguments_kind resolvable ts
    rw [typeArguments, List.forall_mem_cons]
    refine ⟨?_, others⟩
    cases resolvable with
    | false => rfl
    | true =>
      by_cases generic : t.isGeneric
      · simpa [generic] using isResolvableType_genericTypeExpression generic
      · simp [generic, Expression.staticCall, Expression.isResolvableType]

mutual
/-- What is written keeps all of a type but the type arguments below arrays. -/
theorem readType?_genericTypeExpression : ∀ {type : JavaType}, type.mentionsVariable = false →
    (genericTypeExpression type).readType? = some type.eraseArrays
  | .primitive _, closed | .classType _ [], closed | .array _, closed =>
    JavaType.literal?_erasure closed
  | .classType name (t :: ts), closed => by
    have arguments := readTypes?_typeArguments ((t :: ts).any JavaType.isGeneric) closed
      fun plain => List.any_eq_false.mp plain
    rw [genericTypeExpression, Expression.staticCall, Expression.readType?, if_pos rfl, resolvedType?,
      if_neg (by decide), if_pos rfl, Expression.classOf, JavaType.ofClass, appliedType?, arguments]
    rfl
theorem readTypes?_typeArguments (resolvable : Bool) : ∀ {ts : List JavaType},
    JavaType.anyMentionsVariable ts = false → (resolvable = false → ∀ t ∈ ts, ¬t.isGeneric) →
      readTypes? (typeArguments resolvable ts) = some (JavaType.eraseArraysOfAll ts)
  | [], _, _ => rfl
  | t :: ts, closed, plain => by
    rw [JavaType.anyMentionsVariable, Bool.or_eq_false_iff] at closed
    have others := readTypes?_typeArguments resolvable closed.2
      fun h t known => plain h t (List.mem_cons_of_mem _ known)
    have literal := JavaType.literal?_erasure closed.1
    rw [typeArguments, readTypes?, others, JavaType.eraseArraysOfAll]
    cases resolvable with
    | false =>
      rw [JavaType.eraseArrays_of_not_isGeneric (by simpa using plain rfl t List.mem_cons_self)]
      simp [rawTypeExpression, Expression.readType?, literal]
    | true =>
      by_cases generic : t.isGeneric
      · simp [generic, readType?_genericTypeExpression closed.1]
      · rw [JavaType.eraseArrays_of_not_isGeneric (by simpa using generic)]
        simp [generic, rawTypeExpression, Expression.readType?, Expression.staticCall, resolvedType?,
          plainType?, literal]
end

mutual
theorem uniform_genericTypeExpression : ∀ type : JavaType,
    ∀ call ∈ (genericTypeExpression type).calls, call.IsUniform
  | .primitive _ | .variable _ | .array _ | .classType _ [] => by
    simp [genericTypeExpression, rawTypeExpression, Expression.classOf, Expression.calls]
  | .classType name (t :: ts) => by
    have kind := typeArguments_kind ((t :: ts).any JavaType.isGeneric) (t :: ts)
    have arguments := uniform_typeArguments ((t :: ts).any JavaType.isGeneric) (t :: ts)
    rw [genericTypeExpression, Expression.staticCall, Expression.calls, Expression.calls, callsOfChain,
      callsOfChain, List.nil_append, List.append_nil, List.forall_mem_cons, callsOfAll,
      Expression.classOf, Expression.calls, List.nil_append]
    refine ⟨fun _ => ⟨name, _, rfl, ?_⟩, arguments⟩
    cases h : (t :: ts).any JavaType.isGeneric with
    | false => exact .inl (by simpa [h] using kind)
    | true => exact .inr (by simpa [h] using kind)
theorem uniform_typeArguments (resolvable : Bool) : ∀ ts : List JavaType,
    ∀ call ∈ callsOfAll (typeArguments resolvable ts), call.IsUniform
  | [] => by simp [typeArguments, callsOfAll]
  | t :: ts => by
    have others := uniform_typeArguments resolvable ts
    have first := uniform_genericTypeExpression t
    rw [typeArguments, callsOfAll, List.forall_mem_append]
    refine ⟨?_, others⟩
    split
    · simp [rawTypeExpression, Expression.calls]
    · split
      · exact first
      · simp [rawTypeExpression, Expression.staticCall, Expression.calls, callsOfChain, callsOfAll,
          Call.IsUniform]
end

/-- A type is read back from what is written for it exactly when it has no variables and no type
arguments below arrays, and no call that applies a class mixes class literals with resolvable
types. -/
theorem typeExpression_reads (type : JavaType) :
    ((typeExpression type).readType? = some type ↔
      type.mentionsVariable = false ∧ ∀ c ∈ type.components, c.isGeneric = false) ∧
    ∀ call ∈ (typeExpression type).calls, call.IsUniform := by
  cases h : type.mentionsVariable with
  | true =>
    rw [typeExpression, if_pos h]
    refine ⟨iff_of_false (fun read => ?_) (by simp), by simp [rawTypeExpression, Expression.calls]⟩
    rw [rawTypeExpression, Expression.readType?, JavaType.literal?, Option.ite_none_right_eq_some] at read
    obtain ⟨⟨-, closed⟩, same⟩ := read
    rw [Option.some.inj same, h] at closed
    cases closed
  | false =>
    rw [typeExpression, if_neg (by simp [h]), readType?_genericTypeExpression h, Option.some.injEq,
      JavaType.eraseArrays_eq_self_iff]
    exact ⟨by simp, uniform_genericTypeExpression type⟩

example : (typeExpression (.classType Known.map [.ofClass Known.string,
    .classType Known.list [.array (.ofClass Known.string)]])).readType? =
      some (.classType Known.map [.ofClass Known.string,
        .classType Known.list [.array (.ofClass Known.string)]]) := by decide

end Prewire.Registration
