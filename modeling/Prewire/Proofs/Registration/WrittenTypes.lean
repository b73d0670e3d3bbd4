import Prewire.Proofs.Java.Closed
import Prewire.Proofs.Registration.Block
import Prewire.Proofs.Registration.Recording

/-! The types that a registration is written with. Type arguments are left out of nearly all of them,
and yet a variable remains where a type is one or is an array of it, so these types decide whether the
registration is closed. -/
namespace Prewire.Registration

open Java Types Beans Plan Output BeanValue

def ownTypes : BeanValue → List JavaType
  | .classLiteral type => [type.erasure]
  | .array component _ => [component.erasure]
  | _ => []

/-- The types that a value is written with, apart from inner beans. -/
def valueTypes (v : BeanValue) : List JavaType := v.parts.flatMap ownTypes

def memberTypes (d : Dependency) : List JavaType :=
  match d.member with
  | .parameter .. => []
  | .field field => [field.type]
  | .method m => m.parameterTypes

/-- The types that the registration of a definition is written with, apart from inner beans. Only the
variable that members are injected into is declared with type arguments. -/
def writtenTypes (f : BeanFactory) (d : BeanDefinition) (plan : BeanPlan) (e : Executable)
    (arguments : Option (List Expression)) : List JavaType :=
  (plan.beanType :: e.parameterTypes ++ plan.injections.flatMap memberTypes).map JavaType.erasure
    ++ (if plan.injections.isEmpty then [] else [instanceType e])
    ++ (if arguments.isSome then (argumentValues f d e).flatMap valueTypes else [])
    ++ plan.properties.flatMap fun p => valueTypes p.value

/-- No variable occurs in the types that a definition and the inner beans that are written with it are
written with. -/
def WritesClosed (f : BeanFactory) (d : BeanDefinition) : Prop :=
  ∀ nested plan creator arguments, WrittenWith f d nested → WrittenFrom f nested plan creator arguments →
    ∀ type ∈ writtenTypes f nested plan creator.executable arguments, type.IsClosed

section
variable {f : BeanFactory} {d : BeanDefinition} {plan : BeanPlan} {creator : Creator}
variable {arguments : Option (List Expression)}

theorem writesClosed_iff (source : WrittenFrom f d plan creator arguments) : WritesClosed f d ↔
    (∀ type ∈ writtenTypes f d plan creator.executable arguments, type.IsClosed) ∧
      ∀ p ∈ plan.properties, ∀ inner, .inner inner ∈ p.value.parts → WritesClosed f inner := by
  constructor
  · intro closed
    refine ⟨closed d plan creator arguments (.self d) source, fun p listed inner within => ?_⟩
    exact fun nested plan creator arguments written =>
      closed nested plan creator arguments (.inner source.planned listed within written)
  · rintro ⟨own, inners⟩ nested found creates written with' from'
    cases with' with
    | self =>
      obtain ⟨rfl, rfl, rfl⟩ := source.unique from'
      exact own
    | inner planned listed within rest =>
      obtain rfl := eq_of_planned source.planned planned
      exact inners _ listed _ within nested found creates written rest from'

end

section
variable {e : Executable}

@[simp] theorem closed_rawTypeExpression {type : JavaType} :
    (rawTypeExpression type).code.IsClosed ↔ type.erasure.IsClosed := by
  simp [rawTypeExpression]

mutual
theorem closed_genericTypeExpression :
    ∀ type : JavaType, type.IsClosed → (genericTypeExpression type).code.IsClosed
  | .classType name [], _ => by simp [genericTypeExpression]
  | .classType name (t :: ts), closed => by
    have rest := closed_typeArguments ((t :: ts).any JavaType.isGeneric) (t :: ts) closed
    simp only [genericTypeExpression, closed_staticCall, List.forall_mem_cons]
    exact ⟨closed_classOf name, rest⟩
  | .primitive _, closed | .variable _, closed | .array _, closed => by
    rw [genericTypeExpression.eq_def, closed_rawTypeExpression]
    exact JavaType.closed_erasure closed
theorem closed_typeArguments (resolvable : Bool) : ∀ types,
    JavaType.anyMentionsVariable types = false →
      ∀ e ∈ typeArguments resolvable types, e.code.IsClosed
  | [], _ => by simp [typeArguments]
  | t :: ts, closed => by
    rw [JavaType.anyMentionsVariable, Bool.or_eq_false_iff] at closed
    have raw := JavaType.closed_erasure closed.1
    have generic := closed_genericTypeExpression t closed.1
    rw [typeArguments, List.forall_mem_cons]
    refine ⟨?_, closed_typeArguments resolvable ts closed.2⟩
    split
    · exact closed_rawTypeExpression.mpr raw
    · split
      · exact generic
      · simpa using raw
end

/-- The type of a bean is closed where it would be without its type arguments, since these are left out
when a variable occurs in them. -/
theorem closed_typeExpression {type : JavaType} :
    (typeExpression type).code.IsClosed ↔ type.erasure.IsClosed := by
  rw [typeExpression]
  split
  · exact closed_rawTypeExpression
  · next closed =>
    have closed : type.IsClosed := by simpa [JavaType.IsClosed] using closed
    exact iff_of_true (closed_genericTypeExpression type closed) (JavaType.closed_erasure closed)

theorem closed_parameterTypeExpressions : (∀ x ∈ parameterTypeExpressions e, x.code.IsClosed) ↔
    ∀ type ∈ e.parameterTypes, type.erasure.IsClosed := by
  simp [parameterTypeExpressions]

theorem closed_attributeArguments (count : Nat) : ∀ x ∈ attributeArguments count, x.code.IsClosed := by
  simp [attributeArguments]

theorem closed_invocation {arguments : List Expression} :
    (invocation e arguments).code.IsClosed ↔ ∀ x ∈ arguments, x.code.IsClosed := by
  rw [invocation]
  split <;> simp

theorem closed_lookedUpCreation (e : Executable) : (lookedUpCreation e).code.IsClosed := by
  simpa [lookedUpCreation, closed_invocation] using closed_attributeArguments e.parameterCount

theorem closed_selection : (∀ call ∈ selection e, ∀ x ∈ call.arguments, x.code.IsClosed) ↔
    ∀ type ∈ e.parameterTypes, type.erasure.IsClosed := by
  rw [selection]
  split
  · simp [closed_parameterTypeExpressions]
  · split
    · next none => simp_all [Executable.parameterTypes]
    · simp [closed_parameterTypeExpressions]

/-- Looking values up leaves it to the lambda whether the calls are closed. -/
theorem closed_lookup {isRequired : Bool} {lambda : Expression} :
    (∀ call ∈ lookup isRequired lambda, ∀ x ∈ call.arguments, x.code.IsClosed) ↔
      lambda.code.IsClosed := by
  cases isRequired <;> simp [lookup]

theorem closed_reflective {type : ClassName} {holder find use : String}
    {findArguments useArguments : List Expression} :
    (reflective type holder find use findArguments useArguments).code.IsClosed ↔
      (∀ x ∈ findArguments, x.code.IsClosed) ∧ ∀ x ∈ useArguments, x.code.IsClosed := by
  simp [reflective]

theorem closed_fieldLambda {field : Field} (closed : field.type.erasure.IsClosed) :
    (fieldLambda field).code.IsClosed := by
  rw [fieldLambda]
  split
  · exact closed_reflective.mpr ⟨by simp [closed], closed_attributeArguments 1⟩
  · simp

theorem closed_methodLambda {m : Executable} (closed : ∀ type ∈ m.parameterTypes, type.erasure.IsClosed) :
    (methodLambda m).code.IsClosed := by
  have attributes := closed_attributeArguments m.parameterCount
  rw [methodLambda]
  split
  · refine closed_reflective.mpr ⟨?_, attributes⟩
    simpa using closed_parameterTypeExpressions.mpr closed
  · simpa using attributes

/-- The statement of an injection is closed when the types by which the member is found are. -/
theorem closed_injection {d : Dependency} :
    (∀ s, injection d = some s → s.code.IsClosed) ↔
      ∀ type ∈ memberTypes d, type.erasure.IsClosed := by
  cases member : d.member with
  | parameter => simp [injection, memberTypes, member]
  | field field =>
    simp only [injection, memberTypes, member, Option.some.injEq, forall_eq', List.forall_mem_singleton]
    simp only [Statement.code, Expression.code, Code.closed_append, closed_callsCode,
      List.forall_mem_cons, closed_lookup, closed_rawTypeExpression, Code.closed_text, true_and,
      List.not_mem_nil, false_imp_iff, implies_true, and_true]
    exact ⟨And.left, fun closed => ⟨closed, closed_fieldLambda closed⟩⟩
  | method m =>
    simp only [injection, memberTypes, member, Option.some.injEq, forall_eq']
    simp only [Statement.code, Expression.code, Code.closed_append, closed_callsCode,
      List.forall_mem_cons, closed_lookup, closed_parameterTypeExpressions, Code.closed_text, true_and,
      and_true]
    exact ⟨And.left, fun closed => ⟨closed, closed_methodLambda closed⟩⟩

/-- A supplier is closed when its arguments, the types of the injected members and, where there are
any, the type of the variable are. -/
theorem closed_supplier {arguments : Option (List Expression)} {injections : List Dependency} :
    (supplier e arguments injections).code.IsClosed ↔
      (∀ x ∈ arguments.getD [], x.code.IsClosed) ∧
      (injections ≠ [] → (instanceType e).IsClosed) ∧
      ∀ d ∈ injections, ∀ type ∈ memberTypes d, type.erasure.IsClosed := by
  have created : ((arguments.map (invocation e)).getD (lookedUpCreation e)).code.IsClosed ↔
      ∀ x ∈ arguments.getD [], x.code.IsClosed := by
    cases arguments with
    | none => simpa using closed_lookedUpCreation e
    | some arguments => exact closed_invocation
  rw [supplier.eq_def]
  split
  · next none =>
    obtain rfl := List.isEmpty_iff.mp none
    cases arguments <;> simpa using created
  · next some =>
    have some : injections ≠ [] := fun none => some (List.isEmpty_iff.mpr none)
    have statements : (∀ s ∈ injections.filterMap injection, s.code.IsClosed) ↔
        ∀ d ∈ injections, ∀ type ∈ memberTypes d, type.erasure.IsClosed := by
      simp only [List.mem_filterMap, ← closed_injection]
      exact ⟨fun closed d listed s injects => closed s ⟨d, listed, injects⟩,
        fun closed s ⟨d, listed, injects⟩ => closed d listed s injects⟩
    simp only [Expression.code, Statement.code, Code.closed_append, closed_statementsCode,
      List.forall_mem_append, List.forall_mem_cons, statements, created, Code.closed_text,
      Code.closed_type, closed_parameterList, Code.closed_indent, Code.closed_unindent,
      List.not_mem_nil, false_imp_iff, implies_true, and_true, true_and]
    tauto

end
def ValueClosed (innerClosed : BeanDefinition → Prop) (v : BeanValue) : Prop :=
  (∀ type ∈ valueTypes v, type.IsClosed) ∧ ∀ d, .inner d ∈ v.parts → innerClosed d

section
variable {innerClosed : BeanDefinition → Prop}

theorem valueClosed_of_elements {v : BeanValue} {elements : List BeanValue}
    (known : v.elements? = some elements) :
    ValueClosed innerClosed v ↔
      (∀ type ∈ ownTypes v, type.IsClosed) ∧ ∀ e ∈ elements, ValueClosed innerClosed e := by
  have types : (∀ type ∈ valueTypes v, type.IsClosed) ↔ (∀ type ∈ ownTypes v, type.IsClosed) ∧
      ∀ e ∈ elements, ∀ type ∈ valueTypes e, type.IsClosed := by
    simp only [valueTypes, parts_of_elements known, List.flatMap_cons, List.forall_mem_append, List.mem_flatMap,
      mem_partsOfAll]
    grind
  have inners : (∀ d, .inner d ∈ v.parts → innerClosed d) ↔
      ∀ e ∈ elements, ∀ d, .inner d ∈ e.parts → innerClosed d := by
    have own (d : BeanDefinition) : ¬ .inner d = v := by rintro rfl; cases known
    simp only [parts_of_elements known, List.mem_cons, mem_partsOfAll, own, false_or]
    grind
  simp only [ValueClosed, types, inners, and_assoc, forall₂_and]

theorem closed_floating (format : Decimal.BinaryFormat) (p : Primitive) (bits : Nat)
    (literal : NumberLiteral) : (floating format p bits literal).code.IsClosed := by
  rw [floating.eq_def]
  cases format.magnitude bits <;> simp [constantOf]

theorem forall_isClosed_iff {vs : List BeanValue} {es : List Expression}
    (each : List.Forall₂ (fun v e => e.code.IsClosed ↔ ValueClosed innerClosed v) vs es) :
    (∀ e ∈ es, e.code.IsClosed) ↔ ∀ v ∈ vs, ValueClosed innerClosed v := by
  induction each with
  | nil => simp
  | cons one _ ih => simp [one, ih]

/-- An expression is closed exactly when its value is written without variables. -/
theorem closed_value {m : Type → Type} [Monad m] [LawfulMonad m] [MonadExceptOf Failure m]
    {o : Outcome m} {innerBean : BeanDefinition → m Expression}
    (exact : ∀ d e, o.Yields (innerBean d) e → (e.code.IsClosed ↔ innerClosed d)) (v : BeanValue)
    (type : Option JavaType) (e : Expression) (yields : o.Yields (valueExpression innerBean v type) e) :
    e.code.IsClosed ↔ ValueClosed innerClosed v := by
  refine o.value_induction (motive := fun v _ e => e.code.IsClosed ↔ ValueClosed innerClosed v)
    (fun v _ elements es known each => ?_) (fun v _ e single yields => ?_) yields
  · rw [valueClosed_of_elements known, ← forall_isClosed_iff each]
    cases v with
    | array | list | set =>
      obtain rfl := Option.some.inj known
      cases each <;> simp [collected, ownTypes, emptyCollection, closed_restCode, and_assoc]
    | _ => cases known
  · cases v with
    | array | list | set => cases single
    | inner d =>
      rw [valueExpression] at yields
      rw [exact d e yields]
      simp [ValueClosed, valueTypes, parts, ownTypes]
    | opaqueInstance =>
      rw [valueExpression] at yields
      exact absurd yields o.not_throw
    | _ =>
      rw [valueExpression] at yields
      obtain rfl := o.eq_of_pure yields
      simp [ValueClosed, valueTypes, parts, ownTypes, closed_floating, whole, beanReference]

end

theorem closed_customize {parameter : String} {customizing : List Expression} :
    (∀ call ∈ customize parameter customizing, ∀ x ∈ call.arguments, x.code.IsClosed) ↔
      ∀ x ∈ customizing, x.code.IsClosed := by
  cases customizing with
  | nil => simp [customize]
  | cons first rest => cases rest <;> simp [customize]

theorem closed_metadataCustomizers (parameter : String) (d : BeanDefinition) :
    ∀ x ∈ metadataCustomizers (.name parameter) d, x.code.IsClosed := by
  have qualified (q : Qualifier) : (qualifierCustomizer (.name parameter) q).code.IsClosed := by
    cases value : q.value <;> simp [qualifierCustomizer, value]
  simp only [metadataCustomizers, List.forall_mem_append, List.forall_mem_map, qualified]
  refine ⟨⟨⟨⟨?_, by simp⟩, ?_⟩, ?_⟩, fun _ _ => trivial⟩
  all_goals split <;> simp

section
variable {innerBean : BeanDefinition → Writing Expression} {innerClosed : BeanDefinition → Prop}
variable (exact : ∀ d e, Outcome.ofWriting.Yields (innerBean d) e → (e.code.IsClosed ↔ innerClosed d))
variable {parameter : String} {properties : List PropertySetting}
include exact

theorem closed_settings {settings : List Expression}
    (each : List.Forall₂ (AddsProperty innerBean (.name parameter)) properties settings) :
    (∀ x ∈ settings, x.code.IsClosed) ↔ ∀ p ∈ properties, ValueClosed innerClosed p.value := by
  induction each with
  | nil => simp
  | cons adds _ ih =>
    obtain ⟨value, written, rfl⟩ := adds
    rw [List.forall_mem_cons, List.forall_mem_cons, ih, ← closed_value exact _ _ _ written]
    simp [propertyCustomizer]

/-- Only properties can keep customizing from being closed. -/
theorem closed_customizers {d : BeanDefinition} {customizing : List Expression}
    (yields : Outcome.ofWriting.Yields (customizers innerBean (.name parameter) d properties)
      customizing) :
    (∀ x ∈ customizing, x.code.IsClosed) ↔ ∀ p ∈ properties, ValueClosed innerClosed p.value := by
  obtain ⟨settings, each, rfl⟩ := customizers_ok yields
  rw [List.forall_mem_append, closed_settings exact each]
  exact and_iff_left (closed_metadataCustomizers parameter d)

end

section
variable {f : BeanFactory} {beanName : String} {d : BeanDefinition} {plan : BeanPlan}
variable {creator : Creator} {arguments : Option (List Expression)}

/-- Written arguments are closed when the types of their values are. -/
theorem closed_arguments (direct : directArguments f d creator = .ok arguments) :
    (∀ x ∈ arguments.getD [], x.code.IsClosed) ↔
      ∀ type ∈ if arguments.isSome then (argumentValues f d creator.executable).flatMap valueTypes else [],
        type.IsClosed := by
  -- An inner bean is no argument that is written.
  have exact : ∀ d e, Outcome.ofExcept.Yields (refuseInner d) e → (e.code.IsClosed ↔ True) :=
    fun _ _ yields => absurd yields Outcome.ofExcept.not_throw
  cases arguments with
  | none => simp
  | some written =>
    have each := directArguments_ok direct
    clear direct
    simp only [Option.getD_some, Option.isSome_some, if_true, argumentValues]
    generalize bindings creator.executable d.arguments = bound at each
    induction each with
    | nil => simp
    | cons one _ ih =>
      have first := closed_value exact _ _ _ one
      refine List.forall_mem_cons.trans ((and_congr first ih).trans ?_)
      simp [ValueClosed, or_imp, forall_and]

/-- The calls of a chain, of an outer or an inner bean, are closed when what the definition is written
with is, and the inner beans are. -/
theorem closed_calls (source : WrittenFrom f d plan creator arguments) {customizing : List Expression}
    (customized : (∀ x ∈ customizing, x.code.IsClosed) ↔
      ∀ p ∈ plan.properties, ValueClosed (WritesClosed f) p.value) :
    ((typeExpression plan.beanType).code.IsClosed ∧
      (∀ call ∈ selection creator.executable, ∀ x ∈ call.arguments, x.code.IsClosed) ∧
      (supplier creator.executable arguments plan.injections).code.IsClosed ∧
      ∀ x ∈ customizing, x.code.IsClosed) ↔ WritesClosed f d := by
  rw [closed_typeExpression, closed_selection, closed_supplier, closed_arguments source.direct,
    customized, writesClosed_iff source]
  have properties : (∀ type ∈ plan.properties.flatMap fun p => valueTypes p.value, type.IsClosed) ↔
      ∀ p ∈ plan.properties, ∀ type ∈ valueTypes p.value, type.IsClosed := by
    grind
  have injected : (∀ type ∈ plan.injections.flatMap memberTypes, type.erasure.IsClosed) ↔
      ∀ d ∈ plan.injections, ∀ type ∈ memberTypes d, type.erasure.IsClosed := by
    grind
  have declared : (∀ type ∈ if plan.injections.isEmpty then [] else [instanceType creator.executable],
      type.IsClosed) ↔ (plan.injections ≠ [] → (instanceType creator.executable).IsClosed) := by
    cases plan.injections <;> simp
  simp only [writtenTypes, ValueClosed, List.forall_mem_append, List.forall_mem_map,
    List.forall_mem_cons, properties, injected, declared, forall₂_and]
  tauto

theorem closed_innerChain (depth level : Nat) (d : BeanDefinition) (e : Expression)
    (yields : Outcome.ofWriting.Yields (innerChain f beanName depth level d) e) :
    e.code.IsClosed ↔ WritesClosed f d := by
  induction depth generalizing level d e with
  | zero => exact absurd yields Outcome.ofWriting.not_throw
  | succ depth ih =>
    obtain ⟨plan, creator, arguments, customizing, source, customized, rfl⟩ := innerChain_ok yields
    rw [← closed_calls source (closed_customizers (ih (level + 1)) customized)]
    simp only [Expression.code, Code.closed_type, JavaType.closed_ofClass, Code.closed_append,
      closed_callsCode, List.forall_mem_append, List.forall_mem_cons, closed_customize,
      List.not_mem_nil, false_imp_iff, implies_true, and_true, true_and]
    tauto

/-- The chain that registers a definition is closed exactly when the definition is written without
variables. -/
theorem IsChain.closed_iff {code : Code} (chain : IsChain f beanName d code) :
    code.IsClosed ↔ WritesClosed f d := by
  cases chain with
  | @intro plan creator arguments customizing source customized =>
    rw [← closed_calls source (closed_customizers (closed_innerChain _ 1) customized)]
    simp only [registrationStatement, chainHead, Statement.code, Expression.code, Code.closed_type,
      JavaType.closed_ofClass, Code.closed_append, closed_callsCode, List.forall_mem_append,
      List.forall_mem_cons, closed_customize, Code.closed_text, Code.closed_indent,
      Code.closed_unindent, List.not_mem_nil, false_imp_iff, implies_true, and_true, true_and]
    tauto

end
end Prewire.Registration
