import Prewire.Proofs.Registration.Writing

/-! The classes that a registration names where it creates the object and injects into it. Each
expression names the classes of the types it is written from, and some classes of the container. -/
namespace Prewire.Java

theorem JavaType.classes_erasure_subset : ∀ type : JavaType, type.erasure.classes ⊆ type.classes
  | .primitive _ | .variable _ => fun _ member => member
  | .classType name arguments => by simp [erasure, ofClass, classes, classesOfAll]
  | .array component => by
    simpa only [erasure, classes] using JavaType.classes_erasure_subset component

@[simp] theorem JavaType.classes_ofClass (name : ClassName) : (ofClass name).classes = [name] := rfl

end Prewire.Java

namespace Prewire.Registration

open Java Types Beans Plan Output

@[simp] theorem classes_rawTypeExpression (type : JavaType) :
    (rawTypeExpression type).code.classes = type.erasure.classes := by
  simp [rawTypeExpression]

@[simp] theorem classes_classOf (name : ClassName) : (Expression.classOf name).code.classes = [name] := by
  simp [Expression.classOf]

@[simp] theorem classes_staticCall (name : ClassName) (method : String)
    (arguments : List Expression) :
    (Expression.staticCall name method arguments).code.classes = name :: classesOfCode arguments := by
  simp [Expression.staticCall]

mutual
theorem classes_genericTypeExpression :
    ∀ type, (genericTypeExpression type).code.classes ⊆ Known.resolvableType :: type.classes
  | .classType name [] => by simp [genericTypeExpression, JavaType.classes]
  | .classType name (t :: ts) => by
    have rest := classes_typeArguments ((t :: ts).any JavaType.isGeneric) (t :: ts)
    intro c member
    simp only [genericTypeExpression, classes_staticCall, classesOfCode_cons, classes_classOf,
      List.singleton_append, List.mem_cons, JavaType.classes] at member ⊢
    rcases member with same | same | member
    · exact .inl same
    · exact .inr (.inl same)
    · rcases List.mem_cons.mp (rest member) with same | listed
      · exact .inl same
      · exact .inr (.inr listed)
  | .primitive _ | .variable _ => by simp [genericTypeExpression, JavaType.erasure, JavaType.classes]
  | .array component => by
    rw [genericTypeExpression, classes_rawTypeExpression]
    · exact fun c member => List.mem_cons_of_mem _ (JavaType.classes_erasure_subset _ member)
    all_goals simp
theorem classes_typeArguments (resolvable : Bool) :
    ∀ types, classesOfCode (typeArguments resolvable types) ⊆
      Known.resolvableType :: JavaType.classesOfAll types
  | [] => by simp [typeArguments]
  | t :: ts => by
    have generic := classes_genericTypeExpression t
    have later := classes_typeArguments resolvable ts
    have raw := JavaType.classes_erasure_subset t
    have first : (if !resolvable then rawTypeExpression t
        else if t.isGeneric then genericTypeExpression t
        else .staticCall Known.resolvableType "forClass" [rawTypeExpression t]).code.classes ⊆
          Known.resolvableType :: t.classes := by
      split
      · rw [classes_rawTypeExpression]
        exact fun c member => List.mem_cons_of_mem _ (raw member)
      · split
        · exact generic
        · rw [classes_staticCall, classesOfCode_cons, classes_rawTypeExpression, classesOfCode_nil,
            List.append_nil]
          exact List.cons_subset_cons _ raw
    intro c member
    rw [typeArguments, classesOfCode_cons] at member
    rcases List.mem_append.mp member with here | there
    · rcases List.mem_cons.mp (first here) with same | named
      · simp [same]
      · simp [JavaType.classesOfAll, named]
    · rcases List.mem_cons.mp (later there) with same | named
      · simp [same]
      · simp [JavaType.classesOfAll, named]
end

theorem classes_typeExpression (type : JavaType) :
    (typeExpression type).code.classes ⊆ Known.resolvableType :: type.classes := by
  rw [typeExpression]
  split
  · rw [classes_rawTypeExpression]
    exact fun c member => List.mem_cons_of_mem _ (type.classes_erasure_subset member)
  · exact classes_genericTypeExpression type

def scaffolding : List ClassName :=
  [Known.beanRegistrar, Known.resolvableType, Known.reflectField, Known.reflectMethod,
    Known.reflectionUtils]

def executableClasses (e : Executable) : List ClassName :=
  e.declaringClass :: (e.returnType?.map JavaType.classes).getD []
    ++ e.parameterTypes.flatMap JavaType.classes

/-- The classes that an injection can name: the one that declares the member, and those of the erased
types by which it is found. -/
def memberClasses (d : Dependency) : List ClassName :=
  match d.member with
  | .field field => field.declaringClass :: field.type.erasure.classes
  | .method m => m.declaringClass :: m.parameterTypes.flatMap (·.erasure.classes)
  | .parameter .. => []

def namedClasses (plan : BeanPlan) (e : Executable) : List ClassName :=
  plan.beanType.classes ++ executableClasses e ++ plan.injections.flatMap memberClasses

def isPrivateMember (d : Dependency) : Bool :=
  match d.member with
  | .field field => field.visibility.isPrivate
  | .method m => m.visibility.isPrivate
  | .parameter .. => false

theorem classes_parameterTypeExpressions (e : Executable) :
    classesOfCode (parameterTypeExpressions e) = e.parameterTypes.flatMap (·.erasure.classes) := by
  simp [classesOfCode, parameterTypeExpressions, List.flatMap_map]

theorem classes_attributeArguments (count : Nat) : classesOfCode (attributeArguments count) = [] := by
  simp [classesOfCode, attributeArguments, Expression.call]

theorem classes_invocation (e : Executable) (arguments : List Expression) :
    (invocation e arguments).code.classes = e.declaringClass :: classesOfCode arguments := by
  rw [invocation]
  split <;> simp

theorem classes_lookedUpCreation (e : Executable) :
    (lookedUpCreation e).code.classes = [e.declaringClass] := by
  simp [lookedUpCreation, Expression.call, classes_invocation, classes_attributeArguments]

/-- Looking values up names no class but those of the lambda. -/
theorem classes_lookup (isRequired : Bool) (lambda : Expression) :
    ((lookup isRequired lambda).flatMap fun call => classesOfCode call.arguments) =
      lambda.code.classes := by
  cases isRequired <;> simp [lookup]

theorem classes_reflective (type : ClassName) (holder find use : String)
    (findArguments useArguments : List Expression) :
    (reflective type holder find use findArguments useArguments).code.classes =
      [type, Known.reflectionUtils] ++ classesOfCode findArguments
        ++ [Known.reflectionUtils, Known.reflectionUtils] ++ classesOfCode useArguments := by
  simp [reflective]

/-- Only an injection by reflection names the class that declares the member. -/
theorem classes_fieldLambda (field : Field) :
    (fieldLambda field).code.classes =
      if field.visibility.isPrivate then
        Known.reflectField :: Known.reflectionUtils :: field.declaringClass ::
          field.type.erasure.classes ++ [Known.reflectionUtils, Known.reflectionUtils]
      else [] := by
  rw [fieldLambda]
  split
  · simp [classes_reflective, classes_attributeArguments]
  · simp [Expression.call]

theorem classes_methodLambda (m : Executable) :
    (methodLambda m).code.classes =
      if m.visibility.isPrivate then
        Known.reflectMethod :: Known.reflectionUtils :: m.declaringClass ::
          m.parameterTypes.flatMap (·.erasure.classes) ++ [Known.reflectionUtils, Known.reflectionUtils]
      else [] := by
  rw [methodLambda]
  split
  · simp [classes_reflective, classes_attributeArguments, classes_parameterTypeExpressions]
  · simp [Expression.call, classes_attributeArguments]

/-- A member is found by its types, and where it is private also by the class that declares it. -/
theorem classes_reached {first declaring : ClassName} (types : List ClassName) (hidden : Bool)
    (known : first ∈ scaffolding) :
    let reached := types ++ if hidden then
      first :: Known.reflectionUtils :: declaring :: types
        ++ [Known.reflectionUtils, Known.reflectionUtils] else []
    reached ⊆ scaffolding ++ declaring :: types ∧ (hidden → declaring :: types ⊆ reached) := by
  have utils : Known.reflectionUtils ∈ scaffolding := by simp [scaffolding]
  cases hidden with
  | false => simp
  | true =>
    refine ⟨fun c member => ?_, fun _ c member => ?_⟩
    · simp only [if_true, List.mem_append, List.mem_cons, List.not_mem_nil, or_false] at member ⊢
      rcases member with typed | (rfl | rfl | rfl | typed) | rfl | rfl
      · exact .inr (.inr typed)
      · exact .inl known
      · exact .inl utils
      · exact .inr (.inl rfl)
      · exact .inr (.inr typed)
      · exact .inl utils
      · exact .inl utils
    · rcases List.mem_cons.mp member with rfl | typed
      · simp
      · simp [typed]

/-- The statement of an injection names classes of the member, and all of them for a private one. -/
theorem classes_injection {d : Dependency} {s : Statement} (injects : injection d = some s) :
    s.code.classes ⊆ scaffolding ++ memberClasses d ∧
      (isPrivateMember d → memberClasses d ⊆ s.code.classes) := by
  rw [injection] at injects
  split at injects
  · simp at injects
  · next field target =>
    obtain rfl := Option.some.inj injects
    have named : (Statement.expression (.chain (.name instanceContextName)
        (⟨"field", [.string field.name, rawTypeExpression field.type]⟩
          :: lookup d.isRequired (fieldLambda field)))).code.classes =
        field.type.erasure.classes ++ (fieldLambda field).code.classes := by
      simp [classes_lookup]
    rw [named, classes_fieldLambda, memberClasses, isPrivateMember, target]
    exact classes_reached _ field.visibility.isPrivate (by simp [scaffolding])
  · next m target =>
    obtain rfl := Option.some.inj injects
    have named : (Statement.expression (.chain (.name instanceContextName)
        (⟨"method", .string (injectedMethodName m) :: parameterTypeExpressions m⟩
          :: lookup d.isRequired (methodLambda m)))).code.classes =
        m.parameterTypes.flatMap (·.erasure.classes) ++ (methodLambda m).code.classes := by
      simp [classes_lookup, classes_parameterTypeExpressions]
    rw [named, classes_methodLambda, memberClasses, isPrivateMember, target]
    exact classes_reached _ m.visibility.isPrivate (by simp [scaffolding])

def created (e : Executable) (arguments : Option (List Expression)) : Expression :=
  (arguments.map (invocation e)).getD (lookedUpCreation e)

theorem classes_created (e : Executable) (arguments : Option (List Expression)) :
    (created e arguments).code.classes = e.declaringClass :: classesOfCode (arguments.getD []) := by
  cases arguments with
  | none => simp [created, classes_lookedUpCreation]
  | some arguments => simp [created, classes_invocation]

/-- The classes of a supplier: those of the creation, and with injections also those of the type of
the variable and of the injections. -/
theorem classes_supplier (e : Executable) (arguments : Option (List Expression))
    (injections : List Dependency) :
    (supplier e arguments injections).code.classes =
      if injections.isEmpty then (created e arguments).code.classes
      else (instanceType e).classes ++ (created e arguments).code.classes
        ++ (injections.filterMap injection).flatMap fun s => s.code.classes := by
  cases injections with
  | nil => cases arguments <;> simp [supplier, created]
  | cons d rest => simp [supplier, created]

theorem classes_instanceType (e : Executable) : (instanceType e).classes ⊆ executableClasses e := by
  intro c member
  rw [instanceType] at member
  cases returned : e.returnType? with
  | none => simp_all [executableClasses]
  | some type => simp_all [executableClasses]

/-- The code of a registration that creates the object and injects into it. -/
def creationCode (beanName : String) (plan : BeanPlan) (creator : Creator)
    (arguments : Option (List Expression)) : Code :=
  openChainCode (chainHead beanName plan creator)
    [⟨"instanceSupplier", [supplier creator.executable arguments plan.injections]⟩]

section
variable (beanName : String) (plan : BeanPlan) (creator : Creator)
variable (arguments : Option (List Expression))

theorem classes_selection (e : Executable) :
    ((selection e).flatMap fun call => classesOfCode call.arguments) ⊆ executableClasses e := by
  have types : classesOfCode (parameterTypeExpressions e) ⊆ executableClasses e := by
    rw [classes_parameterTypeExpressions]
    intro c member
    obtain ⟨type, parameter, named⟩ := List.mem_flatMap.mp member
    exact List.mem_append_right _
      (List.mem_flatMap.mpr ⟨type, parameter, type.classes_erasure_subset named⟩)
  have declaring : e.declaringClass ∈ executableClasses e := by simp [executableClasses]
  intro c member
  rw [selection.eq_def] at member
  split at member
  · simp only [List.flatMap_cons, List.flatMap_nil, List.append_nil, classesOfCode_cons,
      classes_classOf, Expression.code, Code.classes_text, List.nil_append] at member
    rcases List.mem_append.mp member with same | named
    · rwa [List.mem_singleton.mp same]
    · exact types named
  · split at member
    · simp at member
    · exact types (by simpa using member)

/-- Creation and injection name no class but those the registration is written from, those of the
arguments, and some of the container. -/
theorem classes_creationCode :
    (creationCode beanName plan creator arguments).classes ⊆
      scaffolding ++ classesOfCode (arguments.getD []) ++ namedClasses plan creator.executable := by
  have registrar : Known.beanRegistrar ∈ scaffolding := by simp [scaffolding]
  have resolvable : Known.resolvableType ∈ scaffolding := by simp [scaffolding]
  have declaring : creator.executable.declaringClass ∈ executableClasses creator.executable := by
    simp [executableClasses]
  intro c member
  rw [List.mem_append, List.mem_append, namedClasses, List.mem_append, List.mem_append]
  simp only [creationCode, classes_openChainCode, chainHead, Expression.code, Code.classes_append,
    Code.classes_type, JavaType.classes_ofClass, classes_callsCode, List.flatMap_cons,
    classesOfCode_cons, Code.classes_text, List.nil_append, classesOfCode_nil, List.append_nil,
    List.flatMap_nil, classes_supplier, List.mem_append, List.mem_singleton] at member
  rcases member with (rfl | typed | selected) | supplied
  · exact .inl (.inl registrar)
  · rcases List.mem_cons.mp (classes_typeExpression _ typed) with rfl | named
    · exact .inl (.inl resolvable)
    · exact .inr (.inl (.inl named))
  · exact .inr (.inl (.inr (classes_selection _ selected)))
  · have creates (member : c ∈ (created creator.executable arguments).code.classes) :
        (c ∈ scaffolding ∨ c ∈ classesOfCode (arguments.getD [])) ∨
          (c ∈ plan.beanType.classes ∨ c ∈ executableClasses creator.executable) ∨
            c ∈ plan.injections.flatMap memberClasses := by
      rw [classes_created] at member
      rcases List.mem_cons.mp member with rfl | argument
      · exact .inr (.inl (.inr declaring))
      · exact .inl (.inr argument)
    split at supplied
    · exact creates supplied
    · rcases List.mem_append.mp supplied with before | injected
      · rcases List.mem_append.mp before with typed | member
        · exact .inr (.inl (.inr (classes_instanceType _ typed)))
        · exact creates member
      · obtain ⟨s, injects, named⟩ := List.mem_flatMap.mp injected
        obtain ⟨d, listed, injects⟩ := List.mem_filterMap.mp injects
        rcases List.mem_append.mp ((classes_injection injects).1 named) with known | member
        · exact .inl (.inl known)
        · exact .inr (.inr (List.mem_flatMap.mpr ⟨d, listed, member⟩))

/-- All classes of a private member are named where it is injected. -/
theorem memberClasses_subset {d : Dependency} (listed : d ∈ plan.injections)
    (hidden : isPrivateMember d) :
    memberClasses d ⊆ (creationCode beanName plan creator arguments).classes := by
  have injects : ∃ s, injection d = some s := by
    rw [injection.eq_def]
    rw [isPrivateMember.eq_def] at hidden
    split
    · simp_all
    · simp
    · simp
  obtain ⟨s, injects⟩ := injects
  have nonempty : plan.injections.isEmpty = false := by
    cases empty : plan.injections with
    | nil => simp [empty] at listed
    | cons => rfl
  intro c member
  have named := (classes_injection injects).2 hidden member
  have statement : s ∈ plan.injections.filterMap injection :=
    List.mem_filterMap.mpr ⟨d, listed, injects⟩
  rw [creationCode, classes_openChainCode, List.flatMap_singleton, classesOfCode_cons,
    classes_supplier, nonempty]
  refine List.mem_append_right _ (List.mem_append_left _ (List.mem_append_right _ ?_))
  exact List.mem_flatMap.mpr ⟨s, statement, named⟩

end
end Prewire.Registration
