import Prewire.Proofs.Templates.Value
import Prewire.Registration.Injection

/-! The creation of instances and injection into them, from templates. Each writer appends the code of
the calls, statements or expression that stand for what it writes, to any code. -/
namespace Prewire.Templates

open Java Types Beans Plan Registration

section
variable {m : Type → Type} [Monad m] [MonadExceptOf Failure m]

def parameterTypesCode (e : Executable) : m Code := do
  return Code.join ", " (← e.parameterTypes.mapM rawTypeCode)

def attributesCode (count : Nat) : m Code := do
  return Code.join ", "
    (← (List.range count).mapM fun index => block "attributes.get($L)" [.text (toString index)])

def invocationCode (e : Executable) (arguments : List Code) : m Code :=
  let owner : Argument := .type (.ofClass e.declaringClass)
  let arguments : Argument := .code (Code.join ", " arguments)
  match e.kind with
  | .constructor => block "new $T($L)" [owner, arguments]
  | .method name _ true => block "$T.$N($L)" [owner, .text name, arguments]
  | .method name _ false => block "context.getBean($T.class).$N($L)" [owner, .text name, arguments]

def creationCode (e : Executable) : Option (List Code) → m Code
  | some arguments => invocationCode e arguments
  | none => do
    let creation ← invocationCode e [← attributesCode e.parameterCount]
    block "instanceContext.create(context, (attributes) -> $L)" [.code creation]

def selectionSteps (e : Executable) (types : Code) : List CodeStep :=
  match e.methodName? with
  | some method =>
    .add ".withFactoryMethod($T.class, $S" [.type (.ofClass e.declaringClass), .text method]
      :: (if types.isEmpty then [] else [.add ", $L" [.code types]]) ++ [.add ")" []]
  | none => if types.isEmpty then [] else [.add ".withConstructor($L)" [.code types]]

def writeSelection (e : Executable) (code : Code) : m Code := do
  write (selectionSteps e (← parameterTypesCode e)) code

def lookupStep (isRequired : Bool) : CodeStep :=
  .add (if isRequired then ".invoke(context, (attributes) -> "
    else ".resolve(context, false).ifResolved((attributes) -> ") []

def fieldSteps (field : Field) : List CodeStep :=
  if field.visibility.isPrivate then
    let utilities : Argument := .type (.ofClass Known.reflectionUtils)
    [.add "\x7b\n$>" [],
      .statement "$T field = $T.findField($T.class, $S, $T.class)"
        [.type (.ofClass Known.reflectField), utilities, .type (.ofClass field.declaringClass),
          .text field.name, .type field.type.erasure],
      .statement "$T.makeAccessible(field)" [utilities],
      .statement "$T.setField(field, bean, attributes.get(0))" [utilities],
      .add "$<\x7d);\n" []]
  else [.add "bean.$N = attributes.get(0));\n" [.text field.name]]

def writeFieldInjection (field : Field) (isRequired : Bool) (code : Code) : m Code :=
  write
    (.add "instanceContext.field($S, $T.class)" [.text field.name, .type field.type.erasure]
      :: lookupStep isRequired :: fieldSteps field) code

def foundMethodCode (e : Executable) (types : Code) : m Code :=
  let owner : Argument := .type (.ofClass e.declaringClass)
  let name : Argument := .text (injectedMethodName e)
  if types.isEmpty then block "$T.class, $S" [owner, name]
  else block "$T.class, $S, $L" [owner, name, .code types]

def invokedMethodCode (attributes : Code) : m Code :=
  if attributes.isEmpty then block "method, bean" [] else block "method, bean, $L" [.code attributes]

def methodSteps (e : Executable) (types attributes : Code) : m (List CodeStep) := do
  if e.visibility.isPrivate then
    let utilities : Argument := .type (.ofClass Known.reflectionUtils)
    let found ← foundMethodCode e types
    let invoked ← invokedMethodCode attributes
    return [.add "\x7b\n$>" [],
      .statement "$T method = $T.findMethod($L)"
        [.type (.ofClass Known.reflectMethod), utilities, .code found],
      .statement "$T.makeAccessible(method)" [utilities],
      .statement "$T.invokeMethod($L)" [utilities, .code invoked],
      .add "$<\x7d);\n" []]
  else return [.add "bean.$N($L));\n" [.text (injectedMethodName e), .code attributes]]

def writeMethodInjection (e : Executable) (isRequired : Bool) (code : Code) : m Code := do
  let types ← parameterTypesCode e
  let steps ← methodSteps e types (← attributesCode e.parameterCount)
  write
    ((if types.isEmpty then .add "instanceContext.method($S)" [.text (injectedMethodName e)]
      else .add "instanceContext.method($S, $L)" [.text (injectedMethodName e), .code types])
      :: lookupStep isRequired :: steps) code

def writeInjection (d : Dependency) (code : Code) : m Code :=
  match d.member with
  | .parameter .. => pure code
  | .field field => writeFieldInjection field d.isRequired code
  | .method e => writeMethodInjection e d.isRequired code

def writeInjections (injections : List Dependency) (code : Code) : m Code :=
  injections.foldlM (fun code d => writeInjection d code) code

def writeSupplier (e : Executable) (arguments : Option (List Code)) (injections : List Dependency)
    (code : Code) : m Code := do
  let creation ← creationCode e arguments
  if injections.isEmpty then
    write
      [.add (if arguments.isSome then "() -> $L" else "(instanceContext) -> $L") [.code creation]] code
  else
    let code ← write
      [.add "(instanceContext) -> \x7b\n$>" [],
        .statement "$T bean = $L" [.type (instanceType e), .code creation]] code
    let code ← writeInjections injections code
    write [.statement "return bean" [], .add "$<\x7d" []] code

/-- The writer gives what it was given, with the code added. -/
def Appends (writer : Code → m Code) (added : Code) : Prop :=
  ∀ code, writer code = pure (code ++ added)

theorem appends_write {steps : List CodeStep} {added : Code} (fits : Code.ofSteps? steps = some added) :
    Appends (m := m) (write steps) added := write_of_ofSteps fits

theorem text_int (n : Nat) : (NumberLiteral.int n).text = toString n := rfl

theorem text_zero : (NumberLiteral.int 0).text = "0" := rfl

theorem text_boolean (value : Bool) : toString value = if value then "true" else "false" := by
  cases value <;> rfl

theorem parameterList_one (parameter : String) :
    parameterList [parameter] = Code.text ("(" ++ parameter ++ ") -> ") := by
  simp [parameterList]

attribute [scoped simp] text_int text_zero text_boolean parameterList_one Expression.call
  Expression.staticCall Expression.classOf contextName instanceContextName attributesName beanVariable
  rawTypeExpression

theorem isEmpty_parameterTypes (e : Executable) :
    (argumentsCode ", " (parameterTypeExpressions e)).isEmpty = e.parameters.isEmpty := by
  rw [isEmpty_argumentsCode]
  · simp [parameterTypeExpressions, Executable.parameterTypes]
  · simp [parameterTypeExpressions, Code.append_eq_empty, Code.type_ne_empty]

theorem parameterTypes_nil {e : Executable} (bare : e.parameters = []) :
    parameterTypeExpressions e = [] := by
  simp [parameterTypeExpressions, Executable.parameterTypes, bare]

theorem restCode_parameterTypes {e : Executable} {p : Parameter} {rest : List Parameter}
    (listed : e.parameters = p :: rest) : restCode ", " (parameterTypeExpressions e) =
      Code.text ", " ++ argumentsCode ", " (parameterTypeExpressions e) :=
  restCode_eq (by simp [parameterTypeExpressions, Executable.parameterTypes, listed])

theorem isEmpty_attributes (e : Executable) :
    (argumentsCode ", " (attributeArguments e.parameterCount)).isEmpty = e.parameters.isEmpty := by
  rw [isEmpty_argumentsCode]
  · rw [Bool.eq_iff_iff]
    simp [attributeArguments, Executable.parameterCount]
  · simp [attributeArguments, Code.chars_eq_empty]

theorem invocationCode_eq (e : Executable) {arguments : List Code} {es : List Expression}
    (same : Code.join ", " arguments = argumentsCode ", " es) :
    (invocationCode e arguments : m Code) = pure (invocation e es).code := by
  rw [invocationCode, same]
  cases kind : e.kind with
  | constructor => exact block_of_meaning (by simp [invocation, kind])
  | method name returns isStatic =>
    cases isStatic with
    | true => exact block_of_meaning (by simp [invocation, kind])
    | false => exact block_of_meaning (by simp [invocation, kind])

theorem foundMethodCode_eq (e : Executable) :
    (foundMethodCode e (argumentsCode ", " (parameterTypeExpressions e)) : m Code) =
      pure (argumentsCode ", "
        (.classOf e.declaringClass :: .string (injectedMethodName e) :: parameterTypeExpressions e)) := by
  rw [foundMethodCode, isEmpty_parameterTypes]
  cases bare : e.parameters with
  | nil => exact block_of_meaning (by simp [parameterTypes_nil bare])
  | cons p rest => exact block_of_meaning (by simp [restCode_parameterTypes bare])

theorem invokedMethodCode_eq (e : Executable) :
    (invokedMethodCode (argumentsCode ", " (attributeArguments e.parameterCount)) : m Code) =
      pure (argumentsCode ", "
        (.name "method" :: .name beanVariable :: attributeArguments e.parameterCount)) := by
  rw [invokedMethodCode, isEmpty_attributes]
  cases bare : e.parameters with
  | nil => exact block_of_meaning (by simp [attributeArguments, Executable.parameterCount, bare])
  | cons p rest =>
    have listed : attributeArguments e.parameterCount ≠ [] := by
      simp [attributeArguments, Executable.parameterCount, bare]
    exact block_of_meaning (by simp [restCode_eq listed])

/-- A call, followed by the look up of what a lambda is given. The steps for the lambda leave out its
parameter, which the look up writes, and end the statement. -/
theorem ofSteps_lookup {call : CodeStep} {added : Code} (fits : call.meaning? = some added)
    (isRequired : Bool) {steps : List CodeStep} {lambda : Expression}
    (rest : (Code.ofSteps? steps).map (Code.text "(attributes) -> " ++ ·) =
      some (lambda.code ++ Code.text ");\n")) :
    Code.ofSteps? (call :: lookupStep isRequired :: steps) =
      some (added ++ callsCode (lookup isRequired lambda) ++ Code.text ";\n") := by
  obtain ⟨tail, others, same⟩ := Option.map_eq_some_iff.mp rest
  have opened (opening : String) : Code.text (opening ++ "(attributes) -> ") ++ tail =
      Code.text opening ++ (lambda.code ++ Code.text ");\n") := by
    rw [← Code.text_append, Code.append_assoc, same]
  have required := opened ".invoke(context, "
  have optional := opened ".resolve(context, false).ifResolved("
  rw [Code.ofSteps?, fits, Code.ofSteps?, others]
  cases isRequired with
  | true => simpa [lookupStep, lookup] using congrArg (added ++ ·) required
  | false => simpa [lookupStep, lookup] using congrArg (added ++ ·) optional

theorem meaning_method (e : Executable) :
    CodeStep.meaning? (if e.parameters.isEmpty then
        .add "instanceContext.method($S)" [.text (injectedMethodName e)]
      else .add "instanceContext.method($S, $L)"
        [.text (injectedMethodName e), .code (argumentsCode ", " (parameterTypeExpressions e))]) =
      some (Expression.call (.name instanceContextName) "method"
        (.string (injectedMethodName e) :: parameterTypeExpressions e)).code := by
  cases bare : e.parameters with
  | nil => simp [parameterTypes_nil bare]
  | cons p rest => simp [restCode_parameterTypes bare]

theorem ofSteps_fieldSteps (field : Field) :
    (Code.ofSteps? (fieldSteps field)).map (Code.text "(attributes) -> " ++ ·) =
      some ((fieldLambda field).code ++ Code.text ");\n") := by
  by_cases hidden : field.visibility.isPrivate
  · simp [fieldSteps, fieldLambda, reflective, hidden, attributeArguments]
  · simp [fieldSteps, fieldLambda, hidden]

theorem appends_fieldInjection (field : Field) (isRequired : Bool) :
    Appends (m := m) (writeFieldInjection field isRequired)
      (Statement.expression (.chain (.name instanceContextName)
        (⟨"field", [.string field.name, rawTypeExpression field.type]⟩
          :: lookup isRequired (fieldLambda field)))).code := by
  refine appends_write ?_
  have call : CodeStep.meaning? (.add "instanceContext.field($S, $T.class)"
      [.text field.name, .type field.type.erasure]) =
      some (Expression.call (.name instanceContextName) "field"
        [.string field.name, rawTypeExpression field.type]).code := by simp
  rw [ofSteps_lookup call isRequired (ofSteps_fieldSteps field)]
  simp

variable [LawfulMonad m]

theorem parameterTypesCode_eq (e : Executable) : (parameterTypesCode e : m Code) =
    pure (argumentsCode ", " (parameterTypeExpressions e)) := by
  have each : (rawTypeCode : JavaType → m Code) = fun t => pure (rawTypeExpression t).code :=
    funext rawTypeCode_eq
  rw [parameterTypesCode, each, List.mapM_pure, pure_bind, ← join_codes, parameterTypeExpressions,
    List.map_map]
  rfl

theorem attributesCode_eq (count : Nat) : (attributesCode count : m Code) =
    pure (argumentsCode ", " (attributeArguments count)) := by
  have each : (fun index : Nat => (block "attributes.get($L)" [.text (toString index)] : m Code)) =
      fun index : Nat =>
        pure (Expression.call (.name attributesName) "get" [.number (.int index)]).code := by
    funext index
    exact block_of_meaning (by simp)
  rw [attributesCode, each, List.mapM_pure, pure_bind, ← join_codes, attributeArguments, List.map_map]
  rfl

theorem creationCode_eq (e : Executable) (arguments : Option (List Expression)) :
    (creationCode e (arguments.map (·.map Expression.code)) : m Code) =
      pure ((arguments.map (invocation e)).getD (lookedUpCreation e)).code := by
  cases arguments with
  | some arguments => exact invocationCode_eq e (join_codes ", " arguments)
  | none =>
    simp only [Option.map_none, creationCode, attributesCode_eq, pure_bind]
    rw [invocationCode_eq e rfl, pure_bind]
    exact block_of_meaning (by simp [lookedUpCreation])

theorem appends_selection (e : Executable) :
    Appends (m := m) (writeSelection e) (callsCode (selection e)) := by
  intro code
  rw [writeSelection, parameterTypesCode_eq, pure_bind]
  refine appends_write ?_ code
  rw [selectionSteps, isEmpty_parameterTypes]
  cases name : e.methodName? with
  | none => cases bare : e.parameters <;> simp [selection, name, bare]
  | some method =>
    cases bare : e.parameters with
    | nil => simp [selection, name, parameterTypes_nil bare]
    | cons p rest => simp [selection, name, restCode_parameterTypes bare]

theorem methodSteps_eq (e : Executable) : ∃ steps,
    (methodSteps e (argumentsCode ", " (parameterTypeExpressions e))
      (argumentsCode ", " (attributeArguments e.parameterCount)) : m (List CodeStep)) = pure steps ∧
    (Code.ofSteps? steps).map (Code.text "(attributes) -> " ++ ·) =
      some ((methodLambda e).code ++ Code.text ");\n") := by
  rw [methodSteps]
  by_cases hidden : e.visibility.isPrivate
  · rw [if_pos hidden, foundMethodCode_eq, pure_bind, invokedMethodCode_eq, pure_bind]
    exact ⟨_, rfl, by simp [methodLambda, reflective, hidden]⟩
  · rw [if_neg hidden]
    exact ⟨_, rfl, by simp [methodLambda, hidden]⟩

theorem appends_methodInjection (e : Executable) (isRequired : Bool) :
    Appends (m := m) (writeMethodInjection e isRequired)
      (Statement.expression (.chain (.name instanceContextName)
        (⟨"method", .string (injectedMethodName e) :: parameterTypeExpressions e⟩
          :: lookup isRequired (methodLambda e)))).code := by
  intro code
  obtain ⟨steps, planned, fits⟩ := methodSteps_eq (m := m) e
  rw [writeMethodInjection, parameterTypesCode_eq, pure_bind, attributesCode_eq, pure_bind, planned,
    pure_bind, isEmpty_parameterTypes]
  refine appends_write ?_ code
  rw [ofSteps_lookup (meaning_method e) isRequired fits]
  simp

theorem appends_injections (injections : List Dependency) :
    Appends (m := m) (writeInjections injections)
      (statementsCode (injections.filterMap injection)) := by
  have each (d : Dependency) :
      Appends (m := m) (writeInjection d) (statementsCode (injection d).toList) := by
    intro code
    rw [writeInjection, injection]
    cases d.member with
    | parameter => simp
    | field field => simpa using appends_fieldInjection (m := m) field d.isRequired code
    | method e => simpa using appends_methodInjection (m := m) e d.isRequired code
  induction injections with
  | nil => exact fun code => by simp [writeInjections]
  | cons d rest ih =>
    intro code
    rw [writeInjections, List.foldlM_cons, each d code, pure_bind, ← writeInjections, ih]
    cases written : injection d <;> simp [written]

/-- The lambda that supplies an instance. -/
theorem appends_supplier (e : Executable) (arguments : Option (List Expression))
    (injections : List Dependency) :
    Appends (m := m) (writeSupplier e (arguments.map (·.map Expression.code)) injections)
      (supplier e arguments injections).code := by
  intro code
  rw [writeSupplier, creationCode_eq, pure_bind]
  by_cases bare : injections.isEmpty
  · rw [if_pos bare]
    refine appends_write ?_ code
    cases arguments <;> simp [supplier, bare, parameterList]
  · rw [if_neg bare]
    have opening : Code.ofSteps? [.add "(instanceContext) -> \x7b\n$>" [],
        .statement "$T bean = $L" [.type (instanceType e), .code
          ((arguments.map (invocation e)).getD (lookedUpCreation e)).code]] =
      some (Code.text "(instanceContext) -> \x7b\n" ++ Code.indent ++
        (Statement.declare (instanceType e) beanVariable
          ((arguments.map (invocation e)).getD (lookedUpCreation e))).code) := by simp
    have closing : Code.ofSteps? [.statement "return bean" [], .add "$<\x7d" []] =
      some (Code.text "return bean;\n" ++ Code.unindent ++ Code.text "\x7d") := by simp
    rw [write_of_ofSteps opening, pure_bind, appends_injections, pure_bind, write_of_ofSteps closing]
    simp [supplier, bare, statementsCode_append]

end
end Prewire.Templates
