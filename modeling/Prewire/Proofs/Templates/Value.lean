import Prewire.Proofs.Java.Template
import Prewire.Registration.TypeExpression
import Prewire.Registration.ValueExpression

/-! Types and values from templates. What each writer puts together is the code of the expression that
stands for the type or value, so that every template of it fits its arguments, whatever text these
hold. -/
namespace Prewire.Templates

open Java Beans Registration

section
variable {m : Type → Type} [Monad m] [MonadExceptOf Failure m]

/-- Appends what steps write. A template that does not fit stops everything. -/
def write (steps : List CodeStep) (code : Code) : m Code :=
  match code.applyAll steps with
  | ⟨code, none⟩ => pure code
  | ⟨_, some fault⟩ => throw (.template fault)

def block (format : String) (arguments : List Argument) : m Code := write [.add format arguments] .empty

def rawTypeCode (type : JavaType) : m Code := block "$T.class" [.type type.erasure]

def resolvableTypeCode (type : JavaType) : m Code :=
  block "$T.forClass($T.class)" [.type (.ofClass Known.resolvableType), .type type.erasure]

mutual
def genericTypeCode : JavaType → m Code
  | .classType name [] => block "$T.class" [.type (.ofClass name)]
  | .classType name (t :: ts) => do
    let arguments ← typeArgumentCodes ((t :: ts).any JavaType.isGeneric) (t :: ts)
    block "$T.forClassWithGenerics($T.class, $L)"
      [.type (.ofClass Known.resolvableType), .type (.ofClass name), .code (Code.join ", " arguments)]
  | t => rawTypeCode t
def typeArgumentCodes (resolvable : Bool) : List JavaType → m (List Code)
  | [] => return []
  | t :: ts => do
    let first ←
      if !resolvable then rawTypeCode t
      else if t.isGeneric then genericTypeCode t
      else resolvableTypeCode t
    return first :: (← typeArgumentCodes resolvable ts)
end

def beanTypeCode (type : JavaType) : m Code :=
  if type.mentionsVariable then rawTypeCode type else genericTypeCode type

def numberCode (literal : NumberLiteral) : m Code := block "$L" [.text literal.text]

def wholeCode (value : Int) (type : Option JavaType) (own : Primitive) : m Code :=
  numberCode (wholeNumber value ((type.bind JavaType.primitiveForm?).getD own))

def constantCode (owner : ClassName) (name : String) : m Code :=
  block "$T.$N" [.type (.ofClass owner), .text name]

def floatingCode (format : Decimal.BinaryFormat) (p : Primitive) (bits : Nat) (literal : NumberLiteral) :
    m Code :=
  match format.magnitude bits with
  | .notANumber => constantCode p.boxed "NaN"
  | .infinite =>
    constantCode p.boxed (if format.isNegative bits then "NEGATIVE_INFINITY" else "POSITIVE_INFINITY")
  | .finite .. => numberCode literal

def emptyCollectionCode (factory : String) : m Code :=
  block "$T.$N()" [.type (.ofClass Known.collections), .text factory]

def collectionCode (type : ClassName) (elements : List Code) : m Code :=
  block "$T.of($L)" [.type (.ofClass type), .code (Code.join ", " elements)]

def arrayCode (component : JavaType) (elements : List Code) : m Code :=
  if elements.isEmpty then block "new $T[] \x7b\x7d" [.type component.erasure]
  else block "new $T[] \x7b $L \x7d" [.type component.erasure, .code (Code.join ", " elements)]

mutual
def valueCode (innerBean : BeanDefinition → m Code) : BeanValue → Option JavaType → m Code
  | .null, _ => block "null" []
  | .boolean value, _ => block "$L" [.text (toString value)]
  | .byte value, type => wholeCode value.toInt type .byte
  | .short value, type => wholeCode value.toInt type .short
  | .int value, type => wholeCode value.toInt type .int
  | .long value, _ => numberCode (.long value.toInt)
  | .float bits, _ => floatingCode .single .float bits.toNat (.float bits)
  | .double bits, _ => floatingCode .double .double bits.toNat (.double bits)
  | .char value, _ => block "$L" [.text (Literal.char value)]
  | .string value, _ => block "$S" [.text value]
  | .enumConstant type name, _ => constantCode type name
  | .classLiteral type, _ => rawTypeCode type
  | .array component elements, _ => do
    arrayCode component (← valueCodes innerBean elements (some component))
  | .list [], _ => emptyCollectionCode "emptyList"
  | .list elements, type => do
    collectionCode Known.list (← valueCodes innerBean elements (type.bind (·.arguments.head?)))
  | .set [], _ => emptyCollectionCode "emptySet"
  | .set elements, type => do
    collectionCode Known.set (← valueCodes innerBean elements (type.bind (·.arguments.head?)))
  | .reference beanName, _ =>
    block "new $T($S)" [.type (.ofClass Known.runtimeBeanReference), .text beanName]
  | .inner definition, _ => innerBean definition
  | .opaqueInstance type, _ => throw (.unsupportedValue (.instance type))
def valueCodes (innerBean : BeanDefinition → m Code) :
    List BeanValue → Option JavaType → m (List Code)
  | [], _ => return []
  | v :: vs, type => do
    let first ← valueCode innerBean v type
    return first :: (← valueCodes innerBean vs type)
end

theorem write_of_ofSteps {steps : List CodeStep} {added : Code} (fits : Code.ofSteps? steps = some added)
    (code : Code) : (write steps code : m Code) = pure (code ++ added) := by
  rw [write, Code.applyAll_of_ofSteps fits]

theorem block_of_meaning {format : String} {arguments : List Argument} {code : Code}
    (fits : Template.meaning? format.toList arguments = some code) :
    (block format arguments : m Code) = pure code := by
  have steps : Code.ofSteps? [.add format arguments] = some code := by
    simp [Code.ofSteps?, CodeStep.meaning?, fits]
  rw [block, write_of_ofSteps steps, Code.empty_append]

-- Templates and expressions are compared by what they write, appended to the right and with texts as
-- characters.
attribute [scoped simp] Code.ofSteps? CodeStep.meaning? Template.meaning? Placeholder.ofLetter?
  Placeholder.bind? Code.append_assoc Code.text_eq_chars Code.chars_append Code.chars_append_append
  callsCode argumentsCode restCode statementsCode

theorem rawTypeCode_eq (type : JavaType) :
    (rawTypeCode type : m Code) = pure (rawTypeExpression type).code :=
  block_of_meaning (by simp [rawTypeExpression])

theorem resolvableTypeCode_eq (type : JavaType) : (resolvableTypeCode type : m Code) =
    pure (Expression.staticCall Known.resolvableType "forClass" [rawTypeExpression type]).code :=
  block_of_meaning (by simp [Expression.staticCall, rawTypeExpression])

theorem numberCode_eq (literal : NumberLiteral) :
    (numberCode literal : m Code) = pure (Expression.number literal).code :=
  block_of_meaning (by simp)

theorem constantCode_eq (p : Primitive) (name : String) :
    (constantCode p.boxed name : m Code) = pure (constantOf p name).code :=
  block_of_meaning (by simp [constantOf])

theorem floatingCode_eq (format : Decimal.BinaryFormat) (p : Primitive) (bits : Nat)
    (literal : NumberLiteral) :
    (floatingCode format p bits literal : m Code) = pure (floating format p bits literal).code := by
  cases kind : format.magnitude bits with
  | notANumber => simpa [floatingCode, floating, kind] using constantCode_eq p "NaN"
  | infinite => simpa [floatingCode, floating, kind] using constantCode_eq p _
  | finite => simpa [floatingCode, floating, kind] using numberCode_eq literal

theorem emptyCollectionCode_eq (factory : String) :
    (emptyCollectionCode factory : m Code) = pure (emptyCollection factory).code :=
  block_of_meaning (by simp [emptyCollection, Expression.staticCall])

theorem collectionCode_eq (type : ClassName) (elements : List Expression) :
    (collectionCode type (elements.map Expression.code) : m Code) =
      pure (Expression.staticCall type "of" elements).code := by
  rw [collectionCode, join_codes]
  exact block_of_meaning (by simp [Expression.staticCall])

theorem arrayCode_eq (component : JavaType) (elements : List Expression) :
    (arrayCode component (elements.map Expression.code) : m Code) =
      pure (Expression.createArray component.erasure elements).code := by
  rw [arrayCode, join_codes]
  cases elements with
  | nil => exact block_of_meaning (by simp)
  | cons e rest => exact block_of_meaning (by simp)

variable [LawfulMonad m]

mutual
theorem genericTypeCode_eq : ∀ type : JavaType,
    (genericTypeCode type : m Code) = pure (genericTypeExpression type).code
  | .classType name [] => block_of_meaning (by simp [genericTypeExpression, Expression.classOf])
  | .classType name (t :: ts) => by
    rw [genericTypeCode, typeArgumentCodes_eq, pure_bind, join_codes]
    exact block_of_meaning (by
      simp [genericTypeExpression, typeArguments, Expression.classOf, Expression.staticCall])
  | .primitive p => rawTypeCode_eq (.primitive p)
  | .array component => rawTypeCode_eq (.array component)
  | .variable name => rawTypeCode_eq (.variable name)
theorem typeArgumentCodes_eq (resolvable : Bool) : ∀ types : List JavaType,
    (typeArgumentCodes resolvable types : m (List Code)) =
      pure ((typeArguments resolvable types).map Expression.code)
  | [] => rfl
  | t :: ts => by
    rw [typeArgumentCodes, typeArguments, List.map_cons, typeArgumentCodes_eq resolvable ts]
    split
    · simp only [rawTypeCode_eq, pure_bind]
    split
    · simp only [genericTypeCode_eq t, pure_bind]
    · simp only [resolvableTypeCode_eq, pure_bind]
end

theorem beanTypeCode_eq (type : JavaType) :
    (beanTypeCode type : m Code) = pure (typeExpression type).code := by
  rw [beanTypeCode, typeExpression]
  split
  · exact rawTypeCode_eq type
  · exact genericTypeCode_eq type

/-- What follows a failure does not change it. -/
def StopsAtFailure (m : Type → Type) [Monad m] [MonadExceptOf Failure m] : Prop :=
  ∀ {α β : Type} (g : α → β) (failure : Failure), g <$> (throw failure : m α) = throw failure

mutual
/-- A value is written as its expression is, given that inner beans are. -/
theorem valueCode_eq (stops : StopsAtFailure m) (inner : BeanDefinition → m Expression) :
    ∀ (value : BeanValue) (type : Option JavaType),
      valueCode (fun d => Expression.code <$> inner d) value type =
        Expression.code <$> valueExpression inner value type
  | .null, _ | .boolean _, _ | .char _, _ | .string _, _ | .enumConstant .., _ | .reference _, _ => by
    rw [valueCode, valueExpression, map_pure]
    exact block_of_meaning (by simp [beanReference])
  | .byte _, _ | .short _, _ | .int _, _ | .long _, _ => by
    rw [valueCode, valueExpression, map_pure]
    exact numberCode_eq _
  | .float _, _ | .double _, _ => by
    rw [valueCode, valueExpression, map_pure]
    exact floatingCode_eq ..
  | .classLiteral type, _ => by
    rw [valueCode, valueExpression, map_pure]
    exact rawTypeCode_eq type
  | .array component elements, _ => by
    rw [valueCode, valueExpression, valueCodes_eq stops inner elements]
    simp only [bind_map_left, map_bind, map_pure, arrayCode_eq]
  | .list [], _ | .set [], _ => by
    rw [valueCode, valueExpression, map_pure]
    exact emptyCollectionCode_eq _
  | .list (v :: vs), _ | .set (v :: vs), _ => by
    rw [valueCode, valueExpression, valueCodes_eq stops inner (v :: vs)]
    · simp only [bind_map_left, map_bind, map_pure, collectionCode_eq]
    · simp
    · simp
  | .inner d, _ => by rw [valueCode, valueExpression]
  | .opaqueInstance type, _ => by rw [valueCode, valueExpression, stops]
theorem valueCodes_eq (stops : StopsAtFailure m) (inner : BeanDefinition → m Expression) :
    ∀ (values : List BeanValue) (type : Option JavaType),
      valueCodes (fun d => Expression.code <$> inner d) values type =
        List.map Expression.code <$> valueExpressions inner values type
  | [], _ => by rw [valueCodes, valueExpressions, map_pure, List.map_nil]
  | v :: vs, type => by
    rw [valueCodes, valueExpressions, valueCode_eq stops inner v, valueCodes_eq stops inner vs]
    simp only [bind_map_left, map_bind, map_pure, List.map_cons]
end

end
end Prewire.Templates
