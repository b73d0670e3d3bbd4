import Prewire.Proofs.Java.Literal
import Prewire.Proofs.Java.NumberReader
import Prewire.Registration.Customizer

/-! What customizing does to a definition. The calls are executed on a definition that knows nothing yet,
with literals read off the written code, and leave it with the metadata of the definition that they
were written for. Inner beans are written inside such calls and customized the same way. -/
namespace Prewire.Java

def Expression.text? (e : Expression) : Option String :=
  match e.code.parts with
  | [.text content] => some content
  | _ => none

def Expression.units? (e : Expression) : Option (List Nat) := e.text?.bind Literal.readString?

def Expression.int? (e : Expression) : Option Int :=
  e.text?.bind fun text => (NumberReader.read? text).bind fun (type, n) =>
    if type = .int then some n else none

def Expression.boolean? (e : Expression) : Option Bool :=
  e.text?.bind fun text =>
    if text = "true" then some true else if text = "false" then some false else none

theorem Expression.text?_of_code {e : Expression} {content : String} (written : e.code = .text content)
    (known : content ≠ "") : e.text? = some content := by
  rw [text?, written, Code.text, if_neg known]

@[simp] theorem Expression.units?_string (value : String) :
    (Expression.string value).units? = some (Literal.unitsOf value.toList) := by
  have quoted : Literal.string value ≠ "" := by
    intro empty
    have chars := congrArg String.toList empty
    simp [Literal.string] at chars
  rw [units?, text?_of_code (by rw [Expression.code]) quoted, Option.bind_some]
  exact Literal.quoted?_written (by decide) Literal.written_stringChar value.toList

@[simp] theorem Expression.boolean?_boolean (value : Bool) :
    (Expression.boolean value).boolean? = some value := by
  cases value <;> rfl

theorem Expression.int?_int {n : Int} (low : -2 ^ 31 ≤ n) (high : n < 2 ^ 31) :
    (Expression.number (.int n)).int? = some n := by
  have read := NumberReader.read?_int low high
  have known : (NumberLiteral.int n).text ≠ "" := by
    intro empty
    have nothing : NumberReader.read? "" = none := by decide
    rw [empty, nothing] at read
    cases read
  rw [int?, text?_of_code (by rw [Expression.code]) known, Option.bind_some, read]
  rfl

def Expression.chained : Expression → List Call
  | .chain _ calls => calls
  | _ => []

def Statement.chained : Statement → List Call
  | .brokenChain _ calls => calls
  | _ => []

end Prewire.Java

namespace Prewire.Registration

open Java Beans

/-- What a definition in the container knows besides how its instance is created. -/
structure Metadata where
  /-- Names as code units, with the expressions of the values. -/
  properties : List (List Nat × Expression) := []
  isPrimary : Bool := false
  /-- The usual scope has no name. -/
  scope : Option (List Nat) := none
  role : Int := 0
  isLazy : Bool := false
  qualifiers : List (ClassName × Option (List Nat)) := []

/-- The annotation that an object describes, with the value of its attribute. -/
def qualifier? : Expression → Option (ClassName × Option (List Nat))
  | .create type [.classLiteral (.classType name [])] =>
    if type = .ofClass Known.candidateQualifier then some (name, none) else none
  | .create type [.classLiteral (.classType name []), value] =>
    if type = .ofClass Known.candidateQualifier then value.units?.map fun units => (name, some units)
    else none
  | _ => none

namespace Metadata

def set? (m : Metadata) (method : String) (argument : Expression) : Option Metadata :=
  if method = "setPrimary" then argument.boolean?.map fun value => { m with isPrimary := value }
  else if method = "setScope" then argument.units?.map fun value => { m with scope := some value }
  else if method = "setRole" then argument.int?.map fun value => { m with role := value }
  else if method = "setLazyInit" then argument.boolean?.map fun value => { m with isLazy := value }
  else if method = "addQualifier" then
    (qualifier? argument).map fun value => { m with qualifiers := m.qualifiers ++ [value] }
  else none

/-- What calls on a definition do: one that sets something, or two that add a property. -/
def call? (m : Metadata) : List Call → Option Metadata
  | [⟨method, [argument]⟩] => m.set? method argument
  | [⟨holder, []⟩, ⟨method, [name, value]⟩] =>
    if holder = "getPropertyValues" ∧ method = "addPropertyValue" then
      name.units?.map fun units => { m with properties := m.properties ++ [(units, value)] }
    else none
  | _ => none

/-- Executes calls on the definition that a parameter holds. -/
def execute (parameter : String) (m : Metadata) : Expression → Option Metadata
  | .chain (.name target) calls => if target = parameter then m.call? calls else none
  | _ => none

def executeAll (parameter : String) (m : Metadata) (es : List Expression) : Option Metadata :=
  es.foldlM (execute parameter) m

def executeStatement (parameter : String) (m : Metadata) : Statement → Option Metadata
  | .expression e => execute parameter m e
  | _ => none

def customizedBy (m : Metadata) : Expression → Option Metadata
  | .lambda [parameter] body => execute parameter m body
  | .blockLambda [parameter] body => body.foldlM (executeStatement parameter) m
  | _ => none

def afterCall (m : Metadata) (call : Call) : Option Metadata :=
  if call.method = "customize" then
    match call.arguments with
    | [lambda] => m.customizedBy lambda
    | _ => none
  else some m

def afterCalls (m : Metadata) (calls : List Call) : Option Metadata := calls.foldlM afterCall m

variable {m : Metadata} {parameter : String}

theorem executeAll_append (as bs : List Expression) : m.executeAll parameter (as ++ bs) =
    (m.executeAll parameter as).bind fun m => m.executeAll parameter bs := List.foldlM_append

theorem afterCalls_append (as bs : List Call) :
    m.afterCalls (as ++ bs) = (m.afterCalls as).bind fun m => m.afterCalls bs := List.foldlM_append

/-- Nothing but customizing matters. -/
theorem afterCalls_of_other {calls : List Call} (other : ∀ call ∈ calls, call.method ≠ "customize") :
    m.afterCalls calls = some m := by
  induction calls with
  | nil => rfl
  | cons call rest ih =>
    obtain ⟨here, later⟩ := List.forall_mem_cons.mp other
    rw [afterCalls, List.foldlM_cons, afterCall, if_neg here]
    exact ih later

theorem customizedBy_blockLambda (es : List Expression) :
    m.customizedBy (.blockLambda [parameter] (es.map .expression)) = m.executeAll parameter es := by
  rw [customizedBy, executeAll, List.foldlM_map]
  rfl

theorem afterCalls_customizing (lambda : Expression) :
    m.afterCalls [⟨"customize", [lambda]⟩] = m.customizedBy lambda := bind_pure _

/-- Without a lambda, in a lambda of one call and in a block: the calls are executed in order. -/
theorem afterCalls_customize : ∀ es : List Expression,
    m.afterCalls (customize parameter es) = m.executeAll parameter es
  | [] => rfl
  | [_] => (afterCalls_customizing _).trans (bind_pure _).symm
  | _ :: _ :: _ => (afterCalls_customizing _).trans (customizedBy_blockLambda _)

theorem execute_call (method : String) (argument : Expression) :
    m.execute parameter ((Expression.name parameter).call method [argument]) =
      m.set? method argument := if_pos rfl

theorem execute_property (name : String) (value : Expression) :
    m.execute parameter (propertyCustomizer (.name parameter) name value) =
      some { m with properties := m.properties ++ [(Literal.unitsOf name.toList, value)] } := by
  rw [propertyCustomizer, execute, if_pos rfl, call?, if_pos ⟨rfl, rfl⟩, Expression.units?_string]
  rfl

def qualifierOf (q : Qualifier) : ClassName × Option (List Nat) :=
  (q.type, q.value.map (Literal.unitsOf ·.toList))

theorem qualifier?_written (q : Qualifier) :
    qualifier? (.create (.ofClass Known.candidateQualifier)
      (.classOf q.type :: (q.value.map Expression.string).toList)) = some (qualifierOf q) := by
  rw [qualifierOf]
  cases q.value <;> simp [qualifier?, Expression.classOf, JavaType.ofClass]

theorem execute_qualifier (q : Qualifier) :
    m.execute parameter (qualifierCustomizer (.name parameter) q) =
      some { m with qualifiers := m.qualifiers ++ [qualifierOf q] } := by
  rw [qualifierCustomizer, execute_call]
  simp [set?, qualifier?_written]

/-- Properties are added one after the other. -/
theorem executeAll_properties (settings : List (String × Expression)) :
    m.executeAll parameter (settings.map fun (name, value) =>
      propertyCustomizer (.name parameter) name value) =
      some { m with properties := m.properties ++
        settings.map fun (name, value) => (Literal.unitsOf name.toList, value) } := by
  induction settings generalizing m with
  | nil => simp [executeAll]
  | cons setting rest ih =>
    rw [List.map_cons, executeAll, List.foldlM_cons, execute_property]
    apply ih.trans
    simp

theorem executeAll_qualifiers (qualifiers : List Qualifier) :
    m.executeAll parameter (qualifiers.map (qualifierCustomizer (.name parameter))) =
      some { m with qualifiers := m.qualifiers ++ qualifiers.map qualifierOf } := by
  induction qualifiers generalizing m with
  | nil => simp [executeAll]
  | cons q rest ih =>
    rw [List.map_cons, executeAll, List.foldlM_cons, execute_qualifier]
    apply ih.trans
    simp

/-- What is not written is what a definition starts with. -/
theorem executeAll_metadata (parameter : String) (d : BeanDefinition)
    (properties : List (List Nat × Expression)) :
    executeAll parameter { properties } (metadataCustomizers (.name parameter) d) =
      some {
        properties
        isPrimary := d.isPrimary
        scope := (namedScope? d).map (Literal.unitsOf ·.toList)
        role := d.role.code
        isLazy := d.isLazy
        qualifiers := d.qualifiers.map qualifierOf } := by
  have isPrimary : executeAll parameter { properties } (if d.isPrimary then
      [(Expression.name parameter).call "setPrimary" [.boolean true]] else []) =
        some { properties, isPrimary := d.isPrimary } := by
    cases d.isPrimary <;> simp [executeAll, execute_call, set?]
  have scope (m : Metadata) (fresh : m.scope = none) : executeAll parameter m
      ((namedScope? d).toList.map fun scope =>
        (Expression.name parameter).call "setScope" [.string scope]) =
      some { m with scope := (namedScope? d).map (Literal.unitsOf ·.toList) } := by
    have kept : { m with scope := none } = m := by rw [← fresh]
    cases namedScope? d <;> simp [executeAll, execute_call, set?, kept]
  have role (m : Metadata) (fresh : m.role = 0) : executeAll parameter m
      (if d.role = .application then []
        else [(Expression.name parameter).call "setRole" [.number (.int d.role.code)]]) =
      some { m with role := d.role.code } := by
    have kept : { m with role := 0 } = m := by rw [← fresh]
    have read := Expression.int?_int (n := d.role.code) (by omega) (by cases d.role <;> decide)
    by_cases usual : d.role = .application
    · simp [usual, executeAll, Role.code, kept]
    · simp [usual, executeAll, execute_call, set?, read]
  have isLazy (m : Metadata) (fresh : m.isLazy = false) : executeAll parameter m
      (if d.isLazy then [(Expression.name parameter).call "setLazyInit" [.boolean true]] else []) =
      some { m with isLazy := d.isLazy } := by
    have kept : { m with isLazy := false } = m := by rw [← fresh]
    cases d.isLazy <;> simp [executeAll, execute_call, set?, kept]
  simp only [metadataCustomizers, executeAll_append]
  rw [isPrimary, Option.bind_some, scope _ rfl, Option.bind_some, role _ rfl, Option.bind_some,
    isLazy _ rfl, Option.bind_some, executeAll_qualifiers, List.nil_append]

end Metadata
end Prewire.Registration
