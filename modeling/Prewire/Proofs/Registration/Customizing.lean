import Prewire.Proofs.Registration.Block
import Prewire.Proofs.Registration.Metadata
import Prewire.Proofs.Registration.WholeNumbers

/-! Customizing reproduces definitions. The calls that a registration appends for a definition, and those
for the definitions inside of it, leave fresh ones in the container with the properties of their plans
and the metadata of the definitions. How a value is written does not depend on what was written before. -/
namespace Prewire.Java

theorem within_of_elements {e element : Expression} (listed : element ∈ e.elements) :
    element.code.Within e.code := by
  rw [Expression.elements.eq_def] at listed
  split at listed
  · next component elements =>
    cases elements with
    | nil => cases listed
    | cons first rest =>
      have code : (Expression.createArray component (first :: rest)).code =
          Code.text "new " ++ Code.type component ++ Code.text "[] \x7b "
            ++ argumentsCode ", " (first :: rest) ++ Code.text " \x7d" := by
        simp only [Expression.code, argumentsCode, Code.append_assoc]
      rw [code]
      exact ((within_argumentsCode listed ", ").append_left _).append_right _
  · next receiver method arguments =>
    rw [Expression.code, callsCode, callsCode]
    exact ((((within_argumentsCode listed ", ").append_left _).append_right _).append_right _).append_left _
  · cases listed

/-- What is at a path of an expression stands in its code. -/
theorem Expression.within_at? {path : List Nat} {e part : Expression} (placed : e.at? path = some part) :
    part.code.Within e.code := by
  induction path generalizing e with
  | nil =>
    obtain rfl := Option.some.inj placed
    exact .refl _
  | cons i path ih =>
    rw [Expression.at?, Option.bind_eq_some_iff] at placed
    obtain ⟨element, listed, deeper⟩ := placed
    exact (ih deeper).trans (within_of_elements (List.mem_of_getElem? listed))

end Prewire.Java

namespace Prewire.Registration

open Java Types Beans Plan Output Target

section
variable {f : BeanFactory} {beanName : String} {d : BeanDefinition}

def Independent {α : Type} (action : Writing α) : Prop :=
  ∀ p q, (action.run.run p).1 = (action.run.run q).1

theorem composes_independent : Composes Independent where
  plain _ _ _ := rfl
  refused _ _ _ := rfl
  bind {_ _ action next} first second p q := by
    have same := first p q
    simp only [ExceptT.run_bind, StateT.run_bind]
    revert same
    rcases action.run.run p with ⟨outcome, p'⟩
    rcases action.run.run q with ⟨again, q'⟩
    rintro (rfl : outcome = again)
    cases outcome with
    | error failure => rfl
    | ok a => exact second a p' q'

theorem independent_lift {α : Type} (result : Except Failure α) :
    Independent (liftM result : Writing α) := by
  intro p q
  cases result <;> rfl

theorem independent_innerChain (depth level : Nat) (d : BeanDefinition) :
    Independent (innerChain f beanName depth level d) :=
  composes_independent.innerChain (composes_independent.plans independent_lift fun _ _ _ => rfl)
    (fun _ _ _ => rfl) depth level d

variable {innerBean : BeanDefinition → Writing Expression} {target : Expression}

/-- The expression that the value of a property is written as, whatever was written before. -/
def WritesValue (innerBean : BeanDefinition → Writing Expression) (p : PropertySetting)
    (e : Expression) : Prop :=
  ∀ progress, ((valueExpression innerBean p.value p.type).run.run progress).1 = .ok e

theorem writesValue_of_yields (independent : ∀ d, Independent (innerBean d)) {p : PropertySetting}
    {e : Expression} (yields : Outcome.ofWriting.Yields (valueExpression innerBean p.value p.type) e) :
    WritesValue innerBean p e := by
  obtain ⟨before, after, ran⟩ := yields
  intro progress
  have same := composes_independent.value independent p.value p.type progress before
  rwa [ran] at same

/-- The names and values that properties are added with. -/
theorem settings_ok (independent : ∀ d, Independent (innerBean d)) {properties : List PropertySetting}
    {written : List Expression} (each : List.Forall₂ (AddsProperty innerBean target) properties written) :
    ∃ settings : List (String × Expression),
      List.Forall₂ (fun p s => p.name = s.1 ∧ WritesValue innerBean p s.2) properties settings ∧
      written = settings.map fun s => propertyCustomizer target s.1 s.2 := by
  induction each with
  | nil => exact ⟨[], .nil, rfl⟩
  | @cons p _ _ _ adds _ ih =>
    obtain ⟨value, yields, rfl⟩ := adds
    obtain ⟨settings, each, rfl⟩ := ih
    have writes := writesValue_of_yields independent yields
    exact ⟨(p.name, value) :: settings, .cons ⟨rfl, writes⟩ each, rfl⟩

/-- What a definition in the container knows is what a definition and the properties of its plan say.
The usual scope is not named. -/
structure Reproduces (innerBean : BeanDefinition → Writing Expression) (d : BeanDefinition)
    (properties : List PropertySetting) (m : Metadata) : Prop where
  properties : List.Forall₂ (fun p known => known.1 = Literal.unitsOf p.name.toList ∧
    WritesValue innerBean p known.2) properties m.properties
  isPrimary : m.isPrimary = d.isPrimary
  isLazy : m.isLazy = d.isLazy
  role : m.role = d.role.code
  scope : m.scope = if d.scope ∈ [none, some "", some "singleton"] then none
    else d.scope.map (Literal.unitsOf ·.toList)
  qualifiers : m.qualifiers = d.qualifiers.map fun q =>
    (q.type, q.value.map (Literal.unitsOf ·.toList))

theorem Reproduces.names {properties : List PropertySetting} {m : Metadata}
    (reproduces : Reproduces innerBean d properties m) :
    m.properties.map Prod.fst = properties.map (Literal.unitsOf ·.name.toList) := by
  rw [← List.forall₂_eq_eq_eq, List.forall₂_map_left_iff, List.forall₂_map_right_iff]
  exact (reproduces.properties.imp fun _ _ same => same.1).flip

theorem map_namedScope? {α : Type} (g : String → α) (d : BeanDefinition) :
    (namedScope? d).map g = if d.scope ∈ [none, some "", some "singleton"] then none
      else d.scope.map g := by
  rw [namedScope?]
  cases d.scope with
  | none => rfl
  | some scope =>
    by_cases usual : scope = "" ∨ scope = "singleton"
    · rcases usual with rfl | rfl <;> rfl
    · rw [not_or] at usual
      simp [Option.filter, usual]

/-- Executing the calls in order on a definition that knows nothing yet. -/
theorem executeAll_customizers {parameter : String} {properties : List PropertySetting}
    {customizing : List Expression} (independent : ∀ d, Independent (innerBean d))
    (yields : Outcome.ofWriting.Yields (customizers innerBean (.name parameter) d properties)
      customizing) :
    ∃ m, Metadata.executeAll parameter {} customizing = some m ∧
      Reproduces innerBean d properties m := by
  obtain ⟨written, adds, rfl⟩ := customizers_ok yields
  obtain ⟨settings, each, rfl⟩ := settings_ok independent adds
  have told := Metadata.executeAll_metadata parameter d
    (settings.map fun s => (Literal.unitsOf s.1.toList, s.2))
  refine ⟨_, Eq.trans ?_ told, ⟨?_, rfl, rfl, rfl, map_namedScope? _ d, rfl⟩⟩
  · rw [Metadata.executeAll_append, Metadata.executeAll_properties, Option.bind_some, List.nil_append]
  · rw [List.forall₂_map_right_iff]
    exact each.imp fun p s same => ⟨by rw [same.1], same.2⟩

/-- The text of customizing in its three forms: none, a lambda of one call, or one of a block. -/
def customizedCode (parameter : String) : List Expression → Code
  | [] => .empty
  | [e] => Code.text (".customize((" ++ parameter ++ ") -> ") ++ e.code ++ Code.text ")"
  | es@(_ :: _ :: _) =>
    Code.text (".customize((" ++ parameter ++ ") -> \x7b\n") ++ Code.indent
      ++ Code.concat (es.map fun e => e.code ++ Code.text ";\n") ++ Code.unindent ++ Code.text "\x7d)"

theorem callsCode_lambda (parameter : String) (body : Code) {lambda : Expression}
    (written : lambda.code = parameterList [parameter] ++ body) :
    callsCode [⟨"customize", [lambda]⟩] =
      Code.text (".customize((" ++ parameter ++ ") -> ") ++ body ++ Code.text ")" := by
  have opened : ".customize((" ++ parameter ++ ") -> " =
      ".customize(" ++ ("(" ++ parameter ++ ") -> ") := by
    simp only [← String.append_assoc]
    rfl
  rw [opened, ← Code.text_append, callsCode, callsCode, argumentsCode, restCode, written, parameterList]
  simp [Code.append_assoc]

theorem callsCode_customize (parameter : String) :
    ∀ es, callsCode (customize parameter es) = customizedCode parameter es
  | [] => rfl
  | [e] => callsCode_lambda parameter e.code (by rw [Expression.code])
  | e :: e' :: es => by
    let statements := (e :: e' :: es).map Statement.expression
    have block : statementsCode statements =
        Code.concat ((e :: e' :: es).map fun e => e.code ++ Code.text ";\n") := by
      rw [statementsCode_eq_concat, List.map_map]
      rfl
    have written : (Expression.blockLambda [parameter] statements).code = parameterList [parameter]
        ++ (Code.text "\x7b\n" ++ Code.indent ++ statementsCode statements ++ Code.unindent
          ++ Code.text "\x7d") := by
      simp only [Expression.code, Code.append_assoc]
    have calls : customize parameter (e :: e' :: es) =
        [⟨"customize", [.blockLambda [parameter] statements]⟩] := rfl
    rw [calls, callsCode_lambda parameter _ written, customizedCode, ← block]
    simp [Code.append_assoc, Code.text_append, Code.text_append_append, String.append_assoc]

/-- Executing calls on a fresh definition leaves it with what a definition and the properties of its plan
say. Those in the lambda do that alone and in order, as they would in a block however many they are. They
are spelled out, and the lambda stands in the code. `writes` holds for what beans inside of values are
written as. -/
structure Customized (innerBean : BeanDefinition → Writing Expression)
    (writes : BeanDefinition → Expression → Prop) (parameter : String) (d : BeanDefinition)
    (properties : List PropertySetting) (code : Code) (calls : List Call) (m : Metadata)
    (customizing : List Expression) : Prop where
  reproduces : Reproduces innerBean d properties m
  executed : Metadata.afterCalls {} calls = some m
  alone : calls.filter (·.method = "customize") = customize parameter customizing
  inOrder : Metadata.executeAll parameter {} customizing = some m
  inBlock : Metadata.customizedBy {}
    (.blockLambda [parameter] (customizing.map .expression)) = some m
  placed : (customizedCode parameter customizing).Within code
  spelled : ∀ e ∈ customizing,
    e.code = Code.text parameter ++ Code.concat (e.chained.map Call.spelling)
  inner : ∀ {i : Nat} {p : PropertySetting} {path : List Nat} {nested : BeanDefinition}
    {declared : Option JavaType}, properties[i]? = some p →
    p.value.at? path p.type = some (.inner nested, declared) →
    ∃ name value e, m.properties[i]? = some (name, value) ∧ value.at? path = some e ∧
      e.code.Within value.code ∧ writes nested e

/-- An expression that reproduces a definition inside of another one, and with it those that are inside
of its own values. -/
def ReproducesInner (f : BeanFactory) (beanName : String) :
    (depth level : Nat) → BeanDefinition → Expression → Prop
  | 0, _, _, _ => False
  | depth + 1, level, d, e => ∃ plan m customizing, BeanPlan.ofDefinition f d = .ok (some plan) ∧
    Customized (innerChain f beanName depth (level + 1)) (ReproducesInner f beanName depth (level + 1))
      (customizerParameter level) d plan.properties e.code e.chained m customizing

theorem selection_other (e : Executable) : ∀ call ∈ selection e, call.method ≠ "customize" := by
  rw [selection]
  split
  · simp
  · split <;> simp

theorem filter_customize (parameter : String) (customizing : List Expression) :
    (customize parameter customizing).filter (·.method = "customize") =
      customize parameter customizing :=
  match customizing with
  | [] | [_] | _ :: _ :: _ => rfl

/-- Only calls on the parameter can be executed. -/
theorem Metadata.chain_of_executeAll {m after : Metadata} {parameter : String} {es : List Expression}
    (executed : m.executeAll parameter es = some after) :
    ∀ e ∈ es, ∃ calls, e = .chain (.name parameter) calls := by
  induction es generalizing m with
  | nil => exact fun _ listed => nomatch listed
  | cons first rest ih =>
    rw [executeAll, List.foldlM_cons, Option.bind_eq_bind, Option.bind_eq_some_iff] at executed
    obtain ⟨between, one, others⟩ := executed
    refine List.forall_mem_cons.mpr ⟨?_, ih others⟩
    rw [execute.eq_def] at one
    split at one
    · next target calls =>
      by_cases same : target = parameter
      · exact ⟨calls, by rw [same]⟩
      · rw [if_neg same] at one
        cases one
    · cases one

/-- The bean that a value has at a path is written at that path. -/
theorem WritesValue.at? {p : PropertySetting} {e : Expression} (writes : WritesValue innerBean p e)
    {path : List Nat} {nested : BeanDefinition} {declared : Option JavaType}
    (within : p.value.at? path p.type = some (.inner nested, declared)) :
    ∃ part, e.at? path = some part ∧ Outcome.ofWriting.Yields (innerBean nested) part := by
  obtain ⟨part, placed, yields⟩ := yields_at? (o := .ofWriting) ⟨{}, _, Prod.ext (writes {}) rfl⟩ within
  rw [valueExpression] at yields
  exact ⟨part, placed, yields⟩

theorem Reproduces.getElem? {properties : List PropertySetting} {m : Metadata}
    (reproduces : Reproduces innerBean d properties m) {i : Nat} {p : PropertySetting}
    (listed : properties[i]? = some p) :
    ∃ name value, m.properties[i]? = some (name, value) ∧ WritesValue innerBean p value := by
  obtain ⟨inside, rfl⟩ := List.getElem?_eq_some_iff.mp listed
  have bound : i < m.properties.length := reproduces.properties.length_eq ▸ inside
  have each := reproduces.properties.get inside bound
  exact ⟨_, _, List.getElem?_eq_getElem bound, each.2⟩

/-- The calls before and after the place to customize do not matter. -/
theorem customized_of_yields {writes : BeanDefinition → Expression → Prop} {parameter : String}
    {properties : List PropertySetting} {code : Code} {calls before after : List Call}
    {customizing : List Expression} (independent : ∀ d, Independent (innerBean d))
    (inner : ∀ {d e}, Outcome.ofWriting.Yields (innerBean d) e → writes d e)
    (yields : Outcome.ofWriting.Yields (customizers innerBean (.name parameter) d properties)
      customizing)
    (split : calls = before ++ customize parameter customizing ++ after)
    (other : ∀ call ∈ before ++ after, call.method ≠ "customize")
    (placed : (callsCode calls).Within code) :
    ∃ m, Customized innerBean writes parameter d properties code calls m customizing := by
  subst split
  obtain ⟨head, tail⟩ := List.forall_mem_append.mp other
  obtain ⟨m, executed, reproduces⟩ := executeAll_customizers independent yields
  refine ⟨m, reproduces, ?_, ?_, executed, ?_, ?_, fun e listed => ?_, fun listed within => ?_⟩
  · rw [Metadata.afterCalls_append, Metadata.afterCalls_append, Metadata.afterCalls_of_other head,
      Option.bind_some, Metadata.afterCalls_customize, executed, Option.bind_some,
      Metadata.afterCalls_of_other tail]
  · rw [List.filter_append, List.filter_append, filter_customize,
      List.filter_eq_nil_iff.mpr (by simpa using head), List.filter_eq_nil_iff.mpr (by simpa using tail),
      List.nil_append, List.append_nil]
  · rw [Metadata.customizedBy_blockLambda, executed]
  · rw [callsCode_append, callsCode_append, callsCode_customize] at placed
    exact (((Code.Within.refl _).append_left _).append_right _).trans placed
  · obtain ⟨calls, rfl⟩ := Metadata.chain_of_executeAll executed e listed
    rw [Expression.code, Expression.code, callsCode_eq_concat, Expression.chained]
  · obtain ⟨name, value, known, writes⟩ := reproduces.getElem? listed
    obtain ⟨e, placed, yields⟩ := writes.at? within
    exact ⟨name, value, e, known, placed, Expression.within_at? placed, inner yields⟩

theorem reproducesInner_of_yields {depth level : Nat} {e : Expression}
    (yields : Outcome.ofWriting.Yields (innerChain f beanName depth level d) e) :
    ReproducesInner f beanName depth level d e := by
  induction depth generalizing level d e with
  | zero => exact absurd yields Outcome.ofWriting.not_throw
  | succ depth ih =>
    obtain ⟨plan, creator, arguments, customizing, source, customized, rfl⟩ := innerChain_ok yields
    have selects := selection_other creator.executable
    have other : ∀ call ∈ (⟨"inner", [typeExpression plan.beanType]⟩ :: selection creator.executable
        ++ [⟨"instanceSupplier", [supplier creator.executable arguments plan.injections]⟩])
          ++ [⟨"toBeanDefinition", []⟩], Call.method call ≠ "customize" := by
      simpa [or_imp, forall_and] using selects
    obtain ⟨m, customized⟩ := customized_of_yields (independent_innerChain depth (level + 1)) ih
      customized rfl other (within_chain _ _)
    exact ⟨plan, m, customizing, source.planned, customized⟩

/-- What a registration that succeeds appends leaves a fresh definition with what its definition and plan
say, its properties in the form that their values are written in for their types, and so do the beans at
any depth inside of the values. -/
theorem register_reproduces {plan : BeanPlan} {t after : Target}
    (registered : register f beanName d plan t = (.ok (), after)) :
    ∃ (statement : Statement) (m : Metadata) (customizing : List Expression),
      Appends t statement.code after ∧
      Customized (innerChain f beanName (planDepth plan) 1)
        (ReproducesInner f beanName (planDepth plan) 1) (customizerParameter 0) d plan.properties
        statement.code statement.chained m customizing := by
  obtain ⟨complete, -, block, places, extended⟩ := register_block registered
  obtain ⟨creator, arguments, customizing, p, q, -, -, ran, code⟩ := writeRegistration_statement complete
  rw [code] at places
  let supply : Call := ⟨"instanceSupplier", [supplier creator.executable arguments plan.injections]⟩
  have other : ∀ call ∈ [supply] ++ [⟨"register", [.name contextName]⟩], call.method ≠ "customize" := by
    simp [supply]
  obtain ⟨m, customized⟩ := customized_of_yields (independent_innerChain (planDepth plan) 1)
    reproducesInner_of_yields ⟨p, q, ran⟩ rfl other
    (within_brokenChain (chainHead beanName plan creator) _)
  exact ⟨registrationStatement beanName plan creator supply customizing, m, customizing,
    places.appends extended, customized⟩

end

namespace MetadataSample

def service : ClassName := ⟨"com.example", ["Service"]⟩

def constructor : Executable where
  declaringClass := service
  kind := .constructor
  visibility := .publicAccess

def container : BeanFactory where
  registry := ⟨[{ name := service, constructors := [constructor] }]⟩

def part : BeanDefinition := { BeanDefinition.blank with beanClass := some service, isPrimary := true }

def definition : BeanDefinition where
  __ := BeanDefinition.blank
  beanClass := some service
  properties := [("quoted \"name\"", .string "value"), ("part", .inner part)]
  role := .support
  scope := some "tab\tscope"
  isLazy := true
  qualifiers := [⟨service, none⟩, ⟨service, some "back\\slash"⟩]

def plan : BeanPlan := .ofExecutable container definition constructor

def target : Target := { classes := .named "com.example.boot" "Bootstrap" }

end MetadataSample

open MetadataSample in
/-- The texts are back without their escapes. The definition is not primary, but the part inside is. -/
theorem register_reproduces_sample : ∃ after, ∃ statement : Statement, ∃ m : Metadata,
    register container "service" definition plan target = (.ok (), after) ∧
    Appends target statement.code after ∧ Metadata.afterCalls {} statement.chained = some m ∧
    m.properties.map Prod.fst = ["quoted \"name\"", "part"].map (Literal.unitsOf ·.toList) ∧
    m.isPrimary = false ∧ m.isLazy = true ∧ m.role = 1 ∧
    m.scope = some (Literal.unitsOf "tab\tscope".toList) ∧
    m.qualifiers = [(service, none), (service, some (Literal.unitsOf "back\\slash".toList))] ∧
    ∃ (name : List Nat) (value : Expression) (inside : Metadata), m.properties[1]? = some (name, value) ∧
      Metadata.afterCalls {} value.chained = some inside ∧ inside.isPrimary = true := by
  have succeeds : (register container "service" definition plan target).1 = .ok () := by decide +kernel
  have deep : planDepth plan = 1 := rfl
  obtain ⟨statement, m, _, appended, customized⟩ := register_reproduces (Prod.ext succeeds rfl)
  have reproduces := customized.reproduces
  obtain ⟨type, second⟩ : ∃ type, plan.properties[1]? = some ⟨"part", .inner part, type⟩ := ⟨_, rfl⟩
  have itself : (BeanValue.inner part).at? [] type = some (.inner part, type) := rfl
  obtain ⟨name, value, _, known, same, -, nested⟩ := customized.inner second itself
  obtain rfl := Option.some.inj same
  rw [deep] at nested
  obtain ⟨_, inside, _, -, within⟩ := nested
  exact ⟨_, statement, m, Prod.ext succeeds rfl, appended, customized.executed, reproduces.names,
    reproduces.isPrimary, reproduces.isLazy, reproduces.role, reproduces.scope, reproduces.qualifiers,
    name, value, inside, known, within.executed, within.reproduces.isPrimary⟩

end Prewire.Registration
