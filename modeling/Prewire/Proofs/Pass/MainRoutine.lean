import Prewire.Proofs.Pass.Trace

/-! The main routine of a pass that succeeds. It registers the beans once and in the order of their
definitions, itself or by a call for each routine that does so in another package, and then the
listeners. -/
namespace Prewire.Pass

open Java Types Beans Plan Output Registration

/-- What the main routine does ahead of the beans. -/
def infrastructureCode : Code :=
  Code.text "// infrastructure\n" ++ Code.type (.ofClass Known.listableBeanFactory)
    ++ Code.text (" beanFactory = context.getDefaultListableBeanFactory();\n"
      ++ "beanFactory.setAutowireCandidateResolver(new ")
    ++ Code.type (.ofClass Known.candidateResolver) ++ Code.text "());\n"

def registrarCode (owner : ClassName) (routine : String) : Code :=
  Code.text ("context.registerBean(" ++ Literal.string Known.listenerRegistrarBean ++ ", ")
    ++ Code.type (.ofClass Known.listenerRegistrar) ++ Code.text ".class, () -> new "
    ++ Code.type (.ofClass Known.listenerRegistrar) ++ Code.text "(context, "
    ++ Code.type (.ofClass owner) ++ Code.text ("." ++ routine ++ "()));\n")

/-- The complete chain for a bean, from its name to the call that registers it. -/
structure IsRegistration (f : BeanFactory) (beanName : String) (d : BeanDefinition) (code : Code) :
    Prop where
  chain : IsChain f beanName d code
  whole : ∃ between, code = Code.type (.ofClass Known.beanRegistrar)
    ++ Code.text (".of(" ++ Literal.string beanName ++ ", ") ++ between
    ++ Code.text ".register(context);\n" ++ Code.unindent ++ Code.unindent

/-- A part of the main routine, with the routine that it calls and the class of that. -/
structure Part where
  code : Code
  routine? : Option (ClassName × Method)

/-- The part for a definition: nothing if a pass skips it, otherwise the registration or a call of a
routine outside of the main package that has the registration for its body. -/
inductive IsPart (o : Options) (f : BeanFactory) : String × BeanDefinition → Part → Prop
  | nothing {beanName : String} {d : BeanDefinition} (ignored : Skips o f d) :
    IsPart o f (beanName, d) ⟨.empty, none⟩
  | registration {beanName : String} {d : BeanDefinition} {code : Code} (kept : ¬ Skips o f d)
    (whole : IsRegistration f beanName d code) : IsPart o f (beanName, d) ⟨code, none⟩
  | call {beanName : String} {d : BeanDefinition} {owner : ClassName} {r : Method}
    (kept : ¬ Skips o f d) (whole : IsRegistration f beanName d r.body)
    (apart : owner.package ≠ o.bootstrapPackage) :
    IsPart o f (beanName, d) ⟨callCode owner r.name, some (owner, r)⟩

/-- The last part, which hands what a routine says of the listeners to the registrar. -/
inductive IsClosing : List Listener → Part → Prop
  | nothing : IsClosing [] ⟨.empty, none⟩
  | registrar {listeners : List Listener} {owner : ClassName} {r : Method} (some : listeners ≠ [])
    (described : r.body = (Statement.giveBackListed (.ofClass Known.list) "of"
      (listeners.map Listener.description)).code) :
    IsClosing listeners ⟨registrarCode owner r.name, .some (owner, r)⟩

/-- A routine of the main class has a part for each definition in their order between what is asked for
by the infrastructure and what is for the listeners. -/
structure IsInitializer (o : Options) (f : BeanFactory) (t : Target) (m : Method) (parts : List Part)
    (closing : Part) : Prop where
  holds : t.classes.main.Holds m
  name : m.name = "initialize"
  body : m.body = infrastructureCode ++ Code.concat (parts.map Part.code) ++ closing.code
  each : List.Forall₂ (IsPart o f) f.definitions parts
  last : IsClosing (Listener.all f) closing

theorem statementsCode_infrastructure : statementsCode infrastructure = infrastructureCode := rfl

theorem code_registrarStatement (owner : ClassName) (routine : String) :
    (registrarStatement owner routine).code = registrarCode owner routine := by
  have called (rest : String) :
      "context" ++ (".registerBean(" ++ rest) = "context.registerBean(" ++ rest := by
    rw [← String.append_assoc]
    rfl
  simp [registrarStatement, registrarCode, called, parameterList, Expression.call,
    Expression.staticCall, Expression.classOf, contextName, callsCode, argumentsCode, restCode,
    Code.append_assoc, Code.text_append, Code.text_append_append, String.append_assoc]

theorem isRegistration_of_isChain {f : BeanFactory} {beanName : String} {d : BeanDefinition}
    {code : Code} (chain : IsChain f beanName d code) : IsRegistration f beanName d code := by
  refine ⟨chain, ?_⟩
  cases chain with
  | @intro plan creator arguments customizing source customized =>
    let supply : Call :=
      ⟨"instanceSupplier", [supplier creator.executable arguments plan.injections]⟩
    refine ⟨(typeExpression plan.beanType).code ++ Code.text ")"
      ++ callsCode (selection creator.executable) ++ Code.text "\n" ++ Code.indent ++ Code.indent
      ++ callsCode (supply :: customize (customizerParameter 0) customizing), ?_⟩
    simp [registrationStatement, chainHead, supply, callsCode_append, callsCode, argumentsCode,
      restCode, contextName, Code.append_assoc, Code.text_append, Code.text_append_append,
      String.append_assoc]

section
variable {o : Options} {f : BeanFactory} {bean : String × BeanDefinition} {part : Part}

/-- A part is empty exactly if the pass skips its definition. -/
theorem IsPart.code_eq_empty_iff (isPart : IsPart o f bean part) :
    part.code = .empty ↔ Skips o f bean.2 := by
  cases isPart with
  | nothing ignored => exact iff_of_true rfl ignored
  | registration kept whole => exact iff_of_false whole.chain.ne_empty kept
  | call kept => exact iff_of_false (callCode_ne_empty _ _) kept

theorem IsPart.apart (isPart : IsPart o f bean part) {owner : ClassName} {r : Method}
    (called : part.routine? = some (owner, r)) : owner.package ≠ o.bootstrapPackage := by
  cases isPart with
  | nothing | registration => cases called
  | call _ _ apart =>
    obtain ⟨rfl, -⟩ := Prod.mk.inj (Option.some.inj called)
    exact apart

def partOf (block : Block) : Part := ⟨block.code, block.routine?⟩

theorem isPart_of_isBlock {block : Block}
    (isBlock : IsBlock o f bean block) : IsPart o f bean (partOf block) := by
  cases isBlock with
  | nothing ignored => exact .nothing ignored
  | @placed _ _ _ chain kept whole placed =>
    have registration := isRegistration_of_isChain whole
    cases placed with
    | inMain => exact .registration kept registration
    | @inRoutine owner routine apart =>
      rw [partOf, Block.code, code_routineCall]
      exact .call (r := contextRoutine routine chain) kept registration apart

theorem isClosing_of_isFor {listeners : List Listener} {closing : Closing}
    (isFor : closing.IsFor listeners) : IsClosing listeners ⟨closing.code, closing.routine?⟩ := by
  cases isFor with
  | nothing => exact .nothing
  | @registrar owner routine _ some =>
    rw [Closing.code, code_registrarStatement, Closing.routine?]
    exact .registrar (r := listenersRoutine routine listeners) some rfl

end

section
variable {o : Options} {f : BeanFactory} {t : Target} {blocks : List Block} {closing : Closing}
variable {owner : ClassName} {r : Method}

/-- The parts are what the blocks of a trace add. -/
theorem Trace.isInitializer (trace : Trace o f t blocks closing) :
    IsInitializer o f t (initializer t.code) (blocks.map partOf) ⟨closing.code, closing.routine?⟩ where
  holds := trace.tidy.main.holds trace.initialized
  name := rfl
  body := by
    rw [← statementsCode_infrastructure, List.map_map]
    exact trace.code
  each := List.forall₂_map_right_iff.mpr (trace.each.imp fun _ _ => isPart_of_isBlock)
  last := isClosing_of_isFor trace.last

theorem filterMap_partOf (blocks : List Block) :
    (blocks.map partOf).filterMap Part.routine? = blocks.filterMap Block.routine? := List.filterMap_map

theorem Trace.exists_isPart (trace : Trace o f t blocks closing) {block : Block}
    (listed : block ∈ blocks) : ∃ bean, IsPart o f bean (partOf block) := by
  obtain ⟨i, rfl⟩ := List.mem_iff_get.mp listed
  obtain ⟨same, each⟩ := List.forall₂_iff_get.mp trace.each
  exact ⟨_, isPart_of_isBlock (each i (by omega) i.isLt)⟩

theorem Trace.holds (trace : Trace o f t blocks closing)
    (called : (owner, r) ∈ blocks.filterMap Block.routine? ++ closing.routine?.toList) :
    ∃ c ∈ t.classes.all, c.name = owner ∧ c.Holds r := by
  have listed := trace.routines.mem_iff.mpr (List.mem_cons_of_mem _ called)
  obtain ⟨c, listed, named, member⟩ := Classes.mem_routines.mp listed
  obtain ⟨_, tidy⟩ := trace.tidy.of_mem listed
  exact ⟨c, listed, named, tidy.holds member⟩

/-- The routine of a bean is in a helper class. -/
theorem Trace.holds_part (trace : Trace o f t blocks closing)
    (called : (owner, r) ∈ blocks.filterMap Block.routine?) :
    ∃ c ∈ t.classes.helpers, c.name = owner ∧ c.Holds r := by
  obtain ⟨c, everywhere, rfl, holds⟩ := trace.holds (List.mem_append_left _ called)
  obtain ⟨block, listed, named⟩ := List.mem_filterMap.mp called
  obtain ⟨bean, isPart⟩ := trace.exists_isPart listed
  rcases List.mem_cons.mp everywhere with rfl | helper
  · exact absurd (congrArg ClassName.package trace.name) (isPart.apart named)
  · exact ⟨c, helper, rfl, holds⟩

theorem Trace.nodup_names (trace : Trace o f t blocks closing) :
    ((blocks.filterMap Block.routine? ++ closing.routine?.toList).map fun (owner, r) =>
      (owner, r.name)).Nodup := by
  have named := (trace.routines.map fun r => (r.1, r.2.name)).nodup trace.tidy.names
  exact (List.nodup_cons.mp named).2

theorem Trace.nodup_calls (trace : Trace o f t blocks closing) :
    ((blocks.filterMap Block.routine?).map fun (owner, r) => callCode owner r.name).Nodup := by
  have named := trace.nodup_names
  rw [List.map_append, List.nodup_append] at named
  have called := named.1.map (f := fun call => callCode call.1 call.2) fun _ _ same =>
    Prod.ext (callCode_inj same).1 (callCode_inj same).2
  rwa [List.map_map] at called

/-- The routines of the beans are those in helper classes, that of the listeners apart. -/
theorem Trace.called_iff (trace : Trace o f t blocks closing) :
    (owner, r) ∈ blocks.filterMap Block.routine? ↔
      (∃ c ∈ t.classes.helpers, c.name = owner ∧ c.Holds r) ∧ closing.routine? ≠ some (owner, r) := by
  constructor
  · intro called
    refine ⟨trace.holds_part called, fun last => ?_⟩
    -- The routine of the listeners has another name or is in another class.
    have distinct := (List.nodup_append.mp trace.nodup_names.of_map).2.2
    exact distinct _ called _ (Option.mem_toList.mpr last) rfl
  · rintro ⟨⟨c, helper, rfl, holds⟩, apart⟩
    have written : (c.name, r) ∈ t.classes.routines :=
      Classes.mem_routines.mpr ⟨c, List.mem_cons_of_mem _ helper, rfl, ((holds _).mpr rfl).1⟩
    rcases List.mem_cons.mp (trace.routines.mem_iff.mp written) with main | others
    · exact absurd (congrArg (·.1.package) main) (trace.tidy.apart c helper)
    · exact (List.mem_append.mp others).resolve_right fun last => apart (Option.mem_toList.mp last)

end

namespace RoutineSample

def mail : ClassName := ⟨"com.example", ["Mail"]⟩

def mail1 : ClassName := ⟨"com.example", ["Mail1"]⟩

/-- A constructor that other packages do not call. -/
def creates (name : ClassName) : Executable where
  declaringClass := name
  kind := .constructor
  visibility := .packageAccess

def listening : Executable where
  declaringClass := mail1
  kind := .method "onEvent" none false
  visibility := .packageAccess
  annotations := [{ type := Known.eventListener }]

def definition (name : ClassName) : BeanDefinition :=
  { BeanDefinition.blank with beanClass := some name }

/-- Two beans of a class with a template between them, and a bean of a class whose name is that of the
first with a number. All three are created in their own package. -/
def container : BeanFactory where
  registry := ⟨[{ name := mail, constructors := [creates mail] },
    { name := mail1, constructors := [creates mail1], methods := [listening] }]⟩
  definitions := [("first", definition mail), ("template", { definition mail with isAbstract := true }),
    ("second", definition mail), ("third", definition mail1)]

theorem kept {name : ClassName} (known : name = mail ∨ name = mail1) :
    ¬ Skips {} container (definition name) := by
  have detected : detect container (definition name) = .ok (some (creates name)) := by
    rcases known with rfl | rfl <;> decide +kernel
  have included : isExcluded {} container (definition name) = false := by
    rcases known with rfl | rfl <;> decide +kernel
  exact not_skips rfl included (planned_of_detected detected)

end RoutineSample

section
variable {o : Options} {f : BeanFactory} {t : Target}

/-- After a pass that succeeds the main routine is what the infrastructure asks for, then one part for
each definition in their order, which is empty exactly for those that the pass skips, and then the
registration of the listeners if there are any. The routines that it calls are there. -/
theorem initializer_of_run (complete : run o noCustoms f = (.ok (), t)) :
    ∃ (m : Method) (parts : List Part) (closing : Part), IsInitializer o f t m parts closing ∧
      List.Forall₂ (fun bean part => part.code = .empty ↔ Skips o f bean.2) f.definitions parts ∧
      (∀ owner r, (owner, r) ∈ parts.filterMap Part.routine? →
        ∃ c ∈ t.classes.helpers, c.name = owner ∧ c.Holds r) ∧
      ∀ owner r, closing.routine? = some (owner, r) → ∃ c ∈ t.classes.all, c.name = owner ∧ c.Holds r := by
  obtain ⟨blocks, closing, trace⟩ := trace_of_run complete
  refine ⟨_, _, _, trace.isInitializer, ?_, fun owner r called => ?_, fun owner r called => ?_⟩
  · exact trace.isInitializer.each.imp fun _ _ isPart => isPart.code_eq_empty_iff
  · rw [filterMap_partOf] at called
    exact trace.holds_part called
  · exact trace.holds (List.mem_append_right _ (Option.mem_toList.mpr called))

/-- After a pass that succeeds the routines of a class have names of their own, there is one class at
most for a package, and the helper classes are outside of the main package and have routines. Beside the
main routine there are those that it calls: each routine of a bean is called by one statement, which
names it and its class. -/
theorem routines_of_run (complete : run o noCustoms f = (.ok (), t)) :
    (∀ c ∈ t.classes.all, (c.methods.map Method.name).Nodup) ∧
    (t.classes.all.map (·.name.package)).Nodup ∧
    (∀ c ∈ t.classes.helpers, c.name.package ≠ t.classes.mainPackage ∧ c.methods ≠ []) ∧
    ∃ (m : Method) (parts : List Part) (closing : Part), IsInitializer o f t m parts closing ∧
      t.classes.routines.Perm
        ((t.classes.main.name, m) :: (parts.filterMap Part.routine? ++ closing.routine?.toList)) ∧
      ((parts.filterMap Part.routine?).map fun (owner, r) => callCode owner r.name).Nodup ∧
      ∀ owner r, (owner, r) ∈ parts.filterMap Part.routine? ↔
        (∃ c ∈ t.classes.helpers, c.name = owner ∧ c.Holds r) ∧ closing.routine? ≠ some (owner, r) := by
  obtain ⟨blocks, closing, trace⟩ := trace_of_run complete
  refine ⟨fun c listed => ?_, trace.tidy.packages,
    fun c helper => ⟨trace.tidy.apart c helper, trace.tidy.used c helper⟩, _, _, _,
    trace.isInitializer, ?_⟩
  · obtain ⟨_, tidy⟩ := trace.tidy.of_mem listed
    exact tidy.names
  · rw [filterMap_partOf]
    exact ⟨trace.routines, trace.nodup_calls, fun _ _ => trace.called_iff⟩

end

open RoutineSample in
/-- The three beans of the sample have a part each, the template between them has none, and the listener
is there. -/
theorem initializer_of_sample : ∃ t, run {} noCustoms container = (.ok (), t) ∧
    ∃ m first template second third closing,
      IsInitializer {} container t m [first, template, second, third] closing ∧
      first.code ≠ .empty ∧ template.code = .empty ∧ second.code ≠ .empty ∧ third.code ≠ .empty ∧
      ∃ owner r, closing = ⟨registrarCode owner r.name, some (owner, r)⟩ ∧
        ∃ c ∈ t.classes.all, c.name = owner ∧ c.Holds r := by
  have succeeds : (run {} noCustoms container).1 = .ok () := by decide +kernel
  have complete := run_eq_of_ok succeeds
  have listening : Listener.all container ≠ [] := by decide +kernel
  obtain ⟨m, parts, closing, main, empty, -, there⟩ := initializer_of_run complete
  obtain _ | ⟨first, _ | ⟨template, _ | ⟨second, _ | ⟨third, _ | _⟩⟩⟩⟩ := empty
  refine ⟨_, complete, m, _, _, _, _, closing, main, mt first.mp (kept (.inl rfl)),
    template.mpr (.inl rfl), mt second.mp (kept (.inl rfl)), mt third.mp (kept (.inr rfl)), ?_⟩
  have last := main.last
  generalize Listener.all container = listeners at last listening
  cases last with
  | nothing => exact absurd rfl listening
  | registrar => exact ⟨_, _, rfl, there _ _ rfl⟩

open RoutineSample in
/-- The third routine of the sample is given a name that neither of the others took. -/
theorem routines_of_sample : ∃ t, run {} noCustoms container = (.ok (), t) ∧
    t.classes.helpers.map (·.methods.map Method.name) =
      [["registerMail", "registerMail1", "registerMail11", "getEventListenersMetadata"]] ∧
    (∀ c ∈ t.classes.all, (c.methods.map Method.name).Nodup) ∧
    ∃ (m : Method) (parts : List Part) (closing : Part), IsInitializer {} container t m parts closing ∧
      t.classes.routines.Perm
        ((t.classes.main.name, m) :: (parts.filterMap Part.routine? ++ closing.routine?.toList)) ∧
      ((parts.filterMap Part.routine?).map fun (owner, r) => callCode owner r.name).Nodup := by
  have succeeds : (run {} noCustoms container).1 = .ok () := by decide +kernel
  have complete := run_eq_of_ok succeeds
  have names : (run {} noCustoms container).2.classes.helpers.map (·.methods.map Method.name) =
      [["registerMail", "registerMail1", "registerMail11", "getEventListenersMetadata"]] := by
    decide +kernel
  obtain ⟨distinct, -, -, m, parts, closing, main, routines, calls, -⟩ := routines_of_run complete
  exact ⟨_, complete, names, distinct, m, parts, closing, main, routines, calls⟩

end Prewire.Pass
