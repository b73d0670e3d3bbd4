import Prewire.Proofs.Pass.Trace
import Prewire.Proofs.Registration.WrittenTypes

/-! Whether the classes of a pass are closed. No routine of theirs has type parameters, so a type
variable in one has no meaning, and one comes in only with the types that beans and listeners are written
with. -/
namespace Prewire

open Java

def Java.Method.types (m : Method) : List JavaType :=
  m.returns.toList ++ m.parameters.map Prod.fst ++ m.body.types

def Java.Method.IsClosed (m : Method) : Prop := ∀ type ∈ m.types, type.IsClosed

def Output.OutputClass.types (c : OutputClass) : List JavaType :=
  c.interface.toList ++ c.staticBlock.types ++ c.methods.flatMap Method.types

end Prewire

namespace Prewire.Registration

open Java

def Block.IsClosed : Block → Prop
  | .nothing => True
  | .chain code => code.IsClosed
  | .call _ _ code => code.IsClosed

theorem closed_routineCall (owner : ClassName) (routine : String) :
    (routineCall owner routine).code.IsClosed := by
  simp [routineCall]

theorem closed_contextRoutine {name : String} {body : Code} :
    (contextRoutine name body).IsClosed ↔ body.IsClosed := by
  simp [Method.IsClosed, Method.types, contextRoutine, Code.IsClosed]

theorem Block.closed_iff {block : Block} :
    (block.code.IsClosed ∧ ∀ r ∈ block.routine?, r.2.IsClosed) ↔ block.IsClosed := by
  cases block with
  | nothing => simp [Block.code, routine?, IsClosed]
  | chain code => simp [Block.code, routine?, IsClosed]
  | call owner routine code =>
    simp [Block.code, routine?, IsClosed, closed_routineCall, closed_contextRoutine]

end Prewire.Registration

namespace Prewire.Pass

open Java Types Beans Plan Output Registration

theorem closed_initializer {code : Code} : (initializer code).IsClosed ↔ code.IsClosed := by
  simp [Method.IsClosed, Method.types, initializer, Code.IsClosed]

theorem closed_infrastructure : (statementsCode infrastructure).IsClosed := by
  simp [infrastructure]

theorem closed_toggles (o : Options) : (statementsCode (toggles o)).IsClosed := by
  have asked {flag : Bool} {s : Statement} (closed : s.code.IsClosed) :
      ∀ s' ∈ onDemand flag s, s'.code.IsClosed := by
    cases flag <;> simp [onDemand, closed]
  simp only [closed_statementsCode, toggles, List.forall_mem_append]
  refine ⟨⟨⟨⟨asked ?_, asked ?_⟩, asked ?_⟩, asked ?_⟩, asked ?_⟩
  all_goals simp [setProperty, forceNativePath, disableHibernateBytecode]

theorem closed_registrarStatement (owner : ClassName) (routine : String) :
    (registrarStatement owner routine).code.IsClosed := by
  simp [registrarStatement]

/-- The routine of the listeners is closed when the types are by which their methods are found. -/
theorem closed_listenersRoutine {name : String} {listeners : List Listener} :
    (listenersRoutine name listeners).IsClosed ↔
      ∀ l ∈ listeners, ∀ type ∈ l.method.parameterTypes, type.erasure.IsClosed := by
  have described (l : Listener) : l.description.code.IsClosed ↔
      ∀ type ∈ l.method.parameterTypes, type.erasure.IsClosed := by
    simp [Listener.description, closed_parameterTypeExpressions]
  have body : (listenersRoutine name listeners).body.IsClosed ↔
      ∀ l ∈ listeners, l.description.code.IsClosed := by
    simp [listenersRoutine]
  have returned : (JavaType.classType Known.list [.ofClass Known.listenerMetadata]).IsClosed := rfl
  rw [Code.IsClosed] at body
  simp only [Method.IsClosed, Method.types, List.forall_mem_append, body, described]
  simpa [listenersRoutine] using fun _ => returned

section
variable {o : Options} {f : BeanFactory} {t : Target} {blocks : List Block} {closing : Closing}

theorem IsBlock.closed_iff {beanName : String} {d : BeanDefinition} {block : Block}
    (isBlock : IsBlock o f (beanName, d) block) :
    block.IsClosed ↔ (¬ Skips o f d → WritesClosed f d) := by
  cases isBlock with
  | nothing ignored => exact iff_of_true trivial fun kept => absurd ignored kept
  | placed kept whole placed =>
    have closed := whole.closed_iff
    cases placed <;> simpa [Block.IsClosed, kept] using closed

theorem Trace.closed_blocks (trace : Trace o f t blocks closing) :
    (∀ block ∈ blocks, block.IsClosed) ↔
      ∀ bean ∈ f.definitions, ¬ Skips o f bean.2 → WritesClosed f bean.2 := by
  have each := trace.each
  clear trace
  generalize f.definitions = definitions at each
  induction each with
  | nil => simp
  | cons isBlock _ ih => simp only [List.forall_mem_cons, isBlock.closed_iff, ih]

theorem Trace.closed_code (trace : Trace o f t blocks closing) :
    t.code.IsClosed ↔ ∀ block ∈ blocks, block.code.IsClosed := by
  have last : closing.code.IsClosed := by
    cases closing with
    | nothing => exact Code.closed_empty
    | registrar owner routine _ => exact closed_registrarStatement owner routine
  rw [trace.code, Code.closed_append, Code.closed_append, Code.closed_concat, List.forall_mem_map]
  exact ⟨fun closed => closed.1.2, fun closed => ⟨⟨closed_infrastructure, closed⟩, last⟩⟩

theorem Trace.closed_routines (trace : Trace o f t blocks closing) :
    (∀ r ∈ t.classes.routines, r.2.IsClosed) ↔ (∀ block ∈ blocks, block.IsClosed) ∧
      ∀ l ∈ Listener.all f, ∀ type ∈ l.method.parameterTypes, type.erasure.IsClosed := by
  have listeners : (∀ r ∈ closing.routine?.toList, r.2.IsClosed) ↔
      ∀ l ∈ Listener.all f, ∀ type ∈ l.method.parameterTypes, type.erasure.IsClosed := by
    have last := trace.last
    generalize Listener.all f = listeners at last ⊢
    cases last with
    | nothing => simp [Closing.routine?]
    | registrar => simpa [Closing.routine?] using closed_listenersRoutine
  have called : (∀ r ∈ blocks.filterMap Block.routine?, r.2.IsClosed) ↔
      ∀ block ∈ blocks, ∀ r ∈ block.routine?, r.2.IsClosed := by
    simp only [List.mem_filterMap, Option.mem_def]
    exact ⟨fun closed block listed r called => closed r ⟨block, listed, called⟩,
      fun closed r ⟨block, listed, called⟩ => closed block listed r called⟩
  simp only [trace.routines.mem_iff, List.forall_mem_cons, List.forall_mem_append, closed_initializer,
    trace.closed_code, called, listeners, ← Block.closed_iff]
  simp only [forall₂_and, and_assoc]

/-- Apart from its routines a class is closed. -/
theorem Trace.closed_classes (trace : Trace o f t blocks closing) :
    (∀ c ∈ t.classes.all, ∀ type ∈ c.types, type.IsClosed) ↔
      ∀ r ∈ t.classes.routines, r.2.IsClosed := by
  have rest : ∀ c ∈ t.classes.all, (∀ type ∈ c.interface, type.IsClosed) ∧ c.staticBlock.IsClosed := by
    refine List.forall_mem_cons.mpr ⟨?_, fun c helper => ?_⟩
    · rw [trace.interface, trace.staticBlock]
      refine ⟨fun type member => ?_, closed_toggles o⟩
      obtain rfl := Option.some.inj member
      rfl
    · obtain ⟨interface, staticBlock⟩ := trace.tidy.bare c helper
      rw [interface, staticBlock]
      exact ⟨nofun, Code.closed_empty⟩
  constructor
  · rintro closed ⟨owner, m⟩ member
    obtain ⟨c, listed, -, held⟩ := Classes.mem_routines.mp member
    intro type written
    exact closed c listed type (List.mem_append_right _ (List.mem_flatMap.mpr ⟨m, held, written⟩))
  · intro closed c listed type member
    obtain ⟨interface, staticBlock⟩ := rest c listed
    rcases List.mem_append.mp member with outside | inside
    · rcases List.mem_append.mp outside with implemented | initialized
      · exact interface type (Option.mem_toList.mp implemented)
      · exact staticBlock type initialized
    · obtain ⟨m, held, written⟩ := List.mem_flatMap.mp inside
      exact closed (c.name, m) (Classes.mem_routines.mpr ⟨c, listed, rfl, held⟩) type written

/-- The classes of a pass that succeeds are closed exactly when the beans that are not skipped are
written without variables, together with their inner beans, and no variable is left in the parameters
of listeners. -/
theorem closed_iff_of_run (complete : run o noCustoms f = (.ok (), t)) :
    (∀ c ∈ t.classes.all, ∀ type ∈ c.types, type.IsClosed) ↔
      (∀ bean ∈ f.definitions, ¬ Skips o f bean.2 → WritesClosed f bean.2) ∧
      ∀ l ∈ Listener.all f, ∀ type ∈ l.method.parameterTypes, type.erasure.IsClosed := by
  obtain ⟨blocks, closing, trace⟩ := trace_of_run complete
  rw [trace.closed_classes, trace.closed_routines, trace.closed_blocks]

end
namespace ClosedSample

def holder : ClassName := ⟨"com.example", ["Holder"]⟩

def creates (type : JavaType) : Executable where
  declaringClass := holder
  kind := .constructor
  parameters := [{ name := "value", type := type }]

def definition : BeanDefinition := { BeanDefinition.blank with beanClass := some holder }

def container (type : JavaType) : BeanFactory where
  registry := ⟨[{ name := holder, typeParameters := [{ name := "T" }]
                  constructors := [creates type] }]⟩
  definitions := [("holder", definition)]

def elements : JavaType := .classType Known.list [.variable "T"]

end ClosedSample

open ClosedSample in
/-- The variable is gone with the type arguments. -/
theorem closed_elements : ∃ t, run {} noCustoms (container elements) = (.ok (), t) ∧
    (∀ c ∈ t.classes.all, ∀ type ∈ c.types, type.IsClosed) ∧
    ¬ Skips {} (container elements) definition ∧ WritesClosed (container elements) definition := by
  have succeeds : (run {} noCustoms (container elements)).1 = .ok () := by decide +kernel
  have complete := run_eq_of_ok succeeds
  have detected : detect (container elements) definition = .ok (some (creates elements)) := by
    decide +kernel
  have kept : ¬ Skips {} (container elements) definition :=
    not_skips rfl (by decide +kernel) (planned_of_detected detected)
  have closed : ∀ c ∈ (run {} noCustoms (container elements)).2.classes.all, ∀ type ∈ c.types,
      type.IsClosed := by decide +kernel
  exact ⟨_, complete, closed, kept,
    ((closed_iff_of_run complete).mp closed).1 ("holder", definition) (.head _) kept⟩

open ClosedSample in
/-- A constructor with a parameter of the type of the variable is looked up by the variable. -/
theorem not_closed_variable :
    ∃ t, run {} noCustoms (container (.variable "T")) = (.ok (), t) ∧
      ∃ c ∈ t.classes.all, .variable "T" ∈ c.types ∧ ¬ (JavaType.variable "T").IsClosed := by
  have succeeds : (run {} noCustoms (container (.variable "T"))).1 = .ok () := by decide +kernel
  refine ⟨_, run_eq_of_ok succeeds, ?_⟩
  decide +kernel

end Prewire.Pass
