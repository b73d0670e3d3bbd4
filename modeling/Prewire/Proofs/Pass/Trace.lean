import Mathlib.Data.List.Forall2
import Prewire.Proofs.Pass.Listeners
import Prewire.Proofs.Registration.Block

/-! The steps of a pass, and what they leave together. Each definition adds a block to the main routine
and at most one routine to the classes; the listeners come after, and the main routine takes its place
last. -/
namespace Prewire.Pass

open Java Types Beans Plan Output Registration Target

inductive Wrote (o : Options) (f : BeanFactory) (beanName : String) (d : BeanDefinition)
    (t after : Target) : Prop
  | skipped (ignored : Skips o f d) (nothing : Extends t .empty [] after)
    (unchanged : after.reflection = t.reflection)
  | registered {plan : BeanPlan} {block : Block} (kept : ¬ Skips o f d)
    (planned : BeanPlan.ofDefinition f d = .ok (some plan))
    (complete : (writeRegistration f beanName d plan).outcome = .ok ())
    (placed : block.Places (writeRegistration f beanName d plan).code t.classes.mainPackage)
    (extended : Extends t block.code block.routine?.toList after)
    (recorded : after.reflection =
      if (f.registry.get? plan.userClass).any (·.isAnnotated Known.configuration)
      then (t.reflection.merge (writeRegistration f beanName d plan).progress.reflection).addType
        plan.userClass
      else t.reflection.merge (writeRegistration f beanName d plan).progress.reflection)

section
variable {o : Options} {f : BeanFactory} {beanName : String} {d : BeanDefinition}
variable {t after : Target}

theorem recordConfiguration_cases (r : Registry) (userClass : ClassName) (t : Target) :
    (recordConfiguration r userClass t).code = t.code ∧
      (recordConfiguration r userClass t).classes = t.classes ∧
      (recordConfiguration r userClass t).reflection =
        if (r.get? userClass).any (·.isAnnotated Known.configuration)
        then t.reflection.addType userClass else t.reflection := by
  rw [recordConfiguration]
  split <;> exact ⟨rfl, rfl, rfl⟩

theorem Writes.wrote (writes : Writes o f beanName d t after) : Wrote o f beanName d t after := by
  cases writes with
  | skipped _ ignored => exact .skipped ignored (.of_eq (Code.append_empty _).symm rfl) rfl
  | @registered notices plan between _ kept planned registered =>
    obtain ⟨complete, reflection, block, placed, extended⟩ := register_block registered
    obtain ⟨code, classes, recorded⟩ := recordConfiguration_cases f.registry plan.userClass between
    rw [reflection] at recorded
    exact .registered kept planned complete placed (extended.of_report.congr code classes) recorded

/-- A pass that succeeds writes all beans, then the listeners, and then the main routine. -/
theorem run_cases (complete : run o noCustoms f = (.ok (), after)) :
    ∃ beans between unfinished, writeBeans o noCustoms f f.definitions (start o) = (.ok beans, between) ∧
      writeListeners f between = (.ok (), unfinished) ∧ after = finish beans unfinished := by
  rw [run] at complete
  split at complete
  · simp at complete
  next beans between written =>
  split at complete
  · simp at complete
  next unfinished listed =>
  obtain ⟨-, rfl⟩ := Prod.mk.inj complete
  exact ⟨beans, between, unfinished, written, listed, rfl⟩

end

inductive Closing where
  | nothing
  /-- The registrar is given what a routine returns. -/
  | registrar (owner : ClassName) (routine : String) (listeners : List Listener)

namespace Closing

def code : Closing → Code
  | nothing => .empty
  | registrar owner routine _ => (registrarStatement owner routine).code

def routine? : Closing → Option (ClassName × Method)
  | nothing => none
  | registrar owner routine listeners => some (owner, listenersRoutine routine listeners)

inductive IsFor : List Listener → Closing → Prop
  | nothing : IsFor [] .nothing
  | registrar {owner : ClassName} {routine : String} {listeners : List Listener}
    (some : listeners ≠ []) : IsFor listeners (.registrar owner routine listeners)

end Closing

section
variable {o : Options} {f : BeanFactory} {t after : Target}

/-- What a last statement, other reflection and notices change of a target. -/
theorem parts_of_closed (t : Target) (code : Code) (reflection : Reflection)
    (notices : List Notice) :
    let after := { t.append code with reflection := reflection }.report notices
    after.classes = t.classes ∧ after.code = t.code ++ code ∧ after.reflection = reflection :=
  ⟨rfl, rfl, rfl⟩

/-- Listeners are written as a routine in the class of a package, and a statement that calls it. -/
theorem parts_writeListenersIn (package : String) (listeners : List Listener) (t : Target) :
    let after := writeListenersIn package listeners t
    let added := t.addRoutine package "getEventListenersMetadata" (listenersRoutine · listeners)
    let routine := (t.reserve package "getEventListenersMetadata").1
    after.classes = added.classes ∧
      after.code = added.code ++
        (registrarStatement (added.classes.classFor package).name routine).code ∧
      after.reflection =
        listeners.foldl (fun r (l : Listener) => r.addExecutable l.method) added.reflection :=
  parts_of_closed ..

theorem writeListenersIn_closing (package : String) {listeners : List Listener}
    (some : listeners ≠ []) :
    (writeListenersIn package listeners t).reflection =
        listeners.foldl (fun r l => r.addExecutable l.method) t.reflection ∧
      ∃ closing : Closing, closing.IsFor listeners ∧
        Extends t closing.code closing.routine?.toList (writeListenersIn package listeners t) := by
  let name := "getEventListenersMetadata"
  obtain ⟨classes, code, reflection⟩ := parts_writeListenersIn package listeners t
  refine ⟨?_, .registrar (t.classes.classFor package).name (t.reserve package name).1 listeners,
    .registrar some, ?_⟩
  · rw [reflection, reflection_addRoutine]
  · refine .addRoutine package name (listenersRoutine · listeners) (fun _ => rfl) ?_ ?_
    · rw [code, code_addRoutine, name_classFor_addRoutine]
      rfl
    · rw [classes, classes_addRoutine]

/-- All that writing the listeners does. -/
theorem writeListeners_closing (written : writeListeners f t = (.ok (), after)) :
    after.reflection = (Listener.all f).foldl (fun r l => r.addExecutable l.method) t.reflection ∧
      ∃ closing : Closing, closing.IsFor (Listener.all f) ∧
        Extends t closing.code closing.routine?.toList after := by
  rw [writeListeners, routeListeners.eq_def] at written
  split at written
  · next none =>
    obtain ⟨-, rfl⟩ := Prod.mk.inj written
    rw [none]
    exact ⟨rfl, .nothing, .nothing, .of_eq (Code.append_empty _).symm rfl⟩
  next some =>
  split at written
  · obtain ⟨-, rfl⟩ := Prod.mk.inj written
    exact writeListenersIn_closing _ some
  · obtain ⟨-, rfl⟩ := Prod.mk.inj written
    exact writeListenersIn_closing _ some
  · simp at written

/-- A registration that succeeds is the whole chain for its bean. -/
theorem isChain_of_complete {beanName : String} {d : BeanDefinition} {plan : BeanPlan}
    (planned : BeanPlan.ofDefinition f d = .ok (some plan))
    (complete : (writeRegistration f beanName d plan).outcome = .ok ()) :
    IsChain f beanName d (writeRegistration f beanName d plan).code := by
  obtain ⟨creator, arguments, customizing, p, q, known, direct, customized, code⟩ :=
    writeRegistration_statement complete
  rw [code]
  exact .intro ⟨planned, known, direct⟩ ⟨p, q, customized⟩

end

/-- The block of a definition: nothing if a pass skips it, otherwise its whole chain, in the main
routine or in a routine outside of the main package. -/
inductive IsBlock (o : Options) (f : BeanFactory) : String × BeanDefinition → Block → Prop
  | nothing {beanName : String} {d : BeanDefinition} (ignored : Skips o f d) :
    IsBlock o f (beanName, d) .nothing
  | placed {beanName : String} {d : BeanDefinition} {block : Block} {chain : Code}
    (kept : ¬ Skips o f d) (whole : IsChain f beanName d chain)
    (placed : block.Places chain o.bootstrapPackage) : IsBlock o f (beanName, d) block

/-- What a pass that succeeds leaves: the body of the main routine, one block for each definition,
and the routines, which are the main one and those that are called. -/
structure Trace (o : Options) (f : BeanFactory) (t : Target) (blocks : List Block)
    (closing : Closing) : Prop where
  each : List.Forall₂ (IsBlock o f) f.definitions blocks
  last : closing.IsFor (Listener.all f)
  code : t.code = statementsCode infrastructure ++ Code.concat (blocks.map Block.code) ++ closing.code
  name : t.classes.main.name = ⟨o.bootstrapPackage, [o.className]⟩
  interface : t.classes.main.interface = some initializerInterface
  staticBlock : t.classes.main.staticBlock = statementsCode (toggles o)
  tidy : t.classes.Tidy []
  initialized : initializer t.code ∈ t.classes.main.methods
  routines : t.classes.routines.Perm ((t.classes.main.name, initializer t.code) ::
    (blocks.filterMap Block.routine? ++ closing.routine?.toList))

section
variable {o : Options} {f : BeanFactory} {t after : Target}

theorem classes_start (o : Options) : (start o).classes =
    ⟨{ name := ⟨o.bootstrapPackage, [o.className]⟩
       staticBlock := statementsCode (toggles o)
       reserved := [mainRoutine] }, []⟩ := if_pos rfl

theorem tidy_start (o : Options) :
    (start o).classes.Tidy [mainRoutine] ∧ (start o).classes.routines = [] := by
  rw [classes_start]
  refine ⟨⟨⟨List.nodup_singleton mainRoutine, List.Subset.refl _⟩, ?_, ?_, ?_, .nil, ?_⟩, rfl⟩
  all_goals exact fun _ helper => absurd helper List.not_mem_nil

/-- The blocks of the definitions that are written, one after the other, and their routines are all
that is added. -/
def AddsBlocks (o : Options) (f : BeanFactory) (done : List (String × BeanDefinition)) (t : Target) :
    Prop :=
  ∃ blocks, List.Forall₂ (IsBlock o f) done blocks ∧
    Extends (start o) (Code.concat (blocks.map Block.code)) (blocks.filterMap Block.routine?) t

theorem AddsBlocks.add {done : List (String × BeanDefinition)} {bean : String × BeanDefinition}
    {block : Block} (adds : AddsBlocks o f done t) (isBlock : IsBlock o f bean block)
    (added : Extends t block.code block.routine?.toList after) :
    AddsBlocks o f (done ++ [bean]) after := by
  obtain ⟨blocks, each, extended⟩ := adds
  have whole := extended.trans added
  refine ⟨blocks ++ [block], List.rel_append each (.cons isBlock .nil), ?_⟩
  rw [List.map_append, List.map_singleton, Code.concat_concat, List.filterMap_append]
  cases called : block.routine? with
  | none => simpa [called] using whole
  | some routine => simpa [called] using whole

theorem AddsBlocks.step {done : List (String × BeanDefinition)} {beanName : String}
    {d : BeanDefinition} (adds : AddsBlocks o f done t) (wrote : Wrote o f beanName d t after) :
    AddsBlocks o f (done ++ [(beanName, d)]) after := by
  cases wrote with
  | skipped ignored nothing _ => exact adds.add (.nothing ignored) nothing
  | registered kept planned complete placed added _ =>
    have package : t.classes.mainPackage = o.bootstrapPackage := by
      obtain ⟨_, -, extended⟩ := adds
      rw [Classes.mainPackage, extended.name, classes_start]
    rw [package] at placed
    exact adds.add (.placed kept (isChain_of_complete planned complete) placed) added

theorem addsBlocks_writeBeans {definitions : List (String × BeanDefinition)} {count : Nat}
    (written : writeBeans o noCustoms f definitions (start o) = (.ok count, after)) :
    AddsBlocks o f definitions after :=
  writeBeans_induction (AddsBlocks o f) (fun adds writes => adds.step writes.wrote)
    ⟨[], .nil, .of_eq (Code.append_empty _).symm rfl⟩ written

theorem classes_finish (beans : Nat) (t : Target) : (finish beans t).classes = { t.classes with
    main := { t.classes.main with interface := some initializerInterface }.addMethodFirst
      (initializer t.code) } := if_pos rfl

/-- What is left to do puts the main routine, whose name waits for it, first into the main class. -/
theorem finish_routines (beans : Nat) (tidy : t.classes.Tidy [mainRoutine]) :
    (finish beans t).classes.Tidy [] ∧ (finish beans t).classes.routines =
      (t.classes.main.name, initializer t.code) :: t.classes.routines := by
  rw [classes_finish]
  refine ⟨{ tidy with main := ⟨tidy.main.distinct, ?_⟩ }, rfl⟩
  exact fun name member => List.mem_cons_of_mem _ (tidy.main.taken member)

/-- Of a pass that succeeds there is a trace. -/
theorem trace_of_run (complete : run o noCustoms f = (.ok (), t)) :
    ∃ blocks closing, Trace o f t blocks closing := by
  obtain ⟨beans, between, unfinished, written, listed, rfl⟩ := run_cases complete
  obtain ⟨blocks, each, extended⟩ := addsBlocks_writeBeans written
  obtain ⟨-, closing, last, closed⟩ := writeListeners_closing listed
  have whole := extended.trans closed
  obtain ⟨started, unwritten⟩ := tidy_start o
  obtain ⟨tidy, routines⟩ := whole.classes started
  rw [unwritten, List.nil_append] at routines
  obtain ⟨tidy, first⟩ := finish_routines beans tidy
  have code : (finish beans unfinished).code = unfinished.code := rfl
  refine ⟨blocks, closing, each, last, ?_, ?_, ?_, ?_, tidy, ?_, ?_⟩
  · rw [code, whole.code, Code.append_assoc]
    rfl
  · rw [classes_finish]
    exact whole.name.trans (by rw [classes_start])
  · rw [classes_finish]
    rfl
  · rw [classes_finish]
    exact whole.staticBlock.trans (by rw [classes_start])
  · rw [classes_finish]
    exact List.mem_cons_self
  · rw [first, classes_finish]
    exact routines.cons _

end
end Prewire.Pass
