import Prewire.Proofs.Output.Routines
import Prewire.Proofs.Registration.Configured

/-! The part of the main routine that a registration leads to: its chain of calls, or a call of a
routine in the class of another package that holds the chain. A registration that succeeds does no more
to code and classes than that. -/
namespace Prewire.Registration

open Java Types Beans Plan Output Target

/-- The part of the main routine for a definition. -/
inductive Block where
  | nothing
  /-- The registration itself. -/
  | chain (code : Code)
  /-- A call of the routine that holds the registration. -/
  | call (owner : ClassName) (routine : String) (code : Code)

namespace Block

def code : Block → Code
  | nothing => .empty
  | chain code => code
  | call owner routine _ => (routineCall owner routine).code

def routine? : Block → Option (ClassName × Method)
  | call owner routine code => some (owner, contextRoutine routine code)
  | _ => none

/-- The block holds code, itself or in a routine outside of a package. -/
inductive Places (code : Code) (package : String) : Block → Prop
  | inMain : Places code package (.chain code)
  | inRoutine {owner : ClassName} {routine : String} (apart : owner.package ≠ package) :
    Places code package (.call owner routine code)

end Block

/-- A statement that calls a routine with the application context. -/
def callCode (owner : ClassName) (routine : String) : Code :=
  Code.type (.ofClass owner) ++ Code.text ("." ++ routine ++ "(context);\n")

/-- All that happens to code and classes where code and routines are added. -/
structure Extends (t : Target) (code : Code) (added : List (ClassName × Method)) (after : Target) :
    Prop where
  code : after.code = t.code ++ code
  name : after.classes.main.name = t.classes.main.name
  interface : after.classes.main.interface = t.classes.main.interface
  staticBlock : after.classes.main.staticBlock = t.classes.main.staticBlock
  classes : ∀ {awaited}, t.classes.Tidy awaited → after.classes.Tidy awaited ∧
    after.classes.routines.Perm (t.classes.routines ++ added)

/-- All that happens where code is appended: it is in the main routine, or it is all of a routine outside
of the main package, which the main routine calls. -/
inductive Appends (t : Target) (code : Code) (after : Target) : Prop
  | inMain (extended : Extends t code [] after)
  | inRoutine {owner : ClassName} {r : Method} (apart : owner.package ≠ t.classes.mainPackage)
    (body : r.body = code) (extended : Extends t (callCode owner r.name) [(owner, r)] after)

/-- The complete chain of calls that registers a definition under a name: what creates the bean and
injects into it, then what customizes it. -/
inductive IsChain (f : BeanFactory) (beanName : String) (d : BeanDefinition) : Code → Prop
  | intro {plan : BeanPlan} {creator : Creator} {arguments : Option (List Expression)}
    {customizing : List Expression} (source : WrittenFrom f d plan creator arguments)
    (customized : Outcome.ofWriting.Yields (customizers (innerChain f beanName (planDepth plan) 1)
      (.name (customizerParameter 0)) d plan.properties) customizing) :
    IsChain f beanName d (registrationStatement beanName plan creator
      ⟨"instanceSupplier", [supplier creator.executable arguments plan.injections]⟩
      customizing).code

section
variable {t between after : Target} {f : BeanFactory} {beanName : String} {d : BeanDefinition}
variable {plan : BeanPlan} {code : Code} {added : List (ClassName × Method)}

theorem Extends.of_eq (written : after.code = t.code ++ code)
    (classes : after.classes = t.classes) : Extends t code [] after :=
  ⟨written, by rw [classes], by rw [classes], by rw [classes], fun tidy => by
    rw [classes, List.append_nil]
    exact ⟨tidy, .refl _⟩⟩

theorem Extends.congr (extended : Extends t code added between)
    (same : after.code = between.code) (classes : after.classes = between.classes) :
    Extends t code added after := by
  obtain ⟨written, name, interface, staticBlock, tidy⟩ := extended
  rw [← same] at written
  rw [← classes] at name interface staticBlock tidy
  exact ⟨written, name, interface, staticBlock, tidy⟩

/-- What was reported before does not matter. -/
theorem Extends.of_report {notices : List Notice}
    (extended : Extends (t.report notices) code added after) : Extends t code added after :=
  ⟨extended.code, extended.name, extended.interface, extended.staticBlock, extended.classes⟩

theorem Extends.trans {rest : Code} {more : List (ClassName × Method)}
    (first : Extends t code added between) (second : Extends between rest more after) :
    Extends t (code ++ rest) (added ++ more) after := by
  refine ⟨?_, second.name.trans first.name, second.interface.trans first.interface,
    second.staticBlock.trans first.staticBlock, fun tidy => ?_⟩
  · rw [second.code, first.code, Code.append_assoc]
  · obtain ⟨tidy, earlier⟩ := first.classes tidy
    obtain ⟨tidy, later⟩ := second.classes tidy
    refine ⟨tidy, later.trans ?_⟩
    rw [← List.append_assoc]
    exact earlier.append_right more

/-- A routine under a free name, with code that may use the name. -/
theorem Extends.addRoutine (package name : String) (routine : String → Method)
    (named : ∀ fresh, (routine fresh).name = fresh) (written : after.code = t.code ++ code)
    (classes : after.classes = t.classes.addRoutine package name routine) :
    Extends t code
      [((t.classes.classFor package).name, routine (t.classes.freshRoutine package name))] after := by
  have main := Classes.main_addRoutine package name routine t.classes
  rw [← classes] at main
  refine ⟨written, main.1, main.2.1, main.2.2, fun tidy => ?_⟩
  rw [classes]
  exact ⟨tidy.addRoutine package name _ named, Classes.perm_addRoutine tidy package name routine⟩

theorem IsChain.ne_empty {code : Code} (chain : IsChain f beanName d code) : code ≠ .empty := by
  cases chain
  exact fun nothing => nomatch (Code.append_eq_empty.mp nothing).2

theorem callCode_ne_empty (owner : ClassName) (routine : String) : callCode owner routine ≠ .empty :=
  fun nothing => nomatch (Code.append_eq_empty.mp nothing).1

theorem code_routineCall (owner : ClassName) (routine : String) :
    (routineCall owner routine).code = callCode owner routine := by
  simp [callCode, routineCall, Statement.code, Expression.staticCall, Expression.code, callsCode, argumentsCode,
    restCode, contextName, Code.append_assoc, Code.text_append, String.append_assoc]

/-- A call tells the routine that it calls. -/
theorem callCode_inj {owner other : ClassName} {routine name : String}
    (same : callCode owner routine = callCode other name) : owner = other ∧ routine = name := by
  obtain ⟨types, texts⟩ := Code.type_text_inj (by simp) (by simp) same
  refine ⟨by simpa [JavaType.ofClass] using types, ?_⟩
  rwa [String.append_left_inj, String.append_right_inj] at texts

theorem Block.Places.appends {block : Block} (places : block.Places code t.classes.mainPackage)
    (extended : Extends t block.code block.routine?.toList after) : Appends t code after := by
  cases places with
  | inMain => exact .inMain extended
  | @inRoutine owner routine apart =>
    rw [Block.code, code_routineCall] at extended
    exact .inRoutine (r := contextRoutine routine code) apart rfl extended

theorem code_adopt (t : Target) (written : Written) : (adopt t written).code = t.code := by
  rw [adopt]
  split <;> rfl

theorem classes_adopt (t : Target) (written : Written) : (adopt t written).classes = t.classes := by
  rw [adopt]
  split <;> rfl

theorem reflection_adopt (t : Target) {written : Written} (complete : written.outcome = .ok ()) :
    (adopt t written).reflection = t.reflection.merge written.progress.reflection := by
  rw [adopt.eq_def]
  simp only [complete]
  rfl

theorem registerInMain_block (registered : registerInMain f beanName d plan t = (.ok (), after)) :
    after.reflection =
        t.reflection.merge (writeRegistration f beanName d plan).progress.reflection ∧
      Extends t (writeRegistration f beanName d plan).code [] after := by
  simp only [registerInMain] at registered
  obtain ⟨complete, rfl⟩ := Prod.mk.inj registered
  refine ⟨reflection_adopt _ complete, .of_eq ?_ ?_⟩
  · rw [code_adopt, append]
  · rw [classes_adopt, append]

theorem registerInPackage_block {package : String}
    (registered : registerInPackage f beanName d plan package t = (.ok (), after)) :
    after.reflection =
        t.reflection.merge (writeRegistration f beanName d plan).progress.reflection ∧
      ∃ owner routine, owner.package = package ∧
        Extends t (routineCall owner routine).code
          [(owner, contextRoutine routine (writeRegistration f beanName d plan).code)] after := by
  simp only [registerInPackage] at registered
  split at registered
  · simp at registered
  next complete =>
  obtain ⟨-, rfl⟩ := Prod.mk.inj registered
  let routine := (contextRoutine · (writeRegistration f beanName d plan).code)
  have reached : (t.reserve package (routineName plan)).2.modifyClass package (·.addMethod
      (contextRoutine (t.reserve package (routineName plan)).1
        (writeRegistration f beanName d plan).code)) =
    t.addRoutine package (routineName plan) routine := rfl
  rw [reached]
  refine ⟨?_, (t.classes.classFor package).name, _, Classes.package_classFor package,
    .addRoutine package (routineName plan) routine (fun _ => rfl) ?_ ?_⟩
  · rw [reflection_adopt _ complete, reflection_append, reflection_addRoutine]
  · rw [code_adopt, code_append, code_addRoutine, name_classFor_addRoutine]
    rfl
  · rw [classes_adopt, classes_append, classes_addRoutine]

/-- All that a registration which succeeds does to code, classes and reflection. -/
theorem register_block (registered : register f beanName d plan t = (.ok (), after)) :
    (writeRegistration f beanName d plan).outcome = .ok () ∧
      after.reflection =
        t.reflection.merge (writeRegistration f beanName d plan).progress.reflection ∧
      ∃ block : Block, block.Places (writeRegistration f beanName d plan).code t.classes.mainPackage ∧
        Extends t block.code block.routine?.toList after := by
  obtain ⟨_, -, inPlace, -⟩ := register_ok registered
  refine ⟨inPlace.complete, ?_⟩
  obtain ⟨_, between, -, rfl, ⟨-, main⟩ | ⟨package, -, apart, other⟩⟩ := register_cases registered
  · obtain ⟨reflection, extended⟩ := registerInMain_block main
    exact ⟨reflection, .chain _, .inMain, extended.congr rfl rfl⟩
  · obtain ⟨reflection, owner, routine, hosted, extended⟩ := registerInPackage_block other
    exact ⟨reflection, .call owner routine _, .inRoutine (hosted ▸ apart), extended.congr rfl rfl⟩

end
end Prewire.Registration
