import Prewire.Proofs.Java.Balance
import Prewire.Proofs.Registration.Variables

/-! The indentation of registrations. The indents that a chain, its lambdas and the chains of inner
beans open are closed again, and a registration ends the line that it is on. So the code after it is at
the same level as the code before it. -/
namespace Prewire.Registration

open Java Types Beans Plan Output

def Block.codes (block : Block) : List Code :=
  block.code :: block.routine?.toList.map fun added => added.2.body

section
variable {f : BeanFactory} {beanName : String} {d : BeanDefinition} {plan : BeanPlan}

theorem keepsLevel_of_wellScoped {s : Statement} {scope : List Variable}
    (scopes : WellScoped (s.sites scope)) : s.code.KeepsLevel :=
  s.keepsLevel scope fun _ member => nomatch scopes _ member

theorem endsLine_brokenChain (receiver : Expression) (calls : List Call) :
    (Statement.brokenChain receiver calls).code.EndsLine :=
  ((Code.endsLine_text ";").append _).unindent.unindent

theorem keepsLevel_routineCall (owner : ClassName) (routine : String) :
    (routineCall owner routine).code.KeepsLevel := by
  rw [code_routineCall, callCode]
  exact (Code.keepsLevel_type _).append (Code.keepsLevel_text _)

theorem endsLine_routineCall (owner : ClassName) (routine : String) :
    (routineCall owner routine).code.EndsLine :=
  (Code.endsLine_text ";").append _

/-- The code of a registration that succeeds keeps the level and ends its line. -/
theorem writeRegistration_keepsLevel
    (complete : (writeRegistration f beanName d plan).outcome = .ok ()) :
    (writeRegistration f beanName d plan).code.KeepsLevel ∧
      (writeRegistration f beanName d plan).code.EndsLine := by
  obtain ⟨creator, supply, statement, progress, -, supplied, ran, code⟩ := writeRegistration_ran complete
  rw [code]
  refine ⟨keepsLevel_of_wellScoped (wellScoped_registration (ambient_block .nothing) supplied ran), ?_⟩
  obtain ⟨customizing, _, _, -, rfl⟩ := registration_ok ran
  exact endsLine_brokenChain _ _

/-- A registration that succeeds adds code that is balanced and ends its line, in the main routine and in
a routine of its own. So the level is the same before and after it, and what follows is on a line of its
own. -/
theorem register_balanced {t after : Target}
    (registered : register f beanName d plan t = (.ok (), after)) :
    ∃ block : Block, block.Places (writeRegistration f beanName d plan).code t.classes.mainPackage ∧
      Extends t block.code block.routine?.toList after ∧
      ∀ code ∈ block.codes, code.IsBalanced ∧ code.EndsLine ∧
        ∀ (style : Layout.Style) (layout : Layout), (layout.writeCode style code).level = layout.level ∧
          (layout.writeCode style code).atLineStart = true := by
  obtain ⟨complete, -, block, places, extended⟩ := register_block registered
  obtain ⟨keeps, ends⟩ := writeRegistration_keepsLevel complete
  have all : ∀ code ∈ block.codes, code.KeepsLevel ∧ code.EndsLine := by
    cases places with
    | inMain => exact List.forall_mem_singleton.mpr ⟨keeps, ends⟩
    | @inRoutine owner routine apart =>
      refine List.forall_mem_cons.mpr ⟨?_, List.forall_mem_singleton.mpr ⟨keeps, ends⟩⟩
      exact ⟨keepsLevel_routineCall owner routine, endsLine_routineCall owner routine⟩
  refine ⟨block, places, extended, fun code member => ?_⟩
  obtain ⟨keeps, ends⟩ := all code member
  exact ⟨keeps.isBalanced, ends, fun style layout =>
    ⟨keeps.level_writeCode style layout, Code.endsLine_iff.mp ends style layout⟩⟩

end

open NestedSample in
/-- The chain of the bean opens an indent for each lambda that has a block, beside the two of its own. -/
theorem register_balanced_nested : ∃ after, ∃ block : Block,
    register container "service" definition plan target = (.ok (), after) ∧
    ∃ code ∈ block.codes, code.parts.count .indent = 8 ∧ code.parts.count .unindent = 8 ∧
      (∀ before, before <+: code.parts → before.count .unindent ≤ before.count .indent) ∧
      ∀ (style : Layout.Style) (layout : Layout), (layout.writeCode style code).level = layout.level ∧
        (layout.writeCode style code).atLineStart = true := by
  have succeeds : (register container "service" definition plan target).1 = .ok () := by decide +kernel
  have counted :
      (writeRegistration container "service" definition plan).code.parts.count .indent = 8 := by
    decide +kernel
  obtain ⟨block, placed, -, balanced⟩ := register_balanced (Prod.ext succeeds rfl)
  have member : (writeRegistration container "service" definition plan).code ∈ block.codes := by
    cases placed with
    | inMain => exact .head _
    | inRoutine => exact .tail _ (.head _)
  obtain ⟨⟨closed, opened⟩, -, written⟩ := balanced _ member
  exact ⟨_, block, Prod.ext succeeds rfl, _, member, counted, closed ▸ counted, opened, written⟩

end Prewire.Registration
