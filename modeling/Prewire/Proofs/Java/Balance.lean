import Prewire.Proofs.Java.Rendering
import Prewire.Proofs.Java.Variables

/-! Code that closes all the indents that it opens, and no others. Where unindenting stops at the margin
the level after it would be wrong, so such code never gets there by itself. -/
namespace Prewire.Java

namespace Code

/-- The level after a part; there is none below the margin. -/
def Part.level? : Nat → Part → Option Nat
  | level, .indent => some (level + 1)
  | level + 1, .unindent => some level
  | 0, .unindent => none
  | level, .text _ | level, .type _ => some level

def level? (code : Code) (level : Nat) : Option Nat := code.parts.foldlM Part.level? level

/-- The code ends at the level where it starts, and is never below it. -/
def KeepsLevel (code : Code) : Prop := ∀ level, code.level? level = some level

/-- There are as many indents as unindents, and in no prefix there are fewer. -/
structure IsBalanced (code : Code) : Prop where
  closed : code.parts.count .indent = code.parts.count .unindent
  opened : ∀ before, before <+: code.parts → before.count .unindent ≤ before.count .indent

def EndsLine (code : Code) : Prop :=
  ∀ style, (code.parts.flatMap (Part.chars style)).getLast? = some '\n'

variable {a b : Code}

theorem level?_joinParts (a b : List Part) (level : Nat) :
    (joinParts a b).foldlM Part.level? level = (a ++ b).foldlM Part.level? level := by
  rcases joinParts_cases a b with same | ⟨first, s, t, rest, rfl, rfl, joined⟩
  · rw [same]
  · rw [joined]
    simp [List.foldlM_append, Part.level?]

theorem level?_append (a b : Code) (level : Nat) :
    (a ++ b).level? level = (a.level? level).bind b.level? := by
  have joined : (a ++ b).level? level = (a.parts ++ b.parts).foldlM Part.level? level :=
    level?_joinParts a.parts b.parts level
  rw [joined, List.foldlM_append]
  rfl

@[simp] theorem keepsLevel_empty : KeepsLevel empty := fun _ => rfl

@[simp] theorem keepsLevel_text (content : String) : KeepsLevel (text content) := by
  intro level
  rw [text]
  split <;> rfl

@[simp] theorem keepsLevel_type (reference : JavaType) : KeepsLevel (type reference) := fun _ => rfl

theorem KeepsLevel.append (first : a.KeepsLevel) (second : b.KeepsLevel) : (a ++ b).KeepsLevel := by
  intro level
  rw [level?_append, first level, Option.bind_some, second level]

theorem KeepsLevel.text_append (keeps : a.KeepsLevel) (content : String) :
    (text content ++ a).KeepsLevel := (keepsLevel_text content).append keeps

theorem KeepsLevel.append_text (keeps : a.KeepsLevel) (content : String) :
    (a ++ text content).KeepsLevel := keeps.append (keepsLevel_text content)

/-- Code between an indent and an unindent. -/
theorem KeepsLevel.indented (inside : a.KeepsLevel) : (indent ++ a ++ unindent).KeepsLevel := by
  intro level
  have opened : indent.level? level = some (level + 1) := rfl
  rw [level?_append, level?_append, opened, Option.bind_some, inside, Option.bind_some]
  rfl

theorem count_of_level {parts : List Part} {level after : Nat}
    (reached : parts.foldlM Part.level? level = some after) :
    level + parts.count .indent = after + parts.count .unindent := by
  induction parts generalizing level with
  | nil =>
    obtain rfl := Option.some.inj reached
    rfl
  | cons p parts ih =>
    obtain ⟨next, step, rest⟩ := Option.bind_eq_some_iff.mp reached
    have counted := ih rest
    cases p with
    | indent =>
      obtain rfl := Option.some.inj step
      simp
      omega
    | unindent =>
      cases level with
      | zero => cases step
      | succ level =>
        obtain rfl := Option.some.inj step
        simp
        omega
    | text | type =>
      obtain rfl := Option.some.inj step
      simpa using counted

theorem KeepsLevel.isBalanced (keeps : a.KeepsLevel) : a.IsBalanced := by
  constructor
  · simpa using count_of_level (keeps 0)
  · rintro before ⟨after, whole⟩
    have reached := keeps 0
    rw [level?, ← whole, List.foldlM_append] at reached
    obtain ⟨level, reached, -⟩ := Option.bind_eq_some_iff.mp reached
    have := count_of_level reached
    omega

/-- Where a level is reached, writing reaches it too. -/
theorem foldl_shift {parts : List Part} {level after : Nat}
    (reached : parts.foldlM Part.level? level = some after) : parts.foldl Part.shift level = after := by
  induction parts generalizing level with
  | nil => exact Option.some.inj reached
  | cons p parts ih =>
    obtain ⟨next, step, rest⟩ := Option.bind_eq_some_iff.mp reached
    have same : p.shift level = next := by
      cases p <;> cases level <;> simp_all [Part.level?, Part.shift]
    rw [List.foldl_cons, same, ih rest]

/-- Writing code that keeps the level keeps the level of the layout. -/
theorem KeepsLevel.level_writeCode (keeps : a.KeepsLevel) (style : Layout.Style) (layout : Layout) :
    (layout.writeCode style a).level = layout.level := by
  rw [Layout.writeCode_inserted style layout a.parts]
  exact foldl_shift (keeps layout.level)

theorem endsLine_iff : a.EndsLine ↔
    ∀ (style : Layout.Style) (layout : Layout), (layout.writeCode style a).atLineStart = true := by
  have started (style : Layout.Style) (layout : Layout) : (layout.writeCode style a).atLineStart =
      Layout.startsLine layout.atLineStart (a.parts.flatMap (Part.chars style)) := by
    rw [Layout.writeCode_inserted style layout a.parts]
  simp only [started, EndsLine]
  constructor
  · intro ends style layout
    simp [Layout.startsLine, ends style]
  · intro starts style
    have started := starts style ⟨"", 0, false⟩
    rw [Layout.startsLine] at started
    cases last : (a.parts.flatMap (Part.chars style)).getLast? with
    | none => simp [last] at started
    | some c => simpa [last] using started

/-- What comes before does not matter. -/
theorem EndsLine.append (ends : b.EndsLine) (a : Code) : (a ++ b).EndsLine := by
  rw [endsLine_iff] at ends ⊢
  intro style layout
  rw [Layout.writeCode_append]
  exact ends style _

/-- The line was ended before the level is left. -/
theorem EndsLine.unindent (ends : a.EndsLine) : (a ++ unindent).EndsLine := by
  rw [endsLine_iff] at ends ⊢
  intro style layout
  rw [Layout.writeCode_append]
  exact ends style layout

theorem endsLine_text (content : String) : (text (content ++ "\n")).EndsLine := by
  intro style
  simp [text, Part.chars]

end Code

/-- All code that is taken over as it is keeps the level. -/
def RawKeepsLevel (sites : List Site) : Prop := ∀ code, .verbatim code ∈ sites → code.KeepsLevel

theorem rawKeepsLevel_append {a b : List Site} :
    RawKeepsLevel (a ++ b) ↔ RawKeepsLevel a ∧ RawKeepsLevel b := by
  simp only [RawKeepsLevel, List.mem_append, or_imp, forall_and]

theorem RawKeepsLevel.of_cons {site : Site} {sites : List Site} (raw : RawKeepsLevel (site :: sites)) :
    RawKeepsLevel sites := fun code member => raw code (.tail _ member)

mutual
/-- The code of an expression keeps the level if the code that it takes over does. -/
theorem Expression.keepsLevel : ∀ (e : Expression) (scope : List Variable) (customizes : Bool),
    RawKeepsLevel (e.sites scope customizes) → e.code.KeepsLevel
  | .nullLiteral, _, _, _ | .boolean _, _, _, _ | .number _, _, _, _ | .character _, _, _, _
  | .string _, _, _, _ | .name _, _, _, _ => Code.keepsLevel_text _
  | .classLiteral _, _, _, _ => (Code.keepsLevel_type _).append_text _
  | .typeName _, _, _, _ => Code.keepsLevel_type _
  | .member receiver _, scope, _, raw => (receiver.keepsLevel scope false raw).append_text _
  | .chain receiver calls, scope, _, raw =>
    have ⟨first, others⟩ := rawKeepsLevel_append.mp raw
    (receiver.keepsLevel scope false first).append (keepsLevel_callsCode calls scope others)
  | .create _ arguments, scope, _, raw =>
    have created := ((Code.keepsLevel_type _).text_append _).append_text _
    (created.append (keepsLevel_argumentsCode _ arguments scope false raw)).append_text _
  | .createArray _ [], _, _, _ => ((Code.keepsLevel_type _).text_append _).append_text _
  | .createArray _ (e :: rest), scope, _, raw =>
    have ⟨first, others⟩ := rawKeepsLevel_append.mp raw
    have created := ((Code.keepsLevel_type _).text_append _).append_text _
    ((created.append (e.keepsLevel scope false first)).append
      (keepsLevel_restCode _ rest scope false others)).append_text _
  | .assign target value, scope, _, raw =>
    have ⟨first, others⟩ := rawKeepsLevel_append.mp raw
    ((target.keepsLevel scope false first).append_text _).append (value.keepsLevel scope false others)
  | .negate condition, scope, _, raw => (condition.keepsLevel scope false raw).text_append _
  | .lambda parameters body, scope, customizes, raw =>
    have inside := (rawKeepsLevel_append.mp raw).2
    (body.keepsLevel (enter scope customizes parameters) false inside).text_append _
  | .blockLambda parameters body, scope, customizes, raw => by
    have inside := (rawKeepsLevel_append.mp raw).2
    have block := (keepsLevel_statementsCode body (enter scope customizes parameters) inside).indented
    have opened : (parameterList parameters ++ Code.text "\x7b\n").KeepsLevel :=
      (Code.keepsLevel_text _).append_text _
    simpa only [Expression.code, Code.append_assoc] using (opened.append block).append_text "\x7d"
  | .verbatim code, _, _, raw => raw code (.head _)
theorem keepsLevel_callsCode : ∀ (calls : List Call) (scope : List Variable),
    RawKeepsLevel (callSites scope calls) → (callsCode calls).KeepsLevel
  | [], _, _ => Code.keepsLevel_empty
  | .mk _ arguments :: rest, scope, raw =>
    have ⟨first, others⟩ := rawKeepsLevel_append.mp raw
    have call := ((keepsLevel_argumentsCode _ arguments scope _ first).text_append _).append_text _
    call.append (keepsLevel_callsCode rest scope others)
theorem keepsLevel_argumentsCode (separator : String) : ∀ (arguments : List Expression)
    (scope : List Variable) (customizes : Bool),
    RawKeepsLevel (argumentSites scope customizes arguments) →
      (argumentsCode separator arguments).KeepsLevel
  | [], _, _, _ => Code.keepsLevel_empty
  | e :: rest, scope, customizes, raw =>
    have ⟨first, others⟩ := rawKeepsLevel_append.mp raw
    (e.keepsLevel scope customizes first).append (keepsLevel_restCode _ rest scope customizes others)
theorem keepsLevel_restCode (separator : String) : ∀ (arguments : List Expression)
    (scope : List Variable) (customizes : Bool),
    RawKeepsLevel (argumentSites scope customizes arguments) → (restCode separator arguments).KeepsLevel
  | [], _, _, _ => Code.keepsLevel_empty
  | e :: rest, scope, customizes, raw =>
    have ⟨first, others⟩ := rawKeepsLevel_append.mp raw
    ((e.keepsLevel scope customizes first).text_append _).append
      (keepsLevel_restCode _ rest scope customizes others)
theorem Statement.keepsLevel : ∀ (s : Statement) (scope : List Variable),
    RawKeepsLevel (s.sites scope) → s.code.KeepsLevel
  | .comment _, _, _ => Code.keepsLevel_text _
  | .expression e, scope, raw => (e.keepsLevel scope false raw).append_text _
  | .declare _ name value, scope, raw =>
    have initial := value.keepsLevel (⟨name, false⟩ :: scope) false raw.of_cons
    (((Code.keepsLevel_type _).append_text _).append initial).append_text _
  | .giveBack value, scope, raw => ((value.keepsLevel scope false raw).text_append _).append_text _
  | .giveBackListed type routine arguments, scope, raw => by
    have listed := ((keepsLevel_argumentsCode ",\n" arguments scope false raw).append_text "\n").indented
    have opened := ((Code.keepsLevel_type type).text_append "return ").append_text
      ("." ++ routine ++ "(\n")
    simpa only [Statement.code, Code.append_assoc] using (opened.append listed).append_text ");\n"
  | .ifThen condition body, scope, raw => by
    have ⟨first, others⟩ := rawKeepsLevel_append.mp raw
    have block := (keepsLevel_statementsCode body scope others).indented
    have opened := ((condition.keepsLevel scope false first).text_append "if (").append_text ") \x7b\n"
    simpa only [Statement.code, Code.append_assoc] using (opened.append block).append_text "\x7d\n"
  | .brokenChain receiver calls, scope, raw => by
    have ⟨first, others⟩ := rawKeepsLevel_append.mp raw
    have calls := ((keepsLevel_callsCode calls scope others).append_text ";\n").indented.indented
    have opened := (receiver.keepsLevel scope false first).append_text "\n"
    simpa only [Statement.code, Code.append_assoc] using opened.append calls
theorem keepsLevel_statementsCode : ∀ (statements : List Statement) (scope : List Variable),
    RawKeepsLevel (statementSites scope statements) → (statementsCode statements).KeepsLevel
  | [], _, _ => Code.keepsLevel_empty
  | s :: rest, scope, raw =>
    have ⟨first, others⟩ := rawKeepsLevel_append.mp raw
    (s.keepsLevel scope first).append (keepsLevel_statementsCode rest (s.variables ++ scope) others)
end

end Prewire.Java
