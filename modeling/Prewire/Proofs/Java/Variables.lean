import Prewire.Java.Expression

/-! The variables of generated code. Wherever code declares or uses a variable, it is told which ones are
in scope there, and so it can be said of code that its variables never shadow each other. -/
namespace Prewire.Java

structure Variable where
  name : String
  /-- Whether it is the parameter of a lambda that customizes a definition. -/
  customizes : Bool := false
  deriving DecidableEq, Repr

/-- The parameter of the innermost lambda that customizes. In a scope the last variable comes first. -/
def innermost? (scope : List Variable) : Option String :=
  (scope.find? Variable.customizes).map Variable.name

/-- A place in code where it comes to variables, with those in scope there. -/
inductive Site where
  | declared (name : String) (scope : List Variable)
  | used (name : String) (scope : List Variable)
  /-- A call in a lambda that customizes, with the variable that it is made on. -/
  | customizing (receiver : Option String) (scope : List Variable)
  /-- Code that does not tell its variables. -/
  | verbatim (code : Code)
  deriving DecidableEq, Repr

/-- What is declared has a new name, what is used is in scope, and only the innermost of the lambdas
that customize has its parameter used, on which it makes all of its calls. -/
inductive Site.IsSound : Site → Prop
  | declared {name : String} {scope : List Variable} (fresh : ∀ v ∈ scope, v.name ≠ name) :
    IsSound (.declared name scope)
  | used {v : Variable} {scope : List Variable} (known : v ∈ scope)
    (inner : v.customizes → innermost? scope = some v.name) : IsSound (.used v.name scope)
  | customizing {name : String} {scope : List Variable} (inner : innermost? scope = some name) :
    IsSound (.customizing (some name) scope)

def Expression.receiver? : Expression → Option String
  | .chain (.name receiver) (_ :: _) => some receiver
  | _ => none

def Statement.receiver? : Statement → Option String
  | .expression e => e.receiver?
  | _ => none

def Statement.variables : Statement → List Variable
  | .declare _ name _ => [⟨name, false⟩]
  | _ => []

def parameterSites (scope : List Variable) (customizes : Bool) : List String → List Site
  | [] => []
  | parameter :: rest =>
    .declared parameter scope :: parameterSites (⟨parameter, customizes⟩ :: scope) customizes rest

def enter (scope : List Variable) (customizes : Bool) (parameters : List String) : List Variable :=
  parameters.foldl (fun scope parameter => ⟨parameter, customizes⟩ :: scope) scope

def customizingSites (scope : List Variable) (customizes : Bool) (receivers : List (Option String)) :
    List Site :=
  if customizes then receivers.map (.customizing · scope) else []

mutual
/-- The places of an expression, which may be what a definition is customized by. -/
def Expression.sites (scope : List Variable) (customizes : Bool) : Expression → List Site
  | .nullLiteral | .boolean _ | .number _ | .character _ | .string _ => []
  | .classLiteral _ | .typeName _ => []
  | .name identifier => [.used identifier scope]
  | .member receiver _ => receiver.sites scope false
  | .chain receiver calls => receiver.sites scope false ++ callSites scope calls
  | .create _ arguments => argumentSites scope false arguments
  | .createArray _ elements => argumentSites scope false elements
  | .assign target value => target.sites scope false ++ value.sites scope false
  | .negate condition => condition.sites scope false
  | .lambda parameters body =>
    parameterSites scope customizes parameters
      ++ customizingSites (enter scope customizes parameters) customizes [body.receiver?]
      ++ body.sites (enter scope customizes parameters) false
  | .blockLambda parameters body =>
    parameterSites scope customizes parameters
      ++ customizingSites (enter scope customizes parameters) customizes (body.map Statement.receiver?)
      ++ statementSites (enter scope customizes parameters) body
  | .verbatim code => [.verbatim code]
def callSites (scope : List Variable) : List Call → List Site
  | [] => []
  | .mk method arguments :: rest =>
    argumentSites scope (method = "customize") arguments ++ callSites scope rest
def argumentSites (scope : List Variable) (customizes : Bool) : List Expression → List Site
  | [] => []
  | e :: rest => e.sites scope customizes ++ argumentSites scope customizes rest
def Statement.sites (scope : List Variable) : Statement → List Site
  | .comment _ => []
  | .expression e => e.sites scope false
  -- a variable is in scope in its own initializer
  | .declare _ name value => .declared name scope :: value.sites (⟨name, false⟩ :: scope) false
  | .giveBack value => value.sites scope false
  | .giveBackListed _ _ arguments => argumentSites scope false arguments
  | .ifThen condition body => condition.sites scope false ++ statementSites scope body
  | .brokenChain receiver calls => receiver.sites scope false ++ callSites scope calls
def statementSites (scope : List Variable) : List Statement → List Site
  | [] => []
  | s :: rest => s.sites scope ++ statementSites (s.variables ++ scope) rest
end

attribute [simp] parameterSites enter customizingSites Expression.sites Statement.sites

def scopeAfter (scope : List Variable) (statements : List Statement) : List Variable :=
  statements.foldl (fun scope s => s.variables ++ scope) scope

/-- All places are sound. -/
def WellScoped (sites : List Site) : Prop := ∀ site ∈ sites, site.IsSound

variable {scope : List Variable}

@[simp] theorem wellScoped_nil : WellScoped [] := nofun

@[simp] theorem wellScoped_cons {site : Site} {sites : List Site} :
    WellScoped (site :: sites) ↔ site.IsSound ∧ WellScoped sites := List.forall_mem_cons

@[simp] theorem wellScoped_append {a b : List Site} :
    WellScoped (a ++ b) ↔ WellScoped a ∧ WellScoped b := List.forall_mem_append

@[simp] theorem wellScoped_map {α : Type} (site : α → Site) (xs : List α) :
    WellScoped (xs.map site) ↔ ∀ x ∈ xs, (site x).IsSound := List.forall_mem_map

@[simp] theorem wellScoped_argumentSites {customizes : Bool} {arguments : List Expression} :
    WellScoped (argumentSites scope customizes arguments) ↔
      ∀ e ∈ arguments, WellScoped (e.sites scope customizes) := by
  induction arguments with
  | nil => simp [argumentSites]
  | cons e rest ih => simp [argumentSites, ih]

@[simp] theorem wellScoped_callSites {calls : List Call} : WellScoped (callSites scope calls) ↔
    ∀ call ∈ calls, ∀ e ∈ call.arguments, WellScoped (e.sites scope (call.method = "customize")) := by
  induction calls with
  | nil => simp [callSites]
  | cons call rest ih =>
    cases call
    simp [callSites, ih]

/-- Statements that declare nothing see the same variables. -/
theorem wellScoped_statementSites {statements : List Statement}
    (silent : ∀ s ∈ statements, s.variables = []) :
    WellScoped (statementSites scope statements) ↔ ∀ s ∈ statements, WellScoped (s.sites scope) := by
  induction statements with
  | nil => simp [statementSites]
  | cons s rest ih =>
    obtain ⟨first, others⟩ := List.forall_mem_cons.mp silent
    rw [statementSites, wellScoped_append, first, List.nil_append, ih others, List.forall_mem_cons]

/-- A variable that customizes nothing is used wherever it is in scope. -/
theorem isSound_used {name : String} (known : ⟨name, false⟩ ∈ scope) : (Site.used name scope).IsSound :=
  .used known nofun

/-- A lambda that customizes by more than one call makes each of them on its parameter. -/
theorem wellScoped_blockCustomizing {parameter : String} {calls : List Expression} :
    WellScoped ((Expression.blockLambda [parameter] (calls.map .expression)).sites scope true) ↔
      (Site.declared parameter scope).IsSound ∧ ∀ e ∈ calls,
        (Site.customizing e.receiver? (⟨parameter, true⟩ :: scope)).IsSound ∧
          WellScoped (e.sites (⟨parameter, true⟩ :: scope) false) := by
  have silent : ∀ s ∈ calls.map Statement.expression, s.variables = [] := by
    simp [Statement.variables]
  simp [wellScoped_statementSites silent, Statement.receiver?, imp_and, forall_and]

end Prewire.Java
