import Prewire.Registration.Routing
import Prewire.Proofs.Java.Code

/-! What a pass has written stays. Code is only appended to, routines are only added to classes, and
classes keep their names, so a registration that is in place once is in place at the end. -/
namespace Prewire

/-- The bean whose registration a notice reports. -/
def Notice.registration? : Notice → Option (String × Option String)
  | .registrationWritten beanName package => some (beanName, package)
  | _ => none

namespace Output

open Java Registration

namespace Classes

variable {cs : Classes}

theorem find?_putHelper (c : OutputClass) (helpers : List OutputClass) (package : String) :
    (putHelper c helpers).find? (·.name.package = package) =
      if c.name.package = package then some c
      else helpers.find? (·.name.package = package) := by
  induction helpers with
  | nil => by_cases own : c.name.package = package <;> simp [putHelper, own]
  | cons other rest ih =>
    rw [putHelper]
    split
    · next same =>
      by_cases own : c.name.package = package
      · simp [own]
      · simp [own, ← same]
    · split
      · by_cases own : c.name.package = package <;> simp [own]
      · next different _ =>
        rw [List.find?_cons, ih]
        by_cases own : c.name.package = package
        · have : other.name.package ≠ package := fun same => different (own.trans same.symm)
          simp [own, this]
        · simp [own, List.find?_cons]

/-- The class for the code of a package is in that package. -/
theorem package_classFor (package : String) : (cs.classFor package).name.package = package := by
  rw [classFor]
  split
  · next same => exact same.symm
  · rw [helper?]
    cases found : cs.helpers.find? (·.name.package = package) with
    | none => rfl
    | some c => simpa using List.find?_some found

theorem classFor_main (cs : Classes) : cs.classFor cs.mainPackage = cs.main := if_pos rfl

theorem classFor_of_other (cs : Classes) {package : String} (other : package ≠ cs.mainPackage) :
    cs.classFor package =
      (cs.helper? package).getD { name := ⟨package, [cs.main.name.simpleName]⟩ } := if_neg other

section
variable {c : OutputClass} (named : c.name = (cs.classFor c.name.package).name)
include named

theorem main_put : (cs.put c).main.name = cs.main.name := by
  rw [put]
  split
  · next own => rw [named, own, classFor_main]
  · rfl

theorem mainPackage_put : (cs.put c).mainPackage = cs.mainPackage :=
  congrArg ClassName.package (main_put named)

theorem classFor_put (package : String) :
    (cs.put c).classFor package = if package = c.name.package then c else cs.classFor package := by
  by_cases own : c.name.package = cs.mainPackage
  · have changed : cs.put c = { cs with main := c } := if_pos own
    have name : c.name = cs.main.name := by rw [named, own, classFor_main]
    rw [changed]
    by_cases same : package = c.name.package
    · rw [if_pos same, same]
      exact classFor_main { cs with main := c }
    · have other : package ≠ cs.mainPackage := own ▸ same
      rw [if_neg same, classFor_of_other { cs with main := c } same, classFor_of_other cs other, helper?,
        helper?, name]
  · have changed : cs.put c = { cs with helpers := putHelper c cs.helpers } := if_neg own
    rw [changed]
    by_cases main : package = cs.mainPackage
    · have different : package ≠ c.name.package := fun same => own (same ▸ main)
      rw [if_neg different, main, classFor_main]
      exact classFor_main { cs with helpers := putHelper c cs.helpers }
    · rw [classFor_of_other { cs with helpers := putHelper c cs.helpers } main, classFor_of_other cs main,
        helper?, find?_putHelper, helper?]
      by_cases same : package = c.name.package
      · simp [same]
      · simp [same, Ne.symm same]

end

/-- A class that holds a routine is written out. -/
theorem classFor_mem_all {package : String} {m : Method}
    (member : m ∈ (cs.classFor package).methods) : cs.classFor package ∈ cs.all := by
  rw [classFor] at member ⊢
  split
  · exact List.mem_cons_self
  · next other =>
    rw [if_neg other, helper?] at member
    cases found : cs.helpers.find? (·.name.package = package) with
    | none => simp [found] at member
    | some c =>
      rw [helper?, found]
      exact List.mem_cons_of_mem _ (List.mem_of_find?_eq_some found)

end Classes

namespace Target

/-- What a step of a pass keeps. -/
structure Grows (t after : Target) : Prop where
  code : ∃ added, after.code = t.code ++ added
  mainPackage : after.classes.mainPackage = t.classes.mainPackage
  names : ∀ package, (after.classes.classFor package).name = (t.classes.classFor package).name
  methods : ∀ package, ∀ m ∈ (t.classes.classFor package).methods,
    m ∈ (after.classes.classFor package).methods

/-- A step that changes neither code nor classes. -/
theorem Grows.of_eq {t after : Target} (code : after.code = t.code)
    (classes : after.classes = t.classes) : Grows t after :=
  ⟨⟨.empty, by rw [code, Code.append_empty]⟩, by rw [classes], by simp [classes], by simp [classes]⟩

theorem Grows.refl (t : Target) : Grows t t := .of_eq rfl rfl

theorem Grows.trans {s t u : Target} (first : Grows s t) (second : Grows t u) : Grows s u := by
  obtain ⟨a, codeA⟩ := first.code
  obtain ⟨b, codeB⟩ := second.code
  refine ⟨⟨a ++ b, by rw [codeB, codeA, Code.append_assoc]⟩, ?_, fun package => ?_, ?_⟩
  · rw [second.mainPackage, first.mainPackage]
  · rw [second.names, first.names]
  · intro package m member
    exact second.methods package m (first.methods package m member)

theorem grows_report (t : Target) (notices : List Notice) : Grows t (t.report notices) :=
  .of_eq rfl rfl

theorem grows_append (t : Target) (code : Code) : Grows t (t.append code) :=
  ⟨⟨code, rfl⟩, rfl, fun _ => rfl, fun _ _ member => member⟩

theorem classFor_hosting (t : Target) (package other : String) :
    (t.hosting package).classes.classFor other = t.classes.classFor other := by
  rw [hosting]
  split
  · rfl
  · have named : (t.classes.classFor package).name =
        (t.classes.classFor (t.classes.classFor package).name.package).name := by
      rw [Classes.package_classFor]
    rw [report, Classes.classFor_put named, Classes.package_classFor]
    split
    · next same => rw [same]
    · rfl

theorem mainPackage_hosting (t : Target) (package : String) :
    (t.hosting package).classes.mainPackage = t.classes.mainPackage := by
  rw [hosting]
  split
  · rfl
  · exact Classes.mainPackage_put (by rw [Classes.package_classFor])

theorem code_hosting (t : Target) (package : String) : (t.hosting package).code = t.code := by
  rw [hosting]
  split <;> rfl

section
variable (t : Target) (package : String) (change : OutputClass → OutputClass)
variable (keepsName : ∀ c, (change c).name = c.name)
include keepsName

theorem classFor_modifyClass (other : String) :
    (t.modifyClass package change).classes.classFor other =
      if other = package then change (t.classes.classFor package) else t.classes.classFor other := by
  have own : (change ((t.hosting package).classes.classFor package)).name.package = package := by
    rw [keepsName, Classes.package_classFor]
  rw [modifyClass, Classes.classFor_put (by rw [own, keepsName]), own, classFor_hosting,
    classFor_hosting]

theorem mainPackage_modifyClass :
    (t.modifyClass package change).classes.mainPackage = t.classes.mainPackage := by
  have own : (change ((t.hosting package).classes.classFor package)).name.package = package := by
    rw [keepsName, Classes.package_classFor]
  rw [modifyClass, Classes.mainPackage_put (by rw [own, keepsName]), mainPackage_hosting]

theorem grows_modifyClass (keeps : ∀ c, ∀ m ∈ c.methods, m ∈ (change c).methods) :
    Grows t (t.modifyClass package change) := by
  refine ⟨⟨.empty, ?_⟩, mainPackage_modifyClass t package change keepsName, fun other => ?_, ?_⟩
  · rw [modifyClass, Code.append_empty, code_hosting]
  · rw [classFor_modifyClass t package change keepsName]
    split
    · next same => rw [keepsName, same]
    · rfl
  · intro other m member
    rw [classFor_modifyClass t package change keepsName]
    split
    · next same => exact keeps _ m (same ▸ member)
    · exact member

end

theorem grows_reserve (t : Target) (package name : String) :
    Grows t (t.reserve package name).2 :=
  grows_modifyClass t package (fun c => (c.reserve name).2) (fun _ => rfl) fun _ _ member => member

theorem grows_addMethod (t : Target) (package : String) (m : Method) :
    Grows t (t.modifyClass package (·.addMethod m)) :=
  grows_modifyClass t package _ (fun _ => rfl) fun _ _ member => List.mem_append_left _ member

/-- A method that is added to the class of a package is there. -/
theorem mem_addMethod (t : Target) (package : String) (m : Method) :
    m ∈ ((t.modifyClass package (·.addMethod m)).classes.classFor package).methods := by
  rw [classFor_modifyClass t package (·.addMethod m) fun _ => rfl]
  simp [OutputClass.addMethod]

/-- Code for a bean: in the main routine, or in a routine of its own, in the class of a package, that
the main routine calls. -/
inductive Placed (t : Target) (code : Code) : Option String → Prop
  | inMain (before after : Code) (inside : t.code = before ++ code ++ after) : Placed t code none
  | inPackage {package : String} (routine : String) (before after : Code)
    (other : package ≠ t.classes.mainPackage)
    (present : contextRoutine routine code ∈ (t.classes.classFor package).methods)
    (called : t.code =
      before ++ (routineCall (t.classes.classFor package).name routine).code ++ after) :
    Placed t code (some package)

theorem Placed.mono {t after : Target} (grows : Grows t after) {code : Code}
    {package : Option String} (placed : Placed t code package) : Placed after code package := by
  obtain ⟨added, appended⟩ := grows.code
  cases placed with
  | inMain before rest inside =>
    exact .inMain before (rest ++ added) (by rw [appended, inside, Code.append_assoc])
  | @inPackage package routine before rest other present called =>
    refine .inPackage routine before (rest ++ added) ?_ (grows.methods _ _ present) ?_
    · rw [grows.mainPackage]
      exact other
    · rw [appended, called, grows.names, Code.append_assoc]

/-- The beans whose registration was reported, with the package of the routine where there is one. -/
def registrations (t : Target) : List (String × Option String) :=
  t.notices.filterMap Notice.registration?

theorem registrations_report (t : Target) (notices : List Notice) :
    (t.report notices).registrations = t.registrations ++ notices.filterMap Notice.registration? :=
  List.filterMap_append

theorem registrations_append (t : Target) (code : Code) :
    (t.append code).registrations = t.registrations := rfl

theorem registrations_modifyClass (t : Target) (package : String)
    (change : OutputClass → OutputClass) :
    (t.modifyClass package change).registrations = t.registrations := by
  show (t.hosting package).registrations = t.registrations
  rw [hosting]
  split
  · rfl
  · rw [registrations_report]
    exact List.append_nil _

theorem registrations_reserve (t : Target) (package name : String) :
    (t.reserve package name).2.registrations = t.registrations :=
  registrations_modifyClass t package fun c => (c.reserve name).2

end Target
end Output
end Prewire
