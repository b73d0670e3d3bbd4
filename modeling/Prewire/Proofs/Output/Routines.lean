import Mathlib.Data.List.Nodup
import Prewire.Proofs.Output.FreshName
import Prewire.Proofs.Output.Growth

/-! The routines of the classes of a pass. A routine is added under a free name to the class of a
package, which keeps the names in a class distinct, one class at most for a package, and all routines
that are there already. -/
namespace Prewire.Output

open Java

namespace OutputClass

/-- The names in a class do not clash, neither with each other nor with the names that wait for their
routines. -/
structure Tidy (awaited : List String) (c : OutputClass) : Prop where
  distinct : (awaited ++ c.methods.map Method.name).Nodup
  taken : awaited ++ c.methods.map Method.name ⊆ c.reserved

/-- A routine and no other of its name is in the class. -/
def Holds (c : OutputClass) (m : Method) : Prop := ∀ other, other ∈ c.methods ∧ other.name = m.name ↔ other = m

def addFresh (c : OutputClass) (name : String) (routine : String → Method) : OutputClass :=
  (c.reserve name).2.addMethod (routine (c.reserve name).1)

def routines (c : OutputClass) : List (ClassName × Method) := c.methods.map (c.name, ·)

variable {c : OutputClass} {awaited : List String}

theorem Tidy.names (tidy : c.Tidy awaited) : (c.methods.map Method.name).Nodup :=
  (List.nodup_append.mp tidy.distinct).2.1

theorem Tidy.holds (tidy : c.Tidy awaited) {m : Method} (member : m ∈ c.methods) : c.Holds m := by
  intro other
  constructor
  · rintro ⟨listed, same⟩
    exact List.inj_on_of_nodup_map tidy.names listed member same
  · rintro rfl
    exact ⟨member, rfl⟩

theorem Tidy.addFresh (tidy : c.Tidy awaited) (name : String) {routine : String → Method}
    (named : ∀ fresh, (routine fresh).name = fresh) : (c.addFresh name routine).Tidy awaited := by
  have free := freshName_not_mem c.reserved name
  have names : awaited ++ (c.addFresh name routine).methods.map Method.name =
      (awaited ++ c.methods.map Method.name) ++ [freshName c.reserved name] := by
    simp [OutputClass.addFresh, addMethod, reserve, named]
  constructor
  · rw [names, List.nodup_append]
    refine ⟨tidy.distinct, List.nodup_singleton _, fun present member fresh => ?_⟩
    rintro last rfl
    obtain rfl := List.mem_singleton.mp last
    exact free (tidy.taken member)
  · rw [names]
    intro present member
    rcases List.mem_append.mp member with earlier | last
    · exact List.mem_cons_of_mem _ (List.mem_cons_of_mem _ (tidy.taken earlier))
    · obtain rfl := List.mem_singleton.mp last
      exact List.mem_cons_of_mem _ List.mem_cons_self

theorem routines_addFresh (c : OutputClass) (name : String) (routine : String → Method) :
    (c.addFresh name routine).routines =
      c.routines ++ [(c.name, routine (freshName c.reserved name))] := List.map_append

end OutputClass

namespace Classes

/-- The classes of a pass: one for a package, those beside the main class in the order of their
packages, with nothing but routines and at least one of these. The names that are kept for routines
to come are in the main class. -/
structure Tidy (awaited : List String) (cs : Classes) : Prop where
  main : cs.main.Tidy awaited
  helpers : ∀ c ∈ cs.helpers, c.Tidy []
  used : ∀ c ∈ cs.helpers, c.methods ≠ []
  bare : ∀ c ∈ cs.helpers, c.interface = none ∧ c.staticBlock = .empty
  ordered : cs.helpers.Pairwise fun a b => a.name.package < b.name.package
  apart : ∀ c ∈ cs.helpers, c.name.package ≠ cs.mainPackage

def routines (cs : Classes) : List (ClassName × Method) := cs.all.flatMap OutputClass.routines

def addRoutine (cs : Classes) (package name : String) (routine : String → Method) : Classes :=
  cs.put ((cs.classFor package).addFresh name routine)

def freshRoutine (cs : Classes) (package name : String) : String :=
  OutputClass.freshName (cs.classFor package).reserved name

variable {cs : Classes} {awaited : List String}

theorem mem_routines {owner : ClassName} {m : Method} :
    (owner, m) ∈ cs.routines ↔ ∃ c ∈ cs.all, c.name = owner ∧ m ∈ c.methods := by
  simp only [routines, OutputClass.routines, List.mem_flatMap, List.mem_map, Prod.mk.injEq]
  constructor
  · rintro ⟨c, listed, m, member, rfl, rfl⟩
    exact ⟨c, listed, rfl, member⟩
  · rintro ⟨c, listed, rfl, member⟩
    exact ⟨c, listed, m, member, rfl, rfl⟩

theorem Tidy.packages (tidy : cs.Tidy awaited) : (cs.all.map (·.name.package)).Nodup := by
  refine List.nodup_cons.mpr ⟨fun member => ?_, ?_⟩
  · obtain ⟨c, listed, same⟩ := List.mem_map.mp member
    exact tidy.apart c listed same
  · refine List.pairwise_map.mpr (tidy.ordered.imp fun before same => ?_)
    exact String.lt_irrefl _ (same ▸ before)

theorem Tidy.of_mem (tidy : cs.Tidy awaited) {c : OutputClass} (listed : c ∈ cs.all) :
    ∃ awaited, c.Tidy awaited := by
  rcases List.mem_cons.mp listed with rfl | helper
  · exact ⟨awaited, tidy.main⟩
  · exact ⟨[], tidy.helpers c helper⟩

/-- A routine is known by its name and that of its class. -/
theorem Tidy.names (tidy : cs.Tidy awaited) :
    (cs.routines.map fun r => (r.1, r.2.name)).Nodup := by
  have named : (cs.routines.map fun r => (r.1, r.2.name)) =
      cs.all.flatMap fun c => (c.methods.map Method.name).map (c.name, ·) := by
    simp [routines, OutputClass.routines, List.map_flatMap, Function.comp_def]
  rw [named, List.nodup_flatMap]
  constructor
  · intro c listed
    obtain ⟨_, tidy⟩ := tidy.of_mem listed
    exact tidy.names.map fun _ _ same => (Prod.mk.inj same).2
  · refine (List.pairwise_map.mp tidy.packages).imp fun apart => ?_
    rintro ⟨owner, name⟩ first second
    obtain ⟨_, -, first⟩ := List.mem_map.mp first
    obtain ⟨_, -, second⟩ := List.mem_map.mp second
    exact apart (congrArg (·.1.package) (first.trans second.symm))

theorem mem_putHelper {c other : OutputClass} {helpers : List OutputClass}
    (member : other ∈ putHelper c helpers) : other = c ∨ other ∈ helpers := by
  induction helpers with
  | nil => exact .inl (List.mem_singleton.mp member)
  | cons h rest ih =>
    rw [putHelper] at member
    split at member
    · exact (List.mem_cons.mp member).imp_right (List.mem_cons_of_mem _)
    · split at member
      · exact List.mem_cons.mp member
      · rcases List.mem_cons.mp member with rfl | later
        · exact .inr List.mem_cons_self
        · exact (ih later).imp_right (List.mem_cons_of_mem _)

theorem pairwise_putHelper (c : OutputClass) {helpers : List OutputClass}
    (ordered : helpers.Pairwise fun a b => a.name.package < b.name.package) :
    (putHelper c helpers).Pairwise fun a b => a.name.package < b.name.package := by
  induction helpers with
  | nil => exact List.pairwise_singleton _ c
  | cons h rest ih =>
    obtain ⟨first, later⟩ := List.pairwise_cons.mp ordered
    rw [putHelper]
    split
    · next same => exact List.pairwise_cons.mpr ⟨fun other member => same ▸ first other member, later⟩
    · next different =>
      split
      · next before =>
        refine List.pairwise_cons.mpr ⟨fun other member => ?_, ordered⟩
        rcases List.mem_cons.mp member with rfl | member
        · exact before
        · exact String.lt_trans before (first other member)
      · next behind =>
        refine List.pairwise_cons.mpr ⟨fun other member => ?_, ih later⟩
        rcases mem_putHelper member with rfl | member
        · exact Std.lt_of_le_of_ne behind (Ne.symm different)
        · exact first other member

theorem putHelper_putHelper {c d : OutputClass} (same : c.name.package = d.name.package)
    (helpers : List OutputClass) : putHelper d (putHelper c helpers) = putHelper d helpers := by
  induction helpers with
  | nil => exact if_pos same.symm
  | cons h rest ih =>
    rw [putHelper, putHelper, ← same]
    split
    · exact if_pos same.symm
    · next different =>
      split
      · exact if_pos same.symm
      · next behind => rw [putHelper, ← same, if_neg different, if_neg behind, ih]

/-- Of the classes that are put in one place the last one stays. -/
theorem put_put (cs : Classes) {c d : OutputClass} (same : c.name.package = d.name.package) :
    (cs.put c).put d = cs.put d := by
  by_cases own : c.name.package = cs.mainPackage
  · have first : cs.put c = { cs with main := c } := if_pos own
    have second : cs.put d = { cs with main := d } := if_pos (same ▸ own)
    rw [first, second]
    exact if_pos same.symm
  · have first : cs.put c = { cs with helpers := putHelper c cs.helpers } := if_neg own
    have second : cs.put d = { cs with helpers := putHelper d cs.helpers } := if_neg (same ▸ own)
    rw [first, second, ← putHelper_putHelper same]
    exact if_neg (same ▸ own)

/-- A class that is put in its place brings the routines that it has more than the one before. -/
theorem perm_putHelper (c : OutputClass) {helpers : List OutputClass}
    (ordered : helpers.Pairwise fun a b => a.name.package < b.name.package)
    {added : List (ClassName × Method)}
    (grown : c.routines =
      ((helpers.find? (·.name.package = c.name.package)).elim [] OutputClass.routines) ++ added) :
    ((putHelper c helpers).flatMap OutputClass.routines).Perm
      (helpers.flatMap OutputClass.routines ++ added) := by
  induction helpers with
  | nil => simpa [putHelper] using grown ▸ List.Perm.refl _
  | cons h rest ih =>
    obtain ⟨first, later⟩ := List.pairwise_cons.mp ordered
    rw [putHelper]
    split
    · next same =>
      have here : c.routines = h.routines ++ added := by simpa [List.find?_cons, same] using grown
      rw [List.flatMap_cons, List.flatMap_cons, here, List.append_assoc, List.append_assoc]
      exact List.perm_append_comm.append_left _
    · next different =>
      have elsewhere : h.name.package ≠ c.name.package := Ne.symm different
      have grown : c.routines =
          ((rest.find? (·.name.package = c.name.package)).elim [] OutputClass.routines) ++ added := by
        simpa [List.find?_cons, elsewhere] using grown
      split
      · next before =>
        have absent : rest.find? (·.name.package = c.name.package) = none := by
          refine List.find?_eq_none.mpr fun other member => ?_
          have behind := String.lt_trans before (first other member)
          simpa using fun same => String.lt_irrefl _ (same ▸ behind)
        rw [absent] at grown
        rw [List.flatMap_cons, grown]
        exact List.perm_append_comm
      · rw [List.flatMap_cons, List.flatMap_cons, List.append_assoc]
        exact (ih later grown).append_left _

section
variable (tidy : cs.Tidy awaited) (package name : String) (routine : String → Method)

theorem name_addFresh (cs : Classes) : ((cs.classFor package).addFresh name routine).name.package = package :=
  package_classFor package

/-- The main class keeps its name and what is not a routine. -/
theorem main_addRoutine (cs : Classes) : (cs.addRoutine package name routine).main.name = cs.main.name ∧
    (cs.addRoutine package name routine).main.interface = cs.main.interface ∧
    (cs.addRoutine package name routine).main.staticBlock = cs.main.staticBlock := by
  rw [addRoutine, put]
  split
  · next own =>
    rw [name_addFresh] at own
    rw [own, classFor_main]
    exact ⟨rfl, rfl, rfl⟩
  · exact ⟨rfl, rfl, rfl⟩

include tidy

theorem tidy_classFor (other : package ≠ cs.mainPackage) :
    (cs.classFor package).Tidy [] ∧ (cs.classFor package).interface = none ∧
      (cs.classFor package).staticBlock = .empty := by
  rw [classFor_of_other cs other, helper?]
  cases found : cs.helpers.find? (·.name.package = package) with
  | none => exact ⟨⟨List.nodup_nil, List.nil_subset _⟩, rfl, rfl⟩
  | some c =>
    have listed := List.mem_of_find?_eq_some found
    exact ⟨tidy.helpers c listed, tidy.bare c listed⟩

theorem Tidy.addRoutine (named : ∀ fresh, (routine fresh).name = fresh) :
    (cs.addRoutine package name routine).Tidy awaited := by
  have own := name_addFresh package name routine cs
  rw [Classes.addRoutine, put]
  split
  · next main =>
    rw [own] at main
    have grown := tidy.main.addFresh name named
    rw [main, classFor_main]
    exact { tidy with main := grown }
  · next other =>
    rw [own] at other
    obtain ⟨tidyClass, bare⟩ := tidy_classFor tidy package other
    have grown := tidyClass.addFresh name named
    have each {P : OutputClass → Prop} (new : P ((cs.classFor package).addFresh name routine))
        (old : ∀ c ∈ cs.helpers, P c) :
        ∀ c ∈ putHelper ((cs.classFor package).addFresh name routine) cs.helpers, P c := by
      intro c member
      rcases mem_putHelper member with rfl | member
      · exact new
      · exact old c member
    refine ⟨tidy.main, each grown tidy.helpers, each ?_ tidy.used, each bare tidy.bare,
      pairwise_putHelper _ tidy.ordered, each ?_ tidy.apart⟩
    · simp [OutputClass.addFresh, OutputClass.addMethod]
    · rw [own]
      exact other

/-- A routine that is added comes to those that are there. -/
theorem perm_addRoutine : (cs.addRoutine package name routine).routines.Perm
    (cs.routines ++ [((cs.classFor package).name, routine (cs.freshRoutine package name))]) := by
  have own := name_addFresh package name routine cs
  have grown := OutputClass.routines_addFresh (cs.classFor package) name routine
  rw [addRoutine, put]
  split
  · next main =>
    rw [own] at main
    rw [main, classFor_main] at grown ⊢
    simp only [routines, all, List.flatMap_cons, grown, List.append_assoc, freshRoutine,
      classFor_main]
    exact List.perm_append_comm.append_left _
  · next other =>
    rw [own] at other
    simp only [routines, all, List.flatMap_cons, List.append_assoc]
    refine List.Perm.append_left _ (perm_putHelper _ tidy.ordered ?_)
    rw [grown, own]
    congr 1
    rw [classFor_of_other cs other, helper?]
    cases cs.helpers.find? (·.name.package = package) <;> rfl

end
end Classes

namespace Target

theorem code_append (t : Target) (code : Code) : (t.append code).code = t.code ++ code := rfl

theorem classes_append (t : Target) (code : Code) : (t.append code).classes = t.classes := rfl

theorem reflection_append (t : Target) (code : Code) : (t.append code).reflection = t.reflection := rfl

theorem classes_modifyClass (t : Target) (package : String) (change : OutputClass → OutputClass)
    (keepsName : ∀ c, (change c).name = c.name) :
    (t.modifyClass package change).classes =
      t.classes.put (change (t.classes.classFor package)) := by
  show (t.hosting package).classes.put (change ((t.hosting package).classes.classFor package)) = _
  rw [classFor_hosting, hosting]
  split
  · rfl
  · exact t.classes.put_put (by rw [keepsName])

/-- Changing a class leaves code and reflection alone. -/
theorem kept_modifyClass (t : Target) (package : String) (change : OutputClass → OutputClass) :
    (t.modifyClass package change).code = t.code ∧
      (t.modifyClass package change).reflection = t.reflection := by
  show (t.hosting package).code = t.code ∧ (t.hosting package).reflection = t.reflection
  rw [hosting]
  split <;> exact ⟨rfl, rfl⟩

/-- The step with which routines are written: a name is taken, and then a routine of that name is
added. -/
def addRoutine (t : Target) (package name : String) (routine : String → Method) : Target :=
  (t.reserve package name).2.modifyClass package (·.addMethod (routine (t.reserve package name).1))

theorem code_addRoutine (t : Target) (package name : String) (routine : String → Method) :
    (t.addRoutine package name routine).code = t.code :=
  (kept_modifyClass ..).1.trans (kept_modifyClass ..).1

theorem reflection_addRoutine (t : Target) (package name : String) (routine : String → Method) :
    (t.addRoutine package name routine).reflection = t.reflection :=
  (kept_modifyClass ..).2.trans (kept_modifyClass ..).2

theorem classes_addRoutine (t : Target) (package name : String) (routine : String → Method) :
    (t.addRoutine package name routine).classes = t.classes.addRoutine package name routine := by
  have reserved : (t.reserve package name).2.classes =
      t.classes.put ((t.classes.classFor package).reserve name).2 :=
    classes_modifyClass t package (fun c => (c.reserve name).2) fun _ => rfl
  have own : ((t.classes.classFor package).reserve name).2.name.package = package :=
    Classes.package_classFor package
  rw [addRoutine, classes_modifyClass _ package (·.addMethod _) fun _ => rfl, reserved,
    Classes.classFor_put (by rw [own]; rfl), own, if_pos rfl]
  exact t.classes.put_put rfl

/-- The class of the routine is the one that the package had, or a new one of the same name. -/
theorem name_classFor_addRoutine (t : Target) (package name : String) (routine : String → Method) :
    ((t.addRoutine package name routine).classes.classFor package).name =
      (t.classes.classFor package).name :=
  ((grows_reserve t package name).trans (grows_addMethod _ package _)).names package

end Target
end Prewire.Output
