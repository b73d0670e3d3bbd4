import Prewire.Proofs.Types.Corresponding

/-! A method added to a declaration. No supertype changes, and wherever the type stands in a hierarchy
the method stands among the others. It hides methods of its signature, or one of them hides it. -/
namespace Prewire.Types

open Java

/-- Lists of which the second has another method, at any places, in addition to the same ones. -/
inductive Interspersed (m : Executable) : (methods more : List Executable) → Prop
  | nil : Interspersed m [] []
  | keep {methods more : List Executable} (other : Executable)
    (rest : Interspersed m methods more) : Interspersed m (other :: methods) (other :: more)
  | added {methods more : List Executable} (rest : Interspersed m methods more) :
    Interspersed m methods (m :: more)

namespace Interspersed

variable {m : Executable}

theorem refl (methods : List Executable) : Interspersed m methods methods := by
  induction methods with
  | nil => exact .nil
  | cons other _ ih => exact .keep other ih

theorem append {methods more others further : List Executable} (first : Interspersed m methods more)
    (second : Interspersed m others further) :
    Interspersed m (methods ++ others) (more ++ further) := by
  induction first with
  | nil => exact second
  | keep other _ ih => exact .keep other ih
  | added _ ih => exact .added ih

theorem between (before after : List Executable) :
    Interspersed m (before ++ after) (before ++ m :: after) :=
  (refl before).append (.added (refl after))

end Interspersed

/-- The same declaration, with another method if it is that of a certain type. -/
inductive TypeDeclaration.Gains (type : ClassName) (m : Executable) :
    (a b : TypeDeclaration) → Prop
  | other {d : TypeDeclaration} (apart : d.name ≠ type) : Gains type m d d
  | gained {d : TypeDeclaration} (before after : List Executable) (named : d.name = type)
    (methods : d.methods = before ++ after) :
    Gains type m d { d with methods := before ++ m :: after }

namespace TypeDeclaration.Gains

variable {type : ClassName} {m : Executable} {a b : TypeDeclaration}

theorem sameSupertypes (gains : Gains type m a b) : a.SameSupertypes b := by
  cases gains <;> exact ⟨rfl, rfl, rfl, rfl⟩

theorem interspersed (gains : Gains type m a b) : Interspersed m a.methods b.methods := by
  cases gains with
  | other apart => exact .refl _
  | gained before after named methods => exact methods ▸ .between before after

end TypeDeclaration.Gains

namespace Registry

theorem get?_register (r : Registry) (d : TypeDeclaration) (name : ClassName) :
    (r.register d).get? name = if d.name = name then some d else r.get? name := by
  simp only [get?, register, List.find?_cons, List.find?_filter]
  by_cases here : d.name = name
  · simp [here]
  · rw [if_neg here]
    simp only [here, decide_false]
    congr 1
    funext e
    by_cases named : e.name = name <;> simp [named, Ne.symm here]

section
variable {r s : Registry} {type : ClassName} {m : Executable}

/-- To register the declaration anew with the method. -/
theorem gains_register {d : TypeDeclaration} (before after : List Executable)
    (known : r.get? type = some d) (methods : d.methods = before ++ after) :
    r.Corresponds (TypeDeclaration.Gains type m)
      (r.register { d with methods := before ++ m :: after }) := by
  have named : d.name = type := name_of_get? known
  intro name
  rw [get?_register]
  by_cases here : type = name
  · subst here
    rw [known, if_pos named]
    exact .some (.gained before after named methods)
  · rw [if_neg (named ▸ here)]
    cases found : r.get? name with
    | none => exact .none
    | some e => exact .some (.other fun same => here (same.symm.trans (name_of_get? found)))

variable (gains : r.Corresponds (TypeDeclaration.Gains type m) s)
include gains

theorem Corresponds.gains_view?_eq (t : JavaType) (name : ClassName) :
    r.view? t name = s.view? t name :=
  (gains.mono fun _ _ found => found.sameSupertypes).view?_eq t name

theorem Corresponds.interspersed (name : ClassName) :
    Interspersed m ((r.hierarchy name).flatMap TypeDeclaration.methods)
      ((s.hierarchy name).flatMap TypeDeclaration.methods) := by
  have along := gains.hierarchy (fun _ _ found => found.sameSupertypes) name
  generalize r.hierarchy name = ds at along ⊢
  generalize s.hierarchy name = es at along ⊢
  induction along with
  | nil => exact .nil
  | cons first _ ih =>
    simp only [List.flatMap_cons]
    exact first.interspersed.append ih

end

def hides (m : Executable) (methods : List Executable) (c : Executable) : Bool :=
  decide (m ∈ firstOfSignature methods) && m.sameSignature c

section
variable {m other c : Executable} {more : List Executable}

theorem hides_self : hides m (m :: more) c = m.sameSignature c := by
  simp [hides, firstOfSignature]

theorem hides_first (differ : m ≠ other) : hides m (other :: more) other = false := by
  cases same : m.sameSignature other with
  | false => simp [hides, same]
  | true =>
    have : other.sameSignature m = true := sameSignature_comm m other ▸ same
    simp [hides, firstOfSignature, differ, this]

theorem hides_cons (apart : other.sameSignature c = false) :
    hides m (other :: more) c = hides m more c := by
  cases same : m.sameSignature c with
  | false => simp [hides, same]
  | true =>
    have apart : other.sameSignature m = false := by
      rw [sameSignature_comm, sameSignature_congr same, sameSignature_comm, apart]
    have differ : m ≠ other := by
      rintro rfl
      simp [sameSignature_refl] at apart
    simp [hides, firstOfSignature, differ, apart]

/-- Among methods that the added one is not one of, those are gone that it hides. -/
theorem filter_firstOfSignature {methods : List Executable}
    (interspersed : Interspersed m methods more) (p : Executable → Bool) (dropped : p m = false) :
    (firstOfSignature more).filter p =
      ((firstOfSignature methods).filter p).filter (!hides m more ·) := by
  induction interspersed with
  | nil => rfl
  | @keep methods more other _ ih =>
    have behind : ((firstOfSignature more).filter (!other.sameSignature ·)).filter p =
        (((firstOfSignature methods).filter (!other.sameSignature ·)).filter p).filter
          (!hides m (other :: more) ·) := by
      rw [List.filter_comm, ih]
      simp only [List.filter_filter]
      apply List.filter_congr
      intro c _
      cases apart : other.sameSignature c with
      | true => simp
      | false => simp [hides_cons apart, Bool.and_comm]
    cases kept : p other with
    | false => simpa [firstOfSignature, kept] using behind
    | true =>
      have differ : m ≠ other := by
        rintro rfl
        simp [dropped] at kept
      simpa [firstOfSignature, kept, hides_first differ] using behind
  | @added methods more _ ih =>
    simp only [firstOfSignature, List.filter_cons, dropped, Bool.false_eq_true, if_false, hides_self]
    rw [List.filter_comm, ih]
    simp only [List.filter_filter]
    apply List.filter_congr
    intro c _
    cases same : m.sameSignature c with
    | true => simp
    | false => simp [hides, same]

end
end Registry
end Prewire.Types
