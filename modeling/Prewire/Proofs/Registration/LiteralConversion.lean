import Prewire.Proofs.Beans.Values
import Prewire.Proofs.Registration.PassedTypes
import Prewire.Registration.Creation

/-! What the source form of a literal converts to: to its own type and all that this widens to, where the
form keeps the type, and to the form of a number that is asked for. -/
namespace Prewire.Beans.BeanValue

open Java

def isCollection : BeanValue → Bool
  | .list _ | .set _ => true
  | _ => false

def isNarrow : BeanValue → Bool
  | .byte _ | .short _ => true
  | _ => false

/-- The types of a value; an empty collection has any elements. -/
def HasType : BeanValue → JavaType → Prop
  | .list [], t => ∃ element, element.isPrimitive = false ∧ t = .classType Known.list [element]
  | .set [], t => ∃ element, element.isPrimitive = false ∧ t = .classType Known.set [element]
  | v, t => v.literalType? = some t

def shareType : List (Option JavaType) → Bool
  | [] => true
  | none :: _ => false
  | some first :: rest => rest.all (· = some first)

end Prewire.Beans.BeanValue

namespace Prewire.Registration

open Java Types Beans BeanValue Plan Registry

mutual
/-- Whether the source form of a literal for a type keeps the type of the value. That of a collection
also needs a type for its elements. -/
def keepsType : BeanValue → Option JavaType → Bool
  | .byte value, type => wholeType value.toInt type .byte = .byte
  | .short value, type => wholeType value.toInt type .short = .short
  | .int value, type => wholeType value.toInt type .int = .int
  | .list elements, type | .set elements, type =>
    shareType (literalTypes elements) && keepTypes elements (type.bind (·.arguments.head?))
  | _, _ => true
def keepTypes : List BeanValue → Option JavaType → Bool
  | [], _ => true
  | v :: vs, type => keepsType v type && keepTypes vs type
end

section
variable {r : Registry} {value : BeanValue} {declared : Option JavaType} {t target : JavaType}

/-- Values that are no collections convert to all that their type widens to. -/
theorem converts_of_widens (classes : r.HasClassSupertypes) (single : value.isCollection = false)
    (literal : value.isLiteral) (keeps : keepsType value declared) (typed : value.literalType? = some t)
    (widens : r.Widens t target) : r.Converts (formType value declared) target := by
  cases value with
  | null | reference | inner | opaqueInstance => simp [literalType?, isLiteral] at typed literal
  | list | set => cases single
  | byte v | short v | int v =>
    obtain rfl := by simpa [literalType?] using typed
    simp only [keepsType, decide_eq_true_eq] at keeps
    rw [formType, keeps]
    exact .boxing widens
  | boolean | long | float | double | char =>
    obtain rfl := by simpa [literalType?] using typed
    exact .boxing widens
  | string | classLiteral =>
    obtain rfl := by simpa [literalType?] using typed
    exact .reference widens
  | enumConstant type constant =>
    obtain rfl := by simpa [literalType?] using typed
    rw [formType, constantType]
    split
    · next known =>
      rw [Bool.and_eq_true, decide_eq_true_eq, decide_eq_true_eq] at known
      exact .boxing (known.2 ▸ widens)
    · split
      · next known =>
        rw [Bool.and_eq_true, decide_eq_true_eq, decide_eq_true_eq] at known
        exact .boxing (known.2 ▸ widens)
      · exact .reference widens
  | array component =>
    obtain rfl := by simpa [literalType?] using typed
    exact .reference (widens.of_erasure classes)

theorem exists_collectionType (c : ClassName) (ts : List (Option JavaType)) :
    ∃ arguments, collectionType c ts = .classType c arguments := by
  rw [collectionType.eq_def]
  split
  · split <;> exact ⟨_, rfl⟩
  · exact ⟨[], rfl⟩

theorem isPrimitive_collectionType (c : ClassName) (ts : List (Option JavaType)) :
    (collectionType c ts).isPrimitive = false := by
  obtain ⟨arguments, same⟩ := exists_collectionType c ts
  rw [same]
  rfl

/-- The type of a literal is a class or an array. -/
theorem isReference_of_literalType? (literal : value.isLiteral) (typed : value.literalType? = some t) :
    t.isPrimitive = false ∧ t.isVariable = false := by
  cases value with
  | null | reference | inner | opaqueInstance => simp [literalType?, isLiteral] at typed literal
  | list | set =>
    obtain rfl := Option.some.inj typed
    obtain ⟨arguments, same⟩ := exists_collectionType _ _
    rw [same]
    exact ⟨rfl, rfl⟩
  | _ =>
    obtain rfl := by simpa [literalType?] using typed
    exact ⟨rfl, rfl⟩

theorem literalTypes_eq_map (values : List BeanValue) : literalTypes values = values.map literalType? := by
  induction values with
  | nil => rfl
  | cons v vs ih => rw [literalTypes, ih, List.map_cons]

/-- Elements with a type in common make a collection of that type. -/
theorem collectionType_eq (c : ClassName) {v : BeanValue} {vs : List BeanValue}
    (shared : shareType (literalTypes (v :: vs))) :
    ∃ first, collectionType c (literalTypes (v :: vs)) = .classType c [first] ∧
      ∀ e ∈ v :: vs, e.literalType? = some first := by
  rw [literalTypes] at shared ⊢
  cases known : v.literalType? with
  | none => simp [known, shareType] at shared
  | some first =>
    rw [known, shareType] at shared
    refine ⟨first, by rw [collectionType, if_pos shared], fun e listed => ?_⟩
    rcases List.mem_cons.mp listed with rfl | later
    · exact known
    · rw [literalTypes_eq_map, List.all_map] at shared
      simpa using List.all_eq_true.mp shared e later

/-- A collection whose elements share a type has elements of that type. -/
theorem converts_collection {c : ClassName} {v : BeanValue} {vs : List BeanValue}
    {types : List PassedType} (literal : allLiteral (v :: vs)) (shared : shareType (literalTypes (v :: vs)))
    (fit : ∀ first, (∀ e ∈ v :: vs, e.literalType? = some first) → ∀ type ∈ types, r.Converts type first)
    (widens : r.Widens (collectionType c (literalTypes (v :: vs))) target) :
    r.Converts (.collection c types) target := by
  obtain ⟨first, same, known⟩ := collectionType_eq c shared
  have reference := isReference_of_literalType? (allLiteral_iff.mp literal v List.mem_cons_self)
    (known v List.mem_cons_self)
  exact .collection reference.1 (fit first known) (same ▸ widens)

mutual
/-- The source form of a literal that keeps its type converts to it. -/
theorem converts_own (classes : r.HasClassSupertypes) : ∀ {value : BeanValue} {declared : Option JavaType}
    {t : JavaType}, value.isLiteral → keepsType value declared → value.literalType? = some t →
      r.Converts (formType value declared) t
  | .list [], _, _, _, _, typed | .set [], _, _, _, _, typed => by
    obtain rfl := Option.some.inj typed
    have nothing (part) : ∀ type ∈ formTypes [] part, r.Converts type (.ofClass Known.object) := by
      simp [formTypes]
    exact .collection rfl (nothing _) (.supertype .refl (.inl rfl))
  | .list (v :: vs), _, _, literal, keeps, typed | .set (v :: vs), _, _, literal, keeps, typed => by
    obtain rfl := Option.some.inj typed
    rw [isLiteral] at literal
    rw [keepsType, Bool.and_eq_true] at keeps
    exact converts_collection literal keeps.1 (fun _ => converts_elements classes literal keeps.2)
      (.refl (isPrimitive_collectionType ..))
  | .null, _, _, literal, keeps, typed | .boolean _, _, _, literal, keeps, typed
  | .byte _, _, _, literal, keeps, typed | .short _, _, _, literal, keeps, typed
  | .int _, _, _, literal, keeps, typed | .long _, _, _, literal, keeps, typed
  | .float _, _, _, literal, keeps, typed | .double _, _, _, literal, keeps, typed
  | .char _, _, _, literal, keeps, typed | .string _, _, _, literal, keeps, typed
  | .enumConstant .., _, _, literal, keeps, typed | .classLiteral _, _, _, literal, keeps, typed
  | .array .., _, _, literal, keeps, typed | .reference _, _, _, literal, keeps, typed
  | .inner _, _, _, literal, keeps, typed | .opaqueInstance _, _, _, literal, keeps, typed =>
    converts_of_widens classes rfl literal keeps typed
      (.refl (isReference_of_literalType? literal typed).1)
theorem converts_elements (classes : r.HasClassSupertypes) : ∀ {values : List BeanValue}
    {declared : Option JavaType} {t : JavaType}, allLiteral values → keepTypes values declared →
      (∀ e ∈ values, e.literalType? = some t) →
        ∀ type ∈ formTypes values declared, r.Converts type t
  | [], _, _, _, _, _ => by simp [formTypes]
  | v :: vs, declared, t, literal, keeps, typed => by
    rw [allLiteral, Bool.and_eq_true] at literal
    rw [keepTypes, Bool.and_eq_true] at keeps
    rw [formTypes]
    refine List.forall_mem_cons.mpr ⟨?_, ?_⟩
    · exact converts_own classes literal.1 keeps.1 (typed v List.mem_cons_self)
    · exact converts_elements classes literal.2 keeps.2 fun e listed =>
        typed e (List.mem_cons_of_mem _ listed)
end

/-- A literal that keeps its type converts to all that a type of it widens to. -/
theorem converts_of_hasType (classes : r.HasClassSupertypes) (literal : value.isLiteral)
    (keeps : keepsType value declared) (typed : value.HasType t) (widens : r.Widens t target) :
    r.Converts (formType value declared) target := by
  match value, typed with
  | .list [], ⟨element, known, same⟩ | .set [], ⟨element, known, same⟩ =>
    exact .collection known (by simp [formTypes]) (same ▸ widens)
  | .list (v :: vs), typed | .set (v :: vs), typed =>
    obtain rfl := Option.some.inj typed
    rw [isLiteral] at literal
    rw [keepsType, Bool.and_eq_true] at keeps
    exact converts_collection literal keeps.1 (fun _ => converts_elements classes literal keeps.2) widens
  | .null, typed | .boolean _, typed | .byte _, typed | .short _, typed | .int _, typed
  | .long _, typed | .float _, typed | .double _, typed | .char _, typed | .string _, typed
  | .enumConstant .., typed | .classLiteral _, typed | .array .., typed | .reference _, typed
  | .inner _, typed | .opaqueInstance _, typed =>
    exact converts_of_widens classes rfl literal keeps typed widens

mutual
/-- Every argument converts to `Object`. -/
theorem converts_object : ∀ (value : BeanValue) (declared : Option JavaType),
    r.Converts (formType value declared) (.ofClass Known.object)
  | .list elements, _ | .set elements, _ => by
    rw [formType]
    exact .collection rfl (converts_objects elements _) (.object rfl isNamed_object_self)
  | .null, _ | .reference _, _ | .inner _, _ | .opaqueInstance _, _ => .null rfl
  | .boolean _, _ | .byte _, _ | .short _, _ | .int _, _ | .long _, _ | .float _, _ | .double _, _
  | .char _, _ => .boxing (.object rfl isNamed_object_self)
  | .string _, _ | .classLiteral _, _ | .array .., _ =>
    .reference (.object rfl isNamed_object_self)
  | .enumConstant type constant, _ => by
    rw [formType, constantType]
    split
    · exact .boxing (.object rfl isNamed_object_self)
    · split
      · exact .boxing (.object rfl isNamed_object_self)
      · exact .reference (.object rfl isNamed_object_self)
theorem converts_objects : ∀ (values : List BeanValue) (declared : Option JavaType),
    ∀ type ∈ formTypes values declared, r.Converts type (.ofClass Known.object)
  | [], _ => by simp [formTypes]
  | v :: vs, declared => by
    rw [formTypes]
    exact List.forall_mem_cons.mpr ⟨converts_object v declared, converts_objects vs declared⟩
end

/-- A literal that keeps its type converts to a primitive type that it is assignable to. -/
theorem converts_primitive {q : Primitive} (literal : value.isLiteral)
    (keeps : keepsType value declared) (typed : value.literalType? = some t)
    (assignable : r.isAssignable (.primitive q) t) :
    r.Converts (formType value declared) (.primitive q) := by
  obtain ⟨name, arguments, p, rfl, wraps, wider⟩ := isAssignable_primitive assignable
    (isReference_of_literalType? literal typed).1 (isReference_of_literalType? literal typed).2
  have boxed {own : Primitive} (same : JavaType.ofClass own.boxed = .classType name arguments) :
      own.widensTo q := by
    obtain ⟨rfl, -⟩ := JavaType.classType.inj same
    exact Option.some.inj ((Primitive.unboxed?_boxed own).symm.trans wraps) ▸ wider
  cases value with
  | null | reference | inner | opaqueInstance => simp [literalType?, isLiteral] at typed literal
  | byte v | short v | int v =>
    simp only [keepsType, decide_eq_true_eq] at keeps
    rw [formType, keeps]
    exact .widening (boxed (Option.some.inj typed))
  | boolean | long | float | double | char => exact .widening (boxed (Option.some.inj typed))
  | string | classLiteral =>
    rw [formType, Option.some.inj typed]
    exact .unboxing wraps wider
  | array => cases Option.some.inj typed
  | enumConstant type constant =>
    have same := Option.some.inj typed
    rw [formType, constantType]
    split
    · next known =>
      rw [Bool.and_eq_true, decide_eq_true_eq, decide_eq_true_eq] at known
      exact .widening (boxed (known.2 ▸ same))
    · split
      · next known =>
        rw [Bool.and_eq_true, decide_eq_true_eq, decide_eq_true_eq] at known
        exact .widening (boxed (known.2 ▸ same))
      · rw [same]
        exact .unboxing wraps wider
  | list elements =>
    obtain ⟨_, same⟩ := exists_collectionType Known.list (literalTypes elements)
    obtain ⟨rfl, -⟩ := JavaType.classType.inj (same.symm.trans (Option.some.inj typed))
    have none : Primitive.unboxed? Known.list = none := by decide
    cases none.symm.trans wraps
  | set elements =>
    obtain ⟨_, same⟩ := exists_collectionType Known.set (literalTypes elements)
    obtain ⟨rfl, -⟩ := JavaType.classType.inj (same.symm.trans (Option.some.inj typed))
    have none : Primitive.unboxed? Known.set = none := by decide
    cases none.symm.trans wraps

/-- A whole number is written in the form asked for, or as an `int`. -/
theorem type_wholeNumber (n : Int) (form : Primitive) :
    (wholeNumber n form).type = form ∨ (wholeNumber n form).type = .int := by
  cases form <;> simp only [wholeNumber] <;> first | (split <;> simp [NumberLiteral.type]) | simp [NumberLiteral.type]

theorem primitiveForm?_eq {p : Primitive} {t : JavaType} (form : t.primitiveForm? = some p) :
    t = .primitive p ∨ ∃ arguments, t = .classType p.boxed arguments := by
  cases t with
  | primitive q =>
    obtain rfl := Option.some.inj form
    exact .inl rfl
  | classType name arguments =>
    have wraps : p.boxed = name := by simpa using List.find?_some form
    exact .inr ⟨arguments, wraps ▸ rfl⟩
  | array | «variable» => cases form

/-- A number converts to the primitive type that it has, and to its wrapper class. -/
theorem converts_form {p : Primitive} (form : target.primitiveForm? = some p) :
    r.Converts (.of (.primitive p)) target := by
  rcases primitiveForm?_eq form with rfl | ⟨arguments, rfl⟩
  · exact .widening (by simp [Primitive.widensTo])
  · exact .boxing (.supertype .refl (.inr (.inl rfl)))

/-- A value converts to the parameter that asks for its form, keeps its type, or is narrower than the
`int` that it is written as. -/
theorem form_cases (value : BeanValue) (single : value.isCollection = false) (parameter : JavaType) :
    r.Converts (formType value (some parameter)) parameter ∨ keepsType value (some parameter) ∨
      (value.isNarrow ∧ formType value (some parameter) = .of (.primitive .int)) := by
  have whole (n : Int) (own : Primitive) :
      r.Converts (.of (.primitive (wholeType n (some parameter) own))) parameter ∨
        wholeType n (some parameter) own = own ∨ wholeType n (some parameter) own = .int := by
    rcases type_wholeNumber n ((parameter.primitiveForm?).getD own) with same | plain
    · cases form : parameter.primitiveForm? with
      | none =>
        rw [form] at same
        exact .inr (.inl (by simpa [wholeType, form] using same))
      | some p =>
        rw [form] at same
        have type : wholeType n (some parameter) own = p := by simpa [wholeType, form] using same
        exact .inl (type ▸ converts_form form)
    · exact .inr (.inr plain)
  cases value with
  | byte v =>
    rcases whole v.toInt .byte with converts | same | plain
    · exact .inl converts
    · exact .inr (.inl (by simpa [keepsType] using same))
    · exact .inr (.inr ⟨rfl, by rw [formType, plain]⟩)
  | short v =>
    rcases whole v.toInt .short with converts | same | plain
    · exact .inl converts
    · exact .inr (.inl (by simpa [keepsType] using same))
    · exact .inr (.inr ⟨rfl, by rw [formType, plain]⟩)
  | int v =>
    rcases whole v.toInt .int with converts | same | plain
    · exact .inl converts
    · exact .inr (.inl (by simpa [keepsType] using same))
    · exact .inr (.inl (by simpa [keepsType] using plain))
  | list | set => cases single
  | _ => exact .inr (.inl rfl)

/-- A number has the form that a parameter asks for. -/
theorem converts_of_takesForm (takes : takesForm value target) :
    r.Converts (formType value (some target)) target := by
  have wide {p : Primitive} (form : target.primitiveForm? = some p)
      (listed : (p = .long || p = .float || p = .double : Bool)) (n : Int) (own : Primitive) :
      r.Converts (.of (.primitive (wholeType n (some target) own))) target := by
    have type : wholeType n (some target) own = p := by
      simp only [Bool.or_eq_true, decide_eq_true_eq] at listed
      simp only [wholeType, Option.bind_some, form, Option.getD_some]
      rcases listed with (rfl | rfl) | rfl <;> rfl
    exact type ▸ converts_form form
  rw [takesForm.eq_def] at takes
  split at takes
  · next form => exact wide form takes _ .byte
  · next form => exact wide form takes _ .short
  · next form => exact wide form takes _ .int
  · cases takes

end

end Prewire.Registration
