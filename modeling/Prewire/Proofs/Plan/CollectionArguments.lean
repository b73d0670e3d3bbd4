import Prewire.Proofs.Plan.Overload
import Prewire.Proofs.Registration.LiteralConversion
import Prewire.Proofs.Types.TypeArguments

/-! Lists and sets among the arguments that a choice is made by. Elements that have one type make a
collection of it, which is assigned by the type of its elements. Any other collection is raw: it fits
collections of every type, whatever its elements are. -/
namespace Prewire.Plan

open Java Types Beans BeanValue

/-- A choice among several executables by the types of the arguments, which all can be assigned. -/
structure Assigned (f : BeanFactory) (d : BeanDefinition) (e : Executable) : Prop where
  contested : ∃ owner candidates, Contested f d owner candidates
  detected : detect f d = .ok (some e)
  tier : tier? f.registry (f.argumentTypes d) e = some .assignable

def collection? : BeanValue → Option (ClassName × List BeanValue)
  | .list elements => some (Known.list, elements)
  | .set elements => some (Known.set, elements)
  | _ => none

/-- A collection of class `c`, without a declared type, stands at a parameter of class `name` with
elements of a closed type. -/
structure CollectionAt (d : BeanDefinition) (e : Executable) (i : Nat) (c : ClassName)
    (elements : List BeanValue) (name : ClassName) (element : JavaType) : Prop where
  argument : ∃ value, d.arguments.ordered[i]? = some ⟨value, none⟩ ∧
    collection? value = some (c, elements)
  parameter : e.parameterTypes[i]? = some (.classType name [element])
  closed : element.mentionsVariable = false

def Share (elements : List BeanValue) (type : JavaType) : Prop :=
  elements ≠ [] ∧ ∀ v ∈ elements, v.literalType? = some type

section
variable {f : BeanFactory} {d : BeanDefinition} {e : Executable} {i : Nat} {c name : ClassName}
variable {elements : List BeanValue} {element type : JavaType} {value : BeanValue}

theorem collectionType_of_share (share : Share elements type) :
    collectionType c (literalTypes elements) = .classType c [type] := by
  obtain ⟨filled, same⟩ := share
  cases elements with
  | nil => cases filled rfl
  | cons v vs =>
    have rest : (literalTypes vs).all (· = some type) := by
      rw [Registration.literalTypes_eq_map, List.all_map, List.all_eq_true]
      intro u later
      simp [same u (List.mem_cons_of_mem v later)]
    rw [literalTypes, same v List.mem_cons_self, collectionType, if_pos rest]

theorem collectionType_of_mixed (mixed : ∀ type, ¬ Share elements type) :
    collectionType c (literalTypes elements) = .ofClass c := by
  rw [collectionType.eq_def]
  split
  · next first rest types =>
    rw [if_neg]
    intro same
    refine mixed first ⟨?_, fun v member => ?_⟩
    · rintro rfl
      cases types
    · have told : v.literalType? ∈ literalTypes elements := by
        rw [Registration.literalTypes_eq_map]
        exact List.mem_map_of_mem member
      rw [types] at told
      rcases List.mem_cons.mp told with here | later
      · exact here
      · simpa using List.all_eq_true.mp same _ later
  · rfl

theorem literalType?_of_collection? (collection : collection? value = some (c, elements)) :
    value.literalType? = some (collectionType c (literalTypes elements)) := by
  cases value <;> simp_all [collection?, literalType?]

/-- What tells its type itself has that type in every container. -/
theorem valueType?_of_told (told : value.literalType? = some type) :
    f.valueType? value = some type := by
  cases value <;> simp_all [literalType?, BeanFactory.valueType?, BeanFactory.valueTypeAnswer,
    BeanFactory.valueTypeBy]

theorem CollectionAt.argumentType (placed : CollectionAt d e i c elements name element) :
    (f.argumentTypes d)[i]? = some (some (collectionType c (literalTypes elements))) := by
  obtain ⟨value, found, collection⟩ := placed.argument
  have known : f.valueType? value = _ := valueType?_of_told (literalType?_of_collection? collection)
  simp only [BeanFactory.argumentTypes, List.getElem?_map, found, Option.map_some,
    BeanFactory.argumentTypeBy]
  exact congrArg some known

/-- The collection itself can be assigned. -/
theorem Assigned.collection (assigned : Assigned f d e)
    (placed : CollectionAt d e i c elements name element) :
    f.registry.isAssignable (.classType name [element])
      (collectionType c (literalTypes elements)) := by
  have takes := (tier?_eq_some.mp assigned.tier).1
  simpa [fits, Tier.includes, Tier.rank] using takes.fits placed.parameter placed.argumentType

/-- A collection that is chosen for has elements that can be assigned, except for arrays, if they share
one type. Any other collection is raw and would fit elements of every type. -/
theorem elements_assignable_iff (assigned : Assigned f d e)
    (placed : CollectionAt d e i c elements name element)
    (keeps : f.registry.KeepsElements c name) :
    (∀ type, Share elements type →
      ((∀ v ∈ elements, ∀ known, f.valueType? v = some known →
          f.registry.isAssignable element known) ↔ ¬ PrimitiveArrays element type)) ∧
    ((∀ type, ¬ Share elements type) →
      (f.argumentTypes d)[i]? = some (some (.ofClass c)) ∧
        ∀ other, f.registry.isAssignable (.classType name [other]) (.ofClass c)) := by
  have assignable := assigned.collection placed
  constructor
  · intro type share
    rw [collectionType_of_share share] at assignable
    rw [← keeps.isAssignable_iff placed.closed assignable]
    constructor
    · intro all
      obtain ⟨v, member⟩ := List.exists_mem_of_ne_nil elements share.1
      exact all v member type (valueType?_of_told (share.2 v member))
    · intro fitting v member known found
      rw [valueType?_of_told (share.2 v member)] at found
      exact Option.some.inj found ▸ fitting
  · intro mixed
    rw [collectionType_of_mixed mixed] at assignable
    exact ⟨collectionType_of_mixed mixed ▸ placed.argumentType, keeps.isAssignable_raw assignable⟩

end

namespace CollectionSample

def owner : ClassName := ⟨"com.example", ["Sample"]⟩
def text : JavaType := .ofClass Known.string

def constructor (parameters : List JavaType) : Executable where
  declaringClass := owner
  kind := .constructor
  parameters := parameters.map fun type => { name := "values", type := type }

def listOf (element : JavaType) : JavaType := .classType Known.list [element]
def collectionOf (element : JavaType) : JavaType := .classType Known.collection [element]

def container (parameter : JavaType) (collections : List TypeDeclaration) : BeanFactory where
  registry := ⟨{ name := owner, constructors := [constructor [parameter], constructor []] } ::
    collections⟩

def definition (elements : List BeanValue) : BeanDefinition :=
  { BeanDefinition.blank with beanClass := some owner, arguments := ⟨[], [⟨.list elements, none⟩]⟩ }

theorem assigned {parameter : JavaType} {collections : List TypeDeclaration}
    {elements : List BeanValue}
    (ordinary : (container parameter collections).registry.isSubtype owner Known.factoryBean = false)
    (detected : detect (container parameter collections) (definition elements) =
      .ok (some (constructor [parameter])))
    (tier : tier? (container parameter collections).registry
      ((container parameter collections).argumentTypes (definition elements))
      (constructor [parameter]) = some .assignable) :
    Assigned (container parameter collections) (definition elements) (constructor [parameter]) := by
  refine ⟨⟨owner, [constructor [parameter], constructor []], ?_⟩, detected, tier⟩
  have known : (container parameter collections).registry.get? owner =
      some { name := owner, constructors := [constructor [parameter], constructor []] } := by
    simp [container, Registry.get?]
  exact .constructors rfl rfl known ordinary rfl (by simp) (by simp [constructor,
    Executable.isAnnotated, marker?])

theorem placed {element : JavaType} {name : ClassName} {elements : List BeanValue}
    (closed : element.mentionsVariable = false) :
    CollectionAt (definition elements) (constructor [.classType name [element]]) 0 Known.list elements
      name element :=
  ⟨⟨_, rfl, rfl⟩, rfl, closed⟩

end CollectionSample

open CollectionSample in
/-- Two texts fit a collection of texts. -/
theorem elements_assignable_texts :
    Assigned (container (collectionOf text) Preloaded.collections)
      (definition [.string "a", .string "b"]) (constructor [collectionOf text]) ∧
    ∀ v ∈ [BeanValue.string "a", .string "b"], ∀ known,
      (container (collectionOf text) Preloaded.collections).valueType? v = some known →
        (container (collectionOf text) Preloaded.collections).registry.isAssignable text known := by
  have assigned : Assigned (container (collectionOf text) Preloaded.collections)
      (definition [.string "a", .string "b"]) (constructor [collectionOf text]) :=
    assigned (by decide +kernel) (by decide +kernel) (by decide +kernel)
  have declares : (container (collectionOf text) Preloaded.collections).registry.DeclaresCollections :=
    ⟨by decide +kernel, by decide +kernel, by decide +kernel⟩
  have keeps : (container (collectionOf text) Preloaded.collections).registry.KeepsElements
      Known.list Known.collection := declares.keepsElements (by simp) (by simp)
  have share : Share [BeanValue.string "a", .string "b"] text := by
    refine ⟨by simp, fun v member => ?_⟩
    rcases List.mem_cons.mp member with rfl | later
    · rfl
    · obtain rfl := List.mem_singleton.mp later
      rfl
  exact ⟨assigned, ((elements_assignable_iff assigned (placed rfl) keeps).1 text share).mpr (by rintro ⟨⟩)⟩

/-- A collection is chosen for with an element that cannot be assigned. -/
structure HoldsUnassignable (f : BeanFactory) (d : BeanDefinition) (e : Executable) (name : ClassName)
    (element : JavaType) (elements : List BeanValue) : Prop where
  assigned : Assigned f d e
  placed : CollectionAt d e 0 Known.list elements name element
  element : ∃ v ∈ elements, ∃ known, f.valueType? v = some known ∧
    f.registry.isAssignable element known = false

open CollectionSample in
/-- A number among texts; a text in a list that is declared as a collection of something else; and an
array of a type variable for one of a primitive. -/
theorem holdsUnassignable_lists :
    HoldsUnassignable (container (listOf text) Preloaded.collections)
      (definition [.int 1, .string "a"]) (constructor [listOf text]) Known.list text
      [.int 1, .string "a"] ∧
    HoldsUnassignable (container (collectionOf (.ofClass Known.locale))
        [Preloaded.interfaceNamed Known.list ["E"] [collectionOf (.ofClass Known.locale)]])
      (definition [.string "a"]) (constructor [collectionOf (.ofClass Known.locale)])
      Known.collection (.ofClass Known.locale) [.string "a"] ∧
    HoldsUnassignable (container (listOf (.array (.primitive .int))) Preloaded.collections)
      (definition [.array (.variable "T") []]) (constructor [listOf (.array (.primitive .int))])
      Known.list (.array (.primitive .int)) [.array (.variable "T") []] := by
  refine ⟨⟨assigned ?_ ?_ ?_, placed rfl, _, List.mem_cons_self, _, rfl, ?_⟩,
    ⟨assigned ?_ ?_ ?_, placed rfl, _, List.mem_cons_self, _, rfl, ?_⟩,
    ⟨assigned ?_ ?_ ?_, placed rfl, _, List.mem_cons_self, _, rfl, ?_⟩⟩ <;> decide +kernel

end Prewire.Plan
