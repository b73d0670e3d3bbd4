import Prewire.Beans.Factory

/-! The return type on which the methods agree that take the configured arguments. Where every
argument has an answer, all methods can be asked in any order. Where one has none, no method with a
parameter for each argument takes them, and the order does not matter either. -/
namespace Prewire.Beans.BeanFactory

open Java Types

/-- The only type of a list, however often it occurs. -/
def agreement : List JavaType → Option JavaType
  | [] => none
  | type :: rest => if rest.all (· = type) then some type else none

theorem agreement_eq_some {types : List JavaType} {type : JavaType} :
    agreement types = some type ↔ type ∈ types ∧ ∀ other ∈ types, other = type := by
  cases types with
  | nil => simp [agreement]
  | cons first rest =>
    simp only [agreement, List.all_eq_true, decide_eq_true_eq]
    constructor
    · intro agreed
      split at agreed
      · next same =>
        obtain rfl : first = type := by simpa using agreed
        simpa using same
      · simp at agreed
    · rintro ⟨-, same⟩
      obtain rfl : first = type := same first (by simp)
      rw [if_pos fun other member => same other (by simp [member])]

theorem agreement_perm {types others : List JavaType} (permuted : types.Perm others) :
    agreement types = agreement others := by
  apply Option.ext
  intro type
  simp only [agreement_eq_some, permuted.mem_iff]

section
variable (r : Registry) (arguments : List ArgumentType)

def takes (m : Executable) : Bool := acceptsArguments r m.parameterTypes arguments == some true

def returnedTypes (methods : List Executable) : List JavaType :=
  (methods.filter (takes r arguments)).filterMap Executable.returnType?

/-- The walk finds the agreement of the types before with the rest. -/
theorem agreedReturnType_of_answers {methods : List Executable} (agreed : Option JavaType)
    (answers : ∀ m ∈ methods, (acceptsArguments r m.parameterTypes arguments).isSome) :
    agreedReturnType r arguments agreed methods =
      some (agreement (agreed.toList ++ returnedTypes r arguments methods)) := by
  induction methods generalizing agreed with
  | nil => cases agreed <;> simp [agreedReturnType, returnedTypes, agreement]
  | cons m rest ih =>
    have ih := fun agreed => ih agreed fun other member => answers other (by simp [member])
    obtain ⟨taken, answer⟩ := Option.isSome_iff_exists.mp (answers m (by simp))
    simp only [agreedReturnType, answer]
    cases taken with
    | false => simp [ih, returnedTypes, takes, answer]
    | true =>
      cases returns : m.returnType? with
      | none => simp [ih, returnedTypes, takes, answer, returns]
      | some type =>
        cases agreed with
        | none => simp [ih, returnedTypes, takes, answer, returns]
        | some other =>
          by_cases same : type = other
          · simp [ih, returnedTypes, takes, answer, returns, same, agreement]
          · simp [ih, returnedTypes, takes, answer, returns, same, agreement]

/-- Nothing is found out when no method takes the arguments and one cannot be asked. -/
theorem agreedReturnType_of_no_answer {methods : List Executable} (agreed : Option JavaType)
    (untaken : ∀ m ∈ methods, takes r arguments m = false)
    (unanswered : ∃ m ∈ methods, acceptsArguments r m.parameterTypes arguments = none) :
    agreedReturnType r arguments agreed methods = none := by
  induction methods with
  | nil => simp at unanswered
  | cons m rest ih =>
    have ih := ih fun other member => untaken other (by simp [member])
    have untaken := untaken m (by simp)
    cases answer : acceptsArguments r m.parameterTypes arguments with
    | none => simp [agreedReturnType, answer]
    | some taken =>
      cases taken with
      | true => simp [takes, answer] at untaken
      | false =>
        have later : ∃ m ∈ rest, acceptsArguments r m.parameterTypes arguments = none := by
          simpa [answer] using unanswered
        simpa [agreedReturnType, answer] using ih later

/-- A method with a parameter for each argument takes them only when each has an answer. -/
theorem answers_of_accepts {parameters : List JavaType}
    (counts : arguments.length ≤ parameters.length)
    (taken : acceptsArguments r parameters arguments = some true) :
    ∀ a ∈ arguments, (a ()).isSome := by
  induction arguments generalizing parameters with
  | nil => simp
  | cons a rest ih =>
    cases parameters with
    | nil => simp at counts
    | cons p parameters =>
      simp only [acceptsArguments] at taken
      cases answer : a () with
      | none => simp [answer] at taken
      | some type =>
        have later : acceptsArguments r parameters rest = some true := by
          cases type with
          | none => simpa [answer] using taken
          | some type =>
            simp only [answer] at taken
            by_cases fits : r.isAssignable p type
            · simpa [fits] using taken
            · simp [fits] at taken
        intro other member
        rcases List.mem_cons.mp member with rfl | member
        · simp [answer]
        · exact ih (by simpa using counts) later other member

theorem accepts_of_answers (parameters : List JavaType)
    (answers : ∀ a ∈ arguments, (a ()).isSome) :
    (acceptsArguments r parameters arguments).isSome := by
  induction arguments generalizing parameters with
  | nil => cases parameters <;> simp [acceptsArguments]
  | cons a rest ih =>
    cases parameters with
    | nil => simp [acceptsArguments]
    | cons p parameters =>
      obtain ⟨type, answer⟩ := Option.isSome_iff_exists.mp (answers a (by simp))
      have later := ih parameters fun other member => answers other (by simp [member])
      cases type with
      | none => simpa [acceptsArguments, answer] using later
      | some type =>
        by_cases fits : r.isAssignable p type
        · simpa [acceptsArguments, answer, fits] using later
        · simp [acceptsArguments, answer, fits]

/-- The order of the methods does not matter. -/
theorem agreedReturnType_perm {methods others : List Executable} (permuted : methods.Perm others)
    (counts : ∀ m ∈ methods, arguments.length ≤ m.parameterTypes.length) :
    agreedReturnType r arguments none methods = agreedReturnType r arguments none others := by
  by_cases answers : ∀ a ∈ arguments, (a ()).isSome
  · rw [agreedReturnType_of_answers r arguments none fun m _ => accepts_of_answers r _ _ answers,
      agreedReturnType_of_answers r arguments none fun m _ => accepts_of_answers r _ _ answers]
    exact congrArg some (agreement_perm ((permuted.filter _).filterMap _))
  · have untaken : ∀ m ∈ methods, takes r arguments m = false := by
      intro m member
      cases taken : takes r arguments m with
      | false => rfl
      | true =>
        exact absurd (answers_of_accepts r arguments (counts m member) (by simpa [takes] using taken)) answers
    by_cases unanswered : ∃ m ∈ methods, acceptsArguments r m.parameterTypes arguments = none
    · rw [agreedReturnType_of_no_answer r arguments none untaken unanswered,
        agreedReturnType_of_no_answer r arguments none
          (fun m member => untaken m (permuted.mem_iff.mpr member))
          (by simpa only [permuted.mem_iff] using unanswered)]
    · have answered : ∀ m ∈ methods, (acceptsArguments r m.parameterTypes arguments).isSome := by
        simpa [Option.isSome_iff_ne_none] using unanswered
      rw [agreedReturnType_of_answers r arguments none answered,
        agreedReturnType_of_answers r arguments none
          fun m member => answered m (permuted.mem_iff.mpr member)]
      exact congrArg some (agreement_perm ((permuted.filter _).filterMap _))

end
def configured (f : BeanFactory) (d : BeanDefinition) : List ArgumentType :=
  argumentTypesBy f.registry f.beanTypeAnswer d.arguments

theorem argumentTypesBy_eq_map (r : Registry) (beanType : String → Answer (Option JavaType))
    (arguments : ConstructorArguments) :
    argumentTypesBy r beanType arguments =
      arguments.ordered.map fun a _ => argumentTypeBy r beanType a := by
  obtain ⟨indexed, generic⟩ := arguments
  have positions : indexedTypesBy r beanType indexed =
      (indexed.map Prod.snd).map fun a _ => argumentTypeBy r beanType a := by
    induction indexed with
    | nil => rfl
    | cons a rest ih => simp only [indexedTypesBy, ih, List.map_cons]
  have others : genericTypesBy r beanType generic =
      generic.map fun a _ => argumentTypeBy r beanType a := by
    induction generic with
    | nil => rfl
    | cons a rest ih => simp only [genericTypesBy, ih, List.map_cons]
  simp only [argumentTypesBy, ConstructorArguments.ordered, List.map_append, positions, others]

theorem argumentTypes_eq_map (f : BeanFactory) (d : BeanDefinition) :
    f.argumentTypes d = (f.configured d).map fun a => (a ()).join := by
  simp only [argumentTypes, configured, argumentTypesBy_eq_map, List.map_map]
  rfl

theorem length_configured (f : BeanFactory) (d : BeanDefinition) :
    (f.configured d).length = d.arguments.count := by
  simp [configured, argumentTypesBy_eq_map, ConstructorArguments.ordered, ConstructorArguments.count]

section
variable {f : BeanFactory} {d : BeanDefinition} {name : String} {owner : ClassName}

theorem factoryClassBy_of_known (owned : f.factoryClass? d = some owner) :
    factoryClassBy f.beanTypeAnswer d = some (some owner) := by
  rw [factoryClass?, factoryClassAnswer] at owned
  cases answer : factoryClassBy f.beanTypeAnswer d with
  | none => simp [answer] at owned
  | some known => simpa [answer] using owned

/-- The type of what the bean class itself stands for. -/
def classType? (f : BeanFactory) (d : BeanDefinition) : Option JavaType :=
  d.beanClass.map fun c => (objectType? f.registry (.ofClass c)).getD (.ofClass c)

/-- Where every visible method of the name can be asked, their agreement decides, and the bean class
where there is none. -/
theorem definitionType?_of_answers (untargeted : d.targetType = none)
    (named : d.factoryMethod = some name) (owned : f.factoryClass? d = some owner)
    (answers : ∀ m ∈ methodsNamed f.registry owner name d.arguments.count,
      (acceptsArguments f.registry m.parameterTypes (f.configured d)).isSome) :
    f.definitionType? d =
      match agreement (returnedTypes f.registry (f.configured d)
        (methodsNamed f.registry owner name d.arguments.count)) with
      | some type => some ((objectType? f.registry type).getD type)
      | none => f.classType? d := by
  have returned : methodReturnType f.registry f.beanTypeAnswer d (f.configured d) =
      some (agreement (returnedTypes f.registry (f.configured d)
        (methodsNamed f.registry owner name d.arguments.count))) := by
    simp only [methodReturnType, named, factoryClassBy_of_known owned, length_configured]
    exact agreedReturnType_of_answers f.registry (f.configured d) none answers
  have produced : f.definitionTypeAnswer d =
      producedType f.registry f.beanTypeAnswer d (f.configured d) := by
    cases d
    rw [definitionTypeAnswer, definitionTypeBy]
    rfl
  rw [definitionType?, produced]
  simp only [producedType, untargeted, returned, classType?]
  cases agreement (returnedTypes f.registry (f.configured d)
    (methodsNamed f.registry owner name d.arguments.count)) <;> simp [Function.comp_def]

end
end Prewire.Beans.BeanFactory
