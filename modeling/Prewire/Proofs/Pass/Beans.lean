import Prewire.Pass.Basic
import Prewire.Proofs.Failure
import Prewire.Proofs.Registration.Routing

/-! The beans of a pass. Writing one is taken apart once: it is skipped, or its plan is registered. Those
that are neither abstract nor excluded and that something creates are in place and reported when the last
one is written, and no others are reported. -/
namespace Prewire.Pass

open Java Types Beans Plan Output Registration Target

/-- A pass without writers of its own for some beans. -/
def noCustoms : Customs := fun _ _ => none

/-- Whether a pass has nothing to write for a definition. -/
def Skips (o : Options) (f : BeanFactory) (d : BeanDefinition) : Prop :=
  d.isAbstract = true ∨ isExcluded o f d = true ∨ BeanPlan.ofDefinition f d = .ok none

/-- All that writing one bean can do, notices apart that report no registration. -/
inductive Writes (o : Options) (f : BeanFactory) (beanName : String) (d : BeanDefinition)
    (t : Target) : Target → Prop
  | skipped {notices : List Notice} (silent : notices.filterMap Notice.registration? = [])
    (ignored : Skips o f d) : Writes o f beanName d t (t.report notices)
  | registered {notices : List Notice} {plan : BeanPlan} {between : Target}
    (silent : notices.filterMap Notice.registration? = []) (kept : ¬ Skips o f d)
    (planned : BeanPlan.ofDefinition f d = .ok (some plan))
    (registered : register f beanName d plan (t.report notices) = (.ok (), between)) :
    Writes o f beanName d t (recordConfiguration f.registry plan.userClass between)

structure Registers (o : Options) (f : BeanFactory) (d : BeanDefinition) : Prop where
  concrete : d.isAbstract = false
  included : isExcluded o f d = false
  created : ∃ e, detect f d = .ok (some e)

/-- A bean whose registration is reported and in place. -/
def IsRegistered (f : BeanFactory) (t : Target) (beanName : String) (d : BeanDefinition) : Prop :=
  ∃ plan package, BeanPlan.ofDefinition f d = .ok (some plan) ∧
    (beanName, package) ∈ t.registrations ∧
    Placed t (writeRegistration f beanName d plan).code package

structure Advances (t after : Target) : Prop where
  grows : Grows t after
  reported : t.registrations ⊆ after.registrations

theorem Advances.of_silent {t after : Target} (grows : Grows t after)
    (silent : after.registrations = t.registrations) : Advances t after :=
  ⟨grows, fun _ member => silent ▸ member⟩

section
variable {o : Options} {f : BeanFactory} {beanName : String} {d : BeanDefinition}
variable {t after : Target}

theorem not_skips {plan : BeanPlan} (concrete : d.isAbstract = false)
    (included : isExcluded o f d = false)
    (planned : BeanPlan.ofDefinition f d = .ok (some plan)) : ¬ Skips o f d := by
  rintro (isTemplate | excluded | uncreated)
  · simp [concrete] at isTemplate
  · simp [included] at excluded
  · simp [planned] at uncreated

/-- A planned bean is skipped because nothing creates it, or it is registered. -/
theorem writePlanned_cases {outcome : BeanOutcome}
    (written : writePlanned f beanName d t = (.ok outcome, after)) :
    ∃ notices, notices.filterMap Notice.registration? = [] ∧
      ((BeanPlan.ofDefinition f d = .ok none ∧ after = t.report notices ∧
          ∃ reason, outcome = .skipped reason) ∨
        ∃ plan, BeanPlan.ofDefinition f d = .ok (some plan) ∧ outcome = .written plan.userClass ∧
          register f beanName d plan (t.report notices) = (.ok (), after)) := by
  refine ⟨detectionNotices d (detect f d), registration?_detectionNotices _ _, ?_⟩
  simp only [writePlanned, planBean] at written
  cases planned : BeanPlan.ofDefinition f d with
  | error failure => simp [planned] at written
  | ok found =>
    cases found with
    | none =>
      rw [planned] at written
      obtain ⟨same, rfl⟩ := Prod.mk.inj written
      exact .inl ⟨rfl, rfl, _, (Except.ok.inj same).symm⟩
    | some plan =>
      rw [planned] at written
      obtain ⟨complete, rfl⟩ := Prod.mk.inj written
      obtain ⟨_, registered, same⟩ := eq_ok_of_map complete
      exact .inr ⟨plan, rfl, same.symm, Prod.ext registered rfl⟩

/-- Where a pass writes a bean of its own accord, the bean is skipped or registered. -/
theorem writeOrSkip_cases {outcome : BeanOutcome}
    (written : writeOrSkip o noCustoms f beanName d t = (.ok outcome, after)) :
    ∃ notices, notices.filterMap Notice.registration? = [] ∧
      ((Skips o f d ∧ after = t.report notices ∧ ∃ reason, outcome = .skipped reason) ∨
        ∃ plan, ¬ Skips o f d ∧ BeanPlan.ofDefinition f d = .ok (some plan) ∧
          outcome = .written plan.userClass ∧
          register f beanName d plan (t.report notices) = (.ok (), after)) := by
  have unreported : t = t.report [] := by rw [Target.report, List.append_nil]
  rw [writeOrSkip] at written
  split at written
  · next isTemplate =>
    obtain ⟨same, rfl⟩ := Prod.mk.inj written
    exact ⟨[], rfl, .inl ⟨.inl isTemplate, unreported, _, (Except.ok.inj same).symm⟩⟩
  next concrete =>
  split at written
  · next excluded =>
    obtain ⟨same, rfl⟩ := Prod.mk.inj written
    exact ⟨[], rfl, .inl ⟨.inr (.inl excluded), unreported, _, (Except.ok.inj same).symm⟩⟩
  next included =>
  obtain ⟨notices, silent, ⟨uncreated, same, skipped⟩ | ⟨plan, planned, outcome, registered⟩⟩ :=
    writePlanned_cases written
  · exact ⟨notices, silent, .inl ⟨.inr (.inr uncreated), same, skipped⟩⟩
  · have kept : ¬ Skips o f d := not_skips (by simpa using concrete) (by simpa using included) planned
    exact ⟨notices, silent, .inr ⟨plan, kept, planned, outcome, registered⟩⟩

theorem writeBean_cases {isWritten : Bool}
    (written : writeBean o noCustoms f beanName d t = (.ok isWritten, after)) :
    Writes o f beanName d t after := by
  rw [writeBean] at written
  split at written
  · simp at written
  · next reason between complete =>
    obtain ⟨-, rfl⟩ := Prod.mk.inj written
    obtain ⟨notices, silent, ⟨ignored, rfl, -⟩ | ⟨_, -, -, impossible, -⟩⟩ :=
      writeOrSkip_cases complete
    · have reported : (t.report notices).report [.beanSkipped beanName reason] =
          t.report (notices ++ [.beanSkipped beanName reason]) := by
        simp only [Target.report, List.append_assoc]
      rw [reported]
      exact .skipped (by simp [silent, Notice.registration?]) ignored
    · simp at impossible
  · next userClass between complete =>
    obtain ⟨-, rfl⟩ := Prod.mk.inj written
    obtain ⟨notices, silent, ⟨-, -, _, impossible⟩ | ⟨plan, kept, planned, same, registered⟩⟩ :=
      writeOrSkip_cases complete
    · simp at impossible
    obtain rfl := BeanOutcome.written.inj same
    exact .registered silent kept planned registered

/-- What holds of the definitions that are written and of the target goes over to the next one. -/
theorem writeBeans_induction (holds : List (String × BeanDefinition) → Target → Prop)
    (step : ∀ {done beanName d t after}, holds done t → Writes o f beanName d t after →
      holds (done ++ [(beanName, d)]) after)
    {done rest : List (String × BeanDefinition)} {count : Nat} (first : holds done t)
    (written : writeBeans o noCustoms f rest t = (.ok count, after)) : holds (done ++ rest) after := by
  -- The definitions move from the rest to what is done, one at a time.
  induction rest generalizing done t count with
  | nil =>
    obtain ⟨-, rfl⟩ := Prod.mk.inj written
    simpa using first
  | cons bean rest ih =>
    obtain ⟨beanName, d⟩ := bean
    rw [writeBeans] at written
    split at written
    · simp at written
    · next isWritten between one =>
      obtain ⟨counted, rfl⟩ := Prod.mk.inj written
      obtain ⟨count, complete, -⟩ := eq_ok_of_map counted
      simpa using ih (step first (writeBean_cases one)) (Prod.ext complete rfl)

theorem planned_of_detected {e : Executable} (detected : detect f d = .ok (some e)) :
    BeanPlan.ofDefinition f d = .ok (some (.ofExecutable f d e)) := by
  rw [BeanPlan.ofDefinition, detected]
  rfl

theorem Registers.not_skips (registers : Registers o f d) : ¬ Skips o f d := by
  obtain ⟨e, created⟩ := registers.created
  exact Pass.not_skips registers.concrete registers.included (planned_of_detected created)

theorem registers_of_planned {plan : BeanPlan} (kept : ¬ Skips o f d)
    (planned : BeanPlan.ofDefinition f d = .ok (some plan)) : Registers o f d := by
  simp only [Skips, not_or, Bool.not_eq_true] at kept
  obtain ⟨concrete, included, -⟩ := kept
  obtain ⟨found, detected, same⟩ := eq_ok_of_map planned
  obtain ⟨e, rfl, -⟩ := Option.map_eq_some_iff.mp same
  exact ⟨concrete, included, e, detected⟩

theorem IsRegistered.mono (registered : IsRegistered f t beanName d) (advances : Advances t after) :
    IsRegistered f after beanName d := by
  obtain ⟨plan, package, planned, reported, placed⟩ := registered
  exact ⟨plan, package, planned, advances.reported reported, placed.mono advances.grows⟩

/-- What writing one bean leads to: it is registered, or nothing happens but notices. -/
inductive Step (o : Options) (f : BeanFactory) (beanName : String) (d : BeanDefinition)
    (t after : Target) : Prop
  | registered (package : Option String) (registers : Registers o f d) (grows : Grows t after)
    (reported : after.registrations = t.registrations ++ [(beanName, package)])
    (present : IsRegistered f after beanName d)
  | skipped (ignored : ¬ Registers o f d) (grows : Grows t after)
    (silent : after.registrations = t.registrations)

theorem Step.advances (step : Step o f beanName d t after) : Advances t after := by
  cases step with
  | registered package _ grows reported _ => exact ⟨grows, by simp [reported]⟩
  | skipped _ grows silent => exact .of_silent grows silent

theorem grows_recordConfiguration (r : Registry) (userClass : ClassName) (t : Target) :
    Grows t (recordConfiguration r userClass t) ∧
      (recordConfiguration r userClass t).registrations = t.registrations := by
  rw [recordConfiguration]
  split
  · exact ⟨.of_eq rfl rfl, rfl⟩
  · exact ⟨.refl t, rfl⟩

theorem Writes.step (writes : Writes o f beanName d t after) : Step o f beanName d t after := by
  cases writes with
  | skipped silent ignored =>
    refine .skipped (fun registers => registers.not_skips ignored) (grows_report t _) ?_
    rw [registrations_report, silent, List.append_nil]
  | @registered notices plan between silent kept planned registered =>
    obtain ⟨host, -, inPlace, reported⟩ := register_ok registered
    obtain ⟨records, unreported⟩ := grows_recordConfiguration f.registry plan.userClass between
    generalize host.filter _ = package at inPlace reported
    rw [registrations_report, silent, List.append_nil] at reported
    have grows := (grows_report t notices).trans (inPlace.grows.trans records)
    refine .registered package (registers_of_planned kept planned) grows
      (unreported.trans reported) ⟨plan, package, planned, ?_, inPlace.placed.mono records⟩
    rw [unreported, reported]
    exact List.mem_append_right _ List.mem_cons_self

/-- Of the definitions that were written, those that a pass registers are in place, and the others are
not reported. -/
structure Tracks (o : Options) (f : BeanFactory) (done : List (String × BeanDefinition))
    (t : Target) : Prop where
  present : ∀ beanName d, (beanName, d) ∈ done → Registers o f d → IsRegistered f t beanName d
  only : ∀ beanName package, (beanName, package) ∈ t.registrations →
    ∃ d, (beanName, d) ∈ done ∧ Registers o f d

theorem Tracks.step {done : List (String × BeanDefinition)} (tracks : Tracks o f done t)
    (step : Step o f beanName d t after) : Tracks o f (done ++ [(beanName, d)]) after := by
  have advances := step.advances
  constructor
  · intro other d' member registers
    rcases List.mem_append.mp member with earlier | last
    · exact (tracks.present other d' earlier registers).mono advances
    · obtain ⟨rfl, rfl⟩ : other = beanName ∧ d' = d := by simpa using last
      cases step with
      | registered _ _ _ _ present => exact present
      | skipped ignored => exact absurd registers ignored
  · intro other package member
    cases step with
    | registered package' registers _ reported _ =>
      rw [reported] at member
      rcases List.mem_append.mp member with earlier | last
      · obtain ⟨d', listed, registers⟩ := tracks.only other package earlier
        exact ⟨d', List.mem_append_left _ listed, registers⟩
      · obtain ⟨rfl, -⟩ : other = beanName ∧ package = package' := by simpa using last
        exact ⟨d, by simp, registers⟩
    | skipped _ _ silent =>
      obtain ⟨d', listed, registers⟩ := tracks.only other package (silent ▸ member)
      exact ⟨d', List.mem_append_left _ listed, registers⟩

theorem Tracks.writeBeans {done rest : List (String × BeanDefinition)} {count : Nat}
    (tracks : Tracks o f done t) (written : writeBeans o noCustoms f rest t = (.ok count, after)) :
    Tracks o f (done ++ rest) after :=
  writeBeans_induction (Tracks o f) (fun tracks writes => tracks.step writes.step) tracks written

theorem Tracks.mono {done : List (String × BeanDefinition)} (tracks : Tracks o f done t)
    (grows : Grows t after) (silent : after.registrations = t.registrations) :
    Tracks o f done after := by
  constructor
  · intro beanName d member registers
    exact (tracks.present beanName d member registers).mono (.of_silent grows silent)
  · intro beanName package member
    exact tracks.only beanName package (silent ▸ member)

end
end Prewire.Pass
