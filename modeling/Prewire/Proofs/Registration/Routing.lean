import Prewire.Proofs.Registration.Writing

/-! A registration that succeeds is in place, in the main routine or in a routine of the package that
it is routed to, and is reported once. -/
namespace Prewire.Registration

open Java Types Beans Plan Output Target

theorem grows_adopt (t : Target) (written : Written) : Grows t (adopt t written) := by
  rw [adopt]
  split
  · exact .of_eq rfl rfl
  · exact grows_report t _

theorem registrations_adopt (t : Target) {written : Written}
    (silent : written.progress.notices.filterMap Notice.registration? = []) :
    (adopt t written).registrations = t.registrations := by
  have reported : (t.report written.progress.notices).registrations = t.registrations := by
    rw [registrations_report, silent, List.append_nil]
  rw [adopt]
  split
  · exact reported
  · exact reported

structure InPlace (t after : Target) (written : Written) (package : Option String) : Prop where
  complete : written.outcome = .ok ()
  grows : Grows t after
  placed : Placed after written.code package

section
variable {f : BeanFactory} {beanName : String} {d : BeanDefinition} {plan : BeanPlan}
variable {t after : Target}

theorem registerInMain_ok (registered : registerInMain f beanName d plan t = (.ok (), after)) :
    InPlace t after (writeRegistration f beanName d plan) none ∧
      after.registrations = t.registrations := by
  simp only [registerInMain] at registered
  obtain ⟨complete, rfl⟩ := Prod.mk.inj registered
  have appended : Placed (t.append (writeRegistration f beanName d plan).code)
      (writeRegistration f beanName d plan).code none :=
    .inMain t.code .empty (Code.append_empty _).symm
  refine ⟨⟨complete, ?_, appended.mono (grows_adopt _ _)⟩, ?_⟩
  · exact (grows_append _ _).trans (grows_adopt _ _)
  · exact registrations_adopt (t.append _) (registrations_writeRegistration ..)

/-- Code in a routine of its own that the main routine calls. -/
theorem placed_routine (t : Target) {package : String} (other : package ≠ t.classes.mainPackage)
    (routine : String) (code : Code) :
    let added := t.modifyClass package (·.addMethod (contextRoutine routine code))
    Placed (added.append (routineCall (added.classes.classFor package).name routine).code) code
      (some package) := by
  intro added
  refine .inPackage routine added.code .empty ?_ ?_ (Code.append_empty _).symm
  · rw [(grows_append added _).mainPackage, (grows_addMethod t package _).mainPackage]
    exact other
  · exact mem_addMethod t package (contextRoutine routine code)

theorem registerInPackage_ok {package : String} (other : package ≠ t.classes.mainPackage)
    (registered : registerInPackage f beanName d plan package t = (.ok (), after)) :
    InPlace t after (writeRegistration f beanName d plan) (some package) ∧
      after.registrations = t.registrations := by
  simp only [registerInPackage] at registered
  split at registered
  · simp at registered
  · next complete =>
    obtain ⟨-, rfl⟩ := Prod.mk.inj registered
    have reserved := grows_reserve t package (routineName plan)
    have placed := placed_routine (t.reserve package (routineName plan)).2
      (reserved.mainPackage ▸ other) (t.reserve package (routineName plan)).1
      (writeRegistration f beanName d plan).code
    refine ⟨⟨complete, ?_, placed.mono (grows_adopt _ _)⟩, ?_⟩
    · refine reserved.trans (.trans ?_ (grows_adopt _ _))
      exact (grows_addMethod _ package _).trans (grows_append _ _)
    · rw [registrations_adopt _ (registrations_writeRegistration ..), registrations_append,
        registrations_modifyClass, registrations_reserve]

/-- A registration that no package can host is not written. Any other is written into the main routine
or for another package, where its host package asks for that, and is reported when that succeeds. -/
theorem route_cases {r : Registry} {inMain : Target → Except Failure Unit × Target}
    {inPackage : String → Target → Except Failure Unit × Target} {outcome : Except Failure Unit}
    (routed : route r beanName plan inMain inPackage t = (outcome, after)) :
    (∃ failure, hostPackage r beanName plan = .error failure ∧ outcome = .error failure ∧ after = t) ∨
      ∃ host between, hostPackage r beanName plan = .ok host ∧
        after = (match outcome with
          | .ok () =>
            between.report [.registrationWritten beanName (host.filter (· ≠ t.classes.mainPackage))]
          | .error _ => between) ∧
        ((host.filter (· ≠ t.classes.mainPackage) = none ∧ inMain t = (outcome, between)) ∨
          ∃ package, host.filter (· ≠ t.classes.mainPackage) = some package ∧
            package ≠ t.classes.mainPackage ∧ inPackage package t = (outcome, between)) := by
  rw [route] at routed
  split at routed
  · next failure refused =>
    obtain ⟨rfl, rfl⟩ := Prod.mk.inj routed
    exact .inl ⟨failure, refused, rfl, rfl⟩
  next host hosted =>
  refine .inr ⟨host, ?_⟩
  cases found : host.filter (· ≠ t.classes.mainPackage) with
  | none =>
    rw [found] at routed
    cases result : inMain t with
    | mk written between =>
      simp only [result] at routed
      refine ⟨between, hosted, ?_⟩
      cases written <;> obtain ⟨rfl, rfl⟩ := Prod.mk.inj routed <;> exact ⟨rfl, .inl ⟨rfl, rfl⟩⟩
  | some package =>
    have apart : package ≠ t.classes.mainPackage := by
      simpa using (Option.filter_eq_some_iff.mp found).2
    rw [found] at routed
    cases result : inPackage package t with
    | mk written between =>
      simp only [result] at routed
      refine ⟨between, hosted, ?_⟩
      cases written <;> obtain ⟨rfl, rfl⟩ := Prod.mk.inj routed <;>
        exact ⟨rfl, .inr ⟨package, rfl, apart, result⟩⟩

/-- All that a registration which succeeds can be. -/
theorem register_cases (registered : register f beanName d plan t = (.ok (), after)) :
    ∃ host between, hostPackage f.registry beanName plan = .ok host ∧
      after = between.report
        [.registrationWritten beanName (host.filter (· ≠ t.classes.mainPackage))] ∧
      ((host.filter (· ≠ t.classes.mainPackage) = none ∧
          registerInMain f beanName d plan t = (.ok (), between)) ∨
        ∃ package, host.filter (· ≠ t.classes.mainPackage) = some package ∧
          package ≠ t.classes.mainPackage ∧
          registerInPackage f beanName d plan package t = (.ok (), between)) := by
  obtain ⟨_, -, impossible, -⟩ | ⟨host, between, hosted, rfl, written⟩ := route_cases registered
  · cases impossible
  · exact ⟨host, between, hosted, rfl, written⟩

/-- A registration that succeeds is in place where its host package asks for it. -/
theorem register_ok (registered : register f beanName d plan t = (.ok (), after)) :
    ∃ host, hostPackage f.registry beanName plan = .ok host ∧
      InPlace t after (writeRegistration f beanName d plan)
        (host.filter (· ≠ t.classes.mainPackage)) ∧
      after.registrations =
        t.registrations ++ [(beanName, host.filter (· ≠ t.classes.mainPackage))] := by
  obtain ⟨host, between, hosted, rfl, placed⟩ := register_cases registered
  refine ⟨host, hosted, ?_⟩
  generalize host.filter (· ≠ t.classes.mainPackage) = package at placed ⊢
  have written : InPlace t between (writeRegistration f beanName d plan) package ∧
      between.registrations = t.registrations := by
    rcases placed with ⟨rfl, main⟩ | ⟨package, rfl, other, registered⟩
    · exact registerInMain_ok main
    · exact registerInPackage_ok other registered
  obtain ⟨⟨complete, grows, placed⟩, silent⟩ := written
  have reports := grows_report between [.registrationWritten beanName package]
  refine ⟨⟨complete, grows.trans reports, placed.mono reports⟩, ?_⟩
  rw [registrations_report, silent]
  rfl

end
end Prewire.Registration
