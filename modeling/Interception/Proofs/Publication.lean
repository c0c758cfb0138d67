import Interception.Proofs.FactoryReuse
import Interception.Proofs.IntroductionConflicts

/-!
# The publication of registries

The registries of a manager are in one of its two places and never in both. The first operation that
publishes moves them, and they stay where they are from then on. Until then they take what is registered.
Afterwards every registration is refused, and since only resolutions are added to them, all proxies are made
as from the factory at its publication.
-/

namespace Interception

/-- An operation on a manager. -/
inductive ManagerCall where
  /-- Register an aspect. -/
  | register (aspect : Aspect)
  /-- Make an introduction and register it. -/
  | introduce (pattern : String) (capability : InterfaceDescriptor) (capabilityType : String)
    (maker : AmbientProgram Value)
  /-- Publish the registries. -/
  | publish
  /-- Make a proxy. -/
  | createProxy (id : Nat) (targetType : String) (interfaces : List InterfaceDescriptor)

/-- What a manager answers to an operation. -/
inductive ManagerAnswer where
  /-- Whether an aspect or an introduction was registered. -/
  | registered (result : Except AopError Unit)
  /-- The published factory. -/
  | published (result : Except AopError ProxyFactory)
  /-- The new proxy. -/
  | created (result : Except AopError Proxy)

/-- Whether something was registered. -/
def ManagerAnswer.accepts : ManagerAnswer → Bool
  | registered (.ok ()) => true
  | _ => false

namespace ManagerCall

/-- Whether the operation publishes the registries. -/
def publishes : ManagerCall → Bool
  | register _ | introduce _ _ _ _ => false
  | publish | createProxy _ _ _ => true

/-- The aspect that the operation offers. -/
def aspect? : ManagerCall → Option Aspect
  | register aspect => some aspect
  | _ => none

/-- The introduction that the operation offers, if it can be made. -/
def introduction? : ManagerCall → Option Introduction
  | introduce pattern capability capabilityType maker =>
    (Introduction.create pattern capability capabilityType maker).toOption
  | _ => none

end ManagerCall

/-- An introduction that cannot be made is misconfigured. -/
theorem Introduction.create_error {pattern : String} {capability : InterfaceDescriptor}
    {capabilityType : String} {maker : AmbientProgram Value} {error : AopError}
    (h : Introduction.create pattern capability capabilityType maker = .error error) :
    ∃ fault, error = .configuration fault := by
  unfold Introduction.create at h
  split at h
  · cases h
    exact ⟨_, rfl⟩
  · split at h
    · cases h
      exact ⟨_, rfl⟩
    · cases h

namespace Manager

/-- Carries out an operation. -/
def perform (manager : Manager) : ManagerCall → ManagerAnswer × Manager
  | .register aspect =>
    let reply := manager.register aspect
    (.registered reply.result, reply.state)
  | .introduce pattern capability capabilityType maker =>
    let reply := manager.introduce pattern capability capabilityType maker
    (.registered reply.result, reply.state)
  | .publish =>
    let reply := manager.publish
    (.published reply.result, reply.state)
  | .createProxy id targetType interfaces =>
    let reply := manager.createProxy id targetType interfaces
    (.created reply.result, reply.state)

/-- The registrations of a history that were accepted, in their order. -/
def accepted (manager : Manager) (history : List ManagerCall) : List ManagerCall :=
  History.passing perform ManagerAnswer.accepts manager history

/-- A manager whose registries are open. -/
def collecting (factory : ProxyFactory) : Manager := ⟨some factory, none⟩

/-- A manager whose registries are published. -/
def serving (factory : ProxyFactory) : Manager := ⟨none, some factory⟩

/-- The registries of a manager are in one of its two places and not in the other. -/
def Keeps (manager : Manager) (factory : ProxyFactory) : Prop :=
  manager = collecting factory ∨ manager = serving factory

@[simp] theorem collecting_factory (factory : ProxyFactory) : (collecting factory).factory = factory := rfl

@[simp] theorem serving_factory (factory : ProxyFactory) : (serving factory).factory = factory := rfl

/-- The registries are what is found in either place. -/
theorem Keeps.factory_eq {manager : Manager} {factory : ProxyFactory} (h : manager.Keeps factory) :
    manager.factory = factory := by
  obtain rfl | rfl := h
  · rfl
  · rfl

/-- The ways in which a manager carries out an operation. -/
inductive Performs : Manager → ManagerCall → ManagerAnswer × Manager → Prop where
  /-- Open registries take an aspect or refuse it. -/
  | registers (factory : ProxyFactory) (aspect : Aspect) :
    Performs (collecting factory) (.register aspect)
      (.registered (factory.advices.register aspect).1,
        collecting { factory with advices := (factory.advices.register aspect).2 })
  /-- Open registries take an introduction. -/
  | introduces (factory : ProxyFactory) {pattern : String} {capability : InterfaceDescriptor}
    {capabilityType : String} {maker : AmbientProgram Value} {introduction : Introduction} :
    Introduction.create pattern capability capabilityType maker = .ok introduction →
    Performs (collecting factory) (.introduce pattern capability capabilityType maker)
      (.registered (.ok ()), collecting
        { factory with introductions := ⟨factory.introductions.introductions ++ [introduction]⟩ })
  /-- Open registries refuse an introduction. -/
  | refuses (factory : ProxyFactory) {pattern : String} {capability : InterfaceDescriptor}
    {capabilityType : String} {maker : AmbientProgram Value} (error : AopError) :
    Performs (collecting factory) (.introduce pattern capability capabilityType maker)
      (.registered (.error error), collecting factory)
  /-- Published registries refuse every registration. -/
  | closed (factory : ProxyFactory) {call : ManagerCall} (fault : Misconfiguration) :
    call.publishes = false →
    Performs (serving factory) call (.registered (.error (.configuration fault)), serving factory)
  /-- The registries are handed out and are published from then on. -/
  | publishes {manager : Manager} {factory : ProxyFactory} : manager.Keeps factory →
    Performs manager .publish (.published (.ok factory), serving factory)
  /-- A proxy is made from the registries, which are published from then on. -/
  | creates {manager : Manager} {factory : ProxyFactory} (id : Nat) (targetType : String)
    (interfaces : List InterfaceDescriptor) : manager.Keeps factory →
    Performs manager (.createProxy id targetType interfaces)
      (.created (factory.create id targetType interfaces).1,
        serving (factory.create id targetType interfaces).2)

/-- A manager that keeps its registries carries out every operation in one of these ways. -/
theorem Keeps.performs {manager : Manager} {factory : ProxyFactory} (h : manager.Keeps factory)
    (call : ManagerCall) : Performs manager call (manager.perform call) := by
  cases call with
  | register aspect =>
    obtain rfl | rfl := h
    · exact .registers factory aspect
    · exact .closed factory (.published aspect.name) rfl
  | introduce pattern capability capabilityType maker =>
    cases hcreate : Introduction.create pattern capability capabilityType maker with
    | error error =>
      have hperform : manager.perform (.introduce pattern capability capabilityType maker) =
          (.registered (.error error), manager) := by simp only [perform, introduce, hcreate]
      rw [hperform]
      obtain ⟨fault, rfl⟩ := Introduction.create_error hcreate
      obtain rfl | rfl := h
      · exact .refuses factory _
      · exact .closed factory fault rfl
    | ok introduction =>
      have hperform : manager.perform (.introduce pattern capability capabilityType maker) =
          (.registered (manager.registerIntroduction introduction).result,
            (manager.registerIntroduction introduction).state) := by
        simp only [perform, introduce, hcreate]
      rw [hperform]
      obtain rfl | rfl := h
      · cases hregister : factory.introductions.register introduction with
        | error error =>
          simp only [registerIntroduction, collecting, hregister]
          exact .refuses factory error
        | ok introductions =>
          simp only [registerIntroduction, collecting, hregister]
          rw [(IntroductionRegistry.register_ok hregister).2]
          exact .introduces factory hcreate
      · exact .closed factory (.published introduction.capability.name) rfl
  | publish =>
    have hperform : manager.perform .publish = (.published (.ok factory), serving factory) := by
      obtain rfl | rfl := h
      · rfl
      · rfl
    rw [hperform]
    exact .publishes h
  | createProxy id targetType interfaces =>
    have hperform : manager.perform (.createProxy id targetType interfaces) =
        (.created (factory.create id targetType interfaces).1,
          serving (factory.create id targetType interfaces).2) := by
      obtain rfl | rfl := h
      · rfl
      · rfl
    rw [hperform]
    exact .creates id targetType interfaces h

/-- The registries of a manager, wherever they are, hold some aspects and introductions. -/
structure Holds (manager : Manager) (aspects : List Aspect) (introductions : List Introduction) :
    Prop where
  /-- The registries are in one place. -/
  keeps : manager.Keeps manager.factory
  /-- They hold the aspects and the introductions. -/
  factory : manager.factory.Holds aspects introductions

/-- A new manager holds nothing. -/
theorem holds_empty : empty.Holds [] [] := ⟨.inl rfl, .empty⟩

/-- An operation adds to what the registries hold what it registers, and nothing else. -/
theorem Holds.perform {manager : Manager} {aspects : List Aspect} {introductions : List Introduction}
    (h : manager.Holds aspects introductions) (call : ManagerCall) :
    (manager.perform call).2.Holds (aspects ++ (manager.accepted [call]).filterMap ManagerCall.aspect?)
      (introductions ++ (manager.accepted [call]).filterMap ManagerCall.introduction?) := by
  have hperforms := h.keeps.performs call
  obtain ⟨_, h⟩ := h
  unfold accepted History.passing History.passing
  generalize manager.perform call = ran at hperforms
  cases hperforms with
  | registers factory aspect =>
    rw [collecting_factory] at h
    refine ⟨.inl rfl, ?_⟩
    cases hresult : (factory.advices.register aspect).1 with
    | error error =>
      have hnext := h.register_of_error hresult
      simpa [ManagerAnswer.accepts] using hnext
    | ok _ =>
      have hnext := h.register hresult
      simpa [ManagerAnswer.accepts, List.filterMap_cons, ManagerCall.aspect?,
        ManagerCall.introduction?] using hnext
  | @introduces factory _ _ _ _ introduction hcreate =>
    rw [collecting_factory] at h
    have hnext := h.introduce introduction
    refine ⟨.inl rfl, ?_⟩
    simpa [ManagerAnswer.accepts, List.filterMap_cons, ManagerCall.aspect?, ManagerCall.introduction?,
      hcreate, Except.toOption] using hnext
  | refuses factory error => exact ⟨.inl rfl, by simpa [ManagerAnswer.accepts] using h⟩
  | closed factory fault _ => exact ⟨.inr rfl, by simpa [ManagerAnswer.accepts] using h⟩
  | publishes hkeeps =>
    rw [hkeeps.factory_eq] at h
    exact ⟨.inr rfl, by simpa [ManagerAnswer.accepts] using h⟩
  | creates id targetType interfaces hkeeps =>
    rw [hkeeps.factory_eq] at h
    have hnext := h.of_precedes (ProxyFactory.precedes_create _ id targetType interfaces)
    exact ⟨.inr rfl, by simpa [ManagerAnswer.accepts] using hnext⟩

/-- The registrations of a history that were accepted are found one after the other. -/
theorem accepted_cons (manager : Manager) (call : ManagerCall) (calls : List ManagerCall) :
    manager.accepted (call :: calls) =
      manager.accepted [call] ++ (manager.perform call).2.accepted calls := by
  unfold accepted
  rw [History.passing, History.passing, History.passing]
  split
  · rfl
  · rfl

/-- A history adds to what the registries hold what it registers, and nothing else. -/
theorem Holds.after {manager : Manager} {aspects : List Aspect} {introductions : List Introduction}
    (h : manager.Holds aspects introductions) (calls : List ManagerCall) :
    (History.after Manager.perform manager calls).Holds
      (aspects ++ (manager.accepted calls).filterMap ManagerCall.aspect?)
      (introductions ++ (manager.accepted calls).filterMap ManagerCall.introduction?) := by
  induction calls generalizing manager aspects introductions with
  | nil => simpa [accepted, History.passing] using h
  | cons call calls ih =>
    have hrest := ih (h.perform call)
    rw [List.append_assoc, List.append_assoc] at hrest
    rw [History.after_cons, accepted_cons, List.filterMap_append, List.filterMap_append]
    exact hrest

/-- An operation publishes the registries or leaves them open. -/
theorem Keeps.isPublished_perform {manager : Manager} {factory : ProxyFactory} (h : manager.Keeps factory)
    (call : ManagerCall) :
    (manager.perform call).2.isPublished = (manager.isPublished || call.publishes) := by
  have hperforms := h.performs call
  generalize manager.perform call = ran at hperforms
  cases hperforms with
  | registers _ _ => rfl
  | introduces _ _ => rfl
  | refuses _ _ => rfl
  | closed _ _ _ => rfl
  | publishes _ => exact (Bool.or_true _).symm
  | creates _ _ _ _ => exact (Bool.or_true _).symm

/-- The registries are published from the first operation on that publishes them. -/
theorem Holds.isPublished_after {manager : Manager} {aspects : List Aspect}
    {introductions : List Introduction} (h : manager.Holds aspects introductions)
    (calls : List ManagerCall) : (History.after Manager.perform manager calls).isPublished =
      (manager.isPublished || calls.any ManagerCall.publishes) := by
  induction calls generalizing manager aspects introductions with
  | nil => exact (Bool.or_false _).symm
  | cons call calls ih =>
    rw [History.after_cons, ih (h.perform call), h.keeps.isPublished_perform call, List.any_cons,
      Bool.or_assoc]

/-- The registries are open exactly as long as they are not published. -/
theorem Keeps.pending_isSome {manager : Manager} {factory : ProxyFactory} (h : manager.Keeps factory) :
    manager.pending.isSome = !manager.isPublished := by
  obtain rfl | rfl := h
  · rfl
  · rfl

/-- Published registries register nothing and only resolve signatures. -/
theorem perform_serving (factory : ProxyFactory) (call : ManagerCall) :
    ((serving factory).perform call).1.accepts = false ∧
      ∃ later, ((serving factory).perform call).2 = serving later ∧ factory.Precedes later := by
  have hkeeps : (serving factory).Keeps factory := .inr rfl
  have hperforms := hkeeps.performs call
  generalize (serving factory).perform call = ran at hperforms
  cases hperforms with
  | closed _ _ _ => exact ⟨rfl, factory, rfl, .refl factory⟩
  | publishes hsame =>
    cases hsame.factory_eq
    exact ⟨rfl, _, rfl, .refl factory⟩
  | creates id targetType interfaces hsame =>
    cases hsame.factory_eq
    exact ⟨rfl, _, rfl, factory.precedes_create id targetType interfaces⟩

/-- Published registries register nothing in any history and only resolve signatures. -/
theorem after_serving (factory : ProxyFactory) (calls : List ManagerCall) :
    (∀ answer ∈ History.answers perform (serving factory) calls, answer.accepts = false) ∧
      ∃ later, History.after perform (serving factory) calls = serving later ∧
        factory.Precedes later := by
  induction calls generalizing factory with
  | nil => exact ⟨fun _ h => absurd h List.not_mem_nil, factory, rfl, .refl factory⟩
  | cons call calls ih =>
    obtain ⟨hanswer, next, hnext, hprecedes⟩ := perform_serving factory call
    obtain ⟨hanswers, later, hlater, hprecedes'⟩ := ih next
    rw [History.answers, History.after_cons, hnext]
    exact ⟨List.forall_mem_cons.mpr ⟨hanswer, hanswers⟩, later, hlater, hprecedes.trans hprecedes'⟩

/-- A registration with published registries is refused as misconfigured and changes nothing. -/
theorem perform_serving_of_registration (factory : ProxyFactory) {call : ManagerCall}
    (hcall : call.publishes = false) :
    ∃ fault, (serving factory).perform call =
      (.registered (.error (.configuration fault)), serving factory) := by
  have hkeeps : (serving factory).Keeps factory := .inr rfl
  have hperforms := hkeeps.performs call
  generalize (serving factory).perform call = ran at hperforms
  cases hperforms with
  | closed _ fault _ => exact ⟨fault, rfl⟩
  | publishes _ => cases hcall
  | creates _ _ _ _ => cases hcall

/-- What publishes the registries answers from them, whether they were published before or not. -/
theorem Keeps.perform_publishing {manager : Manager} {factory : ProxyFactory} (h : manager.Keeps factory) :
    (manager.perform .publish).1 = .published (.ok factory) ∧
    ∀ id targetType interfaces, (manager.perform (.createProxy id targetType interfaces)).1 =
      .created (factory.create id targetType interfaces).1 := by
  obtain rfl | rfl := h
  · exact ⟨rfl, fun _ _ _ => rfl⟩
  · exact ⟨rfl, fun _ _ _ => rfl⟩

/-- The registries of a manager are published by the first operation that asks for them or for a proxy,
and then for good. They are open or published and never both. They hold the aspects and introductions whose
registrations were accepted, in their order. The factory is handed out, and proxies are made from it.
Once they are published, no registration is accepted any more: each is refused as misconfigured and changes
nothing. All later operations use the same factory, to which only resolutions are added, and get the same
proxies from it. -/
theorem publication_final (history : List ManagerCall) :
    let manager := History.after perform empty history
    let factory := manager.factory
    manager.isPublished = history.any ManagerCall.publishes ∧
    manager.pending.isSome = !manager.isPublished ∧
    factory.advices.roster.Holds ((empty.accepted history).filterMap ManagerCall.aspect?) ∧
    factory.introductions.introductions =
      (empty.accepted history).filterMap ManagerCall.introduction? ∧
    (manager.perform .publish).1 = .published (.ok factory) ∧
    (∀ id targetType interfaces, (manager.perform (.createProxy id targetType interfaces)).1 =
      .created (factory.create id targetType interfaces).1) ∧
    (manager.isPublished = true → ∀ later,
      let manager' := History.after perform manager later
      (∀ answer ∈ History.answers perform manager later, answer.accepts = false) ∧
      (∀ call, call.publishes = false → ∃ fault,
        manager'.perform call = (.registered (.error (.configuration fault)), manager')) ∧
      manager'.isPublished = true ∧ factory.Precedes manager'.factory ∧
      (∀ id targetType interfaces, (manager'.factory.create id targetType interfaces).1 =
        (factory.create id targetType interfaces).1)) := by
  intro manager factory
  have hholds := holds_empty.after history
  simp only [List.nil_append] at hholds
  refine ⟨holds_empty.isPublished_after history, hholds.keeps.pending_isSome, hholds.factory.aspects,
    hholds.factory.introductions, hholds.keeps.perform_publishing.1, hholds.keeps.perform_publishing.2,
    fun hpublished later => ?_⟩
  have hserving : manager = serving factory := by
    refine hholds.keeps.resolve_left fun hcollecting => ?_
    rw [show manager = collecting factory from hcollecting] at hpublished
    cases hpublished
  obtain ⟨hanswers, last, hlast, hprecedes⟩ := after_serving factory later
  intro manager'
  have hmanager' : manager' = serving last := by
    rw [← hlast, ← hserving]
  rw [hmanager', hserving]
  exact ⟨hanswers, fun call hcall => perform_serving_of_registration last hcall, rfl, hprecedes,
    fun id targetType interfaces => hprecedes.create_eq hholds.factory.sound id targetType interfaces⟩

end Manager

end Interception
