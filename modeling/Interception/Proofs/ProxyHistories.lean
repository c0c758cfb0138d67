import Interception.Proofs.CapabilityAccess
import Interception.Proofs.MethodTables
import Interception.Proofs.Publication

/-!
# Histories of proxies

A workshop is where proxies come from. It has managers, and factories that were put together by hand, which do
what managers do whose registries are published from the start. In any order, aspects and introductions are
registered, registries are published, proxies are made, methods are called and capabilities are asked for.

Whatever is done, published registries keep their introductions, no two of which are in conflict, and a proxy
changes only in the instances of its capabilities. What was asked for and which makers were run is kept on
record.
-/

namespace Interception

/-- A proxy and where it comes from. -/
structure MadeProxy where
  /-- The place of the manager. -/
  source : Nat
  /-- The proxy. -/
  proxy : Proxy

/-- A run of a maker for a proxy. -/
structure Making where
  /-- The place of the proxy. -/
  place : Nat
  /-- The run. -/
  run : MakerRun

/-- Managers with the proxies made from them. -/
structure Workshop where
  /-- The managers in the order in which they were opened. -/
  sources : List Manager
  /-- The number for the next proxy. -/
  number : UInt64
  /-- The proxies in the order in which they were made. -/
  made : List MadeProxy
  /-- The surroundings. -/
  world : World
  /-- The accesses so far: the place of the proxy and the type of the capability that was asked for. -/
  accesses : List (Nat × String)
  /-- The runs of makers so far. -/
  makings : List Making

/-- An operation in a workshop. -/
inductive WorkshopCall where
  /-- Open a manager. -/
  | openManager
  /-- Put a factory together from advices and the introductions that are accepted one after the other. -/
  | assemble (advices : AdviceRegistry) (tried : List Introduction)
  /-- Register an aspect with a manager. -/
  | register (source : Nat) (aspect : Aspect)
  /-- Make an introduction and register it with a manager. -/
  | introduce (source : Nat) (pattern : String) (capability : InterfaceDescriptor) (capabilityType : String)
    (maker : AmbientProgram Value)
  /-- Publish the registries of a manager. -/
  | publish (source : Nat)
  /-- Make a proxy. -/
  | createProxy (source : Nat) (targetType : String) (interfaces : List InterfaceDescriptor)
  /-- Call a method of the proxy at a place. -/
  | invoke (place : Nat) (dial : Dialler) (id : MethodId) (arguments : Arguments) (result : ValueType)
    (terminal : Terminal)
  /-- Ask the proxy at a place for a capability. -/
  | access (place : Nat) (dial : Dialler) (capabilityType : String)

/-- Whether a proxy is to be made. -/
def WorkshopCall.creates : WorkshopCall → Bool
  | createProxy _ _ _ => true
  | _ => false

/-- What comes of an operation, or nothing if there is no manager or no proxy at the place. -/
inductive WorkshopAnswer where
  /-- How a manager replied. -/
  | replied (result? : Option (Except AopError Unit))
  /-- How a call ended. -/
  | called (outcome? : Option (Outcome CallResult))
  /-- How an access ended. -/
  | accessed (outcome? : Option (Outcome (Option Value)))

/-- Does something with the value that a run returned. -/
def Outcome.map {α β : Type} (f : α → β) : Outcome α → Outcome β
  | returned value => returned (f value)
  | panicked message => panicked message
  | exhausted => exhausted

/-- The proxy after an access that ended in some way. It is what it was if the access broke off. -/
def Proxy.settle (proxy : Proxy) : Outcome (Option Value × Proxy) → Proxy
  | .returned (_, later) => later
  | _ => proxy

/-- An access changes nothing of a proxy but its capabilities. -/
theorem Proxy.Accesses.settle_eq {proxy : Proxy} {dial : Dialler} {capabilityType : String} {world : World}
    {ran : Outcome (Option Value × Proxy) × World} {runs : List MakerRun}
    (h : proxy.Accesses dial capabilityType world ran runs) :
    ∃ capabilities, proxy.settle ran.1 = { proxy with capabilities } := by
  cases h with
  | missing _ => exact ⟨_, rfl⟩
  | kept _ _ _ => exact ⟨_, rfl⟩
  | made _ _ _ _ => exact ⟨_, rfl⟩
  | @brokenOff _ _ _ outcome _ _ _ _ _ hbroken =>
    refine ⟨proxy.capabilities, ?_⟩
    cases outcome with
    | returned result => exact absurd rfl (hbroken result)
    | panicked message => rfl
    | exhausted => rfl

namespace Workshop

/-- A workshop in which nothing has been done. -/
def initial (world : World) : Workshop := ⟨[], ProxyFactory.firstNumber, [], world, [], []⟩

/-- Keeps a manager as an operation leaves it, and writes the log records of the operation. -/
def keep {α : Type} (workshop : Workshop) (source : Nat) (reply : Reply Manager α) : Workshop :=
  { workshop with
    sources := workshop.sources.set source reply.state
    world := reply.records.foldl World.log workshop.world }

/-- Lets a manager do something. -/
def manage {α : Type} (workshop : Workshop) (source : Nat) (operation : Manager → Reply Manager α) :
    WorkshopAnswer × Workshop :=
  match workshop.sources[source]? with
  | none => (.replied none, workshop)
  | some manager =>
    let reply := operation manager
    (.replied (some (reply.result.map fun _ => ())), workshop.keep source reply)

/-- Lets a manager make a proxy. -/
def make (workshop : Workshop) (source : Nat) (targetType : String) (interfaces : List InterfaceDescriptor) :
    WorkshopAnswer × Workshop :=
  match workshop.sources[source]? with
  | none => (.replied none, workshop)
  | some manager =>
    let reply := manager.createProxy workshop.number.toNat targetType interfaces
    (.replied (some (reply.result.map fun _ => ())),
      { workshop.keep source reply with
        number := ProxyFactory.numberAfter workshop.number targetType
        made := workshop.made ++ reply.result.toOption.toList.map (⟨source, ·⟩) })

/-- Calls a method of a proxy. -/
def call (workshop : Workshop) (place : Nat) (run : Proxy → Run World CallResult) :
    WorkshopAnswer × Workshop :=
  match workshop.made[place]? with
  | none => (.called none, workshop)
  | some owner =>
    let ran := run owner.proxy workshop.world
    (.called (some ran.1), { workshop with world := ran.2 })

/-- Asks a proxy for a capability. -/
def ask (workshop : Workshop) (place : Nat) (dial : Dialler) (capabilityType : String) :
    WorkshopAnswer × Workshop :=
  match workshop.made[place]? with
  | none => (.accessed none, workshop)
  | some owner =>
    let runs := owner.proxy.makerRuns dial capabilityType workshop.world
    let ran := owner.proxy.capability dial capabilityType workshop.world
    (.accessed (some (ran.1.map Prod.fst)),
      { workshop with
        made := workshop.made.set place { owner with proxy := owner.proxy.settle ran.1 }
        world := ran.2
        accesses := workshop.accesses ++ [(place, capabilityType)]
        makings := workshop.makings ++ runs.map (Making.mk place) })

/-- Carries out an operation. -/
def conduct (workshop : Workshop) : WorkshopCall → WorkshopAnswer × Workshop
  | .openManager => (.replied none, { workshop with sources := workshop.sources ++ [.empty] })
  | .assemble advices tried =>
    (.replied none, { workshop with
      sources := workshop.sources ++ [.serving ⟨advices, IntroductionRegistry.empty.attemptAll tried⟩] })
  | .register source aspect => workshop.manage source (·.register aspect)
  | .introduce source pattern capability capabilityType maker =>
    workshop.manage source (·.introduce pattern capability capabilityType maker)
  | .publish source => workshop.manage source Manager.publish
  | .createProxy source targetType interfaces => workshop.make source targetType interfaces
  | .invoke place dial id arguments result terminal =>
    workshop.call place (·.invoke dial id arguments result terminal)
  | .access place dial capabilityType => workshop.ask place dial capabilityType

/-- A workshop after a history. -/
def after (world : World) (history : List WorkshopCall) : Workshop :=
  History.after conduct (initial world) history

/-- A history that is continued leads on from where it led. -/
theorem after_append (world : World) (history later : List WorkshopCall) :
    after world (history ++ later) = History.after conduct (after world history) later :=
  History.after_append _ history later

end Workshop

namespace Manager

/-- The registries of a manager are in one place, and no introduction is in conflict with a later one. -/
structure IsOrderly (manager : Manager) : Prop where
  /-- The registries are in one place. -/
  keeps : manager.Keeps manager.factory
  /-- The introductions are not in conflict. -/
  consistent : manager.factory.introductions.IsConsistent

/-- What may become of a manager: its registries stay in order, and once they are published they keep their
introductions. -/
structure Becomes (manager later : Manager) : Prop where
  /-- The registries are in order. -/
  orderly : later.IsOrderly
  /-- Published registries keep their introductions. -/
  published : ∀ factory, manager = serving factory →
    ∃ grown, later = serving grown ∧ grown.introductions = factory.introductions

/-- A new manager is in order. -/
theorem isOrderly_empty : empty.IsOrderly := ⟨.inl rfl, .nil⟩

/-- A factory that was put together by hand is in order. -/
theorem isOrderly_assembled (advices : AdviceRegistry) (tried : List Introduction) :
    (serving ⟨advices, IntroductionRegistry.empty.attemptAll tried⟩).IsOrderly := by
  have hempty : IntroductionRegistry.empty.IsConsistent := .nil
  exact ⟨.inr rfl, hempty.attemptAll tried⟩

/-- A manager registers an introduction as its registry takes it. -/
theorem introductions_registerIntroduction (manager : Manager) (new : Introduction) :
    (manager.registerIntroduction new).state.factory.introductions = manager.factory.introductions ∨
      (manager.registerIntroduction new).state.factory.introductions =
        manager.factory.introductions.attempt new := by
  unfold registerIntroduction
  cases hpending : manager.pending with
  | none => exact .inl rfl
  | some factory =>
    have hfactory : manager.factory = factory := by rw [Manager.factory, hpending]; rfl
    cases hregister : factory.introductions.register new with
    | error error => simp only [hregister, true_or]
    | ok introductions =>
      simp only [hregister]
      rw [hfactory, IntroductionRegistry.attempt, hregister]
      exact .inr rfl

/-- The registries stay in one place. -/
theorem Keeps.perform {manager : Manager} {factory : ProxyFactory} (h : manager.Keeps factory)
    (call : ManagerCall) : (manager.perform call).2.Keeps (manager.perform call).2.factory := by
  have hperforms := h.performs call
  generalize manager.perform call = ran at hperforms
  cases hperforms with
  | registers _ _ => exact .inl rfl
  | introduces _ _ => exact .inl rfl
  | refuses _ _ => exact .inl rfl
  | closed _ _ _ => exact .inr rfl
  | publishes _ => exact .inr rfl
  | creates _ _ _ _ => exact .inr rfl

/-- An operation leaves the introductions as they are or tries to register one. -/
theorem Keeps.introductions_perform {manager : Manager} {factory : ProxyFactory} (h : manager.Keeps factory)
    (call : ManagerCall) : (manager.perform call).2.factory.introductions = manager.factory.introductions ∨
      ∃ new, (manager.perform call).2.factory.introductions = manager.factory.introductions.attempt new := by
  have hperforms := h.performs call
  cases call with
  | introduce pattern capability capabilityType maker =>
    cases hcreate : Introduction.create pattern capability capabilityType maker with
    | error error => simp only [Manager.perform, introduce, hcreate, true_or]
    | ok introduction =>
      simp only [Manager.perform, introduce, hcreate]
      exact (introductions_registerIntroduction manager introduction).imp_right fun htried => ⟨_, htried⟩
  | register aspect =>
    generalize manager.perform (.register aspect) = ran at hperforms
    cases hperforms with
    | registers _ _ => exact .inl rfl
    | closed _ _ _ => exact .inl rfl
  | publish =>
    generalize manager.perform .publish = ran at hperforms
    cases hperforms with
    | closed _ _ _ => exact .inl rfl
    | publishes hsame => exact .inl (congrArg ProxyFactory.introductions hsame.factory_eq.symm)
  | createProxy id targetType interfaces =>
    generalize manager.perform (.createProxy id targetType interfaces) = ran at hperforms
    cases hperforms with
    | closed _ _ _ => exact .inl rfl
    | @creates _ origin _ _ _ hsame =>
      have hgrown := (origin.precedes_create id targetType interfaces).introductions_eq
      exact .inl (hgrown.trans (congrArg ProxyFactory.introductions hsame.factory_eq.symm))

/-- The registries stay in order. -/
theorem IsOrderly.perform {manager : Manager} (h : manager.IsOrderly) (call : ManagerCall) :
    (manager.perform call).2.IsOrderly := by
  refine ⟨h.keeps.perform call, ?_⟩
  obtain hsame | ⟨new, htried⟩ := h.keeps.introductions_perform call
  · rw [hsame]
    exact h.consistent
  · rw [htried]
    exact h.consistent.attempt new

/-- A manager stays in order, and published registries keep their introductions. -/
theorem IsOrderly.becomes {manager : Manager} (h : manager.IsOrderly) (call : ManagerCall) :
    manager.Becomes (manager.perform call).2 := by
  refine ⟨h.perform call, ?_⟩
  rintro factory rfl
  obtain ⟨-, later, hlater, hprecedes⟩ := perform_serving factory call
  exact ⟨later, hlater, hprecedes.introductions_eq⟩

/-- A manager makes a proxy as from its registries, which are published from then on. -/
theorem Keeps.createProxy_eq {manager : Manager} {factory : ProxyFactory} (h : manager.Keeps factory) (id : Nat)
    (targetType : String) (interfaces : List InterfaceDescriptor) :
    ∃ records, manager.createProxy id targetType interfaces =
      ⟨(factory.create id targetType interfaces).1, serving (factory.create id targetType interfaces).2,
        records⟩ := by
  obtain rfl | rfl := h
  · exact ⟨_, rfl⟩
  · exact ⟨_, rfl⟩

end Manager

namespace Workshop

/-- The ways in which an operation is carried out. -/
inductive Conducts (workshop : Workshop) : WorkshopCall → WorkshopAnswer × Workshop → Prop where
  /-- There is nothing at the place. -/
  | absent (call : WorkshopCall) (answer : WorkshopAnswer) : Conducts workshop call (answer, workshop)
  /-- A manager is opened. -/
  | opens {call : WorkshopCall} (answer : WorkshopAnswer) {manager : Manager} : manager.IsOrderly →
    Conducts workshop call (answer, { workshop with sources := workshop.sources ++ [manager] })
  /-- A manager takes or refuses a registration or publishes its registries. -/
  | manages {call : WorkshopCall} (answer : WorkshopAnswer) {source : Nat} {manager later : Manager}
    (records : List LogRecord) : workshop.sources[source]? = some manager → manager.Becomes later →
    Conducts workshop call (answer,
      { workshop with
        sources := workshop.sources.set source later
        world := records.foldl World.log workshop.world })
  /-- A manager cannot make a proxy. -/
  | fails {source : Nat} {targetType : String} {interfaces : List InterfaceDescriptor}
    (answer : WorkshopAnswer) {manager later : Manager} (records : List LogRecord) :
    workshop.sources[source]? = some manager → manager.Becomes later →
    Conducts workshop (.createProxy source targetType interfaces) (answer,
      { workshop with
        sources := workshop.sources.set source later
        number := ProxyFactory.numberAfter workshop.number targetType
        world := records.foldl World.log workshop.world })
  /-- A manager makes a proxy. -/
  | creates {source : Nat} {targetType : String} {interfaces : List InterfaceDescriptor}
    (answer : WorkshopAnswer) {manager : Manager} {factory : ProxyFactory} {proxy : Proxy}
    (records : List LogRecord) : workshop.sources[source]? = some manager →
    manager.Becomes (.serving factory) → factory.Made workshop.number.toNat targetType interfaces proxy →
    Conducts workshop (.createProxy source targetType interfaces) (answer,
      { workshop with
        sources := workshop.sources.set source (.serving factory)
        number := workshop.number + 1
        made := workshop.made ++ [⟨source, proxy⟩]
        world := records.foldl World.log workshop.world })
  /-- A method is called. -/
  | calls {call : WorkshopCall} (answer : WorkshopAnswer) (world : World) :
    Conducts workshop call (answer, { workshop with world })
  /-- A proxy is asked for a capability. -/
  | accesses {place : Nat} {dial : Dialler} {capabilityType : String} {owner : MadeProxy}
    {outcome : Outcome (Option Value × Proxy)} {world : World} {runs : List MakerRun} :
    workshop.made[place]? = some owner →
    owner.proxy.Accesses dial capabilityType workshop.world (outcome, world) runs →
    Conducts workshop (.access place dial capabilityType) (.accessed (some (outcome.map Prod.fst)),
      { workshop with
        made := workshop.made.set place { owner with proxy := owner.proxy.settle outcome }
        world
        accesses := workshop.accesses ++ [(place, capabilityType)]
        makings := workshop.makings ++ runs.map (Making.mk place) })

/-- Every manager of a workshop is in order. -/
def IsOrderly (workshop : Workshop) : Prop := ∀ manager ∈ workshop.sources, manager.IsOrderly

variable {workshop : Workshop}

/-- A manager is let do something, if there is one. -/
theorem IsOrderly.conducts_manage {α : Type} (h : workshop.IsOrderly) {call : WorkshopCall} (source : Nat)
    {operation : Manager → Reply Manager α} (managed : ManagerCall)
    (hoperation : ∀ manager, (operation manager).state = (manager.perform managed).2) :
    workshop.Conducts call (workshop.manage source operation) := by
  unfold manage
  cases hsource : workshop.sources[source]? with
  | none => exact .absent call _
  | some manager =>
    have hbecomes := (h manager (List.mem_of_getElem? hsource)).becomes managed
    rw [← hoperation manager] at hbecomes
    exact .manages _ _ hsource hbecomes

/-- A manager is let make a proxy, if there is one, and can make it or not. -/
theorem IsOrderly.conducts_make (h : workshop.IsOrderly) (source : Nat) (targetType : String)
    (interfaces : List InterfaceDescriptor) :
    workshop.Conducts (.createProxy source targetType interfaces)
      (workshop.make source targetType interfaces) := by
  unfold make
  cases hsource : workshop.sources[source]? with
  | none => exact .absent _ _
  | some manager =>
    have horderly := h manager (List.mem_of_getElem? hsource)
    have hbecomes := horderly.becomes (.createProxy workshop.number.toNat targetType interfaces)
    obtain ⟨records, hreply⟩ := horderly.keeps.createProxy_eq workshop.number.toNat targetType interfaces
    have hintroductions :=
      (manager.factory.precedes_create workshop.number.toNat targetType interfaces).introductions_eq
    have hmade := @ProxyFactory.made_of_create manager.factory workshop.number.toNat targetType interfaces
    change manager.Becomes (manager.createProxy workshop.number.toNat targetType interfaces).state at hbecomes
    rw [hreply] at hbecomes
    simp only [hreply, keep]
    generalize manager.factory.create workshop.number.toNat targetType interfaces = created at *
    obtain ⟨result, factory⟩ := created
    cases result with
    | error error =>
      have hnone : workshop.made = workshop.made ++ [] := (List.append_nil _).symm
      rw [Except.toOption, Option.toList_none, List.map_nil, ← hnone]
      exact .fails _ records hsource hbecomes
    | ok proxy =>
      have hproxy := hmade rfl
      have hnumber : ProxyFactory.numberAfter workshop.number targetType = workshop.number + 1 := by
        rw [ProxyFactory.numberAfter, hproxy.named]
        rfl
      rw [hnumber]
      exact .creates _ records hsource hbecomes (hproxy.of_introductions_eq hintroductions)

/-- The proxy at a place is asked for a capability in one of the ways in which accesses end. -/
theorem exists_accesses {place : Nat} {owner : MadeProxy} (howner : workshop.made[place]? = some owner)
    (dial : Dialler) (capabilityType : String) :
    ∃ outcome world runs, owner.proxy.Accesses dial capabilityType workshop.world (outcome, world) runs ∧
      workshop.conduct (.access place dial capabilityType) = (.accessed (some (outcome.map Prod.fst)),
        { workshop with
          made := workshop.made.set place { owner with proxy := owner.proxy.settle outcome }
          world
          accesses := workshop.accesses ++ [(place, capabilityType)]
          makings := workshop.makings ++ runs.map (Making.mk place) }) := by
  refine ⟨(owner.proxy.capability dial capabilityType workshop.world).1,
    (owner.proxy.capability dial capabilityType workshop.world).2, _,
    owner.proxy.accesses dial capabilityType workshop.world, ?_⟩
  change workshop.ask place dial capabilityType = _
  rw [ask, howner]

/-- A workshop whose managers are in order carries out every operation in one of these ways. -/
theorem IsOrderly.conducts (h : workshop.IsOrderly) (call : WorkshopCall) :
    workshop.Conducts call (workshop.conduct call) := by
  cases call with
  | openManager => exact .opens _ Manager.isOrderly_empty
  | assemble advices tried => exact .opens _ (Manager.isOrderly_assembled advices tried)
  | register source aspect => exact h.conducts_manage source (.register aspect) fun _ => rfl
  | introduce source pattern capability capabilityType maker =>
    exact h.conducts_manage source (.introduce pattern capability capabilityType maker) fun _ => rfl
  | publish source => exact h.conducts_manage source .publish fun _ => rfl
  | createProxy source targetType interfaces => exact h.conducts_make source targetType interfaces
  | invoke place dial id arguments result terminal =>
    change workshop.Conducts _ (workshop.call place (·.invoke dial id arguments result terminal))
    unfold Workshop.call
    cases workshop.made[place]? with
    | none => exact .absent _ _
    | some owner => exact .calls _ _
  | access place dial capabilityType =>
    cases howner : workshop.made[place]? with
    | none =>
      change workshop.Conducts _ (workshop.ask place dial capabilityType)
      rw [ask, howner]
      exact .absent _ _
    | some owner =>
      obtain ⟨_, _, _, haccesses, hconduct⟩ := exists_accesses howner dial capabilityType
      rw [hconduct]
      exact .accesses howner haccesses

/-- The managers stay in order. -/
theorem IsOrderly.conduct (h : workshop.IsOrderly) (call : WorkshopCall) :
    (workshop.conduct call).2.IsOrderly := by
  have hconducts := h.conducts call
  generalize workshop.conduct call = ran at hconducts
  have hset : ∀ {source : Nat} {later : Manager}, later.IsOrderly →
      ∀ manager ∈ workshop.sources.set source later, manager.IsOrderly := by
    intro source later hlater manager hmem
    obtain hmem | rfl := List.mem_or_eq_of_mem_set hmem
    · exact h manager hmem
    · exact hlater
  cases hconducts with
  | absent _ _ => exact h
  | opens _ hmanager => exact List.forall_mem_append.mpr ⟨h, List.forall_mem_singleton.mpr hmanager⟩
  | manages _ _ _ hbecomes => exact hset hbecomes.orderly
  | fails _ _ _ hbecomes => exact hset hbecomes.orderly
  | creates _ _ _ hbecomes _ => exact hset hbecomes.orderly
  | calls _ _ => exact h
  | accesses _ _ => exact h

/-- The managers are always in order. -/
theorem isOrderly_after (world : World) (history : List WorkshopCall) : (after world history).IsOrderly :=
  History.after_keeps (fun _ call h => h.conduct call) history fun _ h => absurd h List.not_mem_nil

/-- What every operation keeps where managers are in order, every history keeps. -/
theorem after_keeps {invariant : Workshop → Prop} {world : World} (hinitial : invariant (initial world))
    (h : ∀ workshop call, workshop.IsOrderly → invariant workshop → invariant (workshop.conduct call).2)
    (history : List WorkshopCall) : invariant (after world history) := by
  have hkeeps : ∀ workshop call, workshop.IsOrderly ∧ invariant workshop →
      (conduct workshop call).2.IsOrderly ∧ invariant (conduct workshop call).2 :=
    fun workshop call hboth => ⟨hboth.1.conduct call, h workshop call hboth.1 hboth.2⟩
  exact (History.after_keeps hkeeps history ⟨isOrderly_after world [], hinitial⟩).2

/-- A manager has published its registries, with these introductions. -/
def Publishes (workshop : Workshop) (source : Nat) (introductions : IntroductionRegistry) : Prop :=
  ∃ factory, workshop.sources[source]? = some (.serving factory) ∧ factory.introductions = introductions

/-- What becomes of a workshop: registries that were published keep their introductions, a proxy changes only
in the instances of its capabilities, and the records grow. -/
structure Leads (workshop later : Workshop) : Prop where
  /-- Published registries keep their introductions. -/
  published : ∀ {source : Nat} {introductions : IntroductionRegistry},
    workshop.Publishes source introductions → later.Publishes source introductions
  /-- Proxies change only in their capabilities. -/
  made : ∀ {place : Nat} {owner : MadeProxy}, workshop.made[place]? = some owner →
    ∃ capabilities, later.made[place]? =
      some (MadeProxy.mk owner.source { owner.proxy with capabilities })
  /-- The record of accesses grows. -/
  accesses : workshop.accesses <+: later.accesses
  /-- The record of runs of makers grows. -/
  makings : workshop.makings <+: later.makings

/-- A workshop may stay as it is. -/
theorem Leads.refl (workshop : Workshop) : workshop.Leads workshop :=
  ⟨id, fun h => ⟨_, h⟩, List.prefix_rfl, List.prefix_rfl⟩

/-- What becomes of a workshop may go on. -/
theorem Leads.trans {later last : Workshop} (h : workshop.Leads later) (h' : later.Leads last) :
    workshop.Leads last := by
  refine ⟨fun hsource => h'.published (h.published hsource), fun howner => ?_,
    h.accesses.trans h'.accesses, h.makings.trans h'.makings⟩
  obtain ⟨_, hlater⟩ := h.made howner
  obtain ⟨capabilities, hlast⟩ := h'.made hlater
  exact ⟨capabilities, hlast⟩

/-- Published registries keep their introductions when some manager does something. -/
theorem Publishes.set {source place : Nat} {introductions : IntroductionRegistry} {manager later : Manager}
    (h : workshop.Publishes source introductions) (hmanager : workshop.sources[place]? = some manager)
    (hbecomes : manager.Becomes later) :
    ∃ factory, (workshop.sources.set place later)[source]? = some (.serving factory) ∧
      factory.introductions = introductions := by
  obtain ⟨factory, hfactory, rfl⟩ := h
  by_cases hplace : place = source
  · subst hplace
    have hsame : manager = .serving factory := Option.some.inj (hmanager.symm.trans hfactory)
    obtain ⟨grown, rfl, hgrown⟩ := hbecomes.published factory hsame
    obtain ⟨hlt, -⟩ := List.getElem?_eq_some_iff.mp hmanager
    exact ⟨grown, List.getElem?_set_self hlt, hgrown⟩
  · exact ⟨factory, (List.getElem?_set_ne hplace).trans hfactory, rfl⟩

/-- Every operation leads on. -/
theorem IsOrderly.leads_conduct (h : workshop.IsOrderly) (call : WorkshopCall) :
    workshop.Leads (workshop.conduct call).2 := by
  have hconducts := h.conducts call
  generalize workshop.conduct call = ran at hconducts
  have hsame := Leads.refl workshop
  cases hconducts with
  | absent _ _ => exact hsame
  | opens _ _ =>
    refine { hsame with published := ?_ }
    rintro source introductions ⟨factory, hfactory, hintroductions⟩
    obtain ⟨hlt, -⟩ := List.getElem?_eq_some_iff.mp hfactory
    exact ⟨factory, (List.getElem?_append_left hlt).trans hfactory, hintroductions⟩
  | manages _ _ hmanager hbecomes =>
    exact { hsame with published := fun hsource => hsource.set hmanager hbecomes }
  | fails _ _ hmanager hbecomes =>
    exact { hsame with published := fun hsource => hsource.set hmanager hbecomes }
  | creates _ _ hmanager hbecomes _ =>
    refine ⟨fun hsource => hsource.set hmanager hbecomes, fun {place owner} howner => ?_, hsame.accesses,
      hsame.makings⟩
    obtain ⟨hlt, -⟩ := List.getElem?_eq_some_iff.mp howner
    exact ⟨_, (List.getElem?_append_left hlt).trans howner⟩
  | calls _ _ => exact ⟨hsame.published, hsame.made, hsame.accesses, hsame.makings⟩
  | @accesses place _ _ owner _ _ _ howner haccesses =>
    refine ⟨hsame.published, fun {other found} hfound => ?_, List.prefix_append _ _,
      List.prefix_append _ _⟩
    by_cases hplace : place = other
    · subst hplace
      obtain ⟨capabilities, hsettle⟩ := haccesses.settle_eq
      cases Option.some.inj (howner.symm.trans hfound)
      obtain ⟨hlt, -⟩ := List.getElem?_eq_some_iff.mp howner
      rw [hsettle]
      exact ⟨capabilities, List.getElem?_set_self hlt⟩
    · exact ⟨_, (List.getElem?_set_ne hplace).trans hfound⟩

/-- Every history leads on. -/
theorem leads_after (world : World) (history later : List WorkshopCall) :
    (after world history).Leads (after world (history ++ later)) := by
  have horderly := isOrderly_after world history
  rw [after_append]
  generalize after world history = workshop at horderly
  induction later generalizing workshop with
  | nil => exact .refl workshop
  | cons call later ih => exact (horderly.leads_conduct call).trans (ih _ (horderly.conduct call))

end Workshop

end Interception
