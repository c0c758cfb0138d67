import Interception.Directory
import Interception.Proofs.AttendedNest
import Interception.Proofs.BeforeRuns

/-!
# Calls with observers

A call does the same with and without observers among its around advices. Before advices run in calls that
differ in their surroundings only, and after the nest no advice sees more of the call than what is alike. So
the calls end in the same way, and if calls nested in them go through chains that differ by observers as well,
they do the same too; this is an induction on how deeply calls are nested.
-/

namespace Interception

variable {keep : JournalEntry → Bool} {dial dial' : Dialler} {rest : List Float32}

namespace Running

/-- The same call in surroundings that are alike. -/
structure Parallel (rest : List Float32) (running running' : Running) : Prop where
  /-- The calls are the same. -/
  invocation_eq : running.invocation = running'.invocation
  /-- The surroundings are alike. -/
  world : World.Alike rest running.world running'.world

/-- Calls that are alike apart from the means by which their nests are run. -/
def Alike (keep : JournalEntry → Bool) (rest : List Float32) (running running' : Running) : Prop :=
  CallState.Alike keep rest running.callState running'.callState

variable {running running' : Running}

/-- Changing the same call in the same way leaves it the same. -/
theorem Parallel.mapInvocation (h : Parallel rest running running') (f : Invocation → Invocation) :
    Parallel rest (running.mapInvocation f) (running'.mapInvocation f) :=
  ⟨congrArg f h.invocation_eq, h.world⟩

/-- Log records do not matter. -/
theorem Parallel.log (h : Parallel rest running running') (record record' : LogRecord) :
    Parallel rest (running.log record) (running'.log record') :=
  ⟨h.invocation_eq, h.world.log record record'⟩

/-- The same call is alike. -/
theorem Parallel.alike (h : Parallel rest running running') : Alike keep rest running running' := by
  obtain ⟨invocation, world⟩ := running
  obtain ⟨_, world'⟩ := running'
  obtain ⟨rfl, hworld⟩ := h
  exact ⟨rfl, rfl, rfl, rfl, rfl, rfl, hworld⟩

/-- Refusals to proceed are the same in the same call. -/
theorem proceed_parallel (h : Parallel rest running running') :
    Echo (Parallel rest) Eq (proceed Run.exhausted running) (proceed Run.exhausted running') := by
  unfold proceed
  rw [← h.invocation_eq]
  cases running.invocation.frames with
  | nil => exact .returned rfl h
  | cons frame outer =>
    simp only
    split
    · exact .returned rfl (h.mapInvocation _)
    · split
      · exact .returned rfl ((h.mapInvocation _).log _ _)
      · exact .exhausted (h.mapInvocation _)

/-- The requests of a before advice are answered with the same in the same call. -/
theorem before_answers (hdial : dial.Mimics dial') :
    Answers Parallel Program.Same (Steering.answer dial (proceed Run.exhausted))
      (Steering.answer dial' (proceed Run.exhausted)) := by
  intro request running
  cases request with
  | ambient request =>
    obtain ⟨drawn, hanswer⟩ := Ambient.answers hdial request running.world
    refine ⟨drawn, fun request' echoes running' rest hpair h => ?_⟩
    cases hpair with
    | refl =>
      have hworld := hanswer _ _ running'.world rest (.refl request) h.world
      exact hworld.map (Parallel rest) (fun world => { running with world })
        (fun world => { running' with world }) fun _ _ hworld => ⟨h.invocation_eq, hworld⟩
  | view =>
    refine ⟨[], fun request' echoes running' rest hpair h => ?_⟩
    cases hpair with
    | refl =>
      have hview : running.invocation.view running.world.scopes =
          running'.invocation.view running'.world.scopes := by rw [h.invocation_eq, h.world.scopes_eq]
      exact .returned hview h
  | description =>
    refine ⟨[], fun request' echoes running' rest hpair h => ?_⟩
    cases hpair with
    | refl => exact .returned (congrArg Invocation.describe h.invocation_eq) h
  | setArguments arguments =>
    refine ⟨[], fun request' echoes running' rest hpair h => ?_⟩
    cases hpair with
    | refl => exact .returned rfl (h.mapInvocation _)
  | setRoutingKey key =>
    refine ⟨[], fun request' echoes running' rest hpair h => ?_⟩
    cases hpair with
    | refl =>
      have hscopes : running.world.scopes.set running.invocation.scope key =
          running'.world.scopes.set running'.invocation.scope key := by
        rw [h.invocation_eq, h.world.scopes_eq]
      exact .returned rfl ⟨h.invocation_eq, h.world.withScopes hscopes⟩
  | proceed =>
    refine ⟨[], fun request' echoes running' rest hpair h => ?_⟩
    cases hpair with
    | refl => exact proceed_parallel h

/-- A before advice does the same in the same call. -/
theorem runBefore_mimics (hdial : dial.Mimics dial') (step : Step BeforeBody) :
    Run.Mimics Parallel (runBefore dial step) (runBefore dial' step) := by
  refine .bind (.modify fun _ _ _ h => h.mapInvocation _) fun _ => ?_
  refine .bind ((before_answers hdial).mimics (.refl step.body)) fun result => ?_
  exact .bind (.modify fun _ _ _ h => h.mapInvocation _) fun _ => .pure result

end Running

/-- Before advices do the same in the same call. -/
theorem Chain.runBefores_mimics (hdial : dial.Mimics dial') (steps : List (Step BeforeBody)) :
    Run.Mimics Running.Parallel (Chain.runBefores dial steps) (Chain.runBefores dial' steps) := by
  induction steps with
  | nil => exact .pure _
  | cons step steps ih =>
    refine .bind (Running.runBefore_mimics hdial step) fun result => ?_
    cases result with
    | error error => exact .pure _
    | ok => exact ih

/-- Chains that are the same but for observers. Apart from these and from the before advices, no advice depends
on the cursor. -/
structure Chain.Attended (keep : JournalEntry → Bool) (chain chain' : Chain) : Prop where
  /-- The before advices are the same. -/
  befores_eq : chain.befores = chain'.befores
  /-- The around advices are the same but for observers. -/
  arounds : OneShot.Attended keep chain.arounds chain'.arounds
  /-- They do not go on after a panic of what they proceeded to. -/
  arounds_unwind : ∀ step ∈ chain.arounds, step.body.Unwinds
  /-- The after advices are the same. -/
  afters_eq : chain.afters = chain'.afters
  /-- They do not depend on the cursor. -/
  afters_blind : ∀ step ∈ chain.afters, step.body.IsBlind
  /-- The advices for a returned value are the same. -/
  afterReturnings_eq : chain.afterReturnings = chain'.afterReturnings
  /-- They do not depend on the cursor. -/
  afterReturnings_blind : ∀ step ∈ chain.afterReturnings, ∀ value, (step.body value).IsBlind
  /-- The advices for an error are the same. -/
  afterThrowings_eq : chain.afterThrowings = chain'.afterThrowings
  /-- They do not depend on the cursor. -/
  afterThrowings_blind : ∀ step ∈ chain.afterThrowings, ∀ error, (step.body error).IsBlind

namespace Chain

variable {chain chain' : Chain}

/-- It does not matter in which chain the observers stand. -/
theorem Attended.symm (h : Attended keep chain chain') : Attended keep chain' chain :=
  { befores_eq := h.befores_eq.symm
    arounds := h.arounds.symm
    arounds_unwind := h.arounds.unwinds h.arounds_unwind
    afters_eq := h.afters_eq.symm
    afters_blind := h.afters_eq ▸ h.afters_blind
    afterReturnings_eq := h.afterReturnings_eq.symm
    afterReturnings_blind := h.afterReturnings_eq ▸ h.afterReturnings_blind
    afterThrowings_eq := h.afterThrowings_eq.symm
    afterThrowings_blind := h.afterThrowings_eq ▸ h.afterThrowings_blind }

/-- Up to the end of its nest, a call does the same with and without observers. -/
theorem runInner_mimics (hdial : dial.Mimics dial') (h : Attended keep chain chain') {terminal : Terminal}
    (running : Running) (hcursor : running.invocation.cursor = 0)
    (hterminal : running.invocation.terminal = some terminal) :
    Run.MimicsFrom Running.Parallel (Running.Alike keep) running (chain.runInner dial)
      (chain'.runInner dial') := by
  have hdescribed : ∃ drawn, ∀ running' rest, Running.Parallel (drawn ++ rest) running running' →
      Echo (CallState.Alike keep rest) Eq (OneShot.runInner chain dial terminal running)
        (OneShot.runInner chain' dial' terminal running') := by
    obtain ⟨drawn, hbefores⟩ := runBefores_mimics hdial chain.befores running
    unfold OneShot.runInner
    rw [← h.befores_eq]
    generalize runBefores dial chain.befores running = ran at hbefores ⊢
    obtain ⟨outcome, after⟩ := ran
    match outcome with
    | .returned (.ok ()) =>
      obtain ⟨drawn', hnest⟩ := OneShot.nest_mimics hdial terminal h.arounds
        ((after.callState.enterPhase .beforeDone).enterPhase .aroundNestRunning)
      refine ⟨drawn ++ drawn', fun running' rest hrunning => ?_⟩
      rw [List.append_assoc] at hrunning
      have hafter := hbefores running' (drawn' ++ rest) hrunning
      generalize runBefores dial' chain.befores running' = ran' at hafter
      cases hafter with
      | returned hvalue hstate =>
        cases hvalue
        exact hnest _ rest ((hstate.alike.enterPhase .beforeDone).enterPhase .aroundNestRunning)
    | .returned (.error error) =>
      refine ⟨drawn, fun running' rest hrunning => ?_⟩
      have hafter := hbefores running' rest hrunning
      generalize runBefores dial' chain.befores running' = ran' at hafter
      cases hafter with
      | returned hvalue hstate =>
        cases hvalue
        exact .returned rfl hstate.alike
    | .panicked message =>
      refine ⟨drawn, fun running' rest hrunning => ?_⟩
      have hafter := hbefores running' rest hrunning
      generalize runBefores dial' chain.befores running' = ran' at hafter
      cases hafter with
      | panicked hstate => exact .panicked hstate.alike
    | .exhausted =>
      refine ⟨drawn, fun running' rest hrunning => ?_⟩
      have hafter := hbefores running' rest hrunning
      generalize runBefores dial' chain.befores running' = ran' at hafter
      cases hafter with
      | exhausted hstate => exact .exhausted hstate.alike
  obtain ⟨drawn, hran⟩ := hdescribed
  refine ⟨drawn, fun running' rest hrunning => ?_⟩
  have hinner := hran running' rest hrunning
  rw [← OneShot.runInner_eq (.inl h.arounds_unwind) hcursor hterminal,
    ← OneShot.runInner_eq (.inl (h.arounds.unwinds h.arounds_unwind)) (hrunning.invocation_eq ▸ hcursor)
      (hrunning.invocation_eq ▸ hterminal)] at hinner
  exact .of_eq hinner.outcome_eq hinner.state

/-- Calls that move on to a phase stay alike. -/
theorem enterPhase_mimics (phase : CallPhase) :
    Run.Mimics (Running.Alike keep) (enterPhase phase) (enterPhase phase) :=
  .modify fun _ _ _ h => CallState.Alike.enterPhase h phase

/-- Answers a request of an advice that only sees the call, in the call. -/
def answerObserving (dial : Dialler) (request : Observing) : Run Running request.Answer := fun running =>
  Run.inWorld (request.answer dial running.invocation) running

/-- An advice at the end of the call is run in the call, which it does not change. -/
theorem run_inWorld_observing {α : Type} (dial : Dialler) (program : ObservingProgram α)
    (running : Running) : Run.inWorld (program.run (Observing.answer dial running.invocation)) running =
      program.run (answerObserving dial) running := by
  induction program generalizing running with
  | done value => rfl
  | panic message => rfl
  | ask request next ih =>
    simp only [Program.run_ask, Run.bind, Run.inWorld, answerObserving]
    generalize Observing.answer dial running.invocation request running.world = ran
    obtain ⟨outcome, world⟩ := ran
    cases outcome with
    | returned reply => exact ih reply { running with world }
    | panicked message => rfl
    | exhausted => rfl
  | attempt request next ih =>
    simp only [Program.run_attempt, Run.bind, Run.attempt, Run.inWorld, answerObserving]
    generalize Observing.answer dial running.invocation request running.world = ran
    obtain ⟨outcome, world⟩ := ran
    cases outcome with
    | returned reply => exact ih (.ok reply) { running with world }
    | panicked message => exact ih (.error message) { running with world }
    | exhausted => rfl

/-- The requests of an advice at the end of the call are answered alike in calls that are alike. -/
theorem observing_answers (hdial : dial.Mimics dial') :
    Answers (Running.Alike keep) Observing.Pairs (answerObserving dial) (answerObserving dial') := by
  intro request running
  cases request with
  | ambient request =>
    obtain ⟨drawn, hanswer⟩ := Ambient.answers hdial request running.world
    refine ⟨drawn, fun request' echoes running' rest hpair h => ?_⟩
    cases hpair with
    | ambient hpair =>
      have hworld := hanswer _ _ running'.world rest hpair h.world
      exact hworld.map (Running.Alike keep rest) (fun world => { running with world })
        (fun world => { running' with world }) fun _ _ hworld => CallState.Alike.withWorld h hworld
  | view =>
    refine ⟨[], fun request' echoes running' rest hpair h => ?_⟩
    cases hpair with
    | view => exact .returned (CallState.Alike.view_eq h) h
  | description =>
    refine ⟨[], fun request' echoes running' rest hpair h => ?_⟩
    cases hpair with
    | description =>
      have hdescribe := CallState.Alike.describe h
      rw [OneShot.callState_describe, OneShot.callState_describe] at hdescribe
      exact .returned hdescribe h

/-- An advice at the end of the call that does not depend on the cursor does the same in calls that are
alike. -/
theorem observe_mimics {α : Type} (hdial : dial.Mimics dial') (kind : AdviceKind) (sequence : Nat)
    {program : ObservingProgram α} (hblind : program.IsBlind) :
    Run.Mimics (Running.Alike keep) (observe dial kind sequence program)
      (observe dial' kind sequence program) := by
  have hrun : ∀ dial, observe dial kind sequence program =
      (Run.modify (·.mapInvocation (·.record (.advice kind sequence))) >>= fun _ =>
        program.run (answerObserving dial)) := by
    intro dial
    funext running
    exact run_inWorld_observing dial program _
  rw [hrun, hrun]
  refine .bind (.modify fun _ _ _ h => CallState.Alike.record h (.advice kind sequence)) fun _ => ?_
  exact (observing_answers hdial).mimics hblind

/-- Log records do not matter to what is done. -/
theorem log_mimics {α : Type} (value : α) (record record' : Running → LogRecord) :
    Run.Mimics (Running.Alike keep) (fun running => (.returned value, running.log (record running)))
      (fun running => (.returned value, running.log (record' running))) :=
  .of_echo fun _ _ _ h => .returned rfl (CallState.Alike.log h _ _)

/-- After advices do the same in calls that are alike. -/
theorem runAfters_mimics (hdial : dial.Mimics dial') (outcome : CallResult)
    {steps : List (Step AfterBody)} (hblind : ∀ step ∈ steps, step.body.IsBlind) :
    Run.Mimics (Running.Alike keep) (runAfters dial outcome steps) (runAfters dial' outcome steps) := by
  induction steps with
  | nil => exact .pure _
  | cons step steps ih =>
    obtain ⟨hstep, hothers⟩ := List.forall_mem_cons.mp hblind
    refine .bind (observe_mimics hdial .after step.sequence hstep) fun result => ?_
    cases result with
    | ok => exact ih hothers
    | error error =>
      cases outcome with
      | ok value => exact .pure _
      | error replaced => exact log_mimics _ _ _

/-- The advices for a returned value do the same in calls that are alike. -/
theorem runAfterReturnings_mimics (hdial : dial.Mimics dial') (value : Value)
    {steps : List (Step AfterReturningBody)} (hblind : ∀ step ∈ steps, ∀ value, (step.body value).IsBlind) :
    Run.Mimics (Running.Alike keep) (runAfterReturnings dial value steps)
      (runAfterReturnings dial' value steps) := by
  induction steps with
  | nil => exact .pure _
  | cons step steps ih =>
    obtain ⟨hstep, hothers⟩ := List.forall_mem_cons.mp hblind
    refine .bind (observe_mimics hdial .afterReturning step.sequence (hstep value)) fun result => ?_
    cases result with
    | ok => exact ih hothers
    | error error => exact .pure _

/-- The advices for an error do the same in calls that are alike. -/
theorem runAfterThrowings_mimics (hdial : dial.Mimics dial') (error : AopError) (swallowed : Option Value)
    {steps : List (Step AfterThrowingBody)} (hblind : ∀ step ∈ steps, ∀ error, (step.body error).IsBlind) :
    Run.Mimics (Running.Alike keep) (runAfterThrowings dial error swallowed steps)
      (runAfterThrowings dial' error swallowed steps) := by
  induction steps generalizing swallowed with
  | nil => cases swallowed <;> exact .pure _
  | cons step steps ih =>
    obtain ⟨hstep, hothers⟩ := List.forall_mem_cons.mp hblind
    refine .bind (observe_mimics hdial .afterThrowing step.sequence (hstep error)) fun result => ?_
    cases result with
    | error replaced => exact .pure _
    | ok disposition =>
      cases disposition with
      | rethrow => exact ih swallowed hothers
      | swallow value =>
        cases swallowed with
        | some earlier => exact ih _ hothers
        | none => exact .bind (log_mimics () _ _) fun _ => ih _ hothers

/-- The advices that depend on how the call ended do the same in calls that are alike. -/
theorem runEnding_mimics (hdial : dial.Mimics dial') (h : Attended keep chain chain')
    (outcome : CallResult) :
    Run.Mimics (Running.Alike keep) (chain.runEnding dial outcome) (chain'.runEnding dial' outcome) := by
  cases outcome with
  | ok value =>
    refine .bind (enterPhase_mimics _) fun _ => ?_
    rw [← h.afterReturnings_eq]
    exact runAfterReturnings_mimics hdial value h.afterReturnings_blind
  | error error =>
    refine .bind (enterPhase_mimics _) fun _ => ?_
    rw [← h.afterThrowings_eq]
    exact runAfterThrowings_mimics hdial error none h.afterThrowings_blind

/-- A call does the same with and without observers. -/
theorem runPhases_mimics (hdial : dial.Mimics dial') (h : Attended keep chain chain') {terminal : Terminal}
    (running : Running) (hcursor : running.invocation.cursor = 0)
    (hterminal : running.invocation.terminal = some terminal) :
    Run.MimicsFrom Running.Parallel (Running.Alike keep) running (chain.runPhases dial)
      (chain'.runPhases dial') := by
  refine (runInner_mimics hdial h running hcursor hterminal).bind fun outcome => ?_
  refine .bind (enterPhase_mimics _) fun _ => .bind ?_ fun outcome => ?_
  · rw [← h.afters_eq]
    exact runAfters_mimics hdial outcome h.afters_blind
  · refine .bind (runEnding_mimics hdial h outcome) fun result => ?_
    exact .bind (enterPhase_mimics _) fun _ => .pure result

/-- Calls of the same method with the same arguments begin as the same call. -/
theorem start_parallel {world world' : World} (h : World.Alike rest world world')
    (signature : CallSignature) (arguments : Arguments) (terminal : Terminal) :
    Running.Parallel rest (start signature arguments terminal world)
      (start signature arguments terminal world') := by
  have hscope : world.scopes.enter.1 = world'.scopes.enter.1 := by rw [h.scopes_eq]
  have hscopes : world.scopes.enter.2 = world'.scopes.enter.2 := by rw [h.scopes_eq]
  refine ⟨?_, h.withScopes hscopes⟩
  change Invocation.begin signature arguments terminal world.scopes.enter.1 = _
  rw [hscope]
  rfl

/-- Executing a chain does the same with and without observers. -/
theorem execute_mimics (hdial : dial.Mimics dial') (h : Attended keep chain chain')
    (signature : CallSignature) (arguments : Arguments) (terminal : Terminal) :
    Run.Mimics World.Alike (chain.execute dial signature arguments terminal)
      (chain'.execute dial' signature arguments terminal) := by
  intro world
  obtain ⟨drawn, hran⟩ :=
    runPhases_mimics hdial h (start signature arguments terminal world) rfl rfl
  refine ⟨drawn, fun world' rest hworld => ?_⟩
  have hphases := hran _ rest (start_parallel hworld signature arguments terminal)
  refine hphases.map (World.Alike rest)
    (fun running => { running.world with scopes := running.world.scopes.leave running.invocation.scope })
    (fun running => { running.world with scopes := running.world.scopes.leave running.invocation.scope })
    fun running running' h => ?_
  have hscopes : running.world.scopes.leave running.invocation.scope =
      running'.world.scopes.leave running'.invocation.scope := by
    have hopen : running.world.scopes = running'.world.scopes := h.world.scopes_eq
    have hscope : running.invocation.scope = running'.invocation.scope := h.scope_eq
    rw [hopen, hscope]
  exact h.world.withScopes hscopes

end Chain

/-- Methods that are the same but for observers in their chains. -/
structure DispatchEntry.Attended (entry entry' : DispatchEntry) : Prop where
  /-- The signatures are the same. -/
  signature_eq : entry.signature = entry'.signature
  /-- The chains are the same but for observers. -/
  chain : ∃ keep, entry.chain.Attended keep entry'.chain

/-- Proxies that are the same but for observers in their chains. -/
structure Proxy.Attended (proxy proxy' : Proxy) : Prop where
  /-- They have the same number. -/
  id_eq : proxy.id = proxy'.id
  /-- They stand for targets of the same type. -/
  targetType_eq : proxy.targetType = proxy'.targetType
  /-- Methods are found in the same places. -/
  index_eq : proxy.index = proxy'.index
  /-- The methods are the same but for observers. -/
  methods : List.Forall₂ DispatchEntry.Attended proxy.methods proxy'.methods

/-- Services that are the same but for observers in the chains of their proxies. -/
structure Service.Attended (service service' : Service) : Prop where
  /-- The proxies are the same but for observers. -/
  proxy : service.proxy.Attended service'.proxy
  /-- The targets are the same. -/
  methods_eq : service.methods = service'.methods

/-- Directories that are the same but for observers. -/
def Directory.Attended (directory directory' : Directory) : Prop :=
  List.Forall₂ (fun entry entry' => entry.1 = entry'.1 ∧ entry.2.Attended entry'.2)
    directory.services directory'.services

namespace Proxy.Attended

variable {proxy proxy' : Proxy}

/-- It does not matter in which proxy the observers are. -/
theorem symm (h : proxy.Attended proxy') : proxy'.Attended proxy := by
  refine ⟨h.id_eq.symm, h.targetType_eq.symm, h.index_eq.symm, h.methods.flip.imp ?_⟩
  intro entry' entry hentry
  obtain ⟨keep, hchain⟩ := hentry.chain
  exact ⟨hentry.signature_eq.symm, keep, hchain.symm⟩

/-- Observers make no difference to which method an identifier belongs. -/
theorem entry? (h : proxy.Attended proxy') (id : MethodId) :
    Option.Rel DispatchEntry.Attended (proxy.entry? id) (proxy'.entry? id) := by
  unfold Proxy.entry?
  rw [h.id_eq]
  split
  · have hlength := h.methods.length_eq
    by_cases hindex : id.index < proxy.methods.length
    · have hindex' : id.index < proxy'.methods.length := hlength ▸ hindex
      rw [List.getElem?_eq_getElem hindex, List.getElem?_eq_getElem hindex']
      exact .some (h.methods.get hindex hindex')
    · have hindex' : ¬ id.index < proxy'.methods.length := hlength ▸ hindex
      rw [List.getElem?_eq_none (Nat.le_of_not_lt hindex), List.getElem?_eq_none (Nat.le_of_not_lt hindex')]
      exact .none
  · exact .none

/-- Observers make no difference to what is found by name. -/
theorem method_eq (h : proxy.Attended proxy') (interface method : String) :
    proxy.method interface method = proxy'.method interface method := by
  simp only [Proxy.method, h.id_eq, h.targetType_eq, h.index_eq]

/-- Calling a method of a proxy does the same with and without observers. -/
theorem invoke_mimics (h : proxy.Attended proxy') (hdial : dial.Mimics dial') (id : MethodId)
    (arguments : Arguments) (result : ValueType) (terminal : Terminal) :
    Run.Mimics World.Alike (proxy.invoke dial id arguments result terminal)
      (proxy'.invoke dial' id arguments result terminal) := by
  have hentry := h.entry? id
  unfold Proxy.invoke
  generalize proxy.entry? id = entry at hentry ⊢
  generalize proxy'.entry? id = entry' at hentry ⊢
  cases hentry with
  | none =>
    rw [h.targetType_eq]
    exact .pure _
  | some hentry =>
    obtain ⟨keep, hchain⟩ := hentry.chain
    refine .bind ?_ fun outcome => .pure _
    rw [hentry.signature_eq]
    exact Chain.execute_mimics hdial hchain _ arguments terminal

end Proxy.Attended

namespace Directory.Attended

variable {directory directory' : Directory}

/-- It does not matter in which directory the observers are. -/
theorem symm (h : directory.Attended directory') : directory'.Attended directory := by
  refine h.flip.imp ?_
  rintro entry' entry ⟨hname, hservice⟩
  exact ⟨hname.symm, hservice.proxy.symm, hservice.methods_eq.symm⟩

/-- Observers make no difference to which services are known. -/
theorem find? (h : directory.Attended directory') (name : String) :
    Option.Rel Service.Attended (directory.find? name) (directory'.find? name) := by
  obtain ⟨services⟩ := directory
  obtain ⟨services'⟩ := directory'
  change List.Forall₂ _ services services' at h
  change Option.Rel _ (services.lookup name) (services'.lookup name)
  induction h with
  | nil => exact .none
  | @cons entry entry' services services' hentry _ ih =>
    obtain ⟨known, service⟩ := entry
    obtain ⟨_, service'⟩ := entry'
    obtain ⟨rfl, hservice⟩ := hentry
    rw [List.lookup_cons, List.lookup_cons]
    cases name == known with
    | true => exact .some hservice
    | false => exact ih

/-- Calls by name do the same with and without observers, however deeply they are nested. -/
theorem dial_mimics (h : directory.Attended directory') (depth : Nat) :
    (directory.dial depth).Mimics (directory'.dial depth) := by
  induction depth with
  | zero => exact fun _ => .of_echo fun _ _ _ hworld => .exhausted hworld
  | succ depth ih =>
    intro call
    have hfound := h.find? call.proxy
    unfold Directory.dial
    generalize directory.find? call.proxy = found at hfound ⊢
    generalize directory'.find? call.proxy = found' at hfound ⊢
    cases hfound with
    | none => exact .pure _
    | @some service service' hservice =>
      have hmethod := hservice.proxy.method_eq call.interface call.method
      have htarget : service.method call.interface call.method =
          service'.method call.interface call.method := by
        rw [Service.method, Service.method, hservice.methods_eq]
      simp only [hmethod, Service.invoke, htarget]
      split
      · exact .pure _
      · exact hservice.proxy.invoke_mimics ih _ _ _ _

end Directory.Attended

end Interception
