import Interception.Proofs.CallSettlement
import Interception.Proofs.ObservedNest
import Interception.Proofs.TypedMethods

/-!
# Calls that are only observed

Advices may only observe the calls of a method: the ones before it succeed and leave the arguments as they
are, the ones around it proceed once with the arguments that they found and give back what came of it, and
the ones after it succeed and let errors pass on. How many there are and in which order does not matter.

The surroundings in which the target of such a call is entered do not depend on the target. It is entered
once, with the arguments of the call, and the call ends as the target does. So a caller that knows the types
of the method cannot tell the proxy from its target.
-/

namespace Interception

/-- A before advice that only observes the calls of a method with the given arguments: it succeeds and
leaves the arguments as they are. -/
def Step.Admits (step : Step BeforeBody) (dial : Dialler) (signature : CallSignature)
    (arguments : Arguments) : Prop :=
  ∀ running result later, running.IsCall signature arguments →
    Running.runBefore dial step running = (.returned result, later) →
    result = .ok () ∧ later.invocation.arguments = arguments

/-- Where a run leads from the beginning of a phase, it leads if the phase is entered first. -/
theorem Running.Serves.enterPhase {dial : Dialler} {run : Run Running CallResult} {phase : CallPhase}
    {running : Running} (h : Serves dial run (running.mapInvocation (·.enterPhase phase))) :
    Serves dial (Chain.enterPhase phase >>= fun _ => run) running := by
  obtain ⟨entered, hentered⟩ := h
  refine ⟨entered, fun terminal outcome later hrun => ?_⟩
  obtain ⟨hserved, left, hleft⟩ := hentered terminal outcome later hrun
  have htargets : (running.mapInvocation (·.enterPhase phase)).targets = running.targets := by
    rw [targets, journal_enterPhase, List.filterMap_append]
    exact List.append_nil _
  exact ⟨⟨hserved.signature, hserved.frames, htargets ▸ hserved.targets⟩, left, hleft⟩

namespace Chain

/-- Advices that only observe the calls of a method with the given arguments. -/
structure OnlyObserves (chain : Chain) (dial : Dialler) (signature : CallSignature)
    (arguments : Arguments) : Prop where
  /-- Before advices succeed and leave the arguments as they are. -/
  befores : ∀ step ∈ chain.befores, step.Admits dial signature arguments
  /-- Around advices proceed once, with these arguments, and return what came of it. -/
  arounds : ∀ step ∈ chain.arounds, step.Relays dial signature arguments
  /-- After advices succeed. -/
  afters : ∀ step ∈ chain.afters, ∀ running result later, running.invocation.signature = signature →
    observing dial .after id step running = (.returned result, later) → result = .ok ()
  /-- Advices for a returned value succeed. -/
  afterReturnings : ∀ step ∈ chain.afterReturnings, ∀ value running result later,
    running.invocation.signature = signature →
    observing dial .afterReturning (· value) step running = (.returned result, later) → result = .ok ()
  /-- Advices for an error let it pass on. -/
  afterThrowings : ∀ step ∈ chain.afterThrowings, ∀ error running result later,
    running.invocation.signature = signature →
    observing dial .afterThrowing (· error) step running = (.returned result, later) →
    result = .ok .rethrow

variable {chain : Chain} {dial : Dialler} {signature : CallSignature} {arguments : Arguments}

/-- Before advices that only observe succeed and leave the arguments as they are. -/
theorem runBefores_observed {steps : List (Step BeforeBody)}
    (hsteps : ∀ step ∈ steps, step.Admits dial signature arguments)
    {running later : Running} {result : Except AopError Unit} (hcall : running.IsCall signature arguments)
    (hrun : runBefores dial steps running = (.returned result, later)) :
    result = .ok () ∧ later.invocation.arguments = arguments := by
  induction steps generalizing running with
  | nil =>
    cases hrun
    exact ⟨rfl, hcall.arguments⟩
  | cons step steps ih =>
    obtain ⟨hstep, hothers⟩ := List.forall_mem_cons.mp hsteps
    obtain ⟨answer, between, hbefore, hrest⟩ := Run.bind_eq_returned_iff.mp hrun
    obtain ⟨rfl, harguments⟩ := hstep running answer between hcall hbefore
    obtain ⟨_, _, _, hinvocation, _⟩ := Running.runBefore_invocation dial step running
    rw [hbefore] at hinvocation
    have hbetween : between.invocation.signature = signature :=
      (congrArg Invocation.signature hinvocation :).trans hcall.signature
    exact ih hothers ⟨hbetween, harguments⟩ hrest

/-- The target is not entered by before advices. -/
theorem runBefores_targets (dial : Dialler) (steps : List (Step BeforeBody)) (running : Running) :
    (runBefores dial steps running).2.targets = running.targets := by
  obtain ⟨_, _, entries, hentries, hinvocation, _⟩ := runBefores_invocation dial steps running
  obtain ⟨_, htally⟩ := hentries.tally
  have hnone : entries.filterMap JournalEntry.target? = [] :=
    List.eq_nil_of_length_eq_zero htally.targets_eq
  rw [Running.targets, hinvocation]
  simp [Invocation.afterBefores, Running.targets, hnone]

/-- A call whose advices only observe is left to the target, up to the end of its nest. -/
theorem OnlyObserves.runInner_serves (h : chain.OnlyObserves dial signature arguments)
    {running : Running} (hcall : running.IsCall signature arguments) :
    Running.Serves dial (chain.runInner dial) running := by
  have hblind := runBefores_isBlind dial chain.befores running
  have htargets := runBefores_targets dial chain.befores running
  obtain ⟨_, _, _, _, hinvocation, hframes⟩ := runBefores_invocation dial chain.befores running
  cases hbefores : runBefores dial chain.befores running with
  | mk outcome between =>
    rw [hbefores] at hblind htargets hinvocation hframes
    cases outcome with
    | returned result =>
      obtain ⟨rfl, harguments⟩ := runBefores_observed h.befores hcall hbefores
      have hbetween : between.invocation.signature = running.invocation.signature :=
        (congrArg Invocation.signature hinvocation :)
      have hsame : between.invocation.frames = running.invocation.frames :=
        (congrArg Invocation.frames hinvocation :).trans (hframes _ rfl)
      have hnest : Running.Serves dial
          (enterPhase .beforeDone >>= fun _ => Running.runNest dial chain.arounds) between :=
        .enterPhase (.enterPhase (Running.proceedNext_serves h.arounds _
          ⟨hbetween.trans hcall.signature, harguments⟩))
      obtain ⟨entered, hentered⟩ := hnest
      refine ⟨entered, fun terminal outcome later hrun => ?_⟩
      rw [runInner, Run.bind_apply, hblind terminal] at hrun
      obtain ⟨hserved, left, hleft⟩ := hentered terminal outcome later hrun
      have hkept : between.invocation.arguments = running.invocation.arguments :=
        harguments.trans hcall.arguments.symm
      refine ⟨⟨hserved.signature.trans hbetween, hserved.frames.trans hsame, ?_⟩, left, hkept ▸ hleft⟩
      rw [hserved.targets, hkept]
      exact congrArg (· ++ _) htargets
    | panicked message =>
      refine ⟨running.world, fun terminal outcome later hrun => ?_⟩
      rw [runInner, Run.bind_apply, hblind terminal] at hrun
      cases hrun
    | exhausted =>
      refine ⟨running.world, fun terminal outcome later hrun => ?_⟩
      rw [runInner, Run.bind_apply, hblind terminal] at hrun
      cases hrun

/-- Advices at the end of a call that all answer as expected leave it to the next ones for the same
method. -/
theorem InOrder.expected {Body R : Type} {kind : AdviceKind}
    {given : Body → ObservingProgram (Except AopError R)} {steps : List (Step Body)} {answer : R}
    (hsteps : ∀ step ∈ steps, ∀ running result later, running.invocation.signature = signature →
      observing dial kind given step running = (.returned result, later) → result = .ok answer)
    {running later : Running} {answers : List (Except AopError R)}
    (hsignature : running.invocation.signature = signature)
    (h : InOrder (observing dial kind given) steps running answers later) :
    (∀ result ∈ answers, result = .ok answer) ∧ later.invocation.signature = signature := by
  have hkept : ∀ {step : Step Body} {running later : Running} {outcome : Outcome (Except AopError R)},
      observing dial kind given step running = (outcome, later) →
      later.invocation.signature = running.invocation.signature := by
    intro step running later outcome hran
    cases hran
    rfl
  induction h with
  | done => exact ⟨fun _ hm => absurd hm List.not_mem_nil, hsignature⟩
  | failed hran =>
    have hfailed := hsteps _ List.mem_cons_self _ _ _ hsignature hran
    cases hfailed
  | passed hran hlogged _ ih =>
    obtain ⟨hstep, hothers⟩ := List.forall_mem_cons.mp hsteps
    have hnext : _ = signature :=
      (congrArg Invocation.signature hlogged.invocation).trans ((hkept hran).trans hsignature)
    obtain ⟨hanswers, hlast⟩ := ih hothers hnext
    exact ⟨List.forall_mem_cons.mpr ⟨hstep _ _ _ hsignature hran, hanswers⟩, hlast⟩

/-- Answers without an error have no first error. -/
theorem firstError_eq_none {R : Type} {answer : R} {answers : List (Except AopError R)}
    (h : ∀ result ∈ answers, result = .ok answer) : firstError answers = none := by
  induction answers with
  | nil => rfl
  | cons first answers ih =>
    obtain ⟨rfl, hothers⟩ := List.forall_mem_cons.mp h
    exact ih hothers

/-- Advices that let an error pass on give no value in its place. -/
theorem firstSwallowed_eq_none {answers : List (Except AopError Disposition)}
    (h : ∀ result ∈ answers, result = .ok .rethrow) : firstSwallowed answers = none := by
  induction answers with
  | nil => rfl
  | cons first answers ih =>
    obtain ⟨rfl, hothers⟩ := List.forall_mem_cons.mp h
    exact ih hothers

/-- Advices that only observe settle a call as it came to them. -/
theorem OnlyObserves.settles (h : chain.OnlyObserves dial signature arguments) {running later : Running}
    {outcome result : CallResult} {entries : List JournalEntry}
    (hsignature : running.invocation.signature = signature)
    (hsettles : chain.Settles dial running outcome result later entries) : result = outcome := by
  cases hsettles with
  | value hanswers =>
    have hentered : (running.mapInvocation (·.enterPhase .afterReturning)).invocation.signature =
        signature := hsignature
    obtain ⟨hok, _⟩ := hanswers.expected (fun step hstep => h.afterReturnings step hstep _) hentered
    rw [replacedBy, firstError_eq_none hok]
  | error hanswers =>
    have hentered : (running.mapInvocation (·.enterPhase .afterThrowing)).invocation.signature =
        signature := hsignature
    obtain ⟨hok, _⟩ := hanswers.expected (fun step hstep => h.afterThrowings step hstep _) hentered
    rw [settledBy, replacedBy, firstError_eq_none hok, firstSwallowed_eq_none hok]

/-- After the nest, the target is not entered. -/
theorem runPhases_targets (chain : Chain) (dial : Dialler) (running : Running) :
    (chain.runPhases dial running).2.targets = (chain.runInner dial running).2.targets := by
  obtain ⟨_, entries, hentries, hjournal⟩ := runPhases_closes chain dial running
  have hnone : entries.filterMap JournalEntry.target? = [] := by
    refine List.filterMap_eq_nil_iff.mpr fun entry hentry => ?_
    have hclosing := hentries entry hentry
    cases entry with
    | target arguments => exact hclosing.elim
    | _ => rfl
  rw [Running.targets, hjournal, List.filterMap_append, hnone, List.append_nil]
  rfl

/-- A call whose advices only observe is left to the target. The surroundings in which the target is entered
do not depend on it. Unless code breaks off, the call ends as the target does, which took the arguments of
the call and was entered once. -/
theorem OnlyObserves.runPhases_transparent (h : chain.OnlyObserves dial signature arguments)
    (world : World) :
    ∃ entered : World, ∀ terminal,
      (Watched.phases chain dial).Calm dial (start signature arguments terminal world) →
      ∃ outcome left later,
        (terminal arguments).run (Ambient.answer dial) entered = (.returned outcome, left) ∧
        chain.runPhases dial (start signature arguments terminal world) = (.returned outcome, later) ∧
        later.targets = [arguments] := by
  have hcall : (start signature arguments (fun _ => .done (.ok .unit)) world).IsCall signature arguments :=
    ⟨rfl, rfl⟩
  obtain ⟨entered, hentered⟩ := h.runInner_serves hcall
  refine ⟨entered, fun terminal hcalm => ?_⟩
  obtain ⟨result, final, hran, _⟩ := Watched.phases_returns chain
    (start signature arguments terminal world) ⟨Nat.le_refl 0, Nat.zero_le _⟩ hcalm
  rw [Watched.run_phases] at hran
  have htargets := runPhases_targets chain dial (start signature arguments terminal world)
  obtain ⟨outcome, reached, hinner, hrest⟩ := Run.bind_eq_returned_iff.mp hran
  obtain ⟨_, _, hphase, hrest⟩ := Run.bind_eq_returned_iff.mp hrest
  cases hphase
  obtain ⟨replaced, logged, hafters, hrest⟩ := Run.bind_eq_returned_iff.mp hrest
  obtain ⟨settledResult, settled, hending, hrest⟩ := Run.bind_eq_returned_iff.mp hrest
  cases hrest
  obtain ⟨hserved, left, hleft⟩ := hentered terminal outcome reached hinner
  obtain ⟨answers, unwound, hanswers, hlogged, rfl⟩ := runAfters_inOrder hafters
  have hunwinding : (reached.mapInvocation (·.enterPhase .unwinding)).invocation.signature = signature :=
    hserved.signature
  obtain ⟨hok, hunwound⟩ := hanswers.expected h.afters hunwinding
  have hloggedSignature : logged.invocation.signature = signature :=
    (congrArg Invocation.signature hlogged.invocation).trans hunwound
  obtain ⟨_, hsettles, _⟩ := settles_of_runEnding hending
  have hresult := h.settles hloggedSignature hsettles
  rw [replacedBy, firstError_eq_none hok] at hresult
  subst hresult
  rw [hran, hinner, hserved.targets] at htargets
  exact ⟨_, left, _, hleft, hran, htargets⟩

end Chain

/-- What a typed method gives back has the type that its caller expects. -/
theorem TypedMethod.expect_resultOf {types : List ValueType} (method : TypedMethod types)
    (answer : Except ServiceError method.result.Carrier) :
    Proxy.expect method.result (method.resultOf answer) = method.resultOf answer := by
  cases answer with
  | ok content => exact if_pos (Value.type_of method.result content)
  | error error => rfl

/-- An invoked method gives back what its chain does, at the type that the caller expects. -/
theorem Proxy.invoke_of_execute {proxy : Proxy} {id : MethodId} {entry : DispatchEntry} {dial : Dialler}
    {arguments : Arguments} {result : ValueType} {terminal : Terminal} {world : World}
    {outcome : CallResult} (hentry : proxy.entry? id = some entry)
    (hexecute : (entry.chain.execute dial entry.signature arguments terminal world).1 =
      .returned outcome) :
    (proxy.invoke dial id arguments result terminal world).1 = .returned (expect result outcome) := by
  unfold invoke
  rw [hentry]
  simp only [Run.bind_apply]
  generalize entry.chain.execute dial entry.signature arguments terminal world = ran at hexecute
  obtain ⟨_, later⟩ := ran
  cases hexecute
  rfl

/-- A called method gives back what it does when it is invoked, and an error as a service error. -/
theorem Proxy.call_of_invoke {proxy : Proxy} {id : MethodId} {dial : Dialler} {arguments : Arguments}
    {result : ValueType} {terminal : Terminal} {world : World} {outcome : CallResult}
    (hinvoke : (proxy.invoke dial id arguments result terminal world).1 = .returned outcome) :
    (proxy.call dial id arguments result terminal world).1 =
      .returned (outcome.mapError AopError.toServiceError) := by
  unfold call
  rw [Run.bind_apply]
  generalize proxy.invoke dial id arguments result terminal world = ran at hinvoke
  obtain ⟨_, later⟩ := ran
  cases hinvoke
  cases outcome <;> rfl

/-- A proxy whose advices only observe cannot be told from its target. Whatever the method does with
arguments of its types, it is entered once, with exactly the arguments that were packed, in surroundings that
do not depend on it. Unless code breaks off, the caller gets back exactly the value or the error that the
method gave; invoked without a conversion of errors, the error comes as one of the target. -/
theorem Proxy.call_transparent {proxy : Proxy} {id : MethodId} {entry : DispatchEntry} {dial : Dialler}
    {types : List ValueType} (arguments : TypedValues types) (world : World)
    (hentry : proxy.entry? id = some entry)
    (hobserves : entry.chain.OnlyObserves dial entry.signature arguments.pack) :
    ∃ entered : World, ∀ method : TypedMethod types,
      let target := method.erase
      let start := Chain.start entry.signature arguments.pack target.terminal world
      (Watched.phases entry.chain dial).Calm dial start →
      ∃ answer left,
        (method.body arguments).run (Ambient.answer dial) entered = (.returned answer, left) ∧
        (entry.chain.runPhases dial start).2.targets = [arguments.pack] ∧
        (proxy.call dial id arguments.pack target.result target.terminal world).1 =
          .returned (answer.map (Value.of method.result)) ∧
        (proxy.invoke dial id arguments.pack target.result target.terminal world).1 =
          .returned (match answer with
            | .ok content => .ok (Value.of method.result content)
            | .error error => .error (.target (.service error))) := by
  obtain ⟨entered, hentered⟩ := hobserves.runPhases_transparent world
  refine ⟨entered, fun method => ?_⟩
  intro target start hcalm
  obtain ⟨outcome, _, later, hterminal, hphases, htargets⟩ := hentered target.terminal hcalm
  rw [method.run_terminal_pack] at hterminal
  obtain ⟨answer, left, hbody, hresult⟩ := Run.bind_eq_returned_iff.mp hterminal
  cases hresult
  have hexecute : (entry.chain.execute dial entry.signature arguments.pack target.terminal world).1 =
      .returned (method.resultOf answer) := by
    unfold Chain.execute
    rw [hphases]
  have hinvoke : (proxy.invoke dial id arguments.pack target.result target.terminal world).1 =
      .returned (method.resultOf answer) :=
    (invoke_of_execute hentry hexecute).trans (congrArg _ (method.expect_resultOf answer))
  have hcall := call_of_invoke hinvoke
  refine ⟨answer, _, hbody, ?_, ?_, ?_⟩
  · rw [hphases]
    exact htargets
  · rw [hcall]
    cases answer <;> rfl
  · rw [hinvoke]
    cases answer <;> rfl

namespace Chain

/-- A chain with an advice of every kind, none of which does more than it must. -/
def idle : Chain :=
  { advices := []
    befores := [⟨"guard", 0, .done (.ok ())⟩]
    arounds := [⟨"timer", 1, .ask .proceed .done⟩]
    afters := [⟨"cleanup", 2, .done (.ok ())⟩]
    afterReturnings := [⟨"report", 3, fun _ => .done (.ok ())⟩]
    afterThrowings := [⟨"alarm", 4, fun _ => .done (.ok .rethrow)⟩] }

/-- Such a chain only observes all calls. -/
theorem onlyObserves_idle (dial : Dialler) (signature : CallSignature) (arguments : Arguments) :
    idle.OnlyObserves dial signature arguments where
  befores step hstep running result later hcall hrun := by
    obtain rfl := List.mem_singleton.mp hstep
    cases hrun
    exact ⟨rfl, hcall.arguments⟩
  arounds step hstep goOn running result later hcall hrun := by
    obtain rfl := List.mem_singleton.mp hstep
    obtain ⟨relayed, between, hgoOn, hdone⟩ := Run.bind_eq_returned_iff.mp hrun
    cases hdone
    exact (Program.proceedings_proceed hgoOn).trans
      (congrArg (fun arguments => [(arguments, Outcome.returned result)]) hcall.arguments)
  afters step hstep running result later _ hrun := by
    obtain rfl := List.mem_singleton.mp hstep
    cases hrun
    rfl
  afterReturnings step hstep value running result later _ hrun := by
    obtain rfl := List.mem_singleton.mp hstep
    cases hrun
    rfl
  afterThrowings step hstep error running result later _ hrun := by
    obtain rfl := List.mem_singleton.mp hstep
    cases hrun
    rfl

/-- No code of a call breaks off in such a chain if the target is finished at once. -/
theorem calm_idle (dial : Dialler) (signature : CallSignature) (arguments : Arguments)
    {terminal : Terminal} {answer : CallResult} (world : World)
    (hterminal : terminal arguments = .done answer) :
    (Watched.phases idle dial).Calm dial (start signature arguments terminal world) := by
  have hcomposes := @Watched.composes_calm dial
  have hinner : (Watched.inner idle dial).Calm dial (start signature arguments terminal world) := by
    refine Watched.calm_bind_iff.mpr ⟨hcomposes.befores (fun step hstep => ?_) _,
      fun result later hran => ?_⟩
    · obtain rfl := List.mem_singleton.mp hstep
      exact Watched.calm_before_done _ _ _
    · cases hran
      -- The around advice asks to proceed, the target is entered, and both are finished.
      refine Watched.calm_modify_bind (Watched.calm_modify_bind (Watched.calm_modify_bind
        (Watched.calm_modify_bind (Watched.calm_bind_iff.mpr ⟨?_, fun _ later _ => ?_⟩))))
      · refine Watched.calm_acting_iff.mpr ⟨trivial, Watched.calm_bind_iff.mpr
          ⟨Watched.calm_modify_bind (Watched.calm_modify_bind ?_),
            fun _ _ _ => Watched.calm_done _ _ _ _⟩⟩
        change (Watched.program Steering.ambient _ (terminal arguments)).Calm dial _
        rw [hterminal]
        exact Watched.calm_done _ _ _ _
      · refine hcomposes.bind (Watched.calm_quiet _) (fun frame => ?_) later
        exact hcomposes.bind (Watched.calm_quiet _) fun signature => Watched.calm_quiet _
  have hending : ∀ outcome running, (Watched.ending idle dial outcome).Calm dial running := by
    intro outcome
    cases outcome with
    | ok value =>
      refine hcomposes.bind (Watched.calm_quiet _) fun _ =>
        hcomposes.afterReturnings value fun step hstep => ?_
      obtain rfl := List.mem_singleton.mp hstep
      exact Watched.calm_observe_done _ _ _
    | error error =>
      refine hcomposes.bind (Watched.calm_quiet _) fun _ =>
        hcomposes.afterThrowings error none fun step hstep => ?_
      obtain rfl := List.mem_singleton.mp hstep
      exact Watched.calm_observe_done _ _ _
  have hafters : ∀ outcome running, (Watched.afters dial outcome idle.afters).Calm dial running := by
    refine fun outcome => hcomposes.afters outcome fun step hstep => ?_
    obtain rfl := List.mem_singleton.mp hstep
    exact Watched.calm_observe_done _ _ _
  refine Watched.calm_bind_iff.mpr ⟨hinner, fun outcome later _ => Watched.calm_modify_bind ?_⟩
  refine hcomposes.bind (hafters outcome) (fun outcome => ?_) _
  refine hcomposes.bind (hending outcome) fun result => ?_
  exact hcomposes.bind (Watched.calm_quiet _) fun _ => Watched.calm_quiet _

end Chain

/-- A method that finds nothing under a number fails with an error that tells the number. Its caller gets
exactly this error, through an advice of every kind. -/
theorem Proxy.call_transparent_notFound :
    let dial : Dialler := fun _ => Run.exhausted
    let signature : CallSignature := ⟨"a.Svc", "Svc", ⟨"get", ["String", "u32"], "u64"⟩⟩
    let proxy : Proxy := ⟨0, "Svc", [], [⟨signature, Chain.idle⟩], [], []⟩
    let arguments : TypedValues [.string, .u32] := .cons "alice" (.cons (3 : UInt32) .nil)
    let method : TypedMethod [.string, .u32] :=
      ⟨.u64, fun | .cons _ (.cons number .nil) => .done (.error (.notFound number.toUInt64))⟩
    let target := method.erase
    proxy.entry? ⟨0, 0⟩ = some ⟨signature, Chain.idle⟩ ∧
      Chain.idle.OnlyObserves dial signature arguments.pack ∧
      (Watched.phases Chain.idle dial).Calm dial
        (Chain.start signature arguments.pack target.terminal .initial) ∧
      (proxy.call dial ⟨0, 0⟩ arguments.pack target.result target.terminal .initial).1 =
        .returned (.error (.notFound 3)) ∧
      (proxy.invoke dial ⟨0, 0⟩ arguments.pack target.result target.terminal .initial).1 =
        .returned (.error (.target (.service (.notFound 3)))) := by
  intro dial signature proxy arguments method target
  have hentry : proxy.entry? ⟨0, 0⟩ = some ⟨signature, Chain.idle⟩ := rfl
  have hobserves := Chain.onlyObserves_idle dial signature arguments.pack
  have hcalm : (Watched.phases Chain.idle dial).Calm dial
      (Chain.start signature arguments.pack target.terminal .initial) :=
    Chain.calm_idle dial signature arguments.pack .initial rfl
  obtain ⟨_, htransparent⟩ := call_transparent arguments .initial hentry hobserves
  obtain ⟨answer, _, hbody, _, hcall, hinvoke⟩ := htransparent method hcalm
  cases hbody
  exact ⟨hentry, hobserves, hcalm, hcall, hinvoke⟩

end Interception
