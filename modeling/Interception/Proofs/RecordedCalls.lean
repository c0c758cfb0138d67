import Interception.Proofs.RecordedRuns

/-!
# Calls and their transcripts

A call through a chain has the transcript that is put together for it, and repeats itself if the advices of the
chain and the target depend on their own call only. This carries over from the requests of code to the parts of
a call in which the code runs: attempts to proceed, single advices, the nest, and the phases.

An advice is run after its frame was opened, and before its frame is closed, which is not told of. The nest is
an induction on its bound. A call begins in a routing scope of its own and ends by leaving it, so that the same
scopes are open again in both worlds.
-/

namespace Interception

variable {dial : Dialler} {tell : Teller}

namespace Running

/-- An attempt to proceed has the transcript of what it proceeds to, if it may. -/
theorem proceed_recorded {next : Run Running CallResult} {told : Running → List Happening}
    (h : Run.Recorded Alongside world next told) :
    Run.Recorded Alongside world (proceed next) (proceedTranscript told) := by
  refine ⟨fun running => ?_, fun {running running'} hrunning => ?_⟩
  · unfold proceed proceedTranscript granted?
    cases running.invocation.frames with
    | nil => exact .refl _
    | cons frame outer =>
      obtain ⟨label, sequence, canProceed, proceeded, misused⟩ := frame
      cases canProceed with
      | false => exact .quiet rfl rfl
      | true =>
        cases proceeded with
        | true => exact .quiet rfl rfl
        | false => exact h.becomes (running.mapInvocation _)
  · have hframes : running.invocation.frames = running'.invocation.frames := by rw [hrunning.invocation_eq]
    unfold proceed proceedTranscript granted?
    rw [hframes]
    cases running'.invocation.frames with
    | nil => exact ⟨.returned rfl hrunning, rfl⟩
    | cons frame outer =>
      obtain ⟨label, sequence, canProceed, proceeded, misused⟩ := frame
      cases canProceed with
      | false => exact ⟨.returned rfl (hrunning.mapInvocation _ fun _ h => h), rfl⟩
      | true =>
        cases proceeded with
        | true => exact ⟨.returned rfl ((hrunning.mapInvocation _ fun _ h => h).log _ _), rfl⟩
        | false => exact h.repeats (hrunning.mapInvocation _ fun _ h => h)

/-- A change of the call that leaves the target alone is not told of. -/
theorem mapInvocation_recorded (f : Invocation → Invocation)
    (hf : ∀ invocation, (f invocation).terminal = invocation.terminal) :
    Run.Recorded Alongside world (Run.modify (·.mapInvocation f)) fun _ => [] :=
  .modify (fun h => h.mapInvocation f fun _ hterminal => (hf _).symm.trans hterminal) fun _ => .quiet rfl rfl

/-- A run after such a change has the transcript that it has then. -/
theorem after_mapInvocation {α : Type} {run : Run Running α} {transcript : Running → List Happening}
    (h : Run.Recorded Alongside world run transcript) (f : Invocation → Invocation)
    (hf : ∀ invocation, (f invocation).terminal = invocation.terminal) :
    Run.Recorded Alongside world (fun running => run (running.mapInvocation f))
      fun running => transcript (running.mapInvocation f) :=
  h.from_modified (fun h => h.mapInvocation f fun _ hterminal => (hf _).symm.trans hterminal) fun _ => .refl _

/-- Log records are not told of. -/
theorem after_log {α : Type} {run : Run Running α} {transcript : Running → List Happening}
    (h : Run.Recorded Alongside world run transcript) (record : Running → LogRecord) :
    Run.Recorded Alongside world (fun running => run (running.log (record running)))
      fun running => transcript (running.log (record running)) :=
  h.from_modified (fun h => h.log _ _) fun _ => .quiet rfl rfl

/-- A before advice that depends on its own call only has its transcript. -/
theorem runBefore_recorded (hdial : dial.Recorded tell) {step : Step BeforeBody}
    (h : SteeringProgram.IsContained step.body) :
    Run.Recorded Alongside world (runBefore dial step) (beforeTranscript dial tell step) := by
  have hrefused : Run.Recorded Alongside world (proceed Run.exhausted) (proceedTranscript fun _ => []) :=
    proceed_recorded .exhausted
  have hclose := mapInvocation_recorded Invocation.closeFrame fun _ => rfl
  have hbody := (h.recorded hdial hrefused).bind_quiet fun result =>
    hclose.bind_quiet fun _ => Run.Recorded.pure result
  have hopened := after_mapInvocation hbody
    (·.openFrame .before ⟨step.label, step.sequence, false, false, false⟩) fun _ => rfl
  exact hopened.telling rfl rfl

/-- The target has its transcript. -/
theorem callTarget_recorded (hdial : dial.Recorded tell) (request : ProxyCall) :
    Run.Recorded Alongside world (callTarget dial) (targetTranscript dial tell request) := by
  refine ⟨fun running => ?_, fun {running running'} hrunning => ?_⟩
  · unfold callTarget targetTranscript
    cases running.invocation.terminal with
    | none => exact .quiet rfl rfl
    | some terminal =>
      have hran := (terminal running.invocation.arguments).becomes (Ambient.becomes hdial) running.world
      exact hran.cons rfl rfl
  · have hcontained := hrunning.target
    unfold callTarget targetTranscript
    rw [hrunning.invocation_eq] at hcontained ⊢
    cases hterminal : running'.invocation.terminal with
    | none => exact ⟨.returned rfl (hrunning.mapInvocation _ fun _ h => h), rfl⟩
    | some terminal =>
      obtain ⟨hran, htrace⟩ :=
        ((hcontained terminal hterminal running'.invocation.arguments).recorded hdial).inWorld.repeats
          (hrunning.mapInvocation (fun invocation =>
            { (invocation.enterPhase .targetCalled).record (.target running'.invocation.arguments) with
              targetCalled := true, terminal := none, arguments := .empty }) nofun)
      exact ⟨hran, congrArg _ htrace⟩

/-- An around advice that depends on its own call only has its transcript, if what it proceeds to has. -/
theorem runAround_recorded (hdial : dial.Recorded tell) {next : Run Running CallResult}
    {inner : Running → List Happening} (hnext : Run.Recorded Alongside world next inner)
    {step : Step AroundBody} (h : SteeringProgram.IsContained step.body) :
    Run.Recorded Alongside world (runAround dial next step) (aroundTranscript dial tell next inner step) := by
  have hclose : Run.Recorded Alongside world (closeFrame step) fun _ => [] := by
    refine ⟨fun _ => .quiet rfl rfl, fun hrunning => ⟨.returned ?_ ?_, rfl⟩⟩
    · rw [hrunning.invocation_eq]
    · exact hrunning.mapInvocation _ fun _ h => h
  have hsignature : Run.Recorded Alongside world (Run.read fun running => running.invocation.signature)
      fun _ => [] :=
    ⟨fun _ => .refl _, fun hrunning => ⟨.returned (congrArg _ hrunning.invocation_eq) hrunning, rfl⟩⟩
  have hjudge : ∀ signature frame result,
      Run.Recorded Alongside world (judge signature step.label frame result) fun _ => [] := by
    intro signature frame result
    obtain ⟨_, sequence, canProceed, proceeded, misused⟩ := frame
    cases misused with
    | true => exact .pure _
    | false =>
      cases result with
      | ok value => exact .pure _
      | error error =>
        cases proceeded with
        | true => exact .pure _
        | false => exact after_log (.pure _) _
  have hbody := (h.recorded hdial (proceed_recorded hnext)).bind_quiet fun result =>
    hclose.bind_quiet fun frame => hsignature.bind_quiet fun signature => hjudge signature frame result
  have hopened := after_mapInvocation hbody
    (·.openFrame .around ⟨step.label, step.sequence, true, false, false⟩) fun _ => rfl
  exact hopened.telling rfl rfl

/-- A nest of advices that depend on their own call only has its transcript. -/
theorem proceedNext_recorded (hdial : dial.Recorded tell) (request : ProxyCall)
    {arounds : List (Step AroundBody)} (h : ∀ step ∈ arounds, SteeringProgram.IsContained step.body)
    (bound : Nat) : Run.Recorded Alongside world (proceedNext dial arounds bound)
      (nestTranscript dial tell request arounds bound) := by
  induction bound with
  | zero => exact .exhausted
  | succ bound ih =>
    -- The advice at the cursor is the same in both calls, and so is that there is none.
    have haround : ∀ step ∈ arounds, Run.Recorded Alongside world
        (fun running => runAround dial (proceedNext dial arounds bound) step
          (running.mapInvocation fun invocation => { invocation with cursor := invocation.cursor + 1 }))
        fun running => aroundTranscript dial tell (proceedNext dial arounds bound)
          (nestTranscript dial tell request arounds bound) step
          (running.mapInvocation fun invocation => { invocation with cursor := invocation.cursor + 1 }) :=
      fun step hstep => after_mapInvocation (runAround_recorded hdial ih (h step hstep)) _ fun _ => rfl
    refine ⟨fun running => ?_, fun {running running'} hrunning => ?_⟩
    · simp only [proceedNext, nestTranscript]
      cases hstep : arounds[running.invocation.cursor]? with
      | some step => exact (haround step (List.mem_of_getElem? hstep)).becomes running
      | none => exact (callTarget_recorded hdial request).becomes running
    · have hcursor : running.invocation.cursor = running'.invocation.cursor := by rw [hrunning.invocation_eq]
      simp only [proceedNext, nestTranscript, hcursor]
      cases hstep : arounds[running'.invocation.cursor]? with
      | some step => exact (haround step (List.mem_of_getElem? hstep)).repeats hrunning
      | none => exact (callTarget_recorded hdial request).repeats hrunning

end Running

namespace Chain

/-- Moving on to another phase is not told of. -/
theorem enterPhase_recorded (phase : CallPhase) :
    Run.Recorded Running.Alongside Running.world (enterPhase phase) fun _ => [] :=
  Running.mapInvocation_recorded _ fun _ => rfl

/-- Before advices that depend on their own call only have their transcript. -/
theorem runBefores_recorded (hdial : dial.Recorded tell) {steps : List (Step BeforeBody)}
    (h : ∀ step ∈ steps, SteeringProgram.IsContained step.body) :
    Run.Recorded Running.Alongside Running.world (runBefores dial steps) (beforesTranscript dial tell steps) := by
  induction steps with
  | nil => exact .pure _
  | cons step steps ih =>
    refine (Running.runBefore_recorded hdial (h step List.mem_cons_self)).bind fun result => ?_
    cases result with
    | ok => exact ih fun step hstep => h step (List.mem_cons_of_mem _ hstep)
    | error error => exact .pure _

/-- An advice at the end of a call that depends on its own call only has its transcript. -/
theorem observe_recorded {α : Type} (hdial : dial.Recorded tell) (kind : AdviceKind) (sequence : Nat)
    {program : ObservingProgram α} (h : program.IsContained) :
    Run.Recorded Running.Alongside Running.world (observe dial kind sequence program)
      (observeTranscript dial tell kind sequence program) := by
  refine ⟨fun running => ?_, fun {running running'} hrunning => ?_⟩
  · have hran := (h.recorded hdial (running.invocation.record (.advice kind sequence))).becomes running.world
    exact hran.cons rfl rfl
  · unfold observe observeTranscript
    simp only [hrunning.invocation_eq]
    obtain ⟨hran, htrace⟩ :=
      (h.recorded hdial (running'.invocation.record (.advice kind sequence))).inWorld.repeats
        (hrunning.mapInvocation (·.record (.advice kind sequence)) fun _ h => h)
    simp only [Running.mapInvocation, hrunning.invocation_eq] at hran htrace ⊢
    exact ⟨hran, congrArg _ htrace⟩

/-- After advices that depend on their own call only have their transcript. -/
theorem runAfters_recorded (hdial : dial.Recorded tell) (outcome : CallResult)
    {steps : List (Step AfterBody)} (h : ∀ step ∈ steps, ObservingProgram.IsContained step.body) :
    Run.Recorded Running.Alongside Running.world (runAfters dial outcome steps)
      (aftersTranscript dial tell steps) := by
  induction steps with
  | nil => exact .pure _
  | cons step steps ih =>
    have hstep := observe_recorded hdial .after step.sequence (h step List.mem_cons_self)
    refine hstep.bind fun result => ?_
    cases result with
    | ok => exact ih fun step hstep => h step (List.mem_cons_of_mem _ hstep)
    | error error =>
      cases outcome with
      | ok value => exact .pure _
      | error replaced => exact Running.after_log (.pure _) _

/-- Advices for a returned value that depend on their own call only have their transcript. -/
theorem runAfterReturnings_recorded (hdial : dial.Recorded tell) (value : Value)
    {steps : List (Step AfterReturningBody)} (h : ∀ step ∈ steps, (step.body value).IsContained) :
    Run.Recorded Running.Alongside Running.world (runAfterReturnings dial value steps)
      (afterReturningsTranscript dial tell value steps) := by
  induction steps with
  | nil => exact .pure _
  | cons step steps ih =>
    have hstep := observe_recorded hdial .afterReturning step.sequence (h step List.mem_cons_self)
    refine hstep.bind fun result => ?_
    cases result with
    | ok => exact ih fun step hstep => h step (List.mem_cons_of_mem _ hstep)
    | error error => exact .pure _

/-- Advices for an error that depend on their own call only have their transcript. -/
theorem runAfterThrowings_recorded (hdial : dial.Recorded tell) (error : AopError)
    (swallowed : Option Value) {steps : List (Step AfterThrowingBody)}
    (h : ∀ step ∈ steps, (step.body error).IsContained) :
    Run.Recorded Running.Alongside Running.world (runAfterThrowings dial error swallowed steps)
      (afterThrowingsTranscript dial tell error swallowed steps) := by
  induction steps generalizing swallowed with
  | nil => cases swallowed <;> exact .pure _
  | cons step steps ih =>
    have hrest := fun swallowed => ih swallowed fun step hstep => h step (List.mem_cons_of_mem _ hstep)
    have hstep := observe_recorded hdial .afterThrowing step.sequence (h step List.mem_cons_self)
    refine hstep.bind fun result => ?_
    cases result with
    | error replaced => exact .pure _
    | ok recovery =>
      cases recovery with
      | rethrow => exact hrest swallowed
      | swallow value =>
        cases swallowed with
        | some earlier => exact hrest (some earlier)
        | none => exact Running.after_log (hrest (some value)) _

variable {chain : Chain}

/-- Up to the end of the nest a call has its transcript. -/
theorem runInner_recorded (hdial : dial.Recorded tell) (request : ProxyCall) (h : chain.IsContained) :
    Run.Recorded Running.Alongside Running.world (chain.runInner dial)
      (chain.innerTranscript dial tell request) := by
  refine (runBefores_recorded hdial h.befores).bind fun result => ?_
  cases result with
  | error error => exact .pure _
  | ok =>
    have hnest := Running.proceedNext_recorded hdial request h.arounds (chain.arounds.length + 1)
    have hentered := Running.after_mapInvocation hnest (·.enterPhase .aroundNestRunning) fun _ => rfl
    exact Running.after_mapInvocation hentered (·.enterPhase .beforeDone) fun _ => rfl

/-- The advices that depend on how a call ended have their transcript. -/
theorem runEnding_recorded (hdial : dial.Recorded tell) (h : chain.IsContained) (outcome : CallResult) :
    Run.Recorded Running.Alongside Running.world (chain.runEnding dial outcome)
      (chain.endingTranscript dial tell outcome) := by
  cases outcome with
  | ok value =>
    have hsteps := runAfterReturnings_recorded hdial value fun step hstep => h.afterReturnings step hstep value
    exact Running.after_mapInvocation hsteps (·.enterPhase .afterReturning) fun _ => rfl
  | error error =>
    have hsteps := runAfterThrowings_recorded hdial error none fun step hstep =>
      h.afterThrowings step hstep error
    exact Running.after_mapInvocation hsteps (·.enterPhase .afterThrowing) fun _ => rfl

/-- All phases of a call have their transcript. -/
theorem runPhases_recorded (hdial : dial.Recorded tell) (request : ProxyCall) (h : chain.IsContained) :
    Run.Recorded Running.Alongside Running.world (chain.runPhases dial) fun running =>
      chain.innerTranscript dial tell request running ++
        (chain.runInner dial).reading [] (chain.outerTranscript dial tell) running := by
  refine (runInner_recorded hdial request h).bind fun outcome => ?_
  have hending : ∀ outcome, Run.Recorded Running.Alongside Running.world
      (chain.runEnding dial outcome >>= fun result => enterPhase .completed >>= fun _ => pure result)
      (chain.endingTranscript dial tell outcome) := fun outcome =>
    (runEnding_recorded hdial h outcome).bind_quiet fun result =>
      (enterPhase_recorded .completed).bind_quiet fun _ => .pure result
  have houter := (runAfters_recorded hdial outcome h.afters).bind hending
  exact Running.after_mapInvocation houter (·.enterPhase .unwinding) fun _ => rfl

end Chain

/-- A call through a chain has its transcript, if the advices and the target depend on their own call only. -/
theorem ChainCall.execute_recorded (hdial : dial.Recorded tell) (request : ProxyCall) {call : ChainCall}
    (hchain : call.chain.IsContained) (hterminal : ∀ arguments, (call.terminal arguments).IsContained) :
    Run.Recorded World.Alongside id (call.execute dial) (call.transcript dial tell request) := by
  have hphases := Chain.runPhases_recorded hdial request hchain
  refine ⟨fun world => ?_, fun {world world'} hworld => ?_⟩
  · -- Scopes are neither notes nor meters.
    obtain ⟨hnotes, hmeters⟩ := hphases.becomes (call.start world)
    exact ⟨hnotes, hmeters⟩
  have hstart : (call.start world).Alongside (call.start world') := by
    have hscopes : world.scopes = world'.scopes := hworld
    refine ⟨?_, ?_, ?_⟩
    · simp only [start, Chain.start, hscopes]
    · simp only [start, Chain.start, hscopes]
    · rintro terminal ⟨⟩
      exact hterminal
  obtain ⟨hran, htranscript⟩ := hphases.repeats hstart
  refine ⟨?_, htranscript⟩
  have hleave : ∀ running running' : Running, running.Alongside running' →
      World.Alongside { running.world with scopes := running.world.scopes.leave running.invocation.scope }
        { running'.world with scopes := running'.world.scopes.leave running'.invocation.scope } := by
    intro running running' hrunning
    change running.world.scopes.leave _ = running'.world.scopes.leave _
    rw [hrunning.invocation_eq, hrunning.scopes_eq]
  exact hran.map World.Alongside _ _ hleave

end Interception
