import Interception.Chain
import Interception.Proofs.ProgramRuns

/-!
# Nests of one-shot continuations

The nest of around advices can be described without cursor, frames and a target that is taken: every
around advice is given the rest of the nest as a continuation that works once. Its first use runs the
inner advices and finally the target; every later use runs nothing and returns an error. What the level
gives back depends only on how often the continuation was used and on what the advice returned.

The shared invocation on which all advices of a call work behaves exactly like this description, as long as
no advice goes on after a panic of what it proceeded to. The invariant is that the innermost frame tells how
often the continuation of the running advice was used, and that as long as it was not used, cursor and target
are where the advice found them. After a panic of the continuation the innermost frame is another one.
-/

namespace Interception

/-- A running call without the means by which its nest is run. -/
structure CallState where
  /-- The method that was called. -/
  signature : CallSignature
  /-- The arguments, until the target takes them. -/
  arguments : Arguments
  /-- The number of around advices entered so far, which only descriptions show. -/
  entered : Nat
  /-- Whether the target has been called. -/
  targetCalled : Bool
  /-- The routing scope of the call. -/
  scope : RoutingScope
  /-- The phase of the call. -/
  phase : CallPhase
  /-- What ran so far, in order. -/
  journal : Array JournalEntry
  /-- The surroundings of the call. -/
  world : World

namespace CallState

/-- The call as advices see it. -/
def toInvocation (state : CallState) : Invocation :=
  { signature := state.signature, arguments := state.arguments, cursor := state.entered, frames := []
    terminal := none, targetCalled := state.targetCalled, scope := state.scope, phase := state.phase
    journal := state.journal }

/-- Writes to the journal. -/
def record (state : CallState) (entry : JournalEntry) : CallState :=
  { state with journal := state.journal.push entry }

/-- Writes to the log. -/
def log (state : CallState) (record : LogRecord) : CallState :=
  { state with world := state.world.log record }

/-- Moves on to a phase. -/
def enterPhase (state : CallState) (phase : CallPhase) : CallState :=
  { state.record (.phase phase) with phase }

/-- Sets or clears the routing key. -/
def setRoutingKey (state : CallState) (key : Option String) : CallState :=
  { state with world := { state.world with scopes := state.world.scopes.set state.scope key } }

/-- Begins to run an around advice. -/
def enterAround (state : CallState) (step : Step AroundBody) : CallState :=
  { state.record (.advice .around step.sequence) with entered := state.entered + 1 }

/-- Hands the arguments over to the target. -/
def enterTarget (state : CallState) : CallState :=
  { (state.enterPhase .targetCalled).record (.target state.arguments) with
    targetCalled := true
    arguments := .empty }

end CallState

/-- What a running call is apart from the means by which its nest is run. -/
def Running.callState (running : Running) : CallState :=
  { signature := running.invocation.signature
    arguments := running.invocation.arguments
    entered := running.invocation.cursor
    targetCalled := running.invocation.targetCalled
    scope := running.invocation.scope
    phase := running.invocation.phase
    journal := running.invocation.journal
    world := running.world }

namespace OneShot

/-- A running around advice: the call, and how often the advice used its continuation. -/
structure Level where
  /-- The call. -/
  state : CallState
  /-- How often the continuation was used. -/
  uses : Nat

/-- Uses the continuation of an around advice. The first use runs it, and every other one is refused. -/
def useRest (step : Step AroundBody) (rest : Run CallState CallResult) : Run Level CallResult :=
  fun level =>
    if level.uses = 0 then
      let outcome := rest (level.state.record (.proceeded step.sequence))
      (outcome.1, ⟨outcome.2, 1⟩)
    else
      (.returned (.error (.proceedMisuse step.label .repeated none)),
        ⟨(level.state.record (.refused step.sequence)).log
          (.warn ("advice '" ++ step.label ++ "' called proceed more than once on " ++
            level.state.signature.display)), level.uses + 1⟩)

/-- Answers a request of an around advice whose continuation is given. -/
def answer (dial : Dialler) (step : Step AroundBody) (rest : Run CallState CallResult) :
    (request : Steering) → Run Level request.Answer
  | .ambient request => fun level =>
    let outcome := request.answer dial level.state.world
    (outcome.1, { level with state := { level.state with world := outcome.2 } })
  | .view => Run.read fun level => level.state.toInvocation.view level.state.world.scopes
  | .description => Run.read fun level => level.state.toInvocation.describe
  | .setArguments arguments => Run.modify fun level =>
    { level with state := { level.state with arguments } }
  | .setRoutingKey key => Run.modify fun level => { level with state := level.state.setRoutingKey key }
  | .proceed => useRest step rest

/-- What a level gives back: an error that names the advice if it used its continuation more than once,
or failed without having used it, and otherwise what the advice returned. -/
def settle (step : Step AroundBody) (uses : Nat) (result : CallResult) : Run CallState CallResult :=
  fun state =>
    match uses, result with
    | 0, .error error =>
      (.returned (.error (.proceedMisuse step.label .unproceeded (some error))),
        state.log (.warn ("advice '" ++ step.label ++ "' failed without calling proceed on " ++
          state.signature.display ++ ": " ++ error.message)))
    | _ + 2, .error error =>
      (.returned (.error (.proceedMisuse step.label .repeated (some error))), state)
    | _ + 2, .ok _ => (.returned (.error (.proceedMisuse step.label .repeated none)), state)
    | _, result => (.returned result, state)

/-- What becomes of the run of an advice: it is settled if the advice returned. -/
def settleLevel (step : Step AroundBody) : Outcome CallResult × Level → Outcome CallResult × CallState
  | (.returned result, level) => settle step level.uses result level.state
  | (.panicked message, level) => (.panicked message, level.state)
  | (.exhausted, level) => (.exhausted, level.state)

/-- Runs around advices from the outermost to the innermost, and the target inside. -/
def nest (dial : Dialler) (terminal : Terminal) : List (Step AroundBody) → Run CallState CallResult
  | [] => fun state =>
    let outcome := (terminal state.arguments).run (Ambient.answer dial) state.world
    (outcome.1, { state.enterTarget with world := outcome.2 })
  | step :: inner => fun state =>
    settleLevel step
      (step.body.run (answer dial step (nest dial terminal inner)) ⟨state.enterAround step, 0⟩)

/-- Runs the whole nest. -/
def runNest (dial : Dialler) (terminal : Terminal) (arounds : List (Step AroundBody)) :
    Run CallState CallResult :=
  fun state => nest dial terminal arounds (state.enterPhase .aroundNestRunning)

/-- The frame of an around advice that used its continuation a number of times. -/
def frameOf (step : Step AroundBody) (uses : Nat) : Frame :=
  ⟨step.label, step.sequence, true, decide (0 < uses), decide (1 < uses)⟩

/-- The shared invocation while an around advice runs on it: its frame lies on the frames around it, and
as long as it has not proceeded, cursor and target are where it found them. -/
structure InBody (step : Step AroundBody) (outer : List Frame) (cursor : Nat) (terminal : Terminal)
    (running : Running) (level : Level) : Prop where
  /-- The call is the same. -/
  state : running.callState = level.state
  /-- The innermost frame is that of the advice. -/
  frames : running.invocation.frames = frameOf step level.uses :: outer
  /-- The rest of the nest is untouched until the continuation is used. -/
  unused : level.uses = 0 →
    running.invocation.cursor = cursor ∧ running.invocation.terminal = some terminal

/-- The shared invocation agrees with a call. -/
abbrev SameCall (running : Running) (state : CallState) : Prop := running.callState = state

/-- The shared invocation agrees with a call and has the frames it should have. -/
def Restored (frames : List Frame) (running : Running) (state : CallState) : Prop :=
  running.callState = state ∧ running.invocation.frames = frames

/-- What proceeding leads to on the shared invocation, as long as cursor and target are untouched, is
what the continuation leads to, and the frames are restored. -/
def Continues (cursor : Nat) (terminal : Terminal) (next : Run Running CallResult)
    (rest : Run CallState CallResult) : Prop :=
  ∀ running : Running, running.invocation.cursor = cursor →
    running.invocation.terminal = some terminal →
    Agree (Restored running.invocation.frames) SameCall (next running) (rest running.callState)

/-- Advices see the same of the call with and without the means by which its nest is run. -/
theorem callState_view (running : Running) (scopes : RoutingStack) :
    running.callState.toInvocation.view scopes = running.invocation.view scopes := rfl

/-- The description of the call is the same with and without the means by which its nest is run. -/
theorem callState_describe (running : Running) :
    running.callState.toInvocation.describe = running.invocation.describe := by
  simp only [Invocation.describe, CallState.toInvocation, Running.callState]

section

variable {dial : Dialler} {step : Step AroundBody} {outer : List Frame} {cursor : Nat}
  {terminal : Terminal} {next : Run Running CallResult} {rest : Run CallState CallResult}

/-- Where only the surroundings change, the advice goes on undisturbed. -/
theorem InBody.inWorld {running : Running} {level : Level}
    (h : InBody step outer cursor terminal running level) (world : World) :
    InBody step outer cursor terminal { running with world }
      { level with state := { level.state with world } } := by
  refine ⟨?_, h.frames, h.unused⟩
  rw [← h.state]
  rfl

/-- Proceeding on the shared invocation is using the continuation. -/
theorem proceed_agrees (hnext : Continues cursor terminal next rest) {running : Running} {level : Level}
    (h : InBody step outer cursor terminal running level) :
    Agree (InBody step outer cursor terminal) (fun running level => running.callState = level.state)
      (Running.proceed next running) (useRest step rest level) := by
  obtain ⟨state, uses⟩ := level
  obtain ⟨hstate, hframes, hunused⟩ := h
  simp only at hstate hframes hunused
  subst hstate
  unfold Running.proceed useRest
  rw [hframes]
  cases uses with
  | zero =>
    obtain ⟨hcursor, hterminal⟩ := hunused rfl
    simp only [frameOf, Bool.not_true, Bool.false_eq_true, reduceIte, Nat.lt_irrefl, decide_false]
    let granted := running.mapInvocation fun invocation =>
      { invocation.record (.proceeded step.sequence) with frames := frameOf step 1 :: outer }
    have hrest := hnext granted hcursor hterminal
    refine hrest.mapRight (f := fun state => Level.mk state 1) ?_ ?_
    · intro after state hrestored
      exact ⟨hrestored.1, hrestored.2, fun h => absurd h Nat.one_ne_zero⟩
    · intro after state hsame
      exact hsame
  | succ uses =>
    have hproceeded : decide (0 < uses + 1) = true := by simp
    simp only [frameOf, Bool.not_true, Bool.false_eq_true, reduceIte, hproceeded,
      Nat.add_one_ne_zero]
    refine .returned ⟨rfl, ?_, fun h => absurd h (Nat.succ_ne_zero _)⟩
    simp [Running.log, Running.mapInvocation, frameOf]

/-- Every request of an around advice, except to proceed, is answered on the shared invocation as it is answered
when its continuation is given, and leaves the advice undisturbed even if it panics. -/
theorem answer_agrees_of_ne (dial : Dialler) (next : Run Running CallResult) (rest : Run CallState CallResult)
    {request : Steering} (hrequest : request ≠ .proceed) {running : Running} {level : Level}
    (h : InBody step outer cursor terminal running level) :
    Agree (InBody step outer cursor terminal) (InBody step outer cursor terminal)
      (Steering.answer dial (Running.proceed next) request running)
      (answer dial step rest request level) := by
  obtain ⟨state, uses⟩ := level
  obtain rfl : running.callState = state := h.state
  cases request with
  | ambient request =>
    have hafter := h.inWorld
    have hworld : running.callState.world = running.world := rfl
    simp only [Steering.answer, Run.inWorld, answer, hworld]
    generalize request.answer dial running.world = outcome
    obtain ⟨outcome, world⟩ := outcome
    cases outcome with
    | returned value => exact .returned (hafter world)
    | panicked message => exact .panicked (hafter world)
    | exhausted => exact .exhausted (hafter world)
  | view =>
    change Agree _ _ (.returned (running.invocation.view running.world.scopes), running)
      (.returned (running.callState.toInvocation.view running.world.scopes), _)
    rw [callState_view]
    exact .returned h
  | description =>
    change Agree _ _ (.returned running.invocation.describe, running)
      (.returned running.callState.toInvocation.describe, _)
    rw [callState_describe]
    exact .returned h
  | setArguments arguments => exact .returned ⟨rfl, h.frames, h.unused⟩
  | setRoutingKey key => exact .returned ⟨rfl, h.frames, h.unused⟩
  | proceed => exact absurd rfl hrequest

/-- Every request of an around advice is answered on the shared invocation as it is answered when its
continuation is given. -/
theorem answer_agrees (dial : Dialler) (hnext : Continues cursor terminal next rest)
    (request : Steering) (running : Running) (level : Level)
    (h : InBody step outer cursor terminal running level) :
    Agree (InBody step outer cursor terminal) (fun running level => running.callState = level.state)
      (Steering.answer dial (Running.proceed next) request running)
      (answer dial step rest request level) := by
  by_cases hrequest : request = .proceed
  · subst hrequest
    exact proceed_agrees hnext h
  · exact (answer_agrees_of_ne dial next rest hrequest h).weaken (fun _ _ h => h) fun _ _ h => h.state

/-- The verdict on an around advice is how its level is settled. -/
theorem judge_agrees (step : Step AroundBody) (uses : Nat) (result : CallResult) (running : Running) :
    Agree (Restored running.invocation.frames) SameCall
      (Running.judge running.invocation.signature step.label (frameOf step uses) result running)
      (settle step uses result running.callState) := by
  match uses, result with
  | 0, .ok value => exact .returned ⟨rfl, rfl⟩
  | 0, .error error => exact .returned ⟨rfl, rfl⟩
  | 1, .ok value => exact .returned ⟨rfl, rfl⟩
  | 1, .error error => exact .returned ⟨rfl, rfl⟩
  | uses + 2, .ok value =>
    have hmisused : (frameOf step (uses + 2)).misused = true := by simp [frameOf]
    rw [Running.judge, if_pos hmisused]
    exact .returned ⟨rfl, rfl⟩
  | uses + 2, .error error =>
    have hmisused : (frameOf step (uses + 2)).misused = true := by simp [frameOf]
    rw [Running.judge, if_pos hmisused]
    exact .returned ⟨rfl, rfl⟩

/-- Running an around advice on the shared invocation is running it with the rest of the nest as its
continuation and settling its level. -/
theorem runAround_agrees (hnext : Continues cursor terminal next rest) (hunwinds : step.body.Unwinds)
    (running : Running) (hcursor : running.invocation.cursor = cursor)
    (hterminal : running.invocation.terminal = some terminal) :
    Agree (Restored running.invocation.frames) SameCall (Running.runAround dial next step running)
      (settleLevel step (step.body.run (answer dial step rest)
        ⟨running.callState.record (.advice .around step.sequence), 0⟩)) := by
  let opened := running.mapInvocation (·.openFrame .around (frameOf step 0))
  have hopened : InBody step running.invocation.frames cursor terminal opened
      ⟨running.callState.record (.advice .around step.sequence), 0⟩ :=
    ⟨rfl, rfl, fun _ => ⟨hcursor, hterminal⟩⟩
  have hbody := Agree.program (answer_agrees dial hnext)
    (fun _ _ _ hother h => answer_agrees_of_ne dial next rest hother h) hunwinds hopened fun _ _ h => h.state
  change Agree _ _ (((step.body.run (Steering.answer dial (Running.proceed next))) >>= fun result =>
    Running.closeFrame step >>= fun frame =>
      Run.read (fun running => running.invocation.signature) >>= fun signature =>
        Running.judge signature step.label frame result) opened) _
  rw [Run.bind_apply]
  generalize step.body.run (Steering.answer dial (Running.proceed next)) opened = ran at hbody
  generalize step.body.run (answer dial step rest) _ = level at hbody
  cases hbody with
  | @returned result after level h =>
    obtain ⟨state, uses⟩ := level
    obtain ⟨hstate, hframes, _⟩ := h
    let closed := after.mapInvocation Invocation.closeFrame
    have hclosed : closed.invocation.frames = running.invocation.frames := by
      change after.invocation.frames.tail = running.invocation.frames
      rw [hframes]
      rfl
    have hframe : after.invocation.frames.headD ⟨step.label, step.sequence, true, false, false⟩ =
        frameOf step uses := by rw [hframes]; rfl
    have hjudge := judge_agrees step uses result closed
    change Agree _ _ (Running.judge closed.invocation.signature step.label
      (after.invocation.frames.headD ⟨step.label, step.sequence, true, false, false⟩) result closed)
      (settle step uses result state)
    rw [hframe, ← hclosed]
    have hcall : closed.callState = state := hstate
    rwa [hcall] at hjudge
  | panicked h => exact .panicked h
  | exhausted h => exact .exhausted h

end

/-- Entering the target on the shared invocation is handing the arguments over to it. -/
theorem callTarget_agrees (dial : Dialler) {terminal : Terminal} (running : Running)
    (hterminal : running.invocation.terminal = some terminal) :
    Agree (Restored running.invocation.frames) SameCall (Running.callTarget dial running)
      (nest dial terminal [] running.callState) := by
  unfold Running.callTarget nest Run.inWorld
  rw [hterminal]
  simp only [Running.mapInvocation, Running.callState]
  generalize (terminal running.invocation.arguments).run (Ambient.answer dial) running.world = outcome
  obtain ⟨outcome, world⟩ := outcome
  cases outcome with
  | returned value => exact .returned ⟨rfl, rfl⟩
  | panicked message => exact .panicked rfl
  | exhausted => exact .exhausted rfl

/-- Running on the shared invocation from the cursor on is running the around advices that are left. The
bound is never reached, since the cursor moves forward with every around advice. -/
theorem proceedNext_agrees (dial : Dialler) {arounds : List (Step AroundBody)}
    (hunwinds : ∀ step ∈ arounds, step.body.Unwinds) {terminal : Terminal} (bound : Nat) (running : Running)
    (hcursor : running.invocation.cursor ≤ arounds.length)
    (hbound : arounds.length < bound + running.invocation.cursor)
    (hterminal : running.invocation.terminal = some terminal) :
    Agree (Restored running.invocation.frames) SameCall (Running.proceedNext dial arounds bound running)
      (nest dial terminal (arounds.drop running.invocation.cursor) running.callState) := by
  induction bound generalizing running with
  | zero => exact absurd hbound (by omega)
  | succ bound ih =>
    unfold Running.proceedNext
    cases hget : arounds[running.invocation.cursor]? with
    | none =>
      rw [List.drop_eq_nil_of_le (List.getElem?_eq_none_iff.mp hget)]
      simp only
      exact callTarget_agrees dial running hterminal
    | some step =>
      obtain ⟨hlt, hstep⟩ := List.getElem?_eq_some_iff.mp hget
      have hdrop : arounds.drop running.invocation.cursor =
          step :: arounds.drop (running.invocation.cursor + 1) := by
        rw [List.drop_eq_getElem_cons hlt, hstep]
      have hnext : Continues (running.invocation.cursor + 1) terminal
          (Running.proceedNext dial arounds bound)
          (nest dial terminal (arounds.drop (running.invocation.cursor + 1))) := by
        intro later hlater hterminal'
        have hagree := ih later (by omega) (by omega) hterminal'
        rwa [hlater] at hagree
      rw [hdrop]
      simp only
      let entered := running.mapInvocation fun invocation =>
        { invocation with cursor := invocation.cursor + 1 }
      exact runAround_agrees hnext (hunwinds step (List.mem_of_getElem? hget)) entered rfl hterminal

end OneShot

end Interception
