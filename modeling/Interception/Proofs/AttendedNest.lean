import Interception.Aspects.Metric
import Interception.Proofs.AlikePrograms
import Interception.Proofs.OneShotNest

/-!
# Nests with observers

The around advices of logging and metric aspects proceed once, write a record or count the call when the rest
of the nest returned, and give back what it returned. Such an observer can be put anywhere among the around
advices of a call. What it encloses runs in a state that is like the one that the observer found, since the
entries it adds to the journal are its own, and what comes of it is given back unchanged in a state that is
like the one in which the rest of the nest returned. The levels of the other advices are told apart by how
often they used their continuation only, and this is not the observer's business.

By induction on the nest, the nests with and without observers do the same. A logging aspect draws a random
number for every call that returns, so that the other run is given one number more or less.
-/

namespace Interception

/-- The around advice of a logging or of a metric aspect. -/
def AroundBody.IsObserver (body : AroundBody) : Prop :=
  (∃ aspect : LoggingAspect, body = aspect.around) ∨ ∃ aspect : MetricAspect, body = aspect.around

/-- What a logging aspect does after it proceeded is no more than to write a record. -/
theorem LoggingAspect.report_unwinds (aspect : LoggingAspect) (operation args : String) (result : CallResult)
    (duration : Nat) (routingKey : Option String) :
    SteeringProgram.Unwinds (aspect.report operation args result duration routingKey) := by
  have hlog : ∀ {reports : Prop} (decides : Decidable reports) (record : LogRecord), SteeringProgram.Unwinds
      (@ite _ reports decides (Steering.ask (.log record)) (pure ())) := by
    intro reports decides record
    cases decides with
    | isTrue => exact .ask _ .done
    | isFalse => exact .done ()
  refine .ask _ fun drawn => ?_
  cases result with
  | ok value => exact hlog _ _
  | error error => exact hlog _ _

/-- An observer lets every panic pass. -/
theorem AroundBody.IsObserver.unwinds {body : AroundBody} (h : body.IsObserver) :
    SteeringProgram.Unwinds body := by
  obtain ⟨aspect, rfl⟩ | ⟨aspect, rfl⟩ := h
  · refine .ask _ fun _ => .ask _ fun _ => .ask _ fun _ => .ask _ fun _ => .ask _ fun _ => ?_
    exact (aspect.report_unwinds _ _ _ _ _).bind fun _ => .done _
  · exact .ask _ fun _ => .ask _ fun _ => .ask _ fun _ => .done _

/-- Running calls that are alike, cursors apart. Their journals are compared without the entries that are not
kept, and their surroundings without what does not matter there. -/
structure CallState.Alike (keep : JournalEntry → Bool) (rest : List Float32) (state state' : CallState) :
    Prop where
  /-- The method is the same. -/
  signature_eq : state.signature = state'.signature
  /-- The arguments are the same. -/
  arguments_eq : state.arguments = state'.arguments
  /-- The target has been called in both or in neither. -/
  targetCalled_eq : state.targetCalled = state'.targetCalled
  /-- The routing scope is the same. -/
  scope_eq : state.scope = state'.scope
  /-- The phase is the same. -/
  phase_eq : state.phase = state'.phase
  /-- The journals have the same entries among those that are kept. -/
  journal_eq : state.journal.toList.filter keep = state'.journal.toList.filter keep
  /-- The surroundings are alike. -/
  world : World.Alike rest state.world state'.world

namespace CallState.Alike

variable {keep : JournalEntry → Bool} {rest : List Float32} {state state' : CallState}

/-- Writing the same to the journals keeps calls alike. -/
theorem record (h : Alike keep rest state state') (entry : JournalEntry) :
    Alike keep rest (state.record entry) (state'.record entry) := by
  refine ⟨h.signature_eq, h.arguments_eq, h.targetCalled_eq, h.scope_eq, h.phase_eq, ?_, h.world⟩
  simp only [CallState.record, Array.toList_push, List.filter_append, h.journal_eq]

/-- What is not kept may be written to the first journal. -/
theorem recordLeft (h : Alike keep rest state state') {entry : JournalEntry} (hkeep : keep entry = false) :
    Alike keep rest (state.record entry) state' := by
  refine ⟨h.signature_eq, h.arguments_eq, h.targetCalled_eq, h.scope_eq, h.phase_eq, ?_, h.world⟩
  simp [CallState.record, hkeep, h.journal_eq]

/-- What is not kept may be written to the second journal. -/
theorem recordRight (h : Alike keep rest state state') {entry : JournalEntry} (hkeep : keep entry = false) :
    Alike keep rest state (state'.record entry) := by
  refine ⟨h.signature_eq, h.arguments_eq, h.targetCalled_eq, h.scope_eq, h.phase_eq, ?_, h.world⟩
  simp [CallState.record, hkeep, h.journal_eq]

/-- Calls in other surroundings are alike if these are. -/
theorem withWorld {rest' : List Float32} (h : Alike keep rest state state') {world world' : World}
    (hworld : World.Alike rest' world world') :
    Alike keep rest' { state with world } { state' with world := world' } :=
  ⟨h.signature_eq, h.arguments_eq, h.targetCalled_eq, h.scope_eq, h.phase_eq, h.journal_eq, hworld⟩

/-- Log records do not matter. -/
theorem log (h : Alike keep rest state state') (record record' : LogRecord) :
    Alike keep rest (state.log record) (state'.log record') := h.withWorld (h.world.log record record')

/-- The number of around advices entered does not matter. -/
theorem withEntered (h : Alike keep rest state state') (entered entered' : Nat) :
    Alike keep rest { state with entered } { state' with entered := entered' } :=
  ⟨h.signature_eq, h.arguments_eq, h.targetCalled_eq, h.scope_eq, h.phase_eq, h.journal_eq, h.world⟩

/-- Calls that move on to a phase stay alike. -/
theorem enterPhase (h : Alike keep rest state state') (phase : CallPhase) :
    Alike keep rest (state.enterPhase phase) (state'.enterPhase phase) := by
  have hrecord := h.record (.phase phase)
  exact ⟨hrecord.signature_eq, hrecord.arguments_eq, hrecord.targetCalled_eq, hrecord.scope_eq, rfl,
    hrecord.journal_eq, hrecord.world⟩

/-- Calls that get the same routing key stay alike. -/
theorem setRoutingKey (h : Alike keep rest state state') (key : Option String) :
    Alike keep rest (state.setRoutingKey key) (state'.setRoutingKey key) := by
  refine h.withWorld (h.world.withScopes ?_)
  rw [h.world.scopes_eq, h.scope_eq]

/-- Calls that enter the same around advice stay alike. -/
theorem enterAround (h : Alike keep rest state state') (step : Step AroundBody) :
    Alike keep rest (state.enterAround step) (state'.enterAround step) :=
  (h.record (.advice .around step.sequence)).withEntered _ _

/-- Calls that hand their arguments over to the target stay alike. -/
theorem enterTarget (h : Alike keep rest state state') :
    Alike keep rest state.enterTarget state'.enterTarget := by
  have hrecord := (h.enterPhase .targetCalled).record (.target state.arguments)
  refine ⟨hrecord.signature_eq, rfl, rfl, hrecord.scope_eq, hrecord.phase_eq, ?_, hrecord.world⟩
  rw [CallState.enterTarget, CallState.enterTarget, ← h.arguments_eq]
  exact hrecord.journal_eq

/-- Advices see the same of calls that are alike. -/
theorem view_eq (h : Alike keep rest state state') :
    state.toInvocation.view state.world.scopes = state'.toInvocation.view state'.world.scopes := by
  simp only [Invocation.view, CallState.toInvocation, h.signature_eq, h.arguments_eq, h.targetCalled_eq,
    h.scope_eq, h.phase_eq, h.world.scopes_eq]

/-- Calls that are alike are described in the same way, cursors apart. -/
theorem describe (h : Alike keep rest state state') :
    SameDescription state.toInvocation.describe state'.toInvocation.describe := by
  refine ⟨state.toInvocation, state'.entered, rfl, ?_⟩
  simp only [Invocation.describe, CallState.toInvocation, h.signature_eq, h.arguments_eq,
    h.targetCalled_eq, h.phase_eq]

end CallState.Alike

namespace OneShot

/-- Around advices that run in calls that are alike and used their continuations equally often. -/
structure Level.Alike (keep : JournalEntry → Bool) (rest : List Float32) (level level' : Level) :
    Prop where
  /-- The calls are alike. -/
  state : CallState.Alike keep rest level.state level'.state
  /-- The continuations were used equally often. -/
  uses_eq : level.uses = level'.uses

/-- Around advices that are the same but for observers, which may stand anywhere in either list. The others do
not depend on the cursor, and what observers write to the journal is not kept. -/
inductive Attended (keep : JournalEntry → Bool) : List (Step AroundBody) → List (Step AroundBody) → Prop where
  /-- No advice is left. -/
  | nil : Attended keep [] []
  /-- The next advice is in both lists. -/
  | both {step : Step AroundBody} {inner inner' : List (Step AroundBody)} : step.body.IsBlind →
    Attended keep inner inner' → Attended keep (step :: inner) (step :: inner')
  /-- The next advice of the first list is an observer. -/
  | first {step : Step AroundBody} {inner inner' : List (Step AroundBody)} : step.body.IsObserver →
    keep (.advice .around step.sequence) = false → keep (.proceeded step.sequence) = false →
    Attended keep inner inner' → Attended keep (step :: inner) inner'
  /-- The next advice of the second list is an observer. -/
  | second {step : Step AroundBody} {inner inner' : List (Step AroundBody)} : step.body.IsObserver →
    keep (.advice .around step.sequence) = false → keep (.proceeded step.sequence) = false →
    Attended keep inner inner' → Attended keep inner (step :: inner')

/-- An around advice that does nothing of its own to a call but draw a fixed number of random numbers, write
log records and count: it proceeds at once, and gives back what came of it when that is done. -/
def Attends (dial : Dialler) (step : Step AroundBody) (draws : Nat) : Prop :=
  ∀ (rest : Run CallState CallResult) (state : CallState), ∃ closing : CallResult → Run CallState CallResult,
    settleLevel step (step.body.run (answer dial step rest) ⟨state.enterAround step, 0⟩) =
      (rest >>= closing) ((state.enterAround step).record (.proceeded step.sequence)) ∧
    ∀ result later, ∃ records meters, closing result later =
      (.returned result,
        { later with world := { later.world with records, meters, draws := later.world.draws.drop draws } })

/-- Random numbers for an observer, which draws last and only if what it encloses returns. -/
def observerDraws (draws : Nat) : Outcome CallResult → List Float32
  | .returned _ => List.replicate draws 0
  | .panicked _ => []
  | .exhausted => []

variable {keep : JournalEntry → Bool} {dial dial' : Dialler}

/-- It does not matter on which side the observers stand. -/
theorem Attended.symm {arounds arounds' : List (Step AroundBody)} (h : Attended keep arounds arounds') :
    Attended keep arounds' arounds := by
  induction h with
  | nil => exact .nil
  | both hblind _ ih => exact .both hblind ih
  | first hobserver hadvice hproceeded _ ih => exact .second hobserver hadvice hproceeded ih
  | second hobserver hadvice hproceeded _ ih => exact .first hobserver hadvice hproceeded ih

/-- Observers let every panic pass, so that they do not matter to whether all around advices do. -/
theorem Attended.unwinds {arounds arounds' : List (Step AroundBody)} (h : Attended keep arounds arounds')
    (hunwinds : ∀ step ∈ arounds, step.body.Unwinds) : ∀ step ∈ arounds', step.body.Unwinds := by
  induction h with
  | nil => exact hunwinds
  | both _ _ ih =>
    obtain ⟨hstep, hothers⟩ := List.forall_mem_cons.mp hunwinds
    exact List.forall_mem_cons.mpr ⟨hstep, ih hothers⟩
  | first _ _ _ _ ih => exact ih (List.forall_mem_cons.mp hunwinds).2
  | second hobserver _ _ _ ih => exact List.forall_mem_cons.mpr ⟨hobserver.unwinds, ih hunwinds⟩

/-- Around advices that do not depend on the cursor are the same as themselves, observers apart. -/
theorem Attended.refl {arounds : List (Step AroundBody)}
    (hblind : ∀ step ∈ arounds, step.body.IsBlind) : Attended keep arounds arounds := by
  induction arounds with
  | nil => exact .nil
  | cons step arounds ih =>
    obtain ⟨hstep, hothers⟩ := List.forall_mem_cons.mp hblind
    exact .both hstep (ih hothers)

/-- What a metric aspect does with what came of proceeding: it counts it and gives it back. -/
def countResult (aspect : MetricAspect) (operation : String) (result : CallResult) :
    Run CallState CallResult := fun state =>
  (.returned result, { state with world := { state.world with
    meters := state.world.meters.count aspect.family operation result.isOk } })

/-- A metric aspect proceeds, counts what came of it and gives it back. -/
theorem settleLevel_metric (dial : Dialler) {step : Step AroundBody} (aspect : MetricAspect)
    (hbody : step.body = aspect.around) (rest : Run CallState CallResult) (state : CallState) :
    settleLevel step (step.body.run (answer dial step rest) ⟨state.enterAround step, 0⟩) =
      (rest >>= countResult aspect state.signature.operation)
        ((state.enterAround step).record (.proceeded step.sequence)) := by
  rw [hbody]
  change settleLevel step (Run.bind (useRest step rest) (fun result => Program.run (answer dial step rest)
    (.ask (.ambient (.count aspect.family state.signature.operation result.isOk)) fun _ => .done result))
    ⟨state.enterAround step, 0⟩) = Run.bind rest _ _
  simp only [Run.bind, useRest, if_true]
  generalize rest ((state.enterAround step).record (.proceeded step.sequence)) = ran
  obtain ⟨outcome, later⟩ := ran
  cases outcome with
  | returned result => cases result <;> rfl
  | panicked message => rfl
  | exhausted => rfl

/-- A metric aspect only counts. -/
theorem attends_metric (dial : Dialler) {step : Step AroundBody} (aspect : MetricAspect)
    (hbody : step.body = aspect.around) : Attends dial step 0 := fun rest state =>
  ⟨_, settleLevel_metric dial aspect hbody rest state, fun _ later => ⟨later.world.records, _, rfl⟩⟩

/-- Writing a record to the log, or not, changes nothing else before the result is given back. -/
theorem settle_reported (dial : Dialler) (step : Step AroundBody) (rest : Run CallState CallResult)
    (isReported : Prop) [Decidable isReported] (record : LogRecord) (result : CallResult)
    (state : CallState) : ∃ records, settleLevel step (Program.run (answer dial step rest)
      ((if isReported then Steering.ask (.log record) else pure ()) >>= fun _ => pure result) ⟨state, 1⟩) =
        (.returned result, { state with world := { state.world with records } }) := by
  by_cases h : isReported
  · rw [if_pos h]
    cases result <;> exact ⟨_, rfl⟩
  · rw [if_neg h]
    cases result <;> exact ⟨_, rfl⟩

/-- A logging aspect draws a random number and may write a record. -/
theorem attends_logging (dial : Dialler) {step : Step AroundBody} (aspect : LoggingAspect)
    (hbody : step.body = aspect.around) : Attends dial step 1 := by
  intro rest state
  let view := (state.enterAround step).toInvocation.view state.world.scopes
  let tail (result : CallResult) : AroundBody := do
    let stop : Nat ← Steering.ask .clock
    let after ← Steering.look
    aspect.report view.signature.operation
      (Text.describeList (view.arguments.typeNames.map Text.quoted)) result (stop - state.world.clock)
      after.routingKey
    pure result
  refine ⟨fun result later => settleLevel step ((tail result).run (answer dial step rest) ⟨later, 1⟩), ?_,
    fun result later => ?_⟩
  · rw [hbody]
    change settleLevel step (Run.bind (useRest step rest) (fun result => Program.run (answer dial step rest)
      (tail result)) ⟨state.enterAround step, 0⟩) = Run.bind rest _ _
    simp only [Run.bind, useRest, if_true]
    generalize rest ((state.enterAround step).record (.proceeded step.sequence)) = ran
    obtain ⟨outcome, later⟩ := ran
    cases outcome with
    | returned result => rfl
    | panicked message => rfl
    | exhausted => rfl
  · let drawn := { later with world := { later.world with draws := later.world.draws.tail } }
    rw [List.drop_one]
    cases result with
    | ok value =>
      obtain ⟨records, hsettled⟩ := settle_reported dial step rest
        (later.world.draws.headD 0 < aspect.options.infoSampleRate) _ (.ok value) drawn
      exact ⟨records, later.world.meters, hsettled⟩
    | error error =>
      obtain ⟨records, hsettled⟩ := settle_reported dial step rest
        (later.world.draws.headD 0 < aspect.options.warnSampleRate) _ (.error error) drawn
      exact ⟨records, later.world.meters, hsettled⟩

/-- An observer does nothing of its own to a call but draw random numbers, write log records and count. -/
theorem exists_attends (dial : Dialler) {step : Step AroundBody} (h : step.body.IsObserver) :
    ∃ draws, Attends dial step draws := by
  obtain ⟨aspect, hbody⟩ | ⟨aspect, hbody⟩ := h
  · exact ⟨1, attends_logging dial aspect hbody⟩
  · exact ⟨0, attends_metric dial aspect hbody⟩

section

variable {terminal : Terminal} {step : Step AroundBody} {rest rest' : Run CallState CallResult}
  {inner inner' : List (Step AroundBody)}

/-- The first use of a continuation does the same if the continuation does, and every other use is refused. -/
theorem useRest_mimics (hrest : Run.Mimics (CallState.Alike keep) rest rest') (step : Step AroundBody) :
    Run.Mimics (Level.Alike keep) (useRest step rest) (useRest step rest') := by
  intro level
  by_cases huses : level.uses = 0
  · obtain ⟨drawn, hran⟩ := hrest (level.state.record (.proceeded step.sequence))
    refine ⟨drawn, fun level' others h => ?_⟩
    have hcontinued := hran _ others (h.state.record (.proceeded step.sequence))
    rw [useRest, useRest, if_pos huses, if_pos (h.uses_eq ▸ huses)]
    exact hcontinued.map (Level.Alike keep others) (⟨·, 1⟩) (⟨·, 1⟩) fun _ _ hstate => ⟨hstate, rfl⟩
  · refine ⟨[], fun level' others h => ?_⟩
    rw [useRest, useRest, if_neg huses, if_neg (h.uses_eq ▸ huses)]
    refine .returned rfl ⟨(h.state.record (.refused step.sequence)).log _ _, ?_⟩
    rw [h.uses_eq]

/-- The requests of an around advice are answered alike if calls by name and its continuation do the same. -/
theorem answers (hdial : dial.Mimics dial') (hrest : Run.Mimics (CallState.Alike keep) rest rest')
    (step : Step AroundBody) :
    Answers (Level.Alike keep) Steering.Pairs (answer dial step rest) (answer dial' step rest') := by
  intro request level
  cases request with
  | ambient request =>
    obtain ⟨drawn, hanswer⟩ := Ambient.answers hdial request level.state.world
    refine ⟨drawn, fun request' echoes level' others hpair h => ?_⟩
    cases hpair with
    | ambient hpair =>
      have hworld := hanswer _ _ level'.state.world others hpair h.state.world
      exact hworld.map (Level.Alike keep others)
        (fun world => { level with state := { level.state with world } })
        (fun world => { level' with state := { level'.state with world } })
        fun _ _ hworld => ⟨h.state.withWorld hworld, h.uses_eq⟩
  | view =>
    refine ⟨[], fun request' echoes level' others hpair h => ?_⟩
    cases hpair with
    | view => exact .returned h.state.view_eq h
  | description =>
    refine ⟨[], fun request' echoes level' others hpair h => ?_⟩
    cases hpair with
    | description => exact .returned h.state.describe h
  | setArguments arguments =>
    refine ⟨[], fun request' echoes level' others hpair h => ?_⟩
    cases hpair with
    | setArguments =>
      have hstate := h.state
      exact .returned rfl ⟨⟨hstate.signature_eq, rfl, hstate.targetCalled_eq, hstate.scope_eq,
        hstate.phase_eq, hstate.journal_eq, hstate.world⟩, h.uses_eq⟩
  | setRoutingKey key =>
    refine ⟨[], fun request' echoes level' others hpair h => ?_⟩
    cases hpair with
    | setRoutingKey => exact .returned rfl ⟨h.state.setRoutingKey key, h.uses_eq⟩
  | proceed =>
    obtain ⟨drawn, hran⟩ := useRest_mimics hrest step level
    refine ⟨drawn, fun request' echoes level' others hpair h => ?_⟩
    cases hpair with
    | proceed => exact hran level' others h

/-- Levels that ended in the same way are settled in the same way. -/
theorem settleLevel_echo {others : List Float32} (step : Step AroundBody)
    {ran ran' : Outcome CallResult × Level} (h : Echo (Level.Alike keep others) Eq ran ran') :
    Echo (CallState.Alike keep others) Eq (settleLevel step ran) (settleLevel step ran') := by
  cases h with
  | @returned result _ level level' hresult hlevel =>
    subst hresult
    obtain ⟨state, uses⟩ := level
    obtain ⟨state', _⟩ := level'
    obtain ⟨hstate, rfl⟩ := hlevel
    match uses, result with
    | 0, .ok value => exact .returned rfl hstate
    | 0, .error error => exact .returned rfl (hstate.log _ _)
    | 1, .ok value => exact .returned rfl hstate
    | 1, .error error => exact .returned rfl hstate
    | _ + 2, .ok value => exact .returned rfl hstate
    | _ + 2, .error error => exact .returned rfl hstate
  | panicked hlevel => exact .panicked hlevel.state
  | exhausted hlevel => exact .exhausted hlevel.state

/-- An advice that does not depend on the cursor does the same if what it encloses does. -/
theorem nest_mimics_both (hdial : dial.Mimics dial') (hblind : step.body.IsBlind)
    (h : Run.Mimics (CallState.Alike keep) (nest dial terminal inner) (nest dial' terminal inner')) :
    Run.Mimics (CallState.Alike keep) (nest dial terminal (step :: inner))
      (nest dial' terminal (step :: inner')) := by
  intro state
  obtain ⟨drawn, hran⟩ := (answers hdial h step).mimics hblind ⟨state.enterAround step, 0⟩
  refine ⟨drawn, fun state' others hstate => ?_⟩
  exact settleLevel_echo step (hran _ others ⟨hstate.enterAround step, rfl⟩)

/-- An observer in the first nest makes no difference. -/
theorem nest_mimics_first (hobserver : step.body.IsObserver)
    (hadvice : keep (.advice .around step.sequence) = false)
    (hproceeded : keep (.proceeded step.sequence) = false)
    (h : Run.Mimics (CallState.Alike keep) (nest dial terminal inner) (nest dial' terminal inner')) :
    Run.Mimics (CallState.Alike keep) (nest dial terminal (step :: inner))
      (nest dial' terminal inner') := by
  intro state
  obtain ⟨draws, hattends⟩ := exists_attends dial hobserver
  obtain ⟨closing, hopening, hclosing⟩ := hattends (nest dial terminal inner) state
  obtain ⟨drawn, hran⟩ := h ((state.enterAround step).record (.proceeded step.sequence))
  refine ⟨drawn, fun state' others hstate => ?_⟩
  have hopened : CallState.Alike keep (drawn ++ others)
      ((state.enterAround step).record (.proceeded step.sequence)) state' :=
    ((hstate.recordLeft hadvice).withEntered _ state'.entered).recordLeft hproceeded
  have hinner := hran state' others hopened
  have hnest : nest dial terminal (step :: inner) state = (nest dial terminal inner >>= closing)
      ((state.enterAround step).record (.proceeded step.sequence)) := hopening
  rw [hnest, Run.bind_apply]
  generalize nest dial terminal inner _ = ran at hinner
  generalize nest dial' terminal inner' state' = ran' at hinner
  cases hinner with
  | @returned result _ later _ hresult hlater =>
    obtain ⟨records, meters, hclosed⟩ := hclosing result later
    have hworld := hlater.world
    simp only [hclosed]
    exact .returned hresult (hlater.withWorld ⟨hworld.scopes_eq, hworld.notes, hworld.clock_eq,
      hworld.cells_eq, hworld.draws_eq⟩)
  | panicked hlater => exact .panicked hlater
  | exhausted hlater => exact .exhausted hlater

/-- An observer in the second nest makes no difference, if it gets the random numbers that it draws. -/
theorem nest_mimics_second (hobserver : step.body.IsObserver)
    (hadvice : keep (.advice .around step.sequence) = false)
    (hproceeded : keep (.proceeded step.sequence) = false)
    (h : Run.Mimics (CallState.Alike keep) (nest dial terminal inner) (nest dial' terminal inner')) :
    Run.Mimics (CallState.Alike keep) (nest dial terminal inner)
      (nest dial' terminal (step :: inner')) := by
  intro state
  obtain ⟨draws, hattends⟩ := exists_attends dial' hobserver
  obtain ⟨drawn, hran⟩ := h state
  -- The observer draws after the rest of the nest, so its numbers come after those of the rest.
  let own := observerDraws draws (nest dial terminal inner state).1
  refine ⟨drawn ++ own, fun state' others hstate => ?_⟩
  rw [List.append_assoc] at hstate
  obtain ⟨closing, hopening, hclosing⟩ := hattends (nest dial' terminal inner') state'
  have hopened : CallState.Alike keep (drawn ++ (own ++ others)) state
      ((state'.enterAround step).record (.proceeded step.sequence)) :=
    ((hstate.recordRight hadvice).withEntered state.entered _).recordRight hproceeded
  have hinner := hran _ _ hopened
  have hnest : nest dial' terminal (step :: inner') state' = (nest dial' terminal inner' >>= closing)
      ((state'.enterAround step).record (.proceeded step.sequence)) := hopening
  rw [hnest, Run.bind_apply]
  generalize nest dial' terminal inner' _ = ran' at hinner
  simp only [own] at hinner
  generalize nest dial terminal inner state = ran at hinner ⊢
  cases hinner with
  | @returned _ result _ later hresult hlater =>
    obtain ⟨records, meters, hclosed⟩ := hclosing result later
    have hworld := hlater.world
    have hdraws : later.world.draws.drop draws = others := by
      rw [hworld.draws_eq]
      exact List.drop_left' (List.length_replicate)
    simp only [hclosed]
    exact .returned hresult (hlater.withWorld ⟨hworld.scopes_eq, hworld.notes, hworld.clock_eq,
      hworld.cells_eq, hdraws⟩)
  | panicked hlater => exact .panicked hlater
  | exhausted hlater => exact .exhausted hlater

/-- Nests with and without observers do the same. -/
theorem nest_mimics (hdial : dial.Mimics dial') (terminal : Terminal)
    {arounds arounds' : List (Step AroundBody)} (h : Attended keep arounds arounds') :
    Run.Mimics (CallState.Alike keep) (nest dial terminal arounds) (nest dial' terminal arounds') := by
  induction h with
  | nil =>
    intro state
    obtain ⟨drawn, hran⟩ := (Ambient.answers hdial).exists_drawn (terminal state.arguments) state.world
    refine ⟨drawn, fun state' others hstate => ?_⟩
    have halike : (terminal state.arguments).Alike Ambient.Pairs (terminal state'.arguments) := by
      rw [hstate.arguments_eq]
      exact AmbientProgram.alike _
    have hworld := hran _ state'.world others halike hstate.world
    exact hworld.map (CallState.Alike keep others) (fun world => { state.enterTarget with world })
      (fun world => { state'.enterTarget with world })
      fun _ _ hworld => hstate.enterTarget.withWorld hworld
  | both hblind _ ih => exact nest_mimics_both hdial hblind ih
  | first hobserver hadvice hproceeded _ ih => exact nest_mimics_first hobserver hadvice hproceeded ih
  | second hobserver hadvice hproceeded _ ih => exact nest_mimics_second hobserver hadvice hproceeded ih

end

end OneShot

end Interception
