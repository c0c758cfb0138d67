import Interception.Proofs.GuardedNests

/-!
# Runs of before advices

A before advice may replace the arguments and change the surroundings of the call, and every attempt to
proceed is refused. Nothing else of the invocation changes: cursor, target and the frames around the
advice are what they were. So the nest always begins at the first around advice with the target not yet
taken, and a call runs as its description by one-shot continuations says.
-/

namespace Interception

/-- What the journal tells of one before advice: it began, and attempts to proceed were refused. -/
def beforeEntries (step : Step BeforeBody) (refusals : Nat) : List JournalEntry :=
  .advice .before step.sequence :: List.replicate refusals (.refused step.sequence)

/-- What the journal tells of before advices that run one after the other, at least until one of them
does not succeed. -/
inductive BeforeJournal : List (Step BeforeBody) → List JournalEntry → Prop where
  /-- No advice is left. -/
  | done : BeforeJournal [] []
  /-- The advice is the last to run. -/
  | stopped (step : Step BeforeBody) (rest : List (Step BeforeBody)) (refusals : Nat) :
    BeforeJournal (step :: rest) (beforeEntries step refusals)
  /-- The next advice runs after the advice. -/
  | next (step : Step BeforeBody) (refusals : Nat) {rest : List (Step BeforeBody)}
    {entries : List JournalEntry} :
    BeforeJournal rest entries → BeforeJournal (step :: rest) (beforeEntries step refusals ++ entries)

/-- The invocation after before advices: other arguments, possibly frames that were left open, and more in
the journal. -/
def Invocation.afterBefores (invocation : Invocation) (arguments : Arguments) (frames : List Frame)
    (entries : List JournalEntry) : Invocation :=
  { invocation with arguments, frames, journal := invocation.journal ++ entries.toArray }

/-- Without entries only arguments and frames are replaced. -/
theorem Invocation.afterBefores_nil (invocation : Invocation) :
    invocation.afterBefores invocation.arguments invocation.frames [] = invocation := by
  simp [afterBefores]

/-- Before advices one after the other add their entries one after the other. -/
theorem Invocation.afterBefores_afterBefores (invocation : Invocation)
    (arguments arguments' : Arguments) (frames frames' : List Frame)
    (entries entries' : List JournalEntry) :
    (invocation.afterBefores arguments frames entries).afterBefores arguments' frames' entries' =
      invocation.afterBefores arguments' frames' (entries ++ entries') := by
  simp [afterBefores]

namespace Running

/-- A before advice runs: its frame lies on the frames around it. -/
def InBefore (step : Step BeforeBody) (invocation : Invocation) (running : Running) : Prop :=
  ∃ arguments refusals, running.invocation = invocation.afterBefores arguments
    (⟨step.label, step.sequence, false, false, false⟩ :: invocation.frames)
    (beforeEntries step refusals)

/-- Every attempt of a before advice to proceed is refused. -/
theorem proceed_keeps_inBefore (next : Run Running CallResult) (step : Step BeforeBody)
    (invocation : Invocation) : Run.Keeps (InBefore step invocation) (proceed next) := by
  intro running h
  obtain ⟨arguments, refusals, h⟩ := h
  have hframes : running.invocation.frames =
      ⟨step.label, step.sequence, false, false, false⟩ :: invocation.frames := by rw [h]; rfl
  refine ⟨arguments, refusals + 1, ?_⟩
  unfold proceed
  rw [hframes]
  change running.invocation.record (.refused step.sequence) = _
  rw [h]
  simp [Invocation.record, Invocation.afterBefores, beforeEntries, List.replicate_succ']

/-- Whatever a before advice asks for, only arguments and journal of the invocation change. -/
theorem answer_keeps_inBefore (dial : Dialler) (next : Run Running CallResult) (step : Step BeforeBody)
    (invocation : Invocation) (request : Steering) :
    Run.Keeps (InBefore step invocation) (Steering.answer dial (proceed next) request) := by
  refine Run.Keeps.steering (fun running world h => h) (fun running arguments h => ?_)
    (proceed_keeps_inBefore next step invocation) dial request
  obtain ⟨_, refusals, h⟩ := h
  refine ⟨arguments, refusals, ?_⟩
  change { running.invocation with arguments } = _
  rw [h]
  rfl

/-- After a before advice only arguments and journal of the invocation differ, and the frames if the
advice broke off. -/
theorem runBefore_invocation (dial : Dialler) (step : Step BeforeBody) (running : Running) :
    ∃ arguments frames refusals,
      (runBefore dial step running).2.invocation =
        running.invocation.afterBefores arguments frames (beforeEntries step refusals) ∧
      ∀ result, (runBefore dial step running).1 = .returned result →
        frames = running.invocation.frames := by
  let opened := running.mapInvocation
    (·.openFrame .before ⟨step.label, step.sequence, false, false, false⟩)
  have hopened : InBefore step running.invocation opened :=
    ⟨running.invocation.arguments, 0, by
      simp [opened, mapInvocation, Invocation.openFrame, Invocation.record, Invocation.afterBefores,
        beforeEntries]⟩
  have hbody := Run.Keeps.program (answer_keeps_inBefore dial Run.exhausted step running.invocation)
    step.body opened hopened
  have hrun : runBefore dial step running = (step.body.run (Steering.answer dial (proceed Run.exhausted))
    >>= fun result => Run.modify (·.mapInvocation Invocation.closeFrame) >>= fun _ => pure result)
      opened := rfl
  rw [hrun, Run.bind_apply]
  generalize step.body.run (Steering.answer dial (proceed Run.exhausted)) opened = ran at hbody
  obtain ⟨outcome, after⟩ := ran
  obtain ⟨arguments, refusals, hafter⟩ := hbody
  simp only at hafter
  cases outcome with
  | returned result =>
    refine ⟨arguments, running.invocation.frames, refusals, ?_, fun _ _ => rfl⟩
    change after.invocation.closeFrame = _
    rw [hafter]
    rfl
  | panicked message => exact ⟨arguments, _, refusals, hafter, fun _ h => by cases h⟩
  | exhausted => exact ⟨arguments, _, refusals, hafter, fun _ h => by cases h⟩

end Running

/-- After before advices only arguments and journal of the invocation differ, and the frames if an advice
broke off. -/
theorem Chain.runBefores_invocation (dial : Dialler) (steps : List (Step BeforeBody))
    (running : Running) :
    ∃ arguments frames entries,
      BeforeJournal steps entries ∧
      (Chain.runBefores dial steps running).2.invocation =
        running.invocation.afterBefores arguments frames entries ∧
      ∀ result, (Chain.runBefores dial steps running).1 = .returned result →
        frames = running.invocation.frames := by
  induction steps generalizing running with
  | nil =>
    exact ⟨_, _, [], .done, running.invocation.afterBefores_nil.symm, fun _ _ => rfl⟩
  | cons step rest ih =>
    obtain ⟨arguments, frames, refusals, hafter, hframes⟩ :=
      Running.runBefore_invocation dial step running
    rw [Chain.runBefores, Run.bind_apply]
    generalize Running.runBefore dial step running = ran at hafter hframes
    obtain ⟨outcome, after⟩ := ran
    simp only at hafter hframes
    cases outcome with
    | returned result =>
      have hsame := hframes result rfl
      cases result with
      | error error =>
        exact ⟨arguments, frames, _, .stopped step rest refusals, hafter, fun _ _ => hsame⟩
      | ok =>
        obtain ⟨arguments', frames', entries, hentries, hrest, hframes'⟩ := ih after
        refine ⟨arguments', frames', _, .next step refusals hentries, ?_, fun result' h => ?_⟩
        · change (Chain.runBefores dial rest after).2.invocation = _
          rw [hrest, hafter, Invocation.afterBefores_afterBefores]
        · rw [hframes' result' h, hafter]
          exact hsame
    | panicked message =>
      exact ⟨arguments, frames, _, .stopped step rest refusals, hafter, fun _ h => by cases h⟩
    | exhausted =>
      exact ⟨arguments, frames, _, .stopped step rest refusals, hafter, fun _ h => by cases h⟩

namespace OneShot

/-- Runs the before advices and, if all succeed, the nest of one-shot continuations. -/
def runInner (chain : Chain) (dial : Dialler) (terminal : Terminal) (running : Running) :
    Outcome CallResult × CallState :=
  match Chain.runBefores dial chain.befores running with
  | (.returned (.ok ()), after) =>
    runNest dial terminal chain.arounds (after.callState.enterPhase .beforeDone)
  | (.returned (.error error), after) => (.returned (.error error), after.callState)
  | (.panicked message, after) => (.panicked message, after.callState)
  | (.exhausted, after) => (.exhausted, after.callState)

/-- The nest on the shared invocation, begun at the first around advice with the target not yet taken, is
the nest of one-shot continuations. -/
theorem runNest_eq {dial : Dialler} {arounds : List (Step AroundBody)} {terminal : Terminal} {running : Running}
    (h : running.LetsThrough dial arounds) (hcursor : running.invocation.cursor = 0)
    (hterminal : running.invocation.terminal = some terminal) :
    ((Running.runNest dial arounds running).1, (Running.runNest dial arounds running).2.callState) =
      runNest dial terminal arounds running.callState := by
  have hunwinding : ∀ {arounds : List (Step AroundBody)}, (∀ step ∈ arounds, step.body.Unwinds) →
      ((Running.runNest dial arounds running).1, (Running.runNest dial arounds running).2.callState) =
        runNest dial terminal arounds running.callState := by
    intro arounds hunwinds
    let entered := running.mapInvocation (·.enterPhase .aroundNestRunning)
    have hentered : entered.invocation.cursor = 0 := hcursor
    have hagree := proceedNext_agrees dial hunwinds (arounds.length + 1) entered
      (by rw [hentered]; exact Nat.zero_le _) (by omega) hterminal
    rw [hentered, List.drop_zero] at hagree
    exact hagree.map_eq (fun _ _ h => h.1) fun _ _ h => h
  obtain hunwinds | hcalm := h
  · exact hunwinding hunwinds
  · -- Guards do not matter to either nest, and without them the nests are the same.
    have hunguarded := hunwinding (Step.unwinds_unguarded arounds)
    have houtcome : (runNest dial terminal (arounds.map Step.unguarded) running.callState).1 =
        (Running.runNest dial (arounds.map Step.unguarded) running).1 := congrArg Prod.fst hunguarded.symm
    have hnest : runNest dial terminal arounds running.callState =
        runNest dial terminal (arounds.map Step.unguarded) running.callState :=
      nest_matches terminal arounds _ fun message => houtcome ▸ hcalm message
    rw [Running.runNest_matches arounds running hcalm, hnest]
    exact hunguarded

/-- A call, begun with the target not yet taken, runs up to the end of its nest as its description by
one-shot continuations says. -/
theorem runInner_eq {chain : Chain} {dial : Dialler} {terminal : Terminal} {running : Running}
    (h : chain.LetsThrough dial running) (hcursor : running.invocation.cursor = 0)
    (hterminal : running.invocation.terminal = some terminal) :
    ((chain.runInner dial running).1, (chain.runInner dial running).2.callState) =
      runInner chain dial terminal running := by
  obtain ⟨arguments, frames, entries, _, hafter, _⟩ :=
    Chain.runBefores_invocation dial chain.befores running
  have hlets : ∀ after, Chain.runBefores dial chain.befores running = (.returned (.ok ()), after) →
      (after.mapInvocation (·.enterPhase .beforeDone)).LetsThrough dial chain.arounds := by
    intro after hran
    refine h.imp_right fun hcalm message => ?_
    have hbefores : Chain.runBefores dial chain.unguarded.befores running = (.returned (.ok ()), after) := hran
    have hinner := hcalm message
    rw [Chain.runInner, Run.bind_apply, hbefores] at hinner
    exact hinner
  rw [Chain.runInner, Run.bind_apply]
  unfold runInner
  generalize Chain.runBefores dial chain.befores running = ran at hafter hlets
  obtain ⟨outcome, after⟩ := ran
  simp only at hafter
  cases outcome with
  | returned result =>
    cases result with
    | error error => rfl
    | ok =>
      let done := after.mapInvocation (·.enterPhase .beforeDone)
      have hdoneCursor : done.invocation.cursor = 0 := by
        change after.invocation.cursor = 0
        rw [hafter]
        exact hcursor
      have hdoneTerminal : done.invocation.terminal = some terminal := by
        change after.invocation.terminal = some terminal
        rw [hafter]
        exact hterminal
      exact runNest_eq (hlets after rfl) hdoneCursor hdoneTerminal
  | panicked message => rfl
  | exhausted => rfl

/-- The nest that works on one shared invocation, with its cursor, its frames and its target that can be
taken once, has the same result as the nest of one-shot continuations, and leaves the same journal, the
same arguments, the same surroundings with the routing key, and the same mark for a called target. This
holds however often and wherever advices proceed, from every state in which a nest may begin, and every call
that a chain executes begins its nest in such a state. Only if an advice goes on after a panic of what it
proceeded to, it finds frames of other advices. -/
theorem runNest_eq_oneShot (dial : Dialler) (terminal : Terminal) :
    (∀ (arounds : List (Step AroundBody)) (running : Running), running.LetsThrough dial arounds →
      running.invocation.cursor = 0 → running.invocation.terminal = some terminal →
      ((Running.runNest dial arounds running).1, (Running.runNest dial arounds running).2.callState) =
        runNest dial terminal arounds running.callState) ∧
    ∀ (chain : Chain) (signature : CallSignature) (arguments : Arguments) (world : World),
      let start := Chain.start signature arguments terminal world
      chain.LetsThrough dial start →
      ((chain.runInner dial start).1, (chain.runInner dial start).2.callState) =
        runInner chain dial terminal start := by
  refine ⟨fun arounds running => runNest_eq, fun chain signature arguments world hlets => ?_⟩
  exact runInner_eq hlets rfl rfl

/-- An advice that proceeds twice and returns what it got first is refused the second time and blamed. -/
theorem runNest_eq_oneShot_twice :
    ∃ (arounds : List (Step AroundBody)) (terminal : Terminal) (running : Running),
      running.LetsThrough (fun _ => Run.exhausted) arounds ∧
      running.invocation.cursor = 0 ∧ running.invocation.terminal = some terminal ∧
      ((Running.runNest (fun _ => Run.exhausted) arounds running).1,
          (Running.runNest (fun _ => Run.exhausted) arounds running).2.callState) =
        runNest (fun _ => Run.exhausted) terminal arounds running.callState ∧
      (Running.runNest (fun _ => Run.exhausted) arounds running).1 =
        .returned (.error (.proceedMisuse "twice" .repeated none)) := by
  let twice : Step AroundBody := ⟨"twice", 0, do
    let first ← Steering.goOn
    let _ ← Steering.goOn
    pure first⟩
  let terminal : Terminal := fun _ => pure (.ok .unit)
  let start := Chain.start ⟨"com.x.Users", "Users", ⟨"save", [], "()"⟩⟩ .empty terminal .initial
  have hlets : start.LetsThrough (fun _ => Run.exhausted) [twice] := by
    refine .inl ?_
    rintro _ (_ | ⟨_, ⟨⟩⟩)
    exact .ask _ fun _ => .ask _ fun _ => .done _
  have hnest := (runNest_eq_oneShot (fun _ => Run.exhausted) terminal).1 [twice] start hlets rfl rfl
  exact ⟨[twice], terminal, start, hlets, rfl, rfl, hnest, rfl⟩

end OneShot

end Interception
