import Interception.Proofs.BeforeRuns
import Interception.Proofs.CallCompletion

/-!
# How calls are settled

The outcome of a call is the error of the first before advice that failed, or what the nest gave back. The
after advices run whatever the outcome is, and the first that fails replaces it. Then the advices for a
value are given the value, or the advices for an error the error, in either case the same to all of them.

Advices of one kind run in order, each in the state in which the one before left the call, up to and
including the first that fails. What they answered decides how the call is settled: by the first error
among the answers, and otherwise, for an error, by the first value that was given in its place.
-/

namespace Interception

/-- The state is the same but for the log. -/
def Running.LogOnly (running logged : Running) : Prop :=
  logged = { running with world := { running.world with records := logged.world.records } }

/-- Nothing needs to be logged. -/
theorem Running.LogOnly.refl (running : Running) : running.LogOnly running := rfl

/-- Writing to the log changes the log only. -/
theorem Running.logOnly_log (running : Running) (record : LogRecord) :
    running.LogOnly (running.log record) := rfl

/-- Logging changes neither the call nor its journal. -/
theorem Running.LogOnly.invocation {running logged : Running} (h : running.LogOnly logged) :
    logged.invocation = running.invocation := by rw [h]

/-- The journal tells when a call moves on to a phase. -/
theorem Running.journal_enterPhase (running : Running) (phase : CallPhase) :
    (running.mapInvocation (·.enterPhase phase)).invocation.journal.toList =
      running.invocation.journal.toList ++ [.phase phase] := Array.toList_push

/-- The first error among answers. -/
def firstError {R : Type} : List (Except AopError R) → Option AopError
  | [] => none
  | .error error :: _ => some error
  | .ok _ :: answers => firstError answers

/-- The first value that was given in place of an error. -/
def firstSwallowed : List (Except AopError Disposition) → Option Value
  | [] => none
  | .ok (.swallow value) :: _ => some value
  | _ :: answers => firstSwallowed answers

/-- An outcome after it was shown to advices with these answers: their first error replaces it. -/
def replacedBy {R : Type} (answers : List (Except AopError R)) (outcome : CallResult) : CallResult :=
  match firstError answers with
  | some error => .error error
  | none => outcome

/-- What becomes of an error after advices for errors with these answers: their first error replaces it,
and otherwise the first value that was given in its place. -/
def settledBy (answers : List (Except AopError Disposition)) (error : AopError) : CallResult :=
  replacedBy answers
    (match firstSwallowed answers with
      | some value => .ok value
      | none => .error error)

namespace Chain

/-- Runs an advice at the end of a call. Its code is what its body makes of what all are given. -/
def observing {Body R : Type} (dial : Dialler) (kind : AdviceKind)
    (given : Body → ObservingProgram (Except AopError R)) (step : Step Body) :
    Run Running (Except AopError R) :=
  observe dial kind step.sequence (given step.body)

/-- Steps run in order, each from the state in which the one before left the call, apart from log records,
up to and including the first that fails. The answers are those of the steps that ran. -/
inductive InOrder {Body R : Type} (run : Step Body → Run Running (Except AopError R)) :
    List (Step Body) → Running → List (Except AopError R) → Running → Prop where
  /-- No step is left. -/
  | done {running : Running} : InOrder run [] running [] running
  /-- The step failed, and none runs after it. -/
  | failed {step : Step Body} {steps : List (Step Body)} {running later : Running} {error : AopError} :
    run step running = (.returned (.error error), later) →
      InOrder run (step :: steps) running [.error error] later
  /-- The step succeeded, and the others run after it. -/
  | passed {step : Step Body} {steps : List (Step Body)} {running later logged last : Running}
      {answer : R} {answers : List (Except AopError R)} :
    run step running = (.returned (.ok answer), later) → later.LogOnly logged →
      InOrder run steps logged answers last →
      InOrder run (step :: steps) running (.ok answer :: answers) last

/-- What the journal tells of the first advices of a kind. -/
def ranEntries {Body : Type} (kind : AdviceKind) (steps : List (Step Body)) (ran : Nat) :
    List JournalEntry :=
  (steps.take ran).map fun step => .advice kind step.sequence

/-- The outcome of a call before its after advices. -/
inductive Reaches (chain : Chain) (dial : Dialler) (running : Running) : CallResult → Running → Prop where
  /-- A before advice failed, and nothing ran after it: no around advice was entered, and the target was
  not taken. -/
  | failed {answers : List (Except AopError Unit)} {error : AopError} {later : Running} :
    InOrder (Running.runBefore dial) chain.befores running answers later →
      firstError answers = some error →
      later.invocation.cursor = running.invocation.cursor →
      later.invocation.terminal = running.invocation.terminal →
      Reaches chain dial running (.error error) later
  /-- All before advices succeeded, and the nest gave back the outcome. -/
  | nested {answers : List (Except AopError Unit)} {between later : Running} {outcome : CallResult} :
    InOrder (Running.runBefore dial) chain.befores running answers between →
      firstError answers = none →
      Running.runNest dial chain.arounds (between.mapInvocation (·.enterPhase .beforeDone)) =
        (.returned outcome, later) →
      Reaches chain dial running outcome later

/-- How a call with an outcome is settled, and what the journal tells of it. -/
inductive Settles (chain : Chain) (dial : Dialler) (running : Running) :
    CallResult → CallResult → Running → List JournalEntry → Prop where
  /-- The advices for a value were given the value, and no others ran. -/
  | value {value : Value} {answers : List (Except AopError Unit)} {later : Running} :
    InOrder (observing dial .afterReturning (· value))
        chain.afterReturnings (running.mapInvocation (·.enterPhase .afterReturning)) answers later →
      Settles chain dial running (.ok value) (replacedBy answers (.ok value)) later
        (.phase .afterReturning :: ranEntries .afterReturning chain.afterReturnings answers.length)
  /-- The advices for an error were given the error, and no others ran. -/
  | error {error : AopError} {answers : List (Except AopError Disposition)} {later : Running} :
    InOrder (observing dial .afterThrowing (· error))
        chain.afterThrowings (running.mapInvocation (·.enterPhase .afterThrowing)) answers later →
      Settles chain dial running (.error error) (settledBy answers error) later
        (.phase .afterThrowing :: ranEntries .afterThrowing chain.afterThrowings answers.length)

variable {dial : Dialler}

/-- Before advices that have run have run in order. -/
theorem runBefores_inOrder {steps : List (Step BeforeBody)} {running later : Running}
    {result : Except AopError Unit} (h : runBefores dial steps running = (.returned result, later)) :
    ∃ answers, InOrder (Running.runBefore dial) steps running answers later ∧
      result = match firstError answers with
        | some error => .error error
        | none => .ok () := by
  induction steps generalizing running with
  | nil =>
    cases h
    exact ⟨[], .done, rfl⟩
  | cons step steps ih =>
    obtain ⟨answer, between, hstep, hrest⟩ := Run.bind_eq_returned_iff.mp h
    cases answer with
    | error error =>
      cases hrest
      exact ⟨_, .failed hstep, rfl⟩
    | ok =>
      obtain ⟨answers, hanswers, hresult⟩ := ih hrest
      exact ⟨_, .passed hstep (.refl _) hanswers, hresult⟩

/-- After advices that have run have run in order, and the first that failed replaced the outcome. -/
theorem runAfters_inOrder {outcome result : CallResult} {steps : List (Step AfterBody)}
    {running last : Running} (h : runAfters dial outcome steps running = (.returned result, last)) :
    ∃ answers later,
      InOrder (observing dial .after id) steps running answers later ∧
      later.LogOnly last ∧ result = replacedBy answers outcome := by
  induction steps generalizing running with
  | nil =>
    cases h
    exact ⟨[], _, .done, .refl _, rfl⟩
  | cons step steps ih =>
    obtain ⟨answer, between, hstep, hrest⟩ := Run.bind_eq_returned_iff.mp h
    cases answer with
    | error error =>
      cases outcome with
      | ok value =>
        cases hrest
        exact ⟨_, _, .failed hstep, .refl _, rfl⟩
      | error replaced =>
        cases hrest
        exact ⟨_, between, .failed hstep, between.logOnly_log _, rfl⟩
    | ok =>
      obtain ⟨answers, later, hanswers, hlast, hresult⟩ := ih hrest
      exact ⟨_, later, .passed hstep (.refl _) hanswers, hlast, hresult⟩

/-- Advices for a value that have run have run in order, all with the value. -/
theorem runAfterReturnings_inOrder {value : Value} {result : CallResult}
    {steps : List (Step AfterReturningBody)} {running later : Running}
    (h : runAfterReturnings dial value steps running = (.returned result, later)) :
    ∃ answers, InOrder (observing dial .afterReturning (· value)) steps
        running answers later ∧ result = replacedBy answers (.ok value) := by
  induction steps generalizing running with
  | nil =>
    cases h
    exact ⟨[], .done, rfl⟩
  | cons step steps ih =>
    obtain ⟨answer, between, hstep, hrest⟩ := Run.bind_eq_returned_iff.mp h
    cases answer with
    | error error =>
      cases hrest
      exact ⟨_, .failed hstep, rfl⟩
    | ok =>
      obtain ⟨answers, hanswers, hresult⟩ := ih hrest
      exact ⟨_, .passed hstep (.refl _) hanswers, hresult⟩

/-- Advices for an error that have run have run in order, all with the error. A value that was given in
its place before them comes first. -/
theorem runAfterThrowings_inOrder {error : AopError} {swallowed : Option Value} {result : CallResult}
    {steps : List (Step AfterThrowingBody)} {running later : Running}
    (h : runAfterThrowings dial error swallowed steps running = (.returned result, later)) :
    ∃ answers, InOrder (observing dial .afterThrowing (· error)) steps
        running answers later ∧
      result = replacedBy answers
        (match swallowed.or (firstSwallowed answers) with
          | some value => .ok value
          | none => .error error) := by
  induction steps generalizing running swallowed with
  | nil => cases swallowed <;> (cases h; exact ⟨[], .done, rfl⟩)
  | cons step steps ih =>
    obtain ⟨answer, between, hstep, hrest⟩ := Run.bind_eq_returned_iff.mp h
    cases answer with
    | error replaced =>
      cases hrest
      exact ⟨_, .failed hstep, rfl⟩
    | ok disposition =>
      cases disposition with
      | rethrow =>
        obtain ⟨answers, hanswers, hresult⟩ := ih hrest
        exact ⟨_, .passed hstep (.refl _) hanswers, hresult⟩
      | swallow value =>
        cases swallowed with
        | some earlier =>
          obtain ⟨answers, hanswers, hresult⟩ := ih hrest
          exact ⟨_, .passed hstep (.refl _) hanswers, hresult⟩
        | none =>
          obtain ⟨_, logged, hlog, hrest⟩ := Run.bind_eq_returned_iff.mp hrest
          cases hlog
          obtain ⟨answers, hanswers, hresult⟩ := ih hrest
          exact ⟨_, .passed hstep (between.logOnly_log _) hanswers, hresult⟩

/-- The journal tells which advices at the end of a call ran: the first ones, as many as answered. -/
theorem InOrder.journal {Body R : Type} {kind : AdviceKind}
    {given : Body → ObservingProgram (Except AopError R)} {steps : List (Step Body)}
    {running later : Running} {answers : List (Except AopError R)}
    (h : InOrder (observing dial kind given) steps running answers
      later) :
    later.invocation.journal.toList =
      running.invocation.journal.toList ++ ranEntries kind steps answers.length := by
  have hstep : ∀ {step : Step Body} {running later : Running} {outcome : Outcome (Except AopError R)},
      observing dial kind given step running = (outcome, later) →
      later.invocation.journal.toList =
        running.invocation.journal.toList ++ [.advice kind step.sequence] := by
    intro step running later outcome hran
    cases hran
    exact Array.toList_push
  induction h with
  | done => simp [ranEntries]
  | failed hran => simp [ranEntries, hstep hran]
  | passed hran hlogged _ ih =>
    rw [ih, hlogged.invocation, hstep hran]
    simp [ranEntries]

/-- What a call has come to before its after advices. -/
theorem reaches_of_runInner {chain : Chain} {running later : Running} {outcome : CallResult}
    (h : chain.runInner dial running = (.returned outcome, later)) :
    chain.Reaches dial running outcome later := by
  obtain ⟨result, between, hbefores, hrest⟩ := Run.bind_eq_returned_iff.mp h
  obtain ⟨answers, hanswers, hresult⟩ := runBefores_inOrder hbefores
  cases herror : firstError answers with
  | some error =>
    rw [herror] at hresult
    subst hresult
    cases hrest
    obtain ⟨_, _, _, _, hinvocation, _⟩ := runBefores_invocation dial chain.befores running
    rw [hbefores] at hinvocation
    have hcursor : later.invocation.cursor = running.invocation.cursor :=
      (congrArg Invocation.cursor hinvocation :)
    have hterminal : later.invocation.terminal = running.invocation.terminal :=
      (congrArg Invocation.terminal hinvocation :)
    exact .failed hanswers herror hcursor hterminal
  | none =>
    rw [herror] at hresult
    subst hresult
    exact .nested hanswers herror hrest

/-- How a call is settled after its after advices. -/
theorem settles_of_runEnding {chain : Chain} {running later : Running} {outcome result : CallResult}
    (h : chain.runEnding dial outcome running = (.returned result, later)) :
    ∃ entries, chain.Settles dial running outcome result later entries ∧
      later.invocation.journal.toList = running.invocation.journal.toList ++ entries := by
  cases outcome with
  | ok value =>
    obtain ⟨answers, hanswers, rfl⟩ := runAfterReturnings_inOrder h
    refine ⟨_, .value hanswers, ?_⟩
    rw [InOrder.journal hanswers, Running.journal_enterPhase]
    simp
  | error error =>
    obtain ⟨answers, hanswers, rfl⟩ := runAfterThrowings_inOrder h
    refine ⟨_, .error hanswers, ?_⟩
    rw [InOrder.journal hanswers, Running.journal_enterPhase]
    simp

/-- A call in which no code breaks off returns. It comes to an outcome by its before advices and its nest;
then its after advices run in order, the first error among them replaces the outcome, and the call is
settled by the advices for what the outcome is then. The journal tells that nothing else runs. -/
theorem runPhases_settles (chain : Chain) (dial : Dialler) (signature : CallSignature)
    (arguments : Arguments) (terminal : Terminal) (world : World)
    (hcalm : (Watched.phases chain dial).Calm dial (start signature arguments terminal world)) :
    ∃ outcome reached answers unwound logged result settled entries,
      chain.Reaches dial (start signature arguments terminal world) outcome reached ∧
      InOrder (observing dial .after id) chain.afters
        (reached.mapInvocation (·.enterPhase .unwinding)) answers unwound ∧
      unwound.LogOnly logged ∧
      chain.Settles dial logged (replacedBy answers outcome) result settled entries ∧
      (chain.execute dial signature arguments terminal world).1 = .returned result ∧
      (chain.runPhases dial (start signature arguments terminal world)).2.invocation.journal.toList =
        reached.invocation.journal.toList ++
          .phase .unwinding :: ranEntries .after chain.afters answers.length ++ entries ++
          [.phase .completed] := by
  obtain ⟨result, final, hran, _⟩ := Watched.phases_returns chain
    (start signature arguments terminal world) ⟨Nat.le_refl 0, Nat.zero_le _⟩ hcalm
  rw [Watched.run_phases] at hran
  obtain ⟨outcome, reached, hinner, hrest⟩ := Run.bind_eq_returned_iff.mp hran
  obtain ⟨_, unwinding, hphase, hrest⟩ := Run.bind_eq_returned_iff.mp hrest
  cases hphase
  obtain ⟨replaced, logged, hafters, hrest⟩ := Run.bind_eq_returned_iff.mp hrest
  obtain ⟨result', settled, hending, hrest⟩ := Run.bind_eq_returned_iff.mp hrest
  cases hrest
  obtain ⟨answers, unwound, hanswers, hlogged, rfl⟩ := runAfters_inOrder hafters
  obtain ⟨entries, hsettles, hentries⟩ := settles_of_runEnding hending
  have hexecute : (chain.execute dial signature arguments terminal world).1 = .returned result := by
    unfold execute
    rw [hran]
  have hjournal : logged.invocation.journal.toList = reached.invocation.journal.toList ++
      .phase .unwinding :: ranEntries .after chain.afters answers.length := by
    rw [hlogged.invocation, InOrder.journal hanswers, Running.journal_enterPhase, List.append_assoc]
    rfl
  refine ⟨outcome, reached, answers, unwound, logged, result, settled, entries,
    reaches_of_runInner hinner, hanswers, hlogged, hsettles, hexecute, ?_⟩
  rw [hran]
  exact (settled.journal_enterPhase .completed).trans (by rw [hentries, hjournal])

/-- A chain whose only before advice fails with an error. Of the two advices for errors the first gives a
value in place of the error, and the second lets it pass on. -/
def recovering (error : AopError) (value : Value) : Chain :=
  { advices := [], arounds := [], afterReturnings := []
    befores := [⟨"guard", 0, .done (.error error)⟩]
    afters := [⟨"cleanup", 1, .done (.ok ())⟩]
    afterThrowings := [⟨"recover", 2, fun _ => .done (.ok (.swallow value))⟩,
      ⟨"report", 3, fun _ => .done (.ok .rethrow)⟩] }

/-- No code of such a chain breaks off. -/
theorem calm_recovering (error : AopError) (value : Value) (dial : Dialler) (running : Running) :
    (Watched.phases (recovering error value) dial).Calm dial running := by
  have hcomposes := @Watched.composes_calm dial
  -- The before advice fails, so the nest is not entered.
  have hinner : ∀ running, (Watched.inner (recovering error value) dial).Calm dial running := by
    intro running
    refine Watched.calm_bind_iff.mpr ⟨hcomposes.befores (fun step hstep => ?_) running,
      fun result later hran => ?_⟩
    · obtain rfl := List.mem_singleton.mp hstep
      exact Watched.calm_before_done _ _ _
    · cases hran
      exact Watched.calm_quiet _ _
  refine hcomposes.phases (fun _ => Watched.calm_quiet _) hinner (fun step hstep => ?_)
    (fun _ step hstep => absurd hstep List.not_mem_nil) (fun _ step hstep => ?_) running
  · obtain rfl := List.mem_singleton.mp hstep
    exact Watched.calm_observe_done _ _ _
  · obtain rfl | hstep := List.mem_cons.mp hstep
    · exact Watched.calm_observe_done _ _ _
    · obtain rfl := List.mem_singleton.mp hstep
      exact Watched.calm_observe_done _ _ _

/-- The error of a before advice is the outcome of the call, and a value is given back in its place. -/
theorem runPhases_settles_recovering :
    let error : AopError := .advice "guard" (.text "closed")
    let chain := recovering error (.u64 7)
    let dial : Dialler := fun _ => Run.exhausted
    let signature : CallSignature := ⟨"a.Svc", "Svc", ⟨"put", [], "u64"⟩⟩
    let terminal : Terminal := fun _ => .done (.ok .unit)
    (Watched.phases chain dial).Calm dial (start signature .empty terminal .initial) ∧
      (∃ reached, chain.Reaches dial (start signature .empty terminal .initial) (.error error) reached) ∧
      (chain.execute dial signature .empty terminal .initial).1 = .returned (.ok (.u64 7)) := by
  intro error chain dial signature terminal
  have hcalm := calm_recovering error (.u64 7) dial (start signature .empty terminal .initial)
  obtain ⟨outcome, reached, _, _, _, result, _, _, hreaches, _, _, _, hexecute, _⟩ :=
    runPhases_settles chain dial signature .empty terminal .initial hcalm
  have hresult : (chain.execute dial signature .empty terminal .initial).1 =
      .returned (.ok (.u64 7)) := rfl
  have houtcome : outcome = .error error := by
    cases hreaches with
    | failed hbefores herror _ _ =>
      cases hbefores with
      | failed hran =>
        cases hran
        cases herror
        rfl
      | passed hran => cases hran
    | nested hbefores herror _ =>
      cases hbefores with
      | failed hran => cases herror
      | passed hran => cases hran
  exact ⟨hcalm, ⟨reached, houtcome ▸ hreaches⟩, hresult⟩

end Chain

end Interception
