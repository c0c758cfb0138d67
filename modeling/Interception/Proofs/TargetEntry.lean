import Interception.Proofs.ArgumentFit
import Interception.Proofs.DialledCalls
import Interception.Proofs.JournalTally
import Interception.Proofs.ObservedCalls
import Interception.Proofs.OneShotNest

/-!
# How the target is entered

The way of a call down to its target consists of before advices that succeed and of around advices each of which
runs up to where it proceeds for the first time. There it is suspended with the rest of its code, which goes on
with whatever result it is given. None of this depends on the target, and no later code changes the arguments
that are handed over, since every later attempt to proceed is refused. It would not be if an advice went on after
a panic that left the frame of another advice open, so that nests are considered in which none does.

So a nest that reaches its target is the target, entered in the state in which the way down ends, followed by the
suspended advices from the innermost to the outermost. Advices may put values of any types in the place of the
arguments and of the result. The method is entered exactly if the arguments fit that the way down left, and its
caller gets a value only if it has the type that the caller expects.
-/

namespace Interception

/-- The arguments that the target took so far, each time that it was entered. -/
def CallState.targets (state : CallState) : List Arguments :=
  state.journal.toList.filterMap JournalEntry.target?

/-- Whatever else is written to the journal, the target was not entered by it. -/
theorem CallState.targets_record (state : CallState) {entry : JournalEntry} (h : entry.target? = none) :
    (state.record entry).targets = state.targets := by
  simp [targets, record, h]

namespace OneShot

variable {α : Type} {dial : Dialler} {step : Step AroundBody} {terminal : Terminal}

/-- An around advice that has proceeded and waits for the result. -/
structure Suspended where
  /-- The advice. -/
  step : Step AroundBody
  /-- What it goes on with, given the result. -/
  next : CallResult → AroundBody

/-- The state in which code of an around advice proceeds for the first time, and the code that goes on with the
result, if it does proceed. -/
def suspend? (dial : Dialler) (step : Step AroundBody) :
    SteeringProgram α → Level → Option (CallState × (CallResult → SteeringProgram α))
  | .done _, _ => none
  | .panic _, _ => none
  | .ask .proceed next, level => some (level.state.record (.proceeded step.sequence), next)
  | .ask request next, level =>
    (answer dial step Run.exhausted request).reading none (fun reply => suspend? dial step (next reply)) level
  | .attempt .proceed next, level =>
    some (level.state.record (.proceeded step.sequence), fun result => next (.ok result))
  | .attempt request next, level => (answer dial step Run.exhausted request).attempt.reading none
    (fun reply => suspend? dial step (next reply)) level

/-- The way down to the target: the state in which it is entered, if it is, with the suspended around advices,
innermost first. -/
def descend? (dial : Dialler) : List (Step AroundBody) → CallState → Option (CallState × List Suspended)
  | [], state => some (state, [])
  | step :: inner, state =>
    (suspend? dial step step.body ⟨state.enterAround step, 0⟩).bind fun (asked, next) =>
      (descend? dial inner asked).map fun (reached, suspended) => (reached, suspended ++ [⟨step, next⟩])

/-- Goes on with a suspended advice, which has used its continuation, up to its verdict. -/
def Suspended.resume (dial : Dialler) (suspended : Suspended) (result : CallResult) : Run CallState CallResult :=
  fun state => settleLevel suspended.step
    ((suspended.next result).run (answer dial suspended.step Run.exhausted) ⟨state, 1⟩)

/-- Goes on with suspended advices from the innermost to the outermost. -/
def unwind (dial : Dialler) : List Suspended → CallResult → Run CallState CallResult
  | [], result => pure result
  | suspended :: outer, result => suspended.resume dial result >>= unwind dial outer

/-- Enters the target, which makes of the arguments what is given. -/
def enter (received : Run World CallResult) : Run CallState CallResult := fun state =>
  let outcome := received state.world
  (outcome.1, { state.enterTarget with world := outcome.2 })

end OneShot

/-- A run that is followed by nothing is the run. -/
theorem Run.bind_pure {σ α : Type} (run : Run σ α) : (run >>= fun value => Pure.pure value) = run := by
  funext s
  rw [Run.bind_apply]
  generalize run s = ran
  obtain ⟨outcome, later⟩ := ran
  cases outcome <;> rfl

namespace OneShot

section

variable {α : Type} {dial : Dialler} {step : Step AroundBody} {rest rest' : Run CallState CallResult}

/-- Advices are resumed one after the other. -/
theorem unwind_append (inner : List Suspended) (last : Suspended) (result : CallResult) :
    unwind dial (inner ++ [last]) result = unwind dial inner result >>= last.resume dial := by
  induction inner generalizing result with
  | nil => exact Run.bind_pure (last.resume dial result)
  | cons suspended inner ih =>
    rw [List.cons_append, unwind, unwind, Run.bind_assoc]
    exact congrArg (suspended.resume dial result >>= ·) (funext ih)

/-- Code up to its first proceeding, one request after the other. -/
theorem suspend?_ask {request : Steering} (h : request ≠ .proceed)
    (next : request.Answer → SteeringProgram α) (level : Level) :
    suspend? dial step (.ask request next) level =
      (answer dial step Run.exhausted request).reading none
        (fun reply => suspend? dial step (next reply)) level := by
  cases request with
  | proceed => exact absurd rfl h
  | _ => rfl

/-- Code up to its first proceeding, if it begins with an attempt. -/
theorem suspend?_attempt {request : Steering} (h : request ≠ .proceed)
    (next : Except String request.Answer → SteeringProgram α) (level : Level) :
    suspend? dial step (.attempt request next) level =
      (answer dial step Run.exhausted request).attempt.reading none
        (fun reply => suspend? dial step (next reply)) level := by
  cases request with
  | proceed => exact absurd rfl h
  | _ => rfl

/-- Requests are answered alike whatever the continuation is, except the first to proceed. -/
theorem answer_eq_of_or (rest rest' : Run CallState CallResult) {request : Steering} {level : Level}
    (h : request ≠ .proceed ∨ level.uses ≠ 0) :
    answer dial step rest request level = answer dial step rest' request level := by
  cases request with
  | proceed =>
    have huses : level.uses ≠ 0 := h.resolve_left (· rfl)
    simp only [answer, useRest, if_neg huses]
    rfl
  | _ => rfl

/-- Requests are no uses of the continuation, except to proceed. -/
theorem uses_answer {request : Steering} (h : request ≠ .proceed) (level : Level) :
    (answer dial step rest request level).2.uses = level.uses := by
  cases request with
  | proceed => exact absurd rfl h
  | _ => rfl

/-- A continuation that was used stays used. -/
theorem answer_keeps_used (request : Steering) :
    Run.Keeps (fun level => level.uses ≠ 0) (answer dial step rest request) := by
  intro level h
  by_cases hproceed : request = .proceed
  · subst hproceed
    simp only [answer, useRest, if_neg h]
    exact Nat.succ_ne_zero _
  · rwa [uses_answer hproceed]

/-- An advice that has used its continuation does not depend on it any more. -/
theorem run_eq_of_used (program : SteeringProgram α) {level : Level} (h : level.uses ≠ 0) :
    program.run (answer dial step rest) level = program.run (answer dial step rest') level := by
  induction program generalizing level with
  | done value => rfl
  | panic message => rfl
  | ask request next ih =>
    have hused : (answer dial step rest request level).2.uses ≠ 0 := answer_keeps_used request level h
    simp only [Program.run_ask, Run.bind, answer_eq_of_or rest' rest (.inr h)]
    generalize answer dial step rest request level = ran at hused
    obtain ⟨outcome, later⟩ := ran
    cases outcome with
    | returned reply => exact ih reply hused
    | _ => rfl
  | attempt request next ih =>
    have hused : (answer dial step rest request level).2.uses ≠ 0 := answer_keeps_used request level h
    simp only [Program.run_attempt, Run.bind, Run.attempt, answer_eq_of_or rest' rest (.inr h)]
    generalize answer dial step rest request level = ran at hused
    obtain ⟨outcome, later⟩ := ran
    cases outcome with
    | returned reply => exact ih (.ok reply) hused
    | panicked message => exact ih (.error message) hused
    | exhausted => rfl

/-- An advice that does not proceed does not depend on its continuation. -/
theorem run_eq_of_suspend?_eq_none {program : SteeringProgram α} {level : Level}
    (h : suspend? dial step program level = none) :
    program.run (answer dial step rest) level = program.run (answer dial step rest') level := by
  induction program generalizing level with
  | done value => rfl
  | panic message => rfl
  | ask request next ih =>
    by_cases hproceed : request = .proceed
    · subst hproceed
      cases h
    · rw [suspend?_ask hproceed] at h
      simp only [Program.run_ask, Run.bind, Run.reading,
        answer_eq_of_or rest Run.exhausted (.inl hproceed),
        answer_eq_of_or rest' Run.exhausted (.inl hproceed)] at h ⊢
      generalize answer dial step Run.exhausted request level = ran at h
      obtain ⟨outcome, later⟩ := ran
      cases outcome with
      | returned reply => exact ih reply h
      | _ => rfl
  | attempt request next ih =>
    by_cases hproceed : request = .proceed
    · subst hproceed
      cases h
    · rw [suspend?_attempt hproceed] at h
      simp only [Program.run_attempt, Run.bind, Run.attempt, Run.reading,
        answer_eq_of_or rest Run.exhausted (.inl hproceed),
        answer_eq_of_or rest' Run.exhausted (.inl hproceed)] at h ⊢
      generalize answer dial step Run.exhausted request level = ran at h
      obtain ⟨outcome, later⟩ := ran
      cases outcome with
      | returned reply => exact ih (.ok reply) h
      | panicked message => exact ih (.error message) h
      | exhausted => rfl

/-- A level whose advice proceeds is its continuation in the state in which the advice does so, followed by the
suspended advice, unless the advice goes on after a panic of the continuation. -/
theorem settleLevel_of_suspend? {program : AroundBody} {level : Level} {asked : CallState}
    {next : CallResult → AroundBody}
    (hlets : SteeringProgram.Unwinds program ∨ ∀ message, (rest asked).1 ≠ .panicked message)
    (huses : level.uses = 0) (h : suspend? dial step program level = some (asked, next)) :
    settleLevel step (program.run (answer dial step rest) level) =
      (rest >>= Suspended.resume dial ⟨step, next⟩) asked := by
  induction program generalizing level with
  | done value => cases h
  | panic message => cases h
  | ask request code ih =>
    by_cases hproceed : request = .proceed
    · subst hproceed
      obtain ⟨rfl, rfl⟩ := Prod.mk.inj (Option.some.inj h)
      rw [Program.run_ask, Run.bind_apply]
      simp only [Run.bind, answer, useRest, if_pos huses]
      generalize rest (level.state.record (.proceeded step.sequence)) = ran
      obtain ⟨outcome, later⟩ := ran
      cases outcome with
      | returned result =>
        have hused : (Level.mk later 1).uses ≠ 0 := Nat.one_ne_zero
        exact congrArg (settleLevel step) (run_eq_of_used (code result) hused)
      | _ => rfl
    · have hsame : (answer dial step Run.exhausted request level).2.uses = level.uses :=
        uses_answer hproceed level
      rw [suspend?_ask hproceed] at h
      simp only [Program.run_ask, Run.bind, Run.reading,
        answer_eq_of_or rest Run.exhausted (.inl hproceed)] at h ⊢
      generalize answer dial step Run.exhausted request level = ran at h hsame
      obtain ⟨outcome, later⟩ := ran
      have hnext : ∀ reply,
          SteeringProgram.Unwinds (code reply) ∨ ∀ message, (rest asked).1 ≠ .panicked message := by
        refine fun reply => hlets.imp_left fun hunwinds => ?_
        cases hunwinds with
        | ask _ hnext => exact hnext reply
      cases outcome with
      | returned reply => exact ih reply (hnext reply) (hsame.trans huses) h
      | _ => cases h
  | attempt request code ih =>
    by_cases hproceed : request = .proceed
    · subst hproceed
      obtain ⟨rfl, rfl⟩ := Prod.mk.inj (Option.some.inj h)
      have hcalm := hlets.resolve_left fun hunwinds => by
        cases hunwinds with
        | attempt hother _ => exact hother rfl
      rw [Program.run_attempt, Run.bind_apply]
      simp only [Run.bind, Run.attempt, answer, useRest, if_pos huses]
      generalize rest (level.state.record (.proceeded step.sequence)) = ran at hcalm
      obtain ⟨outcome, later⟩ := ran
      cases outcome with
      | returned result =>
        have hused : (Level.mk later 1).uses ≠ 0 := Nat.one_ne_zero
        exact congrArg (settleLevel step) (run_eq_of_used (code (.ok result)) hused)
      | panicked message => exact absurd rfl (hcalm message)
      | exhausted => rfl
    · have hsame : (answer dial step Run.exhausted request level).2.uses = level.uses :=
        uses_answer hproceed level
      rw [suspend?_attempt hproceed] at h
      simp only [Program.run_attempt, Run.bind, Run.attempt, Run.reading,
        answer_eq_of_or rest Run.exhausted (.inl hproceed)] at h ⊢
      generalize answer dial step Run.exhausted request level = ran at h hsame
      obtain ⟨outcome, later⟩ := ran
      have hnext : ∀ reply,
          SteeringProgram.Unwinds (code reply) ∨ ∀ message, (rest asked).1 ≠ .panicked message := by
        refine fun reply => hlets.imp_left fun hunwinds => ?_
        cases hunwinds with
        | attempt _ hnext => exact hnext reply
      cases outcome with
      | returned reply => exact ih (.ok reply) (hnext _) (hsame.trans huses) h
      | panicked message => exact ih (.error message) (hnext _) (hsame.trans huses) h
      | exhausted => cases h

/-- Without guards an advice proceeds for the first time in the same state. -/
theorem suspend?_unguarded (program : SteeringProgram α) (level : Level) :
    (suspend? dial step.unguarded (SteeringProgram.unguarded program) level).map Prod.fst =
      (suspend? dial step program level).map Prod.fst := by
  have hanswer : ∀ request,
      answer dial step.unguarded Run.exhausted request = answer dial step Run.exhausted request := fun request => by
    cases request <;> rfl
  induction program generalizing level with
  | done value => rfl
  | panic message => rfl
  | ask request next ih =>
    by_cases hproceed : request = .proceed
    · subst hproceed
      rfl
    · rw [SteeringProgram.unguarded, suspend?_ask hproceed, suspend?_ask hproceed, hanswer]
      unfold Run.reading
      split
      · exact ih _ _
      · rfl
  | attempt request next ih =>
    by_cases hproceed : request = .proceed
    · subst hproceed
      rfl
    · rw [SteeringProgram.unguarded_attempt hproceed, suspend?_attempt hproceed, suspend?_attempt hproceed,
        hanswer]
      unfold Run.reading
      split
      · exact ih _ _
      · rfl

end

section

variable {dial : Dialler} {step : Step AroundBody} {inner : List (Step AroundBody)} {state : CallState}

/-- A nest is its outermost advice, with the rest of the nest as its continuation. -/
theorem nest_cons (terminal : Terminal) :
    nest dial terminal (step :: inner) state = settleLevel step
      (step.body.run (answer dial step (nest dial terminal inner)) ⟨state.enterAround step, 0⟩) := rfl

/-- Where the outermost advice proceeds, the way down goes on further inside. -/
theorem descend?_cons {asked : CallState} {next : CallResult → AroundBody}
    (h : suspend? dial step step.body ⟨state.enterAround step, 0⟩ = some (asked, next)) :
    descend? dial (step :: inner) state =
      (descend? dial inner asked).map fun reached => (reached.1, reached.2 ++ [⟨step, next⟩]) := by
  rw [descend?, h]
  rfl

/-- Without guards the way down leads to the same state. -/
theorem descend?_unguarded (arounds : List (Step AroundBody)) (state : CallState) :
    (descend? dial (arounds.map Step.unguarded) state).map Prod.fst = (descend? dial arounds state).map Prod.fst := by
  induction arounds generalizing state with
  | nil => rfl
  | cons step inner ih =>
    have hdescend : ∀ (step : Step AroundBody) (inner : List (Step AroundBody)),
        (descend? dial (step :: inner) state).map Prod.fst =
          ((suspend? dial step step.body ⟨state.enterAround step, 0⟩).map Prod.fst).bind fun asked =>
            (descend? dial inner asked).map Prod.fst := by
      intro step inner
      rw [descend?]
      cases suspend? dial step step.body ⟨state.enterAround step, 0⟩ with
      | none => rfl
      | some asked => simp [Function.comp_def]
    have hopened : (suspend? dial step.unguarded step.unguarded.body ⟨state.enterAround step.unguarded, 0⟩).map
        Prod.fst = (suspend? dial step step.body ⟨state.enterAround step, 0⟩).map Prod.fst :=
      suspend?_unguarded step.body ⟨state.enterAround step, 0⟩
    rw [List.map_cons, hdescend, hdescend, hopened, funext ih]

/-- In a nest no advice goes on after a panic of its continuation: none has guards against that, or nothing panics
that they would be for. -/
def LetsThrough (dial : Dialler) (terminal : Terminal) (arounds : List (Step AroundBody)) (state : CallState) : Prop :=
  (∀ step ∈ arounds, step.body.Unwinds) ∨
    ∀ message, (nest dial terminal (arounds.map Step.unguarded) state).1 ≠ .panicked message

/-- Where the outermost advice proceeds, the nest is the nest inside it, followed by the suspended advice. -/
theorem LetsThrough.nest_cons {asked : CallState} {next : CallResult → AroundBody} {terminal : Terminal}
    (h : LetsThrough dial terminal (step :: inner) state)
    (hasked : suspend? dial step step.body ⟨state.enterAround step, 0⟩ = some (asked, next)) :
    LetsThrough dial terminal inner asked ∧ nest dial terminal (step :: inner) state =
      (nest dial terminal inner >>= Suspended.resume dial ⟨step, next⟩) asked := by
  obtain hunwinds | hcalm := h
  · obtain ⟨hstep, hothers⟩ := List.forall_mem_cons.mp hunwinds
    exact ⟨.inl hothers, settleLevel_of_suspend? (.inl hstep) rfl hasked⟩
  · have hsame : (suspend? dial step.unguarded step.unguarded.body ⟨state.enterAround step.unguarded, 0⟩).map
        Prod.fst = (suspend? dial step step.body ⟨state.enterAround step, 0⟩).map Prod.fst :=
      suspend?_unguarded step.body ⟨state.enterAround step, 0⟩
    rw [hasked] at hsame
    obtain ⟨⟨asked', next'⟩, hasked', hfirst⟩ := Option.map_eq_some_iff.mp hsame
    obtain rfl : asked' = asked := hfirst
    have hunguarded : nest dial terminal ((step :: inner).map Step.unguarded) state =
        (nest dial terminal (inner.map Step.unguarded) >>= Suspended.resume dial ⟨step.unguarded, next'⟩) asked' :=
      settleLevel_of_suspend? (.inl (SteeringProgram.unwinds_unguarded step.body)) rfl hasked'
    rw [hunguarded] at hcalm
    have hinner := Run.not_panicked_of_bind hcalm
    refine ⟨.inr hinner, settleLevel_of_suspend? (.inr ?_) rfl hasked⟩
    rwa [nest_matches terminal inner asked' hinner]

/-- A nest that reaches its target is the target, entered where the way down ends, followed by the suspended
advices. -/
theorem nest_of_descend? {arounds : List (Step AroundBody)} {reached : CallState} {suspended : List Suspended}
    {terminal : Terminal} (hlets : LetsThrough dial terminal arounds state)
    (h : descend? dial arounds state = some (reached, suspended)) :
    nest dial terminal arounds state =
      (enter ((terminal reached.arguments).run (Ambient.answer dial)) >>= unwind dial suspended) reached := by
  induction arounds generalizing state reached suspended with
  | nil =>
    cases h
    exact (congrFun (Run.bind_pure (nest dial terminal [])) state).symm
  | cons step inner ih =>
    obtain ⟨⟨asked, next⟩, hasked, _⟩ := Option.bind_eq_some_iff.mp h
    obtain ⟨hinnerLets, hnest⟩ := hlets.nest_cons hasked
    rw [descend?_cons hasked] at h
    obtain ⟨⟨_, outer⟩, hinner, h⟩ := Option.map_eq_some_iff.mp h
    cases h
    have hunwind : unwind dial (outer ++ [⟨step, next⟩]) =
        fun result => unwind dial outer result >>= Suspended.resume dial ⟨step, next⟩ :=
      funext (unwind_append outer ⟨step, next⟩)
    rw [hnest, Run.bind_apply, ih hinnerLets hinner, ← Run.bind_apply, hunwind, Run.bind_assoc]

/-- A nest that does not reach its target does not depend on it. -/
theorem nest_eq_of_descend?_eq_none {arounds : List (Step AroundBody)} {terminal terminal' : Terminal}
    (hlets : LetsThrough dial terminal arounds state) (hlets' : LetsThrough dial terminal' arounds state)
    (h : descend? dial arounds state = none) :
    nest dial terminal arounds state = nest dial terminal' arounds state := by
  induction arounds generalizing state with
  | nil => cases h
  | cons step inner ih =>
    cases hasked : suspend? dial step step.body ⟨state.enterAround step, 0⟩ with
    | none => exact congrArg (settleLevel step) (run_eq_of_suspend?_eq_none hasked)
    | some asked =>
      rw [descend?_cons hasked, Option.map_eq_none_iff] at h
      obtain ⟨hinner, hnest⟩ := hlets.nest_cons hasked
      obtain ⟨hinner', hnest'⟩ := hlets'.nest_cons hasked
      rw [hnest, hnest', Run.bind_apply, Run.bind_apply, ih hinner hinner' h]

/-- If a nest does not reach its target, it does not depend on the target whether an advice goes on after a
panic. -/
theorem LetsThrough.of_descend?_eq_none {arounds : List (Step AroundBody)} {terminal : Terminal}
    (hlets : LetsThrough dial terminal arounds state) (h : descend? dial arounds state = none)
    (terminal' : Terminal) : LetsThrough dial terminal' arounds state := by
  refine hlets.imp_right fun hcalm => ?_
  have hunguarded : (descend? dial (arounds.map Step.unguarded) state).map Prod.fst =
      (descend? dial arounds state).map Prod.fst := descend?_unguarded arounds state
  rw [h, Option.map_none, Option.map_eq_none_iff] at hunguarded
  rwa [nest_eq_of_descend?_eq_none (.inl (Step.unwinds_unguarded arounds)) (.inl (Step.unwinds_unguarded arounds))
    hunguarded]

/-- An around advice enters the target only by its continuation. -/
theorem answer_keeps_targets (targets : List Arguments) (request : Steering) :
    Run.Keeps (fun level => level.state.targets = targets) (answer dial step Run.exhausted request) := by
  cases request with
  | proceed =>
    intro level h
    by_cases huses : level.uses = 0
    · simp only [answer, useRest, if_pos huses]
      exact (CallState.targets_record _ rfl).trans h
    · simp only [answer, useRest, if_neg huses]
      exact (CallState.targets_record _ rfl).trans h
  | _ => exact fun level h => h

/-- Settling a level adds nothing to the journal. -/
theorem settleLevel_journal (step : Step AroundBody) (ran : Outcome CallResult × Level) :
    (settleLevel step ran).2.journal = ran.2.state.journal := by
  obtain ⟨outcome, state, uses⟩ := ran
  cases outcome with
  | returned result =>
    match uses, result with
    | 0, .ok value => rfl
    | 0, .error error => rfl
    | 1, .ok value => rfl
    | 1, .error error => rfl
    | uses + 2, .ok value => rfl
    | uses + 2, .error error => rfl
  | panicked message => rfl
  | exhausted => rfl

/-- An advice that is without its continuation does not enter the target. -/
theorem targets_settleLevel (program : AroundBody) (level : Level) :
    (settleLevel step (program.run (answer dial step Run.exhausted) level)).2.targets = level.state.targets := by
  have hran : (program.run (answer dial step Run.exhausted) level).2.state.targets = level.state.targets :=
    Run.Keeps.program (answer_keeps_targets level.state.targets) program level rfl
  rw [CallState.targets, settleLevel_journal]
  exact hran

/-- Code that proceeds has not entered the target before. -/
theorem targets_of_suspend? {α : Type} {program : SteeringProgram α} {level : Level} {asked : CallState}
    {next : CallResult → SteeringProgram α} (h : suspend? dial step program level = some (asked, next)) :
    asked.targets = level.state.targets := by
  induction program generalizing level with
  | done value => cases h
  | panic message => cases h
  | ask request code ih =>
    by_cases hproceed : request = .proceed
    · subst hproceed
      obtain ⟨rfl, _⟩ := Prod.mk.inj (Option.some.inj h)
      exact CallState.targets_record _ rfl
    · have hkept : (answer dial step Run.exhausted request level).2.state.targets = level.state.targets :=
        answer_keeps_targets _ request level rfl
      rw [suspend?_ask hproceed, Run.reading] at h
      generalize answer dial step Run.exhausted request level = ran at h hkept
      obtain ⟨outcome, later⟩ := ran
      cases outcome with
      | returned reply => exact (ih reply h).trans hkept
      | _ => cases h
  | attempt request code ih =>
    by_cases hproceed : request = .proceed
    · subst hproceed
      obtain ⟨rfl, _⟩ := Prod.mk.inj (Option.some.inj h)
      exact CallState.targets_record _ rfl
    · have hkept : (answer dial step Run.exhausted request level).2.state.targets = level.state.targets :=
        answer_keeps_targets _ request level rfl
      rw [suspend?_attempt hproceed, Run.reading, Run.attempt_apply] at h
      generalize answer dial step Run.exhausted request level = ran at h hkept
      obtain ⟨outcome, later⟩ := ran
      cases outcome with
      | returned reply => exact (ih (.ok reply) h).trans hkept
      | panicked message => exact (ih (.error message) h).trans hkept
      | exhausted => cases h

/-- A nest enters the target once, with the arguments that the way down left, if it reaches it, and otherwise not
at all. -/
theorem targets_nest {arounds : List (Step AroundBody)} {terminal : Terminal}
    (hlets : LetsThrough dial terminal arounds state) : (nest dial terminal arounds state).2.targets =
      state.targets ++ ((descend? dial arounds state).map (·.1.arguments)).toList := by
  induction arounds generalizing state with
  | nil =>
    have hpushed : (nest dial terminal [] state).2.journal.toList =
        state.journal.toList ++ [.phase .targetCalled, .target state.arguments] := by
      simp [nest, CallState.enterTarget, CallState.enterPhase, CallState.record]
    rw [CallState.targets, hpushed, List.filterMap_append]
    rfl
  | cons step inner ih =>
    have hentered : (state.enterAround step).targets = state.targets := CallState.targets_record state rfl
    cases hasked : suspend? dial step step.body ⟨state.enterAround step, 0⟩ with
    | none =>
      have hnone : descend? dial (step :: inner) state = none := by rw [descend?, hasked]; rfl
      rw [nest_cons, run_eq_of_suspend?_eq_none hasked, targets_settleLevel, hentered, hnone]
      exact (List.append_nil _).symm
    | some asked =>
      obtain ⟨asked, next⟩ := asked
      obtain ⟨hinnerLets, hnest⟩ := hlets.nest_cons hasked
      have hinner := ih hinnerLets
      rw [targets_of_suspend? hasked, hentered] at hinner
      rw [hnest, Run.bind_apply, descend?_cons hasked, Option.map_map]
      generalize nest dial terminal inner asked = ran at hinner
      obtain ⟨outcome, later⟩ := ran
      cases outcome with
      | returned result => exact (targets_settleLevel (next result) ⟨later, 1⟩).trans hinner
      | _ => exact hinner

end

end OneShot

namespace Chain

variable {chain : Chain} {dial : Dialler} {signature : CallSignature} {arguments : Arguments} {world : World}

/-- The way of a call down to its target: the before advices, if all succeed, and the around advices up to where
each of them proceeds for the first time. -/
def descend? (chain : Chain) (dial : Dialler) (signature : CallSignature) (arguments : Arguments)
    (world : World) : Option (CallState × List OneShot.Suspended) :=
  match runBefores dial chain.befores (start signature arguments (fun _ => .done (.ok .unit)) world) with
  | (.returned (.ok ()), after) =>
    OneShot.descend? dial chain.arounds
      ((after.callState.enterPhase .beforeDone).enterPhase .aroundNestRunning)
  | _ => none

/-- Where all before advices succeed, guards matter to a call as they do to its nest. -/
theorem letsThrough_iff {terminal : Terminal} {after : Running}
    (hran : runBefores dial chain.befores (start signature arguments terminal world) = (.returned (.ok ()), after)) :
    chain.LetsThrough dial (start signature arguments terminal world) ↔
      OneShot.LetsThrough dial terminal chain.arounds
        ((after.callState.enterPhase .beforeDone).enterPhase .aroundNestRunning) := by
  have hunguarded : chain.unguarded.LetsThrough dial (start signature arguments terminal world) :=
    .inl (Step.unwinds_unguarded chain.arounds)
  have hinner := congrArg Prod.fst (OneShot.runInner_eq hunguarded rfl rfl)
  have hbefores : runBefores dial chain.unguarded.befores (start signature arguments terminal world) =
      (.returned (.ok ()), after) := hran
  rw [OneShot.runInner, hbefores] at hinner
  refine or_congr Iff.rfl (forall_congr' fun message => ?_)
  rw [hinner]
  rfl

/-- What a call is up to the end of its nest: the target, entered where the way down ends, followed by the
suspended advices. Without a way down the call does not depend on the target. -/
theorem runInner_of_descend? {terminal : Terminal}
    (hlets : chain.LetsThrough dial (start signature arguments terminal world)) :
    (∀ reached suspended, chain.descend? dial signature arguments world = some (reached, suspended) →
      OneShot.runInner chain dial terminal (start signature arguments terminal world) =
        (OneShot.enter ((terminal reached.arguments).run (Ambient.answer dial)) >>=
          OneShot.unwind dial suspended) reached) ∧
    (chain.descend? dial signature arguments world = none → ∀ terminal' : Terminal,
      chain.LetsThrough dial (start signature arguments terminal' world) ∧
        OneShot.runInner chain dial terminal (start signature arguments terminal world) =
          OneShot.runInner chain dial terminal' (start signature arguments terminal' world)) ∧
    (OneShot.runInner chain dial terminal (start signature arguments terminal world)).2.targets =
      ((chain.descend? dial signature arguments world).map (·.1.arguments)).toList := by
  -- The before advices do not see the target, so they run as on the way down.
  have hblind : ∀ terminal, runBefores dial chain.befores (start signature arguments terminal world) = _ :=
    fun terminal => runBefores_isBlind dial chain.befores
      (start signature arguments (fun _ => .done (.ok .unit)) world) terminal
  have htargets := runBefores_targets dial chain.befores
    (start signature arguments (fun _ => .done (.ok .unit)) world)
  have hbefores : ∀ terminal,
      runBefores dial chain.unguarded.befores (start signature arguments terminal world) = _ := hblind
  unfold descend?
  generalize runBefores dial chain.befores (start signature arguments (fun _ => .done (.ok .unit)) world) = ran
    at hblind htargets hbefores
  obtain ⟨outcome, after⟩ := ran
  have hafter : after.callState.targets = [] := htargets
  -- If a before advice does not succeed, nothing of the nest is run, whatever the target is.
  have hstopped : (∀ message, (chain.unguarded.runInner dial (start signature arguments terminal world)).1 ≠
        .panicked message → ∀ terminal', (chain.unguarded.runInner dial
          (start signature arguments terminal' world)).1 ≠ .panicked message) → ∀ terminal',
      chain.LetsThrough dial (start signature arguments terminal' world) := fun hsame terminal' =>
    hlets.imp_right fun hcalm message => hsame message (hcalm message) terminal'
  simp only [runInner, Run.bind_apply, hbefores] at hstopped
  simp only [OneShot.runInner, hblind]
  cases outcome with
  | panicked message =>
    exact ⟨fun _ _ h => (by cases h), fun _ terminal' => ⟨hstopped (fun _ h _ => h) terminal', rfl⟩, hafter⟩
  | exhausted =>
    exact ⟨fun _ _ h => (by cases h), fun _ terminal' => ⟨hstopped (fun _ h _ => h) terminal', rfl⟩, hafter⟩
  | returned result =>
    cases result with
    | error error =>
      exact ⟨fun _ _ h => (by cases h), fun _ terminal' => ⟨hstopped (fun _ h _ => h) terminal', rfl⟩, hafter⟩
    | ok =>
      let begun := (after.callState.enterPhase .beforeDone).enterPhase .aroundNestRunning
      have hbegun : begun.targets = [] :=
        (CallState.targets_record _ rfl).trans ((CallState.targets_record _ rfl).trans hafter)
      have hnest : OneShot.LetsThrough dial terminal chain.arounds begun :=
        (letsThrough_iff (hblind terminal)).mp hlets
      refine ⟨fun reached suspended h => OneShot.nest_of_descend? hnest h, fun h terminal' => ?_, ?_⟩
      · have hnest' := hnest.of_descend?_eq_none h terminal'
        exact ⟨(letsThrough_iff (hblind terminal')).mpr hnest', OneShot.nest_eq_of_descend?_eq_none hnest hnest' h⟩
      · have htargets := OneShot.targets_nest hnest
        rw [hbegun] at htargets
        exact htargets

end Chain

namespace Proxy

variable {proxy : Proxy} {id : MethodId} {entry : DispatchEntry} {dial : Dialler} {arguments : Arguments}
  {result : ValueType} {terminal : Terminal} {world : World}

/-- An invoked method gives back a value exactly if its chain does and the value has the type that the caller
expects. -/
theorem invoke_eq_ok_iff (hentry : proxy.entry? id = some entry) (value : Value) :
    (proxy.invoke dial id arguments result terminal world).1 = .returned (.ok value) ↔
      (entry.chain.execute dial entry.signature arguments terminal world).1 = .returned (.ok value) ∧
        value.type = result := by
  unfold invoke
  rw [hentry]
  simp only [Run.bind_apply]
  generalize entry.chain.execute dial entry.signature arguments terminal world = ran
  obtain ⟨outcome, later⟩ := ran
  match outcome with
  | .returned (.ok other) =>
    by_cases htype : other.type = result
    · simp only [expect, if_pos htype, Run.pure_apply]
      exact ⟨fun h => by cases h; exact ⟨rfl, htype⟩, fun h => h.1⟩
    · simp only [expect, if_neg htype, Run.pure_apply]
      exact ⟨nofun, fun ⟨h, hvalue⟩ => by cases h; exact absurd hvalue htype⟩
  | .returned (.error error) => exact ⟨nofun, nofun⟩
  | .panicked message => exact ⟨nofun, nofun⟩
  | .exhausted => exact ⟨nofun, nofun⟩

/-- Calls keep the types of a method, whatever the advices put in the place of its arguments and of its result.
The target is given the arguments that the way down left, once if the way reaches it and otherwise not at all.
The method is entered with these arguments if they fit and otherwise refuses them with the error that tells of
the first that does not, and either is what the suspended advices go on with. The caller gets a value exactly if
the chain ends with it and it has the type of the result; a value of another type becomes an error that tells
both types, and every error of the chain is passed on. The way down is taken once, as long as no around advice
proceeds again after a panic further inside. -/
theorem dispatch_keeps_types (hentry : proxy.entry? id = some entry) (dial : Dialler) (arguments : Arguments)
    (world : World) {types : List ValueType} (method : TypedMethod types)
    (hlets : entry.chain.LetsThrough dial (Chain.start entry.signature arguments method.erase.terminal world)) :
    let target := method.erase
    let way := entry.chain.descend? dial entry.signature arguments world
    let inner (terminal : Terminal) :=
      let ran := entry.chain.runInner dial (Chain.start entry.signature arguments terminal world)
      (ran.1, ran.2.callState)
    let phases := entry.chain.runPhases dial (Chain.start entry.signature arguments target.terminal world)
    let executed := (entry.chain.execute dial entry.signature arguments target.terminal world).1
    let invoked := (proxy.invoke dial id arguments target.result target.terminal world).1
    phases.2.targets = (way.map (·.1.arguments)).toList ∧
    (∀ reached suspended, way = some (reached, suspended) → ∃ received,
      method.Receives dial reached.arguments.values received ∧
      inner target.terminal = (OneShot.enter received >>= OneShot.unwind dial suspended) reached) ∧
    (way = none → ∀ terminal, inner target.terminal = inner terminal) ∧
    (∀ value, invoked = .returned (.ok value) ↔
      executed = .returned (.ok value) ∧ value.type = method.result) ∧
    (∀ value, executed = .returned (.ok value) → value.type ≠ method.result →
      invoked = .returned (.error (.returnType method.result.name value.typeName))) ∧
    (∀ error, executed = .returned (.error error) → invoked = .returned (.error error)) := by
  intro target way inner phases executed invoked
  have hinner : ∀ terminal, entry.chain.LetsThrough dial (Chain.start entry.signature arguments terminal world) →
      inner terminal = OneShot.runInner entry.chain dial terminal
        (Chain.start entry.signature arguments terminal world) :=
    fun terminal hlets => OneShot.runInner_eq hlets rfl rfl
  obtain ⟨hreached, hunreached, htargets⟩ := Chain.runInner_of_descend? hlets
  refine ⟨?_, fun reached suspended hway => ?_, fun hway terminal => ?_, invoke_eq_ok_iff hentry,
    fun value hexecuted htype => ?_, fun error hexecuted => invoke_of_execute hentry hexecuted⟩
  · calc phases.2.targets = (inner target.terminal).2.targets := Chain.runPhases_targets _ _ _
      _ = (way.map (·.1.arguments)).toList := by rw [hinner _ hlets, htargets]
  · refine ⟨_, method.receives_terminal dial reached.arguments, ?_⟩
    rw [hinner _ hlets, hreached reached suspended hway]
  · obtain ⟨hlets', hsame⟩ := hunreached hway terminal
    rw [hinner _ hlets, hinner _ hlets', hsame]
  · have hinvoked : invoked = .returned (expect target.result (.ok value)) := invoke_of_execute hentry hexecuted
    have hexpect : expect target.result (.ok value) = .error (.returnType method.result.name value.typeName) :=
      if_neg htype
    rw [hinvoked, hexpect]

/-- A before advice clears the arguments, and an around advice gives the target a number and a text, clears
the arguments again once it has proceeded, and answers with a truth value. The target, which takes a number, is
given what the around advice left when it proceeded, and the caller, who expects a number, gets an error. -/
theorem dispatch_keeps_types_retyped :
    let dial : Dialler := fun _ => Run.exhausted
    let signature : CallSignature := ⟨"a.Svc", "Svc", ⟨"get", ["u32"], "u64"⟩⟩
    let clears : Step BeforeBody := ⟨"clears", 0, do
      Program.request (Steering.setArguments .empty)
      pure (.ok ())⟩
    let retypes : Step AroundBody := ⟨"retypes", 1, do
      Program.request (Steering.setArguments ⟨[.u32 7, .string "rest"]⟩)
      let _ ← Steering.goOn
      Program.request (Steering.setArguments .empty)
      pure (.ok (.bool true))⟩
    let chain : Chain := ⟨[], [clears], [retypes], [], [], []⟩
    let proxy : Proxy := ⟨0, "a.Svc", [], [⟨signature, chain⟩], [], []⟩
    let method : TypedMethod [.u32] := ⟨.u64, fun | .cons number .nil => .done (.ok number.toUInt64)⟩
    let target := method.erase
    let arguments : Arguments := ⟨[.string "seven"]⟩
    proxy.entry? ⟨0, 0⟩ = some ⟨signature, chain⟩ ∧
      (chain.runPhases dial (Chain.start signature arguments target.terminal .initial)).2.targets =
        [⟨[.u32 7, .string "rest"]⟩] ∧
      (proxy.invoke dial ⟨0, 0⟩ arguments target.result target.terminal .initial).1 =
        .returned (.error (.returnType "u64" "bool")) := by
  intro dial signature clears retypes chain proxy method target arguments
  have hentry : proxy.entry? ⟨0, 0⟩ = some ⟨signature, chain⟩ := rfl
  have hlets : chain.LetsThrough dial (Chain.start signature arguments target.terminal .initial) := by
    refine .inl ?_
    rintro _ (_ | ⟨_, ⟨⟩⟩)
    exact .ask _ fun _ => .ask _ fun _ => .ask _ fun _ => .done _
  obtain ⟨htargets, _, _, _, hretyped, _⟩ := dispatch_keeps_types hentry dial arguments .initial method hlets
  exact ⟨hentry, htargets, hretyped (.bool true) rfl (by decide)⟩

end Proxy

end Interception
