import Interception.Proofs.CallJournal
import Interception.Proofs.Proceedings

/-!
# Nests that only observe

Around advices may only observe a call: they proceed once, with the arguments that they found, and give back
what came of it. How many there are does not matter. Then the state in which the target is entered does not
depend on the target, since no advice sees it and none knows what it proceeds to. The target is entered
once, with the arguments of the call, and the nest ends as the target does.
-/

namespace Interception

/-- A call of a method with the given arguments. -/
structure Running.IsCall (running : Running) (signature : CallSignature) (arguments : Arguments) :
    Prop where
  /-- The method is the one that is called. -/
  signature : running.invocation.signature = signature
  /-- The arguments are there. -/
  arguments : running.invocation.arguments = arguments

/-- An around advice that only observes the calls of a method with the given arguments: it proceeds once,
with these arguments, and returns what came of it. -/
def Step.Relays (step : Step AroundBody) (dial : Dialler) (signature : CallSignature)
    (arguments : Arguments) : Prop :=
  ∀ goOn running result later, running.IsCall signature arguments →
    step.body.run (Steering.answer dial goOn) running = (.returned result, later) →
    step.body.proceedings dial goOn running = [(arguments, .returned result)]

/-- The arguments that the target took so far, each time that it was entered. -/
def Running.targets (running : Running) : List Arguments :=
  running.invocation.journal.toList.filterMap JournalEntry.target?

/-- A call after its target was entered: it is for the same method and has the same frames, and the target
took its arguments once more. -/
structure Running.Served (running later : Running) : Prop where
  /-- It is for the same method. -/
  signature : later.invocation.signature = running.invocation.signature
  /-- It has the same frames. -/
  frames : later.invocation.frames = running.invocation.frames
  /-- The target took the arguments. -/
  targets : later.targets = running.targets ++ [running.invocation.arguments]

/-- The surroundings in which a run enters the target do not depend on it, and the run ends as the target
does. -/
def Running.Serves (dial : Dialler) (run : Run Running CallResult) (running : Running) : Prop :=
  ∃ entered : World, ∀ terminal outcome later,
    run (running.withTerminal terminal) = (.returned outcome, later) →
    running.Served later ∧ ∃ left,
      (terminal running.invocation.arguments).run (Ambient.answer dial) entered = (.returned outcome, left)

/-- A run in the surroundings of a call returns if it does in them. -/
theorem Run.inWorld_eq_returned_iff {α : Type} {run : Run World α} {running later : Running} {value : α} :
    Run.inWorld run running = (.returned value, later) ↔
      ∃ world, run running.world = (.returned value, world) ∧ later = { running with world } := by
  unfold Run.inWorld
  generalize run running.world = ran
  obtain ⟨outcome, world⟩ := ran
  constructor
  · rintro ⟨⟩
    exact ⟨world, rfl, rfl⟩
  · rintro ⟨_, ⟨⟩, rfl⟩
    rfl

namespace Running

variable {dial : Dialler} {signature : CallSignature} {arguments : Arguments}

/-- Entering the target enters it. -/
theorem callTarget_serves (running : Running) : Serves dial (callTarget dial) running := by
  refine ⟨running.world, fun terminal outcome later hrun => ?_⟩
  obtain ⟨left, hleft, rfl⟩ := Run.inWorld_eq_returned_iff.mp hrun
  refine ⟨⟨rfl, rfl, ?_⟩, left, hleft⟩
  change ((running.invocation.journal.push _).push _).toList.filterMap JournalEntry.target? = _
  rw [Array.toList_push, Array.toList_push, List.append_assoc, List.filterMap_append]
  rfl

/-- The call in which an around advice has just been entered. -/
def opening (running : Running) (step : Step AroundBody) : Running :=
  running.mapInvocation (·.openFrame .around ⟨step.label, step.sequence, true, false, false⟩)

/-- The call in which the around advice that was entered has just proceeded. The frames are those of the
call before the advice was entered. -/
def granting (asked : Running) (step : Step AroundBody) (outer : List Frame) : Running :=
  asked.mapInvocation fun invocation =>
    { invocation.record (.proceeded step.sequence) with
      frames := ⟨step.label, step.sequence, true, true, false⟩ :: outer }

section

variable {step : Step AroundBody} {next : Run Running CallResult} {running asked later : Running}

/-- An around advice that asks to proceed for the first time does. -/
theorem proceed_of_undisturbed (hasked : (running.opening step).Undisturbed asked)
    (terminal : Terminal) : proceed next (asked.withTerminal terminal) =
      next ((asked.granting step running.invocation.frames).withTerminal terminal) := by
  obtain ⟨_, hasked⟩ := hasked
  have hframes : (asked.withTerminal terminal).invocation.frames =
      ⟨step.label, step.sequence, true, false, false⟩ :: running.invocation.frames :=
    congrArg Invocation.frames hasked
  unfold proceed
  rw [hframes]
  rfl

/-- The call remains one of the same method while an around advice proceeds. -/
theorem signature_granting (hasked : (running.opening step).Undisturbed asked) :
    (asked.granting step running.invocation.frames).invocation.signature =
      running.invocation.signature := by
  obtain ⟨_, hasked⟩ := hasked
  exact (congrArg Invocation.signature hasked :)

/-- The target is not entered before an around advice proceeds. -/
theorem targets_granting (hasked : (running.opening step).Undisturbed asked) :
    (asked.granting step running.invocation.frames).targets = running.targets := by
  obtain ⟨_, hasked⟩ := hasked
  have hjournal : asked.invocation.journal =
      running.invocation.journal.push (.advice .around step.sequence) :=
    congrArg Invocation.journal hasked
  change (asked.invocation.journal.push _).toList.filterMap JournalEntry.target? = _
  rw [hjournal, Array.toList_push, Array.toList_push, List.append_assoc, List.filterMap_append]
  exact List.append_nil _

/-- A call whose target was entered while an around advice proceeded is one whose target was entered, once
the advice is left. -/
theorem Served.closeFrame {served between : Running}
    (hasked : (running.opening step).Undisturbed asked)
    (harguments : asked.invocation.arguments = running.invocation.arguments)
    (hserved : (asked.granting step running.invocation.frames).Served served)
    (hbetween : served.Undisturbed between) :
    running.Served (between.mapInvocation Invocation.closeFrame) := by
  obtain ⟨_, hbetween⟩ := hbetween
  have hsignature : between.invocation.signature = served.invocation.signature :=
    (congrArg Invocation.signature hbetween :)
  have hframes : between.invocation.frames =
      ⟨step.label, step.sequence, true, true, false⟩ :: running.invocation.frames :=
    (congrArg Invocation.frames hbetween :).trans hserved.frames
  have htargets : between.targets = served.targets :=
    (congrArg (fun invocation => invocation.journal.toList.filterMap JournalEntry.target?) hbetween :)
  refine ⟨hsignature.trans (hserved.signature.trans (signature_granting hasked)), ?_, ?_⟩
  · change between.invocation.frames.tail = running.invocation.frames
    rw [hframes]
    rfl
  · change between.targets = _
    rw [htargets, hserved.targets, targets_granting hasked]
    exact congrArg (fun arguments => running.targets ++ [arguments]) harguments

/-- The body of an around advice that returned has returned, and the advice is left with its verdict. -/
theorem body_of_runAround {outcome : CallResult}
    (hrun : runAround dial next step running = (.returned outcome, later)) :
    ∃ result between, step.body.run (Steering.answer dial (proceed next)) (running.opening step) =
        (.returned result, between) ∧
      judge between.invocation.signature step.label
        (between.invocation.frames.headD ⟨step.label, step.sequence, true, false, false⟩) result
        (between.mapInvocation Invocation.closeFrame) = (.returned outcome, later) := by
  obtain ⟨_, _, hopen, hrun⟩ := Run.bind_eq_returned_iff.mp hrun
  cases hopen
  obtain ⟨result, between, hbody, hrun⟩ := Run.bind_eq_returned_iff.mp hrun
  obtain ⟨frame, _, hclose, hrun⟩ := Run.bind_eq_returned_iff.mp hrun
  cases hclose
  obtain ⟨signature, _, hread, hjudge⟩ := Run.bind_eq_returned_iff.mp hrun
  cases hread
  exact ⟨result, between, hbody, hjudge⟩

/-- An advice that proceeded once is not blamed for what it returns. -/
theorem judge_of_proceeded {label : String} {sequence : Nat} (result : CallResult) :
    judge signature label ⟨label, sequence, true, true, false⟩ result running = (.returned result, running) := by
  cases result <;> rfl

end

/-- An around advice that only observes leaves the call to what it proceeds to. -/
theorem runAround_serves {next : Run Running CallResult} {step : Step AroundBody} (running : Running)
    (hstep : step.Relays dial signature arguments) (hcall : running.IsCall signature arguments)
    (hnext : ∀ granted : Running, granted.IsCall signature arguments → Serves dial next granted) :
    Serves dial (runAround dial next step) running := by
  have hopening : ∀ goOn terminal result later, step.body.run (Steering.answer dial goOn)
      ((running.opening step).withTerminal terminal) = (.returned result, later) →
      step.body.proceedings dial goOn ((running.opening step).withTerminal terminal) =
        [((running.opening step).invocation.arguments, .returned result)] := by
    intro goOn terminal result later hrun
    have hcall' : ((running.opening step).withTerminal terminal).IsCall signature arguments :=
      ⟨hcall.signature, hcall.arguments⟩
    rw [hstep goOn _ result later hcall' hrun]
    exact congrArg (fun arguments => [(arguments, Outcome.returned result)]) hcall.arguments.symm
  obtain ⟨asked, hasked, hrelays⟩ := Program.exists_asked dial hopening
  by_cases hkept : asked.invocation.arguments = running.invocation.arguments
  · obtain ⟨entered, hentered⟩ := hnext (asked.granting step running.invocation.frames)
      ⟨(signature_granting hasked).trans hcall.signature, hkept.trans hcall.arguments⟩
    refine ⟨entered, fun terminal outcome later hrun => ?_⟩
    obtain ⟨result, between, hbody, hjudge⟩ := body_of_runAround hrun
    obtain ⟨_, served, hproceed, hbetween⟩ := hrelays _ terminal result between hbody
    rw [proceed_of_undisturbed hasked] at hproceed
    obtain ⟨hserved, left, hleft⟩ := hentered terminal result served hproceed
    have hframes : between.invocation.frames =
        ⟨step.label, step.sequence, true, true, false⟩ :: running.invocation.frames := by
      obtain ⟨_, hbetween⟩ := hbetween
      exact (congrArg Invocation.frames hbetween :).trans hserved.frames
    rw [hframes, List.headD_cons, judge_of_proceeded] at hjudge
    cases hjudge
    have hleft : (terminal asked.invocation.arguments).run (Ambient.answer dial) entered =
        (.returned outcome, left) := hleft
    exact ⟨hserved.closeFrame hasked hkept hbetween, left, hkept ▸ hleft⟩
  -- An advice that asks to proceed with other arguments does not return, whatever the target is.
  · refine ⟨running.world, fun terminal outcome later hrun => ?_⟩
    obtain ⟨result, between, hbody, _⟩ := body_of_runAround hrun
    obtain ⟨harguments, _⟩ := hrelays _ terminal result between hbody
    exact absurd harguments hkept

/-- Around advices that only observe leave the call to the target, from the cursor on. -/
theorem proceedNext_serves {arounds : List (Step AroundBody)}
    (harounds : ∀ step ∈ arounds, step.Relays dial signature arguments) (bound : Nat)
    {running : Running} (hcall : running.IsCall signature arguments) :
    Serves dial (proceedNext dial arounds bound) running := by
  induction bound generalizing running with
  | zero => exact ⟨running.world, fun _ _ _ hrun => by cases hrun⟩
  | succ bound ih =>
    cases hget : arounds[running.invocation.cursor]? with
    | none =>
      obtain ⟨entered, hentered⟩ : Serves dial (callTarget dial) running := callTarget_serves running
      refine ⟨entered, fun terminal outcome later hrun => hentered terminal outcome later ?_⟩
      have hnone : arounds[(running.withTerminal terminal).invocation.cursor]? = none := hget
      simp only [proceedNext, hnone] at hrun
      exact hrun
    | some step =>
      let moved := running.mapInvocation fun invocation =>
        { invocation with cursor := invocation.cursor + 1 }
      obtain ⟨entered, hentered⟩ := runAround_serves moved (harounds step (List.mem_of_getElem? hget))
        ⟨hcall.signature, hcall.arguments⟩ fun granted hgranted => ih hgranted
      refine ⟨entered, fun terminal outcome later hrun => ?_⟩
      have hsome : arounds[(running.withTerminal terminal).invocation.cursor]? = some step := hget
      simp only [proceedNext, hsome] at hrun
      obtain ⟨hserved, left, hleft⟩ := hentered terminal outcome later hrun
      exact ⟨⟨hserved.signature, hserved.frames, hserved.targets⟩, left, hleft⟩

end Running

end Interception
