import Interception.Proofs.ObservedCalls
import Interception.Proofs.PhaseMoments

/-!
# The phases of a call

A call only moves forward through its phases, and what an advice sees is settled by its kind, and for around
advices by whether the target has been called, however deeply they are nested. Failures of before advices,
targets that are not reached and refused attempts to proceed only leave phases out.

Attempts to proceed are the only way from one advice to the next, so the frames that are open carry the argument:
outside the nest no frame is open but that of a before advice, and in the nest all frames belong to around
advices, of which there are at least as many as advices that are running. Panics leave more of them open, which
are never seen. The target can be taken once, and its phase is entered just when it is taken.
-/

namespace Interception

namespace Watched

variable {α : Type} {dial : Dialler}

section

variable {invariant : Running → Prop} {depth : Nat}

/-- Every request of any code passes where the surroundings do not matter. -/
theorem ambient_passes (hworld : ∀ running world, invariant running → invariant { running with world })
    (request : Ambient) :
    Passes invariant (fun _ => invariant) invariant (quiet (Run.inWorld (request.answer dial))) :=
  .keeping (fun _ => List.prefix_refl _) fun _ h => hworld _ _ h

/-- Every request of a steering advice passes where neither surroundings nor arguments matter, if proceeding
does. -/
theorem answer_passes (hworld : ∀ running world, invariant running → invariant { running with world })
    (harguments : ∀ running arguments, invariant running →
      invariant (running.mapInvocation ({ · with arguments })))
    {goOn : Watched Running CallResult} (hgoOn : Passes invariant (fun _ => invariant) invariant goOn)
    (request : Steering) : Passes invariant (fun _ => invariant) invariant (answer dial goOn request) := by
  cases request with
  | ambient request => exact ambient_passes hworld request
  | proceed => exact hgoOn
  | view => exact .keeping (fun _ => List.prefix_refl _) fun _ h => h
  | description => exact .keeping (fun _ => List.prefix_refl _) fun _ h => h
  | setArguments arguments => exact .keeping (fun _ => List.prefix_refl _) fun _ h => harguments _ _ h
  | setRoutingKey key => exact .keeping (fun _ => List.prefix_refl _) fun _ h => hworld _ _ h

/-- A refusal passes. -/
theorem refuse_passes (label : String) (misuse : Misuse) :
    Passes invariant (fun _ => invariant) invariant (quiet (Running.refuse label misuse)) :=
  .keeping (fun _ => List.prefix_refl _) fun _ h => h

/-- A before advice is running. -/
def InBefore (running : Running) : Prop :=
  ∃ frame, frame.canProceed = false ∧ running.Stands [.entered] [frame]

/-- Before advices see the first phase. -/
theorem InBefore.timely {running : Running} (h : InBefore running) : running.Timely := by
  obtain ⟨frame, hcan, hstands⟩ := h
  refine hstands.timely ?_
  rw [hstands.inControl?_eq (by decide), List.head?_cons, Option.map_some, hcan]
  exact (Option.some.inj hstands.phase).symm

/-- A before advice passes: it is refused to proceed. -/
theorem before_passes (step : Step BeforeBody) : Passes (Running.Stands [.entered] [])
    (fun _ => Running.Stands [.entered] []) (fun _ => True) (before dial step) := by
  have hrefused : Passes InBefore (fun _ => InBefore) InBefore (proceed (quiet Run.exhausted)) := by
    refine .given fun running ⟨frame, hcan, hstands⟩ => ?_
    rw [hstands.frames]
    simp only [hcan]
    refine .bind (.quiet (fun running _ => running.phases_prefix_record _) ?_ fun _ h => h) fun _ =>
      refuse_passes _ _
    rintro _ rfl
    exact ⟨frame, hcan, hstands.record _ rfl rfl fun _ => nofun⟩
  have hopened : Passes (Running.Stands [.entered] []) (fun _ => InBefore) (fun _ => True) (quiet (Run.modify
      (·.mapInvocation (·.openFrame .before ⟨step.label, step.sequence, false, false, false⟩)))) :=
    .quiet (fun running _ => running.phases_prefix_record _) (fun _ h => ⟨_, rfl, h.openFrame rfl _⟩)
      fun _ _ => trivial
  refine hopened.bind fun _ => .bind (Passes.program (fun _ => InBefore.timely) (answer_passes
    (fun _ _ ⟨frame, hcan, h⟩ => ⟨frame, hcan, { h with }⟩)
    (fun _ _ ⟨frame, hcan, h⟩ => ⟨frame, hcan, { h with }⟩) hrefused) step.body).forget fun result => ?_
  have hclosed : Passes InBefore (fun _ => Running.Stands [.entered] []) (fun _ => True)
      (quiet (Run.modify (·.mapInvocation Invocation.closeFrame))) :=
    .quiet (fun _ _ => List.prefix_refl _) (fun _ ⟨_, _, h⟩ => h.closeFrame) fun _ _ => trivial
  exact hclosed.bind fun _ => .pure result (fun _ h => h) fun _ _ => trivial

/-- A call is in its nest, with at least so many frames open. -/
def InNest (depth : Nat) (running : Running) : Prop :=
  ∃ taken frames, depth ≤ frames.length ∧ (∀ frame ∈ frames, frame.canProceed = true) ∧
    running.Stands (CallPhase.opening true taken) frames

/-- Where more frames are open, there are also at least one fewer. -/
theorem InNest.outer {running : Running} (h : InNest (depth + 1) running) : InNest depth running := by
  obtain ⟨taken, frames, hdepth, hgrants, hstands⟩ := h
  exact ⟨taken, frames, Nat.le_of_succ_le hdepth, hgrants, hstands⟩

/-- In the nest an open frame belongs to an around advice. -/
theorem inControl?_of_grants {taken : Bool} {frames : List Frame} {running : Running}
    (h : running.Stands (CallPhase.opening true taken) frames)
    (hgrants : ∀ frame ∈ frames, frame.canProceed = true) :
    running.inControl? = frames.head?.map fun _ => .around := by
  have hearly : CallPhase.unwinding ∉ CallPhase.opening true taken := by cases taken <;> decide
  rw [h.inControl?_eq hearly]
  cases frames with
  | nil => rfl
  | cons frame outer =>
    rw [List.head?_cons, Option.map_some, hgrants frame List.mem_cons_self]
    rfl

/-- Around advices see that the nest is running until the target is called, and that it is called from then
on. -/
theorem InNest.timely {running : Running} (h : InNest (depth + 1) running) : running.Timely := by
  obtain ⟨taken, frames, hdepth, hgrants, hstands⟩ := h
  refine hstands.timely ?_
  have hphase := hstands.phase
  have hcalled := hstands.called
  rw [inControl?_of_grants hstands hgrants]
  cases frames with
  | nil => cases hdepth
  | cons frame outer =>
    cases taken with
    | false =>
      have hnever : running.invocation.targetCalled = false :=
        Bool.eq_false_iff.mpr fun h => absurd (hcalled.mp h) (by decide)
      rw [hnever]
      exact (Option.some.inj hphase).symm
    | true =>
      rw [hcalled.mpr (by decide)]
      exact (Option.some.inj hphase).symm

/-- Attempts of an around advice to proceed pass if what they proceed to does. -/
theorem proceed_passes {next : Watched Running CallResult}
    (hnext : Passes (InNest (depth + 1)) (fun _ => InNest (depth + 1)) (InNest (depth + 1)) next) :
    Passes (InNest (depth + 1)) (fun _ => InNest (depth + 1)) (InNest (depth + 1)) (proceed next) := by
  refine .given fun running ⟨taken, frames, hdepth, hgrants, hstands⟩ => ?_
  rw [hstands.frames]
  cases frames with
  | nil => cases hdepth
  | cons frame outer =>
    obtain ⟨label, sequence, canProceed, proceeded, misused⟩ := frame
    obtain ⟨rfl, houter⟩ := List.forall_mem_cons.mp hgrants
    -- The innermost frame is another one now, but it still belongs to an around advice.
    have hreplaced : ∀ (entry : JournalEntry) (proceeded misused : Bool), entry.phase? = none →
        entry.target? = none → entry.begun? = none → InNest (depth + 1) (running.mapInvocation fun invocation =>
          { invocation.record entry with frames := ⟨label, sequence, true, proceeded, misused⟩ :: outer }) := by
      intro entry proceeded misused hphase htarget hbegun
      have hrecord := hstands.record entry hphase htarget fun _ _ h => absurd (hbegun.symm.trans h) nofun
      exact ⟨taken, ⟨label, sequence, true, proceeded, misused⟩ :: outer, hdepth,
        List.forall_mem_cons.mpr ⟨rfl, houter⟩, { hrecord with frames := rfl }⟩
    cases proceeded with
    | true =>
      refine .bind (.quiet (fun running _ => running.phases_prefix_record _) ?_ fun _ h => h) fun _ =>
        refuse_passes _ _
      rintro _ rfl
      obtain ⟨taken, frames, hdepth, hgrants, h⟩ := hreplaced (.refused sequence) true true rfl rfl rfl
      exact ⟨taken, frames, hdepth, hgrants, { h with }⟩
    | false =>
      refine .bind (.quiet (fun running _ => running.phases_prefix_record _) ?_ fun _ h => h) fun _ => hnext
      rintro _ rfl
      exact hreplaced (.proceeded sequence) true misused rfl rfl rfl

/-- The target is running, on its own or in the nest. -/
def InTarget (depth : Nat) (running : Running) : Prop :=
  ∃ frames, depth ≤ frames.length ∧ (∀ frame ∈ frames, frame.canProceed = true) ∧
    running.Stands (CallPhase.opening true true) frames

/-- The target sees that it is called. -/
theorem InTarget.timely {running : Running} (h : InTarget depth running) : running.Timely := by
  obtain ⟨frames, _, hgrants, hstands⟩ := h
  refine hstands.timely ?_
  rw [inControl?_of_grants hstands hgrants, hstands.called.mpr (by decide)]
  cases frames with
  | nil => exact (Option.some.inj hstands.phase).symm
  | cons frame outer => exact (Option.some.inj hstands.phase).symm

/-- The target passes. -/
theorem callTarget_passes :
    Passes (InNest depth) (fun _ => InNest depth) (InNest depth) (callTarget dial) := by
  refine .given fun running ⟨taken, frames, hdepth, hgrants, hstands⟩ => ?_
  split
  · refine .bind (.quiet (fun running _ => running.phases_prefix_record _) ?_ fun _ h => h) fun _ =>
      refuse_passes _ _
    rintro _ rfl
    exact ⟨taken, frames, hdepth, hgrants, hstands.record _ rfl rfl fun _ => nofun⟩
  · next terminal hterminal =>
    -- The target is there to be taken, so its phase was not reached yet.
    obtain rfl : taken = false := by
      cases taken with
      | false => rfl
      | true =>
        have hnone := hstands.terminal.mpr (by decide)
        rw [hterminal] at hnone
        cases hnone
    have hended : ∀ running, InTarget depth running → InNest depth running := fun _ ⟨frames, h⟩ =>
      ⟨true, frames, h⟩
    have hentered : Passes (· = running) (fun _ => InTarget depth) (InNest depth)
        (quiet (Run.modify Running.enteringTarget)) := by
      refine .quiet (fun running _ => ?_) ?_ hended
      · exact (running.phases_prefix_record _).trans (Running.phases_prefix_record _ _)
      · rintro _ rfl
        exact ⟨frames, hdepth, hgrants, hstands.enteringTarget⟩
    exact hentered.bind fun _ => (Passes.program (fun _ => InTarget.timely)
      (ambient_passes fun _ _ ⟨frames, hdepth, hgrants, h⟩ => ⟨frames, hdepth, hgrants, { h with }⟩) _).weaken
        (fun _ h => h) (fun _ => hended) hended

/-- An around advice passes if what it proceeds to does. -/
theorem around_passes {next : Watched Running CallResult}
    (hnext : Passes (InNest (depth + 1)) (fun _ => InNest (depth + 1)) (InNest (depth + 1)) next)
    (step : Step AroundBody) :
    Passes (InNest depth) (fun _ => InNest depth) (InNest depth) (around dial next step) := by
  have hopened : Passes (InNest depth) (fun _ => InNest (depth + 1)) (InNest depth) (quiet (Run.modify
      (·.mapInvocation (·.openFrame .around ⟨step.label, step.sequence, true, false, false⟩)))) :=
    .quiet (fun running _ => running.phases_prefix_record _)
      (fun _ ⟨taken, frames, hdepth, hgrants, h⟩ => ⟨taken,
        ⟨step.label, step.sequence, true, false, false⟩ :: frames, Nat.succ_le_succ hdepth,
        List.forall_mem_cons.mpr ⟨rfl, hgrants⟩, h.openFrame rfl _⟩) fun _ => .outer
  have hbody : Passes (InNest (depth + 1)) (fun _ => InNest (depth + 1)) (InNest (depth + 1))
      (program id (answer dial (proceed next)) step.body) :=
    .program (fun _ => InNest.timely) (answer_passes
      (fun _ _ ⟨taken, frames, hdepth, hgrants, h⟩ => ⟨taken, frames, hdepth, hgrants, { h with }⟩)
      (fun _ _ ⟨taken, frames, hdepth, hgrants, h⟩ => ⟨taken, frames, hdepth, hgrants, { h with }⟩)
      (proceed_passes hnext)) step.body
  refine hopened.bind fun _ => .bind (hbody.weaken (fun _ h => h) (fun _ _ h => h) fun _ => .outer)
    fun result => ?_
  have hclosed : Passes (InNest (depth + 1)) (fun _ => InNest depth) (InNest depth)
      (quiet (Running.closeFrame step)) := by
    refine .quiet (fun _ _ => List.prefix_refl _) (fun _ ⟨taken, frames, hdepth, hgrants, h⟩ => ?_) fun _ h => h
    refine ⟨taken, frames.tail, ?_, fun frame hframe => hgrants frame (List.mem_of_mem_tail hframe), h.closeFrame⟩
    rw [List.length_tail]
    exact Nat.le_sub_one_of_lt hdepth
  have hread : Passes (InNest depth) (fun _ => InNest depth) (InNest depth)
      (quiet (Run.read fun running => running.invocation.signature)) :=
    .keeping (fun _ => List.prefix_refl _) fun _ h => h
  refine hclosed.bind fun frame => hread.bind fun signature => ?_
  have hjudged : ∀ running : Running, (Running.judge signature step.label frame result running).2.invocation =
      running.invocation := by
    intro running
    obtain ⟨judged, later, hran, hinvocation, _⟩ :=
      Running.judge_returns signature step.label frame result running
    rw [hran]
    exact hinvocation
  refine .keeping (fun running => ?_) fun running ⟨taken, frames, hdepth, hgrants, h⟩ =>
    ⟨taken, frames, hdepth, hgrants, h.of_invocation_eq (hjudged running)⟩
  have hphases : (Running.judge signature step.label frame result running).2.phases = running.phases := by
    rw [Running.phases, Running.phases, hjudged]
  rewrite [hphases]
  exact List.prefix_refl _

/-- The nest passes from the cursor on. -/
theorem proceedNext_passes (arounds : List (Step AroundBody)) (bound : Nat) :
    Passes (InNest depth) (fun _ => InNest depth) (InNest depth) (proceedNext dial arounds bound) := by
  induction bound generalizing depth with
  | zero => exact .keeping (fun _ => List.prefix_refl _) fun _ h => h
  | succ bound ih =>
    refine .given fun running hnest => ?_
    split
    · refine .bind (.quiet (fun _ _ => List.prefix_refl _) ?_ fun _ h => h) fun _ => around_passes ih _
      rintro _ rfl
      obtain ⟨taken, frames, hdepth, hgrants, h⟩ := hnest
      exact ⟨taken, frames, hdepth, hgrants, { h with }⟩
    · exact callTarget_passes.weaken (fun _ h => h ▸ hnest) (fun _ _ h => h) fun _ h => h

/-- A phase that is entered is one more. -/
theorem enterPhase_passes {done : List CallPhase} {frames : List Frame} (phase : CallPhase)
    (hphase : phase ≠ .targetCalled) (hdone : ∀ running, invariant running → running.Stands done frames) :
    Passes invariant (fun _ => Running.Stands (done ++ [phase]) frames) (fun _ => True) (enterPhase phase) :=
  .quiet (fun running _ => running.phases_prefix_record _) (fun _ h => (hdone _ h).enterPhase hphase)
    fun _ _ => trivial

/-- An advice at the end of the call is running. -/
def InEnding (done : List CallPhase) (frames : List Frame) (kind : AdviceKind) (running : Running) : Prop :=
  running.Stands done frames ∧ running.ending? = some kind

/-- Advices at the end of the call pass in the phase for their kind. -/
theorem observe_passes {done : List CallPhase} {frames : List Frame} {kind : AdviceKind}
    (hkind : kind.isAfterFamily = true) (hunwinding : .unwinding ∈ done)
    (hdone : ∀ called, done.getLast? = some (.seenBy (some kind) called)) (sequence : Nat)
    (body : ObservingProgram α) : Passes (Running.Stands done frames) (fun _ => Running.Stands done frames)
      (fun _ => True) (observe dial kind sequence body) := by
  have htimely : ∀ running, InEnding done frames kind running → running.Timely := by
    rintro running ⟨hstands, hending⟩
    refine hstands.timely ?_
    rw [Running.inControl?, hending]
    exact Option.some.inj (hstands.phase.symm.trans (hdone _))
  have hbegun : Passes (Running.Stands done frames) (fun _ => InEnding done frames kind) (fun _ => True)
      (quiet (Run.modify (·.mapInvocation (·.record (.advice kind sequence))))) := by
    refine .quiet (fun running _ => running.phases_prefix_record _) (fun running hstands => ?_)
      fun _ _ => trivial
    exact ⟨hstands.record _ rfl rfl fun hearly => absurd hunwinding hearly,
      running.ending?_record_advice hkind sequence⟩
  refine hbegun.bind fun _ => .given fun running hrunning => ?_
  refine (Passes.program htimely (fun request => ?_) body).weaken (fun _ h => h ▸ hrunning) (fun _ _ h => h.1)
    fun _ _ => trivial
  exact .keeping (fun _ => List.prefix_refl _) fun _ h => ⟨{ h.1 with }, h.2⟩

end

section

variable (chain : Chain) {start : Running}

/-- Where a call stands at the end of its nest. -/
def Opened (dial : Dialler) (start later : Running) : Prop :=
  ∃ succeeded taken frames, (succeeded = true ↔ chain.BeforesSucceed dial start) ∧
    (taken = true → succeeded = true) ∧ later.Stands (CallPhase.opening succeeded taken) frames

/-- Up to the end of its nest a call passes, and the nest is run exactly if all before advices succeed. -/
theorem inner_passes (hstart : start.Stands [.entered] []) :
    Passes (· = start) (fun _ => Opened chain dial start) (fun _ => True) (inner chain dial) := by
  have hbefores : Passes (Running.Stands [.entered] []) (fun _ => Running.Stands [.entered] [])
      (fun _ => True) (befores dial chain.befores) :=
    (Passes.composes fun _ _ h => { h with }).befores fun step _ => before_passes step
  refine (hbefores.fromState hstart).bind fun result => .pointwise fun later ⟨hlater, hran⟩ => ?_
  rw [run_befores] at hran
  cases result with
  | error error =>
    have hfailed : ¬ chain.BeforesSucceed dial start := by
      rw [Chain.BeforesSucceed, hran]
      nofun
    refine .pure _ ?_ fun _ _ => trivial
    rintro _ rfl
    exact ⟨false, false, [], iff_of_false Bool.false_ne_true hfailed, nofun, hlater⟩
  | ok =>
    have hsucceeded : chain.BeforesSucceed dial start := by rw [Chain.BeforesSucceed, hran]
    have hdone : Passes (· = later) (fun _ => Running.Stands ([.entered] ++ [.beforeDone]) [])
        (fun _ => True) (enterPhase .beforeDone) := enterPhase_passes .beforeDone nofun fun _ h => h ▸ hlater
    have hbegun : Passes (Running.Stands [.entered, .beforeDone] [])
        (fun _ => Running.Stands (CallPhase.opening true false) []) (fun _ => True)
        (enterPhase .aroundNestRunning) := enterPhase_passes .aroundNestRunning nofun fun _ h => h
    have hnest : Passes (InNest 0) (fun _ => InNest 0) (InNest 0)
        (proceedNext dial chain.arounds (chain.arounds.length + 1)) := proceedNext_passes _ _
    refine hdone.bind fun _ => hbegun.bind fun _ => hnest.weaken
      (fun _ h => ⟨false, [], Nat.le_refl 0, nofun, h⟩) ?_ fun _ _ => trivial
    exact fun _ _ ⟨taken, frames, _, _, h⟩ =>
      ⟨true, taken, frames, iff_of_true rfl hsucceeded, fun _ => rfl, h⟩

/-- A call passes, and where it returns it has taken one of the possible courses. -/
theorem phases_passes (hstart : start.Stands [.entered] []) :
    Passes (· = start) (fun _ later => ∃ succeeded taken returning frames,
      (succeeded = true ↔ chain.BeforesSucceed dial start) ∧ (taken = true → succeeded = true) ∧
        later.Stands (CallPhase.course succeeded taken returning) frames) (fun _ => True)
      (phases chain dial) := by
  refine (inner_passes chain hstart).bind fun outcome => .pointwise ?_
  rintro later ⟨succeeded, taken, frames, hsucceeded, htaken, hlater⟩
  have hcomposes : ∀ done,
      Composes (Passes (Running.Stands done frames) (fun _ => Running.Stands done frames) fun _ => True) :=
    fun done => Passes.composes fun _ _ h => { h with }
  have hunwinding : Passes (· = later)
      (fun _ => Running.Stands (CallPhase.opening succeeded taken ++ [.unwinding]) frames) (fun _ => True)
      (enterPhase .unwinding) := enterPhase_passes .unwinding nofun fun _ h => h ▸ hlater
  have hmem : CallPhase.unwinding ∈ CallPhase.opening succeeded taken ++ [.unwinding] := by simp
  refine hunwinding.bind fun _ => ?_
  refine ((hcomposes _).afters outcome fun step _ =>
    observe_passes rfl hmem (fun _ => List.getLast?_concat) _ _).bind fun outcome => ?_
  have hending : Passes (Running.Stands (CallPhase.opening succeeded taken ++ [.unwinding]) frames)
      (fun _ => Running.Stands (CallPhase.opening succeeded taken ++ [.unwinding] ++
        [if outcome.isOk then .afterReturning else .afterThrowing]) frames) (fun _ => True)
      (ending chain dial outcome) := by
    cases outcome with
    | ok value =>
      refine (enterPhase_passes .afterReturning nofun fun _ h => h).bind fun _ =>
        (hcomposes _).afterReturnings value fun step _ => ?_
      exact observe_passes rfl (List.mem_append_left _ hmem) (fun _ => List.getLast?_concat) _ _
    | error error =>
      refine (enterPhase_passes .afterThrowing nofun fun _ h => h).bind fun _ =>
        (hcomposes _).afterThrowings error none fun step _ => ?_
      exact observe_passes rfl (List.mem_append_left _ hmem) (fun _ => List.getLast?_concat) _ _
  refine hending.bind fun result => (enterPhase_passes .completed nofun fun _ h => h).bind fun _ =>
    .pure result (fun _ h => ?_) fun _ _ => trivial
  refine ⟨succeeded, taken, outcome.isOk, frames, hsucceeded, htaken, ?_⟩
  simpa [CallPhase.course] using h

end

end Watched

namespace Chain

/-- A call in which no code breaks off returns, and every call that returns takes one of the possible courses
through its phases: the before advices are done and the nest runs exactly if all before advices succeed, the
target is called exactly if it took the arguments, and one of the two endings follows the after advices. It never
goes back to an earlier phase. At every moment the code in control sees the phase that belongs to its kind, which
is the last that was reached, and the target is marked as called exactly from the phase for that on. -/
theorem phases_in_order (chain : Chain) (dial : Dialler) (signature : CallSignature) (arguments : Arguments)
    (terminal : Terminal) (world : World) :
    let begun := start signature arguments terminal world
    ((Watched.phases chain dial).Calm dial begun →
      ∃ result final, chain.runPhases dial begun = (.returned result, final)) ∧
    ∀ result final, chain.runPhases dial begun = (.returned result, final) →
      ∃ succeeded taken returning,
        final.phases = CallPhase.course succeeded taken returning ∧
        (succeeded = true ↔ chain.BeforesSucceed dial begun) ∧
        (taken = true → succeeded = true) ∧ (taken = true ↔ final.targets ≠ []) ∧
        (final.phases.Pairwise fun earlier later => earlier.place < later.place) ∧
        ∀ act now, (Watched.phases chain dial).acts begun act now →
          now.Timely ∧ now.phases <+: final.phases := by
  intro begun
  refine ⟨fun hcalm => ?_, fun result final hran => ?_⟩
  · obtain ⟨result, final, hran, _⟩ :=
      Watched.phases_returns chain begun ⟨Nat.le_refl 0, Nat.zero_le _⟩ hcalm
    exact ⟨result, final, (Watched.run_phases dial chain).symm ▸ hran⟩
  · have hpasses := @Watched.phases_passes dial chain _ (Running.stands_start signature arguments terminal world)
    rw [← Watched.run_phases] at hran
    obtain ⟨succeeded, taken, returning, _, hsucceeded, htaken, hstands⟩ := hpasses.returns rfl hran
    refine ⟨succeeded, taken, returning, hstands.phases, hsucceeded, htaken, ?_, ?_, fun act now hacts => ?_⟩
    · rw [hstands.targets]
      cases succeeded <;> cases taken <;> cases returning <;> decide
    · rw [hstands.phases]
      exact CallPhase.course_increases succeeded taken returning
    · have hmoment := hpasses.moments rfl hacts
      rwa [hran] at hmoment

/-- A call that reaches its target, through an advice of every kind, takes the whole course. -/
theorem phases_in_order_idle :
    let dial : Dialler := fun _ => Run.exhausted
    let signature : CallSignature := ⟨"a.Svc", "Svc", ⟨"get", [], "()"⟩⟩
    let terminal : Terminal := fun _ => .done (.ok .unit)
    let begun := start signature .empty terminal .initial
    (Watched.phases idle dial).Calm dial begun ∧
      (idle.runPhases dial begun).2.phases = [.entered, .beforeDone, .aroundNestRunning, .targetCalled,
        .unwinding, .afterReturning, .completed] ∧
      ∀ act now, (Watched.phases idle dial).acts begun act now → now.Timely := by
  intro dial signature terminal begun
  have hcalm : (Watched.phases idle dial).Calm dial begun := calm_idle dial signature .empty .initial rfl
  obtain ⟨hreturns, hcourse⟩ := phases_in_order idle dial signature .empty terminal .initial
  obtain ⟨result, final, hran⟩ := hreturns hcalm
  obtain ⟨_, _, _, _, _, _, _, _, hmoments⟩ := hcourse result final hran
  exact ⟨hcalm, rfl, fun act now hacts => (hmoments act now hacts).1⟩

end Chain

end Interception
