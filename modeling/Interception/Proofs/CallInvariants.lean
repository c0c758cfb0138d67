import Interception.Proofs.CallMoments
import Interception.Proofs.ProgramRuns

/-!
# What lasts through a call

A property of a running call holds at all moments of the call and at its end if it holds at the beginning and
nothing that happens in between takes it away. Little does happen, whatever code the advices and the target
consist of: the surroundings answer requests, an advice that steers the call changes its arguments and its
routing key, frames come and go, the cursor moves, records and entries are written, phases are entered, and the
target takes the arguments. So it is enough to look at these one by one, and nothing has to be said about the
way in which advices enclose each other.
-/

namespace Interception

/-- A call whose target takes the arguments. -/
def Running.enteringTarget (running : Running) : Running :=
  running.mapInvocation fun invocation =>
    { (invocation.enterPhase .targetCalled).record (.target invocation.arguments) with
      targetCalled := true
      terminal := none
      arguments := .empty }

namespace Watched

section

variable {σ α β : Type} {invariant : σ → Prop}

/-- The property holds at every moment of the run and at its end, if it holds at the beginning. -/
def Stays (invariant : σ → Prop) (watched : Watched σ α) : Prop :=
  ∀ s, invariant s → invariant (watched.run s).2 ∧ ∀ act t, watched.acts s act t → invariant t

namespace Stays

/-- What a run keeps holds throughout if no code is in control. -/
theorem quiet {run : Run σ α} (h : Run.Keeps invariant run) : Stays invariant (Watched.quiet run) :=
  fun s hs => ⟨h s hs, fun _ _ hacts => hacts.elim⟩

/-- Returning changes nothing. -/
theorem pure (value : α) : Stays invariant (Pure.pure value : Watched σ α) := quiet (Run.Keeps.pure value)

/-- What holds throughout two runs holds throughout both of them one after the other. -/
theorem bind {first : Watched σ α} {next : α → Watched σ β} (hfirst : Stays invariant first)
    (hnext : ∀ value, Stays invariant (next value)) : Stays invariant (first >>= next) := by
  refine fun s hs => ⟨?_, fun act t hacts => ?_⟩
  · exact Run.Keeps.bind (fun s hs => (hfirst s hs).1) (fun value s hs => (hnext value s hs).1) s hs
  · obtain hfirstActs | ⟨value, between, hran, hnextActs⟩ := hacts
    · exact (hfirst s hs).2 act t hfirstActs
    · have hbetween := (hfirst s hs).1
      rw [hran] at hbetween
      exact (hnext value between hbetween).2 act t hnextActs

/-- What holds throughout every run that may be chosen holds throughout the one that is. -/
theorem given {choose : σ → Watched σ α} (h : ∀ s, Stays invariant (choose s)) :
    Stays invariant (Watched.given choose) := fun s hs => h s s hs

/-- What holds throughout a run holds throughout it if the run returns after a panic as well. -/
theorem attempt {watched : Watched σ α} (h : Stays invariant watched) : Stays invariant watched.attempt :=
  fun s hs => ⟨Run.Keeps.attempt (fun s hs => (h s hs).1) s hs, (h s hs).2⟩

/-- What every answer keeps throughout holds throughout the run of a program. -/
theorem program {Request : Type} {Answer : Request → Type} {seen : Request → Steering}
    {answer : (request : Request) → Watched σ (Answer request)}
    (h : ∀ request, Stays invariant (answer request)) (program : Program Answer α) :
    Stays invariant (Watched.program seen answer program) := by
  have hacting : ∀ {α : Type} {act : Act} {watched : Watched σ α}, Stays invariant watched →
      Stays invariant (acting act watched) := fun hwatched s hs =>
    ⟨(hwatched s hs).1, fun act t hacts => hacts.elim (fun here => here.2 ▸ hs) ((hwatched s hs).2 act t)⟩
  induction program with
  | done value => exact hacting (pure value)
  | panic message => exact hacting (quiet fun _ hs => hs)
  | ask request next ih => exact hacting (bind (h request) ih)
  | attempt request next ih => exact hacting (bind (h request).attempt ih)

end Stays

end

/-- Nothing that happens in a call takes the property away, unless the target takes the arguments. -/
structure Lasting (dial : Dialler) (invariant : Running → Prop) : Prop where
  /-- The surroundings answer the requests that any code may make. -/
  ambient : ∀ request, Run.Keeps invariant (Run.inWorld (Ambient.answer dial request))
  /-- An advice sets the routing key. -/
  routing : ∀ key running, invariant running → invariant { running with
    world := { running.world with scopes := running.world.scopes.set running.invocation.scope key } }
  /-- Records are written to the log. -/
  log : ∀ record running, invariant running → invariant (running.log record)
  /-- Arguments are replaced, the cursor moves, and frames come and go. -/
  steering : ∀ arguments cursor frames running, invariant running →
    invariant (running.mapInvocation ({ · with arguments, cursor, frames }))
  /-- Entries are written to the journal. -/
  entry : ∀ entry running, (∀ arguments, entry ≠ .target arguments) → invariant running →
    invariant (running.mapInvocation (·.record entry))
  /-- The call moves on to a phase. -/
  phase : ∀ phase running, invariant running → invariant (running.mapInvocation (·.enterPhase phase))

namespace Lasting

variable {dial : Dialler} {invariant : Running → Prop}

/-- Refusals change nothing. -/
theorem refuse (label : String) (misuse : Misuse) :
    Stays invariant (quiet (Running.refuse label misuse)) := .quiet fun _ h => h

/-- Whatever a steering advice asks for, the property lasts if it does when the advice proceeds. -/
theorem answer (h : Lasting dial invariant) {goOn : Watched Running CallResult} (hgoOn : Stays invariant goOn)
    (request : Steering) : Stays invariant (Watched.answer dial goOn request) := by
  cases request with
  | proceed => exact hgoOn
  | ambient request => exact .quiet (h.ambient request)
  | setRoutingKey key => exact .quiet (Run.Keeps.modify (h.routing key))
  | view => exact .quiet (Run.Keeps.read _)
  | description => exact .quiet (Run.Keeps.read _)
  | setArguments arguments => exact .quiet (Run.Keeps.modify fun _ => h.steering arguments _ _ _)

/-- The property lasts through attempts to proceed if it lasts through what they proceed to. -/
theorem proceed (h : Lasting dial invariant) {next : Watched Running CallResult} (hnext : Stays invariant next) :
    Stays invariant (Watched.proceed next) := by
  refine .given fun running => ?_
  split
  · exact refuse _ _
  · split
    · exact .bind (.quiet (Run.Keeps.modify fun _ => h.entry _ _ (fun _ => by nofun))) fun _ => refuse _ _
    · split
      · refine .bind (.quiet (Run.Keeps.modify fun running hrunning => ?_)) fun _ => refuse _ _
        exact h.log _ _ (h.steering _ _ _ _ (h.entry _ _ (fun _ => by nofun) hrunning))
      · refine .bind (.quiet (Run.Keeps.modify fun running hrunning => ?_)) fun _ => hnext
        exact h.steering _ _ _ _ (h.entry _ _ (fun _ => by nofun) hrunning)

/-- The property lasts while the target runs, if it is still there when a target that was not taken before has taken
the arguments. -/
theorem callTarget (h : Lasting dial invariant) (htarget : ∀ running : Running,
      running.invocation.terminal ≠ none → invariant running → invariant running.enteringTarget) :
    Stays invariant (Watched.callTarget dial) := by
  intro running hrunning
  simp only [Watched.callTarget, Watched.given]
  cases hterminal : running.invocation.terminal with
  | none =>
    have hrefused : Stays invariant (do
        quiet (Run.modify (·.mapInvocation (·.record .targetTaken)))
        quiet (Running.refuse ((running.invocation.frames.head?.map Frame.label).getD "") .targetTaken)) :=
      .bind (.quiet (Run.Keeps.modify fun _ => h.entry _ _ (fun _ => by nofun))) fun _ => refuse _ _
    exact hrefused running hrunning
  | some terminal =>
    have hentered := htarget running (hterminal ▸ Option.some_ne_none terminal) hrunning
    have hprogram : Stays invariant (Watched.program Steering.ambient
        (fun request => quiet (Run.inWorld (request.answer dial))) (terminal running.invocation.arguments)) :=
      .program (fun request => .quiet (h.ambient request)) _
    obtain ⟨hend, hmoments⟩ := hprogram running.enteringTarget hentered
    refine ⟨hend, fun act now hacts => ?_⟩
    obtain ⟨⟨⟩⟩ | ⟨_, _, hran, hacts⟩ := hacts
    cases hran
    exact hmoments act now hacts

/-- The verdict on an around advice at most writes to the log. -/
theorem judge (h : Lasting dial invariant) (signature : CallSignature) (label : String) (frame : Frame)
    (result : CallResult) : Stays invariant (quiet (Running.judge signature label frame result)) := by
  refine .quiet fun running hrunning => ?_
  obtain ⟨_, sequence, canProceed, proceeded, misused⟩ := frame
  -- Only the failure of an advice that has not proceeded is logged.
  cases misused <;> cases result <;> cases proceeded <;>
    first
      | exact hrunning
      | exact h.log _ _ hrunning

/-- Frames are closed. -/
theorem closeFrame (h : Lasting dial invariant) (step : Step AroundBody) :
    Stays invariant (quiet (Running.closeFrame step)) := .quiet fun _ => h.steering _ _ _ _

/-- The property lasts through an around advice if it lasts through what the advice proceeds to. -/
theorem around (h : Lasting dial invariant) {next : Watched Running CallResult} (hnext : Stays invariant next)
    (step : Step AroundBody) : Stays invariant (Watched.around dial next step) := by
  have hopened : Stays invariant (quiet (Run.modify
      (·.mapInvocation (·.openFrame .around ⟨step.label, step.sequence, true, false, false⟩)))) :=
    .quiet (Run.Keeps.modify fun running hrunning =>
      h.steering _ _ _ _ (h.entry _ _ (fun _ => by nofun) hrunning))
  refine .bind hopened fun _ => .bind (.program (h.answer (h.proceed hnext)) step.body) fun result => ?_
  exact .bind (h.closeFrame step) fun frame => .bind (.quiet (Run.Keeps.read _)) fun signature =>
    h.judge signature step.label frame result

/-- The property lasts through the nest from the cursor on, if it lasts through the target. -/
theorem proceedNext (h : Lasting dial invariant) (htarget : Stays invariant (Watched.callTarget dial))
    (arounds : List (Step AroundBody)) (bound : Nat) :
    Stays invariant (Watched.proceedNext dial arounds bound) := by
  induction bound with
  | zero => exact .quiet fun _ h => h
  | succ bound ih =>
    refine .given fun running => ?_
    split
    · exact .bind (.quiet (Run.Keeps.modify fun _ => h.steering _ _ _ _)) fun _ => h.around ih _
    · exact htarget

/-- The property lasts through before advices. -/
theorem before (h : Lasting dial invariant) (step : Step BeforeBody) :
    Stays invariant (Watched.before dial step) := by
  have hopened : Stays invariant (quiet (Run.modify
      (·.mapInvocation (·.openFrame .before ⟨step.label, step.sequence, false, false, false⟩)))) :=
    .quiet (Run.Keeps.modify fun running hrunning =>
      h.steering _ _ _ _ (h.entry _ _ (fun _ => by nofun) hrunning))
  have hrefused : Stays invariant (Watched.proceed (quiet Run.exhausted)) := h.proceed (.quiet fun _ h => h)
  refine .bind hopened fun _ => .bind (.program (h.answer hrefused) step.body) fun result => ?_
  exact .bind (.quiet (Run.Keeps.modify fun _ => h.steering _ _ _ _)) fun _ => .pure result

/-- The property lasts through advices at the end of the call. -/
theorem observe (h : Lasting dial invariant) {α : Type} (kind : AdviceKind) (sequence : Nat)
    (body : ObservingProgram α) : Stays invariant (Watched.observe dial kind sequence body) := by
  refine .bind (.quiet (Run.Keeps.modify fun _ => h.entry _ _ (fun _ => by nofun))) fun _ =>
    .given fun running => .program (fun request => ?_) body
  cases request with
  | ambient request => exact .quiet (h.ambient request)
  | view => exact .quiet fun _ h => h
  | description => exact .quiet fun _ h => h

/-- The property lasts through one part of the call after the other. -/
theorem composes (h : Lasting dial invariant) : Composes (Stays invariant) where
  pure := .pure
  log _ _ := .quiet fun _ => h.log _ _
  bind := .bind

/-- The property lasts when the call moves on to a phase. -/
theorem enterPhase (h : Lasting dial invariant) (phase : CallPhase) :
    Stays invariant (Watched.enterPhase phase) := .quiet (Run.Keeps.modify (h.phase phase))

/-- The property lasts through what follows the nest. -/
theorem closing (h : Lasting dial invariant) (chain : Chain) (outcome : CallResult) :
    Stays invariant (Watched.closing chain dial outcome) :=
  h.composes.closing h.enterPhase outcome (fun _ _ => h.observe _ _ _) (fun _ _ _ => h.observe _ _ _)
    fun _ _ _ => h.observe _ _ _

/-- The property lasts through the whole call, if it lasts through the target. -/
theorem phases (h : Lasting dial invariant) (htarget : Stays invariant (Watched.callTarget dial)) (chain : Chain) :
    Stays invariant (Watched.phases chain dial) := by
  have hnest : Stays invariant (nest dial chain.arounds) :=
    .bind (h.enterPhase .aroundNestRunning) fun _ => h.proceedNext htarget _ _
  have hinner := h.composes.inner h.enterPhase (fun step _ => h.before step) hnest
  exact hinner.bind fun outcome => h.closing chain outcome

end Lasting

end Watched

end Interception
