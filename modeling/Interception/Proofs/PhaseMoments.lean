import Interception.Proofs.CallCompletion
import Interception.Proofs.CallInvariants
import Interception.Proofs.ObservedNest

/-!
# Phases at the moments of a call

The journal of a call tells which phases it has reached. A moment is timely if the call shows the last of them, if
that is the phase that belongs to the code in control, and if the target is marked as called exactly from the
phase for that on. Where a call stands is told by the phases it has reached and the frames that are open; most of
what happens in a call leaves it where it stands.

Parts of a call are specified one by one: from states with one property all moments are timely, the phases are
only continued, and where the part returns, it does so in states with another property. Such specifications hold
of parts one after the other, and of programs if they hold of the answers.
-/

namespace Interception

/-- The phase that was reached. -/
def JournalEntry.phase? : JournalEntry → Option CallPhase
  | phase reached => some reached
  | _ => none

/-- The phases that a call has reached, in order. -/
def Running.phases (running : Running) : List CallPhase :=
  running.invocation.journal.toList.filterMap JournalEntry.phase?

/-- The kind of the advice that began. -/
def JournalEntry.begun? : JournalEntry → Option AdviceKind
  | advice kind _ => some kind
  | _ => none

/-- The kind of the advice that began last, if it is one at the end of the call. -/
def Running.ending? (running : Running) : Option AdviceKind :=
  (running.invocation.journal.toList.filterMap JournalEntry.begun?).getLast?.filter AdviceKind.isAfterFamily

/-- The kind of the advice whose code is in control, if it is not the target's: of the advice at the end of the
call that began last, or else of the innermost before or around advice whose frame is open. -/
def Running.inControl? (running : Running) : Option AdviceKind :=
  running.ending? <|> running.invocation.frames.head?.map fun frame =>
    if frame.canProceed then .around else .before

namespace CallPhase

/-- The place of a phase in the course of a call. The two phases in which a call may end share a place. -/
def place : CallPhase → Nat
  | entered => 0
  | beforeDone => 1
  | aroundNestRunning => 2
  | targetCalled => 3
  | unwinding => 4
  | afterReturning | afterThrowing => 5
  | completed => 6

/-- The phases up to the end of the nest. -/
def opening (succeeded taken : Bool) : List CallPhase :=
  .entered :: (if succeeded then [.beforeDone, .aroundNestRunning] else []) ++
    if taken then [.targetCalled] else []

/-- The phases of a call, given whether its before advices succeeded, whether its target was called, and
whether it left the after advices with a value. -/
def course (succeeded taken returning : Bool) : List CallPhase :=
  opening succeeded taken ++ [.unwinding, if returning then .afterReturning else .afterThrowing, .completed]

/-- No course goes back to an earlier phase or stays in one. -/
theorem course_increases (succeeded taken returning : Bool) :
    (course succeeded taken returning).Pairwise fun earlier later => earlier.place < later.place := by
  cases succeeded <;> cases taken <;> cases returning <;> decide

/-- The phase that code of an advice sees, given its kind and whether the target has been called. The target
itself runs when it has been called. -/
def seenBy : Option AdviceKind → (targetCalled : Bool) → CallPhase
  | some .before, _ => .entered
  | some .around, false => .aroundNestRunning
  | some .around, true => .targetCalled
  | some .after, _ => .unwinding
  | some .afterReturning, _ => .afterReturning
  | some .afterThrowing, _ => .afterThrowing
  | none, _ => .targetCalled

end CallPhase

namespace Running

/-- The call shows the phase that the code in control should see. -/
structure Timely (running : Running) : Prop where
  /-- It is the one that belongs to the code. -/
  seen : running.invocation.phase = .seenBy running.inControl? running.invocation.targetCalled
  /-- It is the last that was reached. -/
  last : running.phases.getLast? = some running.invocation.phase
  /-- The target has been called exactly if the phase for that was reached. -/
  called : running.invocation.targetCalled = true ↔ .targetCalled ∈ running.phases

/-- A call has reached the given phases and has the given frames. -/
structure Stands (done : List CallPhase) (frames : List Frame) (running : Running) : Prop where
  /-- These phases were reached. -/
  phases : running.phases = done
  /-- The last of them is the phase of the call. -/
  phase : done.getLast? = some running.invocation.phase
  /-- The target is marked as called in its phase. -/
  called : running.invocation.targetCalled = true ↔ .targetCalled ∈ done
  /-- The target took the arguments in its phase. -/
  targets : running.targets ≠ [] ↔ .targetCalled ∈ done
  /-- The target is taken in its phase. -/
  terminal : running.invocation.terminal = none ↔ .targetCalled ∈ done
  /-- Advices at the end of the call begin in their phases. -/
  early : .unwinding ∉ done → running.ending? = none
  /-- These frames are open. -/
  frames : running.invocation.frames = frames

section

variable {done : List CallPhase} {frames : List Frame} {running : Running}

/-- No advice at the end of the call began by an entry of another kind. -/
theorem ending?_record_of_begun? (running : Running) {entry : JournalEntry}
    (h : ∀ kind, entry.begun? = some kind → kind.isAfterFamily = false) (hearly : running.ending? = none) :
    (running.mapInvocation (·.record entry)).ending? = none := by
  simp only [ending?, mapInvocation, Invocation.record, Array.toList_push, List.filterMap_append] at hearly ⊢
  cases hentry : entry.begun? with
  | none => simpa [hentry] using hearly
  | some kind => simp [hentry, h kind hentry]

/-- No advice at the end of the call began by an entry that tells of no advice. -/
theorem ending?_record_of_none (running : Running) {entry : JournalEntry} (h : entry.begun? = none)
    (hearly : running.ending? = none) : (running.mapInvocation (·.record entry)).ending? = none :=
  running.ending?_record_of_begun? (fun kind hkind => absurd (h.symm.trans hkind) (Option.some_ne_none kind).symm)
    hearly

/-- An advice at the end of the call that just began is the one that began last. -/
theorem ending?_record_advice (running : Running) {kind : AdviceKind} (hkind : kind.isAfterFamily = true)
    (sequence : Nat) : (running.mapInvocation (·.record (.advice kind sequence))).ending? = some kind := by
  simp [ending?, mapInvocation, Invocation.record, JournalEntry.begun?, hkind]

/-- A call begins in its first phase. -/
theorem stands_start (signature : CallSignature) (arguments : Arguments) (terminal : Terminal)
    (world : World) : Stands [.entered] [] (Chain.start signature arguments terminal world) := by
  have hnone : .targetCalled ∉ [CallPhase.entered] := by decide
  exact ⟨rfl, rfl, iff_of_false nofun hnone, iff_of_false (fun h => h rfl) hnone, iff_of_false nofun hnone,
    fun _ => rfl, rfl⟩

/-- What the code in control sees decides whether the call is timely. -/
theorem Stands.timely (h : Stands done frames running)
    (hseen : running.invocation.phase = .seenBy running.inControl? running.invocation.targetCalled) :
    running.Timely := by
  refine ⟨hseen, ?_, ?_⟩
  · rw [h.phases, h.phase]
  · rw [h.phases, h.called]

/-- Entries of the journal that tell of no phase and of no target leave a call where it stands, if they do not
tell of the end before it. -/
theorem Stands.record (h : Stands done frames running) (entry : JournalEntry) (hphase : entry.phase? = none)
    (htarget : entry.target? = none)
    (hbegun : .unwinding ∉ done → ∀ kind, entry.begun? = some kind → kind.isAfterFamily = false) :
    Stands done frames (running.mapInvocation (·.record entry)) := by
  refine ⟨?_, h.phase, h.called, ?_, h.terminal,
    fun hearly => running.ending?_record_of_begun? (hbegun hearly) (h.early hearly), h.frames⟩
  · rw [← h.phases]
    simp [Running.phases, mapInvocation, Invocation.record, hphase]
  · rw [← h.targets]
    simp [Running.targets, mapInvocation, Invocation.record, htarget]

/-- The surroundings do not matter. -/
theorem Stands.of_invocation_eq {later : Running} (h : Stands done frames running)
    (hsame : later.invocation = running.invocation) : Stands done frames later := by
  obtain ⟨_, world⟩ := later
  cases hsame
  exact { h with }

/-- A frame that is opened is one more. -/
theorem Stands.openFrame (h : Stands done frames running) {kind : AdviceKind} (hkind : kind.isAfterFamily = false)
    (frame : Frame) : Stands done (frame :: frames) (running.mapInvocation (·.openFrame kind frame)) := by
  have hrecord : Stands done frames (running.mapInvocation (·.record (.advice kind frame.sequence))) :=
    h.record _ rfl rfl fun _ _ hbegun => Option.some.inj hbegun ▸ hkind
  exact { hrecord with frames := congrArg (frame :: ·) h.frames }

/-- The innermost frame is closed. -/
theorem Stands.closeFrame (h : Stands done frames running) :
    Stands done frames.tail (running.mapInvocation Invocation.closeFrame) :=
  { h with frames := congrArg List.tail h.frames }

/-- A phase that is reached is one more. -/
theorem Stands.enterPhase (h : Stands done frames running) {phase : CallPhase} (hphase : phase ≠ .targetCalled) :
    Stands (done ++ [phase]) frames (running.mapInvocation (·.enterPhase phase)) := by
  have hmem : .targetCalled ∈ done ++ [phase] ↔ .targetCalled ∈ done := by
    simp [hphase.symm]
  refine ⟨?_, List.getLast?_concat, ?_, ?_, ?_, fun hearly => ?_, h.frames⟩
  · rw [← h.phases]
    simp [Running.phases, mapInvocation, Invocation.enterPhase, Invocation.record, JournalEntry.phase?]
  · rw [hmem]
    exact h.called
  · rw [hmem, ← h.targets]
    simp [Running.targets, mapInvocation, Invocation.enterPhase, Invocation.record, JournalEntry.target?]
  · rw [hmem]
    exact h.terminal
  · exact running.ending?_record_of_none rfl (h.early fun hmem => hearly (List.mem_append_left _ hmem))

/-- A call whose target takes the arguments is in the phase for that. -/
theorem Stands.enteringTarget (h : Stands done frames running) :
    Stands (done ++ [.targetCalled]) frames running.enteringTarget := by
  have hmem : .targetCalled ∈ done ++ [CallPhase.targetCalled] := by simp
  have hjournal : running.enteringTarget.invocation.journal.toList = running.invocation.journal.toList ++
      [.phase .targetCalled, .target running.invocation.arguments] := by
    simp [Running.enteringTarget, mapInvocation, Invocation.enterPhase, Invocation.record]
  refine ⟨?_, List.getLast?_concat, iff_of_true rfl hmem, iff_of_true ?_ hmem, iff_of_true rfl hmem,
    fun hearly => ?_, h.frames⟩
  · rw [Running.phases, hjournal, List.filterMap_append, ← h.phases]
    rfl
  · rw [Running.targets, hjournal, List.filterMap_append]
    exact List.append_ne_nil_of_right_ne_nil _ (List.cons_ne_nil _ _)
  · rw [ending?, hjournal, List.filterMap_append]
    change (List.getLast? (_ ++ [])).filter AdviceKind.isAfterFamily = none
    rw [List.append_nil]
    exact h.early fun hmem => hearly (List.mem_append_left _ hmem)

/-- One more entry of the journal continues the phases. -/
theorem phases_prefix_record (running : Running) (entry : JournalEntry) :
    running.phases <+: (running.mapInvocation (·.record entry)).phases := by
  have hphases : (running.mapInvocation (·.record entry)).phases =
      running.phases ++ [entry].filterMap JournalEntry.phase? := by
    simp only [phases, mapInvocation, Invocation.record, Array.toList_push, List.filterMap_append]
  rw [hphases]
  exact List.prefix_append _ _

/-- Before its end, the innermost frame of a call tells which code is in control. -/
theorem Stands.inControl?_eq (h : Stands done frames running) (hearly : .unwinding ∉ done) :
    running.inControl? = frames.head?.map fun frame => if frame.canProceed then .around else .before := by
  rw [inControl?, h.early hearly, h.frames]
  rfl

end

end Running

namespace Watched

variable {α β : Type} {dial : Dialler}

/-- From states with the first property all moments of a run are timely, and it continues the phases. Where it
returns, the second property holds, and the third one holds however it ends. -/
structure Passes (before : Running → Prop) (after : α → Running → Prop) (ended : Running → Prop)
    (watched : Watched Running α) : Prop where
  /-- Every moment is timely, and what was reached then is continued. -/
  moments : ∀ {running act now}, before running → watched.acts running act now →
    now.Timely ∧ now.phases <+: (watched.run running).2.phases
  /-- The phases are continued. -/
  continues : ∀ {running}, before running → running.phases <+: (watched.run running).2.phases
  /-- The second property holds where the run returns. -/
  returns : ∀ {running value later}, before running → watched.run running = (.returned value, later) →
    after value later
  /-- The third property holds where the run ends. -/
  ends : ∀ {running}, before running → ended (watched.run running).2

namespace Passes

variable {before before' invariant ended ended' : Running → Prop} {between after : α → Running → Prop}
  {last : β → Running → Prop}

/-- The properties may be stronger before and weaker after the run. -/
theorem weaken {watched : Watched Running α} (h : Passes before between ended watched)
    (hbefore : ∀ running, before' running → before running)
    (hafter : ∀ value running, between value running → after value running)
    (hended : ∀ running, ended running → ended' running) : Passes before' after ended' watched where
  moments hrunning := h.moments (hbefore _ hrunning)
  continues hrunning := h.continues (hbefore _ hrunning)
  returns hrunning hran := hafter _ _ (h.returns (hbefore _ hrunning) hran)
  ends hrunning := hended _ (h.ends (hbefore _ hrunning))

/-- How a call ends where it breaks off may not matter. -/
theorem forget {watched : Watched Running α} (h : Passes before between ended watched) :
    Passes before between (fun _ => True) watched :=
  h.weaken (fun _ h => h) (fun _ _ h => h) fun _ _ => trivial

/-- It is enough to look at the states one by one. -/
theorem pointwise {watched : Watched Running α}
    (h : ∀ running, before running → Passes (· = running) after ended watched) :
    Passes before after ended watched where
  moments hrunning := (h _ hrunning).moments rfl
  continues hrunning := (h _ hrunning).continues rfl
  returns hrunning := (h _ hrunning).returns rfl
  ends hrunning := (h _ hrunning).ends rfl

/-- From a single state, where the run returns is known. -/
theorem fromState {watched : Watched Running α} (h : Passes before after ended watched) {running : Running}
    (hrunning : before running) : Passes (· = running)
      (fun value later => after value later ∧ watched.run running = (.returned value, later)) ended watched where
  moments := by
    rintro _ _ _ rfl hacts
    exact h.moments hrunning hacts
  continues := by
    rintro _ rfl
    exact h.continues hrunning
  returns := by
    rintro _ _ _ rfl hran
    exact ⟨h.returns hrunning hran, hran⟩
  ends := by
    rintro _ rfl
    exact h.ends hrunning

/-- A run during which no code is in control. -/
theorem quiet {run : Run Running α} (hcontinues : ∀ running, before running →
      running.phases <+: (run running).2.phases)
    (hafter : ∀ running, before running → before' (run running).2)
    (hended : ∀ running, before' running → ended running) :
    Passes before (fun _ => before') ended (Watched.quiet run) where
  moments _ hacts := hacts.elim
  continues := hcontinues _
  returns hrunning hran := by
    have hlater := hafter _ hrunning
    simp only [run_quiet] at hran
    rwa [hran] at hlater
  ends hrunning := hended _ (hafter _ hrunning)

/-- A run during which no code is in control, and that keeps a property. -/
theorem keeping {run : Run Running α} (hcontinues : ∀ running, running.phases <+: (run running).2.phases)
    (h : Run.Keeps invariant run) : Passes invariant (fun _ => invariant) invariant (Watched.quiet run) :=
  .quiet (fun running _ => hcontinues running) h fun _ h => h

/-- Returning. -/
theorem pure (value : α) (h : ∀ running, before running → after value running)
    (hended : ∀ running, before running → ended running) :
    Passes before after ended (Pure.pure value : Watched Running α) where
  moments _ hacts := hacts.elim
  continues _ := List.prefix_refl _
  returns hrunning hran := by
    cases hran
    exact h _ hrunning
  ends hrunning := hended _ hrunning

/-- One run after the other. -/
theorem bind {first : Watched Running α} {next : α → Watched Running β}
    (hfirst : Passes before between ended first) (hnext : ∀ value, Passes (between value) last ended (next value)) :
    Passes before last ended (first >>= next) := by
  have hboth : ∀ {running}, before running →
      (first.run running).2.phases <+: ((first >>= next).run running).2.phases ∧
        ended ((first >>= next).run running).2 := by
    intro running hrunning
    have hbetween := @hfirst.returns running
    have hended := hfirst.ends hrunning
    rw [run_bind, Run.bind_apply]
    generalize first.run running = ran at hbetween hended
    obtain ⟨outcome, later⟩ := ran
    cases outcome with
    | returned value =>
      exact ⟨(hnext value).continues (hbetween hrunning rfl), (hnext value).ends (hbetween hrunning rfl)⟩
    | _ => exact ⟨List.prefix_refl _, hended⟩
  refine ⟨fun hrunning hacts => ?_, fun hrunning => (hfirst.continues hrunning).trans (hboth hrunning).1,
    fun hrunning hran => ?_, fun hrunning => (hboth hrunning).2⟩
  · obtain hacts | ⟨value, later, hran, hacts⟩ := hacts
    · obtain ⟨htimely, hphases⟩ := hfirst.moments hrunning hacts
      exact ⟨htimely, hphases.trans (hboth hrunning).1⟩
    · obtain ⟨htimely, hphases⟩ := (hnext value).moments (hfirst.returns hrunning hran) hacts
      rw [run_bind, Run.bind_apply, hran]
      exact ⟨htimely, hphases⟩
  · obtain ⟨value, later, hfirstRan, hnextRan⟩ := Run.bind_eq_returned_iff.mp hran
    exact (hnext value).returns (hfirst.returns hrunning hfirstRan) hnextRan

/-- A run that depends on the state in which it begins. -/
theorem given {choose : Running → Watched Running α}
    (h : ∀ running, before running → Passes (· = running) after ended (choose running)) :
    Passes before after ended (Watched.given choose) where
  moments hrunning := (h _ hrunning).moments rfl
  continues hrunning := (h _ hrunning).continues rfl
  returns hrunning := (h _ hrunning).returns rfl
  ends hrunning := (h _ hrunning).ends rfl

/-- A run that returns after a panic as well, if it keeps a property however it ends. -/
theorem attempt {watched : Watched Running α} (h : Passes invariant (fun _ => invariant) invariant watched) :
    Passes invariant (fun _ => invariant) invariant watched.attempt := by
  have hlater : ∀ running, (watched.attempt.run running).2 = (watched.run running).2 :=
    Run.snd_attempt watched.run
  refine ⟨fun hrunning hacts => ?_, fun hrunning => ?_, fun {running _ _} hrunning hran => ?_, fun hrunning => ?_⟩
  · rw [hlater]
    exact h.moments hrunning hacts
  · rw [hlater]
    exact h.continues hrunning
  · have hended := h.ends hrunning
    rwa [← hlater, hran] at hended
  · rw [hlater]
    exact h.ends hrunning

/-- A run that begins with code in control. -/
theorem acting {act : Act} {watched : Watched Running α} (hbefore : ∀ running, before running → running.Timely)
    (h : Passes before after ended watched) : Passes before after ended (Watched.acting act watched) where
  moments hrunning hacts := by
    obtain ⟨_, rfl⟩ | hacts := hacts
    · exact ⟨hbefore _ hrunning, h.continues hrunning⟩
    · exact h.moments hrunning hacts
  continues hrunning := h.continues hrunning
  returns hrunning := h.returns hrunning
  ends hrunning := h.ends hrunning

/-- A program, if every answer to its requests keeps a property in which its code is in control in time. -/
theorem program {Request : Type} {Answer : Request → Type} {seen : Request → Steering}
    {answer : (request : Request) → Watched Running (Answer request)}
    (htimely : ∀ running, invariant running → running.Timely)
    (h : ∀ request, Passes invariant (fun _ => invariant) invariant (answer request))
    (program : Program Answer α) :
    Passes invariant (fun _ => invariant) invariant (Watched.program seen answer program) := by
  induction program with
  | done value => exact acting htimely (.pure value (fun _ h => h) fun _ h => h)
  | panic message => exact acting htimely (.keeping (fun _ => List.prefix_refl _) fun _ h => h)
  | ask request next ih => exact acting htimely ((h request).bind ih)
  | attempt request next ih => exact acting htimely ((h request).attempt.bind ih)

/-- A property that holds throughout composes. -/
theorem composes (hworld : ∀ running world, invariant running → invariant { running with world }) :
    Composes (Passes invariant (fun _ => invariant) fun _ => True) where
  pure value := .pure value (fun _ h => h) fun _ _ => trivial
  log _ _ := .quiet (fun _ _ => List.prefix_refl _) (fun _ h => hworld _ _ h) fun _ _ => trivial
  bind := .bind

end Passes

end Watched

end Interception
