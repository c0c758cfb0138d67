import Interception.Proofs.CallMoments

/-!
# Calls that come to their end

A call is given up or broken off by its code alone: if none of it panics at any moment, and every nested
call that it makes returns, the call returns. The bound on the nest of around advices is never reached,
because the cursor moves forward with every advice that is entered and stops at the last one, and what
before advices would proceed to is never run, because they may not proceed.
-/

namespace Interception

/-- The code does not break off here: it does not panic, and if it makes a nested call, that call
returns. -/
def Act.IsCalm (dial : Dialler) (now : Running) : Act → Prop
  | .panics => False
  | .asks (.ambient (.call call)) => ∃ answer, (dial call now.world).1 = .returned answer
  | _ => True

/-- The parts of two runs one after the other that returned have returned. -/
theorem Run.bind_eq_returned_iff {σ α β : Type} {first : Run σ α} {next : α → Run σ β} {s t : σ}
    {value : β} : (first >>= next) s = (.returned value, t) ↔
      ∃ middle between, first s = (.returned middle, between) ∧
        next middle between = (.returned value, t) := by
  rw [Run.bind_apply]
  generalize first s = ran
  obtain ⟨outcome, between⟩ := ran
  cases outcome with
  | returned middle =>
    refine ⟨fun h => ⟨middle, between, rfl, h⟩, ?_⟩
    rintro ⟨_, _, ⟨⟩, h⟩
    exact h
  | panicked message => simp
  | exhausted => simp

namespace Watched

variable {α β : Type} {dial : Dialler}

/-- No code breaks off in the run. -/
def Calm (dial : Dialler) (watched : Watched Running α) (running : Running) : Prop :=
  ∀ act now, watched.acts running act now → act.IsCalm dial now

/-- Where no code is in control, none breaks off. -/
theorem calm_quiet (run : Run Running α) (running : Running) : (quiet run).Calm dial running :=
  fun _ _ hacts => hacts.elim

/-- Two runs one after the other are calm if the first is, and the second if it is run. -/
theorem calm_bind_iff {first : Watched Running α} {next : α → Watched Running β} {running : Running} :
    (first >>= next).Calm dial running ↔ first.Calm dial running ∧
      ∀ value later, first.run running = (.returned value, later) → (next value).Calm dial later := by
  constructor
  · intro h
    exact ⟨fun act now hacts => h act now (.inl hacts),
      fun value later hran act now hacts => h act now (.inr ⟨value, later, hran, hacts⟩)⟩
  · rintro ⟨hfirst, hnext⟩ act now (hacts | ⟨value, later, hran, hacts⟩)
    · exact hfirst act now hacts
    · exact hnext value later hran act now hacts

/-- A run after a change of the state is calm if it is calm from the changed state. -/
theorem calm_modify_bind {f : Running → Running} {next : Unit → Watched Running β} {running : Running}
    (h : (next ()).Calm dial (f running)) : (quiet (Run.modify f) >>= next).Calm dial running := by
  refine calm_bind_iff.mpr ⟨calm_quiet _ _, fun _ _ hran => ?_⟩
  cases hran
  exact h

/-- A run that begins with code in control is calm if this code does not break off and the run is calm. -/
theorem calm_acting_iff {act : Act} {watched : Watched Running α} {running : Running} :
    (acting act watched).Calm dial running ↔
      act.IsCalm dial running ∧ watched.Calm dial running := by
  constructor
  · intro h
    exact ⟨h act running (.inl ⟨rfl, rfl⟩), fun act now hacts => h act now (.inr hacts)⟩
  · rintro ⟨hact, hwatched⟩ act' now (⟨rfl, rfl⟩ | hacts)
    · exact hact
    · exact hwatched act' now hacts

/-- Calm runs are calm one after the other, and where only the log is written no code is in control. -/
theorem composes_calm : Composes fun watched => ∀ running, watched.Calm dial running where
  pure _ := calm_quiet _
  log _ _ := calm_quiet _
  bind hfirst hnext running := calm_bind_iff.mpr ⟨hfirst running, fun value later _ => hnext value later⟩

/-- Code that is finished at once does not break off. -/
theorem calm_done {Request : Type} {Answer : Request → Type} (seen : Request → Steering)
    (answer : (request : Request) → Watched Running (Answer request)) (value : α) (running : Running) :
    (program seen answer (.done value)).Calm dial running :=
  calm_acting_iff.mpr ⟨trivial, calm_quiet _ _⟩

/-- An advice at the end of the call does not break off if it is finished at once. -/
theorem calm_observe_done (kind : AdviceKind) (sequence : Nat) (value : α) (running : Running) :
    (observe dial kind sequence (.done value)).Calm dial running :=
  calm_modify_bind (calm_done Observing.steering (fun request => quiet (Run.inWorld
    (request.answer dial (running.mapInvocation (·.record (.advice kind sequence))).invocation))) value _)

/-- A before advice does not break off if it is finished at once. -/
theorem calm_before_done (label : String) (sequence : Nat) (result : Except AopError Unit)
    (running : Running) : (before dial ⟨label, sequence, .done result⟩).Calm dial running := by
  refine calm_modify_bind (calm_bind_iff.mpr ⟨calm_done _ _ _ _, fun _ _ _ => ?_⟩)
  exact calm_modify_bind (calm_quiet _ _)

/-- From every state with the first property the run, if it is calm, returns in one with the second. -/
def Returns (dial : Dialler) (before after : Running → Prop) (watched : Watched Running α) : Prop :=
  ∀ running, before running → watched.Calm dial running →
    ∃ value later, watched.run running = (.returned value, later) ∧ after later

namespace Returns

variable {before between after : Running → Prop}

/-- Returning returns. -/
theorem pure (value : α) : Returns dial before before (Pure.pure value : Watched Running α) :=
  fun running h _ => ⟨value, running, rfl, h⟩

/-- A change returns. -/
theorem modify {f : Running → Running} (h : ∀ running, before running → after (f running)) :
    Returns dial before after (quiet (Run.modify f)) :=
  fun running hbefore _ => ⟨(), f running, rfl, h running hbefore⟩

/-- What is read from the state is returned. -/
theorem read (f : Running → α) : Returns dial before before (quiet (Run.read f)) :=
  fun running h _ => ⟨f running, running, rfl, h⟩

/-- A refusal is returned. -/
theorem refuse (label : String) (misuse : Misuse) :
    Returns dial before before (quiet (Running.refuse label misuse)) :=
  fun running h _ => ⟨_, running, rfl, h⟩

/-- Two runs that return do so one after the other. -/
theorem bind {first : Watched Running α} {next : α → Watched Running β}
    (hfirst : Returns dial before between first)
    (hnext : ∀ value, Returns dial between after (next value)) :
    Returns dial before after (first >>= next) := by
  intro running h hcalm
  obtain ⟨hcalmFirst, hcalmNext⟩ := calm_bind_iff.mp hcalm
  obtain ⟨middle, later, hran, hlater⟩ := hfirst running h hcalmFirst
  obtain ⟨value, last, hranNext, hlast⟩ := hnext middle later hlater (hcalmNext middle later hran)
  exact ⟨value, last, Run.bind_eq_returned_iff.mpr ⟨middle, later, hran, hranNext⟩, hlast⟩

/-- A run that depends on the state returns if the one that is chosen does. -/
theorem given {choose : Running → Watched Running α}
    (h : ∀ running, before running → Returns dial (· = running) after (choose running)) :
    Returns dial before after (Watched.given choose) :=
  fun running hbefore hcalm => h running hbefore running rfl hcalm

/-- A change that keeps a property is followed by a run that returns from there. -/
theorem modify_bind {f : Running → Running} {next : Unit → Watched Running β}
    (h : ∀ running, before running → before (f running))
    (hnext : ∀ changed, Returns dial before after (next changed)) :
    Returns dial before after (quiet (Run.modify f) >>= next) := (modify h).bind hnext

/-- A run that returns has no panic to return after. -/
theorem attempt {watched : Watched Running α} (h : Returns dial before after watched) :
    Returns dial before after watched.attempt := by
  intro running hbefore hcalm
  obtain ⟨value, later, hran, hlater⟩ := h running hbefore hcalm
  refine ⟨.ok value, later, ?_, hlater⟩
  change watched.run.attempt running = _
  rw [Run.attempt_apply, hran]

/-- A program returns if every request is answered where it does not break off. -/
theorem program {Request : Type} {Answer : Request → Type} {seen : Request → Steering}
    {answer : (request : Request) → Watched Running (Answer request)}
    (h : ∀ request, Returns dial (fun running => before running ∧
      (Act.asks (seen request)).IsCalm dial running) before (answer request))
    (program : Program Answer α) : Returns dial before before (Watched.program seen answer program) := by
  induction program with
  | done value => exact fun running hbefore _ => ⟨value, running, rfl, hbefore⟩
  | panic message => exact fun running _ hcalm => (calm_acting_iff.mp hcalm).1.elim
  | ask request next ih =>
    intro running hbefore hcalm
    obtain ⟨hact, hrest⟩ := calm_acting_iff.mp hcalm
    exact ((h request).bind ih) running ⟨hbefore, hact⟩ hrest
  | attempt request next ih =>
    intro running hbefore hcalm
    obtain ⟨hact, hrest⟩ := calm_acting_iff.mp hcalm
    exact ((h request).attempt.bind ih) running ⟨hbefore, hact⟩ hrest

end Returns

section

variable {invariant : Running → Prop}

/-- In the surroundings of a call, every request that any code may make is answered unless a nested call
breaks off. -/
theorem ambient_returns (hworld : ∀ running world, invariant running → invariant { running with world })
    (request : Ambient) : Returns dial (fun running => invariant running ∧
      (Act.asks (.ambient request)).IsCalm dial running) invariant
      (quiet (Run.inWorld (request.answer dial))) := by
  rintro running ⟨hinvariant, hcalm⟩ _
  have hreturned : ∃ value, (request.answer dial running.world).1 = .returned value := by
    cases request with
    | call call => exact hcalm
    | _ => exact ⟨_, rfl⟩
  obtain ⟨value, hvalue⟩ := hreturned
  exact ⟨value, { running with world := (request.answer dial running.world).2 },
    congrArg (·, { running with world := (request.answer dial running.world).2 }) hvalue,
    hworld running _ hinvariant⟩

/-- Every request of a steering advice is answered unless a nested call breaks off, if proceeding
returns. -/
theorem answer_returns (hworld : ∀ running world, invariant running → invariant { running with world })
    (harguments : ∀ running arguments, invariant running →
      invariant (running.mapInvocation ({ · with arguments })))
    {goOn : Watched Running CallResult} (hgoOn : Returns dial invariant invariant goOn)
    (request : Steering) : Returns dial (fun running => invariant running ∧
      (Act.asks request).IsCalm dial running) invariant (answer dial goOn request) := by
  cases request with
  | ambient request => exact ambient_returns hworld request
  | proceed => exact fun running h => hgoOn running h.1
  | view => exact fun running h _ => ⟨_, running, rfl, h.1⟩
  | description => exact fun running h _ => ⟨_, running, rfl, h.1⟩
  | setArguments arguments => exact .modify fun running h => harguments running arguments h.1
  | setRoutingKey key => exact .modify fun running h => hworld running _ h.1

/-- Advices at the end of the call return. -/
theorem observe_returns (hworld : ∀ running world, invariant running → invariant { running with world })
    (hrecord : ∀ running entry, invariant running → invariant (running.mapInvocation (·.record entry)))
    (kind : AdviceKind) (sequence : Nat) (body : ObservingProgram α) :
    Returns dial invariant invariant (observe dial kind sequence body) := by
  refine .modify_bind (fun _ h => hrecord _ _ h) fun _ => .given fun running hrunning => ?_
  rintro _ rfl hcalm
  refine Returns.program (fun request => ?_) body _ hrunning hcalm
  cases request with
  | ambient request => exact ambient_returns hworld request
  | view => exact fun running h _ => ⟨_, running, rfl, h.1⟩
  | description => exact fun running h _ => ⟨_, running, rfl, h.1⟩

end

/-- The cursor is at a place or behind it, and not behind the last around advice. -/
def CursorFrom (arounds : List (Step AroundBody)) (place : Nat) (running : Running) : Prop :=
  place ≤ running.invocation.cursor ∧ running.invocation.cursor ≤ arounds.length

/-- A before advice is running: its frame, which may not proceed, is the innermost one. -/
def BeforeRuns (arounds : List (Step AroundBody)) (running : Running) : Prop :=
  CursorFrom arounds 0 running ∧ ∃ frame outer,
    running.invocation.frames = frame :: outer ∧ frame.canProceed = false

section

variable {arounds : List (Step AroundBody)} {place : Nat}

/-- A before advice returns: it is refused to proceed. -/
theorem before_returns (step : Step BeforeBody) : Returns dial (CursorFrom arounds 0)
    (CursorFrom arounds 0) (before dial step) := by
  have hrefused : Returns dial (BeforeRuns arounds) (BeforeRuns arounds)
      (proceed (quiet Run.exhausted)) := by
    refine .given fun running hruns => ?_
    obtain ⟨hcursor, frame, outer, hframes, hcan⟩ := hruns
    rw [hframes]
    simp only [hcan]
    refine .bind (.modify ?_) fun _ => .refuse _ _
    rintro _ rfl
    exact ⟨hcursor, frame, outer, hframes, hcan⟩
  have hopened : Returns dial (CursorFrom arounds 0) (BeforeRuns arounds) (quiet (Run.modify
      (·.mapInvocation (·.openFrame .before ⟨step.label, step.sequence, false, false, false⟩)))) :=
    .modify fun running h => ⟨h, _, _, rfl, rfl⟩
  refine hopened.bind fun _ => ?_
  refine .bind (.program (answer_returns (fun _ _ h => h) (fun _ _ h => h) hrefused) step.body)
    fun result => ?_
  exact .bind (.modify fun running h => h.1) fun _ => .pure result

/-- Attempts to proceed return if what they proceed to does. -/
theorem proceed_returns {next : Watched Running CallResult}
    (hnext : Returns dial (CursorFrom arounds place) (CursorFrom arounds place) next) :
    Returns dial (CursorFrom arounds place) (CursorFrom arounds place) (proceed next) := by
  refine .given fun running hcursor => ?_
  split
  · rintro later rfl _
    exact ⟨_, later, rfl, hcursor⟩
  · split
    · exact .bind (.modify fun _ h => h ▸ hcursor) fun _ => .refuse _ _
    · split
      · exact .bind (.modify fun _ h => h ▸ hcursor) fun _ => .refuse _ _
      · exact .bind (.modify fun _ h => h ▸ hcursor) fun _ => hnext

/-- The target returns. -/
theorem callTarget_returns :
    Returns dial (CursorFrom arounds place) (CursorFrom arounds place) (callTarget dial) := by
  refine .given fun running hcursor => ?_
  split
  · exact .bind (.modify fun _ h => h ▸ hcursor) fun _ => .refuse _ _
  · exact .bind (.modify fun _ h => h ▸ hcursor) fun _ =>
      .program (fun request => ambient_returns (fun _ _ h => h) request) _

/-- An around advice returns if what it proceeds to does. -/
theorem around_returns {next : Watched Running CallResult}
    (hnext : Returns dial (CursorFrom arounds place) (CursorFrom arounds place) next)
    (step : Step AroundBody) :
    Returns dial (CursorFrom arounds place) (CursorFrom arounds place) (around dial next step) := by
  refine .modify_bind (fun _ h => h) fun _ => ?_
  refine .bind (.program (answer_returns (fun _ _ h => h) (fun _ _ h => h) (proceed_returns hnext))
    step.body) fun result => ?_
  have hclosed : Returns dial (CursorFrom arounds place) (CursorFrom arounds place)
      (quiet (Running.closeFrame step)) := fun running h _ => ⟨_, _, rfl, h⟩
  refine hclosed.bind fun frame => .bind (.read _) fun signature => fun running hcursor _ => ?_
  obtain ⟨judged, later, hran, hinvocation, _⟩ :=
    Running.judge_returns signature step.label frame result running
  refine ⟨judged, later, hran, ?_⟩
  unfold CursorFrom
  rwa [hinvocation]

/-- The nest returns from the cursor on. Each advice that is entered takes one from the bound and moves
the cursor forward, so the bound lasts until the cursor has passed all of them. -/
theorem proceedNext_returns (bound : Nat) (hbound : arounds.length < bound + place) :
    Returns dial (CursorFrom arounds place) (CursorFrom arounds place)
      (proceedNext dial arounds bound) := by
  induction bound generalizing place with
  | zero =>
    rintro running ⟨hplace, hlength⟩ _
    omega
  | succ bound ih =>
    refine .given fun running hcursor => ?_
    cases hstep : arounds[running.invocation.cursor]? with
    | none => exact fun later h hcalm => callTarget_returns later (h ▸ hcursor) hcalm
    | some step =>
      obtain ⟨hlt, _⟩ := List.getElem?_eq_some_iff.mp hstep
      have hinner : Returns dial (CursorFrom arounds (place + 1)) (CursorFrom arounds (place + 1))
          (proceedNext dial arounds bound) := ih (by omega)
      have hentered : Returns dial (· = running) (CursorFrom arounds (place + 1))
          (quiet (Run.modify (·.mapInvocation fun invocation =>
            { invocation with cursor := invocation.cursor + 1 }))) := by
        refine .modify ?_
        rintro _ rfl
        exact ⟨Nat.succ_le_succ hcursor.1, hlt⟩
      refine hentered.bind fun _ => fun later hlater hcalm => ?_
      obtain ⟨value, last, hran, hplace, hlength⟩ := around_returns hinner step later hlater hcalm
      exact ⟨value, last, hran, by omega, hlength⟩

end

/-- Runs that return do so one after the other, and the log does not move the cursor. -/
theorem composes_returns (arounds : List (Step AroundBody)) :
    Composes (Returns dial (CursorFrom arounds 0) (CursorFrom arounds 0)) where
  pure := .pure
  log _ _ _ h _ := ⟨_, _, rfl, h⟩
  bind := .bind

/-- A call in which no code breaks off returns. -/
theorem phases_returns (chain : Chain) :
    Returns dial (CursorFrom chain.arounds 0) (CursorFrom chain.arounds 0) (phases chain dial) := by
  have hphase : ∀ phase, Returns dial (CursorFrom chain.arounds 0) (CursorFrom chain.arounds 0)
      (enterPhase phase) := fun _ => .modify fun _ h => h
  have hnest : Returns dial (CursorFrom chain.arounds 0) (CursorFrom chain.arounds 0)
      (nest dial chain.arounds) :=
    .modify_bind (fun _ h => h) fun _ => proceedNext_returns _ (by omega)
  have hobserve : ∀ {α : Type} (kind : AdviceKind) (sequence : Nat) (body : ObservingProgram α),
      Returns dial (CursorFrom chain.arounds 0) (CursorFrom chain.arounds 0)
        (observe dial kind sequence body) := observe_returns (fun _ _ h => h) fun _ _ h => h
  have hcomposes := @composes_returns dial chain.arounds
  have hinner := hcomposes.inner hphase (fun step _ => before_returns step) hnest
  exact hcomposes.phases hphase hinner (fun _ _ => hobserve _ _ _) (fun _ _ _ => hobserve _ _ _)
    fun _ _ _ => hobserve _ _ _

end Watched

end Interception
