import Interception.Proofs.CallPhases
import Interception.Proofs.ProceedVerdicts

/-!
# With the target behind

A call is flagged when it hands arguments over to its target. So at every moment the flag tells whether arguments
were handed over so far.

Code has the target behind it if it belongs to an advice that has proceeded, to what such an advice waits for, or
to an advice at the end of the call. From then on nothing is handed over: every further attempt to proceed is
refused, that of the advice as well as those of the advices around it, each of which has proceeded as well, and
advices at the end of the call do not proceed at all. So what the call tells such code of its target is what it
tells at the end, however it ends.

Frames that a panic leaves open do not matter to this. An advice that goes on after the panic proceeds on the
innermost of them, so what it proceeds to finds that every frame has proceeded, as it would without the panic.
-/

namespace Interception

/-- What a call tells of its target: the flag, and the arguments that were handed over so far. -/
def Running.ofTarget (running : Running) : Bool × List Arguments :=
  (running.invocation.targetCalled, running.targets)

/-- The code in control has the target behind it: the innermost advice that is open has proceeded, or none is open
and an advice at the end of the call is running. -/
def Running.IsPast (running : Running) : Prop :=
  (∃ frame outer, running.invocation.frames = frame :: outer ∧ frame.proceeded = true) ∨
    ∃ kind, running.inControl? = some kind ∧ kind.isAfterFamily = true

namespace Running

/-- Whether the advices whose frames are open have proceeded, from the innermost on. -/
def haveProceeded (running : Running) : List Bool := running.invocation.frames.map Frame.proceeded

/-- The end of the call is not reached, and every open frame but the innermost has proceeded. -/
structure Nested (running : Running) : Prop where
  /-- No advice at the end of the call has begun. -/
  early : running.ending? = none
  /-- The outer frames have proceeded. -/
  outer : false ∉ running.haveProceeded.tail

/-- The end of the call is not reached, and every open frame has proceeded. -/
structure Settled (running : Running) : Prop where
  /-- No advice at the end of the call has begun. -/
  early : running.ending? = none
  /-- All frames have proceeded. -/
  all : false ∉ running.haveProceeded

/-- If every frame has proceeded, it remains so, and the call tells of its target what it told. -/
def Remains (running later : Running) : Prop :=
  running.Settled → later.Settled ∧ later.ofTarget = running.ofTarget

/-- Nothing has happened in a call that lets an advice proceed: no frame was opened, nothing was handed over, and
the end was not reached. -/
structure Recedes (running later : Running) : Prop where
  /-- No advice at the end of the call has begun. -/
  early : running.ending? = none → later.ending? = none
  /-- The call tells of its target what it told. -/
  told : later.ofTarget = running.ofTarget
  /-- The frames are those that were open, or the outer ones of them. -/
  frames : later.haveProceeded <:+ running.haveProceeded

variable {running later last : Running}

/-- Before the end of the call the frames tell which code is in control, and none of them belongs to an advice at
the end. -/
theorem inControl?_of_early (hearly : running.ending? = none) {kind : AdviceKind}
    (h : running.inControl? = some kind) : kind.isAfterFamily = false := by
  rw [inControl?, hearly] at h
  obtain ⟨frame, -, rfl⟩ := Option.map_eq_some_iff.mp h
  split <;> rfl

/-- Where every frame has proceeded, the outer ones have. -/
theorem Settled.nested (h : running.Settled) : running.Nested :=
  ⟨h.early, fun hmem => h.all (List.mem_of_mem_tail hmem)⟩

/-- Before the end of the call, code in control that has the target behind it finds that every frame has
proceeded. -/
theorem Nested.settled (h : running.Nested) (hpast : running.IsPast) : running.Settled := by
  refine ⟨h.early, ?_⟩
  have houter := h.outer
  rw [haveProceeded] at houter ⊢
  obtain ⟨frame, outer, hframes, hproceeded⟩ | ⟨kind, hcontrol, hafter⟩ := hpast
  · rw [hframes] at houter ⊢
    simpa [hproceeded] using houter
  · exact absurd hafter (Bool.eq_false_iff.mp (inControl?_of_early h.early hcontrol))

/-- Nothing was handed over in between if not from here to there and not from there on. -/
theorem Remains.trans (h : running.Remains later) (h' : later.Remains last) : running.Remains last := by
  intro hrunning
  obtain ⟨hlater, htold⟩ := h hrunning
  obtain ⟨hlast, htold'⟩ := h' hlater
  exact ⟨hlast, htold'.trans htold⟩

/-- Frames remain nested while no advice may proceed. -/
theorem Recedes.nested (h : running.Recedes later) (hrunning : running.Nested) : later.Nested := by
  refine ⟨h.early hrunning.early, fun hmem => hrunning.outer ?_⟩
  obtain ⟨inner, hinner⟩ := h.frames
  rw [← hinner]
  cases inner with
  | nil => exact hmem
  | cons => exact List.mem_append_right _ (List.mem_of_mem_tail hmem)

/-- Nothing is handed over while no advice may proceed. -/
theorem Recedes.remains (h : running.Recedes later) : running.Remains later := fun hrunning =>
  ⟨⟨h.early hrunning.early, fun hmem => hrunning.all (h.frames.mem hmem)⟩, h.told⟩

/-- The surroundings and the arguments do not matter. -/
theorem Undisturbed.recedes (h : running.Undisturbed later) : running.Recedes later := by
  obtain ⟨invocation, world⟩ := later
  obtain ⟨arguments, rfl⟩ := h
  exact ⟨id, rfl, List.suffix_rfl⟩

/-- Only handing over matters to what a call tells of its target. -/
theorem ofTarget_record (running : Running) (entry : JournalEntry)
    (hentry : ∀ arguments, entry ≠ .target arguments) :
    (running.mapInvocation (·.record entry)).ofTarget = running.ofTarget := by
  have hnone : entry.target? = none := by
    cases entry with
    | target arguments => exact absurd rfl (hentry arguments)
    | _ => rfl
  have htargets : (running.mapInvocation (·.record entry)).targets = running.targets := by
    simp [targets, mapInvocation, Invocation.record, hnone]
  exact congrArg (Prod.mk _) htargets

/-- Entries that tell neither of an advice nor of the target do not let an advice proceed. -/
theorem recedes_record (running : Running) {entry : JournalEntry} (hbegun : entry.begun? = none)
    (hentry : ∀ arguments, entry ≠ .target arguments) :
    running.Recedes (running.mapInvocation (·.record entry)) :=
  ⟨running.ending?_record_of_none hbegun, running.ofTarget_record entry hentry, List.suffix_rfl⟩

/-- The target is handed the arguments that are there. -/
theorem targets_enteringTarget (running : Running) :
    running.enteringTarget.targets = running.targets ++ [running.invocation.arguments] := by
  have hjournal : running.enteringTarget.invocation.journal.toList = running.invocation.journal.toList ++
      [.phase .targetCalled, .target running.invocation.arguments] := by
    simp [enteringTarget, mapInvocation, Invocation.enterPhase, Invocation.record]
  rw [targets, hjournal, List.filterMap_append]
  rfl

/-- No frame is opened or closed when the target takes the arguments. -/
theorem Settled.enteringTarget (h : running.Settled) : running.enteringTarget.Settled := by
  have hphase : (running.mapInvocation (·.enterPhase .targetCalled)).ending? = none :=
    running.ending?_record_of_none rfl h.early
  have htold : (JournalEntry.target running.invocation.arguments).begun? = none := rfl
  have htarget := Running.ending?_record_of_none _ htold hphase
  exact ⟨htarget, h.all⟩

end Running

namespace Watched

variable {α β : Type} {dial : Dialler}

/-- What only depends on what a call tells of its target lasts, unless arguments are handed over. -/
theorem lasting_of_ofTarget {invariant : Running → Prop}
    (h : ∀ running later : Running, later.ofTarget = running.ofTarget → invariant running → invariant later) :
    Lasting dial invariant where
  ambient _ _ := h _ _ rfl
  routing _ _ := h _ _ rfl
  log _ _ := h _ _ rfl
  steering _ _ _ _ := h _ _ rfl
  entry _ running hentry := h _ _ (running.ofTarget_record _ hentry)
  phase phase running := h _ _ (running.ofTarget_record _ fun _ => by nofun)

/-- What a call tells of its target lasts, unless arguments are handed over. -/
theorem lasting_ofTarget (told : Bool × List Arguments) : Lasting dial fun running => running.ofTarget = told :=
  lasting_of_ofTarget fun _ _ hsame htold => hsame.trans htold

/-- The flag tells whether arguments were handed over so far, at every moment and at the end. -/
theorem phases_flagged (chain : Chain) : Stays (fun running =>
    running.invocation.targetCalled = true ↔ running.targets ≠ []) (phases chain dial) := by
  have hlasting : Lasting dial fun running =>
      running.invocation.targetCalled = true ↔ running.targets ≠ [] := by
    refine lasting_of_ofTarget fun running later hsame hflagged => ?_
    obtain ⟨hcalled, htargets⟩ := Prod.mk.inj hsame
    rwa [hcalled, htargets]
  refine hlasting.phases (hlasting.callTarget fun running _ _ => iff_of_true rfl ?_) chain
  rw [running.targets_enteringTarget]
  exact List.append_ne_nil_of_right_ne_nil _ (List.cons_ne_nil _ _)

/-- The run leaves what the call tells of its target as it is, at every moment and at the end. -/
def LeavesTarget (watched : Watched Running α) (running : Running) : Prop :=
  (watched.run running).2.ofTarget = running.ofTarget ∧
    ∀ act now, watched.acts running act now → now.ofTarget = running.ofTarget

/-- Whenever code in control has the target behind it, the call tells of its target what it tells when the run
has ended. -/
def Concludes (watched : Watched Running α) (running : Running) : Prop :=
  ∀ act now, watched.acts running act now → now.IsPast → now.ofTarget = (watched.run running).2.ofTarget

/-- What lasts unless arguments are handed over is left as it is by what hands nothing over. -/
theorem leavesTarget_of_stays {watched : Watched Running α} {running : Running}
    (h : ∀ told, Stays (fun later => later.ofTarget = told) watched) : watched.LeavesTarget running :=
  h running.ofTarget running rfl

namespace Concludes

variable {watched first : Watched Running α} {next : α → Watched Running β} {running : Running}

/-- A run during which no code is in control. -/
theorem quiet (run : Run Running α) (running : Running) : (quiet run).Concludes running :=
  fun _ _ hacts => hacts.elim

/-- A run after which nothing is handed over. -/
theorem bind (hfirst : first.Concludes running)
    (hnext : ∀ value later, first.run running = (.returned value, later) → (next value).LeavesTarget later) :
    (first >>= next).Concludes running := by
  have hend : ((first >>= next).run running).2.ofTarget = (first.run running).2.ofTarget := by
    rw [run_bind, Run.bind_apply]
    generalize first.run running = ran at hnext
    obtain ⟨outcome, later⟩ := ran
    cases outcome with
    | returned value => exact (hnext value later rfl).1
    | _ => rfl
  rintro act now (hacts | ⟨value, later, hran, hacts⟩) hpast
  · rw [hend]
    exact hfirst act now hacts hpast
  · rw [hend, hran]
    exact (hnext value later hran).2 act now hacts

/-- A run before which no code in control has the target behind it. -/
theorem bind_of_early (hfirst : ∀ act now, first.acts running act now → ¬ now.IsPast)
    (hnext : ∀ value later, first.run running = (.returned value, later) → (next value).Concludes later) :
    (first >>= next).Concludes running := by
  rintro act now (hacts | ⟨value, later, hran, hacts⟩) hpast
  · exact absurd hpast (hfirst act now hacts)
  · rw [run_bind, Run.bind_apply, hran]
    exact hnext value later hran act now hacts hpast

/-- A run after a change of the state. -/
theorem modify_bind {f : Running → Running} {next : Unit → Watched Running β}
    (h : (next ()).Concludes (f running)) : (Watched.quiet (Run.modify f) >>= next).Concludes running := by
  refine bind_of_early (fun _ _ hacts => hacts.elim) fun _ _ hran => ?_
  cases hran
  exact h

end Concludes

/-- From states with the property, frames are nested at every moment of a run and at its end, and nothing is handed
over from a moment on at which every frame has proceeded. -/
structure Settles (before : Running → Prop) (watched : Watched Running α) : Prop where
  /-- Frames are nested at the end. -/
  ends : ∀ {running}, before running → (watched.run running).2.Nested
  /-- Frames are nested at every moment, and nothing is handed over afterwards if they have proceeded. -/
  moments : ∀ {running act now}, before running → watched.acts running act now →
    now.Nested ∧ now.Remains (watched.run running).2

/-- From states with nested frames, and nothing is handed over from the beginning on if they have proceeded. -/
structure Rests (watched : Watched Running α) : Prop extends Settles Running.Nested watched where
  /-- Nothing is handed over if every frame has proceeded. -/
  remains : ∀ {running : Running}, running.Nested → running.Remains (watched.run running).2

section

variable {start between : Running → Prop} {running : Running}

/-- Code that finds the target behind it sees what is so at the end. -/
theorem Settles.concludes {watched : Watched Running α} (h : Settles start watched) (hrunning : start running) :
    watched.Concludes running := fun _ _ hacts hpast =>
  have ⟨hnested, hremains⟩ := h.moments hrunning hacts
  ((hremains (hnested.settled hpast)).2).symm

/-- It is enough to look at the states one by one. -/
theorem Settles.given {choose : Running → Watched Running α}
    (h : ∀ running, start running → Settles (· = running) (choose running)) :
    Settles start (Watched.given choose) where
  ends hrunning := (h _ hrunning).ends rfl
  moments hrunning := (h _ hrunning).moments rfl

/-- From fewer states. -/
theorem Settles.weaken {watched : Watched Running α} (h : Settles between watched)
    (hstart : ∀ running, start running → between running) : Settles start watched where
  ends hrunning := h.ends (hstart _ hrunning)
  moments hrunning := h.moments (hstart _ hrunning)

/-- One run after the other, of which the second hands nothing over if all frames have proceeded. -/
theorem Settles.bind {first : Watched Running α} {next : α → Watched Running β} (hfirst : Settles start first)
    (hnext : ∀ value, Rests (next value)) : Settles start (first >>= next) := by
  have hend : ∀ {running}, start running → ((first >>= next).run running).2.Nested ∧
      (first.run running).2.Remains ((first >>= next).run running).2 := by
    intro running hrunning
    have hbetween := hfirst.ends hrunning
    rw [run_bind, Run.bind_apply]
    generalize first.run running = ran at hbetween
    obtain ⟨outcome, later⟩ := ran
    cases outcome with
    | returned value => exact ⟨(hnext value).ends hbetween, (hnext value).remains hbetween⟩
    | _ => exact ⟨hbetween, fun h => ⟨h, rfl⟩⟩
  refine ⟨fun hrunning => (hend hrunning).1, fun hrunning hacts => ?_⟩
  obtain hacts | ⟨value, later, hran, hacts⟩ := hacts
  · obtain ⟨hnested, hremains⟩ := hfirst.moments hrunning hacts
    exact ⟨hnested, hremains.trans (hend hrunning).2⟩
  · have hlater := hfirst.ends hrunning
    rw [hran] at hlater
    obtain ⟨hnested, hremains⟩ := (hnext value).moments hlater hacts
    rw [run_bind, Run.bind_apply, hran]
    exact ⟨hnested, hremains⟩

/-- A run after a change of the state. -/
theorem Settles.after_modify {f : Running → Running} {next : Unit → Watched Running β}
    (hf : ∀ running, start running → between (f running)) (hnext : Settles between (next ())) :
    Settles start (quiet (Run.modify f) >>= next) where
  ends hrunning := hnext.ends (hf _ hrunning)
  moments hrunning hacts := by
    obtain ⟨⟨⟩⟩ | ⟨_, _, hran, hacts⟩ := hacts
    cases hran
    exact hnext.moments (hf _ hrunning) hacts

/-- A run from a state during which no code is in control and nothing lets an advice proceed. -/
theorem Settles.idle {watched : Watched Running α} (hidle : ∀ act now, ¬ watched.acts running act now)
    (h : running.Recedes (watched.run running).2) (hrunning : running.Nested) :
    Settles (· = running) watched ∧ running.Remains (watched.run running).2 := by
  refine ⟨⟨?_, ?_⟩, h.remains⟩
  · rintro _ rfl
    exact h.nested hrunning
  · rintro _ act now rfl hacts
    exact absurd hacts (hidle act now)

namespace Rests

/-- A run during which no code is in control and nothing lets an advice proceed. -/
theorem quiet {run : Run Running α} (h : ∀ running : Running, running.Recedes (run running).2) :
    Rests (Watched.quiet run) where
  ends hrunning := (h _).nested hrunning
  moments _ hacts := hacts.elim
  remains _ := (h _).remains

/-- One run after the other. -/
theorem bind {first : Watched Running α} {next : α → Watched Running β} (hfirst : Rests first)
    (hnext : ∀ value, Rests (next value)) : Rests (first >>= next) where
  toSettles := hfirst.toSettles.bind hnext
  remains {running} hrunning := by
    have hbetween := hfirst.ends hrunning
    have hremains := hfirst.remains hrunning
    rw [run_bind, Run.bind_apply]
    generalize first.run running = ran at hbetween hremains
    obtain ⟨outcome, later⟩ := ran
    cases outcome with
    | returned value => exact hremains.trans ((hnext value).remains hbetween)
    | _ => exact hremains

/-- A run that returns after a panic as well. -/
theorem attempt {watched : Watched Running α} (h : Rests watched) : Rests watched.attempt := by
  have hlater : ∀ running, (watched.attempt.run running).2 = (watched.run running).2 :=
    Run.snd_attempt watched.run
  refine ⟨⟨fun hrunning => ?_, fun hrunning hacts => ?_⟩, fun hrunning => ?_⟩ <;> rw [hlater]
  · exact h.ends hrunning
  · exact h.moments hrunning hacts
  · exact h.remains hrunning

/-- A run that begins with code in control. -/
theorem acting {act : Act} {watched : Watched Running α} (h : Rests watched) : Rests (acting act watched) where
  ends := h.ends
  moments hrunning hacts := by
    obtain ⟨_, rfl⟩ | hacts := hacts
    · exact ⟨hrunning, h.remains hrunning⟩
    · exact h.moments hrunning hacts
  remains := h.remains

/-- A run that depends on the state in which it begins. -/
theorem given {choose : Running → Watched Running α} (h : ∀ running : Running, running.Nested →
      Settles (· = running) (choose running) ∧ running.Remains ((choose running).run running).2) :
    Rests (Watched.given choose) where
  toSettles := .given fun running hrunning => (h running hrunning).1
  remains hrunning := (h _ hrunning).2

/-- A program, if every answer to its requests rests. -/
theorem program {Request : Type} {Answer : Request → Type} {seen : Request → Steering}
    {answer : (request : Request) → Watched Running (Answer request)} (h : ∀ request, Rests (answer request))
    (program : Program Answer α) : Rests (Watched.program seen answer program) := by
  induction program with
  | done value => exact (quiet fun running => (Running.Undisturbed.refl running).recedes).acting
  | panic message => exact (quiet fun running => (Running.Undisturbed.refl running).recedes).acting
  | ask request next ih => exact ((h request).bind ih).acting
  | attempt request next ih => exact ((h request).attempt.bind ih).acting

end Rests

variable {next : Watched Running CallResult}

/-- Attempts to proceed rest if what they proceed to settles when every frame has proceeded. -/
theorem proceed_rests (hnext : Settles Running.Settled next) : Rests (proceed next) := by
  refine .given fun running hrunning => ?_
  cases hframes : running.invocation.frames with
  | nil => exact Settles.idle (fun _ _ => id) (Running.Undisturbed.refl running).recedes hrunning
  | cons frame outer =>
    obtain ⟨label, sequence, canProceed, proceeded, misused⟩ := frame
    have houter : false ∉ outer.map Frame.proceeded := by
      have houter := hrunning.outer
      rwa [Running.haveProceeded, hframes] at houter
    cases canProceed with
    | false =>
      refine Settles.idle ?_ (running.recedes_record rfl fun _ => nofun) hrunning
      rintro act now (⟨⟨⟩⟩ | ⟨_, _, _, ⟨⟩⟩)
    | true =>
      cases proceeded with
      | true =>
        have hrecord : running.Recedes (running.mapInvocation (·.record (.refused sequence))) :=
          running.recedes_record rfl fun _ => nofun
        have hkept : running.haveProceeded = true :: outer.map Frame.proceeded := by
          rw [Running.haveProceeded, hframes]
          rfl
        refine Settles.idle ?_ ⟨hrecord.early, hrecord.told, hkept ▸ List.suffix_rfl⟩ hrunning
        rintro act now (⟨⟨⟩⟩ | ⟨_, _, _, ⟨⟩⟩)
      | false =>
        -- The advice proceeds, and then its frame has proceeded as the outer ones have.
        refine ⟨.after_modify ?_ hnext, fun hsettled => ?_⟩
        · rintro _ rfl
          refine ⟨Running.ending?_record_of_none _ rfl hrunning.early, ?_⟩
          simpa [Running.haveProceeded, Running.mapInvocation] using houter
        · have hall := hsettled.all
          rw [Running.haveProceeded, hframes] at hall
          exact absurd List.mem_cons_self hall

/-- Requests other than to proceed are answered while no code is in control. -/
theorem answer_eq_quiet (goOn : Watched Running CallResult) {request : Steering} (h : request ≠ .proceed) :
    answer dial goOn request = quiet (Steering.answer dial goOn.run request) := by
  cases request with
  | proceed => exact absurd rfl h
  | _ => rfl

/-- Requests of a steering advice rest if what it proceeds to settles when every frame has proceeded. -/
theorem answer_rests (hnext : Settles Running.Settled next) (request : Steering) :
    Rests (answer dial (proceed next) request) := by
  by_cases hrequest : request = .proceed
  · subst hrequest
    exact proceed_rests hnext
  · rw [answer_eq_quiet _ hrequest]
    exact .quiet fun running => (Running.undisturbed_answer dial (proceed next).run hrequest running).recedes

/-- Entering the target settles when every frame has proceeded: arguments are handed over before code of the target
is in control. -/
theorem callTarget_settles : Settles Running.Settled (callTarget dial) := by
  refine .given fun running hrunning => ?_
  split
  · have hrecord : running.Recedes (running.mapInvocation (·.record .targetTaken)) :=
      running.recedes_record rfl fun _ => nofun
    refine (Settles.idle ?_ hrecord hrunning.nested).1
    rintro act now (⟨⟨⟩⟩ | ⟨_, _, _, ⟨⟩⟩)
  · next terminal _ =>
    have hambient : ∀ request : Ambient, Rests (quiet (Run.inWorld (request.answer dial))) := fun request =>
      .quiet fun running => ⟨id, rfl, List.suffix_rfl⟩
    refine .after_modify ?_ (Rests.program hambient (terminal running.invocation.arguments)).toSettles
    rintro _ rfl
    exact hrunning.enteringTarget.nested

/-- An around advice settles when every frame has proceeded, if what it proceeds to does. -/
theorem around_settles (hnext : Settles Running.Settled next) (step : Step AroundBody) :
    Settles Running.Settled (around dial next step) := by
  have hopened : ∀ running : Running, running.Settled → (running.mapInvocation
      (·.openFrame .around ⟨step.label, step.sequence, true, false, false⟩)).Nested := by
    intro running hrunning
    refine ⟨Running.ending?_record_of_begun? _ ?_ hrunning.early, hrunning.all⟩
    rintro _ ⟨⟩
    rfl
  refine .after_modify hopened (Rests.toSettles ?_)
  refine .bind (.program (answer_rests hnext) step.body) fun result => ?_
  have hclosed : Rests (quiet (Running.closeFrame step)) := .quiet fun running => by
    refine ⟨id, rfl, ?_⟩
    have htail : (Running.closeFrame step running).2.haveProceeded = running.haveProceeded.tail := List.map_tail
    rw [htail]
    exact List.tail_suffix _
  have hread : Rests (quiet (Run.read fun running => running.invocation.signature)) :=
    .quiet fun running => (Running.Undisturbed.refl running).recedes
  refine hclosed.bind fun frame => hread.bind fun signature => .quiet fun running => ?_
  obtain ⟨judged, later, hran, hinvocation, _⟩ := Running.judge_returns signature step.label frame result running
  rw [hran]
  exact Running.Undisturbed.recedes ⟨_, hinvocation⟩

/-- The nest settles from the cursor on, when every frame has proceeded. -/
theorem proceedNext_settles (arounds : List (Step AroundBody)) (bound : Nat) :
    Settles Running.Settled (proceedNext dial arounds bound) := by
  induction bound with
  | zero => exact ⟨fun hrunning => hrunning.nested, fun _ hacts => hacts.elim⟩
  | succ bound ih =>
    refine .given fun running hrunning => ?_
    split
    · refine .after_modify ?_ (around_settles ih _)
      rintro _ rfl
      exact ⟨hrunning.early, hrunning.all⟩
    · exact callTarget_settles.weaken fun _ hsame => hsame ▸ hrunning

/-- Neither an advice that may proceed nor one at the end of the call has begun, and none has proceeded. -/
structure Unproceeded (running : Running) : Prop where
  /-- No advice at the end of the call has begun. -/
  early : running.ending? = none
  /-- Open frames have not proceeded and may not. -/
  frames : ∀ frame ∈ running.invocation.frames, frame.canProceed = false ∧ frame.proceeded = false

/-- Then no code in control has the target behind it. -/
theorem Unproceeded.not_isPast (h : Unproceeded running) : ¬ running.IsPast := by
  rintro (⟨frame, outer, hframes, hproceeded⟩ | ⟨kind, hcontrol, hafter⟩)
  · have hframe := h.frames frame (hframes ▸ List.mem_cons_self)
    rw [hframe.2] at hproceeded
    cases hproceeded
  · exact absurd hafter (Bool.eq_false_iff.mp (Running.inControl?_of_early h.early hcontrol))

/-- No before advice proceeds. -/
theorem before_unproceeded (step : Step BeforeBody) : Stays Unproceeded (before dial step) := by
  have hrefused : Stays Unproceeded (proceed (quiet Run.exhausted)) := by
    rintro running hrunning
    cases hframes : running.invocation.frames with
    | nil =>
      simp only [proceed, given, hframes]
      exact ⟨hrunning, fun _ _ => False.elim⟩
    | cons frame outer =>
      obtain ⟨hcan, -⟩ := hrunning.frames frame (hframes ▸ List.mem_cons_self)
      simp only [proceed, given, hframes, hcan]
      refine ⟨⟨Running.ending?_record_of_none _ rfl hrunning.early, hrunning.frames⟩, ?_⟩
      rintro act now (⟨⟨⟩⟩ | ⟨_, _, _, ⟨⟩⟩)
  have hanswer : ∀ request, Stays Unproceeded (answer dial (proceed (quiet Run.exhausted)) request) := by
    intro request
    by_cases hrequest : request = .proceed
    · subst hrequest
      exact hrefused
    · rw [answer_eq_quiet _ hrequest]
      refine .quiet fun running hrunning => ?_
      obtain ⟨arguments, hlater⟩ :=
        Running.undisturbed_answer dial (proceed (quiet Run.exhausted)).run hrequest running
      constructor
      · rw [Running.ending?, hlater]
        exact hrunning.early
      · rw [hlater]
        exact hrunning.frames
  have hopened : Stays Unproceeded (quiet (Run.modify
      (·.mapInvocation (·.openFrame .before ⟨step.label, step.sequence, false, false, false⟩)))) := by
    refine .quiet (Run.Keeps.modify fun running hrunning => ⟨?_, ?_⟩)
    · refine Running.ending?_record_of_begun? _ ?_ hrunning.early
      rintro _ ⟨⟩
      rfl
    · exact List.forall_mem_cons.mpr ⟨⟨rfl, rfl⟩, hrunning.frames⟩
  refine .bind hopened fun _ => .bind (.program hanswer step.body) fun result => ?_
  refine .bind (.quiet (Run.Keeps.modify fun running hrunning => ⟨hrunning.early, fun frame hframe => ?_⟩)) fun _ =>
    .pure result
  exact hrunning.frames frame (List.mem_of_mem_tail hframe)

/-- Up to the end of its nest a call concludes, if it is at its beginning. -/
theorem inner_concludes (chain : Chain) (hstart : running.Stands [.entered] []) :
    (inner chain dial).Concludes running := by
  have hcomposes : Composes (Stays Unproceeded) :=
    { pure := .pure
      log := fun _ _ => .quiet fun _ h => ⟨h.early, h.frames⟩
      bind := .bind }
  have hbegun : Unproceeded running := ⟨hstart.early (by decide), by simp [hstart.frames]⟩
  have hearly : ∀ act now, (befores dial chain.befores).acts running act now → ¬ now.IsPast := fun act now hacts =>
    ((hcomposes.befores fun step _ => before_unproceeded step) running hbegun |>.2 act now hacts).not_isPast
  have hbefores : Passes (Running.Stands [.entered] []) (fun _ => Running.Stands [.entered] []) (fun _ => True)
      (befores dial chain.befores) :=
    (Passes.composes fun _ _ h => { h with }).befores fun step _ => before_passes step
  refine .bind_of_early hearly fun result later hran => ?_
  cases result with
  | error error => exact .quiet _ _
  | ok =>
    -- No frame is open when the nest begins, so all of them have proceeded.
    have hlater := hbefores.returns hstart hran
    refine .modify_bind (.modify_bind ((proceedNext_settles _ _).concludes ⟨?_, ?_⟩))
    · exact Running.ending?_record_of_none _ rfl
        (Running.ending?_record_of_none _ rfl (hlater.early (by decide)))
    · change false ∉ later.invocation.frames.map Frame.proceeded
      simp [hlater.frames]

/-- A call concludes: what comes after its nest hands nothing over. -/
theorem phases_concludes (chain : Chain) (hstart : running.Stands [.entered] []) :
    (phases chain dial).Concludes running :=
  (inner_concludes chain hstart).bind fun outcome _ _ =>
    leavesTarget_of_stays fun told => (lasting_ofTarget told).closing chain outcome

end

end Watched

end Interception
