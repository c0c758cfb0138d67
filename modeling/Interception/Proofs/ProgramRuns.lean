import Interception.Invocation.State

/-!
# Properties of runs that programs inherit from their handlers

A run of a program consists of answers to its requests. So what every answer keeps, the run keeps as well:
an invariant of the state, a relation between the states before and after, or an agreement with the
answers of another handler on another kind of state. The requests of an advice that steers a call touch
nothing but the surroundings and the arguments, unless it proceeds. Runs that return may be held to a
stronger relation than runs that break off, which leave things half done. So where an answer breaks off, a
program inherits only what is left, and some things hold only of programs that do not go on from there, or
that avoid requests of a certain kind.
-/

namespace Interception

variable {σ τ α β : Type}

/-- Of three runs, the first two may be put together or the last two. -/
theorem Run.bind_assoc {γ : Type} (first : Run σ α) (second : α → Run σ β) (third : β → Run σ γ) :
    (first >>= second) >>= third = first >>= fun value => second value >>= third := by
  funext s
  simp only [Run.bind_apply]
  generalize first s = ran
  obtain ⟨outcome, later⟩ := ran
  cases outcome <;> rfl

/-- An attempt returns how the run ended, unless that was given up. -/
theorem Run.attempt_eq_returned_iff {run : Run σ α} {s t : σ} {reply : Except String α} :
    run.attempt s = (.returned reply, t) ↔ run s = (.ofAttempt reply, t) := by
  rw [Run.attempt_apply]
  generalize run s = ran
  obtain ⟨outcome, later⟩ := ran
  cases outcome <;> cases reply <;> simp [Outcome.ofAttempt]

/-- An attempt leaves the state as the run does. -/
theorem Run.snd_attempt (run : Run σ α) (s : σ) : (run.attempt s).2 = (run s).2 := by
  rw [Run.attempt_apply]
  generalize run s = ran
  obtain ⟨outcome, later⟩ := ran
  cases outcome <;> rfl

/-- A program that goes on only after a panic in other requests than those of a certain kind. A panic in one of
the kind breaks the program off. -/
inductive Program.Unwinds {Request : Type} {Answer : Request → Type} (final : Request → Prop) :
    Program Answer α → Prop where
  /-- It is finished. -/
  | done (value : α) : Unwinds final (.done value)
  /-- It breaks off. -/
  | panic (message : String) : Unwinds final (.panic message)
  /-- It makes a request. -/
  | ask (request : Request) {next : Answer request → Program Answer α} :
    (∀ reply, Unwinds final (next reply)) → Unwinds final (.ask request next)
  /-- It attempts a request of another kind. -/
  | attempt {request : Request} {next : Except String (Answer request) → Program Answer α} :
    ¬ final request → (∀ reply, Unwinds final (next reply)) → Unwinds final (.attempt request next)

/-- An advice that never goes on after a panic of what it proceeded to. -/
abbrev SteeringProgram.Unwinds (program : SteeringProgram α) : Prop :=
  Program.Unwinds (· = Steering.proceed) program

/-- Two runs ended alike, with the same value if they returned. The states are then in the first relation,
and in the second one if the runs broke off. -/
inductive Agree (returned brokenOff : σ → τ → Prop) : Outcome α × σ → Outcome α × τ → Prop where
  /-- Both runs returned. -/
  | returned {value : α} {s : σ} {t : τ} :
    returned s t → Agree returned brokenOff (.returned value, s) (.returned value, t)
  /-- Both runs panicked. -/
  | panicked {message : String} {s : σ} {t : τ} :
    brokenOff s t → Agree returned brokenOff (.panicked message, s) (.panicked message, t)
  /-- Both runs were given up. -/
  | exhausted {s : σ} {t : τ} :
    brokenOff s t → Agree returned brokenOff (.exhausted, s) (.exhausted, t)

namespace Agree

variable {R R' Q Q' : σ → τ → Prop}

/-- Runs that agree, followed by runs that agree from every pair of states they return in, agree. -/
theorem bind {first : Run σ α} {second : Run τ α} {next : α → Run σ β} {next' : α → Run τ β}
    {s : σ} {t : τ} (h : Agree R Q (first s) (second t))
    (hnext : ∀ value s t, R s t → Agree R' Q (next value s) (next' value t)) :
    Agree R' Q ((first >>= next) s) ((second >>= next') t) := by
  rw [Run.bind_apply, Run.bind_apply]
  generalize first s = x at h
  generalize second t = y at h
  cases h with
  | returned h => exact hnext _ _ _ h
  | panicked h => exact .panicked h
  | exhausted h => exact .exhausted h

/-- Runs that agree do so if they return after a panic as well, from where they broke off. -/
theorem attempt {x : Run σ α} {y : Run τ α} {s : σ} {t : τ} (h : Agree R R (x s) (y t))
    (hbroken : ∀ s t, R s t → Q s t) : Agree R Q (x.attempt s) (y.attempt t) := by
  rw [Run.attempt_apply, Run.attempt_apply]
  generalize x s = ran at h
  generalize y t = ran' at h
  cases h with
  | returned h => exact .returned h
  | panicked h => exact .returned h
  | exhausted h => exact .exhausted (hbroken _ _ h)

/-- Programs agree under handlers whose answers agree, if they go on only after a panic that keeps the first
relation. -/
theorem program {Request : Type} {Answer : Request → Type} {final : Request → Prop}
    {answer : (request : Request) → Run σ (Answer request)}
    {answer' : (request : Request) → Run τ (Answer request)}
    (h : ∀ request s t, R s t → Agree R Q (answer request s) (answer' request t))
    (hother : ∀ request s t, ¬ final request → R s t → Agree R R (answer request s) (answer' request t))
    {program : Program Answer α} (hunwinds : program.Unwinds final) {s : σ} {t : τ} (hst : R s t)
    (hpanic : ∀ s t, R s t → Q s t) : Agree R Q (program.run answer s) (program.run answer' t) := by
  induction hunwinds generalizing s t with
  | done value => exact .returned hst
  | panic message => exact .panicked (hpanic s t hst)
  | ask request _ ih => exact (h request s t hst).bind fun reply _ _ hst' => ih reply hst'
  | attempt hrequest _ ih =>
    exact ((hother _ s t hrequest hst).attempt hpanic).bind fun reply _ _ hst' => ih reply hst'

/-- The second state may be mapped along with weaker relations. -/
theorem mapRight {υ : Type} {R'' Q'' : σ → υ → Prop} {f : τ → υ} {x : Outcome α × σ}
    {y : Outcome α × τ} (h : Agree R Q x y) (hR : ∀ s t, R s t → R'' s (f t))
    (hQ : ∀ s t, Q s t → Q'' s (f t)) : Agree R'' Q'' x (y.1, f y.2) := by
  cases h with
  | returned h => exact .returned (hR _ _ h)
  | panicked h => exact .panicked (hQ _ _ h)
  | exhausted h => exact .exhausted (hQ _ _ h)

/-- Runs that agree do so with weaker relations. -/
theorem weaken {R'' Q'' : σ → τ → Prop} {x : Outcome α × σ} {y : Outcome α × τ} (h : Agree R Q x y)
    (hR : ∀ s t, R s t → R'' s t) (hQ : ∀ s t, Q s t → Q'' s t) : Agree R'' Q'' x y :=
  h.mapRight (f := fun t => t) hR hQ

/-- If the second state is always the image of the first, the second run is the image of the first. -/
theorem map_eq {f : σ → τ} {x : Outcome α × σ} {y : Outcome α × τ} (h : Agree R Q x y)
    (hR : ∀ s t, R s t → f s = t) (hQ : ∀ s t, Q s t → f s = t) : (x.1, f x.2) = y := by
  cases h with
  | returned h => rw [hR _ _ h]
  | panicked h => rw [hQ _ _ h]
  | exhausted h => rw [hQ _ _ h]

end Agree

/-- Whatever the run does, it leads from states with the property to states with the property. -/
def Run.Keeps (invariant : σ → Prop) (run : Run σ α) : Prop :=
  ∀ s, invariant s → invariant (run s).2

namespace Run.Keeps

variable {invariant : σ → Prop}

/-- Returning keeps every property. -/
theorem pure (value : α) : Run.Keeps invariant (Pure.pure value : Run σ α) := fun _ hs => hs

/-- Reading keeps every property. -/
theorem read (f : σ → α) : Run.Keeps invariant (Run.read f) := fun _ hs => hs

/-- A change keeps a property if the changed state has it. -/
theorem modify {f : σ → σ} (h : ∀ s, invariant s → invariant (f s)) :
    Run.Keeps invariant (Run.modify f) := h

/-- What two runs keep, they keep one after the other. -/
theorem bind {first : Run σ α} {next : α → Run σ β} (hfirst : Run.Keeps invariant first)
    (hnext : ∀ value, Run.Keeps invariant (next value)) :
    Run.Keeps invariant (first >>= next) := by
  intro s hs
  rw [Run.bind_apply]
  have hs' := hfirst s hs
  generalize first s = x at hs'
  obtain ⟨outcome, s'⟩ := x
  cases outcome with
  | returned value => exact hnext value s' hs'
  | panicked message => exact hs'
  | exhausted => exact hs'

/-- What a run keeps, it keeps if it returns after a panic as well. -/
theorem attempt {run : Run σ α} (h : Run.Keeps invariant run) : Run.Keeps invariant run.attempt := by
  intro s hs
  rw [Run.snd_attempt]
  exact h s hs

/-- What every answer keeps, a program keeps. -/
theorem program {Request : Type} {Answer : Request → Type}
    {answer : (request : Request) → Run σ (Answer request)}
    (h : ∀ request, Run.Keeps invariant (answer request)) (program : Program Answer α) :
    Run.Keeps invariant (program.run answer) := by
  induction program with
  | done value => exact Run.Keeps.pure value
  | panic message => exact fun _ hs => hs
  | ask request next ih => exact bind (h request) ih
  | attempt request next ih => exact bind (h request).attempt ih

/-- What neither the surroundings nor the arguments of a call matter for is kept by every request of an
advice that steers the call, if proceeding keeps it. -/
theorem steering {invariant : Running → Prop} {goOn : Run Running (Except AopError Value)}
    (hworld : ∀ running world, invariant running → invariant { running with world })
    (harguments : ∀ running arguments, invariant running →
      invariant (running.mapInvocation ({ · with arguments })))
    (hproceed : Run.Keeps invariant goOn) (dial : Dialler) (request : Steering) :
    Run.Keeps invariant (Steering.answer dial goOn request) := by
  cases request with
  | ambient request => exact fun running h => hworld running _ h
  | view => exact read _
  | description => exact read _
  | setArguments arguments => exact modify fun running h => harguments running arguments h
  | setRoutingKey key => exact modify fun running h => hworld running _ h
  | proceed => exact hproceed

end Run.Keeps

section

variable {Request : Type} {Answer : Request → Type}

/-- A program that makes no request of a certain kind, whatever the answers are. -/
inductive Program.Avoids (avoided : Request → Prop) : Program Answer α → Prop where
  /-- It is finished. -/
  | done (value : α) : Avoids avoided (.done value)
  /-- It breaks off. -/
  | panic (message : String) : Avoids avoided (.panic message)
  /-- It makes a request of another kind. -/
  | ask {request : Request} {next : Answer request → Program Answer α} : ¬ avoided request →
    (∀ reply, Avoids avoided (next reply)) → Avoids avoided (.ask request next)
  /-- It attempts a request of another kind. -/
  | attempt {request : Request} {next : Except String (Answer request) → Program Answer α} :
    ¬ avoided request → (∀ reply, Avoids avoided (next reply)) → Avoids avoided (.attempt request next)

/-- A request of another kind is no request of the kind. -/
theorem Program.Avoids.request {avoided : Request → Prop} {request : Request} (h : ¬ avoided request) :
    (Program.request request : Program Answer (Answer request)).Avoids avoided := .ask h .done

/-- Programs that avoid requests of a kind avoid them one after the other. -/
theorem Program.Avoids.bind {avoided : Request → Prop} {first : Program Answer α}
    {next : α → Program Answer β} (h : first.Avoids avoided) (hnext : ∀ value, (next value).Avoids avoided) :
    (first >>= next).Avoids avoided := by
  induction h with
  | done value => exact hnext value
  | panic message => exact .panic message
  | ask hrequest _ ih => exact .ask hrequest ih
  | attempt hrequest _ ih => exact .attempt hrequest ih

/-- Programs that go on after no panic of a kind do so one after the other. -/
theorem Program.Unwinds.bind {final : Request → Prop} {first : Program Answer α}
    {next : α → Program Answer β} (h : first.Unwinds final) (hnext : ∀ value, (next value).Unwinds final) :
    (first >>= next).Unwinds final := by
  induction h with
  | done value => exact hnext value
  | panic message => exact .panic message
  | ask request _ ih => exact .ask request ih
  | attempt hrequest _ ih => exact .attempt hrequest ih

end

end Interception
