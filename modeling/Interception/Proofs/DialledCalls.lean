import Interception.Chain
import Interception.Proofs.MeterFamilies
import Interception.Proofs.ProgramRuns

/-!
# Counters and nested calls

The calls that code makes by name are listed in the order in which it makes them, each with the surroundings
in which it is made. The lists follow the runs: what a program lists is what it asks for, with the answers that
it gets, and runs one after the other list what each of them lists.

Code that does not count in a meter family leaves the counters of the family to the calls it makes. If every
call by name lets a counter grow by a certain weight, a run lets it grow by the weights of the calls that it
lists, however it ends. This carries over from requests to programs, and from the advices to the phases of a
call in which they run.
-/

namespace Interception

variable {σ α β ε : Type}

/-- A call of a method by name, with the surroundings in which it is made. -/
structure DialledCall where
  /-- The call. -/
  call : ProxyCall
  /-- The surroundings. -/
  world : World

/-- What is read from the value that a run returns and from the state in which it does. -/
def Run.reading (run : Run σ α) (otherwise : β) (read : α → σ → β) (s : σ) : β :=
  match run s with
  | (.returned value, later) => read value later
  | _ => otherwise

/-- Reading is followed by any map. -/
theorem Run.map_reading {γ : Type} (f : β → γ) (run : Run σ α) (otherwise : β) (read : α → σ → β)
    (s : σ) : f (run.reading otherwise read s) =
      run.reading (f otherwise) (fun value later => f (read value later)) s := by
  unfold Run.reading
  split <;> rfl

/-- Where a run returned, it is read. -/
theorem Run.reading_of_returned {run : Run σ α} {s later : σ} {value : α} (otherwise : β) (read : α → σ → β)
    (h : run s = (.returned value, later)) : run.reading otherwise read s = read value later := by
  rw [reading, h]

/-- Where a run did not return, nothing is read. -/
theorem Run.reading_of_not_returned {run : Run σ α} {s : σ} (otherwise : β) (read : α → σ → β)
    (h : ∀ value, (run s).1 ≠ .returned value) : run.reading otherwise read s = otherwise := by
  unfold reading
  split
  · next heq => exact absurd (congrArg Prod.fst heq) (h _)
  · rfl

section

variable {Request : Type} {Answer : Request → Type}

/-- What a run of a program lists, if it is known what is listed for each of its requests. -/
def Program.trace (answer : (request : Request) → Run σ (Answer request))
    (during : Request → σ → List ε) : Program Answer α → σ → List ε
  | .done _, _ => []
  | .panic _, _ => []
  | .ask request next, s =>
    during request s ++ (answer request).reading [] (fun reply => (next reply).trace answer during) s
  | .attempt request next, s => during request s ++
    (answer request).attempt.reading [] (fun reply => (next reply).trace answer during) s

end

/-- The calls that a request of any code makes. -/
def Ambient.calls : Ambient → World → List DialledCall
  | .call request, world => [⟨request, world⟩]
  | _, _ => []

/-- The calls that a request of an advice makes that only sees the call it belongs to. -/
def Observing.calls : Observing → World → List DialledCall
  | .ambient request, world => request.calls world
  | _, _ => []

/-- The calls that a request of an advice makes that steers the call it belongs to, unless it proceeds. -/
def Steering.calls : Steering → World → List DialledCall
  | .ambient request, world => request.calls world
  | _, _ => []

/-- A request to count in a meter family. -/
def Ambient.CountsIn (family : Nat) : Ambient → Prop
  | .count number _ _ => number = family
  | _ => False

/-- A request of an advice that only sees the call to count in a meter family. -/
def Observing.CountsIn (family : Nat) : Observing → Prop
  | .ambient request => request.CountsIn family
  | _ => False

/-- A request of an advice that steers the call to count in a meter family. -/
def Steering.CountsIn (family : Nat) : Steering → Prop
  | .ambient request => request.CountsIn family
  | _ => False

/-- The calls that a before advice makes. -/
def Running.beforeCalls (dial : Dialler) (step : Step BeforeBody) (running : Running) : List DialledCall :=
  step.body.trace (Steering.answer dial (proceed Run.exhausted))
    (fun request running => request.calls running.world)
    (running.mapInvocation (·.openFrame .before ⟨step.label, step.sequence, false, false, false⟩))

namespace Chain

/-- The calls that before advices make, up to the first that fails. -/
def beforesCalls (dial : Dialler) : List (Step BeforeBody) → Running → List DialledCall
  | [], _ => []
  | step :: steps, running =>
    Running.beforeCalls dial step running ++ (Running.runBefore dial step).reading []
      (fun result => match result with
        | .ok () => beforesCalls dial steps
        | .error _ => fun _ => []) running

/-- The calls that an advice makes at the end of the call it belongs to. -/
def observeCalls (dial : Dialler) (kind : AdviceKind) (sequence : Nat) (program : ObservingProgram α)
    (running : Running) : List DialledCall :=
  program.trace
    (Observing.answer dial (running.invocation.record (.advice kind sequence))) Observing.calls running.world

/-- The calls that after advices make, up to the first that fails. -/
def aftersCalls (dial : Dialler) : List (Step AfterBody) → Running → List DialledCall
  | [], _ => []
  | step :: steps, running =>
    observeCalls dial .after step.sequence step.body running ++
      (observe dial .after step.sequence step.body).reading []
        (fun result => match result with
          | .ok () => aftersCalls dial steps
          | .error _ => fun _ => []) running

/-- The calls that the advices for a returned value make, up to the first that fails. -/
def afterReturningsCalls (dial : Dialler) (value : Value) :
    List (Step AfterReturningBody) → Running → List DialledCall
  | [], _ => []
  | step :: steps, running =>
    observeCalls dial .afterReturning step.sequence (step.body value) running ++
      (observe dial .afterReturning step.sequence (step.body value)).reading []
        (fun result => match result with
          | .ok () => afterReturningsCalls dial value steps
          | .error _ => fun _ => []) running

/-- The calls that the advices for an error make, up to the first that fails. -/
def afterThrowingsCalls (dial : Dialler) (error : AopError) :
    (swallowed : Option Value) → List (Step AfterThrowingBody) → Running → List DialledCall
  | _, [], _ => []
  | swallowed, step :: steps, running =>
    observeCalls dial .afterThrowing step.sequence (step.body error) running ++
      (observe dial .afterThrowing step.sequence (step.body error)).reading []
        (fun result => match result, swallowed with
          | .error _, _ => fun _ => []
          | .ok .rethrow, swallowed => afterThrowingsCalls dial error swallowed steps
          | .ok (.swallow _), some earlier => afterThrowingsCalls dial error (some earlier) steps
          | .ok (.swallow value), none => fun running =>
            afterThrowingsCalls dial error (some value) steps
              (running.log (.debug ("advice '" ++ step.label ++ "' swallowed error on " ++
                running.invocation.signature.display ++ ": " ++ error.message)))) running

/-- The calls that the advices make that depend on how the call ended. -/
def endingCalls (chain : Chain) (dial : Dialler) (outcome : CallResult) (running : Running) :
    List DialledCall :=
  match outcome with
  | .ok value => afterReturningsCalls dial value chain.afterReturnings
    (running.mapInvocation (·.enterPhase .afterReturning))
  | .error error => afterThrowingsCalls dial error none chain.afterThrowings
    (running.mapInvocation (·.enterPhase .afterThrowing))

end Chain

/-- What some calls weigh together. -/
def weigh (weight : DialledCall → Nat) : List DialledCall → Nat
  | [] => 0
  | call :: calls => weight call + weigh weight calls

@[simp] theorem weigh_nil (weight : DialledCall → Nat) : weigh weight [] = 0 := rfl

@[simp] theorem weigh_append (weight : DialledCall → Nat) (calls later : List DialledCall) :
    weigh weight (calls ++ later) = weigh weight calls + weigh weight later := by
  induction calls with
  | nil => exact (Nat.zero_add _).symm
  | cons call calls ih => rw [List.cons_append, weigh, weigh, ih, Nat.add_assoc]

/-- What is counted in lists that belong to calls is what the calls weigh, if each weighs what is counted in
its list. -/
theorem countP_flatMap_eq_weigh (p : ε → Bool) (listed : DialledCall → List ε)
    (calls : List DialledCall) :
    (calls.flatMap listed).countP p = weigh (fun call => (listed call).countP p) calls := by
  induction calls with
  | nil => rfl
  | cons call calls ih => rw [List.flatMap_cons, List.countP_append, ih, weigh]

/-- One counter of a meter family. -/
structure Counter where
  /-- The number of the family. -/
  family : Nat
  /-- The method whose finished calls are counted. -/
  method : String
  /-- Whether it is for calls that succeeded. -/
  succeeded : Bool

namespace Counter

/-- The number that the counter shows, if there is such a family. -/
def shown (counter : Counter) (world : World) : Option Nat :=
  world.meters.families[counter.family]?.map (·.counter counter.method counter.succeeded)

/-- What a counter of a registered family shows is what the family has counted. -/
theorem counter_of_shown (counter : Counter) {world later : World} {growth : Nat}
    (hfamily : counter.family < world.meters.families.length)
    (h : counter.shown later = (counter.shown world).map (· + growth)) :
    later.meters.counter counter.family counter.method counter.succeeded =
      world.meters.counter counter.family counter.method counter.succeeded + growth := by
  have hcounter : ∀ world : World,
      world.meters.counter counter.family counter.method counter.succeeded =
        (counter.shown world).getD 0 := by
    intro world
    unfold shown Meters.counter
    cases world.meters.families[counter.family]? <;> rfl
  rw [hcounter, hcounter, h, shown, List.getElem?_eq_getElem hfamily]
  rfl

/-- In a run the counter grows by a number that depends on the state in which the run begins. -/
def Grows (counter : Counter) (surroundings : σ → World) (run : Run σ α) (growth : σ → Nat) : Prop :=
  ∀ s, counter.shown (surroundings (run s).2) = (counter.shown (surroundings s)).map (· + growth s)

/-- In a run the counter grows by the weights of the calls that the run lists. -/
def Follows (counter : Counter) (weight : DialledCall → Nat) (surroundings : σ → World) (run : Run σ α)
    (calls : σ → List DialledCall) : Prop :=
  counter.Grows surroundings run fun s => weigh weight (calls s)

variable {counter : Counter} {weight : DialledCall → Nat} {surroundings : σ → World}

/-- Growing twice is growing by both numbers. -/
theorem map_add_map_add (number : Option Nat) (m n : Nat) :
    (number.map (· + m)).map (· + n) = number.map (· + (m + n)) := by
  simp [Function.comp_def, Nat.add_assoc]

/-- While the meters stay as they are, nothing grows. -/
theorem shown_of_meters_eq {world later : World} (h : later.meters = world.meters) :
    counter.shown later = (counter.shown world).map (· + 0) := by
  rw [shown, h, shown]
  simp [Function.comp_def]

/-- If the counter grows in a run and in what comes after it if it returns, it grows by both numbers. -/
theorem shown_bind {first : Run σ α} {next : α → Run σ β} {s : σ} {growth : Nat} {later : α → σ → Nat}
    (h : counter.shown (surroundings (first s).2) = (counter.shown (surroundings s)).map (· + growth))
    (hnext : ∀ value between, first s = (.returned value, between) →
      counter.shown (surroundings (next value between).2) =
        (counter.shown (surroundings between)).map (· + later value between)) :
    counter.shown (surroundings ((first >>= next) s).2) =
      (counter.shown (surroundings s)).map (· + (growth + first.reading 0 later s)) := by
  simp only [Run.bind_apply, Run.reading]
  generalize first s = ran at h hnext
  obtain ⟨outcome, between⟩ := ran
  cases outcome with
  | returned value =>
    have hsecond := hnext value between rfl
    rw [h, map_add_map_add] at hsecond
    exact hsecond
  | panicked message => exact h
  | exhausted => exact h

/-- In runs one after the other the counter grows in each of them. -/
theorem Grows.bind {first : Run σ α} {next : α → Run σ β} {growth : σ → Nat} {later : α → σ → Nat}
    (h : counter.Grows surroundings first growth)
    (hnext : ∀ value, counter.Grows surroundings (next value) (later value)) :
    counter.Grows surroundings (first >>= next) fun s => growth s + first.reading 0 later s :=
  fun s => shown_bind (h s) fun value between _ => hnext value between

namespace Follows

/-- Runs that leave the meters as they are and list no calls. -/
theorem quiet {run : Run σ α} (h : ∀ s, (surroundings (run s).2).meters = (surroundings s).meters) :
    counter.Follows weight surroundings run fun _ => [] :=
  fun s => shown_of_meters_eq (h s)

/-- Returning makes no calls. -/
theorem pure (value : α) :
    counter.Follows weight surroundings (Pure.pure value : Run σ α) fun _ => [] :=
  quiet fun _ => rfl

/-- Runs one after the other list what each of them lists. -/
theorem bind {first : Run σ α} {next : α → Run σ β} {calls : σ → List DialledCall}
    {later : α → σ → List DialledCall} (h : counter.Follows weight surroundings first calls)
    (hnext : ∀ value, counter.Follows weight surroundings (next value) (later value)) :
    counter.Follows weight surroundings (first >>= next) fun s => calls s ++ first.reading [] later s := by
  intro s
  change _ = (counter.shown (surroundings s)).map (· + weigh weight (calls s ++ first.reading [] later s))
  rw [weigh_append, Run.map_reading (weigh weight)]
  exact Grows.bind h hnext s

/-- A run lists the same if it returns after a panic as well. -/
theorem attempt {run : Run σ α} {calls : σ → List DialledCall}
    (h : counter.Follows weight surroundings run calls) :
    counter.Follows weight surroundings run.attempt calls := by
  intro s
  rw [Run.snd_attempt]
  exact h s

/-- What comes after a run and leaves the meters as they are adds no calls. -/
theorem bind_quiet {first : Run σ α} {next : α → Run σ β} {calls : σ → List DialledCall}
    (h : counter.Follows weight surroundings first calls)
    (hnext : ∀ value s, (surroundings (next value s).2).meters = (surroundings s).meters) :
    counter.Follows weight surroundings (first >>= next) calls := by
  intro s
  have hfirst := h s
  rw [Run.bind_apply]
  generalize first s = ran at hfirst
  obtain ⟨outcome, between⟩ := ran
  cases outcome with
  | returned value =>
    simp only [shown, hnext]
    exact hfirst
  | panicked message => exact hfirst
  | exhausted => exact hfirst

/-- The run of a program lists what its requests list. -/
theorem program {Request : Type} {Answer : Request → Type} {avoided : Request → Prop}
    {answer : (request : Request) → Run σ (Answer request)} {during : Request → σ → List DialledCall}
    (h : ∀ request, ¬ avoided request →
      counter.Follows weight surroundings (answer request) (during request))
    {program : Program Answer α} (havoids : program.Avoids avoided) :
    counter.Follows weight surroundings (program.run answer) (program.trace answer during) := by
  induction havoids with
  | done value => exact pure value
  | panic message => exact fun s => shown_of_meters_eq rfl
  | ask hrequest _ ih => exact bind (h _ hrequest) ih
  | attempt hrequest _ ih => exact bind (h _ hrequest).attempt ih

/-- In the surroundings of a call a run lists what it lists in them. -/
theorem inWorld {run : Run World α} {calls : World → List DialledCall}
    (h : counter.Follows weight id run calls) :
    counter.Follows weight Running.world (Run.inWorld run) fun running => calls running.world :=
  fun running => h running.world

end Follows

end Counter

/-- In every call by name the counter grows by the weight of the call. -/
def Dialler.Weighs (dial : Dialler) (counter : Counter) (weight : DialledCall → Nat) : Prop :=
  ∀ call, counter.Grows id (dial call) fun world => weight ⟨call, world⟩

section

variable {dial : Dialler} {counter : Counter} {weight : DialledCall → Nat}

/-- Counting in a family does not change the counters of the others. -/
theorem Counter.shown_count {family : Nat} (h : family ≠ counter.family) (world : World) (method : String)
    (succeeded : Bool) :
    counter.shown { world with meters := world.meters.count family method succeeded } =
      counter.shown world := by
  simp only [shown, Meters.count, List.getElem?_modify, if_neg h]
  simp

/-- Requests that any code may make list the calls they make. -/
theorem Ambient.follows (hdial : dial.Weighs counter weight) {request : Ambient}
    (h : ¬ request.CountsIn counter.family) :
    counter.Follows weight id (request.answer dial) request.calls := by
  cases request with
  | call call =>
    intro world
    have hcall := hdial call world
    simp only [Ambient.calls, weigh, Nat.add_zero]
    exact hcall
  | count family method succeeded =>
    intro world
    simp only [Ambient.calls, weigh_nil, Nat.add_zero, Option.map_id']
    exact Counter.shown_count h world method succeeded
  | _ => exact .quiet fun _ => rfl

/-- Requests of an advice that only sees the call list the calls they make. -/
theorem Observing.follows (hdial : dial.Weighs counter weight) (invocation : Invocation)
    {request : Observing} (h : ¬ request.CountsIn counter.family) :
    counter.Follows weight id (request.answer dial invocation) request.calls := by
  cases request with
  | ambient request => exact Ambient.follows hdial h
  | view => exact .quiet fun _ => rfl
  | description => exact .quiet fun _ => rfl

namespace Running

/-- A refusal to proceed leaves the meters as they are. -/
theorem meters_proceed_exhausted (running : Running) :
    (proceed Run.exhausted running).2.world.meters = running.world.meters := by
  unfold proceed
  split
  · rfl
  · split
    · rfl
    · split <;> rfl

/-- Requests of a before advice list the calls they make. -/
theorem steering_follows (hdial : dial.Weighs counter weight) {request : Steering}
    (h : ¬ request.CountsIn counter.family) :
    counter.Follows weight Running.world (Steering.answer dial (proceed Run.exhausted) request)
      fun running => request.calls running.world := by
  cases request with
  | ambient request => exact .inWorld (Ambient.follows hdial h)
  | proceed => exact .quiet meters_proceed_exhausted
  | view => exact .quiet fun _ => rfl
  | description => exact .quiet fun _ => rfl
  | setArguments arguments => exact .quiet fun _ => rfl
  | setRoutingKey key => exact .quiet fun _ => rfl

/-- A before advice lists the calls it makes. -/
theorem runBefore_follows (hdial : dial.Weighs counter weight) {step : Step BeforeBody}
    (h : step.body.Avoids (Steering.CountsIn counter.family)) :
    counter.Follows weight Running.world (runBefore dial step) (beforeCalls dial step) := by
  have hbody : counter.Follows weight Running.world
      (step.body.run (Steering.answer dial (proceed Run.exhausted)) >>= fun result =>
        Run.modify (·.mapInvocation Invocation.closeFrame) >>= fun _ => pure result) _ :=
    .bind_quiet (.program (fun _ => steering_follows hdial) h) fun _ _ => rfl
  exact fun running => hbody (running.mapInvocation
    (·.openFrame .before ⟨step.label, step.sequence, false, false, false⟩))

end Running

namespace Chain

/-- Before advices list the calls they make. -/
theorem runBefores_follows (hdial : dial.Weighs counter weight) {steps : List (Step BeforeBody)}
    (h : ∀ step ∈ steps, step.body.Avoids (Steering.CountsIn counter.family)) :
    counter.Follows weight Running.world (runBefores dial steps) (beforesCalls dial steps) := by
  induction steps with
  | nil => exact .pure _
  | cons step steps ih =>
    obtain ⟨hstep, hothers⟩ := List.forall_mem_cons.mp h
    refine .bind (Running.runBefore_follows hdial hstep) fun result => ?_
    cases result with
    | error error => exact .pure _
    | ok => exact ih hothers

/-- An advice at the end of the call lists the calls it makes. -/
theorem observe_follows (hdial : dial.Weighs counter weight) (kind : AdviceKind) (sequence : Nat)
    {program : ObservingProgram α} (h : program.Avoids (Observing.CountsIn counter.family)) :
    counter.Follows weight Running.world (observe dial kind sequence program)
      (observeCalls dial kind sequence program) := fun running =>
  Counter.Follows.program (fun _ hrequest => Observing.follows hdial _ hrequest) h running.world

/-- After advices list the calls they make. -/
theorem runAfters_follows (hdial : dial.Weighs counter weight) (outcome : CallResult)
    {steps : List (Step AfterBody)}
    (h : ∀ step ∈ steps, step.body.Avoids (Observing.CountsIn counter.family)) :
    counter.Follows weight Running.world (runAfters dial outcome steps) (aftersCalls dial steps) := by
  induction steps with
  | nil => exact .pure _
  | cons step steps ih =>
    obtain ⟨hstep, hothers⟩ := List.forall_mem_cons.mp h
    refine .bind (observe_follows hdial _ _ hstep) fun result => ?_
    cases result with
    | ok => exact ih hothers
    | error error => cases outcome <;> exact .quiet fun _ => rfl

/-- The advices for a returned value list the calls they make. -/
theorem runAfterReturnings_follows (hdial : dial.Weighs counter weight) (value : Value)
    {steps : List (Step AfterReturningBody)}
    (h : ∀ step ∈ steps, ∀ value, (step.body value).Avoids (Observing.CountsIn counter.family)) :
    counter.Follows weight Running.world (runAfterReturnings dial value steps)
      (afterReturningsCalls dial value steps) := by
  induction steps with
  | nil => exact .pure _
  | cons step steps ih =>
    obtain ⟨hstep, hothers⟩ := List.forall_mem_cons.mp h
    refine .bind (observe_follows hdial _ _ (hstep value)) fun result => ?_
    cases result with
    | ok => exact ih hothers
    | error error => exact .pure _

/-- The advices for an error list the calls they make. -/
theorem runAfterThrowings_follows (hdial : dial.Weighs counter weight) (error : AopError)
    (swallowed : Option Value) {steps : List (Step AfterThrowingBody)}
    (h : ∀ step ∈ steps, ∀ error, (step.body error).Avoids (Observing.CountsIn counter.family)) :
    counter.Follows weight Running.world (runAfterThrowings dial error swallowed steps)
      (afterThrowingsCalls dial error swallowed steps) := by
  induction steps generalizing swallowed with
  | nil => cases swallowed <;> exact .pure _
  | cons step steps ih =>
    obtain ⟨hstep, hothers⟩ := List.forall_mem_cons.mp h
    refine .bind (observe_follows hdial _ _ (hstep error)) fun result => ?_
    cases result with
    | error replaced => exact .pure _
    | ok disposition =>
      cases disposition with
      | rethrow => exact ih swallowed hothers
      | swallow value =>
        cases swallowed with
        | some earlier => exact ih _ hothers
        | none => exact fun running => ih (some value) hothers (running.log _)

/-- The advices that depend on how the call ended list the calls they make. -/
theorem runEnding_follows (hdial : dial.Weighs counter weight) {chain : Chain}
    (hreturning : ∀ step ∈ chain.afterReturnings, ∀ value,
      (step.body value).Avoids (Observing.CountsIn counter.family))
    (hthrowing : ∀ step ∈ chain.afterThrowings, ∀ error,
      (step.body error).Avoids (Observing.CountsIn counter.family)) (outcome : CallResult) :
    counter.Follows weight Running.world (chain.runEnding dial outcome) (chain.endingCalls dial outcome) := by
  cases outcome with
  | ok value => exact fun running => runAfterReturnings_follows hdial value hreturning (running.mapInvocation _)
  | error error =>
    exact fun running => runAfterThrowings_follows hdial error none hthrowing (running.mapInvocation _)

end Chain

end

end Interception
