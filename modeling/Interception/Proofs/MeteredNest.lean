import Interception.Aspects.Metric
import Interception.Proofs.DialledCalls
import Interception.Proofs.Proceedings

/-!
# Nests with one meter

Among the around advices of a call at most one may count in a meter family: a metric aspect at a known place.
What happens in a nest that counters may depend on is listed in order: the calls that its code makes, and the
results that around advices were given by what they proceeded to. An advice that is not entered, does not proceed
or proceeds to something that breaks off is given nothing.

In the nest a counter of the family grows by the weights of the calls, and by one for each result that the metric
aspect was given of the kind that the counter is for. It is given one at most, however the advices outside it make
use of panics to have what they enclose run again: the cursor passes its place once. Both are one induction on the
nest, in which parts of the nest run one after the other add what each of them adds.
-/

namespace Interception

/-- Something that happens in a nest and that counters may depend on. -/
inductive NestEvent where
  /-- Code makes a call by name. -/
  | called (call : DialledCall)
  /-- The around advice at a place, from the outermost on, is given a result by what it proceeded to. -/
  | given (place : Nat) (result : CallResult)

namespace NestEvent

/-- The call that was made. -/
def called? : NestEvent → Option DialledCall
  | called call => some call
  | given _ _ => none

/-- The result that the around advice at a place was given. -/
def given? (place : Nat) : NestEvent → Option CallResult
  | called _ => none
  | given other result => if other = place then some result else none

/-- The calls that were made. -/
def calls (events : List NestEvent) : List DialledCall := events.filterMap called?

/-- The results that the around advice at a place was given, if a place is given. -/
def results (place : Option Nat) (events : List NestEvent) : List CallResult :=
  place.elim [] fun place => events.filterMap (given? place)

@[simp] theorem calls_nil : calls [] = [] := rfl

@[simp] theorem results_nil (place : Option Nat) : results place [] = [] := by cases place <;> rfl

@[simp] theorem calls_append (events later : List NestEvent) : calls (events ++ later) = calls events ++ calls later :=
  List.filterMap_append

@[simp] theorem results_append (place : Option Nat) (events later : List NestEvent) :
    results place (events ++ later) = results place events ++ results place later := by
  cases place with
  | none => rfl
  | some place => exact List.filterMap_append

@[simp] theorem calls_map_called (calls : List DialledCall) : NestEvent.calls (calls.map called) = calls := by
  rw [NestEvent.calls, List.filterMap_map]
  exact List.filterMap_some

@[simp] theorem results_map_called (place : Option Nat) (calls : List DialledCall) :
    results place (calls.map called) = [] := by
  cases place with
  | none => rfl
  | some place => simp [results, given?]

end NestEvent

/-- What happens when an advice that steers the call makes a request. What happens when it proceeds is given. -/
def Steering.events (goOn : Running → List NestEvent) : Steering → Running → List NestEvent
  | .proceed, running => goOn running
  | request, running => (request.calls running.world).map .called

namespace Running

/-- What happens when the around advice at a place proceeds: nothing if it may not. What it proceeds to is given,
and what happens then. -/
def proceedEvents (place : Nat) (next : Run Running CallResult) (inner : Running → List NestEvent)
    (running : Running) : List NestEvent :=
  running.granted?.elim [] fun granted =>
    inner granted ++ next.reading [] (fun result _ => [.given place result]) granted

/-- What happens when the target is entered: nothing if it is taken. -/
def targetEvents (dial : Dialler) (running : Running) : List NestEvent :=
  running.invocation.terminal.elim [] fun terminal =>
    ((terminal running.invocation.arguments).trace (Ambient.answer dial) Ambient.calls running.world).map .called

/-- What happens in the around advice at a place. What it proceeds to is given, and what happens then. -/
def aroundEvents (dial : Dialler) (place : Nat) (next : Run Running CallResult) (inner : Running → List NestEvent)
    (step : Step AroundBody) (running : Running) : List NestEvent :=
  step.body.trace (Steering.answer dial (proceed next)) (Steering.events (proceedEvents place next inner))
    (running.mapInvocation (·.openFrame .around ⟨step.label, step.sequence, true, false, false⟩))

/-- What happens in a nest, from the cursor on. -/
def nestEvents (dial : Dialler) (arounds : List (Step AroundBody)) : (bound : Nat) → Running → List NestEvent
  | 0, _ => []
  | bound + 1, running =>
    match arounds[running.invocation.cursor]? with
    | some step => aroundEvents dial running.invocation.cursor (proceedNext dial arounds bound)
      (nestEvents dial arounds bound) step
      (running.mapInvocation fun invocation => { invocation with cursor := invocation.cursor + 1 })
    | none => targetEvents dial running

end Running

/-- Around advices among which only the one at the given place counts in a meter family, if a place is given:
a metric aspect. -/
inductive Metered (family : Nat) : Option Nat → List (Step AroundBody) → Prop where
  /-- No advice is left. -/
  | nil : Metered family none []
  /-- The next advice does not count in the family. -/
  | spared {place : Option Nat} {step : Step AroundBody} {inner : List (Step AroundBody)} :
    step.body.Avoids (Steering.CountsIn family) → Metered family place inner →
    Metered family (place.map (· + 1)) (step :: inner)
  /-- The next advice is the metric aspect. -/
  | metered {step : Step AroundBody} {inner : List (Step AroundBody)} (aspect : MetricAspect) :
    aspect.family = family → step.body = aspect.around → Metered family none inner →
    Metered family (some 0) (step :: inner)

/-- An around advice is the metric aspect at the given place, or it does not count. -/
theorem Metered.cases_at {family : Nat} {place : Option Nat} {arounds : List (Step AroundBody)}
    (h : Metered family place arounds) {index : Nat} {step : Step AroundBody} (hstep : arounds[index]? = some step) :
    (place = some index ∧ ∃ aspect : MetricAspect, aspect.family = family ∧ step.body = aspect.around) ∨
      place ≠ some index ∧ step.body.Avoids (Steering.CountsIn family) := by
  induction h generalizing index with
  | nil => cases hstep
  | @spared place other inner havoids _ ih =>
    cases index with
    | zero =>
      cases hstep
      exact .inr ⟨by cases place <;> simp, havoids⟩
    | succ index =>
      obtain ⟨rfl, haspect⟩ | ⟨hplace, hsteps⟩ := ih hstep
      · exact .inl ⟨rfl, haspect⟩
      · exact .inr ⟨by cases place <;> simp_all, hsteps⟩
  | @metered other inner aspect hfamily hbody _ ih =>
    cases index with
    | zero =>
      cases hstep
      exact .inl ⟨rfl, aspect, hfamily, hbody⟩
    | succ index =>
      obtain ⟨⟨⟩, _⟩ | ⟨_, hsteps⟩ := ih hstep
      exact .inr ⟨by simp, hsteps⟩

/-- A metric aspect counts in no meter family but its own. -/
theorem MetricAspect.around_avoids (aspect : MetricAspect) {family : Nat} (h : aspect.family ≠ family) :
    aspect.around.Avoids (Steering.CountsIn family) := by
  refine .bind (.request nofun) fun view => .bind (.request nofun) fun result => ?_
  exact .bind (.request h) fun _ => .done result

namespace Counter

/-- Whether the counter is for calls of an operation in which the metric aspect is given a result. -/
def isFor (counter : Counter) (operation : String) (relayed : Option CallResult) : Bool :=
  operation == counter.method && relayed.any (·.isOk == counter.succeeded)

/-- A metric aspect that is given nothing counts nowhere. -/
@[simp] theorem isFor_none (counter : Counter) (operation : String) :
    counter.isFor operation none = false := Bool.and_false _

/-- A counter grows by one if it is the one in which a metric aspect counts what it was given. -/
theorem shown_counted (counter : Counter) (world : World) (operation : String) (result : CallResult) :
    counter.shown { world with meters := world.meters.count counter.family operation result.isOk } =
      (counter.shown world).map (· + (counter.isFor operation (some result)).toNat) := by
  have hadded : (counter.isFor operation (some result)).toNat =
      if (counter.method, counter.succeeded) = (operation, result.isOk) then 1 else 0 := by
    by_cases hfor : counter.isFor operation (some result) = true
    · obtain ⟨hmethod, hended⟩ := (Bool.and_eq_true _ _).mp hfor
      have hkey : (counter.method, counter.succeeded) = (operation, result.isOk) := by
        rw [eq_of_beq hmethod, ← eq_of_beq hended]
      rw [hfor, if_pos hkey]
      rfl
    · have hkey : (counter.method, counter.succeeded) ≠ (operation, result.isOk) := by
        intro hkey
        obtain ⟨hmethod, hended⟩ := Prod.mk.inj hkey
        exact hfor (by simp [Counter.isFor, hmethod, hended])
      rw [Bool.eq_false_iff.mpr hfor, if_neg hkey]
      rfl
  rw [hadded]
  simp only [Counter.shown, Meters.count, List.getElem?_modify, if_true, Option.map_map]
  simp [Function.comp_def]

end Counter

namespace Running

/-- One if the cursor is past a place and a place is given, else nothing. -/
def passed (place : Option Nat) (running : Running) : Nat :=
  place.elim 0 fun place => if place < running.invocation.cursor then 1 else 0

/-- The cursor passes a place once. -/
theorem passed_le_one (place : Option Nat) (running : Running) : running.passed place ≤ 1 := by
  cases place with
  | none => exact Nat.zero_le 1
  | some place =>
    rw [passed, Option.elim_some]
    split <;> omega

/-- The target does not count in a meter family. -/
def SparesTarget (family : Nat) (running : Running) : Prop :=
  ∀ terminal, running.invocation.terminal = some terminal →
    ∀ arguments, (terminal arguments).Avoids (Ambient.CountsIn family)

section

variable {counter : Counter} {weight : DialledCall → Nat} {place : Option Nat}

/-- What lies between two states of a nest in which some events happen. -/
structure Tally (counter : Counter) (weight : DialledCall → Nat) (place : Option Nat) (events : List NestEvent)
    (running later : Running) : Prop where
  /-- The method is the same. -/
  signature : later.invocation.signature = running.invocation.signature
  /-- The target is the same, unless it was taken. -/
  terminal : ∀ terminal, later.invocation.terminal = some terminal → running.invocation.terminal = some terminal
  /-- The counter has grown by the weights of the calls and by the results of its kind. -/
  shown : counter.shown later.world = (counter.shown running.world).map
    (· + (weigh weight (NestEvent.calls events) + (NestEvent.results place events).countP fun result =>
      counter.isFor running.invocation.signature.operation (some result)))
  /-- The metric aspect was given results only where the cursor passed its place. -/
  once : (NestEvent.results place events).length + running.passed place ≤ later.passed place

/-- What does not count happens where the meters stay as they are and the cursor does not go back. -/
theorem Tally.quiet {events : List NestEvent} (hcalls : NestEvent.calls events = [])
    (hresults : NestEvent.results place events = []) {running later : Running}
    (hsignature : later.invocation.signature = running.invocation.signature)
    (hterminal : later.invocation.terminal = running.invocation.terminal)
    (hmeters : later.world.meters = running.world.meters)
    (hcursor : running.invocation.cursor ≤ later.invocation.cursor) :
    Tally counter weight place events running later := by
  refine ⟨hsignature, fun _ h => hterminal ▸ h, ?_, ?_⟩
  · rw [hcalls, hresults]
    exact Counter.shown_of_meters_eq hmeters
  · rw [hresults]
    cases place with
    | none => exact Nat.le_refl 0
    | some place =>
      simp only [passed, Option.elim_some, List.length_nil]
      split <;> split <;> omega

/-- Nothing happens where neither the meters nor the cursor change. -/
theorem Tally.idle {running later : Running} (hsignature : later.invocation.signature = running.invocation.signature)
    (hterminal : later.invocation.terminal = running.invocation.terminal)
    (hmeters : later.world.meters = running.world.meters)
    (hcursor : later.invocation.cursor = running.invocation.cursor) : Tally counter weight place [] running later :=
  .quiet rfl (NestEvent.results_nil place) hsignature hterminal hmeters (Nat.le_of_eq hcursor.symm)

/-- Nothing happens between a state and itself. -/
theorem Tally.refl (running : Running) : Tally counter weight place [] running running := .idle rfl rfl rfl rfl

/-- What happens first and what happens next is what happens. -/
theorem Tally.trans {events next : List NestEvent} {running later last : Running}
    (h : Tally counter weight place events running later) (hnext : Tally counter weight place next later last) :
    Tally counter weight place (events ++ next) running last := by
  refine ⟨hnext.signature.trans h.signature, fun terminal hlast => h.terminal terminal (hnext.terminal terminal hlast),
    ?_, ?_⟩
  · rw [hnext.shown, h.shown, Counter.map_add_map_add, h.signature, NestEvent.calls_append, NestEvent.results_append,
      weigh_append, List.countP_append, Nat.add_add_add_comm]
  · have hfirst := h.once
    have hsecond := hnext.once
    rw [NestEvent.results_append, List.length_append]
    omega

/-- The target still does not count. -/
theorem Tally.sparesTarget {events : List NestEvent} {running later : Running} {family : Nat}
    (h : Tally counter weight place events running later) (hspares : running.SparesTarget family) :
    later.SparesTarget family := fun terminal hterminal => hspares terminal (h.terminal terminal hterminal)

/-- In a run from a state with a target that does not count these events happen. -/
def Tallies {α : Type} (counter : Counter) (weight : DialledCall → Nat) (place : Option Nat) (run : Run Running α)
    (events : Running → List NestEvent) : Prop :=
  ∀ running, running.SparesTarget counter.family →
    Tally counter weight place (events running) running (run running).2

namespace Tallies

variable {α β : Type} {run : Run Running α} {events : Running → List NestEvent}

/-- In runs one after the other happens what happens in each. -/
theorem bind {next : α → Run Running β} {later : α → Running → List NestEvent}
    (h : Tallies counter weight place run events)
    (hnext : ∀ value, Tallies counter weight place (next value) (later value)) :
    Tallies counter weight place (run >>= next) fun running => events running ++ run.reading [] later running := by
  intro running hspares
  have hfirst := h running hspares
  simp only [Run.bind_apply, Run.reading]
  generalize run running = ran at hfirst
  obtain ⟨outcome, between⟩ := ran
  cases outcome with
  | returned value => exact hfirst.trans (hnext value between (hfirst.sparesTarget hspares))
  | panicked message => exact hfirst.trans (.refl between)
  | exhausted => exact hfirst.trans (.refl between)

/-- The same happens if a run returns after a panic as well. -/
theorem attempt (h : Tallies counter weight place run events) : Tallies counter weight place run.attempt events := by
  intro running hspares
  rw [Run.snd_attempt]
  exact h running hspares

/-- What comes after a run and does not count adds nothing. -/
theorem bind_quiet {next : α → Run Running β} (h : Tallies counter weight place run events)
    (hnext : ∀ value running, Tally counter weight place [] running (next value running).2) :
    Tallies counter weight place (run >>= next) events := by
  intro running hspares
  have hfirst := h running hspares
  rw [Run.bind_apply]
  generalize run running = ran at hfirst
  obtain ⟨outcome, between⟩ := ran
  cases outcome with
  | returned value => exact List.append_nil (events running) ▸ hfirst.trans (hnext value between)
  | panicked message => exact hfirst
  | exhausted => exact hfirst

/-- What happens in the run of a program is what happens in the answers to its requests. -/
theorem program {Request : Type} {Answer : Request → Type} {avoided : Request → Prop}
    {answer : (request : Request) → Run Running (Answer request)} {during : Request → Running → List NestEvent}
    (h : ∀ request, ¬ avoided request → Tallies counter weight place (answer request) (during request))
    {program : Program Answer α} (havoids : program.Avoids avoided) :
    Tallies counter weight place (program.run answer) (program.trace answer during) := by
  induction havoids with
  | done value => exact fun running _ => .refl running
  | panic message => exact fun running _ => .refl running
  | ask hrequest _ ih => exact bind (h _ hrequest) ih
  | attempt hrequest _ ih => exact bind (h _ hrequest).attempt ih

/-- A run in the surroundings of the call makes the calls that it lists. -/
theorem inWorld {run : Run World α} {calls : World → List DialledCall} (h : counter.Follows weight id run calls) :
    Tallies counter weight place (Run.inWorld run) fun running => (calls running.world).map .called := by
  refine fun running _ => ⟨rfl, fun _ hterminal => hterminal, ?_, ?_⟩
  · rw [NestEvent.calls_map_called, NestEvent.results_map_called]
    exact h running.world
  · rw [NestEvent.results_map_called]
    exact Nat.le_of_eq (Nat.zero_add _)

end Tallies

variable {dial : Dialler} {next : Run Running CallResult} {inner : Running → List NestEvent}

/-- Where the advice at another place proceeds, what it proceeds to happens. -/
theorem proceed_tallies (hnext : Tallies counter weight place next inner) {index : Nat} (hplace : place ≠ some index) :
    Tallies counter weight place (proceed next) (proceedEvents index next inner) := by
  intro running hspares
  rw [proceed_eq, proceedEvents]
  cases hgranted : running.granted? with
  | none =>
    obtain ⟨frames, journal, records, hrefused⟩ := running.exists_of_exhausted
    change Tally counter weight place [] running (proceed Run.exhausted running).2
    rw [hrefused]
    exact .idle rfl rfl rfl rfl
  | some granted =>
    obtain ⟨frames, journal, rfl⟩ := exists_of_granted? hgranted
    let granted := running.mapInvocation ({ · with frames, journal })
    have hproceeded : Tally counter weight place [] running granted :=
      .idle rfl rfl rfl rfl
    have hgiven : ∀ result, NestEvent.results place [.given index result] = [] := by
      intro result
      cases place with
      | none => rfl
      | some place => simpa [NestEvent.results, NestEvent.given?] using Ne.symm (mt (congrArg some) hplace)
    have hreturned : Tally counter weight place
        (next.reading [] (fun result _ => [.given index result]) granted) (next granted).2 (next granted).2 := by
      unfold Run.reading
      split
      · exact .quiet rfl (hgiven _) rfl rfl rfl (Nat.le_refl _)
      · exact .refl _
    exact (hproceeded.trans (hnext granted hspares)).trans hreturned

/-- What an advice that does not count asks for. -/
theorem answer_tallies (hdial : dial.Weighs counter weight) (hnext : Tallies counter weight place next inner)
    {index : Nat} (hplace : place ≠ some index) {request : Steering} (h : ¬ request.CountsIn counter.family) :
    Tallies counter weight place (Steering.answer dial (proceed next) request)
      (Steering.events (proceedEvents index next inner) request) := by
  cases request with
  | proceed => exact proceed_tallies hnext hplace
  | ambient request => exact .inWorld (Ambient.follows hdial h)
  | view => exact fun running _ => .refl running
  | description => exact fun running _ => .refl running
  | setArguments arguments =>
    exact fun running _ => .idle rfl rfl rfl rfl
  | setRoutingKey key =>
    exact fun running _ => .idle rfl rfl rfl rfl

/-- The target makes the calls that it lists. -/
theorem callTarget_tallies (hdial : dial.Weighs counter weight) :
    Tallies counter weight place (callTarget dial) (targetEvents dial) := by
  intro running hspares
  unfold callTarget targetEvents
  cases hterminal : running.invocation.terminal with
  | none => exact .idle rfl rfl rfl rfl
  | some terminal =>
    let entered : Running := running.mapInvocation fun invocation =>
      { (invocation.enterPhase .targetCalled).record (.target running.invocation.arguments) with
        targetCalled := true
        terminal := none
        arguments := .empty }
    have hentered : Tally counter weight place [] running entered := by
      refine ⟨rfl, nofun, ?_, ?_⟩
      · rw [NestEvent.calls_nil, NestEvent.results_nil]
        exact Counter.shown_of_meters_eq rfl
      · rw [NestEvent.results_nil]
        exact Nat.le_of_eq (Nat.zero_add _)
    have htarget : Tallies counter weight place
        (Run.inWorld ((terminal running.invocation.arguments).run (Ambient.answer dial))) _ :=
      .inWorld (.program (fun _ => Ambient.follows hdial) (hspares terminal hterminal running.invocation.arguments))
    exact hentered.trans (htarget entered nofun)

/-- The end of an around advice does not count. -/
theorem tally_ending (step : Step AroundBody) (result : CallResult) (running : Running) :
    Tally counter weight place [] running ((closeFrame step >>= fun frame =>
      Run.read (fun running => running.invocation.signature) >>= fun signature =>
        judge signature step.label frame result) running).2 := by
  let closed := running.mapInvocation Invocation.closeFrame
  let frame := running.invocation.frames.headD ⟨step.label, step.sequence, true, false, false⟩
  have hended : Tally counter weight place [] closed
      (judge running.invocation.signature step.label frame result closed).2 := by
    obtain ⟨label, sequence, canProceed, proceeded, misused⟩ := frame
    cases misused <;> cases result <;> cases proceeded <;> exact .idle rfl rfl rfl rfl
  have hclosed : Tally counter weight place [] running closed := .idle rfl rfl rfl rfl
  exact hclosed.trans hended

/-- What happens in an around advice that does not count. -/
theorem runAround_tallies (hdial : dial.Weighs counter weight) (hnext : Tallies counter weight place next inner)
    {index : Nat} (hplace : place ≠ some index) {step : Step AroundBody}
    (h : step.body.Avoids (Steering.CountsIn counter.family)) :
    Tallies counter weight place (runAround dial next step) (aroundEvents dial index next inner step) := by
  intro running hspares
  let opened := running.mapInvocation (·.openFrame .around ⟨step.label, step.sequence, true, false, false⟩)
  have hopened : Tally counter weight place [] running opened :=
    .idle rfl rfl rfl rfl
  have hbody : Tallies counter weight place (step.body.run (Steering.answer dial (proceed next))) _ :=
    .program (fun _ => answer_tallies hdial hnext hplace) h
  exact hopened.trans ((hbody.bind_quiet (tally_ending step)) opened hspares)

/-- A call whose cursor has moved past the advice that is entered. -/
def stepping (running : Running) : Running :=
  running.mapInvocation fun invocation => { invocation with cursor := invocation.cursor + 1 }

/-- A call in which an around advice proceeds at once. -/
def proceedingAtOnce (step : Step AroundBody) (running : Running) : Running :=
  (running.mapInvocation (·.openFrame .around ⟨step.label, step.sequence, true, false, false⟩)).mapInvocation
    fun invocation => { invocation.record (.proceeded step.sequence) with
      frames := ⟨step.label, step.sequence, true, true, false⟩ :: running.invocation.frames }

/-- What a metric aspect does with what came of proceeding: it counts it and gives it back. -/
def countResult (dial : Dialler) (aspect : MetricAspect) (operation : String) (result : CallResult) :
    Run Running CallResult := do
  Run.inWorld ((Ambient.count aspect.family operation result.isOk).answer dial)
  pure result

/-- A metric aspect proceeds, counts what came of it and gives it back. -/
theorem runAround_metric {step : Step AroundBody} (aspect : MetricAspect) (hbody : step.body = aspect.around)
    (running : Running) : runAround dial next step running =
      ((next >>= countResult dial aspect running.invocation.signature.operation) >>= fun result =>
        closeFrame step >>= fun frame => Run.read (fun running => running.invocation.signature) >>= fun signature =>
          judge signature step.label frame result) (running.proceedingAtOnce step) := by
  rw [runAround, hbody]
  rfl

/-- A metric aspect is given what it proceeds to, and nothing else happens in it. -/
theorem aroundEvents_metric {step : Step AroundBody} (aspect : MetricAspect) (hbody : step.body = aspect.around)
    (index : Nat) (running : Running) : aroundEvents dial index next inner step running =
      inner (running.proceedingAtOnce step) ++
        next.reading [] (fun result _ => [.given index result]) (running.proceedingAtOnce step) := by
  let opened := running.mapInvocation (·.openFrame .around ⟨step.label, step.sequence, true, false, false⟩)
  have hlisted : aroundEvents dial index next inner step running = (inner (running.proceedingAtOnce step) ++
      next.reading [] (fun result _ => [.given index result]) (running.proceedingAtOnce step)) ++
        (proceed next).reading [] (fun _ _ => []) opened := by
    rw [aroundEvents, hbody]
    rfl
  have hafter : (proceed next).reading ([] : List NestEvent) (fun _ _ => []) opened = [] := by
    unfold Run.reading
    split <;> rfl
  rw [hlisted, hafter, List.append_nil]

/-- Where the cursor is past the place from the beginning on, the metric aspect is given nothing. -/
theorem Tally.results_eq_nil {events : List NestEvent} {running later : Running} {index : Nat}
    (h : Tally counter weight (some index) events running later) (hpast : index < running.invocation.cursor) :
    NestEvent.results (some index) events = [] ∧ index < later.invocation.cursor := by
  have honce := h.once
  simp only [passed, Option.elim_some, if_pos hpast] at honce
  split at honce
  · exact ⟨List.eq_nil_of_length_eq_zero (by omega), ‹_›⟩
  · omega

/-- What happens in the metric aspect at a place, from the state in which the cursor is there. -/
theorem runAround_metered {index : Nat} (hnext : Tallies counter weight (some index) next inner)
    {step : Step AroundBody} (aspect : MetricAspect) (hfamily : aspect.family = counter.family)
    (hbody : step.body = aspect.around) {running : Running} (hspares : running.SparesTarget counter.family)
    (hcursor : running.invocation.cursor = index) :
    Tally counter weight (some index) (aroundEvents dial index next inner step running.stepping) running
      (runAround dial next step running.stepping).2 := by
  let granted := running.stepping.proceedingAtOnce step
  have hinner : Tally counter weight (some index) (inner granted) granted (next granted).2 := hnext granted hspares
  -- The cursor has just passed the place, so what is enclosed gives the metric aspect nothing.
  obtain ⟨hnothing, hpast⟩ := hinner.results_eq_nil (hcursor ▸ Nat.lt_succ_self running.invocation.cursor)
  have hshown := hinner.shown
  rw [hnothing, List.countP_nil, Nat.add_zero] at hshown
  have hbefore : running.passed (some index) = 0 := if_neg (hcursor ▸ Nat.lt_irrefl index)
  rw [runAround_metric aspect hbody, aroundEvents_metric aspect hbody, Run.bind_apply, Run.bind_apply, Run.reading]
  change Tally counter weight (some index) (inner granted ++ _) running _
  generalize next granted = ran at hinner hshown hpast
  obtain ⟨outcome, later⟩ := ran
  have hbroken : Tally counter weight (some index) (inner granted ++ []) running later := by
    refine ⟨hinner.signature, hinner.terminal, ?_, ?_⟩
    · rw [List.append_nil]
      exact hinner.shown
    · rw [List.append_nil, hnothing, hbefore]
      exact Nat.zero_le _
  cases outcome with
  | returned result =>
    let operation := running.invocation.signature.operation
    let counted : Running := { later with world :=
      { later.world with meters := later.world.meters.count aspect.family operation result.isOk } }
    have hcounted : Tally counter weight (some index) (inner granted ++ [.given index result]) running counted := by
      have hresults : NestEvent.results (some index) (inner granted ++ [.given index result]) = [result] := by
        rw [NestEvent.results_append, hnothing]
        simp [NestEvent.results, NestEvent.given?]
      have hcalls : NestEvent.calls (inner granted ++ [.given index result]) = NestEvent.calls (inner granted) := by
        rw [NestEvent.calls_append]
        exact List.append_nil _
      refine ⟨hinner.signature, hinner.terminal, ?_, ?_⟩
      · have hone : [result].countP (fun result => counter.isFor operation (some result)) =
            (counter.isFor operation (some result)).toNat := by
          cases hfor : counter.isFor operation (some result) <;> simp [hfor]
        have hgrown := counter.shown_counted later.world operation result
        rw [← hfamily, hshown, Counter.map_add_map_add] at hgrown
        rw [hresults, hcalls, hone]
        exact hgrown
      · rw [hresults, hbefore]
        exact Nat.le_of_eq (if_pos hpast).symm
    have hended := hcounted.trans (tally_ending step result counted)
    rw [List.append_nil] at hended
    exact hended
  | panicked message => exact hbroken
  | exhausted => exact hbroken

/-- What happens in a nest, from the cursor on. -/
theorem proceedNext_tallies (hdial : dial.Weighs counter weight) {arounds : List (Step AroundBody)}
    (h : Metered counter.family place arounds) (bound : Nat) :
    Tallies counter weight place (proceedNext dial arounds bound) (nestEvents dial arounds bound) := by
  induction bound with
  | zero => exact fun running _ => .refl running
  | succ bound ih =>
    intro running hspares
    unfold proceedNext nestEvents
    cases hstep : arounds[running.invocation.cursor]? with
    | none => exact callTarget_tallies hdial running hspares
    | some step =>
      obtain ⟨rfl, aspect, hfamily, hbody⟩ | ⟨hplace, havoids⟩ := h.cases_at hstep
      · exact runAround_metered ih aspect hfamily hbody hspares rfl
      · have hentered : Tally counter weight place [] running running.stepping :=
          .quiet rfl (NestEvent.results_nil place) rfl rfl rfl (Nat.le_succ _)
        exact hentered.trans (runAround_tallies hdial ih hplace havoids running.stepping hspares)

end

end Running

end Interception
