import Interception.Proofs.BeforeRuns
import Interception.Proofs.MeteredNest
import Interception.Proofs.ScopeDiscipline

/-!
# Counted calls

Calls are made by name, one after the other, and the code of each may make further calls. All calls that are
made in this way, nested ones included, are listed as visits to the chains that they lead to, each with the
surroundings in which it begins. For each visit it is known what proceeding gave to the metric aspect in its
chain: this needs that all before advices succeed, that every around advice outside the metric aspect proceeds,
and that what it encloses returns.

If in every chain at most one advice counts in a meter family, then the counters of the family grow exactly by
the visits in which the metric aspect was given a result, each counted under its operation and under the kind
of that result. What other advices later make of the result does not matter, nor does it matter how the calls
end. This is an induction on how deeply calls are nested: a call lets a counter grow by the visits that its
nested calls make, and by itself.
-/

namespace Interception

namespace Chain

/-- What happens in a call up to the end of its nest. -/
def innerEvents (chain : Chain) (dial : Dialler) (running : Running) : List NestEvent :=
  (beforesCalls dial chain.befores running).map .called ++ (runBefores dial chain.befores).reading []
    (fun result => match result with
      | .ok () => fun ready => Running.nestEvents dial chain.arounds (chain.arounds.length + 1)
        ((ready.mapInvocation (·.enterPhase .beforeDone)).mapInvocation (·.enterPhase .aroundNestRunning))
      | .error _ => fun _ => []) running

/-- The calls that the code of a call makes up to the end of its nest. -/
def innerCalls (chain : Chain) (dial : Dialler) (running : Running) : List DialledCall :=
  NestEvent.calls (chain.innerEvents dial running)

/-- The calls that the code of a call makes after its nest. -/
def outerCalls (chain : Chain) (dial : Dialler) (outcome : CallResult) (running : Running) :
    List DialledCall :=
  let unwinding := running.mapInvocation (·.enterPhase .unwinding)
  aftersCalls dial chain.afters unwinding ++
    (runAfters dial outcome chain.afters).reading [] (chain.endingCalls dial) unwinding

/-- What proceeding gave to the around advice at a place, if a place is given, all before advices succeeded, the
advice was entered and did proceed, and what it encloses returned. -/
def relayed? (chain : Chain) (dial : Dialler) (place : Option Nat) (running : Running) : Option CallResult :=
  (NestEvent.results place (chain.innerEvents dial running)).head?

/-- A chain in which only the around advice at the given place counts in a meter family, if a place is given: a
metric aspect. -/
structure IsMetered (family : Nat) (place : Option Nat) (chain : Chain) : Prop where
  /-- No before advice counts. -/
  befores : ∀ step ∈ chain.befores, step.body.Avoids (Steering.CountsIn family)
  /-- Only the around advice at the place counts. -/
  arounds : Metered family place chain.arounds
  /-- No after advice counts. -/
  afters : ∀ step ∈ chain.afters, step.body.Avoids (Observing.CountsIn family)
  /-- No advice for a returned value counts. -/
  afterReturnings : ∀ step ∈ chain.afterReturnings, ∀ value,
    (step.body value).Avoids (Observing.CountsIn family)
  /-- No advice for an error counts. -/
  afterThrowings : ∀ step ∈ chain.afterThrowings, ∀ error,
    (step.body error).Avoids (Observing.CountsIn family)

section

variable {dial : Dialler} {counter : Counter} {weight : DialledCall → Nat} {chain : Chain}
  {place : Option Nat}

/-- What happens in before advices. -/
theorem runBefores_tallies (hdial : dial.Weighs counter weight) (h : chain.IsMetered counter.family place) :
    Running.Tallies counter weight place (runBefores dial chain.befores)
      fun running => (beforesCalls dial chain.befores running).map .called := by
  intro running _
  obtain ⟨_, _, _, _, hinvocation, _⟩ := runBefores_invocation dial chain.befores running
  refine ⟨?_, ?_, ?_, ?_⟩
  · rw [hinvocation]
    rfl
  · rw [hinvocation]
    exact fun _ hterminal => hterminal
  · rw [NestEvent.calls_map_called, NestEvent.results_map_called]
    exact runBefores_follows hdial h.befores running
  · rw [NestEvent.results_map_called, Running.passed, Running.passed, hinvocation]
    exact Nat.le_of_eq (Nat.zero_add _)

/-- What happens in a call up to the end of its nest. -/
theorem runInner_tallies (hdial : dial.Weighs counter weight) (h : chain.IsMetered counter.family place) :
    Running.Tallies counter weight place (chain.runInner dial) (chain.innerEvents dial) := by
  refine .bind (runBefores_tallies hdial h) fun result => ?_
  cases result with
  | error error => exact fun running _ => .refl running
  | ok =>
    intro running hspares
    let ready := (running.mapInvocation (·.enterPhase .beforeDone)).mapInvocation (·.enterPhase .aroundNestRunning)
    have hready : Running.Tally counter weight place [] running ready := .idle rfl rfl rfl rfl
    exact hready.trans (Running.proceedNext_tallies hdial h.arounds (chain.arounds.length + 1) ready hspares)

/-- Up to the end of its nest a call lets the counter grow by the weights of the calls it makes, and by what
the metric aspect was given. -/
theorem runInner_grows (hdial : dial.Weighs counter weight) (h : chain.IsMetered counter.family place)
    {running : Running} (hspares : running.SparesTarget counter.family) :
    counter.shown (chain.runInner dial running).2.world = (counter.shown running.world).map
      (· + (weigh weight (chain.innerCalls dial running) +
        (counter.isFor running.invocation.signature.operation (chain.relayed? dial place running)).toNat)) := by
  have htally := runInner_tallies hdial h running hspares
  have hone : (NestEvent.results place (chain.innerEvents dial running)).length ≤ 1 :=
    Nat.le_trans (Nat.le_add_right _ _) (Nat.le_trans htally.once (Running.passed_le_one place _))
  have hcounted : (NestEvent.results place (chain.innerEvents dial running)).countP (fun result =>
      counter.isFor running.invocation.signature.operation (some result)) =
        (counter.isFor running.invocation.signature.operation (chain.relayed? dial place running)).toNat := by
    rw [relayed?]
    generalize NestEvent.results place (chain.innerEvents dial running) = results at hone
    match results, hone with
    | [], _ => simp
    | [result], _ =>
      cases hfor : counter.isFor running.invocation.signature.operation (some result) <;> simp [hfor]
  rw [htally.shown, hcounted, innerCalls]

/-- After its nest a call lists the calls it makes. -/
theorem runOuter_follows (hdial : dial.Weighs counter weight) (h : chain.IsMetered counter.family place)
    (outcome : CallResult) : counter.Follows weight Running.world
      (do
        enterPhase .unwinding
        let outcome ← runAfters dial outcome chain.afters
        let result ← chain.runEnding dial outcome
        enterPhase .completed
        pure result) (chain.outerCalls dial outcome) := by
  have hending : ∀ outcome, counter.Follows weight Running.world
      (chain.runEnding dial outcome >>= fun result => enterPhase .completed >>= fun _ => pure result)
      (chain.endingCalls dial outcome) := fun outcome =>
    .bind_quiet (runEnding_follows hdial h.afterReturnings h.afterThrowings outcome) fun _ _ => rfl
  exact fun running => (runAfters_follows hdial outcome h.afters).bind hending
    (running.mapInvocation (·.enterPhase .unwinding))

end

end Chain

namespace ChainCall

/-- The calls that the code of a call makes. -/
def calls (call : ChainCall) (dial : Dialler) (world : World) : List DialledCall :=
  call.chain.innerCalls dial (call.start world) ++
    (call.chain.runInner dial).reading [] (call.chain.outerCalls dial) (call.start world)

/-- What proceeding gave to the metric aspect at a place, if a place is given. -/
def relayed? (call : ChainCall) (dial : Dialler) (place : Option Nat) (world : World) :
    Option CallResult :=
  call.chain.relayed? dial place (call.start world)

/-- A call lets the counter grow by the weights of the calls it makes, and by what the metric aspect was
given. -/
theorem execute_grows {dial : Dialler} {counter : Counter} {weight : DialledCall → Nat} {call : ChainCall}
    {place : Option Nat} (hdial : dial.Weighs counter weight)
    (hspares : ∀ arguments, (call.terminal arguments).Avoids (Ambient.CountsIn counter.family))
    (h : call.chain.IsMetered counter.family place) :
    counter.Grows id (call.execute dial) fun world => weigh weight (call.calls dial world) +
      (counter.isFor call.signature.operation (call.relayed? dial place world)).toNat := by
  intro world
  have htarget : (call.start world).SparesTarget counter.family := fun terminal hterminal =>
    Option.some.inj hterminal ▸ hspares
  have hinner := Chain.runInner_grows hdial h htarget
  have hphases : counter.shown (id (call.execute dial world).2) =
      counter.shown (call.chain.runPhases dial (call.start world)).2.world := rfl
  beta_reduce
  rw [hphases, calls, weigh_append, Run.map_reading (weigh weight), Nat.add_right_comm]
  exact Counter.shown_bind hinner fun outcome later _ => Chain.runOuter_follows hdial h outcome later

end ChainCall

/-- A method that is called is one of the target's methods, or it returns nothing. -/
theorem Service.method_cases (service : Service) (interface method : String) :
    (∃ named ∈ service.methods, named.2 = service.method interface method) ∨
      ∀ values rest, (service.method interface method).body values rest = .done (.ok .unit) := by
  unfold Service.method
  cases hmethod : service.methods.lookup (interface, method) with
  | none => exact .inr fun _ _ => rfl
  | some found =>
    obtain ⟨earlier, later, hmethods, _⟩ := List.lookup_eq_some_iff.mp hmethod
    refine .inl ⟨((interface, method), found), ?_, rfl⟩
    rw [hmethods]
    exact List.mem_append_right _ List.mem_cons_self

/-- A method whose body does not count in a meter family does not count as the end of a chain. -/
theorem TargetMethod.terminal_avoids {method : TargetMethod} {family : Nat}
    (h : ∀ values rest, (method.body values rest).Avoids (Ambient.CountsIn family)) (arguments : Arguments) :
    (method.terminal arguments).Avoids (Ambient.CountsIn family) := by
  unfold TargetMethod.terminal
  split
  · exact .done _
  · refine .bind (h _ _) fun result => ?_
    cases result <;> exact .done _

/-- A call on its way through a chain. -/
structure Visit where
  /-- The call. -/
  call : ChainCall
  /-- How deeply calls may be nested in it. -/
  depth : Nat
  /-- The surroundings in which it begins. -/
  world : World

namespace Visit

variable (directory : Directory) (meter : Chain → Option Nat)

/-- What proceeding gave to the metric aspect in the chain, if there is one, if all before advices succeeded
and every around advice outside it did proceed, and if what it encloses returned. -/
def relayed? (visit : Visit) : Option CallResult :=
  visit.call.relayed? (directory.dial visit.depth) (meter visit.call.chain) visit.world

/-- A call of an operation in which the metric aspect was given a result. -/
def isMeasured (operation : String) (visit : Visit) : Bool :=
  visit.call.signature.operation == operation && (visit.relayed? directory meter).isSome

/-- A call of an operation in which the metric aspect was given a result of one kind. -/
def isCounted (operation : String) (succeeded : Bool) (visit : Visit) : Bool :=
  visit.call.signature.operation == operation &&
    (visit.relayed? directory meter).any (·.isOk == succeeded)

/-- The calls in which the metric aspect was given a result are those that succeeded there and those that
failed there. -/
theorem countP_isMeasured (operation : String) (visits : List Visit) :
    visits.countP (isMeasured directory meter operation) =
      visits.countP (isCounted directory meter operation true) +
        visits.countP (isCounted directory meter operation false) := by
  induction visits with
  | nil => rfl
  | cons visit visits ih =>
    have hone : (if isMeasured directory meter operation visit then 1 else 0) =
        (if isCounted directory meter operation true visit then 1 else 0) +
          if isCounted directory meter operation false visit then 1 else 0 := by
      unfold isMeasured isCounted
      cases visit.call.signature.operation == operation with
      | false => rfl
      | true =>
        cases visit.relayed? directory meter with
        | none => rfl
        | some result => cases result <;> rfl
    rw [List.countP_cons, List.countP_cons, List.countP_cons, ih, hone]
    omega

end Visit

namespace Directory

/-- The calls through chains to which a call by name leads: the one it makes itself, if the method is known,
and those that are nested in that. -/
def visits (directory : Directory) : (depth : Nat) → DialledCall → List Visit
  | 0, _ => []
  | depth + 1, dialled =>
    match directory.callee? dialled.call with
    | none => []
    | some callee => ⟨callee, depth, dialled.world⟩ ::
      (callee.calls (directory.dial depth) dialled.world).flatMap (directory.visits depth)

/-- Makes calls by name one after the other, however they end. -/
def dialAll (directory : Directory) (depth : Nat) : List ProxyCall → World → World
  | [], world => world
  | call :: calls, world => dialAll directory depth calls (directory.dial depth call world).2

/-- The calls through chains to which calls by name lead that are made one after the other. -/
def visitsAll (directory : Directory) (depth : Nat) : List ProxyCall → World → List Visit
  | [], _ => []
  | call :: calls, world =>
    directory.visits depth ⟨call, world⟩ ++
      visitsAll directory depth calls (directory.dial depth call world).2

/-- Services in whose chains at most one advice counts in a meter family, a metric aspect at a known place, and
whose targets do not count. -/
structure IsMetered (directory : Directory) (family : Nat) (meter : Chain → Option Nat) : Prop where
  /-- In a chain at most the metric aspect counts. -/
  chains : ∀ named ∈ directory.services, ∀ entry ∈ named.2.proxy.methods,
    entry.chain.IsMetered family (meter entry.chain)
  /-- Targets do not count. -/
  targets : ∀ named ∈ directory.services, ∀ method ∈ named.2.methods, ∀ values rest,
    (method.2.body values rest).Avoids (Ambient.CountsIn family)

/-- What a call by name leads to is a method of one of the services. -/
theorem exists_of_callee? {directory : Directory} {request : ProxyCall} {callee : ChainCall}
    (h : directory.callee? request = some callee) :
    ∃ named ∈ directory.services, ∃ entry ∈ named.2.proxy.methods, callee.chain = entry.chain ∧
      callee.terminal = (named.2.method request.interface request.method).terminal := by
  obtain ⟨service, hservice, h⟩ := Option.bind_eq_some_iff.mp h
  obtain ⟨id, _, h⟩ := Option.bind_eq_some_iff.mp h
  obtain ⟨entry, hentry, h⟩ := Option.bind_eq_some_iff.mp h
  cases h
  obtain ⟨earlier, later, hservices, _⟩ := List.lookup_eq_some_iff.mp hservice
  refine ⟨(request.proxy, service), ?_, entry, ?_, rfl, rfl⟩
  · rw [hservices]
    exact List.mem_append_right _ List.mem_cons_self
  · unfold Proxy.entry? at hentry
    split at hentry
    · exact List.mem_of_getElem? hentry
    · cases hentry

section

variable {directory : Directory} {family : Nat} {meter : Chain → Option Nat}

/-- A call by name leads to a chain in which at most the metric aspect counts, and to a target that does not
count. -/
theorem IsMetered.callee (h : directory.IsMetered family meter) {request : ProxyCall} {callee : ChainCall}
    (hcallee : directory.callee? request = some callee) :
    callee.chain.IsMetered family (meter callee.chain) ∧
      ∀ arguments, (callee.terminal arguments).Avoids (Ambient.CountsIn family) := by
  obtain ⟨named, hnamed, entry, hentry, hchain, hterminal⟩ := exists_of_callee? hcallee
  refine ⟨hchain ▸ h.chains named hnamed entry hentry, fun arguments => ?_⟩
  rw [hterminal]
  refine TargetMethod.terminal_avoids ?_ arguments
  intro values rest
  obtain ⟨method, hmethod, heq⟩ | hnothing := named.2.method_cases request.interface request.method
  · rw [← heq]
    exact h.targets named hnamed method hmethod values rest
  · rw [hnothing]
    exact .done _

/-- A call by name lets a counter of the family grow by the calls in which the metric aspect was given a result
of the kind that the counter is for. -/
theorem dial_weighs (h : directory.IsMetered family meter) (operation : String) (succeeded : Bool)
    (depth : Nat) : (directory.dial depth).Weighs ⟨family, operation, succeeded⟩ fun dialled =>
      (directory.visits depth dialled).countP (Visit.isCounted directory meter operation succeeded) := by
  induction depth with
  | zero => exact fun _ _ => Counter.shown_of_meters_eq rfl
  | succ depth ih =>
    intro call world
    obtain ⟨callee, result, hcallee, hdial⟩ | ⟨hcallee, error, hdial⟩ := directory.dial_eq depth call
    · have hexecute := ChainCall.execute_grows ih (h.callee hcallee).2 (h.callee hcallee).1 world
      have hrun : (directory.dial (depth + 1) call world).2 =
          (callee.execute (directory.dial depth) world).2 := by
        rw [hdial, Run.bind_apply]
        generalize callee.execute (directory.dial depth) world = ran
        obtain ⟨outcome, later⟩ := ran
        cases outcome <;> rfl
      let visit : Visit := ⟨callee, depth, world⟩
      have hown : (Visit.isCounted directory meter operation succeeded visit).toNat =
          if Visit.isCounted directory meter operation succeeded visit then 1 else 0 := by
        cases Visit.isCounted directory meter operation succeeded visit <;> rfl
      simp only [visits, hcallee, List.countP_cons, countP_flatMap_eq_weigh]
      rw [hrun, ← hown]
      exact hexecute
    · simp only [visits, hcallee, hdial]
      exact Counter.shown_of_meters_eq rfl

/-- Calls by name one after the other let a counter of the family grow by what each of them does. -/
theorem dialAll_shown (h : directory.IsMetered family meter) (operation : String) (succeeded : Bool)
    (depth : Nat) (calls : List ProxyCall) (world : World) :
    Counter.shown ⟨family, operation, succeeded⟩ (directory.dialAll depth calls world) =
      (Counter.shown ⟨family, operation, succeeded⟩ world).map
        (· + (directory.visitsAll depth calls world).countP
          (Visit.isCounted directory meter operation succeeded)) := by
  induction calls generalizing world with
  | nil => exact Counter.shown_of_meters_eq rfl
  | cons call calls ih =>
    have hcall := dial_weighs h operation succeeded depth call world
    rw [dialAll, ih, visitsAll, List.countP_append, ← Counter.map_add_map_add]
    exact congrArg _ hcall

end

/-- Whatever calls are made one after the other, with whatever other calls nested in them, and however each of
them ends: the counters of a meter family for an operation grow by the number of calls of that operation in
which the metric aspect of the chain was entered and did proceed and what it encloses returned, and the
counter for success grows by those in which it returned a value. In every chain only one metric aspect may
count in the family. -/
theorem counters_exact (directory : Directory) (family : Nat) (meter : Chain → Option Nat)
    (hmetered : directory.IsMetered family meter) (depth : Nat) (calls : List ProxyCall) (world : World)
    (hfamily : family < world.meters.families.length) (operation : String) :
    let later := directory.dialAll depth calls world
    let visits := directory.visitsAll depth calls world
    (∀ succeeded, later.meters.counter family operation succeeded =
        world.meters.counter family operation succeeded +
          visits.countP (Visit.isCounted directory meter operation succeeded)) ∧
      later.meters.counter family operation true + later.meters.counter family operation false =
        world.meters.counter family operation true + world.meters.counter family operation false +
          visits.countP (Visit.isMeasured directory meter operation) := by
  intro later visits
  have hcounter : ∀ succeeded, later.meters.counter family operation succeeded =
      world.meters.counter family operation succeeded +
        visits.countP (Visit.isCounted directory meter operation succeeded) := fun succeeded =>
    Counter.counter_of_shown ⟨family, operation, succeeded⟩ hfamily
      (dialAll_shown hmetered operation succeeded depth calls world)
  refine ⟨hcounter, ?_⟩
  rw [hcounter, hcounter, Visit.countP_isMeasured]
  omega

/-- A chain of three around advices: one that turns every result into an error, and two metric aspects, of which
the innermost counts in the first meter family. -/
def denying : Chain :=
  { advices := [], befores := [], afters := [], afterReturnings := [], afterThrowings := []
    arounds := [⟨"deny", 0, .ask .proceed fun _ => .done (.error (.configuration (.custom "denied")))⟩,
      ⟨"outer", 1, MetricAspect.around ⟨.default, 1⟩⟩, ⟨"metric", 2, MetricAspect.around ⟨.default, 0⟩⟩] }

/-- A service with one method, whose calls go through such a chain. -/
def denyingService (targetType : String) (target : AmbientProgram (Except ServiceError Value)) : Service :=
  { proxy :=
      { id := 0, targetType, interfaces := [], capabilities := []
        methods := [⟨⟨targetType, "Svc", ⟨"put", [], "()"⟩⟩, denying⟩]
        index := [(("Svc", "put"), 0)] }
    methods := [(("Svc", "put"), ⟨[], .unit, fun _ _ => target⟩)] }

/-- Two services. A call of the second calls the first and then breaks off. -/
def denyingServices : Directory :=
  ⟨[("users", denyingService "a.Users" (.done (.ok .unit))),
    ("audit", denyingService "a.Audit"
      (.ask (.call ⟨"users", "Svc", "put", .empty⟩) fun _ => .panic "audit"))]⟩

/-- A nested call is counted as a success, although its result is turned into an error later and the call around
it breaks off, which itself is not counted. -/
theorem counters_exact_audit :
    let world : World := { World.initial with
      meters := ((Meters.empty.register "aop" false).2.register "app" false).2 }
    let later := denyingServices.dialAll 2 [⟨"audit", "Svc", "put", .empty⟩] world
    denyingServices.IsMetered 0 (fun _ => some 2) ∧ 0 < world.meters.families.length ∧
      later.meters.counter 0 "a.Users.put" true = 1 ∧
      later.meters.counter 0 "a.Audit.put" true + later.meters.counter 0 "a.Audit.put" false = 0 := by
  intro world later
  have hchain : denying.IsMetered 0 (some 2) := by
    have hdeny : Program.Avoids (Steering.CountsIn 0) (denying.arounds[0]).body :=
      .ask nofun fun _ => .done _
    have houter := MetricAspect.around_avoids ⟨.default, 1⟩ Nat.one_ne_zero
    exact ⟨nofun, .spared hdeny (.spared houter (.metered ⟨.default, 0⟩ rfl rfl .nil)), nofun, nofun, nofun⟩
  have hmetered : denyingServices.IsMetered 0 fun _ => some 2 := by
    refine ⟨fun named hnamed entry hentry => ?_, fun named hnamed method hmethod values rest => ?_⟩
    · obtain rfl | rfl := List.mem_pair.mp hnamed <;> obtain rfl := List.mem_singleton.mp hentry <;>
        exact hchain
    · obtain rfl | rfl := List.mem_pair.mp hnamed <;> obtain rfl := List.mem_singleton.mp hmethod
      · exact .done _
      · exact .ask nofun fun _ => .panic _
  have hfamily : 0 < world.meters.families.length := by decide
  have husers := (counters_exact denyingServices 0 (fun _ => some 2) hmetered 2
    [⟨"audit", "Svc", "put", .empty⟩] world hfamily "a.Users.put").1 true
  have haudit := (counters_exact denyingServices 0 (fun _ => some 2) hmetered 2
    [⟨"audit", "Svc", "put", .empty⟩] world hfamily "a.Audit.put").2
  refine ⟨hmetered, hfamily, husers.trans ?_, haudit.trans ?_⟩
  · decide +kernel
  · decide +kernel

end Directory

end Interception
