import Interception.Directory
import Interception.Proofs.CallInvariants

/-!
# Routing scopes of nested calls

A call works on the innermost scope, and all its code can do to the scopes is to set the key of that one
and to call other methods. So at every moment of a call the scopes are those that were open before it with
one scope on top, provided that nested calls leave the scopes as they find them. They do, because leaving
the scope of a call takes away exactly what the call put on top, however it ends; this is an induction on
how deeply calls are nested.

In a nest of calls each call stands on the scopes of the calls around it. So whatever inner calls set, the
key of every enclosing call is the one it had when it made its nested call.
-/

namespace Interception

/-- Nested calls leave the scopes as they find them, however they end. -/
def Dialler.Restores (dial : Dialler) : Prop :=
  ∀ call world, (dial call world).2.scopes = world.scopes

/-- A call works on the innermost scope, and the scopes below it are those that were open before it. -/
def InScope (outer : RoutingStack) (running : Running) : Prop :=
  running.invocation.scope = ⟨outer.size⟩ ∧
    ∃ key, running.world.scopes.keys = outer.keys ++ [key]

/-- The routing key of a call. -/
def Running.routingKey (running : Running) : Option String :=
  running.world.scopes.get running.invocation.scope

section

variable {dial : Dialler} {outer : RoutingStack}

/-- A call begins in its own scope, which holds the key that was current before it. -/
theorem inScope_start (signature : CallSignature) (arguments : Arguments) (terminal : Terminal)
    (world : World) : InScope world.scopes (Chain.start signature arguments terminal world) :=
  ⟨rfl, world.scopes.current, rfl⟩

/-- The key of a call is that of the innermost scope. -/
theorem InScope.keys_eq {running : Running} (h : InScope outer running) :
    running.world.scopes.keys = outer.keys ++ [running.routingKey] := by
  obtain ⟨hscope, key, hkeys⟩ := h
  rw [Running.routingKey, RoutingStack.get, hscope, hkeys, RoutingStack.size]
  simp

/-- A call begins with the key that was current before it. -/
theorem routingKey_start (signature : CallSignature) (arguments : Arguments) (terminal : Terminal)
    (world : World) :
    (Chain.start signature arguments terminal world).routingKey = world.scopes.current := by
  have hstart := (inScope_start signature arguments terminal world).keys_eq
  have hcurrent : (Chain.start signature arguments terminal world).world.scopes.keys =
      world.scopes.keys ++ [world.scopes.current] := rfl
  rw [hcurrent, List.append_cancel_left_eq, List.singleton_inj] at hstart
  exact hstart.symm

/-- The current key is that of the call that is running. -/
theorem InScope.current_eq {running : Running} (h : InScope outer running) :
    running.world.scopes.current = running.routingKey := by
  rw [RoutingStack.current, h.keys_eq, List.getLast?_concat]
  rfl

/-- Requests that any code may make leave the scopes as they are. -/
theorem Ambient.answer_scopes (hdial : dial.Restores) (request : Ambient) (world : World) :
    (request.answer dial world).2.scopes = world.scopes := by
  cases request with
  | call call => exact hdial call world
  | _ => rfl

/-- In the surroundings of a call, requests that any code may make leave the scopes as they are. -/
theorem inWorld_keeps_inScope (hdial : dial.Restores) (request : Ambient) :
    Run.Keeps (InScope outer) (Run.inWorld (request.answer dial)) := by
  rintro running ⟨hscope, key, hkeys⟩
  refine ⟨hscope, key, ?_⟩
  change (request.answer dial running.world).2.scopes.keys = _
  rw [Ambient.answer_scopes hdial, hkeys]

/-- Setting the key of a call changes the innermost scope. -/
theorem InScope.setRoutingKey {running : Running} (h : InScope outer running) (key : Option String) :
    InScope outer { running with
      world := { running.world with
        scopes := running.world.scopes.set running.invocation.scope key } } := by
  obtain ⟨hscope, old, hkeys⟩ := h
  refine ⟨hscope, key, ?_⟩
  change running.world.scopes.keys.set running.invocation.scope.below key = _
  rw [hkeys, hscope, RoutingStack.size, List.set_append_right _ _ (Nat.le_refl _), Nat.sub_self]
  rfl

/-- Nothing that happens in a call leads out of its scope. -/
theorem lasting_inScope (hdial : dial.Restores) : Watched.Lasting dial (InScope outer) where
  ambient := inWorld_keeps_inScope hdial
  routing key _ h := h.setRoutingKey key
  log _ _ h := h
  steering _ _ _ _ h := h
  entry _ _ _ h := h
  phase _ _ h := h

/-- A call stays in its scope through all its phases. -/
theorem Watched.phases_inScope (hdial : dial.Restores) (chain : Chain) :
    Stays (InScope outer) (phases chain dial) :=
  have hlasting := lasting_inScope hdial
  hlasting.phases (hlasting.callTarget fun _ _ h => h) chain

/-- A call leaves the scopes as it finds them, however it ends, if nested calls do. -/
theorem Chain.execute_scopes (hdial : dial.Restores) (chain : Chain) (signature : CallSignature)
    (arguments : Arguments) (terminal : Terminal) (world : World) :
    (chain.execute dial signature arguments terminal world).2.scopes = world.scopes := by
  have hphases := (Watched.phases_inScope hdial chain _
    (inScope_start signature arguments terminal world)).1
  rw [Watched.run_phases] at hphases
  unfold Chain.execute
  generalize chain.runPhases dial (Chain.start signature arguments terminal world) = ran at hphases
  obtain ⟨outcome, running⟩ := ran
  obtain ⟨hscope, key, hkeys⟩ := hphases
  change RoutingStack.mk (running.world.scopes.keys.take running.invocation.scope.below) = _
  rw [hkeys, hscope, RoutingStack.size, List.take_left]

/-- A call through a proxy leaves the scopes as it finds them, if nested calls do. -/
theorem Proxy.invoke_keeps_scopes (hdial : dial.Restores) (proxy : Proxy) (id : MethodId)
    (arguments : Arguments) (result : ValueType) (terminal : Terminal) (scopes : RoutingStack) :
    Run.Keeps (·.scopes = scopes) (proxy.invoke dial id arguments result terminal) := by
  unfold Proxy.invoke
  split
  · exact Run.Keeps.pure _
  · refine Run.Keeps.bind (fun world hworld => ?_) fun outcome => Run.Keeps.pure _
    rw [Chain.execute_scopes hdial, hworld]

end

/-- A call of a method whose chain and target are known. -/
structure ChainCall where
  /-- The chain that the call goes through. -/
  chain : Chain
  /-- The method that is called. -/
  signature : CallSignature
  /-- The arguments of the call. -/
  arguments : Arguments
  /-- What the target does with the arguments. -/
  terminal : Terminal

namespace ChainCall

/-- The call at its beginning. -/
def start (call : ChainCall) (world : World) : Running :=
  Chain.start call.signature call.arguments call.terminal world

/-- Executes the call. -/
def execute (call : ChainCall) (dial : Dialler) : Run World CallResult :=
  call.chain.execute dial call.signature call.arguments call.terminal

end ChainCall

namespace Directory

/-- What a call by name leads to, if the proxy and its method are known. -/
def callee? (directory : Directory) (call : ProxyCall) : Option ChainCall := do
  let service ← directory.find? call.proxy
  let id ← (service.proxy.method call.interface call.method).toOption
  let entry ← service.proxy.entry? id
  some ⟨entry.chain, entry.signature, call.arguments,
    (service.method call.interface call.method).terminal⟩

/-- A call by name executes what it leads to, and otherwise does nothing. -/
theorem dial_eq (directory : Directory) (depth : Nat) (call : ProxyCall) :
    (∃ callee result, directory.callee? call = some callee ∧
      directory.dial (depth + 1) call = callee.execute (directory.dial depth) >>= fun outcome =>
        pure (Proxy.expect result outcome)) ∨
    directory.callee? call = none ∧ ∃ error, directory.dial (depth + 1) call = pure (.error error) := by
  simp only [callee?, dial]
  cases directory.find? call.proxy with
  | none => exact .inr ⟨rfl, _, rfl⟩
  | some service =>
    cases hmethod : service.proxy.method call.interface call.method with
    | error error => exact .inr ⟨by simp [hmethod, Except.toOption], error, by simp only [hmethod]⟩
    | ok id =>
      cases hentry : service.proxy.entry? id with
      | none =>
        refine .inr ⟨by simp [hmethod, hentry, Except.toOption], ?_⟩
        simp only [hmethod, Service.invoke, Proxy.invoke, hentry]
        exact ⟨_, rfl⟩
      | some entry =>
        refine .inl ⟨⟨entry.chain, entry.signature, call.arguments,
          (service.method call.interface call.method).terminal⟩,
          (service.method call.interface call.method).result, ?_, ?_⟩
        · simp [hmethod, hentry, Except.toOption]
        · simp only [hmethod, Service.invoke, Proxy.invoke, hentry]
          rfl

/-- Calls by name leave the scopes as they find them, however deeply they are nested. -/
theorem dial_restores (directory : Directory) (depth : Nat) : (directory.dial depth).Restores := by
  induction depth with
  | zero => exact fun _ _ => rfl
  | succ depth ih =>
    intro call world
    obtain ⟨callee, result, _, hdial⟩ | ⟨_, error, hdial⟩ := directory.dial_eq depth call
    · have hcallee : Run.Keeps (·.scopes = world.scopes) (callee.execute (directory.dial depth)) :=
        fun later hlater => (Chain.execute_scopes ih _ _ _ _ later).trans hlater
      rw [hdial]
      exact hcallee.bind (fun outcome => Run.Keeps.pure _) world rfl
    · rw [hdial]
      rfl

/-- Code acts at a moment of a call, or of a call nested in it. The calls around the one to which the code
belongs are given from the outermost on, each as it was when it made the call nested in it. -/
inductive Moment (directory : Directory) :
    (depth : Nat) → ChainCall → World → List Running → Act → Running → Prop where
  /-- The code belongs to the call itself. -/
  | own {depth : Nat} {call : ChainCall} {world : World} {act : Act} {now : Running} :
    (Watched.phases call.chain (directory.dial depth)).acts (call.start world) act now →
      Moment directory depth call world [] act now
  /-- The code belongs to a nested call or to a call nested in that. -/
  | nested {depth : Nat} {call callee : ChainCall} {world : World} {request : ProxyCall}
      {caller : Running} {enclosing : List Running} {act : Act} {now : Running} :
    (Watched.phases call.chain (directory.dial (depth + 1))).acts (call.start world)
        (.asks (.ambient (.call request))) caller →
      directory.callee? request = some callee →
      Moment directory depth callee caller.world enclosing act now →
      Moment directory (depth + 1) call world (caller :: enclosing) act now

variable {directory : Directory} {depth : Nat} {call : ChainCall} {world : World}
  {enclosing : List Running} {act : Act} {now : Running}

/-- At every moment of its own, a call is in its scope. -/
theorem inScope_of_acts
    (h : (Watched.phases call.chain (directory.dial depth)).acts (call.start world) act now) :
    InScope world.scopes now :=
  (Watched.phases_inScope (directory.dial_restores depth) call.chain _
    (inScope_start call.signature call.arguments call.terminal world)).2 act now h

/-- At every moment the innermost call is in its scope. -/
theorem Moment.inScope (h : directory.Moment depth call world enclosing act now) :
    ∃ outer, InScope outer now := by
  induction h with
  | own hacts => exact ⟨_, inScope_of_acts hacts⟩
  | nested _ _ _ ih => exact ih

/-- At every moment the scopes are those from before the call, and on top one for each call that is
running, with its key. -/
theorem Moment.keys_eq (h : directory.Moment depth call world enclosing act now) :
    now.world.scopes.keys = world.scopes.keys ++ (enclosing ++ [now]).map Running.routingKey := by
  induction h with
  | own hacts => exact (inScope_of_acts hacts).keys_eq
  | nested hacts _ _ ih =>
    rw [ih, (inScope_of_acts hacts).keys_eq]
    simp

/-- At every moment the keys of the enclosing calls are what they were when these calls were left. -/
theorem Moment.get_enclosing (h : directory.Moment depth call world enclosing act now) :
    ∀ caller ∈ enclosing, now.world.scopes.get caller.invocation.scope = caller.routingKey := by
  induction h with
  | own _ => exact fun caller hcaller => absurd hcaller List.not_mem_nil
  | @nested depth call callee world request caller enclosing act now hacts _ hinner ih =>
    refine List.forall_mem_cons.mpr ⟨?_, ih⟩
    -- The scopes that the nested call found are still there, and its caller's is among them.
    obtain ⟨hscope, key, hkeys⟩ := inScope_of_acts hacts
    have hbelow : caller.invocation.scope.below < caller.world.scopes.keys.length := by
      rw [hkeys, hscope, RoutingStack.size, List.length_append]
      exact Nat.lt_succ_self _
    rw [Running.routingKey, RoutingStack.get, RoutingStack.get, hinner.keys_eq,
      List.getElem?_append_left hbelow]

end Directory

/-- However a call through a proxy ends, the routing scopes are what they were before it, each with its
key. The call begins with the key that was current, and at every moment, however deeply nested the call
that is running, the scopes are those from before with one for each call on top. So what inner calls set
does not reach the enclosing calls, whose keys are those with which they made their nested calls, and a
call that begins inherits the key of the call that is running. -/
theorem Proxy.invoke_isolates_routing (directory : Directory) (depth : Nat) (proxy : Proxy)
    (id : MethodId) (arguments : Arguments) (result : ValueType) (terminal : Terminal) (world : World) :
    (proxy.invoke (directory.dial depth) id arguments result terminal world).2.scopes = world.scopes ∧
    (proxy.call (directory.dial depth) id arguments result terminal world).2.scopes = world.scopes ∧
    ∀ entry, proxy.entry? id = some entry →
      let call : ChainCall := ⟨entry.chain, entry.signature, arguments, terminal⟩
      (call.start world).routingKey = world.scopes.current ∧
      ∀ enclosing act now, directory.Moment depth call world enclosing act now →
        now.world.scopes.keys = world.scopes.keys ++ (enclosing ++ [now]).map Running.routingKey ∧
        (∀ caller ∈ enclosing, now.world.scopes.get caller.invocation.scope = caller.routingKey) ∧
        ∀ callee : ChainCall, (callee.start now.world).routingKey = now.routingKey := by
  have hdial := directory.dial_restores depth
  have hinvoke := proxy.invoke_keeps_scopes hdial id arguments result terminal world.scopes
  refine ⟨hinvoke world rfl, ?_, fun entry hentry =>
    ⟨routingKey_start _ _ _ _, fun enclosing act now hmoment => ?_⟩⟩
  · refine Run.Keeps.bind hinvoke (fun outcome => ?_) world rfl
    cases outcome <;> exact Run.Keeps.pure _
  · obtain ⟨outer, hnow⟩ := hmoment.inScope
    exact ⟨hmoment.keys_eq, hmoment.get_enclosing, fun callee =>
      (routingKey_start _ _ _ _).trans hnow.current_eq⟩

/-- A chain of one before advice, which sets the routing key and makes one more request. -/
def Chain.routed (key : String) (request : Steering) : Chain :=
  let body : BeforeBody := .ask (.setRoutingKey (some key)) fun _ => .ask request fun _ => .done (.ok ())
  ⟨[], [⟨"route", 0, body⟩], [], [], [], []⟩

/-- The advice makes its request when the routing key is set. -/
theorem Chain.acts_routed (dial : Dialler) (key : String) (request : Steering) (running : Running) :
    ∃ now, (Watched.phases (Chain.routed key request) dial).acts running (.asks request) now ∧
      now.world.scopes = running.world.scopes.set running.invocation.scope (some key) := by
  -- The phases begin with the inner part, this with the before advices, and these with the only one.
  have hbefore : ∃ now, (Watched.befores dial (Chain.routed key request).befores).acts running
      (.asks request) now ∧
      now.world.scopes = running.world.scopes.set running.invocation.scope (some key) :=
    ⟨_, Or.inl (Or.inr ⟨(), _, rfl, Or.inl (Or.inr (Or.inr ⟨(), _, rfl, Or.inl ⟨rfl, rfl⟩⟩))⟩), rfl⟩
  obtain ⟨now, hacts, hscopes⟩ := hbefore
  exact ⟨now, Or.inl (Or.inl hacts), hscopes⟩

/-- A proxy of one method, whose calls go through such a chain. -/
def Proxy.routed (id : Nat) (key : String) (request : Steering) : Proxy :=
  { id, targetType := "a.Svc", interfaces := [], capabilities := []
    methods := [⟨⟨"a.Svc", "Svc", ⟨"put", [], "()"⟩⟩, Chain.routed key request⟩]
    index := [(("Svc", "put"), 0)] }

/-- While a nested call has set its own key, the enclosing call still has the key that it set before. -/
theorem Proxy.invoke_isolates_routing_nested :
    let directory : Directory := ⟨[("inner", ⟨Proxy.routed 1 "inner" .view, []⟩)]⟩
    let proxy := Proxy.routed 0 "outer" (.ambient (.call ⟨"inner", "Svc", "put", .empty⟩))
    ∃ entry caller now, proxy.entry? ⟨0, 0⟩ = some entry ∧
      directory.Moment 1 ⟨entry.chain, entry.signature, .empty, fun _ => .done (.ok .unit)⟩ .initial
        [caller] (.asks .view) now ∧
      now.world.scopes.keys = [some "outer", some "inner"] ∧
      now.world.scopes.get caller.invocation.scope = caller.routingKey ∧
      (proxy.invoke (directory.dial 1) ⟨0, 0⟩ .empty .unit (fun _ => .done (.ok .unit))
        .initial).2.scopes = .empty := by
  intro directory proxy
  let terminal : Terminal := fun _ => .done (.ok .unit)
  let entry : DispatchEntry := proxy.methods[0]
  let call : ChainCall := ⟨entry.chain, entry.signature, .empty, terminal⟩
  obtain ⟨callee, hcallee⟩ : ∃ callee,
      directory.callee? ⟨"inner", "Svc", "put", .empty⟩ = some callee := ⟨_, rfl⟩
  have hchain : callee.chain = Chain.routed "inner" .view := by
    cases hcallee
    rfl
  obtain ⟨caller, hcaller, hcallerScopes⟩ := Chain.acts_routed (directory.dial 1) "outer"
    (.ambient (.call ⟨"inner", "Svc", "put", .empty⟩)) (call.start .initial)
  obtain ⟨now, hnow, hnowScopes⟩ :=
    Chain.acts_routed (directory.dial 0) "inner" .view (callee.start caller.world)
  have hmoment : directory.Moment 1 call .initial [caller] (.asks .view) now :=
    .nested hcaller hcallee (.own (hchain ▸ hnow))
  have hkeys : now.world.scopes.keys = [some "outer", some "inner"] := by
    rw [hnowScopes]
    change (caller.world.scopes.enter.2.set ⟨caller.world.scopes.size⟩ (some "inner")).keys = _
    rw [hcallerScopes]
    rfl
  obtain ⟨hscopes, _, hmoments⟩ :=
    Proxy.invoke_isolates_routing directory 1 proxy ⟨0, 0⟩ .empty .unit terminal .initial
  obtain ⟨_, hisolated⟩ := hmoments entry rfl
  obtain ⟨_, henclosing, _⟩ := hisolated [caller] (.asks .view) now hmoment
  exact ⟨entry, caller, now, rfl, hmoment, hkeys, henclosing caller List.mem_cons_self, hscopes⟩

end Interception
