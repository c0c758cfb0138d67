import Interception.Proofs.PastTarget
import Interception.Proofs.TargetEntry

/-!
# The flag of a called target

Advices can ask whether the target was called, and the flag that they see tells whether arguments were handed over
to it. It is not the same whether the method was entered. The target takes its arguments from those that were
handed over, which advices may have put in the place of the caller's, and enters the method only if all of them
fit. So the flag tells whether the method was entered exactly if what was handed over fits.
-/

namespace Interception

namespace Watched

variable {dial : Dialler}

/-- Arguments are handed over at most once, and not as long as the target is there to be taken. -/
def HandsOverOnce (running : Running) : Prop :=
  (running.targets = [] ∨ ∃ handed, running.targets = [handed]) ∧
    (running.invocation.terminal ≠ none → running.targets = [])

/-- A call hands arguments over at most once. -/
theorem phases_handsOverOnce (chain : Chain) : Stays HandsOverOnce (phases chain dial) := by
  have hkept : ∀ {running later : Running}, later.targets = running.targets →
      later.invocation.terminal = running.invocation.terminal → HandsOverOnce running → HandsOverOnce later := by
    intro running later htargets hterminal hrunning
    rwa [HandsOverOnce, htargets, hterminal]
  have hlasting : Lasting dial HandsOverOnce :=
    { ambient := fun _ _ => hkept rfl rfl
      routing := fun _ _ => hkept rfl rfl
      log := fun _ _ => hkept rfl rfl
      steering := fun _ _ _ _ => hkept rfl rfl
      entry := fun entry running hentry => hkept (Prod.mk.inj (running.ofTarget_record entry hentry)).2 rfl
      phase := fun phase running =>
        hkept (Prod.mk.inj (running.ofTarget_record (.phase phase) fun _ => nofun)).2 rfl }
  refine hlasting.phases (hlasting.callTarget fun running hterminal ⟨_, hnone⟩ => ⟨.inr ?_, absurd rfl⟩) chain
  rw [running.targets_enteringTarget, hnone hterminal]
  exact ⟨_, rfl⟩

/-- An after advice that is finished at once is in control at a moment of the call, if it is the first and the nest
is left. -/
theorem acts_of_after {chain : Chain} {running later : Running} {outcome : CallResult} {step : Step AfterBody}
    {steps : List (Step AfterBody)} {result : Except AopError Unit}
    (hinner : (inner chain dial).run running = (.returned outcome, later)) (hafters : chain.afters = step :: steps)
    (hbody : step.body = .done result) : (phases chain dial).acts running .finishes
      ((later.mapInvocation (·.enterPhase .unwinding)).mapInvocation (·.record (.advice .after step.sequence))) := by
  have hobserved : ∀ begun : Running, (observe dial .after step.sequence step.body).acts begun .finishes
      (begun.mapInvocation (·.record (.advice .after step.sequence))) := by
    intro begun
    rw [hbody]
    exact Or.inr ⟨(), _, rfl, Or.inl ⟨rfl, rfl⟩⟩
  have hclosing : (closing chain dial outcome).acts later .finishes
      ((later.mapInvocation (·.enterPhase .unwinding)).mapInvocation (·.record (.advice .after step.sequence))) := by
    refine Or.inr ⟨(), _, rfl, Or.inl ?_⟩
    rw [hafters]
    exact Or.inl (hobserved _)
  exact Or.inr ⟨outcome, later, hinner, hclosing⟩

end Watched

namespace TargetMethod

/-- The values that the method is entered with if these arguments are handed over, if it is entered. -/
def taken? (method : TargetMethod) (handed : Arguments) : Option (List Value) :=
  match (ArgumentReader.ofArguments handed).takeAll method.takes with
  | .ok (values, _) => some values
  | .error _ => none

/-- What the method was entered with so far, each time that it was. -/
def entries (method : TargetMethod) (running : Running) : List (List Value) :=
  running.targets.filterMap method.taken?

/-- The method is entered exactly if every parameter has an argument of its type. -/
theorem taken?_isSome_iff (method : TargetMethod) (handed : Arguments) :
    (method.taken? handed).isSome = true ↔
      ∀ index < method.takes.length, Fits method.takes handed.values index := by
  obtain ⟨hfits, htaken⟩ | ⟨index, type, htype, _, hmisfit, hrefused⟩ :=
    ArgumentReader.takeAll_cases method.takes handed.values 0
  · refine iff_of_true ?_ hfits
    rw [taken?, ArgumentReader.ofArguments, htaken]
    rfl
  · refine iff_of_false ?_ fun hfits => hmisfit (hfits index (List.getElem?_eq_some_iff.mp htype).1)
    rw [taken?, ArgumentReader.ofArguments, hrefused]
    exact Bool.false_ne_true

/-- What the target does with arguments that are handed over: it runs the method with what it takes of them, or
ends at once with an error. -/
theorem terminal_cases (method : TargetMethod) (handed : Arguments) :
    (∃ values left, method.taken? handed = some values ∧ method.terminal handed =
      method.body values left >>= fun answer => match answer with
        | .ok value => pure (.ok value)
        | .error error => pure (.error (.target (.service error)))) ∨
    method.taken? handed = none ∧ ∃ error, method.terminal handed = .done (.error error) := by
  rw [taken?, terminal]
  cases (ArgumentReader.ofArguments handed).takeAll method.takes with
  | ok taken => exact .inl ⟨taken.1, taken.2.remaining.length, rfl, rfl⟩
  | error error => exact .inr ⟨rfl, error, rfl⟩

/-- The method was entered exactly if arguments were handed over that fit. -/
theorem entries_ne_nil_iff (method : TargetMethod) (running : Running) :
    method.entries running ≠ [] ↔ ∃ handed ∈ running.targets,
      ∀ index < method.takes.length, Fits method.takes handed.values index := by
  simp only [entries, ne_eq, List.filterMap_eq_nil_iff, not_forall, ← method.taken?_isSome_iff,
    Option.isSome_iff_ne_none, exists_prop]

end TargetMethod

/-- Arguments are handed over once in a call, or not at all. -/
theorem Chain.targets_runPhases (chain : Chain) (dial : Dialler) (signature : CallSignature)
    (arguments : Arguments) (terminal : Terminal) (world : World) :
    let final := (chain.runPhases dial (start signature arguments terminal world)).2
    final.targets = [] ∨ ∃ handed, final.targets = [handed] := by
  intro final
  have honce : Watched.Stays Watched.HandsOverOnce (Watched.phases chain dial) :=
    Watched.phases_handsOverOnce chain
  obtain ⟨⟨hhanded, _⟩, _⟩ := honce (start signature arguments terminal world) ⟨.inl rfl, fun _ => rfl⟩
  rwa [Watched.run_phases] at hhanded

namespace Proxy

variable {proxy : Proxy} {id : MethodId} {entry : DispatchEntry}

/-- A call through a proxy leaves the surroundings as the phases of its chain do, and its routing scope. -/
theorem surroundings_of_entry (hentry : proxy.entry? id = some entry) (dial : Dialler) (arguments : Arguments)
    (result : ValueType) (terminal : Terminal) (world : World) :
    let final := (entry.chain.runPhases dial (Chain.start entry.signature arguments terminal world)).2
    let left := { final.world with scopes := final.world.scopes.leave final.invocation.scope }
    (proxy.invoke dial id arguments result terminal world).2 = left ∧
      (proxy.call dial id arguments result terminal world).2 = left := by
  intro final left
  have hinvoked : (proxy.invoke dial id arguments result terminal world).2 = left := by
    have hexecuted : (entry.chain.execute dial entry.signature arguments terminal world).2 = left := rfl
    rw [invoke, hentry]
    simp only [Run.bind_apply]
    generalize entry.chain.execute dial entry.signature arguments terminal world = ran at hexecuted
    obtain ⟨outcome, later⟩ := ran
    cases outcome <;> exact hexecuted
  refine ⟨hinvoked, ?_⟩
  rw [call, Run.bind_apply]
  generalize proxy.invoke dial id arguments result terminal world = ran at hinvoked
  obtain ⟨outcome, later⟩ := ran
  match outcome with
  | .returned (.ok value) => exact hinvoked
  | .returned (.error error) => exact hinvoked
  | .panicked message => exact hinvoked
  | .exhausted => exact hinvoked

/-- At every moment of a call through a proxy the flag tells whether arguments were handed over to the target so
far. If the code in control has the target behind it, the flag tells whether they are handed over at all in the
call, and what the method was entered with does not change any more. The flag then tells whether the method was
entered exactly if what was handed over fits. -/
theorem flag_tells_of_handing_over (hentry : proxy.entry? id = some entry) (dial : Dialler)
    (arguments : Arguments) (world : World) (method : TargetMethod) :
    let begun := Chain.start entry.signature arguments method.terminal world
    let final := (entry.chain.runPhases dial begun).2
    let left := { final.world with scopes := final.world.scopes.leave final.invocation.scope }
    let seen (now : Running) := (now.invocation.view now.world.scopes).targetCalled
    ((proxy.invoke dial id arguments method.result method.terminal world).2 = left ∧
      (proxy.call dial id arguments method.result method.terminal world).2 = left) ∧
    (final.targets = [] ∨ ∃ handed, final.targets = [handed]) ∧
    (∀ act now, (Watched.phases entry.chain dial).acts begun act now → (seen now = true ↔ now.targets ≠ [])) ∧
    ∀ act now, (Watched.phases entry.chain dial).acts begun act now → now.IsPast →
      (seen now = true ↔ ∃ handed, final.targets = [handed]) ∧
      method.entries now = method.entries final ∧
      ((seen now = true ↔ method.entries final ≠ []) ↔
        ∀ handed ∈ final.targets, ∀ index < method.takes.length, Fits method.takes handed.values index) := by
  intro begun final left seen
  have hfinal : final.targets = [] ∨ ∃ handed, final.targets = [handed] :=
    entry.chain.targets_runPhases dial entry.signature arguments method.terminal world
  have hflagged : ∀ act now, (Watched.phases entry.chain dial).acts begun act now →
      (seen now = true ↔ now.targets ≠ []) :=
    (Watched.phases_flagged entry.chain begun (iff_of_false Bool.false_ne_true fun h => h rfl)).2
  refine ⟨surroundings_of_entry hentry dial arguments method.result method.terminal world, hfinal, hflagged,
    fun act now hacts hpast => ?_⟩
  have hstands : begun.Stands [.entered] [] :=
    Running.stands_start entry.signature arguments method.terminal world
  have hconcluded := Watched.phases_concludes entry.chain hstands act now hacts hpast
  rw [Watched.run_phases] at hconcluded
  have htargets : now.targets = final.targets := (Prod.mk.inj hconcluded).2
  have hentries : method.entries now = method.entries final :=
    congrArg (List.filterMap method.taken?) htargets
  have hentered := method.entries_ne_nil_iff final
  rw [hflagged act now hacts, htargets, hentered]
  obtain hnone | ⟨handed, hhanded⟩ := hfinal
  · simp [hnone, hentries]
  · simp [hhanded, hentries]

/-- An around advice hands a number over in place of a text, and something that is left over. An after advice sees
that the target was called, and the method was entered with the number. -/
theorem flag_tells_of_handing_over_replaced :
    let dial : Dialler := fun _ => Run.exhausted
    let signature : CallSignature := ⟨"a.Svc", "Svc", ⟨"get", ["u32"], "()"⟩⟩
    let replaces : Step AroundBody := ⟨"replaces", 0, do
      Program.request (Steering.setArguments ⟨[.u32 7, .string "rest"]⟩)
      Steering.goOn⟩
    let chain : Chain := ⟨[], [], [replaces], [⟨"audits", 1, pure (.ok ())⟩], [], []⟩
    let method : TargetMethod := ⟨[.u32], .unit, fun _ _ => pure (.ok .unit)⟩
    let begun := Chain.start signature ⟨[.string "seven"]⟩ method.terminal .initial
    ∃ act now, (Watched.phases chain dial).acts begun act now ∧ now.IsPast ∧
      (now.invocation.view now.world.scopes).targetCalled = true ∧ method.entries now = [[.u32 7]] := by
  intro dial signature replaces chain method begun
  let proxy : Proxy := ⟨0, "a.Svc", [], [⟨signature, chain⟩], [], []⟩
  have hentry : proxy.entry? ⟨0, 0⟩ = some ⟨signature, chain⟩ := rfl
  obtain ⟨now, hacts, hcontrol⟩ : ∃ now, (Watched.phases chain dial).acts begun .finishes now ∧
      now.inControl? = some .after := ⟨_, Watched.acts_of_after rfl rfl rfl, rfl⟩
  have hpast : now.IsPast := .inr ⟨.after, hcontrol, rfl⟩
  obtain ⟨_, _, _, hmoments⟩ := flag_tells_of_handing_over hentry dial ⟨[.string "seven"]⟩ .initial method
  obtain ⟨hseen, hentries, _⟩ := hmoments .finishes now hacts hpast
  exact ⟨.finishes, now, hacts, hpast, hseen.mpr ⟨_, rfl⟩, hentries⟩

/-- The flag does not tell whether the method was entered: an around advice clears the arguments before it proceeds,
and an after advice sees that the target was called, although the method never was. -/
theorem flag_set_without_entering :
    ¬ ∀ (proxy : Proxy) (id : MethodId) (entry : DispatchEntry) (dial : Dialler) (arguments : Arguments)
      (world : World) (method : TargetMethod), proxy.entry? id = some entry →
      let begun := Chain.start entry.signature arguments method.terminal world
      ∀ act now, (Watched.phases entry.chain dial).acts begun act now → now.IsPast →
        ((now.invocation.view now.world.scopes).targetCalled = true ↔
          method.entries (entry.chain.runPhases dial begun).2 ≠ []) := by
  intro hall
  let signature : CallSignature := ⟨"a.Svc", "Svc", ⟨"get", ["u64"], "()"⟩⟩
  let clears : Step AroundBody := ⟨"clears", 0, do
    Program.request (Steering.setArguments .empty)
    Steering.goOn⟩
  let chain : Chain := ⟨[], [], [clears], [⟨"audits", 1, pure (.ok ())⟩], [], []⟩
  let proxy : Proxy := ⟨0, "a.Svc", [], [⟨signature, chain⟩], [], []⟩
  let method : TargetMethod := ⟨[.u64], .unit, fun _ _ => pure (.ok .unit)⟩
  have hflag := hall proxy ⟨0, 0⟩ ⟨signature, chain⟩ (fun _ => Run.exhausted) ⟨[.u64 1]⟩ .initial method rfl
    .finishes _ (Watched.acts_of_after rfl rfl rfl) (.inr ⟨.after, rfl, rfl⟩)
  exact hflag.mp rfl rfl

end Proxy

end Interception
