import Interception.Proofs.CountedCalls
import Interception.Proofs.RecordedCalls

/-!
# Independent calls

Calls are made by name, one after the other. If all advices and targets depend on their own calls only, it does
not matter in which order: every call is reported as if it were made alone from the same routing scopes. Its
report tells how it ended, what happened in it and in the calls nested in it, and which routing keys its code
saw. Since every call leaves the scopes as it finds them, however it ends, all calls find the scopes from before
the first.

The reports account for what the calls leave behind: the counters of meter families grow by the finished calls
that were counted. So the counters do not depend on the order of the calls either, and neither does the number
of executions of a target, which is read from the reports as well.
-/

namespace Interception

namespace Meters

/-- A counter grows by one with every finished call that it is for, if its family is registered. -/
theorem counter_countAll (meters : Meters) (counted : List (Nat × String × Bool)) {family : Nat}
    (hfamily : family < meters.families.length) (method : String) (succeeded : Bool) :
    (meters.countAll counted).counter family method succeeded =
      meters.counter family method succeeded + counted.count (family, method, succeeded) := by
  induction counted generalizing meters with
  | nil => rfl
  | cons first rest ih =>
    obtain ⟨number, method', succeeded'⟩ := first
    have hkept : (meters.count number method' succeeded').families.length = meters.families.length :=
      List.length_modify ..
    have hfirst : (meters.count number method' succeeded').counter family method succeeded =
        meters.counter family method succeeded +
          if (family, method, succeeded) = (number, method', succeeded') then 1 else 0 := by
      by_cases hnumber : number < meters.families.length
      · exact counter_count meters number family method' method succeeded' succeeded hnumber
      · -- Nothing is counted in a family that is not registered.
        have hsame : meters.count number method' succeeded' = meters := by
          rw [count, List.modify_eq_self (Nat.le_of_not_lt hnumber)]
        have hother : (family, method, succeeded) ≠ (number, method', succeeded') := fun heq =>
          hnumber ((Prod.mk.inj heq).1 ▸ hfamily)
        rw [hsame, if_neg hother]
        rfl
    have hrest := ih (meters.count number method' succeeded') (hkept ▸ hfamily)
    rw [countAll, List.foldl_cons, ← countAll, hrest, hfirst, List.count_cons]
    simp only [beq_iff_eq, eq_comm (a := (family, method, succeeded))]
    omega

/-- A family that is not registered counts nothing. -/
theorem counter_countAll_of_le (meters : Meters) (counted : List (Nat × String × Bool)) {family : Nat}
    (hfamily : meters.families.length ≤ family) (method : String) (succeeded : Bool) :
    (meters.countAll counted).counter family method succeeded = 0 := by
  induction counted generalizing meters with
  | nil => rw [countAll, List.foldl_nil, counter, List.getElem?_eq_none hfamily]
  | cons first rest ih => exact ih _ (Nat.le_trans (Nat.le_of_eq (List.length_modify ..)) hfamily)

/-- The order in which finished calls are counted does not matter. -/
theorem counter_countAll_perm (meters : Meters) {counted counted' : List (Nat × String × Bool)}
    (h : counted.Perm counted') (family : Nat) (method : String) (succeeded : Bool) :
    (meters.countAll counted).counter family method succeeded =
      (meters.countAll counted').counter family method succeeded := by
  rcases Nat.lt_or_ge family meters.families.length with hfamily | hfamily
  · rw [counter_countAll _ _ hfamily, counter_countAll _ _ hfamily, h.count_eq]
  · rw [counter_countAll_of_le _ _ hfamily, counter_countAll_of_le _ _ hfamily]

end Meters

/-- What is reported of a call by name. -/
structure ReportedCall where
  /-- The call. -/
  request : ProxyCall
  /-- How it ended. -/
  outcome : Outcome CallResult
  /-- What happened in it and in the calls nested in it. -/
  transcript : List Happening
  /-- The routing keys that code saw. -/
  keys : List (Option String)

namespace Directory

/-- The report of a call by name. -/
def report (directory : Directory) (depth : Nat) (world : World) (request : ProxyCall) : ReportedCall :=
  let transcript := directory.transcript depth request world
  { request, transcript, outcome := (directory.dial depth request world).1
    keys := transcript.filterMap Happening.key? }

/-- The reports of calls by name that are made one after the other, however they end. -/
def reports (directory : Directory) (depth : Nat) : List ProxyCall → World → List ReportedCall
  | [], _ => []
  | request :: requests, world =>
    directory.report depth world request ::
      reports directory depth requests (directory.dial depth request world).2

/-- Whether the target of a proxy is executed: it is entered, and the arguments fit its parameters. -/
def executes (directory : Directory) (proxy : String) : Happening → Bool
  | .entered request arguments => request.proxy == proxy &&
    (directory.find? request.proxy).any fun service => ((ArgumentReader.ofArguments arguments).takeAll
      (service.method request.interface request.method).takes).isOk
  | _ => false

/-- How often the target of a proxy is executed in calls. -/
def executions (directory : Directory) (proxy : String) (reports : List ReportedCall) : Nat :=
  (reports.flatMap ReportedCall.transcript).countP (directory.executes proxy)

section

variable {directory : Directory} {world found : World}

/-- A call by name leads to a chain and to a target that depend on their own call only. -/
theorem IsContained.callee (h : directory.IsContained) {request : ProxyCall} {callee : ChainCall}
    (hcallee : directory.callee? request = some callee) :
    callee.chain.IsContained ∧ ∀ arguments, (callee.terminal arguments).IsContained := by
  obtain ⟨named, hnamed, entry, hentry, hchain, hterminal⟩ := exists_of_callee? hcallee
  refine ⟨hchain ▸ h.chains named hnamed entry hentry, fun arguments => ?_⟩
  rw [hterminal]
  refine TargetMethod.terminal_isContained ?_ arguments
  intro values rest
  obtain ⟨method, hmethod, heq⟩ | hnothing := named.2.method_cases request.interface request.method
  · rw [← heq]
    exact h.targets named hnamed method hmethod values rest
  · rw [hnothing]
    exact .done _

/-- Calls by name have their transcripts, however deeply they are nested. -/
theorem dial_recorded (h : directory.IsContained) (depth : Nat) :
    (directory.dial depth).Recorded (directory.transcript depth) := by
  induction depth with
  | zero =>
    intro request
    exact ⟨fun _ => ⟨(List.append_nil _).symm, rfl⟩, fun hworld => ⟨.exhausted hworld, rfl⟩⟩
  | succ depth ih =>
    intro request
    have hran : Run.Recorded World.Alongside id (directory.dial (depth + 1) request) fun world =>
        (directory.callee? request).elim [] fun callee =>
          callee.transcript (directory.dial depth) (directory.transcript depth) request world := by
      obtain ⟨callee, result, hcallee, hdial⟩ | ⟨hcallee, error, hdial⟩ := directory.dial_eq depth request
      · obtain ⟨hchain, hterminal⟩ := h.callee hcallee
        rw [hcallee, hdial]
        exact (ChainCall.execute_recorded ih request hchain hterminal).bind_quiet fun _ => .pure _
      · rw [hcallee, hdial]
        exact .pure _
    refine ⟨fun world => ?_, fun hworld => ?_⟩
    · have hended : ∀ (later : World) outcome, later.Becomes [.ended outcome] later :=
        fun later _ => (World.Becomes.refl later).cons rfl rfl
      exact ((hran.becomes world).append (hended _ _)).cons rfl rfl
    · obtain ⟨hended, htold⟩ := hran.repeats hworld
      refine ⟨hended, ?_⟩
      simp only [transcript, htold, hended.outcome_eq]

/-- A call is reported alike wherever the same routing scopes are open. -/
theorem report_eq (h : directory.IsContained) (depth : Nat) (request : ProxyCall)
    (hscopes : found.scopes = world.scopes) :
    directory.report depth found request = directory.report depth world request := by
  obtain ⟨hended, htold⟩ := (dial_recorded h depth request).repeats hscopes
  simp only [report, htold, hended.outcome_eq]

/-- Calls that are made one after the other are reported as if each were made alone, and they leave the scopes
as they find them. -/
theorem reports_eq_map (h : directory.IsContained) (depth : Nat) (requests : List ProxyCall) (found : World)
    (hscopes : found.scopes = world.scopes) :
    directory.reports depth requests found = requests.map (directory.report depth world) ∧
      (directory.dialAll depth requests found).scopes = world.scopes := by
  induction requests generalizing found with
  | nil => exact ⟨rfl, hscopes⟩
  | cons request requests ih =>
    have hrestored : (directory.dial depth request found).2.scopes = world.scopes :=
      (directory.dial_restores depth request found).trans hscopes
    obtain ⟨hreports, hlast⟩ := ih _ hrestored
    exact ⟨by rw [reports, List.map_cons, report_eq h depth request hscopes, hreports], hlast⟩

/-- The reports account for what the calls leave behind. -/
theorem reports_account (h : directory.IsContained) (depth : Nat) (requests : List ProxyCall)
    (world : World) : world.Becomes ((directory.reports depth requests world).flatMap ReportedCall.transcript)
      (directory.dialAll depth requests world) := by
  induction requests generalizing world with
  | nil => exact .refl world
  | cons request requests ih => exact ((dial_recorded h depth request).becomes world).append (ih _)

/-- If all advices and targets depend on their own calls only, calls are independent. A call is reported alike
wherever it is made with the same routing scopes open: it ends alike, the same happens in it, and its code sees
the same routing keys. In whatever order calls are made one after the other, with whatever calls nested in them
and however they end, each is reported as if it were made alone, and the scopes are in the end what they were.
The reports account for the notes and the finished calls that are left behind, all counters of meters are the
same, and so are the numbers of executions of each target. -/
theorem calls_independent (directory : Directory) (hcontained : directory.IsContained) (depth : Nat)
    (world : World) {requests order : List ProxyCall} (hperm : order.Perm requests) :
    (∀ found : World, found.scopes = world.scopes → ∀ request,
      directory.report depth found request = directory.report depth world request) ∧
    directory.reports depth order world = order.map (directory.report depth world) ∧
    (directory.reports depth order world).Perm (directory.reports depth requests world) ∧
    (directory.dialAll depth order world).scopes = world.scopes ∧
    world.Becomes ((directory.reports depth order world).flatMap ReportedCall.transcript)
      (directory.dialAll depth order world) ∧
    (∀ family method succeeded,
      (directory.dialAll depth order world).meters.counter family method succeeded =
        (directory.dialAll depth requests world).meters.counter family method succeeded) ∧
    ∀ proxy, directory.executions proxy (directory.reports depth order world) =
      directory.executions proxy (directory.reports depth requests world) := by
  obtain ⟨horder, hscopes⟩ := reports_eq_map hcontained depth order world rfl
  obtain ⟨hrequests, _⟩ := reports_eq_map hcontained depth requests world rfl
  have hreports : (directory.reports depth order world).Perm (directory.reports depth requests world) := by
    rw [horder, hrequests]
    exact hperm.map _
  have htranscripts := hreports.flatMap_right ReportedCall.transcript
  have hleft := reports_account hcontained depth order world
  have hleft' := reports_account hcontained depth requests world
  refine ⟨fun found hfound request => report_eq hcontained depth request hfound, horder, hreports, hscopes,
    hleft, fun family method succeeded => ?_, fun proxy => htranscripts.countP_eq _⟩
  rw [hleft.meters_eq, hleft'.meters_eq]
  exact world.meters.counter_countAll_perm (htranscripts.filterMap _) family method succeeded

end

/-- A call that calls another one and then breaks off, and the other call by itself: in either order the same is
reported, and the target of the other one is executed and counted twice. -/
theorem calls_independent_audit :
    let world : World := { World.initial with
      meters := ((Meters.empty.register "aop" false).2.register "app" false).2 }
    let users : ProxyCall := ⟨"users", "Svc", "put", .empty⟩
    let audit : ProxyCall := ⟨"audit", "Svc", "put", .empty⟩
    denyingServices.IsContained ∧ [audit, users].Perm [users, audit] ∧
      denyingServices.reports 2 [audit, users] world =
        [audit, users].map (denyingServices.report 2 world) ∧
      (denyingServices.report 2 world audit).outcome = .panicked "audit" ∧
      (denyingServices.dialAll 2 [audit, users] world).meters.counter 0 "a.Users.put" true = 2 ∧
      denyingServices.executions "users" (denyingServices.reports 2 [audit, users] world) = 2 := by
  intro world users audit
  have hchain : denying.IsContained := by
    refine ⟨nofun, fun step hstep => ?_, nofun, nofun, nofun⟩
    obtain rfl | rfl | rfl : step = denying.arounds[0] ∨ step = denying.arounds[1] ∨
        step = denying.arounds[2] := by simpa [denying] using hstep
    · exact .ask nofun fun _ => .done _
    · exact MetricAspect.around_isContained ⟨.default, 1⟩
    · exact MetricAspect.around_isContained ⟨.default, 0⟩
  have hcontained : denyingServices.IsContained := by
    refine ⟨fun named hnamed entry hentry => ?_, fun named hnamed method hmethod values rest => ?_⟩
    · obtain rfl | rfl := List.mem_pair.mp hnamed <;> obtain rfl := List.mem_singleton.mp hentry <;>
        exact hchain
    · obtain rfl | rfl := List.mem_pair.mp hnamed <;> obtain rfl := List.mem_singleton.mp hmethod
      · exact .done _
      · exact .ask nofun fun _ => .panic _
  have hperm : [audit, users].Perm [users, audit] := .swap users audit []
  obtain ⟨_, hreports, _, _, _, hcounters, hexecutions⟩ :=
    calls_independent denyingServices hcontained 2 world hperm
  refine ⟨hcontained, hperm, hreports, ?_, (hcounters 0 "a.Users.put" true).trans ?_,
    (hexecutions "users").trans ?_⟩
  · rfl
  · decide +kernel
  · decide +kernel

end Directory

end Interception
