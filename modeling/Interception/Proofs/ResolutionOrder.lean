import Interception.Chain
import Interception.Proofs.RegistryContents

/-!
# The order of resolved advices

After any history, resolving a signature gives the registered advices whose pointcuts accept it, each once.
Those that run before and around the target stand first, strictly increasing by order and sequence number,
and those that run at the end follow, strictly decreasing. Both groups are sorted by a total order in which
advices of the same order differ by their sequence numbers, so the result is the only such arrangement.

The sequence number of an advice is its place among all advices that were registered. How they were divided
into aspects therefore shows only in names, and resolving commutes with forgetting names. A chain takes the
advices of each kind from the resolved list as they stand there.
-/

namespace Interception

namespace RegisteredAdvice

/-- The first advice comes before the second: by order, then by sequence number. -/
def Before (a b : RegisteredAdvice) : Prop :=
  a.order < b.order ∨ a.order = b.order ∧ a.sequence < b.sequence

/-- An advice without the names of its aspect and of itself. -/
def unnamed (advice : RegisteredAdvice) : RegisteredAdvice := { advice with aspect := "", label := "" }

/-- The advice as a step of a chain, for any kind. -/
def step (advice : RegisteredAdvice) : Step Behavior := ⟨advice.label, advice.sequence, advice.behavior⟩

@[simp] theorem kind_unnamed (advice : RegisteredAdvice) : advice.unnamed.kind = advice.kind := rfl

@[simp] theorem pointcut_unnamed (advice : RegisteredAdvice) :
    advice.unnamed.pointcut = advice.pointcut := rfl

/-- Preceding in terms of integers, in which the orders are compared. -/
theorem precedes_iff (a b : RegisteredAdvice) : precedes a b = true ↔
    a.order.toInt < b.order.toInt ∨ a.order.toInt = b.order.toInt ∧ a.sequence ≤ b.sequence := by
  simp only [precedes, Bool.or_eq_true, Bool.and_eq_true, decide_eq_true_eq, beq_iff_eq,
    Int32.lt_iff_toInt_lt, Int32.toInt_inj]

/-- Preceding is transitive. -/
theorem precedes_trans (a b c : RegisteredAdvice) (hab : precedes a b = true)
    (hbc : precedes b c = true) : precedes a c = true := by
  rw [precedes_iff] at *
  omega

/-- Of two advices one precedes the other. -/
theorem precedes_total (a b : RegisteredAdvice) : (precedes a b || precedes b a) = true := by
  rw [Bool.or_eq_true, precedes_iff, precedes_iff]
  omega

/-- An advice comes before another that it precedes and whose sequence number differs. -/
theorem before_of_precedes {a b : RegisteredAdvice} (h : precedes a b = true)
    (hne : a.sequence ≠ b.sequence) : Before a b := by
  rw [precedes_iff] at h
  rw [Before, Int32.lt_iff_toInt_lt, ← Int32.toInt_inj]
  omega

/-- Entries that record the same advice under the same number differ in names only. -/
theorem Records.unnamed_eq {entry entry' : RegisteredAdvice} {declaration declaration' : Declaration}
    {sequence : Nat} (h : entry.Records declaration sequence)
    (h' : entry'.Records declaration' sequence) (hsame : declaration.advice = declaration'.advice) :
    entry.unnamed = entry'.unnamed := by
  have hread : (Except.ok entry.pointcut : Except AopError Pointcut) = .ok entry'.pointcut := by
    rw [← h.read_eq, ← h'.read_eq, hsame]
  have hpointcut : entry.pointcut = entry'.pointcut := Except.ok.inj hread
  simp only [unnamed, hpointcut, h.order_eq, h'.order_eq, h.sequence_eq, h'.sequence_eq,
    h.behavior_eq, h'.behavior_eq, hsame]

end RegisteredAdvice

/-- Resolved advices are in the order of a chain: before and around advices strictly increase, and those at
the end of a call follow and strictly decrease. -/
def InChainOrder (resolved : List RegisteredAdvice) : Prop :=
  ∃ leading trailing, resolved = leading ++ trailing ∧
    (∀ advice ∈ leading, advice.kind.isAfterFamily = false) ∧
    (∀ advice ∈ trailing, advice.kind.isAfterFamily = true) ∧
    leading.Pairwise RegisteredAdvice.Before ∧
    trailing.Pairwise fun a b => b.Before a

namespace AdviceRegistry

/-- Sorting advices with different numbers arranges them strictly. -/
theorem pairwise_before_mergeSort {advices : List RegisteredAdvice}
    (h : (advices.map RegisteredAdvice.sequence).Nodup) :
    (advices.mergeSort RegisteredAdvice.precedes).Pairwise RegisteredAdvice.Before := by
  have hperm := advices.mergeSort_perm RegisteredAdvice.precedes
  have hsorted := List.pairwise_mergeSort RegisteredAdvice.precedes_trans
    RegisteredAdvice.precedes_total advices
  have hdistinct : ((advices.mergeSort RegisteredAdvice.precedes).map RegisteredAdvice.sequence).Nodup :=
    (hperm.map _).nodup_iff.mpr h
  exact (hsorted.and (List.pairwise_map.mp hdistinct)).imp fun ⟨hprecedes, hne⟩ =>
    RegisteredAdvice.before_of_precedes hprecedes hne

/-- Sorting the other way round arranges them strictly the other way round. -/
theorem pairwise_after_mergeSort {advices : List RegisteredAdvice}
    (h : (advices.map RegisteredAdvice.sequence).Nodup) :
    (advices.mergeSort fun a b => RegisteredAdvice.precedes b a).Pairwise fun a b => b.Before a := by
  have hperm := advices.mergeSort_perm fun a b => RegisteredAdvice.precedes b a
  have hsorted : (advices.mergeSort fun a b => RegisteredAdvice.precedes b a).Pairwise
      fun a b => RegisteredAdvice.precedes b a = true :=
    List.pairwise_mergeSort (fun a b c hba hcb => RegisteredAdvice.precedes_trans c b a hcb hba)
      (fun a b => RegisteredAdvice.precedes_total b a) advices
  have hdistinct : ((advices.mergeSort fun a b => RegisteredAdvice.precedes b a).map
      RegisteredAdvice.sequence).Nodup := (hperm.map _).nodup_iff.mpr h
  exact (hsorted.and (List.pairwise_map.mp hdistinct)).imp fun ⟨hprecedes, hne⟩ =>
    RegisteredAdvice.before_of_precedes hprecedes fun heq => hne heq.symm

/-- Selecting gives every advice whose pointcut accepts the signature as often as it is there. -/
theorem select_perm (advices : List RegisteredAdvice) (signature : CallSignature) :
    (select advices signature).Perm (advices.filter fun advice => advice.pointcut.accepts signature) := by
  have hsplit := List.filter_append_perm (fun advice : RegisteredAdvice => !advice.kind.isAfterFamily)
    (advices.filter fun advice => advice.pointcut.accepts signature)
  simp only [Bool.not_not] at hsplit
  exact ((List.mergeSort_perm _ _).append (List.mergeSort_perm _ _)).trans hsplit

/-- Selecting among advices with different numbers arranges them in the order of a chain. -/
theorem inChainOrder_select {advices : List RegisteredAdvice}
    (h : (advices.map RegisteredAdvice.sequence).Nodup) (signature : CallSignature) :
    InChainOrder (select advices signature) := by
  have hnodup : ∀ selects choose : RegisteredAdvice → Bool,
      (((advices.filter selects).filter choose).map RegisteredAdvice.sequence).Nodup := fun _ _ =>
    h.sublist ((List.filter_sublist.trans List.filter_sublist).map _)
  refine ⟨_, _, rfl, fun advice hmem => ?_, fun advice hmem => ?_,
    pairwise_before_mergeSort (hnodup _ _), pairwise_after_mergeSort (hnodup _ _)⟩
  · have hchosen := (List.mem_filter.mp ((List.mergeSort_perm _ _).mem_iff.mp hmem)).2
    exact (Bool.not_eq_eq_eq_not ..).mp hchosen
  · exact (List.mem_filter.mp ((List.mergeSort_perm _ _).mem_iff.mp hmem)).2

/-- Selecting does not look at names. -/
theorem map_unnamed_select (advices : List RegisteredAdvice) (signature : CallSignature) :
    (select advices signature).map RegisteredAdvice.unnamed =
      select (advices.map RegisteredAdvice.unnamed) signature := by
  have hleading : ∀ leading : List RegisteredAdvice,
      (leading.mergeSort RegisteredAdvice.precedes).map RegisteredAdvice.unnamed =
        (leading.map RegisteredAdvice.unnamed).mergeSort RegisteredAdvice.precedes :=
    fun _ => List.map_mergeSort fun _ _ _ _ => rfl
  have htrailing : ∀ trailing : List RegisteredAdvice,
      (trailing.mergeSort fun a b => RegisteredAdvice.precedes b a).map RegisteredAdvice.unnamed =
        (trailing.map RegisteredAdvice.unnamed).mergeSort fun a b => RegisteredAdvice.precedes b a :=
    fun _ => List.map_mergeSort fun _ _ _ _ => rfl
  simp only [select, List.map_append, hleading, htrailing, List.filter_map, Function.comp_def,
    RegisteredAdvice.kind_unnamed, RegisteredAdvice.pointcut_unnamed]

/-- Sound registries whose advices differ in names only resolve every signature alike but for names. -/
theorem IsSound.map_unnamed_resolve {registry registry' : AdviceRegistry} (h : registry.IsSound)
    (h' : registry'.IsSound) (hsame : registry.advices.map RegisteredAdvice.unnamed =
      registry'.advices.map RegisteredAdvice.unnamed) (signature : CallSignature) :
    (registry.resolve signature).1.advices.map RegisteredAdvice.unnamed =
      (registry'.resolve signature).1.advices.map RegisteredAdvice.unnamed := by
  rw [h.resolve_eq, h'.resolve_eq, map_unnamed_select, map_unnamed_select, hsame]

/-- The advices of the declarations of an aspect are those of the aspect. -/
theorem map_advice_declarations (aspect : Aspect) :
    aspect.declarations.map Declaration.advice = aspect.advices := by
  rw [Aspect.declarations, List.map_map]
  exact List.zipIdx_map_fst 0 aspect.advices

/-- The numbers of recorded advices are their places. -/
theorem map_sequence_of_records {entries : List RegisteredAdvice} {declarations : List Declaration}
    (h : List.Forall₂ (fun entry (declaration, sequence) => entry.Records declaration sequence)
      entries declarations.zipIdx) :
    entries.map RegisteredAdvice.sequence = List.range entries.length := by
  have hsame : List.Forall₂ (fun entry (numbered : Declaration × Nat) => entry.sequence = numbered.2)
      entries declarations.zipIdx := h.imp fun _ _ hrecords => hrecords.sequence_eq
  have hmap : entries.map RegisteredAdvice.sequence = declarations.zipIdx.map Prod.snd := by
    rw [← List.forall₂_eq_eq_eq, List.forall₂_map_left_iff, List.forall₂_map_right_iff]
    exact hsame
  rw [hmap, List.zipIdx_map_snd, h.length_eq, List.length_zipIdx, ← List.range_eq_range']

/-- Lists that record the same advices under the same numbers differ in names only. -/
theorem map_unnamed_of_records {entries entries' : List RegisteredAdvice}
    {numbered numbered' : List (Declaration × Nat)}
    (h : List.Forall₂ (fun entry (declaration, sequence) => entry.Records declaration sequence)
      entries numbered)
    (h' : List.Forall₂ (fun entry (declaration, sequence) => entry.Records declaration sequence)
      entries' numbered')
    (hsame : numbered.map (Prod.map Declaration.advice id) =
      numbered'.map (Prod.map Declaration.advice id)) :
    entries.map RegisteredAdvice.unnamed = entries'.map RegisteredAdvice.unnamed := by
  induction h generalizing entries' numbered' with
  | nil =>
    rw [List.map_nil, eq_comm, List.map_eq_nil_iff] at hsame
    subst hsame
    cases h'
    rfl
  | @cons entry first _ _ hfirst _ ih =>
    cases h' with
    | nil => cases hsame
    | @cons entry' first' _ _ hfirst' hrest' =>
      obtain ⟨declaration, sequence⟩ := first
      obtain ⟨declaration', sequence'⟩ := first'
      rw [List.map_cons, List.map_cons] at hsame
      obtain ⟨hhead, htail⟩ := List.cons.inj hsame
      obtain ⟨hadvice, hsequence⟩ := Prod.mk.inj hhead
      obtain rfl : sequence = sequence' := hsequence
      rw [List.map_cons, List.map_cons, hfirst.unnamed_eq hfirst' hadvice, ih hrest' htail]

end AdviceRegistry

/-- Registries of the same advices, divided into aspects in whatever way, differ in names only. -/
theorem Roster.Holds.map_unnamed_eq {roster roster' : Roster} {aspects aspects' : List Aspect}
    (h : roster.Holds aspects) (h' : roster'.Holds aspects')
    (hsame : aspects.flatMap Aspect.advices = aspects'.flatMap Aspect.advices) :
    roster.advices.map RegisteredAdvice.unnamed = roster'.advices.map RegisteredAdvice.unnamed := by
  have hadvices : ∀ aspects : List Aspect,
      (aspects.flatMap Aspect.declarations).map Declaration.advice = aspects.flatMap Aspect.advices := by
    intro aspects
    simp only [List.map_flatMap, AdviceRegistry.map_advice_declarations]
  refine AdviceRegistry.map_unnamed_of_records h.records h'.records ?_
  rw [← List.zipIdx_map, ← List.zipIdx_map, hadvices, hadvices, hsame]

/-- The aspect that the operation offers. -/
def RegistryCall.aspect? : RegistryCall → Option Aspect
  | register aspect => some aspect
  | _ => none

namespace AdviceRegistry

/-- The aspects that are registered in a history, in their order. -/
def accepted (registry : AdviceRegistry) (history : List RegistryCall) : List Aspect :=
  (History.passing perform RegistryAnswer.isRegistration registry history).filterMap RegistryCall.aspect?

/-- The aspects of a history are the one that its first operation registers, if any, and those of the
rest. -/
theorem accepted_cons (registry : AdviceRegistry) (call : RegistryCall) (history : List RegistryCall) :
    registry.accepted (call :: history) =
      registry.accepted [call] ++ (registry.perform call).2.accepted history := by
  unfold accepted
  rw [← List.filterMap_append, History.passing, History.passing, History.passing]
  split
  · rfl
  · rfl

/-- A sound registry holds the aspects that it registers after those that it held. -/
theorem IsSound.holds_perform {registry : AdviceRegistry} {aspects : List Aspect}
    (hsound : registry.IsSound) (h : registry.roster.Holds aspects) (call : RegistryCall) :
    (registry.perform call).2.roster.Holds (aspects ++ registry.accepted [call]) := by
  have hidle : ∀ {roster : Roster}, roster.Holds aspects → roster.Holds (aspects ++ []) := fun h => by
    rwa [List.append_nil]
  cases call with
  | register aspect =>
    have hregister := hsound.holds_register h aspect
    unfold accepted History.passing History.passing
    rw [perform_register]
    cases hresult : (registry.register aspect).1 with
    | error error =>
      rw [hresult] at hregister
      exact hidle hregister
    | ok _ =>
      rw [hresult] at hregister
      exact hregister
  | resolve signature =>
    rw [perform_resolve, resolve_roster]
    exact hidle h
  | compile text => exact hidle h

/-- After any history a registry is sound and holds exactly the aspects that were registered. -/
theorem IsSound.holds_after {registry : AdviceRegistry} {aspects : List Aspect}
    (hsound : registry.IsSound) (h : registry.roster.Holds aspects) (history : List RegistryCall) :
    (History.after AdviceRegistry.perform registry history).IsSound ∧
    (History.after AdviceRegistry.perform registry history).roster.Holds
      (aspects ++ registry.accepted history) := by
  induction history generalizing registry aspects with
  | nil =>
    rw [show registry.accepted [] = [] from rfl, List.append_nil]
    exact ⟨hsound, h⟩
  | cons call history ih =>
    rw [History.after_cons, accepted_cons, ← List.append_assoc]
    exact ih (hsound.perform call) (hsound.holds_perform h call)

end AdviceRegistry

/-- The step with its body as a behaviour. -/
def Step.map {Body : Type} (wrap : Body → Behavior) (step : Step Body) : Step Behavior :=
  ⟨step.label, step.sequence, wrap step.body⟩

/-- The kinds of advices. -/
def AdviceKind.all : List AdviceKind := [before, around, after, afterReturning, afterThrowing]

namespace Chain

/-- The steps of a chain for the advices of a kind. -/
def stepsOf (chain : Chain) : AdviceKind → List (Step Behavior)
  | .before => chain.befores.map (Step.map .before)
  | .around => chain.arounds.map (Step.map .around)
  | .after => chain.afters.map (Step.map .after)
  | .afterReturning => chain.afterReturnings.map (Step.map .afterReturning)
  | .afterThrowing => chain.afterThrowings.map (Step.map .afterThrowing)

/-- Picking the advices of a kind takes them as they stand. -/
theorem map_filterMap_eq {Body : Type} {pick : RegisteredAdvice → Option (Step Body)}
    {wrap : Body → Behavior} {kind : AdviceKind}
    (h : ∀ advice, (pick advice).map (Step.map wrap) =
      if advice.kind = kind then some advice.step else none) (advices : List RegisteredAdvice) :
    (advices.filterMap pick).map (Step.map wrap) =
      (advices.filter (·.kind = kind)).map RegisteredAdvice.step := by
  have hpick : (fun advice => (pick advice).map (Step.map wrap)) =
      fun advice => if advice.kind = kind then some advice.step else none := funext h
  rw [List.map_filterMap, hpick, ← List.filterMap_eq_map, List.filterMap_filter]
  simp only [decide_eq_true_eq, Function.comp_apply]

/-- A chain has the resolved advices of each kind, in their order. -/
theorem stepsOf_ofResolved (advices : List RegisteredAdvice) (kind : AdviceKind) :
    (ofResolved advices).stepsOf kind =
      (advices.filter (·.kind = kind)).map RegisteredAdvice.step := by
  cases kind
  all_goals
    refine map_filterMap_eq (fun advice => ?_) advices
    obtain ⟨_, _, _, _, _, behavior⟩ := advice
    cases behavior <;> rfl

/-- Advices divided by different kinds are, taken together, those of these kinds. -/
theorem flatMap_filter_perm {kinds : List AdviceKind} (h : kinds.Nodup)
    (advices : List RegisteredAdvice) :
    (kinds.flatMap fun kind => advices.filter (·.kind = kind)).Perm
      (advices.filter (·.kind ∈ kinds)) := by
  induction kinds with
  | nil => simp
  | cons kind kinds ih =>
    obtain ⟨hnew, hrest⟩ := List.nodup_cons.mp h
    have hsplit := List.filter_append_perm (fun advice : RegisteredAdvice => decide (advice.kind = kind))
      (advices.filter (·.kind ∈ kind :: kinds))
    have hfirst : (advices.filter (·.kind ∈ kind :: kinds)).filter (·.kind = kind) =
        advices.filter (·.kind = kind) := by
      rw [List.filter_filter]
      refine List.filter_congr fun advice _ => ?_
      by_cases hkind : advice.kind = kind
      · simp [hkind]
      · simp [hkind]
    have hothers : (advices.filter (·.kind ∈ kind :: kinds)).filter (fun advice =>
        !decide (advice.kind = kind)) = advices.filter (·.kind ∈ kinds) := by
      rw [List.filter_filter]
      refine List.filter_congr fun advice _ => ?_
      by_cases hkind : advice.kind = kind
      · simp [hkind, hnew]
      · simp [hkind]
    rw [hfirst, hothers] at hsplit
    rw [List.flatMap_cons]
    exact ((ih hrest).append_left _).trans hsplit

/-- The steps of a chain are, taken together, the resolved advices. -/
theorem flatMap_stepsOf_perm (advices : List RegisteredAdvice) :
    (AdviceKind.all.flatMap (ofResolved advices).stepsOf).Perm (advices.map RegisteredAdvice.step) := by
  have hall : advices.filter (·.kind ∈ AdviceKind.all) = advices := by
    refine List.filter_eq_self.mpr fun advice _ => ?_
    cases advice.kind <;> decide
  have hdistinct : AdviceKind.all.Nodup := by decide
  have hsteps : (ofResolved advices).stepsOf =
      fun kind => (advices.filter (·.kind = kind)).map RegisteredAdvice.step :=
    funext (stepsOf_ofResolved advices)
  have hperm := (flatMap_filter_perm hdistinct advices).map RegisteredAdvice.step
  rwa [hall, List.map_flatMap, ← hsteps] at hperm

end Chain

namespace AdviceRegistry

/-- After any history the registry holds the advices of the aspects that were registered, one after the
other, and the sequence number of each is its place among them. Resolving a signature gives exactly those
whose pointcuts accept it, each once. Before and around advices stand first and strictly increase by order,
which is zero where none was given, and by sequence number; the others strictly decrease. If the same advices
were registered in other aspects, the same is resolved but for names. The chain takes the resolved advices
apart by kind: it loses none, repeats none and keeps the order of each kind. -/
theorem resolve_orders_matching (history : List RegistryCall) (signature : CallSignature) :
    let registry := History.after perform empty history
    let resolved := (registry.resolve signature).1.advices
    let chain := Chain.ofResolved resolved
    List.Forall₂ (fun entry (declaration, sequence) => entry.Records declaration sequence)
      registry.advices ((empty.accepted history).flatMap Aspect.declarations).zipIdx ∧
    registry.advices.map RegisteredAdvice.sequence = List.range registry.size ∧
    resolved.Perm (registry.advices.filter fun advice => advice.pointcut.accepts signature) ∧
    (resolved.map RegisteredAdvice.sequence).Nodup ∧
    InChainOrder resolved ∧
    (∀ history', (empty.accepted history').flatMap Aspect.advices =
        (empty.accepted history).flatMap Aspect.advices →
      let resolved' := ((History.after perform empty history').resolve signature).1.advices
      resolved'.map RegisteredAdvice.unnamed = resolved.map RegisteredAdvice.unnamed ∧
      resolved'.map RegisteredAdvice.behavior = resolved.map RegisteredAdvice.behavior) ∧
    (∀ kind, chain.stepsOf kind = (resolved.filter (·.kind = kind)).map RegisteredAdvice.step) ∧
    (AdviceKind.all.flatMap chain.stepsOf).Perm (resolved.map RegisteredAdvice.step) := by
  intro registry resolved chain
  obtain ⟨hsound, hholds⟩ := IsSound.empty.holds_after holds_empty history
  rw [List.nil_append] at hholds
  have hresolved : resolved = select registry.advices signature := hsound.resolve_eq signature
  have hsequence : registry.advices.map RegisteredAdvice.sequence = List.range registry.size :=
    map_sequence_of_records hholds.records
  have hnodup : (registry.advices.map RegisteredAdvice.sequence).Nodup := by
    rw [hsequence]
    exact List.nodup_range
  have hperm : resolved.Perm (registry.advices.filter fun advice => advice.pointcut.accepts signature) := by
    rw [hresolved]
    exact select_perm registry.advices signature
  have hdistinct : (resolved.map RegisteredAdvice.sequence).Nodup :=
    (hperm.map _).nodup_iff.mpr (hnodup.sublist (List.filter_sublist.map _))
  have horder : InChainOrder resolved := by
    rw [hresolved]
    exact inChainOrder_select hnodup signature
  refine ⟨hholds.records, hsequence, hperm, hdistinct, horder, ?_, Chain.stepsOf_ofResolved resolved,
    Chain.flatMap_stepsOf_perm resolved⟩
  intro history' hsame resolved'
  obtain ⟨hsound', hholds'⟩ := IsSound.empty.holds_after holds_empty history'
  rw [List.nil_append] at hholds'
  have hunnamed : resolved'.map RegisteredAdvice.unnamed = resolved.map RegisteredAdvice.unnamed :=
    hsound'.map_unnamed_resolve hsound (hholds'.map_unnamed_eq hholds hsame) signature
  have hbehavior := congrArg (List.map RegisteredAdvice.behavior) hunnamed
  rw [List.map_map, List.map_map] at hbehavior
  exact ⟨hunnamed, hbehavior⟩

/-- Two advices of one aspect, and the same two of an aspect each, are resolved to the same behaviours. -/
theorem resolve_orders_matching_divided :
    let guard : Advice := ⟨"* ..*.*(..)", some 5, none, .before (pure (.ok ()))⟩
    let cleanup : Advice := ⟨"* ..*.*(..)", none, none, .after (pure (.ok ()))⟩
    let both : RegistryCall := .register ⟨"users", [guard, cleanup]⟩
    let first : RegistryCall := .register ⟨"users", [guard]⟩
    let second : RegistryCall := .register ⟨"audit", [cleanup]⟩
    let resolved (history : List RegistryCall) := ((History.after perform empty history).resolve
      ⟨"com.x.Users", "Users", ⟨"save", [], "()"⟩⟩).1.advices
    (empty.accepted [both]).flatMap Aspect.advices = [guard, cleanup] ∧
      (empty.accepted [first, second]).flatMap Aspect.advices = [guard, cleanup] ∧
      (resolved [first, second]).map RegisteredAdvice.behavior =
        (resolved [both]).map RegisteredAdvice.behavior := by
  intro guard cleanup both first second resolved
  have hboth : (empty.accepted [both]).flatMap Aspect.advices = [guard, cleanup] := by
    have hregisters : (perform empty both).1.isRegistration = true := by decide +kernel
    simp only [accepted, History.passing, if_pos hregisters]
    rfl
  have hapart : (empty.accepted [first, second]).flatMap Aspect.advices = [guard, cleanup] := by
    have hfirst : (perform empty first).1.isRegistration = true := by decide +kernel
    have hsecond : ((perform empty first).2.perform second).1.isRegistration = true := by decide +kernel
    simp only [accepted, History.passing, if_pos hfirst, if_pos hsecond]
    rfl
  obtain ⟨_, _, _, _, _, hdivided, _⟩ := resolve_orders_matching [both]
    ⟨"com.x.Users", "Users", ⟨"save", [], "()"⟩⟩
  exact ⟨hboth, hapart, (hdivided [first, second] (hapart.trans hboth.symm)).2⟩

end AdviceRegistry

end Interception
