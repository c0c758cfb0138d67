import Interception.Proofs.RegistryHistory

/-!
# Which answers of a registry are the same object

The caches of a registry change none of its answers. What they do show is which answers are the same
object. A resolution is kept until an aspect is registered, and its number is never given again. Hence
two resolutions are the same object exactly if their signatures are equal and nothing was registered
between them. The entry of a text is kept for good, so two compiled pointcuts are the same object exactly
if their texts are equal.
-/

namespace Interception.AdviceRegistry

variable {registry : AdviceRegistry} {signature : CallSignature} {resolution : Resolution}

/-- A number of a resolution that was given and belongs to none that is kept. -/
def HasForgotten (registry : AdviceRegistry) (serial : Nat) : Prop :=
  serial < registry.resolutions ∧ ∀ entry ∈ registry.resolved, entry.2.serial ≠ serial

/-- What was resolved is kept. -/
theorem lookup_resolve (registry : AdviceRegistry) (signature : CallSignature) :
    (registry.resolve signature).2.resolved.lookup signature =
      some (registry.resolve signature).1 := by
  have hresolves := registry.resolves signature
  generalize registry.resolve signature = ran at hresolves
  cases hresolves with
  | kept hlookup => exact hlookup
  | made _ => exact List.lookup_cons_self

/-- Resolving loses no resolution. -/
theorem lookup_resolve_of_lookup (h : registry.resolved.lookup signature = some resolution)
    (other : CallSignature) :
    (registry.resolve other).2.resolved.lookup signature = some resolution := by
  have hresolves := registry.resolves other
  generalize registry.resolve other = ran at hresolves
  cases hresolves with
  | kept _ => exact h
  | made hnone =>
    have hne : signature ≠ other := by
      rintro rfl
      rw [hnone] at h
      cases h
    rw [List.lookup_cons, beq_eq_false_iff_ne.mpr hne]
    exact h

/-- A number that was forgotten stays so. -/
theorem HasForgotten.perform {serial : Nat} (h : registry.HasForgotten serial) (call : RegistryCall) :
    (registry.perform call).2.HasForgotten serial := by
  cases call with
  | register aspect =>
    have hregisters := registry.registers aspect
    rw [perform_register]
    generalize registry.register aspect = ran at hregisters
    cases hregisters with
    | refused _ => exact h
    | malformed _ _ => exact h
    | accepted _ _ => exact ⟨h.1, by simp⟩
  | resolve other =>
    have hresolves := registry.resolves other
    rw [perform_resolve]
    generalize registry.resolve other = ran at hresolves
    cases hresolves with
    | kept _ => exact h
    | made _ =>
      refine ⟨Nat.lt_succ_of_lt h.1, fun entry hentry => ?_⟩
      obtain rfl | hentry := List.mem_cons.mp hentry
      · exact Nat.ne_of_gt h.1
      · exact h.2 entry hentry
  | compile text => exact h

/-- An operation keeps a resolution, unless it registers an aspect. Then the number is forgotten. -/
theorem IsSound.keeps_or_forgets (hsound : registry.IsSound)
    (h : registry.resolved.lookup signature = some resolution) (call : RegistryCall) :
    if (registry.perform call).1.isRegistration then
      (registry.perform call).2.HasForgotten resolution.serial
    else (registry.perform call).2.resolved.lookup signature = some resolution := by
  cases call with
  | register aspect =>
    have hregisters := registry.registers aspect
    rw [perform_register]
    generalize registry.register aspect = ran at hregisters
    cases hregisters with
    | refused _ => exact h
    | malformed _ _ => exact h
    | accepted _ _ => exact ⟨hsound.given _ (mem_resolved_of_lookup h), by simp⟩
  | resolve other => exact lookup_resolve_of_lookup h other
  | compile text => exact h

/-- A history keeps a resolution, unless it registers an aspect. Then the number is forgotten. -/
theorem IsSound.keeps_or_forgets_after (hsound : registry.IsSound)
    (h : registry.resolved.lookup signature = some resolution) (calls : List RegistryCall) :
    if (History.answers AdviceRegistry.perform registry calls).any RegistryAnswer.isRegistration then
      (History.after AdviceRegistry.perform registry calls).HasForgotten resolution.serial
    else
      (History.after AdviceRegistry.perform registry calls).resolved.lookup signature =
        some resolution := by
  induction calls generalizing registry with
  | nil => exact h
  | cons call calls ih =>
    have hnext := hsound.keeps_or_forgets h call
    rw [History.answers, List.any_cons, History.after_cons]
    cases hregistration : (registry.perform call).1.isRegistration with
    | true =>
      rw [hregistration] at hnext
      have hforgotten : (registry.perform call).2.HasForgotten resolution.serial := hnext
      have hkeeps : ∀ registry call, HasForgotten registry resolution.serial →
          HasForgotten (AdviceRegistry.perform registry call).2 resolution.serial :=
        fun _ call h => h.perform call
      exact History.after_keeps hkeeps calls hforgotten
    | false =>
      rw [hregistration] at hnext
      exact ih (hsound.perform call) hnext

/-- While a resolution is kept, resolving gives the same object exactly for its signature. -/
theorem IsSound.serial_resolve_iff (hsound : registry.IsSound)
    (h : registry.resolved.lookup signature = some resolution) (other : CallSignature) :
    (registry.resolve other).1.serial = resolution.serial ↔ other = signature := by
  have hmem := mem_resolved_of_lookup h
  have hresolves := registry.resolves other
  generalize registry.resolve other = ran at hresolves
  cases hresolves with
  | kept hlookup =>
    refine ⟨fun hserial => ?_, ?_⟩
    · have hentry := List.inj_on_of_nodup_map hsound.distinct (mem_resolved_of_lookup hlookup) hmem hserial
      exact congrArg Prod.fst hentry
    · rintro rfl
      rw [Option.some.inj (hlookup.symm.trans h)]
  | made hnone =>
    refine ⟨fun hserial => ?_, ?_⟩
    · exact absurd hserial (Nat.ne_of_gt (hsound.given _ hmem))
    · rintro rfl
      rw [hnone] at h
      cases h

/-- A number that was forgotten is not given again. -/
theorem HasForgotten.serial_resolve_ne {serial : Nat} (h : registry.HasForgotten serial)
    (other : CallSignature) : (registry.resolve other).1.serial ≠ serial := by
  have hresolves := registry.resolves other
  generalize registry.resolve other = ran at hresolves
  cases hresolves with
  | kept hlookup => exact h.2 _ (mem_resolved_of_lookup hlookup)
  | made _ => exact Nat.ne_of_gt h.1

/-- A resolution that is kept is what resolving gives. -/
theorem resolve_of_lookup (h : registry.resolved.lookup signature = some resolution) :
    registry.resolve signature = (resolution, registry) := by
  unfold resolve
  rw [h]

/-- Two resolutions are the same object exactly if their signatures are equal and nothing was registered
between them. -/
theorem IsSound.same_resolution_iff (hsound : registry.IsSound) (signature other : CallSignature)
    (between : List RegistryCall) :
    let first := registry.resolve signature
    let second := (History.after AdviceRegistry.perform first.2 between).resolve other
    (second.1.serial = first.1.serial ↔ other = signature ∧
      (History.answers AdviceRegistry.perform first.2 between).any RegistryAnswer.isRegistration = false) ∧
    (second.1.serial = first.1.serial → second.1 = first.1) := by
  intro first second
  have hfirst : first.2.IsSound := hsound.resolve signature
  have hlookup : first.2.resolved.lookup signature = some first.1 := registry.lookup_resolve signature
  have hfate := hfirst.keeps_or_forgets_after hlookup between
  have hlater : (History.after AdviceRegistry.perform first.2 between).IsSound :=
    History.after_keeps (fun _ call h => h.perform call) between hfirst
  cases hregistered : (History.answers AdviceRegistry.perform first.2 between).any
    RegistryAnswer.isRegistration with
  | true =>
    rw [hregistered] at hfate
    have hne : second.1.serial ≠ first.1.serial := hfate.serial_resolve_ne other
    simp [hne]
  | false =>
    rw [hregistered] at hfate
    have hiff : second.1.serial = first.1.serial ↔ other = signature :=
      hlater.serial_resolve_iff hfate other
    refine ⟨by simpa using hiff, fun hserial => ?_⟩
    have hsecond : second = (first.1, _) := hiff.mp hserial ▸ resolve_of_lookup hfate
    rw [hsecond]

/-- An operation loses no entry of the cache of pointcuts. -/
theorem perform_extends (registry : AdviceRegistry) (call : RegistryCall) :
    registry.cache.Extends (registry.perform call).2.cache := by
  cases call with
  | register aspect =>
    have hextends := registry.cache.compileAll_extends (aspect.advices.map Advice.pointcut)
    have hregisters := registry.registers aspect
    rw [perform_register]
    generalize registry.register aspect = ran at hregisters
    cases hregisters with
    | refused _ => exact .refl registry.cache
    | malformed _ hcompile =>
      rw [hcompile] at hextends
      exact hextends
    | accepted _ hcompile =>
      rw [hcompile] at hextends
      exact hextends
  | resolve signature =>
    have hresolves := registry.resolves signature
    rw [perform_resolve]
    generalize registry.resolve signature = ran at hresolves
    cases hresolves with
    | kept _ => exact .refl registry.cache
    | made _ => exact .refl registry.cache
  | compile text => exact registry.cache.compile_extends text

/-- A history loses no entry of the cache of pointcuts. -/
theorem after_extends (registry : AdviceRegistry) (calls : List RegistryCall) :
    registry.cache.Extends (History.after perform registry calls).cache := by
  have hkeeps : ∀ (later : AdviceRegistry) (call : RegistryCall),
      registry.cache.Extends later.cache → registry.cache.Extends (later.perform call).2.cache :=
    fun later call h => h.trans (later.perform_extends call)
  exact History.after_keeps hkeeps calls (.refl registry.cache)

/-- Two compiled pointcuts are the same object exactly if their texts are equal. -/
theorem IsSound.same_pointcut_iff (hsound : registry.IsSound) {text other : String}
    {first second : CompiledPointcut} (between : List RegistryCall)
    (hfirst : (registry.perform (.compile text)).1 = .compiled (.ok first))
    (hsecond : ((History.after AdviceRegistry.perform (registry.perform (.compile text)).2 between).perform
      (.compile other)).1 = .compiled (.ok second)) :
    (second.serial = first.serial ↔ other = text) ∧ (second.serial = first.serial → second = first) := by
  set later := History.after AdviceRegistry.perform (registry.perform (.compile text)).2 between
    with hlater
  have hsound' : later.IsSound :=
    History.after_keeps (fun _ call h => h.perform call) between (hsound.perform (.compile text))
  have hextends : (registry.cache.compile text).2.Extends later.cache :=
    after_extends (registry.perform (.compile text)).2 between
  have hfind : (later.cache.compile other).2.find? text = some first :=
    later.cache.compile_extends other _ _
      (hextends _ _ (PointcutCache.find?_compile (RegistryAnswer.compiled.inj hfirst)))
  have hfind' : (later.cache.compile other).2.find? other = some second :=
    PointcutCache.find?_compile (RegistryAnswer.compiled.inj hsecond)
  have hiff : second.serial = first.serial ↔ other = text := by
    refine ⟨(hsound'.cache.compile other).text_eq_of_serial_eq hfind hfind', ?_⟩
    rintro rfl
    rw [Option.some.inj (hfind'.symm.trans hfind)]
  refine ⟨hiff, fun hserial => ?_⟩
  rw [hiff.mp hserial] at hfind hfind'
  exact Option.some.inj (hfind'.symm.trans hfind)

/-- The caches of a registry change no answer, whatever was registered, resolved and compiled before.
Every signature is resolved to what its advices give now, every text is compiled to what reading it gives,
and a text that is no pointcut is never kept. Resolving an equal signature gives the same object until an
aspect is registered, and compiling an equal text always does. -/
theorem caches_transparent (history : List RegistryCall) :
    let registry := History.after perform empty history
    (History.answers perform empty history).map RegistryAnswer.content =
      History.answers Roster.perform Roster.empty history ∧
    (∀ signature, (registry.resolve signature).1.advices = select registry.advices signature) ∧
    (∀ text, (registry.cache.compile text).1.map CompiledPointcut.pointcut = Pointcut.read text) ∧
    (∀ text compiled, registry.cache.find? text = some compiled →
      Pointcut.read text = .ok compiled.pointcut) ∧
    (∀ signature between other,
      let first := registry.resolve signature
      let second := (History.after perform first.2 between).resolve other
      (second.1.serial = first.1.serial ↔ other = signature ∧
        (History.answers perform first.2 between).any RegistryAnswer.isRegistration = false) ∧
      (second.1.serial = first.1.serial → second.1 = first.1)) ∧
    (∀ text between other first second,
      let later := History.after perform (registry.perform (.compile text)).2 between
      (registry.perform (.compile text)).1 = .compiled (.ok first) →
      (later.perform (.compile other)).1 = .compiled (.ok second) →
      (second.serial = first.serial ↔ other = text) ∧
        (second.serial = first.serial → second = first)) := by
  intro registry
  have hsound : registry.IsSound :=
    History.after_keeps (fun _ call h => h.perform call) history IsSound.empty
  refine ⟨refines_roster.map_answers IsSound.empty history,
    hsound.resolve_eq, hsound.cache.compile_eq_read,
    fun text compiled hfind => hsound.cache.read_of_find? hfind,
    fun signature between other => hsound.same_resolution_iff signature other between,
    fun text between other first second hfirst hsecond =>
      hsound.same_pointcut_iff between hfirst hsecond⟩

end Interception.AdviceRegistry
