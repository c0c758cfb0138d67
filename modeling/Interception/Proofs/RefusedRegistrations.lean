import Interception.Proofs.RegistryHistory

/-!
# Aspects that were refused

A registry that refused an aspect goes on as if the aspect had never been offered to it. A roster is not
changed by a refusal, so refused aspects can be left out of the histories of a roster, and hence out of
those of a registry.

What a refusal leaves behind are pointcuts. If the name of the aspect is refused, no pointcut was read and
nothing is left. Otherwise one of its pointcuts is malformed, and the pointcuts before the first such one
are kept.
-/

namespace Interception

/-- A roster that refuses an aspect is not changed. -/
theorem Roster.register_of_error {roster : Roster} {aspect : Aspect} {error : AopError}
    (h : (roster.register aspect).1 = .error error) : (roster.register aspect).2 = roster := by
  unfold register at h ⊢
  split
  · rfl
  · next hname =>
    rw [hname] at h
    split
    · rfl
    · next hread =>
      rw [hread] at h
      cases h

/-- A roster is not changed by an operation that refuses an aspect. -/
theorem Roster.perform_of_isRefusal (roster : Roster) (call : RegistryCall)
    (h : (!(roster.perform call).1.isRefusal) = false) : (roster.perform call).2 = roster := by
  cases call with
  | register aspect =>
    cases hresult : (roster.register aspect).1 with
    | error error => exact register_of_error hresult
    | ok _ =>
      rw [perform, hresult] at h
      cases h
  | resolve signature => rfl
  | compile text => rfl

namespace AdviceRegistry

/-- What a registry keeps of an aspect that it refuses: nothing if the name is refused, and otherwise the
pointcuts before the first that is malformed, as far as they were not kept before. -/
theorem IsSound.trace_of_refusal {registry : AdviceRegistry} (h : registry.IsSound) {aspect : Aspect}
    {error : AopError} (herror : (registry.register aspect).1 = .error error) :
    let next := (registry.register aspect).2
    next = { registry with cache := next.cache } ∧ registry.cache.Extends next.cache ∧
    (registry.roster.nameFault aspect.name ≠ none → next = registry) ∧
    (registry.roster.nameFault aspect.name = none → next.cache.texts =
      (registry.cache.fresh ((aspect.advices.map Advice.pointcut).takeWhile Pointcut.isLegible)).reverse ++
        registry.cache.texts) := by
  have hextends := registry.cache.compileAll_extends (aspect.advices.map Advice.pointcut)
  have htexts := h.cache.texts_compileAll (aspect.advices.map Advice.pointcut)
  have hregisters := registry.registers aspect
  generalize registry.register aspect = ran at hregisters herror
  cases hregisters with
  | refused hname => exact ⟨rfl, .refl registry.cache, fun _ => rfl, fun hnone => by simp [hname] at hnone⟩
  | malformed hname hcompile =>
    rw [hcompile] at hextends htexts
    exact ⟨rfl, hextends, fun hfault => absurd hname hfault, fun _ => htexts⟩
  | accepted _ _ => cases herror

/-- Refused aspects can be left out of a history. The aspects and their advices are the same without them,
the other operations are answered alike, and so is whatever follows. A refusal changes nothing but the
cache of pointcuts, and not even that if the name is refused. If a pointcut is malformed, the cache gains
the texts before the first such one that it did not hold, and loses nothing. -/
theorem refusals_leave_no_trace (history : List RegistryCall) :
    let registry := History.after perform empty history
    let kept := History.passing perform (fun answer => !answer.content.isRefusal) empty history
    let registry' := History.after perform empty kept
    registry'.advices = registry.advices ∧ registry'.aspects = registry.aspects ∧
    (History.answers perform empty kept).map RegistryAnswer.content =
      ((History.answers perform empty history).map RegistryAnswer.content).filter (!·.isRefusal) ∧
    (∀ later, (History.answers perform registry' later).map RegistryAnswer.content =
      (History.answers perform registry later).map RegistryAnswer.content) ∧
    (∀ aspect error, (registry.register aspect).1 = .error error →
      let next := (registry.register aspect).2
      next = { registry with cache := next.cache } ∧ registry.cache.Extends next.cache ∧
      (registry.roster.nameFault aspect.name ≠ none → next = registry) ∧
      (registry.roster.nameFault aspect.name = none → next.cache.texts =
        (registry.cache.fresh ((aspect.advices.map Advice.pointcut).takeWhile
          Pointcut.isLegible)).reverse ++ registry.cache.texts)) := by
  intro registry kept registry'
  have hsound : registry.IsSound :=
    History.after_keeps (fun _ call h => h.perform call) history IsSound.empty
  have hsound' : registry'.IsSound :=
    History.after_keeps (fun _ call h => h.perform call) kept IsSound.empty
  have hkept : kept = History.passing Roster.perform (!·.isRefusal) Roster.empty history :=
    refines_roster.passing_eq IsSound.empty (!·.isRefusal) history
  have hroster : registry'.roster = registry.roster := by
    rw [refines_roster.look_after IsSound.empty kept, refines_roster.look_after IsSound.empty history,
      hkept]
    exact History.after_passing Roster.perform_of_isRefusal Roster.empty history
  refine ⟨congrArg Roster.advices hroster, congrArg Roster.aspects hroster, ?_, fun later => ?_,
    fun aspect error herror => hsound.trace_of_refusal herror⟩
  · rw [refines_roster.map_answers IsSound.empty kept, refines_roster.map_answers IsSound.empty history,
      hkept]
    exact History.answers_passing Roster.perform_of_isRefusal Roster.empty history
  · rw [refines_roster.map_answers hsound' later, refines_roster.map_answers hsound later, hroster]

/-- An advice that does nothing before the calls that a text selects. -/
private def idle (pointcut : String) : Advice := ⟨pointcut, none, none, .before (pure (.ok ()))⟩

/-- The pointcuts before the first malformed one are not always kept: an aspect with a blank name is refused
before any of its pointcuts is read. -/
theorem refusal_of_blank_name_keeps_no_pointcut :
    ¬ ∀ (history : List RegistryCall) (aspect : Aspect) (error : AopError),
      let registry := History.after perform empty history
      (registry.register aspect).1 = .error error →
      (registry.register aspect).2.cache.texts =
        (registry.cache.fresh ((aspect.advices.map Advice.pointcut).takeWhile
          Pointcut.isLegible)).reverse ++ registry.cache.texts := by
  intro hall
  have htexts := hall [] ⟨" ", [idle "* ..*.*(..)", idle "bad"]⟩ (.configuration .blankAspect) rfl
  have hgood : Pointcut.isLegible "* ..*.*(..)" = true := rfl
  have hbad : Pointcut.isLegible "bad" = false := rfl
  have hfresh : (PointcutCache.empty.fresh
      (["* ..*.*(..)", "bad"].takeWhile Pointcut.isLegible)).reverse = ["* ..*.*(..)"] := by
    rw [List.takeWhile_cons_of_pos hgood, List.takeWhile_cons_of_neg (by simp [hbad])]
    rfl
  have hnone : [] = ["* ..*.*(..)"] := htexts.trans (congrArg (· ++ []) hfresh)
  cases hnone

end AdviceRegistry

end Interception
