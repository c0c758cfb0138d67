import Interception.Manager
import Interception.Proofs.TypePatternText

/-!
# Conflicts between introductions

A registry accepts an introduction only if none before it has the same capability for a type name that
both patterns fit. As overlap of patterns is exact, no target type is ever given one capability twice,
whatever is registered in whatever order, and every refusal can be justified by a type name. A refused
registration leaves no trace.
-/

namespace Interception

namespace Introduction

/-- The introduction was made from a pattern given as a text. -/
def IsCreated (introduction : Introduction) : Prop :=
  ∃ pattern capability capabilityType maker,
    create pattern capability capabilityType maker = .ok introduction

/-- The pattern of an introduction that was made was read from a text. -/
theorem IsCreated.isParsed {introduction : Introduction} (h : introduction.IsCreated) :
    introduction.targetPattern.IsParsed := by
  obtain ⟨pattern, capability, capabilityType, maker, h⟩ := h
  unfold create at h
  split at h
  · cases h
  · split at h
    · cases h
    · next targetPattern hparse =>
      cases h
      exact ⟨_, hparse⟩

/-- Two introductions have the same capability, by its name or by its type. -/
def SameCapability (a b : Introduction) : Prop :=
  a.capability.name = b.capability.name ∨ a.capabilityType = b.capabilityType

/-- A conflict is a common capability together with an overlap of the patterns. -/
theorem conflicts_iff (a b : Introduction) :
    a.conflicts b = true ↔ a.SameCapability b ∧ a.targetPattern.overlaps b.targetPattern = true := by
  simp only [conflicts, SameCapability, Bool.and_eq_true, Bool.or_eq_true, beq_iff_eq]
  rw [Or.comm]

/-- Introductions without a conflict that apply to one type have different capabilities. -/
theorem not_sameCapability {a b : Introduction} {targetType : String} (h : a.conflicts b = false)
    (ha : a.appliesTo targetType = true) (hb : b.appliesTo targetType = true) :
    ¬ a.SameCapability b := by
  intro hsame
  have hc := (conflicts_iff a b).mpr ⟨hsame, TypePattern.overlaps_of_accepts ha hb⟩
  rw [h] at hc
  exact Bool.false_ne_true hc

/-- Introductions in conflict have the same capability for some type name. -/
theorem exists_targetType {a b : Introduction} (ha : a.IsCreated) (hb : b.IsCreated)
    (h : a.conflicts b = true) :
    a.SameCapability b ∧
      ∃ targetType, a.appliesTo targetType = true ∧ b.appliesTo targetType = true := by
  obtain ⟨hsame, hover⟩ := (conflicts_iff a b).mp h
  obtain ⟨name, hna, hnb, _⟩ := TypePattern.exists_name_of_overlaps ha.isParsed hb.isParsed hover
  exact ⟨hsame, name, hna, hnb⟩

end Introduction

namespace IntroductionRegistry

/-- No introduction is in conflict with a later one. -/
def IsConsistent (registry : IntroductionRegistry) : Prop :=
  registry.introductions.Pairwise fun a b => a.conflicts b = false

/-- An accepted introduction is in conflict with none before it and comes last. -/
theorem register_ok {registry after : IntroductionRegistry} {new : Introduction}
    (h : registry.register new = .ok after) :
    (∀ existing ∈ registry.introductions, existing.conflicts new = false) ∧
      after = ⟨registry.introductions ++ [new]⟩ := by
  unfold register at h
  split at h
  · cases h
  · next hnone =>
    cases h
    refine ⟨fun existing hm => ?_, rfl⟩
    have := List.find?_eq_none.mp hnone existing hm
    simpa using this

/-- An introduction in conflict with none before it is accepted. -/
theorem register_of_no_conflict {registry : IntroductionRegistry} {new : Introduction}
    (h : ∀ existing ∈ registry.introductions, existing.conflicts new = false) :
    registry.register new = .ok ⟨registry.introductions ++ [new]⟩ := by
  have hnone : registry.introductions.find? (·.conflicts new) = none := by
    rw [List.find?_eq_none]
    intro existing hm
    rw [h existing hm]
    exact Bool.false_ne_true
  rw [register, hnone]

/-- A refused introduction is in conflict with one before it. -/
theorem register_error {registry : IntroductionRegistry} {new : Introduction} {error : AopError}
    (h : registry.register new = .error error) :
    ∃ existing ∈ registry.introductions, existing.conflicts new = true := by
  unfold register at h
  split at h
  · next existing hfound =>
    have hc := List.find?_some hfound
    exact ⟨existing, List.mem_of_find?_eq_some hfound, hc⟩
  · cases h

/-- The registry after a registration was tried. -/
def attempt (registry : IntroductionRegistry) (new : Introduction) : IntroductionRegistry :=
  match registry.register new with
  | .ok after => after
  | .error _ => registry

/-- The registry after registrations were tried one after the other. -/
def attemptAll (registry : IntroductionRegistry) (calls : List Introduction) : IntroductionRegistry :=
  calls.foldl attempt registry

/-- An attempt adds the introduction at the end, or leaves the registry as it is. -/
theorem attempt_cases (registry : IntroductionRegistry) (new : Introduction) :
    ((∀ existing ∈ registry.introductions, existing.conflicts new = false) ∧
        registry.attempt new = ⟨registry.introductions ++ [new]⟩) ∨
      registry.attempt new = registry := by
  unfold attempt
  cases h : registry.register new with
  | error error => exact .inr rfl
  | ok after => exact .inl (register_ok h)

/-- An attempt keeps the registry consistent. -/
theorem IsConsistent.attempt {registry : IntroductionRegistry} (h : registry.IsConsistent)
    (new : Introduction) : (registry.attempt new).IsConsistent := by
  rcases attempt_cases registry new with ⟨hnew, he⟩ | he
  · rw [he]
    refine List.pairwise_append.mpr ⟨h, List.pairwise_singleton _ _, fun a ha b hb => ?_⟩
    rw [List.mem_singleton.mp hb]
    exact hnew a ha
  · rwa [he]

/-- Any number of attempts keep the registry consistent. -/
theorem IsConsistent.attemptAll {registry : IntroductionRegistry} (h : registry.IsConsistent)
    (calls : List Introduction) : (registry.attemptAll calls).IsConsistent := by
  induction calls generalizing registry with
  | nil => exact h
  | cons new calls ih => exact ih (h.attempt new)

/-- What is registered in the end was there before or was tried. -/
theorem mem_attemptAll {registry : IntroductionRegistry} {calls : List Introduction}
    {introduction : Introduction} (h : introduction ∈ (registry.attemptAll calls).introductions) :
    introduction ∈ registry.introductions ∨ introduction ∈ calls := by
  induction calls generalizing registry with
  | nil => exact .inl h
  | cons new calls ih =>
    rcases ih h with hm | hm
    · rcases attempt_cases registry new with ⟨_, he⟩ | he
      · rw [he, List.mem_append, List.mem_singleton] at hm
        rcases hm with hm | rfl
        · exact .inl hm
        · exact .inr List.mem_cons_self
      · exact .inl (he ▸ hm)
    · exact .inr (List.mem_cons_of_mem _ hm)

/-- Introductions that are in conflict with none before them are all accepted. -/
theorem attemptAll_of_consistent {registry : IntroductionRegistry} {calls : List Introduction}
    (h : IsConsistent ⟨registry.introductions ++ calls⟩) :
    registry.attemptAll calls = ⟨registry.introductions ++ calls⟩ := by
  induction calls generalizing registry with
  | nil => rw [List.append_nil]; rfl
  | cons new calls ih =>
    have hnew : ∀ existing ∈ registry.introductions, existing.conflicts new = false :=
      fun existing hm => (List.pairwise_append.mp h).2.2 existing hm new List.mem_cons_self
    have he : registry.attempt new = ⟨registry.introductions ++ [new]⟩ := by
      rw [attempt, register_of_no_conflict hnew]
    have hsplit : registry.introductions ++ new :: calls =
        (registry.introductions ++ [new]) ++ calls := (List.append_cons _ _ _)
    rw [attemptAll, List.foldl_cons, he, hsplit]
    exact ih (hsplit ▸ h)

/-- In a consistent registry the introductions for a type have different capabilities. -/
theorem IsConsistent.introductionsFor {registry : IntroductionRegistry} (h : registry.IsConsistent)
    (targetType : String) :
    (registry.introductionsFor targetType).Pairwise fun a b => ¬ a.SameCapability b := by
  have hfilter : (registry.introductionsFor targetType).Pairwise fun a b => a.conflicts b = false :=
    h.filter _
  refine hfilter.imp_of_mem fun {a b} ha hb hab => ?_
  exact Introduction.not_sameCapability hab (List.mem_filter.mp ha).2 (List.mem_filter.mp hb).2

end IntroductionRegistry

/-- A manager whose registry refuses an introduction stays as it is. -/
theorem Manager.registerIntroduction_refused {manager : Manager} {new : Introduction} {error : AopError}
    (h : manager.factory.introductions.register new = .error error) :
    (manager.registerIntroduction new).state = manager := by
  unfold registerIntroduction
  cases hpending : manager.pending with
  | none => rfl
  | some factory =>
    have hfactory : manager.factory = factory := by rw [Manager.factory, hpending]; rfl
    rw [hfactory] at h
    simp only [h]

/-- Whatever is registered in whatever order, no target type is given two introductions with the same
capability name or the same capability type. A registration is refused exactly if an introduction before
it has the same capability for some type name that both patterns fit; then the manager that holds the
registry stays as it is. The introductions that were not refused make the same registry by themselves. -/
theorem IntroductionRegistry.introductions_unambiguous {calls : List Introduction} {new : Introduction}
    (hcalls : ∀ introduction ∈ calls, introduction.IsCreated) (hnew : new.IsCreated) :
    (∀ targetType, ((empty.attemptAll calls).introductionsFor targetType).Pairwise fun a b =>
        a.capability.name ≠ b.capability.name ∧ a.capabilityType ≠ b.capabilityType) ∧
      ((∃ error, (empty.attemptAll calls).register new = .error error) ↔
        ∃ existing ∈ (empty.attemptAll calls).introductions,
          (existing.capability.name = new.capability.name ∨
            existing.capabilityType = new.capabilityType) ∧
          ∃ targetType, existing.appliesTo targetType = true ∧ new.appliesTo targetType = true) ∧
      (∀ error, (empty.attemptAll calls).register new = .error error →
        (empty.attemptAll calls).attempt new = empty.attemptAll calls ∧
        ∀ manager : Manager, manager.factory.introductions = empty.attemptAll calls →
          (manager.registerIntroduction new).state = manager) ∧
      empty.attemptAll (empty.attemptAll calls).introductions = empty.attemptAll calls := by
  have hempty : empty.IsConsistent := List.Pairwise.nil
  have hconsistent := hempty.attemptAll calls
  have hcreated : ∀ existing ∈ (empty.attemptAll calls).introductions, existing.IsCreated := by
    intro existing hm
    rcases mem_attemptAll hm with hm | hm
    · exact absurd hm List.not_mem_nil
    · exact hcalls existing hm
  refine ⟨fun targetType => ?_, ⟨?_, ?_⟩, fun error herror => ⟨?_, fun manager hmanager => ?_⟩, ?_⟩
  · exact (hconsistent.introductionsFor targetType).imp not_or.mp
  · rintro ⟨error, herror⟩
    obtain ⟨existing, hm, hc⟩ := register_error herror
    exact ⟨existing, hm, Introduction.exists_targetType (hcreated existing hm) hnew hc⟩
  · rintro ⟨existing, hm, hsame, targetType, he, hn⟩
    cases hregister : (empty.attemptAll calls).register new with
    | error error => exact ⟨error, rfl⟩
    | ok after =>
      have hfree := (register_ok hregister).1 existing hm
      exact absurd hsame (Introduction.not_sameCapability hfree he hn)
  · rw [attempt, herror]
  · exact Manager.registerIntroduction_refused (hmanager ▸ herror)
  · exact @attemptAll_of_consistent empty _ hconsistent

/-- An audit for `com.x.*` is refused after one for `com..*Impl`, since both would apply to some type. -/
theorem IntroductionRegistry.introductions_unambiguous_audit :
    ∃ first second : Introduction,
      Introduction.create "com..*Impl" ⟨"Audit", []⟩ "dyn Audit" (pure .unit) = .ok first ∧
      Introduction.create "com.x.*" ⟨"Audit", []⟩ "dyn Tagged" (pure .unit) = .ok second ∧
      (∃ error, (empty.attemptAll [first]).register second = .error error) ∧
      ∃ targetType, first.appliesTo targetType = true ∧ second.appliesTo targetType = true := by
  let first : Introduction :=
    ⟨⟨"com..*Impl", [.one ⟨"com".toList⟩, .many, .one ⟨"*Impl".toList⟩]⟩, ⟨"Audit", []⟩, "dyn Audit",
      pure .unit⟩
  let second : Introduction :=
    ⟨⟨"com.x.*", [.one ⟨"com".toList⟩, .one ⟨"x".toList⟩, .one ⟨"*".toList⟩]⟩, ⟨"Audit", []⟩,
      "dyn Tagged", pure .unit⟩
  have hfirst : Introduction.create "com..*Impl" ⟨"Audit", []⟩ "dyn Audit" (pure .unit) = .ok first :=
    rfl
  have hsecond : Introduction.create "com.x.*" ⟨"Audit", []⟩ "dyn Tagged" (pure .unit) = .ok second :=
    rfl
  have hover : first.targetPattern.overlaps second.targetPattern = true := by cbv
  have hconflict := (Introduction.conflicts_iff first second).mpr ⟨.inl rfl, hover⟩
  have hrefused : ∃ error, (empty.attemptAll [first]).register second = .error error := by
    cases hregister : (empty.attemptAll [first]).register second with
    | error error => exact ⟨error, rfl⟩
    | ok after =>
      have hfree := (register_ok hregister).1 first List.mem_cons_self
      rw [hconflict] at hfree
      cases hfree
  have hcalls : ∀ introduction ∈ [first], introduction.IsCreated := by
    intro introduction hm
    rw [List.mem_singleton.mp hm]
    exact ⟨_, _, _, _, hfirst⟩
  obtain ⟨_, hiff, _⟩ := introductions_unambiguous hcalls ⟨_, _, _, _, hsecond⟩
  obtain ⟨existing, hm, _, htype⟩ := hiff.mp hrefused
  have he : existing = first := List.mem_singleton.mp hm
  exact ⟨first, second, hfirst, hsecond, hrefused, he ▸ htype⟩

end Interception
