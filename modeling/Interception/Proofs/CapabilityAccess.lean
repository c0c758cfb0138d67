import Interception.Proofs.TargetEntry

/-!
# Access to capabilities

Whoever asks a proxy for a capability gets the instance of the first slot for it. If the slot has none yet, the
maker of its introduction is run, and what it returns is kept in the slot. If the maker breaks off, the slot
stays empty. No other slot changes, and nothing else is run.

Which makers are run can be told because an access does not depend on how they are run: run in a way that keeps
a record of them, they lead to the same instances in the same surroundings.
-/

namespace Interception

namespace CapabilitySlot

variable {σ : Type} {make : Introduction → Run σ Value} {capabilityType : String}

/-- The capability of a type among slots, with the slots afterwards, where makers are run in the given way. -/
def access (make : Introduction → Run σ Value) (capabilityType : String) :
    List CapabilitySlot → Run σ (Option Value × List CapabilitySlot)
  | [] => pure (none, [])
  | slot :: slots =>
    if slot.introduction.capabilityType = capabilityType then
      match slot.instance? with
      | some value => pure (some value, slot :: slots)
      | none => do
        let value ← make slot.introduction
        pure (some value, { slot with instance? := some value } :: slots)
    else do
      let (found, slots) ← access make capabilityType slots
      pure (found, slot :: slots)

/-- The instance of a slot, which is made if there is none yet. -/
def obtain (make : Introduction → Run σ Value) (slot : CapabilitySlot) : Run σ Value :=
  match slot.instance? with
  | some value => pure value
  | none => make slot.introduction

/-- Slots have none for the type of a capability, or a first one. -/
theorem missing_or_exists_first (capabilityType : String) (slots : List CapabilitySlot) :
    (∀ slot ∈ slots, slot.introduction.capabilityType ≠ capabilityType) ∨
      ∃ before slot after, slots = before ++ slot :: after ∧
        (∀ earlier ∈ before, earlier.introduction.capabilityType ≠ capabilityType) ∧
        slot.introduction.capabilityType = capabilityType := by
  induction slots with
  | nil => exact .inl fun _ h => absurd h List.not_mem_nil
  | cons first slots ih =>
    by_cases hfirst : first.introduction.capabilityType = capabilityType
    · exact .inr ⟨[], first, slots, rfl, fun _ h => absurd h List.not_mem_nil, hfirst⟩
    · obtain hmissing | ⟨before, slot, after, rfl, hbefore, htype⟩ := ih
      · exact .inl (List.forall_mem_cons.mpr ⟨hfirst, hmissing⟩)
      · exact .inr ⟨first :: before, slot, after, rfl, List.forall_mem_cons.mpr ⟨hfirst, hbefore⟩, htype⟩

/-- Without a slot for the capability nothing is found. -/
theorem access_of_missing {slots : List CapabilitySlot}
    (h : ∀ slot ∈ slots, slot.introduction.capabilityType ≠ capabilityType) :
    access make capabilityType slots = pure (none, slots) := by
  induction slots with
  | nil => rfl
  | cons first slots ih =>
    obtain ⟨hfirst, hothers⟩ := List.forall_mem_cons.mp h
    rw [access, if_neg hfirst, ih hothers]
    rfl

/-- The first slot for the capability gives its instance and keeps it. -/
theorem access_of_first {before after : List CapabilitySlot} {slot : CapabilitySlot}
    (hbefore : ∀ earlier ∈ before, earlier.introduction.capabilityType ≠ capabilityType)
    (htype : slot.introduction.capabilityType = capabilityType) :
    access make capabilityType (before ++ slot :: after) = slot.obtain make >>= fun value =>
      pure (some value, before ++ { slot with instance? := some value } :: after) := by
  induction before with
  | nil =>
    rw [List.nil_append, access, if_pos htype]
    obtain ⟨introduction, instance?⟩ := slot
    cases instance? <;> rfl
  | cons first before ih =>
    obtain ⟨hfirst, hothers⟩ := List.forall_mem_cons.mp hbefore
    rw [List.cons_append, access, if_neg hfirst, ih hothers, Run.bind_assoc]
    rfl

end CapabilitySlot

/-- An access on a proxy runs makers in the surroundings. -/
theorem Proxy.accessSlots_eq (dial : Dialler) (capabilityType : String) (slots : List CapabilitySlot) :
    accessSlots dial capabilityType slots =
      CapabilitySlot.access (fun introduction => introduction.maker.run (Ambient.answer dial))
        capabilityType slots := by
  induction slots with
  | nil => rfl
  | cons slot slots ih =>
    rewrite [accessSlots, CapabilitySlot.access, ih]
    rfl

/-- A run of the maker of an introduction, and how it ended. -/
structure MakerRun where
  /-- The introduction. -/
  introduction : Introduction
  /-- How the run ended. -/
  outcome : Outcome Value

/-- Runs the maker of an introduction and keeps a record of it. -/
def Introduction.makeRecorded (dial : Dialler) (introduction : Introduction) :
    Run (World × List MakerRun) Value := fun (world, runs) =>
  let ran := introduction.maker.run (Ambient.answer dial) world
  (ran.1, ran.2, runs ++ [⟨introduction, ran.1⟩])

namespace Proxy

/-- The runs of makers in an access. -/
def makerRuns (proxy : Proxy) (dial : Dialler) (capabilityType : String) (world : World) : List MakerRun :=
  (CapabilitySlot.access (Introduction.makeRecorded dial) capabilityType proxy.capabilities (world, [])).2.2

/-- The ways in which an access ends: with what it finds and the proxy afterwards unless it breaks off, in which
surroundings, and after which runs of makers. -/
inductive Accesses (proxy : Proxy) (dial : Dialler) (capabilityType : String) (world : World) :
    Outcome (Option Value × Proxy) × World → List MakerRun → Prop where
  /-- The proxy does not have the capability. -/
  | missing :
    (∀ slot ∈ proxy.capabilities, slot.introduction.capabilityType ≠ capabilityType) →
    Accesses proxy dial capabilityType world (.returned (none, proxy), world) []
  /-- The instance is there. -/
  | kept {before after : List CapabilitySlot} {introduction : Introduction} {value : Value} :
    proxy.capabilities = before ++ ⟨introduction, some value⟩ :: after →
    (∀ earlier ∈ before, earlier.introduction.capabilityType ≠ capabilityType) →
    introduction.capabilityType = capabilityType →
    Accesses proxy dial capabilityType world (.returned (some value, proxy), world) []
  /-- The instance is made and kept. -/
  | made {before after : List CapabilitySlot} {introduction : Introduction} {value : Value} {later : World} :
    proxy.capabilities = before ++ ⟨introduction, none⟩ :: after →
    (∀ earlier ∈ before, earlier.introduction.capabilityType ≠ capabilityType) →
    introduction.capabilityType = capabilityType →
    introduction.maker.run (Ambient.answer dial) world = (.returned value, later) →
    Accesses proxy dial capabilityType world
      (.returned (some value, { proxy with capabilities := before ++ ⟨introduction, some value⟩ :: after }),
        later)
      [⟨introduction, .returned value⟩]
  /-- The maker breaks off. -/
  | brokenOff {before after : List CapabilitySlot} {introduction : Introduction}
    {outcome : Outcome (Option Value × Proxy)} {broken : Outcome Value} {later : World} :
    proxy.capabilities = before ++ ⟨introduction, none⟩ :: after →
    introduction.maker.run (Ambient.answer dial) world = (broken, later) →
    (∀ value, broken ≠ .returned value) → (∀ result, outcome ≠ .returned result) →
    Accesses proxy dial capabilityType world (outcome, later) [⟨introduction, broken⟩]

/-- Every access ends in one of these ways. -/
theorem accesses (proxy : Proxy) (dial : Dialler) (capabilityType : String) (world : World) :
    proxy.Accesses dial capabilityType world (proxy.capability dial capabilityType world)
      (proxy.makerRuns dial capabilityType world) := by
  unfold capability makerRuns
  rw [accessSlots_eq]
  obtain hmissing | ⟨before, ⟨introduction, instance?⟩, after, hslots, hbefore, htype⟩ :=
    CapabilitySlot.missing_or_exists_first capabilityType proxy.capabilities
  · rw [CapabilitySlot.access_of_missing hmissing, CapabilitySlot.access_of_missing hmissing]
    exact .missing hmissing
  · rw [hslots, CapabilitySlot.access_of_first hbefore htype, CapabilitySlot.access_of_first hbefore htype,
      Run.bind_assoc]
    cases instance? with
    | some value =>
      have hsame : { proxy with capabilities := before ++ ⟨introduction, some value⟩ :: after } = proxy := by
        rw [← hslots]
      change proxy.Accesses dial capabilityType world
        (.returned (some value, { proxy with capabilities := before ++ ⟨introduction, some value⟩ :: after }),
          world) []
      rw [hsame]
      exact .kept hslots hbefore htype
    | none =>
      rw [Run.bind_apply, Run.bind_apply]
      unfold CapabilitySlot.obtain Introduction.makeRecorded
      simp only
      cases hran : introduction.maker.run (Ambient.answer dial) world with
      | mk outcome later =>
        cases outcome with
        | returned value => exact .made hslots hbefore htype hran
        | panicked message => exact .brokenOff hslots hran nofun nofun
        | exhausted => exact .brokenOff hslots hran nofun nofun

end Proxy

end Interception
