import Interception.Aspects.Metric
import Mathlib.Data.List.Induction
import Mathlib.Data.List.Nodup

/-!
# Families of meters

A registry takes every family that is registered with it, whatever names it has already. That no name is
taken twice in the shared registry is due to what is kept beside it: a stem belongs to a number there exactly
if the family with that number is shared and has the stem. Metric aspects are made from valid options only,
and they use the family that belongs to their stem, which is registered for the first of them.

Different stems give different names even where a stem ends like the name of a meter, since counters and
histograms are told apart by how their names end.
-/

namespace Interception

/-- Adding one to the number of a key changes no other number. -/
theorem lookup_tally {α : Type} [BEq α] [LawfulBEq α] [DecidableEq α] (key other : α)
    (numbers : List (α × Nat)) :
    ((tally key numbers).lookup other).getD 0 =
      (numbers.lookup other).getD 0 + if other = key then 1 else 0 := by
  induction numbers with
  | nil =>
    rw [tally, List.lookup_cons]
    by_cases h : other = key
    · simp [h]
    · simp [h, beq_eq_false_iff_ne.mpr h]
  | cons first rest ih =>
    obtain ⟨k, n⟩ := first
    rw [tally]
    by_cases hkey : k = key
    · subst hkey
      rw [if_pos (beq_self_eq_true k), List.lookup_cons, List.lookup_cons]
      by_cases h : other = k
      · simp [h]
      · simp [h, beq_eq_false_iff_ne.mpr h]
    · rw [if_neg (by simpa using hkey), List.lookup_cons, List.lookup_cons]
      by_cases h : other = k
      · have hother : other ≠ key := fun heq => hkey (h.symm.trans heq)
        simp [h, hkey]
      · simpa only [beq_eq_false_iff_ne.mpr h] using ih

namespace MeterFamily

variable (family family' : MeterFamily)

/-- A finished call adds one to its own counter and changes no other. -/
@[simp] theorem counter_count (method method' : String) (succeeded succeeded' : Bool) :
    (family.count method succeeded).counter method' succeeded' =
      family.counter method' succeeded' +
        if (method', succeeded') = (method, succeeded) then 1 else 0 :=
  lookup_tally (method, succeeded) (method', succeeded') family.calls

@[simp] theorem count_stem (method : String) (succeeded : Bool) :
    (family.count method succeeded).stem = family.stem := rfl

@[simp] theorem count_isShared (method : String) (succeeded : Bool) :
    (family.count method succeeded).isShared = family.isShared := rfl

/-- No counters are called like histograms, whatever their stems are. -/
theorem callsName_ne_durationsName : family.callsName ≠ family'.durationsName := by
  intro h
  have hcalls : family.callsName.toList = (family.stem.toList ++ ['_', 'c', 'a', 'l']) ++ ['l', 's'] := by
    simp [callsName]
  have hdurations : family'.durationsName.toList =
      (family'.stem.toList ++ "_duration_secon".toList) ++ ['d', 's'] := by
    simp [durationsName]
  have hends : ['l', 's'] = ['d', 's'] :=
    List.append_inj_right' (hcalls.symm.trans ((congrArg String.toList h).trans hdurations)) rfl
  cases hends

/-- The two meters of a family have two names. -/
theorem names_nodup : family.names.Nodup := by
  simpa [names] using family.callsName_ne_durationsName family

/-- Families with different stems have no name in common. -/
theorem names_disjoint (h : family.stem ≠ family'.stem) : family.names.Disjoint family'.names := by
  have hcalls : family.callsName ≠ family'.callsName :=
    fun heq => h ((String.append_left_inj _).mp heq)
  have hdurations : family.durationsName ≠ family'.durationsName :=
    fun heq => h ((String.append_left_inj _).mp heq)
  simp only [names, List.disjoint_cons_left, List.mem_cons, List.not_mem_nil, or_false, not_or,
    List.disjoint_nil_left, and_true]
  exact ⟨⟨hcalls, family.callsName_ne_durationsName family'⟩,
    (family'.callsName_ne_durationsName family).symm, hdurations⟩

end MeterFamily

namespace Meters

/-- The stem of every family, and whether it belongs to the shared registry. -/
def entries (meters : Meters) : List (String × Bool) :=
  meters.families.map fun family => (family.stem, family.isShared)

/-- The stems of the families in the shared registry in the order of registration. -/
def sharedStems (meters : Meters) : List String :=
  (meters.entries.filter Prod.snd).map Prod.fst

/-- A stem belongs to a number exactly if the family with that number is shared and has the stem. -/
def InStep (meters : Meters) : Prop :=
  ∀ stem number, meters.shared? stem = some number ↔ meters.entries[number]? = some (stem, true)

/-- A later state, in which every family still has its number. -/
def Extends (meters later : Meters) : Prop := meters.entries <+: later.entries

/-- The stems of the valid ones among some options. -/
def validStems (options : List MetricOptions) : List String :=
  (options.filter fun o => o.faults.isEmpty).map MetricOptions.stem

/-- The number of finished calls that a family has counted for a method, zero where there is no family. -/
def counter (meters : Meters) (family : Nat) (method : String) (succeeded : Bool) : Nat :=
  match meters.families[family]? with
  | some family => family.counter method succeeded
  | none => 0

/-- Makes a metric aspect on the shared registry. Nothing is made from options that are not valid. -/
def make (meters : Meters) (options : MetricOptions) : Option MetricAspect × Meters :=
  match MetricAspect.check options with
  | .error _ => (none, meters)
  | .ok options =>
    match meters.shared? options.stem with
    | some family => (some ⟨options, family⟩, meters)
    | none =>
      let (family, meters) := meters.register options.stem true
      (some ⟨options, family⟩, meters.share options.stem family)

/-- Makes a metric aspect on a private registry. -/
def makePrivate (meters : Meters) (options : MetricOptions) : Option MetricAspect × Meters :=
  match MetricAspect.check options with
  | .error _ => (none, meters)
  | .ok options =>
    let (family, meters) := meters.register options.stem false
    (some ⟨options, family⟩, meters)

/-- Makes metric aspects on the shared registry one after the other. -/
def makeAll (meters : Meters) : List MetricOptions → List MetricAspect × Meters
  | [] => ([], meters)
  | options :: rest =>
    let (made, meters) := meters.make options
    let (others, meters) := meters.makeAll rest
    (made.toList ++ others, meters)

/-- The three ways in which a metric aspect is made on the shared registry. -/
inductive Makes (meters : Meters) (options : MetricOptions) : Option MetricAspect × Meters → Prop where
  /-- The options are not valid. -/
  | refused : options.faults ≠ [] → Makes meters options (none, meters)
  /-- The stem has a family. -/
  | found {family : Nat} : options.faults = [] → meters.shared? options.stem = some family →
    Makes meters options (some ⟨options, family⟩, meters)
  /-- The stem has no family, and one is registered. -/
  | registered : options.faults = [] → meters.shared? options.stem = none →
    Makes meters options
      (some ⟨options, meters.families.length⟩,
        (meters.register options.stem true).2.share options.stem meters.families.length)

section

variable {meters later : Meters} {stem : String} {number : Nat}

@[simp] theorem entries_register (meters : Meters) (stem : String) (isShared : Bool) :
    (meters.register stem isShared).2.entries = meters.entries ++ [(stem, isShared)] := by
  simp [entries, register]

@[simp] theorem entries_share (meters : Meters) (stem : String) (family : Nat) :
    (meters.share stem family).entries = meters.entries := rfl

/-- Counting registers nothing. -/
@[simp] theorem entries_count (meters : Meters) (family : Nat) (method : String) (succeeded : Bool) :
    (meters.count family method succeeded).entries = meters.entries := by
  refine List.ext_getElem? fun number => ?_
  simp only [entries, count, List.getElem?_map, List.getElem?_modify, Option.map_eq_map,
    Option.map_map]
  refine congrArg (Option.map · _) (funext fun found => ?_)
  by_cases h : family = number <;> simp [h]

@[simp] theorem length_entries (meters : Meters) : meters.entries.length = meters.families.length := by
  simp [entries]

@[simp] theorem shared?_register (meters : Meters) (stem other : String) (isShared : Bool) :
    (meters.register stem isShared).2.shared? other = meters.shared? other := rfl

@[simp] theorem shared?_count (meters : Meters) (family : Nat) (method stem : String)
    (succeeded : Bool) : (meters.count family method succeeded).shared? stem = meters.shared? stem := rfl

/-- A stem that is kept belongs to its number, and other stems belong where they belonged. -/
theorem shared?_share (meters : Meters) (stem other : String) (family : Nat) :
    (meters.share stem family).shared? other =
      if other = stem then some family else meters.shared? other := by
  rw [shared?, share, List.lookup_cons]
  by_cases h : other = stem
  · rw [if_pos h, beq_iff_eq.mpr h]
  · rw [if_neg h, beq_eq_false_iff_ne.mpr h]
    rfl

/-- A metric aspect is made in one of the three ways. -/
theorem makes (meters : Meters) (options : MetricOptions) :
    Makes meters options (meters.make options) := by
  unfold make MetricAspect.check
  cases hfaults : options.faults with
  | cons fault faults => exact .refused (by simp [hfaults])
  | nil =>
    cases hshared : meters.shared? options.stem with
    | some family =>
      simp only [hshared]
      exact .found hfaults hshared
    | none =>
      simp only [hshared]
      exact .registered hfaults hshared

/-- Options that are not valid are refused, and nothing else happens. -/
theorem createShared_of_faults {options : MetricOptions} (h : options.faults ≠ []) (world : World) :
    MetricAspect.createShared options world =
      (.error (.configuration (.invalidOptions "MetricAspect" options.faults)), world) := by
  unfold MetricAspect.createShared MetricAspect.check
  cases hfaults : options.faults with
  | nil => exact absurd hfaults h
  | cons fault faults => rfl

/-- Making a metric aspect on the shared registry uses the meters and the log only. -/
theorem createShared_eq (options : MetricOptions) (world : World) :
    (MetricAspect.createShared options world).1.toOption = (world.meters.make options).1 ∧
    ∃ records, (MetricAspect.createShared options world).2 =
      { world with meters := (world.meters.make options).2, records } := by
  unfold MetricAspect.createShared make MetricAspect.check
  cases hfaults : options.faults with
  | cons fault faults => exact ⟨rfl, world.records, rfl⟩
  | nil =>
    cases hshared : world.meters.shared? options.stem with
    | some family =>
      simp only [hshared]
      exact ⟨rfl, world.records, rfl⟩
    | none =>
      simp only [hshared]
      exact ⟨rfl, _, rfl⟩

/-- Aspects that are made one after the other are made in two parts. -/
theorem makeAll_append (meters : Meters) (options rest : List MetricOptions) :
    (meters.makeAll (options ++ rest)).1 =
        (meters.makeAll options).1 ++ ((meters.makeAll options).2.makeAll rest).1 ∧
    (meters.makeAll (options ++ rest)).2 = ((meters.makeAll options).2.makeAll rest).2 := by
  induction options generalizing meters with
  | nil => exact ⟨rfl, rfl⟩
  | cons first options ih =>
    obtain ⟨hmade, hmeters⟩ := ih (meters.make first).2
    simp only [List.cons_append, makeAll, hmade, hmeters, List.append_assoc, and_self]

/-- Without families no stem belongs anywhere. -/
theorem InStep.empty : Meters.empty.InStep := by
  intro stem number
  simp [shared?, Meters.empty, entries]

/-- What stands at a number after an entry was added. -/
theorem getElem?_entries_register (meters : Meters) (stem : String) (isShared : Bool) (number : Nat) :
    (meters.register stem isShared).2.entries[number]? =
      if number = meters.families.length then some (stem, isShared) else meters.entries[number]? := by
  rw [entries_register, ← length_entries]
  by_cases h : number = meters.entries.length
  · simp [h]
  · rw [if_neg h]
    by_cases hlt : number < meters.entries.length
    · rw [List.getElem?_append_left hlt]
    · have hbeyond : meters.entries.length < number := by omega
      rw [List.getElem?_eq_none (Nat.le_of_lt hbeyond), List.getElem?_eq_none]
      rw [List.length_append, List.length_singleton]
      exact hbeyond

/-- The number that the next family gets stands for none yet. -/
theorem InStep.lt_length (h : meters.InStep) (hshared : meters.shared? stem = some number) :
    number < meters.families.length := by
  have hentry := (h stem number).mp hshared
  rw [← length_entries]
  exact (List.getElem?_eq_some_iff.mp hentry).1

/-- A family in a private registry leaves the shared registry in step. -/
theorem InStep.registerPrivate (h : meters.InStep) (stem : String) :
    (meters.register stem false).2.InStep := by
  intro other number
  rw [shared?_register, getElem?_entries_register]
  by_cases hnumber : number = meters.families.length
  · have hnone : meters.shared? other ≠ some number := fun hshared =>
      Nat.ne_of_lt (h.lt_length hshared) hnumber
    simp [hnumber ▸ hnone, hnumber]
  · rw [if_neg hnumber, h other number]

/-- A new family for a stem without one leaves the registry in step. -/
theorem InStep.registerShared (h : meters.InStep) (hnone : meters.shared? stem = none) :
    ((meters.register stem true).2.share stem meters.families.length).InStep := by
  intro other number
  rw [shared?_share, shared?_register, entries_share, getElem?_entries_register]
  by_cases hother : other = stem
  · subst hother
    have hold : meters.entries[number]? ≠ some (other, true) := fun hentry => by
      rw [(h other number).mpr hentry] at hnone
      cases hnone
    by_cases hnumber : number = meters.families.length
    · simp [hnumber]
    · simp [hnumber, hold, Ne.symm hnumber]
  · by_cases hnumber : number = meters.families.length
    · have hold : meters.shared? other ≠ some number := fun hshared =>
        Nat.ne_of_lt (h.lt_length hshared) hnumber
      simp [hother, hnumber ▸ hold, hnumber, Ne.symm hother]
    · rw [if_neg hother, if_neg hnumber, h other number]

/-- Nothing is lost where nothing happens. -/
theorem Extends.refl (meters : Meters) : meters.Extends meters := List.prefix_rfl

/-- Nothing is lost in two steps if nothing is lost in either. -/
theorem Extends.trans {last : Meters} (h : meters.Extends later) (h' : later.Extends last) :
    meters.Extends last := List.IsPrefix.trans h h'

/-- A new family takes no number from another. -/
theorem extends_register (meters : Meters) (stem : String) (isShared : Bool) :
    meters.Extends (meters.register stem isShared).2 := by
  rw [Extends, entries_register]
  exact List.prefix_append _ _

/-- An entry stays under its number. -/
theorem Extends.getElem? (h : meters.Extends later) {entry : String × Bool}
    (hentry : meters.entries[number]? = some entry) : later.entries[number]? = some entry :=
by
  obtain ⟨added, hlater⟩ := h
  rw [← hlater]
  have hlt := (List.getElem?_eq_some_iff.mp hentry).1
  rw [List.getElem?_append_left hlt, hentry]

/-- The first occurrences in a list with one more element. -/
theorem eraseDups_concat (texts : List String) (text : String) :
    (texts ++ [text]).eraseDups = texts.eraseDups ++ if text ∈ texts then [] else [text] := by
  rw [List.eraseDups_append]
  by_cases h : text ∈ texts
  · simp [List.removeAll, h]
  · simp [List.removeAll, h, List.eraseDups_cons]

/-- The first occurrences in a list are different from each other. -/
theorem nodup_eraseDups (texts : List String) : texts.eraseDups.Nodup := by
  induction texts using List.reverseRecOn with
  | nil => exact List.nodup_nil
  | append_singleton texts text ih =>
    rw [eraseDups_concat]
    by_cases h : text ∈ texts
    · simpa [h] using ih
    · have hnew : text ∉ texts.eraseDups := fun hmem => h (List.mem_eraseDups.mp hmem)
      rw [if_neg h]
      exact List.nodup_append.mpr ⟨ih, List.nodup_singleton text, by
        intro other hother text' htext' heq
        rw [List.mem_singleton.mp htext'] at heq
        exact hnew (heq ▸ hother)⟩

/-- A stem is shared exactly if it belongs to a number. -/
theorem InStep.mem_sharedStems_iff (h : meters.InStep) :
    stem ∈ meters.sharedStems ↔ meters.shared? stem ≠ none := by
  have hentries : stem ∈ meters.sharedStems ↔ (stem, true) ∈ meters.entries := by
    simp [sharedStems]
  rw [hentries, List.mem_iff_getElem?, Option.ne_none_iff_exists']
  exact exists_congr fun number => (h stem number).symm

/-- What making metric aspects on the shared registry does: it keeps the registry in step and all families
under their numbers. From each of the valid options an aspect is made whose family is the one of its stem,
and the stem is shared from then on. -/
structure MakesAll (meters : Meters) (tried : List MetricOptions) (made : List MetricAspect × Meters) :
    Prop where
  /-- The registry stays in step. -/
  inStep : made.2.InStep
  /-- All families keep their numbers. -/
  extends_later : meters.Extends made.2
  /-- The aspects are made from the valid ones of the options. -/
  options_eq : made.1.map MetricAspect.options = tried.filter (·.faults.isEmpty)
  /-- The family of an aspect is the shared one of its stem. -/
  entry_eq : ∀ aspect ∈ made.1, made.2.entries[aspect.family]? = some (aspect.options.stem, true)
  /-- The stems are shared in the order in which they first occur. -/
  sharedStems_eq : ∀ stems : List String, meters.sharedStems = stems.eraseDups →
    made.2.sharedStems = (stems ++ validStems tried).eraseDups
  /-- No calls are counted. -/
  counter_eq : ∀ number method succeeded,
    made.2.counter number method succeeded = meters.counter number method succeeded

/-- A new family has counted no calls. -/
@[simp] theorem counter_register (meters : Meters) (stem method : String) (isShared succeeded : Bool)
    (number : Nat) : (meters.register stem isShared).2.counter number method succeeded =
      meters.counter number method succeeded := by
  unfold counter register
  rcases Nat.lt_trichotomy number meters.families.length with hlt | rfl | hgt
  · rw [List.getElem?_append_left hlt]
  · rw [List.getElem?_eq_none (Nat.le_refl _)]
    simp [MeterFamily.counter]
  · rw [List.getElem?_eq_none (Nat.le_of_lt hgt), List.getElem?_eq_none]
    rw [List.length_append, List.length_singleton]
    exact hgt

@[simp] theorem counter_share (meters : Meters) (stem method : String) (family number : Nat)
    (succeeded : Bool) : (meters.share stem family).counter number method succeeded =
      meters.counter number method succeeded := rfl

/-- A finished call is counted by the family under its number, if there is one, and by no other. -/
theorem counter_count (meters : Meters) (family number : Nat) (method method' : String)
    (succeeded succeeded' : Bool) (hfamily : family < meters.families.length) :
    (meters.count family method succeeded).counter number method' succeeded' =
      meters.counter number method' succeeded' +
        if (number, method', succeeded') = (family, method, succeeded) then 1 else 0 := by
  unfold counter count
  rw [List.getElem?_modify]
  by_cases hnumber : family = number
  · subst hnumber
    simp [List.getElem?_eq_getElem hfamily]
  · simp [hnumber, Ne.symm hnumber]

/-- Making one metric aspect on the shared registry. -/
theorem InStep.make (h : meters.InStep) (options : MetricOptions) :
    meters.MakesAll [options] ((meters.make options).1.toList, (meters.make options).2) := by
  have hmakes := meters.makes options
  generalize meters.make options = ran at hmakes
  cases hmakes with
  | refused hfaults =>
    have hinvalid : options.faults.isEmpty = false := by simpa using hfaults
    exact ⟨h, .refl meters, by simp [hinvalid], by simp, by simp [validStems, hinvalid], fun _ _ _ => rfl⟩
  | @found family hfaults hshared =>
    have hmem : options.stem ∈ meters.sharedStems := by
      rw [h.mem_sharedStems_iff, hshared]
      exact Option.some_ne_none family
    refine ⟨h, .refl meters, by simp [hfaults], ?_, fun stems hstems => ?_, fun _ _ _ => rfl⟩
    · simpa using (h options.stem family).mp hshared
    · have hold : options.stem ∈ stems := List.mem_eraseDups.mp (hstems ▸ hmem)
      simp [validStems, hfaults, eraseDups_concat, hold, hstems]
  | registered hfaults hshared =>
    refine ⟨h.registerShared hshared, meters.extends_register options.stem true, by simp [hfaults], ?_,
      fun stems hstems => ?_, fun _ _ _ => by simp⟩
    · simp
    · have hnew : options.stem ∉ stems := fun hold => by
        have hmem : options.stem ∈ meters.sharedStems := hstems ▸ List.mem_eraseDups.mpr hold
        exact h.mem_sharedStems_iff.mp hmem hshared
      simp [validStems, hfaults, eraseDups_concat, hnew, ← hstems, sharedStems]

/-- Making metric aspects on the shared registry one after the other. -/
theorem InStep.makeAll (h : meters.InStep) (tried : List MetricOptions) :
    meters.MakesAll tried (meters.makeAll tried) := by
  induction tried generalizing meters with
  | nil =>
    exact ⟨h, .refl meters, rfl, fun _ hmem => absurd hmem List.not_mem_nil,
      fun stems hstems => by simpa [validStems, Meters.makeAll] using hstems, fun _ _ _ => rfl⟩
  | cons options rest ih =>
    have hfirst := h.make options
    have hrest := ih hfirst.inStep
    refine ⟨hrest.inStep, hfirst.extends_later.trans hrest.extends_later, ?_, fun aspect hmem => ?_,
      fun stems hstems => ?_, fun number method succeeded => ?_⟩
    · have hoptions : List.filter (·.faults.isEmpty) (options :: rest) =
          List.filter (·.faults.isEmpty) [options] ++ List.filter (·.faults.isEmpty) rest :=
        List.filter_append [options] rest
      rw [hoptions, ← hfirst.options_eq, ← hrest.options_eq]
      exact List.map_append
    · obtain hmem | hmem := List.mem_append.mp hmem
      · exact hrest.extends_later.getElem? (hfirst.entry_eq aspect hmem)
      · exact hrest.entry_eq aspect hmem
    · have hstems' := hrest.sharedStems_eq _ (hfirst.sharedStems_eq stems hstems)
      have hvalid : validStems (options :: rest) = validStems [options] ++ validStems rest := by
        rw [validStems, validStems, validStems, ← List.map_append]
        exact congrArg _ (List.filter_append [options] rest)
      rw [hvalid, ← List.append_assoc]
      exact hstems'
    · exact (hrest.counter_eq number method succeeded).trans (hfirst.counter_eq number method succeeded)

/-- The names in the shared registry are those of the families with the shared stems. -/
theorem names_eq (meters : Meters) : meters.names true =
    meters.sharedStems.flatMap fun stem => [stem ++ "_calls", stem ++ "_duration_seconds"] := by
  simp only [names, sharedStems, entries, List.filter_map, List.map_map, List.flatMap_map]
  have hshared : (fun family : MeterFamily => family.isShared == true) =
      Prod.snd ∘ fun family => (family.stem, family.isShared) := by
    funext family
    cases hfamily : family.isShared <;> simp [hfamily]
  rw [hshared]
  rfl

/-- No name is taken twice where no stem is. -/
theorem names_nodup (h : meters.sharedStems.Nodup) : (meters.names true).Nodup := by
  rw [names_eq, List.nodup_flatMap]
  refine ⟨fun stem _ => MeterFamily.names_nodup ⟨stem, true, [], []⟩, h.imp fun hstems => ?_⟩
  exact MeterFamily.names_disjoint ⟨_, true, [], []⟩ ⟨_, true, [], []⟩ hstems

end

end Meters

end Interception
