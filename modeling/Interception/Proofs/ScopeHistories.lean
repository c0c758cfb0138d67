import Interception.Proofs.Histories
import Interception.Routing
import Mathlib.Data.List.Induction
import Mathlib.Data.List.Nodup

/-!
# Histories of routing scopes

A routing scope is addressed by its place on the stack alone, and leaving it takes away its slot with all slots
above. Calls nest, so they leave the innermost scope first. A scope that is held as a value may be left at any
time, and then slots of other scopes that are still held may go with it.

Every slot is marked here with the scope that pushed it. The invariant of all histories is that this scope is
still held and stands in the place of the slot. In the place of a held scope stands its own slot, the slot of a
scope that was entered later, or none.
-/

namespace Interception

/-- What stands at an index of a list that was continued by one element. -/
theorem getElem?_concat {α : Type} (list : List α) (last : α) (index : Nat) :
    (list ++ [last])[index]? = if index = list.length then some last else list[index]? := by
  by_cases hlast : index = list.length
  · rw [if_pos hlast, hlast, List.getElem?_concat_length]
  · rw [if_neg hlast, List.getElem?_append]
    split
    · rfl
    · next hge =>
      have hbeyond : list.length < index := by omega
      rw [List.getElem?_eq_none (Nat.le_of_lt hbeyond), List.getElem?_eq_none]
      rw [List.length_singleton]
      omega

namespace RoutingStack

variable (stack : RoutingStack) (scope target : RoutingScope) (key : Option String)

/-- A new scope has the key that was current, and the others read what they read before. -/
theorem get_enter :
    stack.enter.2.get scope = if scope.below = stack.size then stack.current else stack.get scope := by
  change (stack.keys ++ [stack.current])[scope.below]?.join = _
  rw [getElem?_concat, size, get]
  split
  · rfl
  · rfl

/-- What is set through a scope is read through every scope of its depth, if a slot is there. -/
theorem get_set : (stack.set target key).get scope =
    if scope = target ∧ target.below < stack.size then key else stack.get scope := by
  change (stack.keys.set target.below key)[scope.below]?.join = _
  rw [List.getElem?_set, size, get]
  by_cases heq : scope = target
  · subst heq
    by_cases hlt : scope.below < stack.keys.length
    · simp [hlt]
    · rw [if_pos rfl, if_neg hlt, if_neg (fun h => hlt h.2), List.getElem?_eq_none (Nat.le_of_not_lt hlt)]
  · have hne : target.below ≠ scope.below := fun h => heq (by cases scope; cases target; simp_all)
    rw [if_neg hne, if_neg (fun h => heq h.1)]

/-- When a scope is left, the scopes of a smaller depth read what they read before, and all others nothing. -/
theorem get_leave :
    (stack.leave target).get scope = if scope.below < target.below then stack.get scope else none := by
  change (stack.keys.take target.below)[scope.below]?.join = _
  rw [List.getElem?_take, get]
  split
  · rfl
  · rfl

end RoutingStack

/-- An operation on the routing scopes of a thread. Scopes are numbered in the order in which they are
entered. -/
inductive ScopeCall where
  /-- Enter a scope. -/
  | enter
  /-- Set or clear the key of a scope. -/
  | set (number : Nat) (key : Option String)
  /-- Leave a scope. -/
  | leave (number : Nat)
  deriving DecidableEq

/-- A scope that was entered and not left since. -/
structure HeldScope where
  /-- The number of scopes that were entered before. -/
  number : Nat
  /-- The scope by its place on the stack. -/
  scope : RoutingScope
  /-- The key that was last set through this very scope, or the one that was current when it was entered if
  none was. No operation reads it. -/
  key : Option String

/-- The scope as an operation leaves it. -/
def HeldScope.after (scope : HeldScope) : ScopeCall → HeldScope
  | .set number key => if number = scope.number then { scope with key } else scope
  | _ => scope

@[simp] theorem HeldScope.after_number (scope : HeldScope) (call : ScopeCall) :
    (scope.after call).number = scope.number := by
  unfold after
  split
  · split
    · rfl
    · rfl
  · rfl

@[simp] theorem HeldScope.after_scope (scope : HeldScope) (call : ScopeCall) :
    (scope.after call).scope = scope.scope := by
  unfold after
  split
  · split
    · rfl
    · rfl
  · rfl

/-- A slot of the stack, marked with the scope that pushed it. -/
structure MarkedSlot where
  /-- The number of the scope that pushed the slot. -/
  pusher : Nat
  /-- The key in the slot. -/
  key : Option String

/-- The routing scopes of a thread. -/
structure ThreadScopes where
  /-- The stack that the scopes work on. -/
  stack : RoutingStack
  /-- The number of scopes that were entered so far. -/
  entered : Nat
  /-- The scopes that are held, in the order in which they were entered. -/
  held : List HeldScope
  /-- The slots of the stack with their marks. No operation reads them. -/
  slots : List MarkedSlot

namespace ThreadScopes

/-- No scope was entered yet. -/
def initial : ThreadScopes := ⟨.empty, 0, [], []⟩

/-- The next scope that will be entered. -/
def newcomer (thread : ThreadScopes) : HeldScope :=
  ⟨thread.entered, thread.stack.enter.1, thread.stack.current⟩

/-- Enters a scope. -/
def enter (thread : ThreadScopes) : ThreadScopes where
  stack := thread.stack.enter.2
  entered := thread.entered + 1
  held := thread.held ++ [thread.newcomer]
  slots := thread.slots ++ [⟨thread.entered, thread.stack.current⟩]

/-- Sets or clears the key of a scope. -/
def set (thread : ThreadScopes) (target : HeldScope) (key : Option String) : ThreadScopes :=
  { thread with
    stack := thread.stack.set target.scope key
    held := thread.held.map (·.after (.set target.number key))
    slots := thread.slots.modify target.scope.below fun slot => { slot with key } }

/-- Leaves a scope. -/
def leave (thread : ThreadScopes) (target : HeldScope) : ThreadScopes :=
  { thread with
    stack := thread.stack.leave target.scope
    held := thread.held.filter (·.number != target.number)
    slots := thread.slots.take target.scope.below }

/-- The held scope of a number. -/
def held? (thread : ThreadScopes) (number : Nat) : Option HeldScope :=
  thread.held.find? (·.number == number)

/-- Carries out an operation. The answer is the scope that it works on. An operation on a scope that is not
held does nothing. -/
def perform (thread : ThreadScopes) : ScopeCall → Option RoutingScope × ThreadScopes
  | .enter => (some thread.newcomer.scope, thread.enter)
  | .set number key =>
    match thread.held? number with
    | some target => (some target.scope, thread.set target key)
    | none => (none, thread)
  | .leave number =>
    match thread.held? number with
    | some target => (some target.scope, thread.leave target)
    | none => (none, thread)

/-- The scopes of a thread after a history of operations. -/
def after (history : List ScopeCall) : ThreadScopes := History.after perform initial history

/-- The four ways in which an operation is carried out. -/
inductive Performs (thread : ThreadScopes) : ScopeCall → ThreadScopes → Prop where
  /-- A scope is entered. -/
  | enters : Performs thread .enter thread.enter
  /-- The key of a held scope is set. -/
  | sets {target : HeldScope} (key : Option String) : target ∈ thread.held →
    Performs thread (.set target.number key) (thread.set target key)
  /-- A held scope is left. -/
  | leaves {target : HeldScope} : target ∈ thread.held →
    Performs thread (.leave target.number) (thread.leave target)
  /-- The scope is not held. -/
  | idles {number : Nat} {call : ScopeCall} : (∀ scope ∈ thread.held, scope.number ≠ number) →
    (call = .leave number ∨ ∃ key, call = .set number key) → Performs thread call thread

section

variable {thread later : ThreadScopes} {call : ScopeCall} {number : Nat} {scope target : HeldScope}

/-- What is found is held and has the number. -/
theorem held?_eq_some (h : thread.held? number = some target) :
    target ∈ thread.held ∧ target.number = number :=
  ⟨List.mem_of_find?_eq_some h, by simpa using List.find?_some h⟩

/-- If nothing is found, no held scope has the number. -/
theorem held?_eq_none (h : thread.held? number = none) : ∀ scope ∈ thread.held, scope.number ≠ number := by
  intro scope hm
  simpa using List.find?_eq_none.mp h scope hm

/-- An operation is carried out in one of the four ways. -/
theorem performs (thread : ThreadScopes) (call : ScopeCall) :
    thread.Performs call (thread.perform call).2 := by
  cases call with
  | enter => exact .enters
  | set number key =>
    rw [perform]
    cases hfound : thread.held? number with
    | none => exact .idles (held?_eq_none hfound) (.inr ⟨key, rfl⟩)
    | some target =>
      obtain ⟨hm, rfl⟩ := held?_eq_some hfound
      exact .sets key hm
  | leave number =>
    rw [perform]
    cases hfound : thread.held? number with
    | none => exact .idles (held?_eq_none hfound) (.inl rfl)
    | some target =>
      obtain ⟨hm, rfl⟩ := held?_eq_some hfound
      exact .leaves hm

/-- After an operation the scopes are held that were held before and are not left by it, and the one that it
enters. -/
theorem Performs.mem_held_iff (h : thread.Performs call later) :
    scope ∈ later.held ↔ (call = .enter ∧ scope = thread.newcomer) ∨
      ∃ earlier ∈ thread.held, call ≠ .leave earlier.number ∧ scope = earlier.after call := by
  cases h with
  | enters => simp [enter, HeldScope.after, or_comm]
  | sets key hm => simp [set, eq_comm]
  | @leaves target hm =>
    simp only [leave, List.mem_filter, bne_iff_ne, HeldScope.after, reduceCtorEq, false_and, false_or,
      ne_eq, ScopeCall.leave.injEq]
    constructor
    · intro hscope
      exact ⟨scope, hscope.1, fun he => hscope.2 he.symm, rfl⟩
    · rintro ⟨earlier, hearlier, hne, rfl⟩
      exact ⟨hearlier, fun he => hne he.symm⟩
  | @idles number _ hnone hcall =>
    obtain rfl | ⟨key, rfl⟩ := hcall
    · simp only [reduceCtorEq, false_and, false_or, HeldScope.after]
      constructor
      · intro hscope
        exact ⟨scope, hscope, fun he => hnone scope hscope (ScopeCall.leave.inj he).symm, rfl⟩
      · rintro ⟨earlier, hearlier, -, rfl⟩
        exact hearlier
    · have hsame : ∀ earlier ∈ thread.held, earlier.after (.set number key) = earlier :=
        fun earlier hearlier => if_neg (hnone earlier hearlier).symm
      simp only [reduceCtorEq, false_and, false_or]
      constructor
      · intro hscope
        exact ⟨scope, hscope, ScopeCall.noConfusion, (hsame scope hscope).symm⟩
      · rintro ⟨earlier, hearlier, -, rfl⟩
        rwa [hsame earlier hearlier]

/-- The numbers of scopes are not given twice. -/
theorem Performs.entered_le (h : thread.Performs call later) : thread.entered ≤ later.entered := by
  cases h with
  | enters => exact Nat.le_succ _
  | sets key hm => exact Nat.le_refl _
  | leaves hm => exact Nat.le_refl _
  | idles hnone hcall => exact Nat.le_refl _

end

/-- The scopes that pushed the slots of the stack, in the order of the slots. -/
def pushers (thread : ThreadScopes) : List Nat := thread.slots.map MarkedSlot.pusher

@[simp] theorem pushers_enter (thread : ThreadScopes) :
    thread.enter.pushers = thread.pushers ++ [thread.entered] := List.map_append

@[simp] theorem pushers_set (thread : ThreadScopes) (target : HeldScope) (key : Option String) :
    (thread.set target key).pushers = thread.pushers := by
  apply List.ext_getElem?
  intro place
  simp only [pushers, set, List.getElem?_map, List.getElem?_modify]
  cases thread.slots[place]? with
  | none => rfl
  | some slot =>
    by_cases hplace : target.scope.below = place
    · simp [hplace]
    · simp [hplace]

@[simp] theorem pushers_leave (thread : ThreadScopes) (target : HeldScope) :
    (thread.leave target).pushers = thread.pushers.take target.scope.below := List.map_take

/-- What holds of the scopes of a thread at any time. The marks are on the slots of the stack, and the scope
that pushed a slot is held and stands in its place. -/
structure IsSound (thread : ThreadScopes) : Prop where
  /-- Without their marks the slots are the stack. -/
  keys_eq : thread.slots.map MarkedSlot.key = thread.stack.keys
  /-- The scopes are held in the order of their numbers. -/
  ascending : (thread.held.map HeldScope.number).Pairwise (· < ·)
  /-- Their numbers were given before. -/
  given : ∀ scope ∈ thread.held, scope.number < thread.entered
  /-- The slots were pushed in the order in which they stand. -/
  stacked : thread.pushers.Pairwise (· < ·)
  /-- The scope that pushed a slot is held and stands in its place. -/
  owned : ∀ {place number : Nat}, thread.pushers[place]? = some number →
    ∃ scope ∈ thread.held, scope.number = number ∧ scope.scope = ⟨place⟩
  /-- In the place of a held scope stands the slot that it pushed, or one that was pushed later. -/
  replaced : ∀ scope ∈ thread.held, ∀ {number : Nat},
    thread.pushers[scope.scope.below]? = some number → scope.number ≤ number

namespace IsSound

variable {thread later : ThreadScopes} {call : ScopeCall} {scope other target : HeldScope}

/-- As many slots are marked as the stack has. -/
theorem length_pushers (h : thread.IsSound) : thread.pushers.length = thread.stack.size := by
  rw [RoutingStack.size, ← h.keys_eq, pushers, List.length_map, List.length_map]

/-- The number tells a held scope from all others. -/
theorem eq_of_number_eq (h : thread.IsSound) (hscope : scope ∈ thread.held) (hother : other ∈ thread.held)
    (hnumber : scope.number = other.number) : scope = other := by
  have hdistinct : (thread.held.map HeldScope.number).Nodup := h.ascending.imp Nat.ne_of_lt
  exact List.inj_on_of_nodup_map hdistinct hscope hother hnumber

/-- A held scope is found by its number. -/
theorem held?_eq (h : thread.IsSound) (htarget : target ∈ thread.held) :
    thread.held? target.number = some target := by
  cases hfound : thread.held? target.number with
  | none => exact absurd rfl (held?_eq_none hfound target htarget)
  | some found =>
    obtain ⟨hm, hnumber⟩ := held?_eq_some hfound
    rw [h.eq_of_number_eq hm htarget hnumber]

/-- The key of a held scope is set. -/
theorem perform_set (h : thread.IsSound) (htarget : target ∈ thread.held) (key : Option String) :
    (thread.perform (.set target.number key)).2 = thread.set target key := by
  rw [perform, h.held?_eq htarget]

/-- A held scope is left. -/
theorem perform_leave (h : thread.IsSound) (htarget : target ∈ thread.held) :
    (thread.perform (.leave target.number)).2 = thread.leave target := by
  rw [perform, h.held?_eq htarget]

/-- At the start nothing is held. -/
theorem initial : ThreadScopes.initial.IsSound where
  keys_eq := rfl
  ascending := List.Pairwise.nil
  given := fun _ hscope => absurd hscope List.not_mem_nil
  stacked := List.Pairwise.nil
  owned := fun hplace => by simp [pushers, ThreadScopes.initial] at hplace
  replaced := fun _ hscope => absurd hscope List.not_mem_nil

/-- Entering a scope puts a slot on top, in which the new scope stands. -/
theorem enter (h : thread.IsSound) : thread.enter.IsSound where
  keys_eq := by
    change (thread.slots ++ [_]).map MarkedSlot.key = thread.stack.keys ++ [_]
    rw [List.map_append, h.keys_eq]
    rfl
  ascending := by
    change ((thread.held ++ [_]).map HeldScope.number).Pairwise (· < ·)
    rw [List.map_append]
    refine List.pairwise_append.mpr ⟨h.ascending, List.pairwise_singleton _ _, fun number hnumber new hnew => ?_⟩
    obtain ⟨scope, hscope, rfl⟩ := List.mem_map.mp hnumber
    rw [List.mem_singleton.mp hnew]
    exact h.given scope hscope
  given := by
    intro scope hscope
    obtain hscope | hnew := List.mem_append.mp hscope
    · exact Nat.lt_succ_of_lt (h.given scope hscope)
    · rw [List.mem_singleton.mp hnew]
      exact Nat.lt_succ_self _
  stacked := by
    rw [pushers_enter]
    refine List.pairwise_append.mpr ⟨h.stacked, List.pairwise_singleton _ _, fun number hnumber new hnew => ?_⟩
    obtain ⟨place, hplace⟩ := List.mem_iff_getElem?.mp hnumber
    obtain ⟨scope, hscope, rfl, -⟩ := h.owned hplace
    rw [List.mem_singleton.mp hnew]
    exact h.given scope hscope
  owned := by
    intro place number hplace
    rw [pushers_enter, getElem?_concat] at hplace
    split at hplace
    · next htop =>
      refine ⟨thread.newcomer, List.mem_append_right _ (List.mem_singleton_self _), Option.some.inj hplace, ?_⟩
      rw [htop, h.length_pushers]
      rfl
    · obtain ⟨scope, hscope, hstands⟩ := h.owned hplace
      exact ⟨scope, List.mem_append_left _ hscope, hstands⟩
  replaced := by
    intro scope hscope number hplace
    rw [pushers_enter, getElem?_concat] at hplace
    obtain hscope | hnew := List.mem_append.mp hscope
    · split at hplace
      · rw [← Option.some.inj hplace]
        exact Nat.le_of_lt (h.given scope hscope)
      · exact h.replaced scope hscope hplace
    · rw [List.mem_singleton.mp hnew] at hplace ⊢
      have htop : thread.newcomer.scope.below = thread.pushers.length := h.length_pushers.symm
      rw [if_pos htop] at hplace
      exact Nat.le_of_eq (Option.some.inj hplace)

/-- Setting a key leaves the scopes where they stand. -/
theorem set (h : thread.IsSound) (target : HeldScope) (key : Option String) :
    (thread.set target key).IsSound where
  keys_eq := by
    change (thread.slots.modify _ _).map MarkedSlot.key = thread.stack.keys.set _ _
    rw [← h.keys_eq]
    apply List.ext_getElem?
    intro place
    rw [List.getElem?_map, List.getElem?_modify, List.getElem?_set, List.getElem?_map, List.length_map]
    by_cases hplace : target.scope.below = place
    · subst hplace
      by_cases hlt : target.scope.below < thread.slots.length
      · simp [hlt]
      · simp [hlt]
    · simp [hplace]
  ascending := by
    change ((thread.held.map _).map HeldScope.number).Pairwise (· < ·)
    rw [List.map_map]
    simpa [Function.comp_def] using h.ascending
  given := by
    intro scope hscope
    obtain ⟨earlier, hearlier, rfl⟩ := List.mem_map.mp hscope
    rw [HeldScope.after_number]
    exact h.given earlier hearlier
  stacked := by
    rw [pushers_set]
    exact h.stacked
  owned := by
    intro place number hplace
    rw [pushers_set] at hplace
    obtain ⟨scope, hscope, hnumber, hstands⟩ := h.owned hplace
    exact ⟨scope.after (.set target.number key), List.mem_map_of_mem hscope, by simpa using hnumber,
      by simpa using hstands⟩
  replaced := by
    intro scope hscope number hplace
    obtain ⟨earlier, hearlier, rfl⟩ := List.mem_map.mp hscope
    rw [pushers_set, HeldScope.after_scope] at hplace
    rw [HeldScope.after_number]
    exact h.replaced earlier hearlier hplace

/-- Leaving a scope takes its own slot away, if that was still there, and the slots above it. -/
theorem leave (h : thread.IsSound) (htarget : target ∈ thread.held) : (thread.leave target).IsSound where
  keys_eq := by
    change (thread.slots.take _).map MarkedSlot.key = thread.stack.keys.take _
    rw [List.map_take, h.keys_eq]
  ascending := h.ascending.sublist (List.filter_sublist.map _)
  given := fun scope hscope => h.given scope (List.mem_of_mem_filter hscope)
  stacked := by
    rw [pushers_leave]
    exact h.stacked.take
  owned := by
    intro place number hplace
    rw [pushers_leave, List.getElem?_take] at hplace
    split at hplace
    · next hlt =>
      obtain ⟨scope, hscope, hnumber, hstands⟩ := h.owned hplace
      refine ⟨scope, List.mem_filter.mpr ⟨hscope, ?_⟩, hnumber, hstands⟩
      rw [bne_iff_ne]
      intro hsame
      -- the target stands in its place and not below it
      rw [← h.eq_of_number_eq hscope htarget hsame, hstands] at hlt
      exact Nat.lt_irrefl _ hlt
    · cases hplace
  replaced := by
    intro scope hscope number hplace
    rw [pushers_leave, List.getElem?_take] at hplace
    split at hplace
    · exact h.replaced scope (List.mem_of_mem_filter hscope) hplace
    · cases hplace

/-- Every operation keeps what holds at any time. -/
theorem performs (h : thread.IsSound) (hperforms : thread.Performs call later) : later.IsSound := by
  cases hperforms with
  | enters => exact h.enter
  | sets key htarget => exact h.set _ key
  | leaves htarget => exact h.leave htarget
  | idles hnone hcall => exact h

end IsSound

/-- What holds at any time holds after every history. -/
theorem isSound_after (history : List ScopeCall) : (after history).IsSound :=
  History.after_keeps (fun thread call h => h.performs (thread.performs call)) history .initial

/-- The scopes after one more operation. -/
theorem after_concat (history : List ScopeCall) (call : ScopeCall) :
    after (history ++ [call]) = ((after history).perform call).2 := History.after_append _ _ _

/-- A scope that will be entered later has a number of its own. -/
theorem entered_after_le (history later : List ScopeCall) :
    (after history).entered ≤ (after (history ++ later)).entered := by
  have hstep : ∀ (thread : ThreadScopes) (call : ScopeCall), (after history).entered ≤ thread.entered →
      (after history).entered ≤ (thread.perform call).2.entered :=
    fun thread call hle => Nat.le_trans hle (thread.performs call).entered_le
  have hafter : after (history ++ later) = History.after perform (after history) later :=
    History.after_append _ _ _
  rw [hafter]
  exact History.after_keeps hstep later (Nat.le_refl _)

end ThreadScopes

end Interception
