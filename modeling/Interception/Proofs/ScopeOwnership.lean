import Interception.Proofs.ScopeHistories
import Mathlib.Data.List.Perm.Subperm

/-!
# Scopes and the slots they own

A held scope keeps its slot exactly as long as no other scope of its depth or a smaller one is left, and never
gets it back. While it owns the slot, it reads what was last set through a scope of its depth. Then it reads
nothing, or what a scope reads that was entered later and came to stand in its place.

Since every slot is owned by a held scope, none is left behind in whatever order scopes are left. Where they
are left last in, first out, every held scope owns its slot and reads its own key.
-/

namespace Interception

namespace ThreadScopes

/-- The slot in the place of a scope is the one that the scope pushed. -/
def Owns (thread : ThreadScopes) (scope : HeldScope) : Prop :=
  thread.pushers[scope.scope.below]? = some scope.number

/-- An operation leaves another scope of the same depth as a scope, or of a smaller one. -/
def Undermines (thread : ThreadScopes) (scope : HeldScope) (call : ScopeCall) : Prop :=
  ∃ other ∈ thread.held, other.number ≠ scope.number ∧ other.scope.below ≤ scope.scope.below ∧
    call = .leave other.number

/-- An operation sets the key of another scope of the same depth as a scope. -/
def Overrides (thread : ThreadScopes) (scope : HeldScope) (call : ScopeCall) : Prop :=
  ∃ other ∈ thread.held, other.number ≠ scope.number ∧ other.scope = scope.scope ∧
    ∃ key, call = .set other.number key

/-- Something holds of every operation of a history that was carried out while a scope was held. -/
def WhileHeld (number : Nat) (holds : ThreadScopes → HeldScope → ScopeCall → Prop)
    (history : List ScopeCall) : Prop :=
  ∀ before call rest, history = before ++ call :: rest → ∀ scope ∈ (after before).held,
    scope.number = number → holds (after before) scope call

/-- One more operation is one more to be looked at. -/
theorem whileHeld_concat_iff {number : Nat} {holds : ThreadScopes → HeldScope → ScopeCall → Prop}
    {history : List ScopeCall} {call : ScopeCall} :
    WhileHeld number holds (history ++ [call]) ↔ WhileHeld number holds history ∧
      ∀ scope ∈ (after history).held, scope.number = number → holds (after history) scope call := by
  constructor
  · intro h
    refine ⟨fun before earlier rest hsplit => h before earlier (rest ++ [call]) ?_, h history call [] rfl⟩
    rw [hsplit, List.append_assoc]
    rfl
  · rintro ⟨hhistory, hlast⟩ before earlier rest hsplit
    obtain rfl | ⟨middle, last, rfl⟩ := List.eq_nil_or_concat rest
    · obtain ⟨rfl, hcall⟩ := List.append_inj' hsplit rfl
      rw [← List.head_eq_of_cons_eq hcall]
      exact hlast
    · rw [List.concat_eq_append, ← List.cons_append, ← List.append_assoc] at hsplit
      exact hhistory before earlier middle (List.append_inj_left' hsplit rfl)

section

variable {thread later : ThreadScopes} {call : ScopeCall} {scope : HeldScope}

/-- A scope keeps its slot through every operation but those that leave another scope of its depth or of a
smaller one, and never gets it back. -/
theorem IsSound.owns_after_iff (h : thread.IsSound) (hperforms : thread.Performs call later)
    (hscope : scope ∈ thread.held) (hkept : call ≠ .leave scope.number) :
    later.Owns (scope.after call) ↔ thread.Owns scope ∧ ¬ thread.Undermines scope call := by
  rw [Owns, Owns, HeldScope.after_scope, HeldScope.after_number]
  cases hperforms with
  | enters =>
    have hspared : ¬ thread.Undermines scope .enter := fun ⟨_, _, _, _, hcall⟩ => ScopeCall.noConfusion hcall
    have hnew : thread.entered ≠ scope.number := (Nat.ne_of_lt (h.given scope hscope)).symm
    rw [pushers_enter, getElem?_concat]
    split
    · next htop => simp [hnew, htop]
    · simp [hspared]
  | @sets target key htarget =>
    have hspared : ¬ thread.Undermines scope (.set target.number key) :=
      fun ⟨_, _, _, _, hcall⟩ => ScopeCall.noConfusion hcall
    rw [pushers_set]
    simp [hspared]
  | @leaves target htarget =>
    have hother : target.number ≠ scope.number := fun he => hkept (congrArg _ he)
    have hundermines : thread.Undermines scope (.leave target.number) ↔
        target.scope.below ≤ scope.scope.below := by
      constructor
      · rintro ⟨other, hmem, -, hbelow, hcall⟩
        rwa [h.eq_of_number_eq htarget hmem (ScopeCall.leave.inj hcall)]
      · intro hbelow
        exact ⟨target, htarget, hother, hbelow, rfl⟩
    rw [pushers_leave, List.getElem?_take, hundermines, Nat.not_le]
    split
    · next hlt => simp [hlt]
    · next hge => simp [hge]
  | @idles number _ hnone hcall =>
    have hspared : ¬ thread.Undermines scope call := by
      rintro ⟨other, hmem, -, -, rfl⟩
      obtain hcall | ⟨key, hcall⟩ := hcall
      · exact hnone other hmem (ScopeCall.leave.inj hcall)
      · exact ScopeCall.noConfusion hcall
    simp [hspared]

/-- A scope that owns its slot goes on reading its own key through every operation that neither leaves nor sets
another scope in its place. -/
theorem IsSound.get_after (h : thread.IsSound) (hperforms : thread.Performs call later)
    (hscope : scope ∈ thread.held) (howns : thread.Owns scope) (hkept : call ≠ .leave scope.number)
    (hspared : ¬ thread.Undermines scope call) (halone : ¬ thread.Overrides scope call)
    (hget : thread.stack.get scope.scope = scope.key) :
    later.stack.get (scope.after call).scope = (scope.after call).key := by
  have hopen : scope.scope.below < thread.stack.size := by
    rw [← h.length_pushers]
    exact (List.getElem?_eq_some_iff.mp howns).1
  rw [HeldScope.after_scope]
  cases hperforms with
  | enters =>
    change thread.stack.enter.2.get scope.scope = scope.key
    rw [RoutingStack.get_enter, if_neg (Nat.ne_of_lt hopen), hget]
  | @sets target key htarget =>
    change (thread.stack.set target.scope key).get scope.scope = _
    rw [RoutingStack.get_set, HeldScope.after]
    by_cases hnumber : target.number = scope.number
    · obtain rfl := h.eq_of_number_eq htarget hscope hnumber
      simp [hopen]
    · have hplace : scope.scope ≠ target.scope :=
        fun he => halone ⟨target, htarget, hnumber, he.symm, key, rfl⟩
      simp [hplace, hnumber, hget]
  | @leaves target htarget =>
    have hother : target.number ≠ scope.number := fun he => hkept (congrArg _ he)
    have hbelow : scope.scope.below < target.scope.below := by
      by_contra hge
      exact hspared ⟨target, htarget, hother, Nat.le_of_not_lt hge, rfl⟩
    change (thread.stack.leave target.scope).get scope.scope = scope.key
    rw [RoutingStack.get_leave, if_pos hbelow, hget]
  | @idles number _ hnone hcall =>
    have hsame : scope.after call = scope := by
      obtain rfl | ⟨key, rfl⟩ := hcall
      · rfl
      · exact if_neg (hnone scope hscope).symm
    rw [hsame, hget]

/-- If two scopes own their slots, the one that was entered first stands below the other. -/
theorem IsSound.below_lt (h : thread.IsSound) {other : HeldScope} (hscope : thread.Owns scope)
    (hother : thread.Owns other) (hnumber : scope.number < other.number) :
    scope.scope.below < other.scope.below := by
  obtain ⟨hplace, hpusher⟩ := List.getElem?_eq_some_iff.mp hscope
  obtain ⟨hplace', hpusher'⟩ := List.getElem?_eq_some_iff.mp hother
  by_contra hge
  obtain hlt | heq := Nat.lt_or_eq_of_le (Nat.le_of_not_lt hge)
  · have hstacked := List.pairwise_iff_getElem.mp h.stacked _ _ hplace' hplace hlt
    omega
  · simp only [heq] at hpusher'
    omega

/-- In the place of a scope that does not own its slot there is none, or the one of a scope that was entered
later. -/
theorem IsSound.replaced_of_not_owns (h : thread.IsSound) (hscope : scope ∈ thread.held)
    (howns : ¬ thread.Owns scope) :
    (thread.stack.size ≤ scope.scope.below ∧ thread.stack.get scope.scope = none) ∨
      ∃ other ∈ thread.held, scope.number < other.number ∧ other.scope = scope.scope ∧ thread.Owns other := by
  cases hplace : thread.pushers[scope.scope.below]? with
  | none =>
    have hsize : thread.stack.size ≤ scope.scope.below :=
      h.length_pushers ▸ List.getElem?_eq_none_iff.mp hplace
    refine .inl ⟨hsize, ?_⟩
    rw [RoutingStack.get, List.getElem?_eq_none hsize]
    rfl
  | some number =>
    obtain ⟨other, hother, rfl, hstands⟩ := h.owned hplace
    have hle := h.replaced scope hscope hplace
    have hne : scope.number ≠ other.number := fun he => howns (by rw [Owns, hplace, he])
    refine .inr ⟨other, hother, Nat.lt_of_le_of_ne hle hne, hstands, ?_⟩
    rw [Owns, hstands]
    exact hplace

end

section

variable {history : List ScopeCall} {call : ScopeCall} {scope : HeldScope}
  {holds : ThreadScopes → HeldScope → ScopeCall → Prop}

/-- One more operation is one more to be looked at, if the scope is held then. -/
theorem whileHeld_concat_of_held (hscope : scope ∈ (after history).held) :
    WhileHeld scope.number holds (history ++ [call]) ↔
      WhileHeld scope.number holds history ∧ holds (after history) scope call := by
  rw [whileHeld_concat_iff]
  refine and_congr_right fun _ => ⟨fun h => h scope hscope rfl, fun h other hother hnumber => ?_⟩
  rwa [(isSound_after history).eq_of_number_eq hother hscope hnumber]

/-- No operation was carried out while a scope was held that was only just entered. -/
theorem whileHeld_newcomer (history : List ScopeCall) (call : ScopeCall) :
    WhileHeld (after history).newcomer.number holds (history ++ [call]) := by
  refine whileHeld_concat_iff.mpr ⟨?_, ?_⟩
  · rintro before earlier rest rfl scope hscope hnumber
    have hgiven := (isSound_after before).given scope hscope
    rw [hnumber] at hgiven
    exact absurd (entered_after_le before (earlier :: rest)) (Nat.not_le_of_lt hgiven)
  · intro scope hscope hnumber
    have hgiven := (isSound_after history).given scope hscope
    rw [hnumber] at hgiven
    exact absurd hgiven (Nat.lt_irrefl _)

/-- A scope owns its slot exactly if no other scope of its depth or of a smaller one was left while it was
held. -/
theorem owns_iff_whileHeld (hscope : scope ∈ (after history).held) :
    (after history).Owns scope ↔
      WhileHeld scope.number (fun thread scope call => ¬ thread.Undermines scope call) history := by
  induction history using List.reverseRecOn generalizing scope with
  | nil => exact absurd hscope List.not_mem_nil
  | append_singleton history call ih =>
    have hsound := isSound_after history
    have hperforms := (after history).performs call
    rw [after_concat] at hscope ⊢
    obtain ⟨rfl, rfl⟩ | ⟨earlier, hearlier, hkept, rfl⟩ := hperforms.mem_held_iff.mp hscope
    · refine iff_of_true ?_ (whileHeld_newcomer history _)
      change (after history).enter.pushers[(after history).stack.size]? = _
      rw [pushers_enter, ← hsound.length_pushers, List.getElem?_concat_length]
      rfl
    · rw [hsound.owns_after_iff hperforms hearlier hkept, ih hearlier, HeldScope.after_number,
        whileHeld_concat_of_held hearlier]

/-- A scope that owns its slot reads its own key, if no other scope of its depth was set while it was held. -/
theorem get_eq_key (hscope : scope ∈ (after history).held) (howns : (after history).Owns scope)
    (halone : WhileHeld scope.number (fun thread scope call => ¬ thread.Overrides scope call) history) :
    (after history).stack.get scope.scope = scope.key := by
  induction history using List.reverseRecOn generalizing scope with
  | nil => exact absurd hscope List.not_mem_nil
  | append_singleton history call ih =>
    have hsound := isSound_after history
    have hperforms := (after history).performs call
    rw [after_concat] at hscope howns ⊢
    obtain ⟨rfl, rfl⟩ | ⟨earlier, hearlier, hkept, rfl⟩ := hperforms.mem_held_iff.mp hscope
    · change (after history).stack.enter.2.get ⟨(after history).stack.size⟩ = (after history).stack.current
      rw [RoutingStack.get_enter, if_pos rfl]
    · rw [HeldScope.after_number, whileHeld_concat_of_held hearlier] at halone
      obtain ⟨howned, hspared⟩ := (hsound.owns_after_iff hperforms hearlier hkept).mp howns
      exact hsound.get_after hperforms hearlier howned hkept hspared halone.2 (ih hearlier howned halone.1)

end

/-- Scopes are left last in, first out: whenever a held scope is left, no other is held that was entered
later. -/
def LastInFirstOut (history : List ScopeCall) : Prop :=
  ∀ number, WhileHeld number (fun thread scope call => call = .leave scope.number →
    ∀ other ∈ thread.held, other.number ≤ scope.number) history

section

variable {history : List ScopeCall} {call : ScopeCall} {scope other : HeldScope}

/-- One more operation may leave the scope that was entered last, or none. -/
theorem lastInFirstOut_concat_iff :
    LastInFirstOut (history ++ [call]) ↔ LastInFirstOut history ∧ ∀ scope ∈ (after history).held,
      call = .leave scope.number → ∀ other ∈ (after history).held, other.number ≤ scope.number := by
  simp only [LastInFirstOut, whileHeld_concat_iff, forall_and]
  refine and_congr_right fun _ => ⟨fun h scope hscope => h scope.number scope hscope rfl, ?_⟩
  rintro h _ scope hscope rfl
  exact h scope hscope

/-- Nothing is left in an empty history. -/
theorem lastInFirstOut_nil : LastInFirstOut [] := fun _ _ _ _ hsplit => by simp at hsplit

/-- A part of a history in which scopes are left last in, first out, is one too. -/
theorem LastInFirstOut.of_append {rest : List ScopeCall} (h : LastInFirstOut (history ++ rest)) :
    LastInFirstOut history := by
  induction rest using List.reverseRecOn with
  | nil => rwa [List.append_nil] at h
  | append_singleton rest call ih =>
    rw [← List.append_assoc] at h
    exact ih (lastInFirstOut_concat_iff.mp h).1

/-- Where scopes are left last in, first out, every held scope owns its slot. -/
theorem LastInFirstOut.owns (h : LastInFirstOut history) (hscope : scope ∈ (after history).held) :
    (after history).Owns scope := by
  rw [owns_iff_whileHeld hscope]
  induction history using List.reverseRecOn generalizing scope with
  | nil => exact absurd hscope List.not_mem_nil
  | append_singleton history call ih =>
    obtain ⟨hbefore, hlast⟩ := lastInFirstOut_concat_iff.mp h
    have hperforms := (after history).performs call
    rw [after_concat] at hscope
    obtain ⟨rfl, rfl⟩ | ⟨earlier, hearlier, hkept, rfl⟩ := hperforms.mem_held_iff.mp hscope
    · exact whileHeld_newcomer history _
    · rw [HeldScope.after_number, whileHeld_concat_of_held hearlier]
      refine ⟨ih hbefore hearlier, ?_⟩
      -- another scope that is left was entered after all that are held, so it stands above them
      rintro ⟨target, htarget, hother, hbelow, hcall⟩
      have howns := (owns_iff_whileHeld hearlier).mpr (ih hbefore hearlier)
      have htargetOwns := (owns_iff_whileHeld htarget).mpr (ih hbefore htarget)
      have hle := hlast target htarget hcall earlier hearlier
      have habove := (isSound_after history).below_lt howns htargetOwns (Nat.lt_of_le_of_ne hle hother.symm)
      exact Nat.not_le_of_lt habove hbelow

/-- Where scopes are left last in, first out, no scope is set while another of its depth is held. -/
theorem LastInFirstOut.alone (h : LastInFirstOut history) (number : Nat) :
    WhileHeld number (fun thread scope call => ¬ thread.Overrides scope call) history := by
  rintro before call rest rfl scope hscope - ⟨other, hother, hnumber, hplace, -⟩
  have howns : (after before).Owns scope := h.of_append.owns hscope
  have hother : (after before).Owns other := h.of_append.owns hother
  rw [Owns, hplace, howns] at hother
  exact hnumber (Option.some.inj hother).symm

/-- As many slots are on the stack as scopes are held at most, and as many if every held scope owns one. -/
theorem IsSound.size_le {thread : ThreadScopes} (h : thread.IsSound) :
    thread.stack.size ≤ thread.held.length ∧
      ((∀ scope ∈ thread.held, thread.Owns scope) → thread.stack.size = thread.held.length) := by
  have hpushers : thread.pushers.Nodup := h.stacked.imp Nat.ne_of_lt
  have hnumbers : (thread.held.map HeldScope.number).Nodup := h.ascending.imp Nat.ne_of_lt
  have hheld : thread.pushers ⊆ thread.held.map HeldScope.number := by
    intro number hnumber
    obtain ⟨place, hplace⟩ := List.mem_iff_getElem?.mp hnumber
    obtain ⟨scope, hscope, rfl, -⟩ := h.owned hplace
    exact List.mem_map_of_mem hscope
  have hle := (List.subperm_of_subset hpushers hheld).length_le
  rw [h.length_pushers, List.length_map] at hle
  refine ⟨hle, fun howns => Nat.le_antisymm hle ?_⟩
  have hpushed : thread.held.map HeldScope.number ⊆ thread.pushers := by
    intro number hnumber
    obtain ⟨scope, hscope, rfl⟩ := List.mem_map.mp hnumber
    exact List.mem_of_getElem? (howns scope hscope)
  have hge := (List.subperm_of_subset hnumbers hpushed).length_le
  rwa [h.length_pushers, List.length_map] at hge

end

end ThreadScopes

/-- Scopes of a thread are entered, set and left in any order. At any time every slot of the stack was pushed by
a scope that is still held and stands in its place, and no two slots by the same one. So no more slots are on
the stack than scopes are held, and where none is held, the stack is empty and no key is current. If scopes are
left last in, first out, there are as many slots as held scopes, and each of these reads the key that was last
set through it, or the one that was current when it was entered if none was. -/
theorem ThreadScopes.no_slot_left_behind (history : List ScopeCall) :
    (after history).slots.map MarkedSlot.key = (after history).stack.keys ∧
      (∀ place slot, (after history).slots[place]? = some slot →
        ∃ scope ∈ (after history).held, scope.number = slot.pusher ∧ scope.scope = ⟨place⟩) ∧
      ((after history).slots.map MarkedSlot.pusher).Nodup ∧
      (after history).stack.size ≤ (after history).held.length ∧
      ((after history).held = [] → (after history).stack = .empty ∧ (after history).stack.current = none) ∧
      (LastInFirstOut history → (after history).stack.size = (after history).held.length ∧
        ∀ scope ∈ (after history).held, (after history).stack.get scope.scope = scope.key) := by
  have hsound := isSound_after history
  refine ⟨hsound.keys_eq, fun place slot hplace => ?_, hsound.stacked.imp Nat.ne_of_lt, hsound.size_le.1,
    fun hnone => ?_, fun hlast => ⟨?_, fun scope hscope => ?_⟩⟩
  · refine hsound.owned ?_
    rw [pushers, List.getElem?_map, hplace]
    rfl
  · have hle := hsound.size_le.1
    rw [hnone] at hle
    have hempty : (after history).stack = .empty :=
      congrArg RoutingStack.mk (List.eq_nil_of_length_eq_zero (Nat.le_zero.mp hle))
    exact ⟨hempty, hempty ▸ rfl⟩
  · exact hsound.size_le.2 fun scope hscope => hlast.owns hscope
  · exact get_eq_key hscope (hlast.owns hscope) (hlast.alone scope.number)

/-- The scope of a call is left before that of the call around it, which reads its own key again. -/
theorem ThreadScopes.no_slot_left_behind_nested :
    let history : List ScopeCall :=
      [.enter, .set 0 (some "db-a"), .enter, .set 1 (some "db-b"), .leave 1]
    LastInFirstOut history ∧ (after history).stack.size = 1 ∧
      ∃ scope ∈ (after history).held, scope.key = some "db-a" ∧
        (after history).stack.get scope.scope = scope.key := by
  intro history
  have hlast : LastInFirstOut history := by
    have hsteps : history = [] ++ [.enter] ++ [.set 0 (some "db-a")] ++ [.enter] ++
      [.set 1 (some "db-b")] ++ [.leave 1] := rfl
    rw [hsteps]
    simp only [lastInFirstOut_concat_iff]
    refine ⟨⟨⟨⟨⟨lastInFirstOut_nil, ?_⟩, ?_⟩, ?_⟩, ?_⟩, ?_⟩
    all_goals decide
  obtain ⟨-, -, -, -, -, hnested⟩ := no_slot_left_behind history
  obtain ⟨hsize, hget⟩ := hnested hlast
  have hheld : (after history).held = [⟨0, ⟨0⟩, some "db-a"⟩] := rfl
  rw [hheld] at hsize hget ⊢
  exact ⟨hlast, hsize, _, List.mem_singleton_self _, rfl, hget _ (List.mem_singleton_self _)⟩

/-- Scopes of a thread are entered, set and left in any order. A held scope owns the slot in its place exactly if
no other scope of its depth or of a smaller one was left while it was held. If it does, and no other scope of
its depth was set meanwhile, it reads the key that was last set through it, or the one that was current when it
was entered if none was. If it does not, no slot is there and it reads nothing, or the slot is owned by a scope
that was entered later. Whatever is set through a scope is then read through all scopes of its depth and no
others, if a slot is there; when a scope is left, all others of its depth or of a greater one read nothing, and
the rest what they read before. -/
theorem ThreadScopes.reads_own_key_while_undisturbed {history : List ScopeCall} {scope : HeldScope}
    (hscope : scope ∈ (after history).held) :
    ((after history).Owns scope ↔
        WhileHeld scope.number (fun thread scope call => ¬ thread.Undermines scope call) history) ∧
      ((after history).Owns scope →
        WhileHeld scope.number (fun thread scope call => ¬ thread.Overrides scope call) history →
        (after history).stack.get scope.scope = scope.key) ∧
      (¬ (after history).Owns scope →
        ((after history).stack.size ≤ scope.scope.below ∧ (after history).stack.get scope.scope = none) ∨
        ∃ other ∈ (after history).held, scope.number < other.number ∧ other.scope = scope.scope ∧
          (after history).Owns other) ∧
      ∀ target ∈ (after history).held,
        (∀ key, (after (history ++ [.set target.number key])).stack.get scope.scope =
          if scope.scope = target.scope ∧ target.scope.below < (after history).stack.size then key
          else (after history).stack.get scope.scope) ∧
        (after (history ++ [.leave target.number])).stack.get scope.scope =
          if scope.scope.below < target.scope.below then (after history).stack.get scope.scope else none := by
  have hsound := isSound_after history
  refine ⟨owns_iff_whileHeld hscope, get_eq_key hscope, hsound.replaced_of_not_owns hscope,
    fun target htarget => ⟨fun key => ?_, ?_⟩⟩
  · rw [after_concat, hsound.perform_set htarget]
    exact RoutingStack.get_set ..
  · rw [after_concat, hsound.perform_leave htarget]
    exact RoutingStack.get_leave ..

/-- The scope in the middle is left before the one above it. The outermost scope goes on reading its own key. -/
theorem ThreadScopes.reads_own_key_while_undisturbed_outermost :
    let history : List ScopeCall := [.enter, .enter, .set 0 (some "x"), .enter, .leave 1]
    ∃ scope ∈ (after history).held, scope.number = 0 ∧ scope.key = some "x" ∧ (after history).Owns scope ∧
      WhileHeld 0 (fun thread scope call => ¬ thread.Undermines scope call) history ∧
      (after history).stack.get scope.scope = some "x" := by
  intro history
  have hscope : (⟨0, ⟨0⟩, some "x"⟩ : HeldScope) ∈ (after history).held := List.mem_cons_self
  have howns : (after history).Owns ⟨0, ⟨0⟩, some "x"⟩ := rfl
  have halone : WhileHeld 0 (fun thread scope call => ¬ thread.Overrides scope call) history := by
    rintro before call rest hsplit scope - hnumber ⟨other, -, hother, -, key, rfl⟩
    have hmem : ScopeCall.set other.number key ∈ history :=
      hsplit ▸ List.mem_append_right _ List.mem_cons_self
    have hzero : other.number = 0 ∧ key = some "x" := by simpa [history] using hmem
    exact hother (hzero.1.trans hnumber.symm)
  obtain ⟨hiff, hget, -⟩ := reads_own_key_while_undisturbed hscope
  exact ⟨_, hscope, rfl, rfl, howns, hiff.mp howns, hget howns halone⟩

/-- A scope that is held does not always read its own key. Where a scope is replaced by a new one, which is entered
before the old one is left, the new one has lost the key that it inherited; and once another scope stands in
its place, it reads what is set through that one. -/
theorem ThreadScopes.own_key_lost_and_borrowed :
    let replaced : List ScopeCall := [.enter, .set 0 (some "1"), .enter, .leave 0]
    let shared : List ScopeCall := replaced ++ [.enter, .enter, .set 3 (some "x")]
    (∃ scope ∈ (after replaced).held, scope.number = 1 ∧ scope.key = some "1" ∧
        (after replaced).stack.get scope.scope = none) ∧
      (∃ scope ∈ (after shared).held, scope.number = 1 ∧ scope.key = some "1" ∧
        (after shared).stack.get scope.scope = some "x") ∧
      ¬ ∀ history, ∀ scope ∈ (after history).held,
        (after history).stack.get scope.scope = scope.key := by
  intro replaced shared
  have hlost : (⟨1, ⟨1⟩, some "1"⟩ : HeldScope) ∈ (after replaced).held := List.mem_cons_self
  have hborrowed : (⟨1, ⟨1⟩, some "1"⟩ : HeldScope) ∈ (after shared).held := List.mem_cons_self
  refine ⟨⟨_, hlost, rfl, rfl, rfl⟩, ⟨_, hborrowed, rfl, rfl, rfl⟩, fun hown => ?_⟩
  have hget : (none : Option String) = some "1" := hown replaced _ hlost
  cases hget

end Interception
