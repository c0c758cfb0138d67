import Interception.Proofs.ProxyHistories

/-!
# Identifiers of methods

An identifier carries the number of the proxy that gave it out. Numbers are taken from one counter, which is
counted up whenever a proxy is to be made and its type name is not blank, and before anything of it can fail.
So as long as fewer than 2^64 proxies were to be made, later proxies have greater numbers, whichever manager or
factory they come from, and no two have the same. A proxy looks at the number first. It therefore refuses the
identifiers of all others, and it takes its own to the entry of the method that was looked up, whatever has
happened since.
-/

namespace Interception

namespace Proxy

/-- A proxy knows nothing of an identifier, and a call with it fails at once: the surroundings are left as they
are, whatever the terminal would do. -/
structure Refuses (proxy : Proxy) (id : MethodId) : Prop where
  /-- It knows no signature. -/
  signature : proxy.signature? id = none
  /-- It knows no chain. -/
  chain : proxy.chain? id = none
  /-- It reports no advices. -/
  adviceCount : proxy.adviceCount id = 0
  /-- A call is a misconfiguration. -/
  invoke : ∀ dial arguments result terminal world,
    proxy.invoke dial id arguments result terminal world =
      (.returned (.error (.configuration (.foreignMethod id.index proxy.targetType))), world)
  /-- A call that gives service errors gives this one as such. -/
  call : ∀ dial arguments result terminal world,
    proxy.call dial id arguments result terminal world =
      (.returned (.error
        (AopError.configuration (.foreignMethod id.index proxy.targetType)).toServiceError), world)

/-- An identifier is known and called as an entry of the table. -/
structure Dispatches (proxy : Proxy) (id : MethodId) (entry : DispatchEntry) : Prop where
  /-- The signature is that of the entry. -/
  signature : proxy.signature? id = some entry.signature
  /-- The chain is that of the entry. -/
  chain : proxy.chain? id = some entry.chain
  /-- A call goes through the chain of the entry. -/
  invoke : ∀ dial arguments result terminal, proxy.invoke dial id arguments result terminal =
    entry.chain.execute dial entry.signature arguments terminal >>= fun outcome =>
      pure (expect result outcome)

variable {proxy : Proxy} {id : MethodId} {entry : DispatchEntry}

/-- A proxy refuses identifiers that do not carry its number. -/
theorem refuses_of_ne (h : id.proxy ≠ proxy.id) : proxy.Refuses id := by
  have hentry : proxy.entry? id = none := if_neg h
  have hinvoke : ∀ dial arguments result terminal world,
      proxy.invoke dial id arguments result terminal world =
        (.returned (.error (.configuration (.foreignMethod id.index proxy.targetType))), world) := by
    intro dial arguments result terminal world
    rw [invoke, hentry]
    rfl
  have hchain : proxy.chain? id = none := by rw [chain?, hentry]; rfl
  refine ⟨by rw [signature?, hentry]; rfl, hchain, by rw [adviceCount, hchain]; rfl, hinvoke, ?_⟩
  intro dial arguments result terminal world
  rw [call, Run.bind_apply, hinvoke]
  rfl

/-- A proxy dispatches identifiers that it knows. -/
theorem dispatches_of_entry? (h : proxy.entry? id = some entry) : proxy.Dispatches id entry := by
  refine ⟨by rw [signature?, h]; rfl, by rw [chain?, h]; rfl, fun dial arguments result terminal => ?_⟩
  rw [invoke, h]

/-- The methods of a proxy are listed in its table. -/
def IsListed (proxy : Proxy) : Prop :=
  MethodTable.Lists ⟨proxy.methods, proxy.index⟩ proxy.targetType (declaredMethods proxy.interfaces)

/-- What is looked up is an identifier of the proxy for the entry of the declared method. -/
theorem IsListed.exists_entry (h : proxy.IsListed) {interface name : String}
    (hid : proxy.method interface name = .ok id) :
    id.proxy = proxy.id ∧ ∃ entry method, proxy.entry? id = some entry ∧
      (interface, method) ∈ declaredMethods proxy.interfaces ∧ method.name = name ∧
      entry.signature = ⟨proxy.targetType, interface, method⟩ := by
  unfold method at hid
  split at hid
  · next place hlookup =>
    cases hid
    obtain ⟨entry, method, hentry, hdeclared, hname, hsignature⟩ := MethodTable.Lists.exists_entry h hlookup
    exact ⟨rfl, entry, method, (if_pos rfl).trans hentry, hdeclared, hname, hsignature⟩
  · cases hid

end Proxy

/-- A proxy that a factory made lists its methods. -/
theorem ProxyFactory.Made.isListed {factory : ProxyFactory} {id : Nat} {targetType : String}
    {interfaces : List InterfaceDescriptor} {proxy : Proxy}
    (h : factory.Made id targetType interfaces proxy) : proxy.IsListed := by
  have htable := h.table
  rwa [← h.targetType_eq, ← h.interfaces_eq] at htable

namespace Workshop

variable {workshop : Workshop} {attempts : Nat}

/-- The numbers of the proxies in the order in which they were made. -/
def numbers (workshop : Workshop) : List Nat := workshop.made.map (·.proxy.id)

/-- After a number of attempts to make proxies, the counter stands behind at most as many numbers. They were
given out in ascending order. -/
structure Numbered (workshop : Workshop) (attempts : Nat) : Prop where
  /-- The counter stands behind the numbers that are used up. -/
  counter : ∃ used, used ≤ attempts ∧ workshop.number = UInt64.ofNat (1 + used) ∧
    ∀ number ∈ workshop.numbers, number < 1 + used
  /-- Later proxies have greater numbers. -/
  ascending : workshop.numbers.Pairwise (· < ·)

/-- Nothing is numbered at first. -/
theorem numbered_initial (world : World) : (initial world).Numbered 0 :=
  ⟨⟨0, Nat.le_refl 0, rfl, fun _ h => absurd h List.not_mem_nil⟩, .nil⟩

/-- A workshop with the same numbers and the same counter is numbered alike. -/
theorem Numbered.of_eq (h : workshop.Numbered attempts) {later : Workshop} {more : Nat}
    (hnumber : later.number = workshop.number) (hnumbers : later.numbers = workshop.numbers)
    (hmore : attempts ≤ more) : later.Numbered more := by
  obtain ⟨⟨used, hused, hcounter, hbelow⟩, hascending⟩ := h
  exact ⟨⟨used, Nat.le_trans hused hmore, hnumber.trans hcounter, hnumbers ▸ hbelow⟩, hnumbers ▸ hascending⟩

/-- The counter is counted up for another proxy, whether or not that can be made. -/
theorem Numbered.count (h : workshop.Numbered attempts) (hfew : attempts + 1 < UInt64.size) {later : Workshop}
    (hnumber : later.number = workshop.number + 1)
    (hnumbers : later.numbers = workshop.numbers ∨
      later.numbers = workshop.numbers ++ [workshop.number.toNat]) : later.Numbered (attempts + 1) := by
  obtain ⟨⟨used, hused, hcounter, hbelow⟩, hascending⟩ := h
  have hnext : later.number = UInt64.ofNat (1 + (used + 1)) := by
    rw [hnumber, hcounter]
    exact (UInt64.ofNat_add (1 + used) 1).symm
  -- The number is the one behind those used up, since the counter has not come round.
  have htoNat : workshop.number.toNat = 1 + used := by
    rw [hcounter]
    exact UInt64.toNat_ofNat_of_lt' (Nat.lt_of_le_of_lt (by omega) hfew)
  have hlater : ∀ number ∈ workshop.numbers, number < 1 + (used + 1) := fun number hmem =>
    Nat.lt_trans (hbelow number hmem) (Nat.lt_succ_self _)
  obtain hsame | hadded := hnumbers
  · exact ⟨⟨used + 1, Nat.succ_le_succ hused, hnext, hsame ▸ hlater⟩, hsame ▸ hascending⟩
  · rw [htoNat] at hadded
    refine ⟨⟨used + 1, Nat.succ_le_succ hused, hnext, ?_⟩, ?_⟩
    · rw [hadded]
      exact List.forall_mem_append.mpr ⟨hlater, List.forall_mem_singleton.mpr (Nat.lt_succ_self _)⟩
    · rw [hadded]
      refine List.pairwise_append.mpr
        ⟨hascending, List.pairwise_singleton _ _, fun number hmem next hnext => ?_⟩
      rw [List.mem_singleton.mp hnext]
      exact hbelow number hmem

/-- An operation that is to make a proxy may use up a number, and no other operation does. -/
theorem Numbered.conduct (h : workshop.Numbered attempts) (horderly : workshop.IsOrderly) (call : WorkshopCall)
    (hfew : attempts + (if call.creates then 1 else 0) < UInt64.size) :
    (workshop.conduct call).2.Numbered (attempts + if call.creates then 1 else 0) := by
  have hconducts := horderly.conducts call
  generalize workshop.conduct call = ran at hconducts
  have hle : attempts ≤ attempts + if call.creates then 1 else 0 := Nat.le_add_right _ _
  cases hconducts with
  | absent _ _ => exact h.of_eq rfl rfl hle
  | opens _ _ => exact h.of_eq rfl rfl hle
  | manages _ _ _ _ => exact h.of_eq rfl rfl hle
  | @fails _ targetType _ _ _ _ _ _ _ =>
    cases hblank : Text.isBlankText targetType with
    | true => exact h.of_eq (if_pos hblank) rfl hle
    | false => exact h.count hfew (if_neg (Bool.eq_false_iff.mp hblank)) (.inl rfl)
  | creates _ _ _ _ hmade =>
    refine h.count hfew rfl (.inr ?_)
    rw [numbers, List.map_append, ← hmade.id_eq]
    rfl
  | calls _ _ => exact h.of_eq rfl rfl hle
  | @accesses place _ _ owner outcome _ _ howner haccesses =>
    refine h.of_eq rfl ?_ hle
    obtain ⟨capabilities, hsettle⟩ := haccesses.settle_eq
    have hnumber : workshop.numbers[place]? = some owner.proxy.id := by
      rw [numbers, List.getElem?_map, howner]
      rfl
    obtain ⟨hlt, hsame⟩ := List.getElem?_eq_some_iff.mp hnumber
    rw [numbers, List.map_set, hsettle, ← hsame]
    exact List.set_getElem_self hlt

/-- Proxies are numbered in ascending order as long as fewer than 2^64 were to be made. -/
theorem Numbered.after (h : workshop.Numbered attempts) (horderly : workshop.IsOrderly)
    (history : List WorkshopCall) (hfew : attempts + history.countP WorkshopCall.creates < UInt64.size) :
    (History.after Workshop.conduct workshop history).Numbered
      (attempts + history.countP WorkshopCall.creates) := by
  induction history generalizing workshop attempts with
  | nil => exact h
  | cons call history ih =>
    have hcount : attempts + (call :: history).countP WorkshopCall.creates =
        attempts + (if call.creates then 1 else 0) + history.countP WorkshopCall.creates := by
      rw [List.countP_cons, Nat.add_comm (history.countP _), Nat.add_assoc]
    rw [hcount] at hfew ⊢
    have hstep := h.conduct horderly call (Nat.lt_of_le_of_lt (Nat.le_add_right _ _) hfew)
    exact ih hstep (horderly.conduct call) hfew

/-- In a history in which fewer than 2^64 proxies were to be made, no two proxies have the same number. -/
theorem number_ne_after {world : World} {history : List WorkshopCall}
    (hfew : history.countP WorkshopCall.creates < UInt64.size) {place other : Nat} {owner stranger : MadeProxy}
    (howner : (Workshop.after world history).made[place]? = some owner)
    (hstranger : (Workshop.after world history).made[other]? = some stranger) (hne : other ≠ place) :
    owner.proxy.id ≠ stranger.proxy.id := by
  have hnumbered := (numbered_initial world).after (isOrderly_after world []) history (by rwa [Nat.zero_add])
  have hascending : (Workshop.after world history).numbers.Pairwise (· < ·) := hnumbered.ascending
  have hordered : ∀ {i j : Nat} {a b : MadeProxy}, (Workshop.after world history).made[i]? = some a →
      (Workshop.after world history).made[j]? = some b → i < j → a.proxy.id < b.proxy.id := by
    intro i j a b ha hb hij
    obtain ⟨hi, rfl⟩ := List.getElem?_eq_some_iff.mp ha
    obtain ⟨hj, rfl⟩ := List.getElem?_eq_some_iff.mp hb
    exact List.pairwise_iff_getElem.mp (List.pairwise_map.mp hascending) i j hi hj hij
  obtain hlt | hlt := Nat.lt_or_gt_of_ne hne
  · exact Nat.ne_of_gt (hordered hstranger howner hlt)
  · exact Nat.ne_of_lt (hordered howner hstranger hlt)

/-- The methods of all proxies are listed. -/
def IsListed (workshop : Workshop) : Prop := ∀ owner ∈ workshop.made, owner.proxy.IsListed

/-- Every operation leaves the methods of all proxies listed. -/
theorem IsListed.conduct (h : workshop.IsListed) (horderly : workshop.IsOrderly) (call : WorkshopCall) :
    (workshop.conduct call).2.IsListed := by
  have hconducts := horderly.conducts call
  generalize workshop.conduct call = ran at hconducts
  cases hconducts with
  | absent _ _ => exact h
  | opens _ _ => exact h
  | manages _ _ _ _ => exact h
  | fails _ _ _ _ => exact h
  | creates _ _ _ _ hmade => exact List.forall_mem_append.mpr ⟨h, List.forall_mem_singleton.mpr hmade.isListed⟩
  | calls _ _ => exact h
  | @accesses _ _ _ owner _ _ _ howner haccesses =>
    obtain ⟨capabilities, hsettle⟩ := haccesses.settle_eq
    intro found hfound
    obtain hfound | rfl := List.mem_or_eq_of_mem_set hfound
    · exact h found hfound
    · rw [hsettle]
      exact h owner (List.mem_of_getElem? howner)

/-- The methods of all proxies are always listed. -/
theorem isListed_after (world : World) (history : List WorkshopCall) :
    (Workshop.after world history).IsListed :=
  after_keeps (fun _ h => absurd h List.not_mem_nil) (fun _ call horderly h => h.conduct horderly call) history

end Workshop

/-- Proxies are made by managers and factories in any order, successfully or not, and their methods are called,
where fewer than 2^64 proxies were to be made in all. Let an identifier be looked up at some time, under the
name of a method of an interface. Whatever is done afterwards, the proxy that gave it out goes on giving it out
for that method and dispatches it to the same entry of its table, the one for the method that was declared under
the name. Every other proxy, whether it was made before or after, knows no signature, no chain and no advices
for the identifier and refuses a call with it, leaving the surroundings as they are. -/
theorem Workshop.identifiers_keep_to_their_proxies {world : World} {history later : List WorkshopCall}
    (hfew : (history ++ later).countP WorkshopCall.creates < UInt64.size) {place : Nat} {owner : MadeProxy}
    (howner : (after world history).made[place]? = some owner) {interface name : String} {id : MethodId}
    (hid : owner.proxy.method interface name = .ok id) :
    (∃ keeper entry method, (after world (history ++ later)).made[place]? = some keeper ∧
      keeper.proxy.method interface name = .ok id ∧ owner.proxy.Dispatches id entry ∧
      keeper.proxy.Dispatches id entry ∧ (interface, method) ∈ declaredMethods owner.proxy.interfaces ∧
      method.name = name ∧ entry.signature = ⟨owner.proxy.targetType, interface, method⟩) ∧
    ∀ other stranger, other ≠ place → (after world (history ++ later)).made[other]? = some stranger →
      stranger.proxy.Refuses id := by
  have hlisted := isListed_after world history owner (List.mem_of_getElem? howner)
  obtain ⟨hnumber, entry, method, hentry, hdeclared, hname, hsignature⟩ := hlisted.exists_entry hid
  obtain ⟨capabilities, hkeeper⟩ := (leads_after world history later).made howner
  refine ⟨⟨_, entry, method, hkeeper, hid, Proxy.dispatches_of_entry? hentry, Proxy.dispatches_of_entry? hentry,
    hdeclared, hname, hsignature⟩, fun other stranger hne hstranger => ?_⟩
  have hdiffer := number_ne_after hfew hkeeper hstranger hne
  exact Proxy.refuses_of_ne (hnumber ▸ hdiffer)

/-- Two proxies have the same type, interface and methods, one from a manager and one from a factory that was
put together by hand. A proxy between them cannot be made, which uses up a number. The second proxy refuses the
identifier of the first one, although it has one with the same index. -/
theorem Workshop.identifiers_keep_to_their_proxies_twins :
    let interface : InterfaceDescriptor := ⟨"Svc", [⟨"get", [], "u64"⟩]⟩
    let history : List WorkshopCall := [.openManager, .createProxy 0 "a.Svc" [interface]]
    let later : List WorkshopCall := [.createProxy 0 "a.Svc" [interface, interface], .assemble .empty [],
      .createProxy 1 "a.Svc" [interface]]
    ∃ keeper stranger, (after .initial (history ++ later)).made = [keeper, stranger] ∧
      keeper.proxy.method "Svc" "get" = .ok ⟨1, 0⟩ ∧ stranger.proxy.method "Svc" "get" = .ok ⟨3, 0⟩ ∧
      (∃ entry, keeper.proxy.Dispatches ⟨1, 0⟩ entry ∧
        entry.signature = ⟨"a.Svc", "Svc", ⟨"get", [], "u64"⟩⟩) ∧
      stranger.proxy.Refuses ⟨1, 0⟩ := by
  intro interface history later
  have hfew : (history ++ later).countP WorkshopCall.creates < UInt64.size := by decide
  have howner : ∃ owner, (after .initial history).made[0]? = some owner ∧
      owner.proxy.targetType = "a.Svc" ∧ owner.proxy.interfaces = [interface] ∧
      owner.proxy.method "Svc" "get" = .ok ⟨1, 0⟩ := ⟨_, rfl, rfl, rfl, rfl⟩
  obtain ⟨owner, howner, htype, hinterfaces, hid⟩ := howner
  obtain ⟨⟨keeper, entry, method, hkeeper, hsame, -, hdispatches, hdeclared, -, hsignature⟩, hstrangers⟩ :=
    identifiers_keep_to_their_proxies hfew howner hid
  have hstranger : ∃ stranger, (after .initial (history ++ later)).made[1]? = some stranger ∧
      stranger.proxy.method "Svc" "get" = .ok ⟨3, 0⟩ := ⟨_, rfl, rfl⟩
  obtain ⟨stranger, hstranger, hother⟩ := hstranger
  have hmade : (after .initial (history ++ later)).made = [keeper, stranger] := by
    have hlength : (after .initial (history ++ later)).made.length = 2 := rfl
    obtain ⟨first, second, hpair⟩ := List.length_eq_two.mp hlength
    rw [hpair] at hkeeper hstranger ⊢
    rw [Option.some.inj hkeeper, Option.some.inj hstranger]
  refine ⟨keeper, stranger, hmade, hsame, hother, ⟨entry, hdispatches, ?_⟩,
    hstrangers 1 stranger (by decide) hstranger⟩
  rw [hinterfaces] at hdeclared
  obtain ⟨-, rfl⟩ := Prod.mk.inj (List.mem_singleton.mp hdeclared)
  rw [hsignature, htype]

end Interception
