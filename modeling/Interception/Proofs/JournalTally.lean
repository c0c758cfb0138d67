import Interception.Invocation.State

/-!
# What journals tell

A journal tells which advices began, which of them were granted or refused to proceed, and when the target
took the arguments. A tally is what pieces of a journal tell of this, and the tally of a whole journal is
put together from the tallies of its pieces. In every piece the refused advices are before advices, which
may not proceed, or advices that have proceeded already.
-/

namespace Interception

namespace JournalEntry

/-- The before advice that began. -/
def before? : JournalEntry → Option Nat
  | advice .before sequence => some sequence
  | _ => none

/-- The around advice that began. -/
def around? : JournalEntry → Option Nat
  | advice .around sequence => some sequence
  | _ => none

/-- The advice that proceeded. -/
def proceeded? : JournalEntry → Option Nat
  | proceeded sequence => some sequence
  | _ => none

/-- The arguments that the target took. -/
def target? : JournalEntry → Option Arguments
  | target arguments => some arguments
  | _ => none

/-- An entry that may stand at the end of a call: a phase was reached, or an advice that only sees the
call began. -/
def IsClosing : JournalEntry → Prop
  | phase _ => True
  | advice kind _ => kind.isAfterFamily = true
  | _ => False

end JournalEntry

/-- What a piece of a journal tells: the before advices that began, the around advices that began, the
advices that proceeded, and how often the target took the arguments. -/
structure Tally (befores entered proceeded : List Nat) (targets : Nat)
    (entries : List JournalEntry) : Prop where
  /-- The before advices that began, in order. -/
  befores_eq : entries.filterMap JournalEntry.before? = befores
  /-- The around advices that began, in order. -/
  entered_eq : entries.filterMap JournalEntry.around? = entered
  /-- The advices that proceeded, in order. -/
  proceeded_eq : entries.filterMap JournalEntry.proceeded? = proceeded
  /-- How often the target took the arguments. -/
  targets_eq : (entries.filterMap JournalEntry.target?).length = targets
  /-- Only before advices and advices that had proceeded were refused. -/
  refused : ∀ sequence, .refused sequence ∈ entries → sequence ∈ befores ∨ sequence ∈ proceeded
  /-- The target was not entered again. -/
  untaken : .targetTaken ∉ entries

namespace Tally

variable {befores befores' entered entered' proceeded proceeded' : List Nat} {targets targets' : Nat}
  {entries entries' : List JournalEntry}

/-- A before advice began. -/
theorem before (sequence : Nat) : Tally [sequence] [] [] 0 [.advice .before sequence] :=
  ⟨rfl, rfl, rfl, rfl, by simp, by simp⟩

/-- An around advice began. -/
theorem around (sequence : Nat) : Tally [] [sequence] [] 0 [.advice .around sequence] :=
  ⟨rfl, rfl, rfl, rfl, by simp, by simp⟩

/-- An advice proceeded. -/
theorem granted (sequence : Nat) : Tally [] [] [sequence] 0 [.proceeded sequence] :=
  ⟨rfl, rfl, rfl, rfl, by simp, by simp⟩

/-- The target took the arguments. -/
theorem target (arguments : Arguments) :
    Tally [] [] [] 1 [.phase .targetCalled, .target arguments] :=
  ⟨rfl, rfl, rfl, rfl, by simp, by simp⟩

/-- Two pieces of a journal tell together what each of them tells. -/
theorem append (h : Tally befores entered proceeded targets entries)
    (h' : Tally befores' entered' proceeded' targets' entries') :
    Tally (befores ++ befores') (entered ++ entered') (proceeded ++ proceeded') (targets + targets')
      (entries ++ entries') where
  befores_eq := by rw [List.filterMap_append, h.befores_eq, h'.befores_eq]
  entered_eq := by rw [List.filterMap_append, h.entered_eq, h'.entered_eq]
  proceeded_eq := by rw [List.filterMap_append, h.proceeded_eq, h'.proceeded_eq]
  targets_eq := by rw [List.filterMap_append, List.length_append, h.targets_eq, h'.targets_eq]
  refused := by
    intro sequence hmem
    obtain hleft | hright := List.mem_append.mp hmem
    · obtain hbefore | hproceeded := h.refused sequence hleft
      · exact .inl (List.mem_append_left _ hbefore)
      · exact .inr (List.mem_append_left _ hproceeded)
    · obtain hbefore | hproceeded := h'.refused sequence hright
      · exact .inl (List.mem_append_right _ hbefore)
      · exact .inr (List.mem_append_right _ hproceeded)
  untaken := by
    intro hmem
    obtain hleft | hright := List.mem_append.mp hmem
    · exact h.untaken hleft
    · exact h'.untaken hright

/-- Refusals of an advice that may be refused tell nothing new. -/
theorem append_refusals (h : Tally befores entered proceeded targets entries) {sequence : Nat}
    (hsequence : sequence ∈ befores ∨ sequence ∈ proceeded) (refusals : Nat) :
    Tally befores entered proceeded targets
      (entries ++ List.replicate refusals (.refused sequence)) where
  befores_eq := by
    rw [List.filterMap_append, List.filterMap_replicate_of_none rfl, List.append_nil, h.befores_eq]
  entered_eq := by
    rw [List.filterMap_append, List.filterMap_replicate_of_none rfl, List.append_nil, h.entered_eq]
  proceeded_eq := by
    rw [List.filterMap_append, List.filterMap_replicate_of_none rfl, List.append_nil,
      h.proceeded_eq]
  targets_eq := by
    rw [List.filterMap_append, List.filterMap_replicate_of_none rfl, List.append_nil, h.targets_eq]
  refused := by
    intro other hmem
    obtain hold | hnew := List.mem_append.mp hmem
    · exact h.refused other hold
    · have hsame := List.eq_of_mem_replicate hnew
      cases hsame
      exact hsequence
  untaken := by
    intro hmem
    obtain hold | hnew := List.mem_append.mp hmem
    · exact h.untaken hold
    · cases List.eq_of_mem_replicate hnew

/-- What stands at the end of a call tells nothing of this. -/
theorem closing (h : ∀ entry ∈ entries, entry.IsClosing) : Tally [] [] [] 0 entries := by
  induction entries with
  | nil => exact ⟨rfl, rfl, rfl, rfl, by simp, by simp⟩
  | cons entry rest ih =>
    have hrest := ih fun other hother => h other (List.mem_cons_of_mem _ hother)
    have hentry : Tally [] [] [] 0 [entry] := by
      have hclosing := h entry List.mem_cons_self
      cases entry with
      | phase phase => exact ⟨rfl, rfl, rfl, rfl, by simp, by simp⟩
      | advice kind sequence =>
        cases kind with
        | before => cases hclosing
        | around => cases hclosing
        | after => exact ⟨rfl, rfl, rfl, rfl, by simp, by simp⟩
        | afterReturning => exact ⟨rfl, rfl, rfl, rfl, by simp, by simp⟩
        | afterThrowing => exact ⟨rfl, rfl, rfl, rfl, by simp, by simp⟩
      | proceeded sequence => cases hclosing
      | refused sequence => cases hclosing
      | target arguments => cases hclosing
      | targetTaken => cases hclosing
    exact hentry.append hrest

end Tally

end Interception
