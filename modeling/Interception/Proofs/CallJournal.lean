import Interception.Proofs.BeforeRuns
import Interception.Proofs.NestJournal
import Interception.Proofs.OnwardRuns

/-!
# Nothing in a call runs twice

Three means together see to it that every advice and the target run at most once in a call: the cursor
only moves forward, the frame of an around advice remembers whether it proceeded, and the target can be
taken only once. What they achieve is read off the journal. It consists of what the before advices tell,
what the nest tells if all before advices succeeded, and what the advices at the end tell, which cannot
proceed.
-/

namespace Interception

/-- The journal of before advices tells how far they got: the first ones began. -/
theorem BeforeJournal.tally {befores : List (Step BeforeBody)} {entries : List JournalEntry}
    (h : BeforeJournal befores entries) :
    ∃ ran, Tally ((befores.take ran).map Step.sequence) [] [] 0 entries := by
  have hbefore : ∀ (step : Step BeforeBody) (refusals : Nat),
      Tally [step.sequence] [] [] 0 (beforeEntries step refusals) := fun step refusals =>
    (Tally.before step.sequence).append_refusals (.inl (List.mem_singleton_self _)) refusals
  induction h with
  | done => exact ⟨0, .closing (by simp)⟩
  | stopped step rest refusals => exact ⟨1, hbefore step refusals⟩
  | next step refusals hrest ih =>
    obtain ⟨ran, hran⟩ := ih
    exact ⟨ran + 1, (hbefore step refusals).append hran⟩

/-- A call at its end: since an earlier time the cursor did not move, and the journal was only continued
by entries that may stand at the end of a call. -/
def Running.Closes (earlier running : Running) : Prop :=
  running.invocation.cursor = earlier.invocation.cursor ∧
    ∃ entries, (∀ entry ∈ entries, entry.IsClosing) ∧
      running.invocation.journal.toList = earlier.invocation.journal.toList ++ entries

namespace Chain

variable {earlier : Running}

/-- One more entry that may stand at the end of a call continues the journal. -/
theorem closes_record {running : Running} (h : earlier.Closes running) (entry : JournalEntry)
    (hentry : entry.IsClosing) : earlier.Closes (running.mapInvocation (·.record entry)) := by
  obtain ⟨hcursor, entries, hentries, hjournal⟩ := h
  refine ⟨hcursor, entries ++ [entry], ?_, ?_⟩
  · intro other hother
    obtain hold | hnew := List.mem_append.mp hother
    · exact hentries other hold
    · rw [List.mem_singleton.mp hnew]
      exact hentry
  · simp [Running.mapInvocation, Invocation.record, hjournal]

/-- Reaching a phase only continues the journal. -/
theorem enterPhase_closes (phase : CallPhase) :
    Run.Keeps earlier.Closes (enterPhase phase) :=
  Run.Keeps.modify fun _ h => closes_record h (.phase phase) trivial

/-- An advice at the end of a call only continues the journal. -/
theorem observe_closes {α : Type} (dial : Dialler) {kind : AdviceKind} (sequence : Nat)
    (program : ObservingProgram α) (hkind : kind.isAfterFamily = true) :
    Run.Keeps earlier.Closes (observe dial kind sequence program) :=
  fun _ h => closes_record h (.advice kind sequence) hkind

/-- The after advices only continue the journal. -/
theorem runAfters_closes (dial : Dialler) (outcome : CallResult) (steps : List (Step AfterBody)) :
    Run.Keeps earlier.Closes (runAfters dial outcome steps) := by
  induction steps with
  | nil => exact Run.Keeps.pure outcome
  | cons step steps ih =>
    refine Run.Keeps.bind (observe_closes dial step.sequence step.body rfl) fun result => ?_
    cases result with
    | ok => exact ih
    | error error =>
      cases outcome with
      | ok value => exact Run.Keeps.pure _
      | error replaced => exact fun running h => h

/-- The advices for a returned value only continue the journal. -/
theorem runAfterReturnings_closes (dial : Dialler) (value : Value)
    (steps : List (Step AfterReturningBody)) :
    Run.Keeps earlier.Closes (runAfterReturnings dial value steps) := by
  induction steps with
  | nil => exact Run.Keeps.pure _
  | cons step steps ih =>
    refine Run.Keeps.bind (observe_closes dial step.sequence (step.body value) rfl) fun result => ?_
    cases result with
    | ok => exact ih
    | error error => exact Run.Keeps.pure _

/-- The advices for an error only continue the journal. -/
theorem runAfterThrowings_closes (dial : Dialler) (error : AopError) (swallowed : Option Value)
    (steps : List (Step AfterThrowingBody)) :
    Run.Keeps earlier.Closes (runAfterThrowings dial error swallowed steps) := by
  induction steps generalizing swallowed with
  | nil => cases swallowed <;> exact Run.Keeps.pure _
  | cons step steps ih =>
    refine Run.Keeps.bind (observe_closes dial step.sequence (step.body error) rfl) fun result => ?_
    cases result with
    | error replaced => exact Run.Keeps.pure _
    | ok disposition =>
      cases disposition with
      | rethrow => exact ih swallowed
      | swallow value =>
        cases swallowed with
        | some earlier => exact ih _
        | none => exact Run.Keeps.bind (Run.Keeps.modify fun _ h => h) fun _ => ih _

/-- The advices that depend on how the call ended only continue the journal. -/
theorem runEnding_closes (chain : Chain) (dial : Dialler) (outcome : CallResult) :
    Run.Keeps earlier.Closes (chain.runEnding dial outcome) := by
  cases outcome with
  | ok value =>
    exact Run.Keeps.bind (enterPhase_closes _) fun _ => runAfterReturnings_closes dial value _
  | error error =>
    exact Run.Keeps.bind (enterPhase_closes _) fun _ => runAfterThrowings_closes dial error _ _

/-- After the nest, a call only continues the journal. -/
theorem runPhases_closes (chain : Chain) (dial : Dialler) (running : Running) :
    (chain.runInner dial running).2.Closes (chain.runPhases dial running).2 := by
  have hrest : ∀ (earlier : Running) (outcome : CallResult), Run.Keeps earlier.Closes
      (enterPhase .unwinding >>= fun _ => runAfters dial outcome chain.afters >>= fun outcome =>
        chain.runEnding dial outcome >>= fun result => enterPhase .completed >>= fun _ =>
          pure result) := by
    intro earlier outcome
    refine Run.Keeps.bind (enterPhase_closes _) fun _ => ?_
    refine Run.Keeps.bind (runAfters_closes dial outcome _) fun outcome => ?_
    refine Run.Keeps.bind (runEnding_closes chain dial outcome) fun result => ?_
    exact Run.Keeps.bind (enterPhase_closes _) fun _ => Run.Keeps.pure result
  have hrefl : ∀ earlier : Running, earlier.Closes earlier := fun earlier =>
    ⟨rfl, [], by simp, (List.append_nil _).symm⟩
  rw [runPhases, Run.bind_apply]
  generalize chain.runInner dial running = ran
  obtain ⟨outcome, after⟩ := ran
  cases outcome with
  | returned outcome => exact hrest after outcome after (hrefl after)
  | panicked message => exact hrefl after
  | exhausted => exact hrefl after

/-- All before advices succeed. -/
def BeforesSucceed (chain : Chain) (dial : Dialler) (running : Running) : Prop :=
  (runBefores dial chain.befores running).1 = .returned (.ok ())

end Chain

end Interception
