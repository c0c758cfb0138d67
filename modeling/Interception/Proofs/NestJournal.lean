import Interception.Invocation.Nest
import Interception.Proofs.CallMoments
import Interception.Proofs.JournalTally
import Interception.Proofs.ProgramRuns

/-!
# What the journal of a nest tells

An advice of a nest that has not proceeded is the innermost one of which a frame is open: the frames around
it belong to advices that have proceeded, and what a panic leaves open inside of it hides its frame. So at
every moment of a nest the advices that have begun and those that have proceeded are initial segments of the
nest, one longer than the other unless the target was reached, and the target is reached exactly when every
advice has proceeded. It does not matter which advice proceeds on the innermost frame, nor how often.
-/

namespace Interception

namespace Running

/-- What the journal tells of a nest since an earlier time: so many advices have begun, so many have proceeded,
and so often the target took the arguments. -/
def Tells (arounds : List (Step AroundBody)) (earlier : List JournalEntry) (entered proceeded targets : Nat)
    (running : Running) : Prop :=
  ∃ entries, running.invocation.journal.toList = earlier ++ entries ∧
    Tally [] ((arounds.take entered).map Step.sequence) ((arounds.take proceeded).map Step.sequence) targets
      entries

/-- The frame belongs to one of the first advices of a nest, and the advice has proceeded. -/
def IsSpent (arounds : List (Step AroundBody)) (proceeded : Nat) (frame : Frame) : Prop :=
  frame.proceeded = true ∧ frame.sequence ∈ (arounds.take proceeded).map Step.sequence

/-- The first advices of a nest have proceeded, and the next one has begun and not proceeded. -/
structure Poised (arounds : List (Step AroundBody)) (earlier : List JournalEntry) (proceeded : Nat)
    (running : Running) : Prop where
  /-- The cursor is behind the advice. -/
  cursor : running.invocation.cursor = proceeded + 1
  /-- There is such an advice. -/
  lt : proceeded < arounds.length
  /-- The target is not taken. -/
  terminal : running.invocation.terminal ≠ none
  /-- Its frame is the innermost one, and those around it belong to advices that have proceeded. -/
  frames : ∃ frame outer, running.invocation.frames = frame :: outer ∧ frame.canProceed = true ∧
    frame.proceeded = false ∧ frame.sequence = arounds[proceeded].sequence ∧
    ∀ frame ∈ outer, IsSpent arounds proceeded frame
  /-- The journal tells of the advices, and not of the target. -/
  tells : running.Tells arounds earlier (proceeded + 1) proceeded 0

/-- The first advices of a nest have proceeded, the next one has begun as well, or the target took the arguments
if all have proceeded, and nothing more will begin. -/
structure Finished (arounds : List (Step AroundBody)) (earlier : List JournalEntry) (proceeded : Nat)
    (running : Running) : Prop where
  /-- There are so many advices. -/
  le : proceeded ≤ arounds.length
  /-- All open frames belong to advices that have proceeded. -/
  frames : ∀ frame ∈ running.invocation.frames, IsSpent arounds proceeded frame
  /-- The journal tells of the advices and of the target. -/
  tells : running.Tells arounds earlier (proceeded + 1) proceeded (if proceeded = arounds.length then 1 else 0)

/-- A nest in which at least so many advices have proceeded, and one is running. -/
def Inside (arounds : List (Step AroundBody)) (earlier : List JournalEntry) (least : Nat) (running : Running) :
    Prop :=
  ∃ proceeded, least ≤ proceeded ∧
    (running.Poised arounds earlier proceeded ∨ running.Finished arounds earlier proceeded)

variable {arounds : List (Step AroundBody)} {earlier : List JournalEntry} {least proceeded : Nat}
  {running : Running}

/-- What the journal goes on to tell is told. -/
theorem Tells.append {entered entered' proceeded' targets targets' : Nat} {later : Running}
    (h : running.Tells arounds earlier entered proceeded targets) {entries : List JournalEntry}
    (hjournal : later.invocation.journal.toList = running.invocation.journal.toList ++ entries)
    {began went : List Nat} (htally : Tally [] began went targets' entries)
    (hentered : (arounds.take entered').map Step.sequence = (arounds.take entered).map Step.sequence ++ began)
    (hproceeded : (arounds.take proceeded').map Step.sequence =
      (arounds.take proceeded).map Step.sequence ++ went) :
    later.Tells arounds earlier entered' proceeded' (targets + targets') := by
  obtain ⟨told, hrunning, htold⟩ := h
  refine ⟨told ++ entries, by rw [hjournal, hrunning, List.append_assoc], ?_⟩
  rw [hentered, hproceeded]
  exact htold.append htally

/-- The journal does not tell of a refusal of an advice that has proceeded. -/
theorem Tells.refused {entered targets : Nat} {later : Running}
    (h : running.Tells arounds earlier entered proceeded targets) {frame : Frame}
    (hframe : IsSpent arounds proceeded frame)
    (hjournal : later.invocation.journal = running.invocation.journal.push (.refused frame.sequence)) :
    later.Tells arounds earlier entered proceeded targets := by
  obtain ⟨told, hrunning, htold⟩ := h
  exact ⟨told ++ [.refused frame.sequence], by rw [hjournal, Array.toList_push, hrunning, List.append_assoc],
    htold.append_refusals (.inr hframe.2) 1⟩

/-- An advice that has proceeded is among the first ones also when the next one has. -/
theorem IsSpent.succ {frame : Frame} (h : IsSpent arounds proceeded frame) :
    IsSpent arounds (proceeded + 1) frame :=
  ⟨h.1, List.map_subset Step.sequence (List.take_subset_take_left arounds (Nat.le_succ proceeded)) h.2⟩

end Running

end Interception
