import Interception.Invocation.Nest
import Interception.Proofs.ProgramRuns

/-!
# Runs that only lead onward

Everything that happens in a call moves its cursor forward or leaves it where it is, and continues the
journal without taking anything back. What advices do is given by their programs, so it is enough that
every answer to their requests leads onward, and proceeding does because what it proceeds to does.
-/

namespace Interception

namespace Running

/-- A later state of a call: the cursor only moved forward, and the journal was only continued. -/
def Onward (earlier running : Running) : Prop :=
  earlier.invocation.cursor ≤ running.invocation.cursor ∧
    earlier.invocation.journal.toList <+: running.invocation.journal.toList

/-- Nothing needs to happen. -/
theorem Onward.refl (running : Running) : running.Onward running :=
  ⟨Nat.le_refl _, List.prefix_refl _⟩

/-- What is later than a later state is later. -/
theorem Onward.trans {first second third : Running} (h : first.Onward second)
    (h' : second.Onward third) : first.Onward third :=
  ⟨Nat.le_trans h.1 h'.1, List.IsPrefix.trans h.2 h'.2⟩

variable {earlier : Running} {next : Run Running CallResult}

end Running

end Interception
