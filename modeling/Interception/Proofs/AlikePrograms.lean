import Interception.Proofs.ProgramRuns
import Mathlib.Data.List.Forall2

/-!
# Programs that behave alike

Two programs behave alike if they make the same requests and go on alike with the answers, except that what
they write to the log may differ, and that descriptions of one call with different cursors count as the same
answer. A program that behaves like itself in this sense does not depend on the cursor of a call.

Programs that behave alike run alike in surroundings that are alike. These may differ in log records and
meters, and in the random numbers still to be drawn. Some numbers of one run may be drawn by code that is not
there in the other, so that a run is compared with one to which the right numbers are given: for every run and
the state in which it begins there are numbers with which the other one, begun in any state that is like the
first, does the same and leaves as many numbers over as it was given in addition.
-/

namespace Interception

variable {σ τ α β : Type}

/-- Two runs ended in the same way, with values that belong together if they returned, and in states that
belong together. -/
inductive Echo (alike : σ → τ → Prop) (echoes : α → β → Prop) : Outcome α × σ → Outcome β × τ → Prop where
  /-- Both runs returned. -/
  | returned {value : α} {value' : β} {s : σ} {t : τ} : echoes value value' → alike s t →
    Echo alike echoes (.returned value, s) (.returned value', t)
  /-- Both runs panicked. -/
  | panicked {message : String} {s : σ} {t : τ} : alike s t →
    Echo alike echoes (.panicked message, s) (.panicked message, t)
  /-- Both runs were given up. -/
  | exhausted {s : σ} {t : τ} : alike s t → Echo alike echoes (.exhausted, s) (.exhausted, t)

namespace Echo

variable {alike : σ → τ → Prop}

/-- Runs that ended with the same value ended in the same way. -/
theorem outcome_eq {x : Outcome α × σ} {y : Outcome α × τ} (h : Echo alike Eq x y) : x.1 = y.1 := by
  cases h with
  | returned hvalue _ => rw [hvalue]
  | panicked _ => rfl
  | exhausted _ => rfl

/-- The states in which two runs ended belong together. -/
theorem state {echoes : α → β → Prop} {x : Outcome α × σ} {y : Outcome β × τ}
    (h : Echo alike echoes x y) : alike x.2 y.2 := by
  cases h with
  | returned _ hstate => exact hstate
  | panicked hstate => exact hstate
  | exhausted hstate => exact hstate

/-- Runs that ended in the same way, in states that belong together. -/
theorem of_eq {x : Outcome α × σ} {y : Outcome α × τ} (houtcome : x.1 = y.1) (hstate : alike x.2 y.2) :
    Echo alike Eq x y := by
  obtain ⟨outcome, s⟩ := x
  obtain ⟨_, t⟩ := y
  cases houtcome
  cases outcome with
  | returned value => exact .returned rfl hstate
  | panicked message => exact .panicked hstate
  | exhausted => exact .exhausted hstate

/-- The states may be mapped along with a relation of their images. -/
theorem map {υ ω : Type} {echoes : α → β → Prop} {x : Outcome α × σ} {y : Outcome β × τ}
    (h : Echo alike echoes x y) (alike' : υ → ω → Prop) (f : σ → υ) (g : τ → ω)
    (hmap : ∀ s t, alike s t → alike' (f s) (g t)) : Echo alike' echoes (x.1, f x.2) (y.1, g y.2) := by
  cases h with
  | returned hvalue hstate => exact .returned hvalue (hmap _ _ hstate)
  | panicked hstate => exact .panicked (hmap _ _ hstate)
  | exhausted hstate => exact .exhausted (hmap _ _ hstate)

/-- Runs that end in the same way are followed by runs that do if they returned. What was to be drawn after the
first one and is not is given back. -/
theorem bind {γ δ : Type} {alike' : σ → τ → Prop} {echoes : α → β → Prop} {echoes' : γ → δ → Prop}
    {first : Run σ α} {second : Run τ β} {next : α → Run σ γ} {next' : β → Run τ δ} {s : σ} {t : τ}
    (h : Echo alike echoes (first s) (second t))
    (hnext : ∀ value s' value' t', first s = (.returned value, s') → echoes value value' → alike s' t' →
      Echo alike' echoes' (next value s') (next' value' t'))
    (hended : ∀ s' t', (∀ value, (first s).1 ≠ .returned value) → alike s' t' → alike' s' t') :
    Echo alike' echoes' ((first >>= next) s) ((second >>= next') t) := by
  rw [Run.bind_apply, Run.bind_apply]
  generalize first s = ran at h hnext hended
  generalize second t = ran' at h
  cases h with
  | returned hvalue hstate => exact hnext _ _ _ _ rfl hvalue hstate
  | panicked hstate => exact .panicked (hended _ _ nofun hstate)
  | exhausted hstate => exact .exhausted (hended _ _ nofun hstate)

end Echo

/-- Attempts that ended in the same way, with answers that belong together. -/
inductive EndedAlike (echoes : α → β → Prop) : Except String α → Except String β → Prop where
  /-- Both got an answer. -/
  | ok {value : α} {value' : β} : echoes value value' → EndedAlike echoes (.ok value) (.ok value')
  /-- Both broke off. -/
  | error (message : String) : EndedAlike echoes (.error message) (.error message)

/-- Attempts that ended with the same answer ended equally. -/
theorem EndedAlike.eq {reply reply' : Except String α} (h : EndedAlike Eq reply reply') : reply = reply' := by
  cases h with
  | ok hvalue => rw [hvalue]
  | error => rfl

/-- Runs that end in the same way do so if they return after a panic as well. -/
theorem Echo.attempt {alike : σ → τ → Prop} {echoes : α → β → Prop} {first : Run σ α} {second : Run τ β}
    {s : σ} {t : τ} (h : Echo alike echoes (first s) (second t)) :
    Echo alike (EndedAlike echoes) (first.attempt s) (second.attempt t) := by
  rw [Run.attempt_apply, Run.attempt_apply]
  generalize first s = ran at h
  generalize second t = ran' at h
  cases h with
  | returned hvalue hstate => exact .returned (.ok hvalue) hstate
  | panicked hstate => exact .returned (.error _) hstate
  | exhausted hstate => exact .exhausted hstate

/-- Runs that end with the same value do so if they return after a panic as well. -/
theorem Echo.attempt_eq {alike : σ → τ → Prop} {first : Run σ α} {second : Run τ α} {s : σ} {t : τ}
    (h : Echo alike Eq (first s) (second t)) : Echo alike Eq (first.attempt s) (second.attempt t) := by
  have hended := h.attempt
  generalize first.attempt s = ran at hended
  generalize second.attempt t = ran' at hended
  cases hended with
  | returned hreply hstate => exact .returned hreply.eq hstate
  | panicked hstate => exact .panicked hstate
  | exhausted hstate => exact .exhausted hstate

/-- The second run does what the first does from a state on, with the random numbers that suit it. States are
compared together with the numbers still to be drawn in the second, before and after. -/
def Run.MimicsFrom (before after : List Float32 → σ → τ → Prop) (s : σ) (first : Run σ α)
    (second : Run τ α) : Prop :=
  ∃ drawn, ∀ t rest, before (drawn ++ rest) s t → Echo (after rest) Eq (first s) (second t)

/-- The second run does what the first does from every state on. -/
def Run.Mimics (alike : List Float32 → σ → τ → Prop) (first : Run σ α) (second : Run τ α) : Prop :=
  ∀ s, Run.MimicsFrom alike alike s first second

/-- After a run, numbers may be chosen in view of what it returned. None are needed if it did not return. -/
theorem Run.exists_drawn_after (ran : Outcome α × σ) {suits : α → σ → List Float32 → Prop}
    (h : ∀ value s, ∃ drawn, suits value s drawn) : ∃ drawn,
      (∀ value s, ran = (.returned value, s) → suits value s drawn) ∧
      ((∀ value, ran.1 ≠ .returned value) → drawn = []) := by
  obtain ⟨outcome, s⟩ := ran
  cases outcome with
  | returned value =>
    obtain ⟨drawn, hdrawn⟩ := h value s
    exact ⟨drawn, fun _ _ hran => by cases hran; exact hdrawn, fun hended => absurd rfl (hended value)⟩
  | panicked message => exact ⟨[], nofun, fun _ => rfl⟩
  | exhausted => exact ⟨[], nofun, fun _ => rfl⟩

/-- Runs that do the same do the same one after the other. The second one draws after the first. -/
theorem Run.MimicsFrom.bind {before after : List Float32 → σ → τ → Prop} {first : Run σ α}
    {second : Run τ α} {next : α → Run σ β} {next' : α → Run τ β} {s : σ}
    (h : Run.MimicsFrom before after s first second)
    (hnext : ∀ value, Run.Mimics after (next value) (next' value)) :
    Run.MimicsFrom before after s (first >>= next) (second >>= next') := by
  obtain ⟨drawn, hfirst⟩ := h
  obtain ⟨drawn', hsecond, hended⟩ := Run.exists_drawn_after (first s) hnext
  refine ⟨drawn ++ drawn', fun t rest hst => ?_⟩
  rw [List.append_assoc] at hst
  refine (hfirst t (drawn' ++ rest) hst).bind (fun value s' value' t' hran hvalue hstate => ?_)
    fun s' t' hbroken hstate => ?_
  · cases hvalue
    exact hsecond value s' hran t' rest hstate
  · rwa [hended hbroken] at hstate

namespace Run.Mimics

variable {alike : List Float32 → σ → τ → Prop}

/-- Runs that end in the same way without drawing numbers do the same. -/
theorem of_echo {first : Run σ α} {second : Run τ α}
    (h : ∀ s t rest, alike rest s t → Echo (alike rest) Eq (first s) (second t)) :
    Run.Mimics alike first second := fun s => ⟨[], fun t rest hst => h s t rest hst⟩

/-- Returning the same value is doing the same. -/
theorem pure (value : α) :
    Run.Mimics alike (Pure.pure value : Run σ α) (Pure.pure value : Run τ α) :=
  of_echo fun _ _ _ hst => .returned rfl hst

/-- Changes that keep states alike are doing the same. -/
theorem modify {f : σ → σ} {g : τ → τ} (h : ∀ s t rest, alike rest s t → alike rest (f s) (g t)) :
    Run.Mimics alike (Run.modify f) (Run.modify g) :=
  of_echo fun s t rest hst => .returned rfl (h s t rest hst)

/-- Runs that do the same do the same one after the other. -/
theorem bind {first : Run σ α} {second : Run τ α} {next : α → Run σ β} {next' : α → Run τ β}
    (h : Run.Mimics alike first second) (hnext : ∀ value, Run.Mimics alike (next value) (next' value)) :
    Run.Mimics alike (first >>= next) (second >>= next') := fun s => (h s).bind hnext

end Run.Mimics

section

variable {Request : Type} {Answer : Request → Type}

/-- Programs that make requests that belong together, and go on alike with answers that belong together. -/
inductive Program.Alike
    (pairs : (request request' : Request) → (Answer request → Answer request' → Prop) → Prop) :
    Program Answer α → Program Answer α → Prop where
  /-- Both programs are finished. -/
  | done (value : α) : Alike pairs (.done value) (.done value)
  /-- Both programs break off. -/
  | panic (message : String) : Alike pairs (.panic message) (.panic message)
  /-- Both programs make a request. -/
  | ask {request request' : Request} {echoes : Answer request → Answer request' → Prop}
    {next : Answer request → Program Answer α} {next' : Answer request' → Program Answer α} :
    pairs request request' echoes →
    (∀ reply reply', echoes reply reply' → Alike pairs (next reply) (next' reply')) →
    Alike pairs (.ask request next) (.ask request' next')
  /-- Both programs attempt a request. -/
  | attempt {request request' : Request} {echoes : Answer request → Answer request' → Prop}
    {next : Except String (Answer request) → Program Answer α}
    {next' : Except String (Answer request') → Program Answer α} :
    pairs request request' echoes →
    (∀ reply reply', EndedAlike echoes reply reply' → Alike pairs (next reply) (next' reply')) →
    Alike pairs (.attempt request next) (.attempt request' next')

/-- Only equal requests belong together, and only equal answers. -/
inductive Program.Same :
    (request request' : Request) → (Answer request → Answer request' → Prop) → Prop where
  /-- Every request belongs to itself. -/
  | refl (request : Request) : Same request request Eq

/-- Every program does the same as itself. -/
theorem Program.Alike.refl (program : Program Answer α) : Alike Same program program := by
  induction program with
  | done value => exact .done value
  | panic message => exact .panic message
  | ask request next ih => exact .ask (.refl request) fun reply _ hreply => hreply ▸ ih reply
  | attempt request next ih => exact .attempt (.refl request) fun reply _ hreply => hreply.eq ▸ ih reply

/-- Requests that belong together are answered alike, with answers that belong together. -/
def Answers (alike : List Float32 → σ → τ → Prop)
    (pairs : (request request' : Request) → (Answer request → Answer request' → Prop) → Prop)
    (answer : (request : Request) → Run σ (Answer request))
    (answer' : (request : Request) → Run τ (Answer request)) : Prop :=
  ∀ request s, ∃ drawn, ∀ request' echoes t rest, pairs request request' echoes →
    alike (drawn ++ rest) s t → Echo (alike rest) echoes (answer request s) (answer' request' t)

/-- Programs that behave alike run alike where requests are answered alike. The numbers to draw do not depend
on the second program. -/
theorem Answers.exists_drawn {alike : List Float32 → σ → τ → Prop}
    {pairs : (request request' : Request) → (Answer request → Answer request' → Prop) → Prop}
    {answer : (request : Request) → Run σ (Answer request)}
    {answer' : (request : Request) → Run τ (Answer request)} (h : Answers alike pairs answer answer')
    (program : Program Answer α) (s : σ) :
    ∃ drawn, ∀ program' t rest, program.Alike pairs program' → alike (drawn ++ rest) s t →
      Echo (alike rest) Eq (program.run answer s) (program'.run answer' t) := by
  induction program generalizing s with
  | done value =>
    refine ⟨[], fun program' t rest halike hst => ?_⟩
    cases halike with
    | done => exact .returned rfl hst
  | panic message =>
    refine ⟨[], fun program' t rest halike hst => ?_⟩
    cases halike with
    | panic => exact .panicked hst
  | ask request next ih =>
    obtain ⟨drawn, hanswer⟩ := h request s
    obtain ⟨drawn', hnext, hended⟩ := Run.exists_drawn_after (answer request s) ih
    refine ⟨drawn ++ drawn', fun program' t rest halike hst => ?_⟩
    rw [List.append_assoc] at hst
    cases halike with
    | ask hpair hgo =>
      refine (hanswer _ _ t (drawn' ++ rest) hpair hst).bind
        (fun reply s' reply' t' hran hreply hstate => ?_) fun s' t' hbroken hstate => ?_
      · exact hnext reply s' hran _ t' rest (hgo _ _ hreply) hstate
      · rwa [hended hbroken] at hstate
  | attempt request next ih =>
    obtain ⟨drawn, hanswer⟩ := h request s
    obtain ⟨drawn', hnext, hended⟩ := Run.exists_drawn_after ((answer request).attempt s) ih
    refine ⟨drawn ++ drawn', fun program' t rest halike hst => ?_⟩
    rw [List.append_assoc] at hst
    cases halike with
    | attempt hpair hgo =>
      refine (hanswer _ _ t (drawn' ++ rest) hpair hst).attempt.bind
        (fun reply s' reply' t' hran hreply hstate => ?_) fun s' t' hbroken hstate => ?_
      · exact hnext reply s' hran _ t' rest (hgo _ _ hreply) hstate
      · rwa [hended hbroken] at hstate

/-- Programs that behave alike do the same where requests are answered alike. -/
theorem Answers.mimics {alike : List Float32 → σ → τ → Prop}
    {pairs : (request request' : Request) → (Answer request → Answer request' → Prop) → Prop}
    {answer : (request : Request) → Run σ (Answer request)}
    {answer' : (request : Request) → Run τ (Answer request)} (h : Answers alike pairs answer answer')
    {program program' : Program Answer α} (halike : program.Alike pairs program') :
    Run.Mimics alike (program.run answer) (program'.run answer') := by
  intro s
  obtain ⟨drawn, hran⟩ := h.exists_drawn program s
  exact ⟨drawn, fun t rest hst => hran program' t rest halike hst⟩

end

/-- Descriptions of one call, possibly with different cursors. -/
def SameDescription (text text' : String) : Prop :=
  ∃ (invocation : Invocation) (cursor : Nat),
    text = invocation.describe ∧ text' = { invocation with cursor }.describe

/-- Notes that say the same, cursors apart. -/
inductive Note.Alike : Note → Note → Prop where
  /-- They are equal. -/
  | refl (note : Note) : Alike note note
  /-- They describe one call. -/
  | description {text text' : String} : SameDescription text text' →
    Alike (.description text) (.description text')

/-- Requests of any code that belong together: what is written to the log does not matter. -/
inductive Ambient.Pairs :
    (request request' : Ambient) → (request.Answer → request'.Answer → Prop) → Prop where
  /-- Every request belongs to itself. -/
  | refl (request : Ambient) : Pairs request request Eq
  /-- Leaving notes that say the same belongs together. -/
  | note {note note' : Note} : note.Alike note' → Pairs (.note note) (.note note') (fun _ _ => True)
  /-- Writing to the log belongs together. -/
  | log (record record' : LogRecord) : Pairs (.log record) (.log record') (fun _ _ => True)

/-- Requests of an advice that sees the call that belong together. -/
inductive Observing.Pairs :
    (request request' : Observing) → (request.Answer → request'.Answer → Prop) → Prop where
  /-- Requests of any code belong together as they do. -/
  | ambient {request request' : Ambient} {echoes : request.Answer → request'.Answer → Prop} :
    Ambient.Pairs request request' echoes → Pairs (.ambient request) (.ambient request') echoes
  /-- The same view is the same answer. -/
  | view : Pairs .view .view Eq
  /-- Descriptions of one call belong together. -/
  | description : Pairs .description .description SameDescription

/-- Requests of an advice that steers the call that belong together. -/
inductive Steering.Pairs :
    (request request' : Steering) → (request.Answer → request'.Answer → Prop) → Prop where
  /-- Requests of any code belong together as they do. -/
  | ambient {request request' : Ambient} {echoes : request.Answer → request'.Answer → Prop} :
    Ambient.Pairs request request' echoes → Pairs (.ambient request) (.ambient request') echoes
  /-- The same view is the same answer. -/
  | view : Pairs .view .view Eq
  /-- Descriptions of one call belong together. -/
  | description : Pairs .description .description SameDescription
  /-- The arguments are replaced by the same. -/
  | setArguments (arguments : Arguments) : Pairs (.setArguments arguments) (.setArguments arguments) Eq
  /-- The routing key is set to the same, or cleared. -/
  | setRoutingKey (key : Option String) : Pairs (.setRoutingKey key) (.setRoutingKey key) Eq
  /-- Both proceed, and the same result is the same answer. -/
  | proceed : Pairs .proceed .proceed Eq

/-- An advice that sees the call and does not depend on its cursor. -/
def ObservingProgram.IsBlind (program : ObservingProgram α) : Prop := program.Alike Observing.Pairs program

/-- An advice that steers the call and does not depend on its cursor. -/
def SteeringProgram.IsBlind (program : SteeringProgram α) : Prop := program.Alike Steering.Pairs program

/-- An advice that only sees the call and never reads its description does not depend on the cursor. -/
theorem ObservingProgram.isBlind_of_avoids {program : ObservingProgram α}
    (h : program.Avoids (· = .description)) : program.IsBlind := by
  induction h with
  | done value => exact .done value
  | panic message => exact .panic message
  | @ask request next hrequest _ ih =>
    cases request with
    | ambient request => exact .ask (.ambient (.refl request)) fun reply _ hreply => hreply ▸ ih reply
    | view => exact .ask .view fun reply _ hreply => hreply ▸ ih reply
    | description => exact absurd rfl hrequest
  | @attempt request next hrequest _ ih =>
    cases request with
    | ambient request =>
      exact .attempt (.ambient (.refl request)) fun reply _ hreply => hreply.eq ▸ ih reply
    | view => exact .attempt .view fun reply _ hreply => hreply.eq ▸ ih reply
    | description => exact absurd rfl hrequest

/-- An advice that steers the call and never reads its description does not depend on the cursor. -/
theorem SteeringProgram.isBlind_of_avoids {program : SteeringProgram α}
    (h : program.Avoids (· = .description)) : program.IsBlind := by
  induction h with
  | done value => exact .done value
  | panic message => exact .panic message
  | @ask request next hrequest _ ih =>
    cases request with
    | ambient request => exact .ask (.ambient (.refl request)) fun reply _ hreply => hreply ▸ ih reply
    | view => exact .ask .view fun reply _ hreply => hreply ▸ ih reply
    | description => exact absurd rfl hrequest
    | setArguments arguments =>
      exact .ask (.setArguments arguments) fun reply _ hreply => hreply ▸ ih reply
    | setRoutingKey key => exact .ask (.setRoutingKey key) fun reply _ hreply => hreply ▸ ih reply
    | proceed => exact .ask .proceed fun reply _ hreply => hreply ▸ ih reply
  | @attempt request next hrequest _ ih =>
    cases request with
    | ambient request =>
      exact .attempt (.ambient (.refl request)) fun reply _ hreply => hreply.eq ▸ ih reply
    | view => exact .attempt .view fun reply _ hreply => hreply.eq ▸ ih reply
    | description => exact absurd rfl hrequest
    | setArguments arguments =>
      exact .attempt (.setArguments arguments) fun reply _ hreply => hreply.eq ▸ ih reply
    | setRoutingKey key => exact .attempt (.setRoutingKey key) fun reply _ hreply => hreply.eq ▸ ih reply
    | proceed => exact .attempt .proceed fun reply _ hreply => hreply.eq ▸ ih reply

/-- Surroundings that are alike, log records, meters and random numbers apart. The numbers still to be drawn
in the second are given. -/
structure World.Alike (rest : List Float32) (world world' : World) : Prop where
  /-- The same routing scopes are open. -/
  scopes_eq : world.scopes = world'.scopes
  /-- The notes say the same. -/
  notes : List.Forall₂ Note.Alike world.notes.toList world'.notes.toList
  /-- The clocks are the same. -/
  clock_eq : world.clock = world'.clock
  /-- The cells of shared memory are the same. -/
  cells_eq : world.cells = world'.cells
  /-- These numbers are still to be drawn in the second. -/
  draws_eq : world'.draws = rest

/-- Calls by name do the same, with the random numbers that suit them. -/
def Dialler.Mimics (dial dial' : Dialler) : Prop :=
  ∀ call, Run.Mimics World.Alike (dial call) (dial' call)

namespace World.Alike

variable {rest : List Float32} {world world' : World}

/-- Surroundings are like themselves, whatever numbers are still to be drawn. -/
theorem draw (world : World) (rest : List Float32) : Alike rest world { world with draws := rest } :=
  ⟨rfl, List.forall₂_same.mpr fun note _ => .refl note, rfl, rfl, rfl⟩

/-- Log records do not matter. -/
theorem log (h : Alike rest world world') (record record' : LogRecord) :
    Alike rest (world.log record) (world'.log record') :=
  ⟨h.scopes_eq, h.notes, h.clock_eq, h.cells_eq, h.draws_eq⟩

/-- Other routing scopes may be put in the place of those that are open. -/
theorem withScopes (h : Alike rest world world') {scopes scopes' : RoutingStack}
    (hscopes : scopes = scopes') : Alike rest { world with scopes } { world' with scopes := scopes' } :=
  ⟨hscopes, h.notes, h.clock_eq, h.cells_eq, h.draws_eq⟩

end World.Alike

/-- Requests of any code are answered alike in surroundings that are alike, if calls by name do the same. -/
theorem Ambient.answers {dial dial' : Dialler} (hdial : dial.Mimics dial') :
    Answers World.Alike Ambient.Pairs (Ambient.answer dial) (Ambient.answer dial') := by
  intro request world
  cases request with
  | note note =>
    refine ⟨[], fun request' echoes world' rest hpair h => ?_⟩
    have hnotes : ∀ {note note' : Note}, note.Alike note' →
        World.Alike rest (world.note note) (world'.note note') := fun hnote => by
      refine ⟨h.scopes_eq, ?_, h.clock_eq, h.cells_eq, h.draws_eq⟩
      simp only [World.note, Array.toList_push]
      exact List.rel_append h.notes (.cons hnote .nil)
    cases hpair with
    | refl => exact .returned rfl (hnotes (.refl note))
    | note hnote => exact .returned trivial (hnotes hnote)
  | log record =>
    refine ⟨[], fun request' echoes world' rest hpair h => ?_⟩
    cases hpair with
    | refl => exact .returned rfl (h.log record record)
    | log _ record' => exact .returned trivial (h.log record record')
  | routing =>
    refine ⟨[], fun request' echoes world' rest hpair h => ?_⟩
    cases hpair with
    | refl =>
      have hrouting : (world.scopes.current, world.scopes.size) =
          (world'.scopes.current, world'.scopes.size) := by rw [h.scopes_eq]
      exact .returned hrouting h
  | call call =>
    obtain ⟨drawn, hcall⟩ := hdial call world
    refine ⟨drawn, fun request' echoes world' rest hpair h => ?_⟩
    cases hpair with
    | refl => exact hcall world' rest h
  | count family method succeeded =>
    refine ⟨[], fun request' echoes world' rest hpair h => ?_⟩
    cases hpair with
    | refl => exact .returned rfl ⟨h.scopes_eq, h.notes, h.clock_eq, h.cells_eq, h.draws_eq⟩
  | sleep milliseconds =>
    refine ⟨[], fun request' echoes world' rest hpair h => ?_⟩
    cases hpair with
    | refl =>
      exact .returned rfl ⟨h.scopes_eq, h.notes, congrArg (· + milliseconds) h.clock_eq, h.cells_eq,
        h.draws_eq⟩
  | clock =>
    refine ⟨[], fun request' echoes world' rest hpair h => ?_⟩
    cases hpair with
    | refl => exact .returned h.clock_eq h
  | draw =>
    refine ⟨[world.draws.headD 0], fun request' echoes world' rest hpair h => ?_⟩
    cases hpair with
    | refl =>
      have hdraws : world'.draws = world.draws.headD 0 :: rest := h.draws_eq
      refine .returned ?_ ⟨h.scopes_eq, h.notes, h.clock_eq, h.cells_eq, ?_⟩
      · rw [hdraws]
        rfl
      · rw [hdraws]
        rfl
  | load cell =>
    refine ⟨[], fun request' echoes world' rest hpair h => ?_⟩
    cases hpair with
    | refl =>
      have hcell : world.load cell = world'.load cell := by
        rw [World.load, World.load, h.cells_eq]
      exact .returned hcell h
  | store cell value =>
    refine ⟨[], fun request' echoes world' rest hpair h => ?_⟩
    cases hpair with
    | refl =>
      exact .returned rfl ⟨h.scopes_eq, h.notes, h.clock_eq,
        congrArg (·.setIfInBounds cell value) h.cells_eq, h.draws_eq⟩

/-- Every program of a target behaves like itself. -/
theorem AmbientProgram.alike (program : AmbientProgram α) : program.Alike Ambient.Pairs program := by
  induction program with
  | done value => exact .done value
  | panic message => exact .panic message
  | ask request next ih => exact .ask (.refl request) fun reply _ hreply => hreply ▸ ih reply
  | attempt request next ih => exact .attempt (.refl request) fun reply _ hreply => hreply.eq ▸ ih reply

end Interception
