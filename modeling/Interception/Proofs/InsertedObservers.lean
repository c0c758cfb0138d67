import Interception.Proofs.AttendedCalls

/-!
# Observers put into a chain

A logging or metric aspect may be put at any place of a resolved list of advices. The chain that comes of it
differs from the one without it by one around advice, so that its calls do the same: they end in the same way,
panics included, their journals are the same but for the entries of the observer itself, and they leave the
same surroundings behind, log records, meters and the random numbers still to be drawn apart.

What an advice sees can be made visible by letting it leave a note of every answer that it gets. An advice that
does so depends on the cursor of its call no more than before, so that the notes say the same with and without
the observer.
-/

namespace Interception

section

variable {α Request : Type} {Answer : Request → Type}

/-- The program that leaves a note of every answer it gets. -/
def Program.reporting (leave : Note → Request) (report : (request : Request) → Answer request → Note) :
    Program Answer α → Program Answer α
  | .done value => .done value
  | .panic message => .panic message
  | .ask request next => .ask request fun reply =>
    .ask (leave (report request reply)) fun _ => (next reply).reporting leave report
  | .attempt request next => .attempt request fun
    | .ok reply => .ask (leave (report request reply)) fun _ => (next (.ok reply)).reporting leave report
    | .error message =>
      .ask (leave (.mark (.text message))) fun _ => (next (.error message)).reporting leave report

/-- Programs that behave alike also do so when they leave notes of the answers, if the notes of answers that
belong together say the same, and leaving such notes belongs together. -/
theorem Program.Alike.reporting
    {pairs : (request request' : Request) → (Answer request → Answer request' → Prop) → Prop}
    {leave : Note → Request} {report : (request : Request) → Answer request → Note}
    (hleave : ∀ note note', note.Alike note' → ∃ echoes, pairs (leave note) (leave note') echoes)
    (hreport : ∀ request request' echoes, pairs request request' echoes → ∀ reply reply',
      echoes reply reply' → (report request reply).Alike (report request' reply'))
    {program program' : Program Answer α} (h : program.Alike pairs program') :
    (program.reporting leave report).Alike pairs (program'.reporting leave report) := by
  induction h with
  | done value => exact .done value
  | panic message => exact .panic message
  | ask hpair _ ih =>
    refine .ask hpair fun reply reply' hreply => ?_
    obtain ⟨_, hleft⟩ := hleave _ _ (hreport _ _ _ hpair reply reply' hreply)
    exact .ask hleft fun _ _ _ => ih reply reply' hreply
  | attempt hpair _ ih =>
    rw [Program.reporting, Program.reporting]
    refine .attempt hpair fun reply reply' hreply => ?_
    cases hreply with
    | ok hvalue =>
      obtain ⟨_, hleft⟩ := hleave _ _ (hreport _ _ _ hpair _ _ hvalue)
      exact .ask hleft fun _ _ _ => ih _ _ (.ok hvalue)
    | error message =>
      obtain ⟨_, hleft⟩ := hleave _ _ (.refl (.mark (.text message)))
      exact .ask hleft fun _ _ _ => ih _ _ (.error message)

/-- Leaving notes does not change whether a program lets panics of a kind pass. -/
theorem Program.Unwinds.reporting {final : Request → Prop} {leave : Note → Request}
    {report : (request : Request) → Answer request → Note} {program : Program Answer α}
    (h : program.Unwinds final) : (program.reporting leave report).Unwinds final := by
  induction h with
  | done value => exact .done value
  | panic message => exact .panic message
  | ask request _ ih => exact .ask request fun reply => .ask _ fun _ => ih reply
  | attempt hrequest _ ih =>
    rw [Program.reporting]
    refine .attempt hrequest fun reply => ?_
    cases reply with
    | ok reply => exact .ask _ fun _ => ih (.ok reply)
    | error message => exact .ask _ fun _ => ih (.error message)

end

/-- A note of the answer to a request that any code may make. -/
def Ambient.report : (request : Ambient) → request.Answer → Note
  | routing, (current, scopes) => .routing current scopes
  | call _, result => .called result
  | clock, milliseconds => .mark (.integer (Int.ofNat milliseconds))
  | draw, drawn => .mark (.real (Float32.toFloat drawn))
  | load _, value => .value (some value)
  | note _, _ | log _, _ | count _ _ _, _ | sleep _, _ | store _ _, _ => .mark .null

/-- A note of the answer to a request of an advice that only sees the call. -/
def Observing.report : (request : Observing) → request.Answer → Note
  | ambient request, reply => request.report reply
  | view, seen => .call seen none 0
  | description, text => .description text

/-- A note of the answer to a request of an advice that steers the call. -/
def Steering.report : (request : Steering) → request.Answer → Note
  | ambient request, reply => request.report reply
  | view, seen => .call seen none 0
  | description, text => .description text
  | setArguments _, _ | setRoutingKey _, _ => .mark .null
  | proceed, result => .proceeded result

/-- An advice that only sees the call and leaves a note of every answer it gets. -/
def ObservingProgram.reporting {α : Type} (program : ObservingProgram α) : ObservingProgram α :=
  Program.reporting (.ambient <| .note ·) Observing.report program

/-- An advice that steers the call and leaves a note of every answer it gets. -/
def SteeringProgram.reporting {α : Type} (program : SteeringProgram α) : SteeringProgram α :=
  Program.reporting (.ambient <| .note ·) Steering.report program

/-- Notes of answers that belong together say the same. -/
theorem Ambient.Pairs.report {request request' : Ambient}
    {echoes : request.Answer → request'.Answer → Prop} (h : Pairs request request' echoes)
    (reply : request.Answer) (reply' : request'.Answer) (hreply : echoes reply reply') :
    (request.report reply).Alike (request'.report reply') := by
  cases h with
  | refl request => exact hreply ▸ .refl _
  | note _ => exact .refl (.mark .null)
  | log record record' => exact .refl (.mark .null)

/-- An advice that leaves notes of what it sees of the call depends on the cursor no more than before. -/
theorem ObservingProgram.IsBlind.reporting {α : Type} {program : ObservingProgram α}
    (h : program.IsBlind) : program.reporting.IsBlind := by
  refine Program.Alike.reporting (fun _ _ hnote => ⟨_, .ambient (.note hnote)⟩) ?_ h
  intro request request' echoes hpair reply reply' hreply
  cases hpair with
  | ambient hpair => exact hpair.report reply reply' hreply
  | view => exact hreply ▸ .refl _
  | description => exact .description hreply

/-- An advice that steers the call and leaves notes of what it sees depends on the cursor no more than
before. -/
theorem SteeringProgram.IsBlind.reporting {α : Type} {program : SteeringProgram α}
    (h : program.IsBlind) : program.reporting.IsBlind := by
  refine Program.Alike.reporting (fun _ _ hnote => ⟨_, .ambient (.note hnote)⟩) ?_ h
  intro request request' echoes hpair reply reply' hreply
  cases hpair with
  | ambient hpair => exact hpair.report reply reply' hreply
  | view => exact hreply ▸ .refl _
  | description => exact .description hreply
  | setArguments arguments => exact .refl (.mark .null)
  | setRoutingKey key => exact .refl (.mark .null)
  | proceed => exact hreply ▸ .refl _

namespace Behavior

/-- A behaviour that does not depend on the cursor of its call. While before advices run the cursor is always
zero, so that nothing is asked of them. -/
def IsBlind : Behavior → Prop
  | before _ => True
  | around body => body.IsBlind
  | after body => body.IsBlind
  | afterReturning body => ∀ value, (body value).IsBlind
  | afterThrowing body => ∀ error, (body error).IsBlind

/-- A behaviour that never reads the description of its call. -/
def ReadsNoDescription : Behavior → Prop
  | before body => body.Avoids (· = .description)
  | around body => body.Avoids (· = .description)
  | after body => body.Avoids (· = .description)
  | afterReturning body => ∀ value, (body value).Avoids (· = .description)
  | afterThrowing body => ∀ error, (body error).Avoids (· = .description)

/-- Only the description shows the cursor: a behaviour that never reads it may do anything else. -/
theorem ReadsNoDescription.isBlind {behavior : Behavior} (h : behavior.ReadsNoDescription) :
    behavior.IsBlind := by
  cases behavior with
  | before body => trivial
  | around body => exact SteeringProgram.isBlind_of_avoids h
  | after body => exact ObservingProgram.isBlind_of_avoids h
  | afterReturning body => exact fun value => ObservingProgram.isBlind_of_avoids (h value)
  | afterThrowing body => exact fun error => ObservingProgram.isBlind_of_avoids (h error)

/-- A behaviour that does not go on after a panic of what it proceeded to. Only around advices could. -/
def Unwinds : Behavior → Prop
  | around body => SteeringProgram.Unwinds body
  | before _ | after _ | afterReturning _ | afterThrowing _ => True

/-- The behaviour that leaves notes of the value or error it is given, if any, and of every answer it gets. -/
def reporting : Behavior → Behavior
  | before body => .before (SteeringProgram.reporting body)
  | around body => .around (SteeringProgram.reporting body)
  | after body => .after (ObservingProgram.reporting body)
  | afterReturning body => .afterReturning fun value =>
    .ask (.ambient (.note (.value (some value)))) fun _ => ObservingProgram.reporting (body value)
  | afterThrowing body => .afterThrowing fun error =>
    .ask (.ambient (.note (.thrown (some error)))) fun _ => ObservingProgram.reporting (body error)

/-- Leaving notes does not make a behaviour depend on the cursor. -/
theorem IsBlind.reporting {behavior : Behavior} (h : behavior.IsBlind) : behavior.reporting.IsBlind := by
  cases behavior with
  | before body => trivial
  | around body => exact SteeringProgram.IsBlind.reporting h
  | after body => exact ObservingProgram.IsBlind.reporting h
  | afterReturning body =>
    exact fun value => .ask (.ambient (.refl _)) fun _ _ _ => ObservingProgram.IsBlind.reporting (h value)
  | afterThrowing body =>
    exact fun error => .ask (.ambient (.refl _)) fun _ _ _ => ObservingProgram.IsBlind.reporting (h error)

/-- Leaving notes does not make a behaviour go on after a panic. -/
theorem Unwinds.reporting {behavior : Behavior} (h : behavior.Unwinds) : behavior.reporting.Unwinds := by
  cases behavior with
  | around body => exact Program.Unwinds.reporting h
  | _ => trivial

end Behavior

namespace RegisteredAdvice

/-- An advice of a logging or of a metric aspect. -/
def IsObserver (advice : RegisteredAdvice) : Prop :=
  ∃ body : AroundBody, advice.behavior = .around body ∧ body.IsObserver

/-- The advice that leaves notes of what it is given and of every answer it gets. -/
def reporting (advice : RegisteredAdvice) : RegisteredAdvice :=
  { advice with behavior := advice.behavior.reporting }

end RegisteredAdvice

/-- An entry of the journal that is not about the around advice with a sequence number. -/
def JournalEntry.isApartFrom (sequence : Nat) (entry : JournalEntry) : Bool :=
  entry ≠ .advice .around sequence && entry ≠ .proceeded sequence

namespace Chain

/-- Whatever a call does in the first chain, it also does in the second, if this is given the random numbers
that suit it: both calls end in the same way, their journals have the same entries among those that are kept,
and they are in the same phase and leave the same surroundings, log records and meters apart. Of the numbers
given to the second those are left that do not belong to the call. -/
def Imitated (keep : JournalEntry → Bool) (dial dial' : Dialler) (chain chain' : Chain) : Prop :=
  ∀ (signature : CallSignature) (arguments : Arguments) (terminal : Terminal) (world : World), ∃ drawn,
    ∀ rest, Echo (Running.Alike keep rest) Eq
      (chain.runPhases dial (start signature arguments terminal world))
      (chain'.runPhases dial' (start signature arguments terminal { world with draws := drawn ++ rest }))

/-- Calls of the two chains cannot be told apart: each does whatever the other does. -/
def Indistinguishable (keep : JournalEntry → Bool) (dial dial' : Dialler) (chain chain' : Chain) : Prop :=
  Imitated keep dial dial' chain chain' ∧ Imitated keep dial' dial chain' chain

/-- Calls of chains that are the same but for observers do the same. -/
theorem Attended.imitated {keep : JournalEntry → Bool} {chain chain' : Chain} {dial dial' : Dialler}
    (h : chain.Attended keep chain') (hdial : dial.Mimics dial') :
    Imitated keep dial dial' chain chain' := by
  intro signature arguments terminal world
  obtain ⟨drawn, hran⟩ :=
    runPhases_mimics hdial h (start signature arguments terminal world) rfl rfl
  exact ⟨drawn, fun rest =>
    hran _ rest (start_parallel (.draw world (drawn ++ rest)) signature arguments terminal)⟩

/-- An around advice in a registered advice that does not depend on the cursor does not either. -/
theorem around?_isBlind {advice : RegisteredAdvice} {step : Step AroundBody}
    (h : around? advice = some step) (hblind : advice.behavior.IsBlind) : step.body.IsBlind := by
  obtain ⟨_, _, _, _, _, behavior⟩ := advice
  cases behavior <;> cases h
  exact hblind

/-- An around advice in a registered advice that does not go on after a panic does not either. -/
theorem around?_unwinds {advice : RegisteredAdvice} {step : Step AroundBody}
    (h : around? advice = some step) (hunwinds : advice.behavior.Unwinds) : step.body.Unwinds := by
  obtain ⟨_, _, _, _, _, behavior⟩ := advice
  cases behavior <;> cases h
  exact hunwinds

/-- An after advice in a registered advice that does not depend on the cursor does not either. -/
theorem after?_isBlind {advice : RegisteredAdvice} {step : Step AfterBody}
    (h : after? advice = some step) (hblind : advice.behavior.IsBlind) : step.body.IsBlind := by
  obtain ⟨_, _, _, _, _, behavior⟩ := advice
  cases behavior <;> cases h
  exact hblind

/-- An advice for a returned value in a registered advice that does not depend on the cursor does not
either. -/
theorem afterReturning?_isBlind {advice : RegisteredAdvice} {step : Step AfterReturningBody}
    (h : afterReturning? advice = some step) (hblind : advice.behavior.IsBlind) :
    ∀ value, (step.body value).IsBlind := by
  obtain ⟨_, _, _, _, _, behavior⟩ := advice
  cases behavior <;> cases h
  exact hblind

/-- An advice for an error in a registered advice that does not depend on the cursor does not either. -/
theorem afterThrowing?_isBlind {advice : RegisteredAdvice} {step : Step AfterThrowingBody}
    (h : afterThrowing? advice = some step) (hblind : advice.behavior.IsBlind) :
    ∀ error, (step.body error).IsBlind := by
  obtain ⟨_, _, _, _, _, behavior⟩ := advice
  cases behavior <;> cases h
  exact hblind

/-- What holds of every advice that is picked from a list holds of all that are picked. -/
theorem forall_picked {Body : Type} {pick : RegisteredAdvice → Option (Step Body)} {P : Step Body → Prop}
    {Q : Behavior → Prop} (hpick : ∀ advice step, pick advice = some step → Q advice.behavior → P step)
    {advices : List RegisteredAdvice} (h : ∀ advice ∈ advices, Q advice.behavior) :
    ∀ step ∈ advices.filterMap pick, P step := by
  intro step hstep
  obtain ⟨advice, hadvice, hsome⟩ := List.mem_filterMap.mp hstep
  exact hpick advice step hsome (h advice hadvice)

section

variable {left right : List RegisteredAdvice} {observer : RegisteredAdvice}

/-- The around advices of a resolved list with an observer are the same as those without it. -/
theorem attended_arounds (hobserver : observer.IsObserver)
    (hblind : ∀ advice ∈ left ++ right, advice.behavior.IsBlind) :
    OneShot.Attended (JournalEntry.isApartFrom observer.sequence)
      ((left ++ right).filterMap around?) ((left ++ observer :: right).filterMap around?) := by
  have hsteps : ∀ step ∈ (left ++ right).filterMap around?, step.body.IsBlind :=
    forall_picked (fun _ _ => around?_isBlind) hblind
  obtain ⟨body, hbody, hobserves⟩ := hobserver
  have hstep : around? observer = some ⟨observer.label, observer.sequence, body⟩ := by
    rw [around?, hbody]
  rw [List.filterMap_append] at hsteps ⊢
  rw [List.filterMap_append, List.filterMap_cons_some hstep]
  generalize left.filterMap around? = outer at hsteps
  induction outer with
  | nil =>
    refine .second hobserves ?_ ?_ (.refl hsteps)
    · simp [JournalEntry.isApartFrom]
    · simp [JournalEntry.isApartFrom]
  | cons step outer ih =>
    obtain ⟨hfirst, hothers⟩ := List.forall_mem_cons.mp hsteps
    exact .both hfirst (ih hothers)

/-- Advices of a kind that the observer is not of are the same with and without it. -/
theorem filterMap_insert {Body : Type} (pick : RegisteredAdvice → Option (Step Body))
    (hpick : pick observer = none) :
    (left ++ right).filterMap pick = (left ++ observer :: right).filterMap pick := by
  rw [List.filterMap_append, List.filterMap_append, List.filterMap_cons_none hpick]

/-- The chain of a resolved list with an observer is the same as the one without it. -/
theorem attended_ofResolved (hobserver : observer.IsObserver)
    (hblind : ∀ advice ∈ left ++ right, advice.behavior.IsBlind)
    (hunwinds : ∀ advice ∈ left ++ right, advice.behavior.Unwinds) :
    (ofResolved (left ++ right)).Attended (JournalEntry.isApartFrom observer.sequence)
      (ofResolved (left ++ observer :: right)) := by
  obtain ⟨body, hbody, _⟩ := id hobserver
  exact
    { befores_eq := filterMap_insert before? (by rw [before?, hbody])
      arounds := attended_arounds hobserver hblind
      arounds_unwind := forall_picked (fun _ _ => around?_unwinds) hunwinds
      afters_eq := filterMap_insert after? (by rw [after?, hbody])
      afters_blind := forall_picked (fun _ _ => after?_isBlind) hblind
      afterReturnings_eq := filterMap_insert afterReturning? (by rw [afterReturning?, hbody])
      afterReturnings_blind := forall_picked (fun _ _ => afterReturning?_isBlind) hblind
      afterThrowings_eq := filterMap_insert afterThrowing? (by rw [afterThrowing?, hbody])
      afterThrowings_blind := forall_picked (fun _ _ => afterThrowing?_isBlind) hblind }

/-- What leaving notes does not change of the advices, it does not change of any of them. -/
theorem forall_reporting {Q : Behavior → Prop} (hQ : ∀ behavior, Q behavior → Q behavior.reporting)
    (h : ∀ advice ∈ left ++ right, Q advice.behavior) :
    ∀ advice ∈ left.map RegisteredAdvice.reporting ++ right.map RegisteredAdvice.reporting,
      Q advice.behavior := by
  rw [← List.map_append]
  intro reporting hreporting
  obtain ⟨advice, hadvice, rfl⟩ := List.mem_map.mp hreporting
  exact hQ _ (h advice hadvice)

/-- Calls of chains with and without an observer cannot be told apart, wherever it stands. -/
theorem indistinguishable_insert (hobserver : observer.IsObserver)
    (hblind : ∀ advice ∈ left ++ right, advice.behavior.IsBlind)
    (hunwinds : ∀ advice ∈ left ++ right, advice.behavior.Unwinds) {directory directory' : Directory}
    (hdirectory : directory.Attended directory') (depth : Nat) :
    Indistinguishable (JournalEntry.isApartFrom observer.sequence) (directory.dial depth)
      (directory'.dial depth) (ofResolved (left ++ right)) (ofResolved (left ++ observer :: right)) := by
  have hattended := attended_ofResolved hobserver hblind hunwinds
  exact ⟨hattended.imitated (hdirectory.dial_mimics depth),
    hattended.symm.imitated (hdirectory.symm.dial_mimics depth)⟩

end

/-- Putting an observer among advices that may do anything, except that they do not depend on the cursor of the
call and do not go on after a panic of what they proceeded to, cannot be noticed. Calls nested in these may go
through chains with observers too. The same is true if all advices but the observer leave notes of the values
and errors they are given and of every answer they get, so that what they see is the same as well. -/
theorem observer_cannot_be_noticed (left right : List RegisteredAdvice) (observer : RegisteredAdvice)
    (hobserver : observer.IsObserver) (hblind : ∀ advice ∈ left ++ right, advice.behavior.IsBlind)
    (hunwinds : ∀ advice ∈ left ++ right, advice.behavior.Unwinds)
    (directory directory' : Directory) (hdirectory : directory.Attended directory') (depth : Nat) :
    Indistinguishable (JournalEntry.isApartFrom observer.sequence)
        (directory.dial depth) (directory'.dial depth)
        (ofResolved (left ++ right)) (ofResolved (left ++ observer :: right)) ∧
      Indistinguishable (JournalEntry.isApartFrom observer.sequence)
        (directory.dial depth) (directory'.dial depth)
        (ofResolved (left.map RegisteredAdvice.reporting ++ right.map RegisteredAdvice.reporting))
        (ofResolved (left.map RegisteredAdvice.reporting ++
          observer :: right.map RegisteredAdvice.reporting)) :=
  ⟨indistinguishable_insert hobserver hblind hunwinds hdirectory depth,
    indistinguishable_insert hobserver (forall_reporting (fun _ => Behavior.IsBlind.reporting) hblind)
      (forall_reporting (fun _ => Behavior.Unwinds.reporting) hunwinds) hdirectory depth⟩

/-- An around advice that proceeds twice and gives the first result. -/
def hasty : RegisteredAdvice :=
  { aspect := "retry"
    label := "retry"
    pointcut := ⟨everyCall, ⟨['*']⟩, ⟨"..", [.many]⟩, ⟨['*']⟩, [.many]⟩
    order := 0
    sequence := 0
    behavior := .around (.ask .proceed fun result => .ask .proceed fun _ => .done result) }

/-- The same advice in the place of an observer, with a logging aspect as what it does. -/
def logged : RegisteredAdvice :=
  { hasty with sequence := 1, behavior := .around (LoggingAspect.around ⟨.default⟩) }

/-- A logging aspect inside an advice that proceeds twice cannot be noticed. -/
theorem logged_cannot_be_noticed :
    logged.IsObserver ∧ (∀ advice ∈ [hasty] ++ [], advice.behavior.IsBlind) ∧
      (∀ advice ∈ [hasty] ++ [], advice.behavior.Unwinds) ∧ Directory.empty.Attended Directory.empty ∧
      Indistinguishable (JournalEntry.isApartFrom 1) (Directory.empty.dial 1) (Directory.empty.dial 1)
        (ofResolved [hasty]) (ofResolved [hasty, logged]) := by
  have hobserver : logged.IsObserver := ⟨_, rfl, .inl ⟨_, rfl⟩⟩
  have hblind : ∀ advice ∈ [hasty] ++ [], advice.behavior.IsBlind := by
    intro advice hadvice
    obtain rfl := List.mem_singleton.mp hadvice
    have hreads : hasty.behavior.ReadsNoDescription := .ask nofun fun _ => .ask nofun fun _ => .done _
    exact hreads.isBlind
  have hunwinds : ∀ advice ∈ [hasty] ++ [], advice.behavior.Unwinds := by
    intro advice hadvice
    obtain rfl := List.mem_singleton.mp hadvice
    exact .ask _ fun _ => .ask _ fun _ => .done _
  exact ⟨hobserver, hblind, hunwinds, .nil,
    (observer_cannot_be_noticed [hasty] [] logged hobserver hblind hunwinds .empty .empty .nil 1).1⟩

/-- An advice that goes on after a panic and proceeds once more notices a logging aspect. The frame that the panic
left open is the innermost one then, so that the logging aspect is blamed for the second attempt, in the error
that the advice is given and in the source of the error with which the call ends. Without the logging aspect it is
the advice that is blamed in both. -/
theorem logged_noticed_after_panic :
    let guarded := { hasty with behavior := .around (.attempt .proceed fun _ => .ask .proceed .done) }
    let observer := { logged with label := "logging" }
    let call := fun advices => ((ofResolved advices).execute (Directory.empty.dial 1)
      ⟨"com.x.Users", "Users", ⟨"save", [], "()"⟩⟩ .empty (fun _ => .panic "down") .initial).1
    guarded.behavior.IsBlind ∧ observer.IsObserver ∧
      call [guarded] = .returned (.error (.proceedMisuse "retry" .repeated
        (some (.proceedMisuse "retry" .repeated none)))) ∧
      call [guarded, observer] = .returned (.error (.proceedMisuse "retry" .repeated
        (some (.proceedMisuse "logging" .repeated none)))) := by
  intro guarded observer call
  have hreads : guarded.behavior.ReadsNoDescription := .attempt nofun fun _ => .ask nofun fun _ => .done _
  exact ⟨hreads.isBlind, ⟨_, rfl, .inl ⟨_, rfl⟩⟩, rfl, rfl⟩

end Chain

end Interception
