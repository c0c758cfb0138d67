import Interception.Proofs.AlikePrograms
import Interception.Proofs.ContainedPrograms
import Interception.Proofs.MeterFamilies
import Interception.Proofs.Transcripts

/-!
# Runs and their transcripts

The transcript of a call accounts for what the call leaves behind: the notes that it tells of are left in their
order, the finished calls that it tells of are counted, and no other notes and meters are touched.

If the code of a call depends on its own call only, the call repeats itself wherever the same routing scopes are
open: it ends alike and has the same transcript. What may differ between the two places is everything else that
happened there before: notes, log records, meters, the clock, random numbers and shared memory.

Both are shown of requests first, then of programs, and then of the parts of a call in the order in which they
are put together. A program repeats itself because it is akin to itself: wherever the runs part, one of them
makes a silent request, and goes on as if it had not been made.
-/

namespace Interception

variable {σ α β : Type}

/-- The note that code leaves. -/
def Happening.note? : Happening → Option Note
  | .noted note => some note
  | _ => none

/-- The finished call that code counts: the meter family, the method, and whether it succeeded. -/
def Happening.counted? : Happening → Option (Nat × String × Bool)
  | .counted family method succeeded => some (family, method, succeeded)
  | _ => none

/-- Counts finished calls one after the other. -/
def Meters.countAll (meters : Meters) (counted : List (Nat × String × Bool)) : Meters :=
  counted.foldl (fun meters (family, method, succeeded) => meters.count family method succeeded) meters

/-- A world becomes another one while things happen: the notes that are told of were left, and the finished
calls that are told of were counted. -/
structure World.Becomes (world : World) (transcript : List Happening) (later : World) : Prop where
  /-- The notes were left in their order. -/
  notes_eq : later.notes.toList = world.notes.toList ++ transcript.filterMap Happening.note?
  /-- The finished calls were counted. -/
  meters_eq : later.meters = world.meters.countAll (transcript.filterMap Happening.counted?)

namespace World.Becomes

variable {world between later : World} {transcript transcript' : List Happening}

/-- A world remains what it is while nothing happens. -/
theorem refl (world : World) : world.Becomes [] world := ⟨(List.append_nil _).symm, rfl⟩

/-- Nothing is told of what changes neither notes nor meters. -/
theorem quiet (hnotes : later.notes = world.notes) (hmeters : later.meters = world.meters) :
    world.Becomes [] later := ⟨by rw [hnotes]; exact (List.append_nil _).symm, hmeters⟩

/-- Things happen one after the other. -/
theorem append (h : world.Becomes transcript between) (h' : between.Becomes transcript' later) :
    world.Becomes (transcript ++ transcript') later := by
  refine ⟨?_, ?_⟩
  · rw [List.filterMap_append, ← List.append_assoc, ← h.notes_eq, h'.notes_eq]
  · rw [List.filterMap_append, Meters.countAll, List.foldl_append, h'.meters_eq, h.meters_eq]
    rfl

/-- What neither leaves a note nor counts may be told as well. -/
theorem cons (h : world.Becomes transcript later) {event : Happening} (hnote : event.note? = none)
    (hcounted : event.counted? = none) : world.Becomes (event :: transcript) later := by
  refine ⟨?_, ?_⟩
  · rw [List.filterMap_cons_none hnote]
    exact h.notes_eq
  · rw [List.filterMap_cons_none hcounted]
    exact h.meters_eq

/-- Things happen in a run and in what comes after it if it returns. -/
theorem bind {surroundings : σ → World} {first : Run σ α} {next : α → Run σ β}
    {later : α → σ → List Happening} {s : σ}
    (h : (surroundings s).Becomes transcript (surroundings (first s).2))
    (hnext : ∀ value between, (surroundings between).Becomes (later value between)
      (surroundings (next value between).2)) :
    (surroundings s).Becomes (transcript ++ first.reading [] later s)
      (surroundings ((first >>= next) s).2) := by
  refine h.append ?_
  rw [Run.bind_apply, Run.reading]
  generalize first s = ran
  obtain ⟨outcome, between⟩ := ran
  cases outcome with
  | returned value => exact hnext value between
  | panicked message => exact .refl _
  | exhausted => exact .refl _

end World.Becomes

/-- Runs that end alike are followed by runs that do, and by the same transcripts. -/
theorem Echo.bind_reading {alike : σ → σ → Prop} {first : Run σ α} {next next' : α → Run σ β}
    {later later' : α → σ → List Happening} {s s' : σ} (h : Echo alike Eq (first s) (first s'))
    (hnext : ∀ value {t t'}, alike t t' →
      Echo alike Eq (next value t) (next' value t') ∧ later value t = later' value t') :
    Echo alike Eq ((first >>= next) s) ((first >>= next') s') ∧
      first.reading [] later s = first.reading [] later' s' := by
  simp only [Run.bind_apply, Run.reading]
  generalize first s = ran at h ⊢
  generalize first s' = ran' at h ⊢
  cases h with
  | returned hvalue ht =>
    subst hvalue
    exact hnext _ ht
  | panicked ht => exact ⟨.panicked ht, rfl⟩
  | exhausted ht => exact ⟨.exhausted ht, rfl⟩

/-- The transcript belongs to the run: it accounts for what the run leaves behind, and from states that are
alike the run ends alike, in states that are alike, and has the same transcript. -/
structure Run.Recorded (alike : σ → σ → Prop) (surroundings : σ → World) (run : Run σ α)
    (transcript : σ → List Happening) : Prop where
  /-- The transcript accounts for what the run leaves behind. -/
  becomes : ∀ s, (surroundings s).Becomes (transcript s) (surroundings (run s).2)
  /-- The run repeats itself. -/
  repeats : ∀ {s s'}, alike s s' → Echo alike Eq (run s) (run s') ∧ transcript s = transcript s'

/-- A run returns and leads to a state that is like the same states, on either side. -/
def Run.Idles (alike : σ → σ → Prop) (run : Run σ α) : Prop :=
  ∀ s, ∃ value later, run s = (.returned value, later) ∧ (∀ {s'}, alike s s' → alike later s') ∧
    ∀ {s'}, alike s' s → alike s' later

namespace Run.Recorded

variable {alike : σ → σ → Prop} {surroundings : σ → World} {transcript : σ → List Happening}

/-- Nothing is told of returning. -/
theorem pure (value : α) : Run.Recorded alike surroundings (Pure.pure value : Run σ α) fun _ => [] :=
  ⟨fun _ => .refl _, fun h => ⟨.returned rfl h, rfl⟩⟩

/-- Nothing is told of giving up. -/
theorem exhausted : Run.Recorded alike surroundings (Run.exhausted : Run σ α) fun _ => [] :=
  ⟨fun _ => .refl _, fun h => ⟨.exhausted h, rfl⟩⟩

/-- Nothing is told of a change that keeps states alike and touches neither notes nor meters. -/
theorem modify {f : σ → σ} (hf : ∀ {s s'}, alike s s' → alike (f s) (f s'))
    (hquiet : ∀ s, (surroundings s).Becomes [] (surroundings (f s))) :
    Run.Recorded alike surroundings (Run.modify f) fun _ => [] :=
  ⟨hquiet, fun h => ⟨.returned rfl (hf h), rfl⟩⟩

/-- A run after such a change has the transcript that it has then. -/
theorem from_modified {run : Run σ α} (h : Run.Recorded alike surroundings run transcript) {f : σ → σ}
    (hf : ∀ {s s'}, alike s s' → alike (f s) (f s'))
    (hquiet : ∀ s, (surroundings s).Becomes [] (surroundings (f s))) :
    Run.Recorded alike surroundings (fun s => run (f s)) fun s => transcript (f s) :=
  ⟨fun s => (hquiet s).append (h.becomes (f s)), fun hs => h.repeats (hf hs)⟩

/-- What neither leaves a note nor counts may be told before a run. -/
theorem telling {run : Run σ α} (h : Run.Recorded alike surroundings run transcript) {event : Happening}
    (hnote : event.note? = none) (hcounted : event.counted? = none) :
    Run.Recorded alike surroundings run fun s => event :: transcript s :=
  ⟨fun s => (h.becomes s).cons hnote hcounted,
    fun hs => ⟨(h.repeats hs).1, congrArg _ (h.repeats hs).2⟩⟩

/-- The transcripts of runs one after the other follow each other. -/
theorem bind {first : Run σ α} {next : α → Run σ β} {later : α → σ → List Happening}
    (h : Run.Recorded alike surroundings first transcript)
    (hnext : ∀ value, Run.Recorded alike surroundings (next value) (later value)) :
    Run.Recorded alike surroundings (first >>= next) fun s => transcript s ++ first.reading [] later s := by
  refine ⟨fun s => (h.becomes s).bind fun value => (hnext value).becomes, fun {s s'} hs => ?_⟩
  obtain ⟨hran, htranscript⟩ := h.repeats hs
  obtain ⟨hlater, hrest⟩ := hran.bind_reading fun value => (hnext value).repeats
  exact ⟨hlater, congrArg₂ (· ++ ·) htranscript hrest⟩

/-- What comes after a run and of which nothing is told adds nothing to the transcript. -/
theorem bind_quiet {first : Run σ α} {next : α → Run σ β}
    (h : Run.Recorded alike surroundings first transcript)
    (hnext : ∀ value, Run.Recorded alike surroundings (next value) fun _ => []) :
    Run.Recorded alike surroundings (first >>= next) transcript := by
  have hnothing : ∀ s, first.reading [] (fun _ _ => ([] : List Happening)) s = [] := by
    intro s
    unfold Run.reading
    split <;> rfl
  have hboth := h.bind hnext
  simpa only [hnothing, List.append_nil] using hboth

end Run.Recorded

section

variable {Request : Type} {Answer : Request → Type} {silent : Request → Prop} {alike : σ → σ → Prop}
  {surroundings : σ → World} {answer : (request : Request) → Run σ (Answer request)}
  {during : Request → σ → List Happening}

/-- The transcript of a program accounts for what the program leaves behind, if those of its requests do. -/
theorem Program.becomes
    (h : ∀ request s, (surroundings s).Becomes (during request s) (surroundings (answer request s).2))
    (program : Program Answer α) (s : σ) :
    (surroundings s).Becomes (program.trace answer during s) (surroundings (program.run answer s).2) := by
  induction program generalizing s with
  | done value => exact .refl _
  | panic message => exact .refl _
  | ask request next ih => exact (h request s).bind ih
  | attempt request next ih =>
    have hattempt : (surroundings s).Becomes (during request s)
        (surroundings ((answer request).attempt s).2) := by
      rw [Run.snd_attempt]
      exact h request s
    exact hattempt.bind ih

/-- Programs that are akin run alike and have the same transcript, if their requests repeat themselves and
silent ones are idle. -/
theorem Program.Akin.repeats
    (hloud : ∀ request, ¬ silent request → ∀ {s s'}, alike s s' →
      Echo alike Eq (answer request s) (answer request s') ∧ during request s = during request s')
    (hsilent : ∀ request, silent request → Run.Idles alike (answer request) ∧ ∀ s, during request s = [])
    {program program' : Program Answer α} (h : Akin silent program program') {s s' : σ} (hs : alike s s') :
    Echo alike Eq (program.run answer s) (program'.run answer s') ∧
      program.trace answer during s = program'.trace answer during s' := by
  -- A silent request leads on from a state like the one in which it was made, and nothing is told of it.
  have hskip : ∀ request s, silent request → ∃ reply later, answer request s = (.returned reply, later) ∧
      during request s = [] ∧ (∀ {s'}, alike s s' → alike later s') ∧ ∀ {s'}, alike s' s → alike s' later := by
    intro request s hrequest
    obtain ⟨hidles, hnothing⟩ := hsilent request hrequest
    obtain ⟨reply, later, hran, hlater⟩ := hidles s
    exact ⟨reply, later, hran, hnothing s, hlater⟩
  induction h generalizing s s' with
  | done value => exact ⟨.returned rfl hs, rfl⟩
  | panic message => exact ⟨.panicked hs, rfl⟩
  | @ask request next next' hrequest _ ih =>
    obtain ⟨hran, hduring⟩ := hloud request hrequest hs
    obtain ⟨hrest, htrace⟩ := hran.bind_reading fun reply => ih reply
    exact ⟨hrest, congrArg₂ (· ++ ·) hduring htrace⟩
  | @attempt request next next' hrequest _ ih =>
    obtain ⟨hran, hduring⟩ := hloud request hrequest hs
    obtain ⟨hrest, htrace⟩ := hran.attempt_eq.bind_reading fun reply => ih reply
    exact ⟨hrest, congrArg₂ (· ++ ·) hduring htrace⟩
  | @left request next program' hrequest _ ih =>
    obtain ⟨reply, later, hran, hnothing, hlater, _⟩ := hskip request s hrequest
    rw [Program.run_ask, Run.bind, hran, Program.trace, hnothing, Run.reading_of_returned _ _ hran]
    exact ih reply (hlater hs)
  | @right request program next' hrequest _ ih =>
    obtain ⟨reply, later, hran, hnothing, _, hlater⟩ := hskip request s' hrequest
    rw [Program.run_ask, Run.bind, hran, Program.trace, hnothing, Run.reading_of_returned _ _ hran]
    exact ih reply (hlater hs)
  | @leftAttempt request next program' hrequest _ ih =>
    obtain ⟨reply, later, hran, hnothing, hlater, _⟩ := hskip request s hrequest
    have hran : (answer request).attempt s = (.returned (.ok reply), later) :=
      Run.attempt_eq_returned_iff.mpr hran
    rw [Program.run_attempt, Run.bind, hran, Program.trace, hnothing, Run.reading_of_returned _ _ hran]
    exact ih reply (hlater hs)
  | @rightAttempt request program next' hrequest _ ih =>
    obtain ⟨reply, later, hran, hnothing, _, hlater⟩ := hskip request s' hrequest
    have hran : (answer request).attempt s' = (.returned (.ok reply), later) :=
      Run.attempt_eq_returned_iff.mpr hran
    rw [Program.run_attempt, Run.bind, hran, Program.trace, hnothing, Run.reading_of_returned _ _ hran]
    exact ih reply (hlater hs)

end

/-- The same routing scopes are open in both worlds. -/
def World.Alongside (world world' : World) : Prop := world.scopes = world'.scopes

/-- Two calls on their way are the same, with the same routing scopes open. -/
structure Running.Alongside (running running' : Running) : Prop where
  /-- The call is the same. -/
  invocation_eq : running.invocation = running'.invocation
  /-- The same routing scopes are open. -/
  scopes_eq : running.world.scopes = running'.world.scopes
  /-- The target, as long as it is not taken, depends on its own call only. -/
  target : ∀ terminal, running.invocation.terminal = some terminal →
    ∀ arguments, (terminal arguments).IsContained

/-- What is told of calls by name are their transcripts. -/
def Dialler.Recorded (dial : Dialler) (tell : Teller) : Prop :=
  ∀ request, Run.Recorded World.Alongside id (dial request) (tell request)

namespace Running.Alongside

variable {running running' : Running}

/-- The call may be changed in the same way, except that no other target is put in the place of its own. -/
theorem mapInvocation (h : Alongside running running') (f : Invocation → Invocation)
    (hf : ∀ terminal, (f running.invocation).terminal = some terminal →
      running.invocation.terminal = some terminal) :
    Alongside (running.mapInvocation f) (running'.mapInvocation f) :=
  ⟨congrArg f h.invocation_eq, h.scopes_eq, fun terminal hterminal => h.target terminal (hf terminal hterminal)⟩

/-- Other worlds with the same routing scopes may be put in the place of those. -/
theorem withWorld (h : Alongside running running') {world world' : World} (hworld : world.Alongside world') :
    Alongside { running with world } { running' with world := world' } :=
  ⟨h.invocation_eq, hworld, h.target⟩

/-- What ends alike in the worlds ends alike in the surroundings of the calls. -/
theorem inWorld (h : Alongside running running') {run : Run World α}
    (hran : Echo World.Alongside Eq (run running.world) (run running'.world)) :
    Echo Alongside Eq (Run.inWorld run running) (Run.inWorld run running') :=
  hran.map Alongside ({ running with world := · }) ({ running' with world := · }) fun _ _ => h.withWorld

/-- Log records do not matter. -/
theorem log (h : Alongside running running') (record record' : LogRecord) :
    Alongside (running.log record) (running'.log record') := ⟨h.invocation_eq, h.scopes_eq, h.target⟩

/-- Advices see the same of the call. -/
theorem view_eq (h : Alongside running running') :
    running.invocation.view running.world.scopes = running'.invocation.view running'.world.scopes := by
  rw [h.invocation_eq, h.scopes_eq]

end Running.Alongside

/-- A run in the surroundings of a call repeats itself if it does in worlds. -/
theorem Run.Recorded.inWorld {run : Run World α} {transcript : World → List Happening}
    (h : Run.Recorded World.Alongside id run transcript) :
    Run.Recorded Running.Alongside Running.world (Run.inWorld run) fun running => transcript running.world := by
  refine ⟨fun running => h.becomes running.world, fun hrunning => ?_⟩
  obtain ⟨hran, htranscript⟩ := h.repeats hrunning.scopes_eq
  exact ⟨hrunning.inWorld hran, htranscript⟩

/-- A run in the surroundings of a call is idle if it is in worlds. -/
theorem Run.Idles.inWorld {run : Run World α} (h : Run.Idles World.Alongside run) :
    Run.Idles Running.Alongside (Run.inWorld run) := by
  intro running
  obtain ⟨value, later, hran, hleft, hright⟩ := h running.world
  refine ⟨value, { running with world := later }, ?_, fun hrunning => ?_, fun hrunning => ?_⟩
  · rw [Run.inWorld, hran]
  · exact ⟨hrunning.invocation_eq, hleft hrunning.scopes_eq, hrunning.target⟩
  · exact ⟨hrunning.invocation_eq, hright hrunning.scopes_eq, hrunning.target⟩

section

variable {dial : Dialler} {tell : Teller}

/-- Silent requests are idle, and nothing is told of them. -/
theorem Ambient.idles (dial : Dialler) (tell : Teller) (request : Ambient) (h : request.IsSilent) :
    Run.Idles World.Alongside (request.answer dial) ∧ ∀ world, request.happenings tell world = [] := by
  cases request with
  | note _ => cases h
  | routing => cases h
  | call _ => cases h
  | count _ _ _ => cases h
  | _ => exact ⟨fun world => ⟨_, _, rfl, id, id⟩, fun _ => rfl⟩

/-- What is told of a request that any code may make accounts for what it leaves behind. -/
theorem Ambient.becomes (hdial : dial.Recorded tell) (request : Ambient) (world : World) :
    world.Becomes (request.happenings tell world) (request.answer dial world).2 := by
  cases request with
  | note left => exact ⟨Array.toList_push, rfl⟩
  | call request => exact (hdial request).becomes world
  | count family method succeeded => exact ⟨(List.append_nil _).symm, rfl⟩
  | routing => exact (World.Becomes.refl world).cons rfl rfl
  | _ => exact .quiet rfl rfl

/-- Requests that any code may make and that are not silent repeat themselves. -/
theorem Ambient.repeats (hdial : dial.Recorded tell) (request : Ambient) (h : ¬ request.IsSilent)
    {world world' : World} (hworld : world.Alongside world') :
    Echo World.Alongside Eq (request.answer dial world) (request.answer dial world') ∧
      request.happenings tell world = request.happenings tell world' := by
  cases request with
  | note left => exact ⟨.returned rfl hworld, rfl⟩
  | routing =>
    have hrouting : (world.scopes.current, world.scopes.size) =
        (world'.scopes.current, world'.scopes.size) := by rw [show world.scopes = world'.scopes from hworld]
    obtain ⟨hcurrent, hsize⟩ := Prod.mk.inj hrouting
    refine ⟨.returned hrouting hworld, ?_⟩
    rw [happenings, happenings, hcurrent, hsize]
  | call request => exact (hdial request).repeats hworld
  | count family method succeeded => exact ⟨.returned rfl hworld, rfl⟩
  | _ => exact absurd trivial h

/-- Code of a target that depends on its own call only has its transcript. -/
theorem AmbientProgram.IsContained.recorded (hdial : dial.Recorded tell) {program : AmbientProgram α}
    (h : program.IsContained) : Run.Recorded World.Alongside id (program.run (Ambient.answer dial))
      (program.trace (Ambient.answer dial) (Ambient.happenings tell)) :=
  ⟨program.becomes (Ambient.becomes hdial),
    Program.Akin.repeats (Ambient.repeats hdial) (Ambient.idles dial tell) h⟩

/-- Code of an advice that only sees its call and depends on nothing else has its transcript. -/
theorem ObservingProgram.IsContained.recorded (hdial : dial.Recorded tell) {program : ObservingProgram α}
    (h : program.IsContained) (invocation : Invocation) : Run.Recorded World.Alongside id
      (program.run (Observing.answer dial invocation))
      (program.trace (Observing.answer dial invocation) (Observing.happenings tell invocation)) := by
  refine ⟨program.becomes fun request world => ?_,
    Program.Akin.repeats (fun request hrequest world world' hworld => ?_) (fun request hrequest => ?_) h⟩
  · cases request with
    | ambient request => exact Ambient.becomes hdial request world
    | view => exact (World.Becomes.refl world).cons rfl rfl
    | description => exact (World.Becomes.refl world).cons rfl rfl
  · cases request with
    | ambient request => exact Ambient.repeats hdial request hrequest hworld
    | view =>
      have hview : invocation.view world.scopes = invocation.view world'.scopes := congrArg _ hworld
      exact ⟨.returned hview hworld, congrArg (fun view => [Happening.viewed view]) hview⟩
    | description => exact ⟨.returned rfl hworld, rfl⟩
  · cases request with
    | ambient request => exact Ambient.idles dial tell request hrequest
    | view => cases hrequest
    | description => cases hrequest

/-- Code of an advice that steers its call and depends on nothing else has its transcript, if what it proceeds
to has. -/
theorem SteeringProgram.IsContained.recorded (hdial : dial.Recorded tell) {program : SteeringProgram α}
    (h : program.IsContained) {goOn : Run Running CallResult} {told : Running → List Happening}
    (hgoOn : Run.Recorded Running.Alongside Running.world goOn told) :
    Run.Recorded Running.Alongside Running.world (program.run (Steering.answer dial goOn))
      (program.trace (Steering.answer dial goOn) (Steering.happenings tell told)) := by
  have hasked : Run.Recorded Running.Alongside Running.world goOn fun running => .asked :: told running :=
    hgoOn.telling rfl rfl
  refine ⟨program.becomes fun request running => ?_,
    Program.Akin.repeats (fun request hrequest running running' hrunning => ?_) (fun request hrequest => ?_) h⟩
  · cases request with
    | ambient request => exact Ambient.becomes hdial request running.world
    | proceed => exact hasked.becomes running
    | view => exact (World.Becomes.refl running.world).cons rfl rfl
    | description => exact (World.Becomes.refl running.world).cons rfl rfl
    | setArguments arguments => exact (World.Becomes.refl running.world).cons rfl rfl
    | setRoutingKey key =>
      refine World.Becomes.cons ?_ rfl rfl
      exact .quiet rfl rfl
  · cases request with
    | ambient request =>
      obtain ⟨hran, htold⟩ := Ambient.repeats hdial request hrequest hrunning.scopes_eq
      exact ⟨hrunning.inWorld hran, htold⟩
    | view =>
      exact ⟨.returned hrunning.view_eq hrunning,
        congrArg (fun view => [Happening.viewed view]) hrunning.view_eq⟩
    | description =>
      have hdescription := congrArg Invocation.describe hrunning.invocation_eq
      exact ⟨.returned hdescription hrunning, congrArg (fun text => [Happening.described text]) hdescription⟩
    | setArguments arguments =>
      exact ⟨.returned rfl (hrunning.mapInvocation ({ · with arguments }) fun _ h => h), rfl⟩
    | setRoutingKey key =>
      have hscopes : running.world.scopes.set running.invocation.scope key =
          running'.world.scopes.set running'.invocation.scope key := by
        rw [hrunning.invocation_eq, hrunning.scopes_eq]
      exact ⟨.returned rfl ⟨hrunning.invocation_eq, hscopes, hrunning.target⟩, rfl⟩
    | proceed => exact hasked.repeats hrunning
  · cases request with
    | ambient request =>
      obtain ⟨hidles, hnothing⟩ := Ambient.idles dial tell request hrequest
      exact ⟨hidles.inWorld, fun running => hnothing running.world⟩
    | view => cases hrequest
    | description => cases hrequest
    | setArguments arguments => cases hrequest
    | setRoutingKey key => cases hrequest
    | proceed => cases hrequest

end

end Interception
