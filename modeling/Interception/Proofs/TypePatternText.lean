import Interception.Pattern.TypePattern
import Interception.Proofs.SegmentCover

/-!
# Type patterns and the names they fit

Reading a type pattern and rendering what was read gives the text back: neighbouring globs are separated
by one dot and `..` is written without further dots. Dotted names are taken apart at their dots and can
be put together again. Together with the facts on segments this shows that two patterns overlap exactly
if some type name fits both, and that a pattern without stars and `..` stands for its own text.
-/

namespace Interception.TypePattern

/-- The text of segments. `afterGlob` says that a glob stands right before them. -/
def renderFrom (afterGlob : Bool) : List Segment → List Char
  | [] => []
  | .many :: rest => '.' :: '.' :: renderFrom false rest
  | .one glob :: rest => (if afterGlob then ['.'] else []) ++ glob.chars ++ renderFrom true rest

/-- The text of segments: one dot between neighbouring globs, two for every `..`. -/
def render (segments : List Segment) : List Char := renderFrom false segments

/-- Whether a glob stands at the end of segments that follow a glob or not. -/
def endsWithGlob (afterGlob : Bool) : List Segment → Bool
  | [] => afterGlob
  | .many :: rest => endsWithGlob false rest
  | .one _ :: rest => endsWithGlob true rest

/-- Segments render one after the other. -/
theorem renderFrom_append (afterGlob : Bool) (first second : List Segment) :
    renderFrom afterGlob (first ++ second) =
      renderFrom afterGlob first ++ renderFrom (endsWithGlob afterGlob first) second := by
  induction first generalizing afterGlob with
  | nil => rfl
  | cons segment first ih =>
    cases segment with
    | many => simp only [List.cons_append, renderFrom, endsWithGlob, ih]
    | one glob => simp only [List.cons_append, renderFrom, endsWithGlob, ih, List.append_assoc]

/-- What stands at the end of appended segments is decided by the second of them last. -/
theorem endsWithGlob_append (afterGlob : Bool) (first second : List Segment) :
    endsWithGlob afterGlob (first ++ second) = endsWithGlob (endsWithGlob afterGlob first) second := by
  induction first generalizing afterGlob with
  | nil => rfl
  | cons segment first ih => cases segment <;> exact ih _

/-- A `..` adds two dots. -/
theorem render_append_many (segments : List Segment) :
    render (segments ++ [.many]) = render segments ++ ['.', '.'] :=
  renderFrom_append false segments [.many]

/-- A glob adds its characters, after a dot if a glob stands before it. -/
theorem render_append_one (segments : List Segment) (glob : Glob) :
    render (segments ++ [.one glob]) =
      render segments ++ ((if endsWithGlob false segments then ['.'] else []) ++ glob.chars) := by
  rw [render, renderFrom_append]
  simp only [renderFrom, List.append_nil]
  rfl

/-- Every glob has at least one character, and only characters of identifiers and stars. -/
def GlobsLegal (segments : List Segment) : Prop :=
  ∀ glob, .one glob ∈ segments → glob.chars ≠ [] ∧ ∀ c ∈ glob.chars, isIdentifierChar c = true

/-- The globs of appended segments are legal if those of both parts are. -/
theorem GlobsLegal.append {first second : List Segment} (h₁ : GlobsLegal first)
    (h₂ : GlobsLegal second) : GlobsLegal (first ++ second) := by
  intro glob hm
  rcases List.mem_append.mp hm with hm | hm
  · exact h₁ glob hm
  · exact h₂ glob hm

/-- A `..` has no glob. -/
theorem globsLegal_many : GlobsLegal [.many] := by
  intro glob hm
  exact absurd (List.mem_singleton.mp hm) Segment.noConfusion

/-- The characters of a segment make a legal glob once there are any. -/
theorem globsLegal_one {current : List Char} (hn : current ≠ [])
    (hc : ∀ c ∈ current, isIdentifierChar c = true) : GlobsLegal [.one ⟨current⟩] := by
  intro glob hm
  cases List.mem_singleton.mp hm
  exact ⟨hn, hc⟩

/-- A reader's state that can be reached: the segments that are done, the characters of the segment being
read, and whether a single dot was just read. A dot waits for a segment after a glob, and where no dot
waits and no segment is begun, no glob stands before. -/
structure Reading (done : List Segment) (current : List Char) (afterDot : Bool) : Prop where
  /-- The globs that are done are legal. -/
  legal : GlobsLegal done
  /-- The segment being read has only characters of identifiers. -/
  identifier : ∀ c ∈ current, isIdentifierChar c = true
  /-- No segment is begun after a dot. -/
  waiting : afterDot = true → current = []
  /-- A segment that begins follows a dot exactly if a glob stands before it. -/
  dotted : current = [] → endsWithGlob false done = afterDot

/-- The text that was read so far. -/
def written (done : List Segment) (current : List Char) (afterDot : Bool) : List Char :=
  if current = [] then render done ++ (if afterDot then ['.'] else [])
  else render (done ++ [.one ⟨current⟩])

/-- Ending a segment that has characters adds a glob. -/
theorem closeSegment_of_ne_nil {done : List Segment} {current : List Char} (hn : current ≠ []) :
    closeSegment done current = done ++ [.one ⟨current⟩] := by
  rw [closeSegment, if_neg (by simpa using hn)]

/-- Where no dot waits, ending the segment keeps the text. -/
theorem render_closeSegment (done : List Segment) (current : List Char) :
    render (closeSegment done current) = written done current false := by
  by_cases hn : current = []
  · simp [closeSegment, written, hn]
  · rw [closeSegment_of_ne_nil hn, written, if_neg hn]

/-- Ending the segment keeps the globs legal. -/
theorem Reading.closed {done : List Segment} {current : List Char} {afterDot : Bool}
    (h : Reading done current afterDot) : GlobsLegal (closeSegment done current) := by
  by_cases hn : current = []
  · simpa [closeSegment, hn] using h.legal
  · rw [closeSegment_of_ne_nil hn]
    exact h.legal.append (globsLegal_one hn h.identifier)

/-- At the start nothing was read. -/
theorem reading_start : Reading [] [] false :=
  ⟨fun _ hm => absurd hm List.not_mem_nil, fun _ hm => absurd hm List.not_mem_nil, fun _ => rfl,
    fun _ => rfl⟩

/-- Reading a `..` ends the segment and starts anew. -/
theorem Reading.many {done : List Segment} {current : List Char} {afterDot : Bool}
    (h : Reading done current afterDot) : Reading (closeSegment done current ++ [.many]) [] false :=
  ⟨h.closed.append globsLegal_many, fun _ hm => absurd hm List.not_mem_nil, fun _ => rfl,
    fun _ => by rw [endsWithGlob_append]; rfl⟩

/-- Reading a single dot ends a segment that has characters. -/
theorem Reading.dot {done : List Segment} {current : List Char} {afterDot : Bool}
    (h : Reading done current afterDot) (hn : current ≠ []) :
    Reading (closeSegment done current) [] true :=
  ⟨h.closed, fun _ hm => absurd hm List.not_mem_nil, fun _ => rfl,
    fun _ => by rw [closeSegment_of_ne_nil hn, endsWithGlob_append]; rfl⟩

/-- Reading a character of an identifier goes on with the segment. -/
theorem Reading.identifierChar {done : List Segment} {current : List Char} {afterDot : Bool} {c : Char}
    (h : Reading done current afterDot) (hc : isIdentifierChar c = true) :
    Reading done (current ++ [c]) false := by
  refine ⟨h.legal, ?_, fun he => absurd he Bool.false_ne_true, fun he => ?_⟩
  · intro d hd
    rcases List.mem_append.mp hd with hd | hd
    · exact h.identifier d hd
    · rwa [List.mem_singleton.mp hd]
  · exact absurd he (by simp)

/-- A character of an identifier is added to the text that was read. -/
theorem Reading.written_identifierChar {done : List Segment} {current : List Char} {afterDot : Bool}
    (h : Reading done current afterDot) (c : Char) :
    written done (current ++ [c]) false = written done current afterDot ++ [c] := by
  have hn : current ++ [c] ≠ [] := by simp
  rw [written, if_neg hn, render_append_one, written]
  by_cases hc : current = []
  · rw [if_pos hc, ← h.dotted hc, hc]
    simp
  · rw [if_neg hc, render_append_one]
    simp

/-- What was read renders to the text that was read, and its globs are legal. -/
theorem readSegments_sound {done segments : List Segment} {current chars : List Char} {afterDot : Bool}
    (h : Reading done current afterDot)
    (hread : readSegments done current afterDot chars = .ok segments) :
    GlobsLegal segments ∧ segments ≠ [] ∧
      render segments = written done current afterDot ++ chars := by
  induction done, current, afterDot, chars using readSegments.induct with
  | case1 done current => simp [readSegments] at hread
  | case2 done current afterDot hd closed he =>
    have he' : (closeSegment done current).isEmpty = true := he
    simp [readSegments, hd, he'] at hread
  | case3 done current afterDot hd closed he =>
    have he' : ¬ (closeSegment done current).isEmpty = true := he
    simp only [readSegments, hd, he', Bool.false_eq_true, reduceIte, Except.ok.injEq] at hread
    subst hread
    have hf : afterDot = false := by simpa using hd
    refine ⟨h.closed, by simpa using he', ?_⟩
    rw [render_closeSegment, hf, List.append_nil]
  | case4 done current afterDot rest hd =>
    rw [readSegments, if_pos hd] at hread
    cases hread
  | case5 done current afterDot rest hd closed he =>
    have he' : (closeSegment done current).getLast? = some .many := he
    rw [readSegments, if_neg hd] at hread
    simp only [he', reduceIte] at hread
    cases hread
  | case6 done current afterDot rest hd closed he ih =>
    have he' : ¬ (closeSegment done current).getLast? = some .many := he
    rw [readSegments, if_neg hd] at hread
    simp only [he', reduceIte] at hread
    obtain ⟨hl, hn, hr⟩ := ih h.many hread
    have hf : afterDot = false := by
      cases hb : afterDot with
      | false => rfl
      | true => exact absurd (by simp [h.waiting hb, hb]) hd
    refine ⟨hl, hn, ?_⟩
    rw [hr, written, if_pos rfl, render_append_many, render_closeSegment, hf]
    simp
  | case7 done current afterDot rest hr hd =>
    rw [readSegments.eq_def] at hread
    simp [hd] at hread
  | case8 done current afterDot rest hr hd ih =>
    have hn : current ≠ [] := by simpa using hd
    have hf : afterDot = false := by
      cases hb : afterDot with
      | false => rfl
      | true => exact absurd (h.waiting hb) hn
    rw [readSegments.eq_def] at hread
    simp only [hd, Bool.false_eq_true, reduceIte] at hread
    obtain ⟨hl, hs, hr⟩ := ih (h.dot hn) hread
    refine ⟨hl, hs, ?_⟩
    rw [hr, written, if_pos rfl, render_closeSegment, hf]
    simp
  | case9 done current afterDot c rest hr hd hc ih =>
    rw [readSegments.eq_def] at hread
    simp only [hc, reduceIte] at hread
    obtain ⟨hl, hs, hr⟩ := ih (h.identifierChar hc) hread
    refine ⟨hl, hs, ?_⟩
    rw [hr, h.written_identifierChar, List.append_assoc]
    rfl
  | case10 done current afterDot c rest hr hd hc =>
    rw [readSegments.eq_def] at hread
    simp [hc] at hread

/-- The pattern was read from some text. -/
def IsParsed (pattern : TypePattern) : Prop := ∃ text, parse text = .ok pattern

/-- A pattern that was read has segments, its globs are legal, and its text is the text of its
segments. -/
theorem IsParsed.sound {pattern : TypePattern} (h : pattern.IsParsed) :
    GlobsLegal pattern.segments ∧ pattern.segments ≠ [] ∧
      render pattern.segments = pattern.text.toList := by
  obtain ⟨text, h⟩ := h
  unfold parse at h
  cases hread : readSegments [] [] false (Text.trim text) with
  | error fault => simp [hread] at h
  | ok segments =>
    simp only [hread, Except.ok.injEq] at h
    subst h
    obtain ⟨hl, hn, hr⟩ := readSegments_sound reading_start hread
    refine ⟨hl, hn, ?_⟩
    rw [hr, String.toList_ofList]
    rfl

/-- No dot belongs to an identifier. -/
theorem isIdentifierChar_dot : isIdentifierChar '.' = false := by decide

/-- The parts of a name are at least one. -/
theorem nameParts_ne_nil (name : List Char) : nameParts name ≠ [] := by
  cases name with
  | nil => exact List.cons_ne_nil _ _
  | cons c rest =>
    rw [nameParts]
    split
    · exact List.cons_ne_nil _ _
    · split <;> exact List.cons_ne_nil _ _

/-- A text without dots is its only part. -/
theorem nameParts_of_not_mem {part : List Char} (h : '.' ∉ part) : nameParts part = [part] := by
  induction part with
  | nil => rfl
  | cons c part ih =>
    have hc : c ≠ '.' := fun he => h (he ▸ List.mem_cons_self)
    rw [nameParts, ih fun hm => h (List.mem_cons_of_mem _ hm)]
    simp [hc]

/-- The text before the first dot is the first part. -/
theorem nameParts_append_dot {part : List Char} (h : '.' ∉ part) (rest : List Char) :
    nameParts (part ++ '.' :: rest) = part :: nameParts rest := by
  induction part with
  | nil =>
    rw [List.nil_append, nameParts]
    cases hr : nameParts rest with
    | nil => exact absurd hr (nameParts_ne_nil rest)
    | cons first parts => simp
  | cons c part ih =>
    have hc : c ≠ '.' := fun he => h (he ▸ List.mem_cons_self)
    rw [List.cons_append, nameParts, ih fun hm => h (List.mem_cons_of_mem _ hm)]
    simp [hc]

/-- The dotted name with the given parts. -/
def joinParts : List (List Char) → List Char
  | [] => []
  | [part] => part
  | part :: next :: rest => part ++ '.' :: joinParts (next :: rest)

/-- A name put together from parts without dots has these parts. -/
theorem nameParts_joinParts {parts : List (List Char)} (hn : parts ≠ [])
    (hd : ∀ part ∈ parts, '.' ∉ part) : nameParts (joinParts parts) = parts := by
  induction parts with
  | nil => exact absurd rfl hn
  | cons part rest ih =>
    have hpart := hd part List.mem_cons_self
    cases rest with
    | nil => exact nameParts_of_not_mem hpart
    | cons next rest =>
      rw [joinParts, nameParts_append_dot hpart,
        ih (List.cons_ne_nil _ _) fun p hp => hd p (List.mem_cons_of_mem _ hp)]

/-- Every character of a name put together is a dot or belongs to a part. -/
theorem mem_joinParts {parts : List (List Char)} {c : Char} (h : c ∈ joinParts parts) :
    c = '.' ∨ ∃ part ∈ parts, c ∈ part := by
  induction parts with
  | nil => exact absurd h List.not_mem_nil
  | cons part rest ih =>
    cases rest with
    | nil => exact .inr ⟨part, List.mem_cons_self, h⟩
    | cons next rest =>
      rw [joinParts, List.mem_append, List.mem_cons] at h
      rcases h with h | h | h
      · exact .inr ⟨part, List.mem_cons_self, h⟩
      · exact .inl h
      · rcases ih h with h | ⟨p, hp, hc⟩
        · exact .inl h
        · exact .inr ⟨p, List.mem_cons_of_mem _ hp, hc⟩

/-- A pattern accepts the names whose parts its segments cover. -/
theorem accepts_iff (pattern : TypePattern) (name : String) :
    pattern.accepts name = true ↔ Segment.Covers pattern.segments (nameParts name.toList) :=
  Segment.coverAll_iff _ _

/-- Patterns that accept the same name overlap. -/
theorem overlaps_of_accepts {a b : TypePattern} {name : String} (ha : a.accepts name = true)
    (hb : b.accepts name = true) : a.overlaps b = true :=
  Segment.overlapAll_of_common ((accepts_iff a name).mp ha) ((accepts_iff b name).mp hb)

/-- Patterns that overlap accept the same name, made of dots and characters of identifiers. -/
theorem exists_name_of_overlaps {a b : TypePattern} (ha : a.IsParsed) (hb : b.IsParsed)
    (h : a.overlaps b = true) :
    ∃ name : String, a.accepts name = true ∧ b.accepts name = true ∧
      ∀ c ∈ name.toList, c ≠ '*' ∧ (c = '.' ∨ isIdentifierChar c = true) := by
  obtain ⟨hla, hna, _⟩ := ha.sound
  obtain ⟨hlb, hnb, _⟩ := hb.sound
  obtain ⟨parts, hn, hca, hcb, hp⟩ := Segment.exists_common_ne_nil h
    (fun glob hm => (hla glob hm).2) (fun glob hm => (hlb glob hm).2) hna hnb
  have hd : ∀ part ∈ parts, '.' ∉ part := by
    intro part hm hdot
    have hi : isIdentifierChar '.' = true := (hp part hm '.' hdot).2
    rw [isIdentifierChar_dot] at hi
    exact Bool.false_ne_true hi
  have hparts : nameParts (String.ofList (joinParts parts)).toList = parts := by
    rw [String.toList_ofList, nameParts_joinParts hn hd]
  refine ⟨String.ofList (joinParts parts), ?_, ?_, ?_⟩
  · rwa [accepts_iff, hparts]
  · rwa [accepts_iff, hparts]
  · intro c hc
    rw [String.toList_ofList] at hc
    rcases mem_joinParts hc with rfl | ⟨part, hm, hc⟩
    · exact ⟨by decide, .inl rfl⟩
    · exact ⟨(hp part hm c hc).1, .inr (hp part hm c hc).2⟩

/-- A `..` among the segments shows as two dots in a row. -/
theorem dots_infix_of_mem {segments : List Segment} (afterGlob : Bool) (h : .many ∈ segments) :
    ['.', '.'] <:+: renderFrom afterGlob segments := by
  induction segments generalizing afterGlob with
  | nil => exact absurd h List.not_mem_nil
  | cons segment rest ih =>
    cases segment with
    | many => exact ⟨[], renderFrom false rest, rfl⟩
    | one glob =>
      have hrest : .many ∈ rest := by simpa using h
      exact (ih true hrest).trans (List.suffix_append _ _).isInfix

/-- The characters of a glob show in the text. -/
theorem mem_renderFrom {segments : List Segment} {glob : Glob} {c : Char} (afterGlob : Bool)
    (h : .one glob ∈ segments) (hc : c ∈ glob.chars) : c ∈ renderFrom afterGlob segments := by
  induction segments generalizing afterGlob with
  | nil => exact absurd h List.not_mem_nil
  | cons segment rest ih =>
    cases segment with
    | many =>
      have hrest : .one glob ∈ rest := by simpa using h
      exact List.mem_cons_of_mem _ (List.mem_cons_of_mem _ (ih false hrest))
    | one first =>
      rw [renderFrom, List.mem_append, List.mem_append]
      rcases List.mem_cons.mp h with he | hrest
      · cases he
        exact .inl (.inr hc)
      · exact .inr (ih true hrest)

/-- Segments without `..` are globs. -/
theorem exists_globs {segments : List Segment} (h : .many ∉ segments) :
    ∃ parts : List (List Char), segments = parts.map fun part => .one ⟨part⟩ := by
  induction segments with
  | nil => exact ⟨[], rfl⟩
  | cons segment rest ih =>
    cases segment with
    | many => exact absurd List.mem_cons_self h
    | one glob =>
      obtain ⟨parts, rfl⟩ := ih fun hm => h (List.mem_cons_of_mem _ hm)
      exact ⟨glob.chars :: parts, rfl⟩

/-- Globs in a row render as the dotted name of their characters. -/
theorem render_globs (part : List Char) (parts : List (List Char)) :
    render ((part :: parts).map fun part => .one ⟨part⟩) = joinParts (part :: parts) := by
  induction parts generalizing part with
  | nil => simp [render, renderFrom, joinParts]
  | cons next parts ih =>
    rw [joinParts, ← ih next]
    simp [render, renderFrom]

/-- Globs without stars cover their own characters alone. -/
theorem covers_literal_iff {parts names : List (List Char)} (h : ∀ part ∈ parts, '*' ∉ part) :
    Segment.Covers (parts.map fun part => .one ⟨part⟩) names ↔ names = parts := by
  induction parts generalizing names with
  | nil => exact Segment.covers_nil_iff
  | cons part parts ih =>
    have hpart := h part List.mem_cons_self
    have hrest : ∀ p ∈ parts, '*' ∉ p := fun p hp => h p (List.mem_cons_of_mem _ hp)
    rw [List.map_cons, Segment.covers_one_iff]
    constructor
    · rintro ⟨first, left, rfl, hfirst, hleft⟩
      rw [(Glob.fits_literal_iff hpart).mp hfirst, (ih hrest).mp hleft]
    · rintro rfl
      exact ⟨part, parts, rfl, (Glob.fits_literal_iff hpart).mpr rfl, (ih hrest).mpr rfl⟩

/-- A pattern whose text holds neither a star nor `..` has the parts of its text for segments. -/
theorem IsParsed.segments_of_literal {pattern : TypePattern} (h : pattern.IsParsed)
    (hstar : '*' ∉ pattern.text.toList) (hdots : ¬ ['.', '.'] <:+: pattern.text.toList) :
    (∀ part ∈ nameParts pattern.text.toList, '*' ∉ part) ∧
      pattern.segments = (nameParts pattern.text.toList).map fun part => .one ⟨part⟩ := by
  obtain ⟨hl, hn, hr⟩ := h.sound
  have hmany : .many ∉ pattern.segments := fun hm => hdots (hr ▸ dots_infix_of_mem false hm)
  obtain ⟨parts, hparts⟩ := exists_globs hmany
  have hchars : ∀ part ∈ parts, ∀ c ∈ part, isIdentifierChar c = true ∧ c ∈ pattern.text.toList := by
    intro part hm c hc
    have hone : .one ⟨part⟩ ∈ pattern.segments := by
      rw [hparts]
      exact List.mem_map_of_mem hm
    exact ⟨(hl _ hone).2 c hc, hr ▸ mem_renderFrom false hone hc⟩
  have hdot : ∀ part ∈ parts, '.' ∉ part := by
    intro part hm hc
    have hi := (hchars part hm '.' hc).1
    rw [isIdentifierChar_dot] at hi
    exact Bool.false_ne_true hi
  have hname : nameParts pattern.text.toList = parts := by
    cases parts with
    | nil => exact absurd hparts hn
    | cons part parts =>
      rw [← hr, hparts, render_globs, nameParts_joinParts (List.cons_ne_nil _ _) hdot]
  rw [hname]
  exact ⟨fun part hm hc => hstar (hchars part hm '*' hc).2, hparts⟩

/-- A pattern without star and `..` overlaps the patterns that accept its text. -/
theorem overlaps_literal_iff {a b : TypePattern} (hb : b.IsParsed) (hstar : '*' ∉ b.text.toList)
    (hdots : ¬ ['.', '.'] <:+: b.text.toList) :
    a.overlaps b = true ↔ a.accepts b.text = true := by
  obtain ⟨hparts, hsegments⟩ := hb.segments_of_literal hstar hdots
  have hb' : b.accepts b.text = true := by
    rw [accepts_iff, hsegments, covers_literal_iff hparts]
  constructor
  · intro h
    have hover : ∀ segments, Segment.Over (fun _ => True) segments := fun _ _ _ _ _ => trivial
    obtain ⟨parts, hca, hcb, _⟩ := Segment.exists_common_of_overlapAll h (hover _) (hover _)
    rw [hsegments, covers_literal_iff hparts] at hcb
    rwa [accepts_iff, ← hcb]
  · intro h
    exact overlaps_of_accepts h hb'

/-- Two patterns that were read overlap exactly if some type name fits both, and then such a name can be
made of dots and characters of identifiers. So it does not matter which of the two is asked, and a
pattern with neither star nor `..` overlaps exactly the patterns that accept its text. -/
theorem overlaps_iff_exists_name {a b : TypePattern} (ha : a.IsParsed) (hb : b.IsParsed) :
    (a.overlaps b = true ↔ ∃ name : String, a.accepts name = true ∧ b.accepts name = true) ∧
      (a.overlaps b = true → ∃ name : String, a.accepts name = true ∧ b.accepts name = true ∧
        ∀ c ∈ name.toList, c ≠ '*' ∧ (c = '.' ∨ isIdentifierChar c = true)) ∧
      a.overlaps b = b.overlaps a ∧
      ('*' ∉ b.text.toList → ¬ ['.', '.'] <:+: b.text.toList → a.overlaps b = a.accepts b.text) := by
  have hiff : ∀ {a b : TypePattern}, a.IsParsed → b.IsParsed →
      (a.overlaps b = true ↔ ∃ name : String, a.accepts name = true ∧ b.accepts name = true) := by
    intro a b ha hb
    constructor
    · intro h
      obtain ⟨name, hna, hnb, _⟩ := exists_name_of_overlaps ha hb h
      exact ⟨name, hna, hnb⟩
    · rintro ⟨name, hna, hnb⟩
      exact overlaps_of_accepts hna hnb
  refine ⟨hiff ha hb, exists_name_of_overlaps ha hb, ?_, fun hstar hdots => ?_⟩
  · rw [Bool.eq_iff_iff, hiff ha hb, hiff hb ha]
    simp only [and_comm]
  · rw [Bool.eq_iff_iff]
    exact overlaps_literal_iff hb hstar hdots

/-- The pattern `com..*Impl` overlaps `com.x.UserImpl`, which it accepts as a name. -/
theorem overlaps_iff_exists_name_userImpl :
    ∃ a b : TypePattern, parse "com..*Impl".toList = .ok a ∧ parse "com.x.UserImpl".toList = .ok b ∧
      '*' ∉ b.text.toList ∧ ¬ ['.', '.'] <:+: b.text.toList ∧ a.overlaps b = b.overlaps a ∧
      a.overlaps b = a.accepts b.text ∧ a.overlaps b = true ∧
      ∃ name : String, a.accepts name = true ∧ b.accepts name = true := by
  let a : TypePattern := ⟨"com..*Impl", [.one ⟨"com".toList⟩, .many, .one ⟨"*Impl".toList⟩]⟩
  let b : TypePattern :=
    ⟨"com.x.UserImpl", [.one ⟨"com".toList⟩, .one ⟨"x".toList⟩, .one ⟨"UserImpl".toList⟩]⟩
  have ha : parse "com..*Impl".toList = .ok a := rfl
  have hb : parse "com.x.UserImpl".toList = .ok b := rfl
  have hstar : '*' ∉ b.text.toList := by decide
  have hdots : ¬ ['.', '.'] <:+: b.text.toList := by decide +kernel
  have hparts : nameParts b.text.toList = ["com".toList, "x".toList, "UserImpl".toList] := by
    decide +kernel
  have hfirst : Glob.Fits "com".toList "com".toList := (Glob.fits_literal_iff (by decide)).mpr rfl
  have hlast : Glob.Fits "*Impl".toList "UserImpl".toList :=
    .star "User".toList ((Glob.fits_literal_iff (by decide)).mpr rfl)
  have haccepts : a.accepts b.text = true := by
    rw [accepts_iff, hparts]
    exact .one hfirst (.many ["x".toList] (.one hlast .nil))
  obtain ⟨hiff, _, hsymm, hliteral⟩ := overlaps_iff_exists_name ⟨_, ha⟩ ⟨_, hb⟩
  have htrue := (hliteral hstar hdots).trans haccepts
  exact ⟨a, b, ha, hb, hstar, hdots, hsymm, hliteral hstar hdots, htrue, hiff.mp htrue⟩

end Interception.TypePattern
