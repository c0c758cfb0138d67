import Interception.Pattern.Glob

/-!
# What a glob fits

A text fits a glob when it is the glob with some text in place of every star. The scan that comes back
only to the star seen last decides this relation: whatever earlier stars would have to cover in another
match can be given to the last one. Overlap of two globs is decided as well, and a common text can be
chosen without stars, out of the characters of the two patterns.
-/

namespace Interception.Glob

/-- The text is the pattern with some text in place of every star. -/
inductive Fits : (pattern text : List Char) → Prop where
  /-- Nothing is left on either side. -/
  | nil : Fits [] []
  /-- A star covers some text, the empty one included. -/
  | star (covered : List Char) {pattern text : List Char} :
    Fits pattern text → Fits ('*' :: pattern) (covered ++ text)
  /-- Every other character stands for itself. -/
  | char {c : Char} {pattern text : List Char} :
    c ≠ '*' → Fits pattern text → Fits (c :: pattern) (c :: text)

/-- The empty pattern fits the empty text alone. -/
theorem fits_nil_iff {text : List Char} : Fits [] text ↔ text = [] := by
  constructor
  · intro h
    cases h
    rfl
  · rintro rfl
    exact .nil

/-- A leading star takes some text away and leaves the rest to the remaining pattern. -/
theorem fits_star_iff {pattern text : List Char} :
    Fits ('*' :: pattern) text ↔ ∃ covered rest, text = covered ++ rest ∧ Fits pattern rest := by
  constructor
  · intro h
    cases h with
    | star covered h => exact ⟨covered, _, rfl, h⟩
    | char hc h => exact absurd rfl hc
  · rintro ⟨covered, rest, rfl, h⟩
    exact .star covered h

/-- A leading character other than a star is the first of the text. -/
theorem fits_char_iff {c : Char} {pattern text : List Char} (hc : c ≠ '*') :
    Fits (c :: pattern) text ↔ ∃ rest, text = c :: rest ∧ Fits pattern rest := by
  constructor
  · intro h
    cases h with
    | star covered h => exact absurd rfl hc
    | char _ h => exact ⟨_, rfl, h⟩
  · rintro ⟨rest, rfl, h⟩
    exact .char hc h

/-- A pattern in two parts fits the texts in two parts. -/
theorem fits_append_iff {first second text : List Char} :
    Fits (first ++ second) text ↔ ∃ u v, text = u ++ v ∧ Fits first u ∧ Fits second v := by
  induction first generalizing text with
  | nil =>
    constructor
    · intro h
      exact ⟨[], text, rfl, .nil, h⟩
    · rintro ⟨u, v, rfl, hu, hv⟩
      rwa [fits_nil_iff.mp hu]
  | cons c first ih =>
    rw [List.cons_append]
    by_cases hc : c = '*'
    · subst hc
      constructor
      · intro h
        obtain ⟨covered, rest, rfl, hrest⟩ := fits_star_iff.mp h
        obtain ⟨u, v, rfl, hu, hv⟩ := ih.mp hrest
        exact ⟨covered ++ u, v, (List.append_assoc _ _ _).symm, .star covered hu, hv⟩
      · rintro ⟨u, v, rfl, hu, hv⟩
        obtain ⟨covered, rest, rfl, hrest⟩ := fits_star_iff.mp hu
        rw [List.append_assoc]
        exact .star covered (ih.mpr ⟨rest, v, rfl, hrest, hv⟩)
    · constructor
      · intro h
        obtain ⟨rest, rfl, hrest⟩ := (fits_char_iff hc).mp h
        obtain ⟨u, v, rfl, hu, hv⟩ := ih.mp hrest
        exact ⟨c :: u, v, rfl, .char hc hu, hv⟩
      · rintro ⟨u, v, rfl, hu, hv⟩
        obtain ⟨rest, rfl, hrest⟩ := (fits_char_iff hc).mp hu
        exact .char hc (ih.mpr ⟨rest, v, rfl, hrest, hv⟩)

/-- A pattern without stars fits itself alone. -/
theorem fits_literal_iff {literal text : List Char} (hl : '*' ∉ literal) :
    Fits literal text ↔ text = literal := by
  induction literal generalizing text with
  | nil => exact fits_nil_iff
  | cons c literal ih =>
    have hc : c ≠ '*' := fun h => hl (h ▸ List.mem_cons_self)
    have hrest : '*' ∉ literal := fun h => hl (List.mem_cons_of_mem _ h)
    rw [fits_char_iff hc]
    constructor
    · rintro ⟨rest, rfl, h⟩
      rw [(ih hrest).mp h]
    · rintro rfl
      exact ⟨literal, rfl, (ih hrest).mpr rfl⟩

/-- Every text fits itself: its stars cover themselves. -/
theorem fits_self (text : List Char) : Fits text text := by
  induction text with
  | nil => exact .nil
  | cons c text ih =>
    by_cases hc : c = '*'
    · rw [hc]
      exact .star ['*'] ih
    · exact .char hc ih

/-- Literal text in front of pattern and text plays no part. -/
theorem fits_literal_append_iff {literal pattern text : List Char} (hl : '*' ∉ literal) :
    Fits (literal ++ pattern) (literal ++ text) ↔ Fits pattern text := by
  rw [fits_append_iff]
  constructor
  · rintro ⟨u, v, he, hu, hv⟩
    obtain rfl := (fits_literal_iff hl).mp hu
    rwa [List.append_cancel_left he]
  · intro h
    exact ⟨literal, text, rfl, (fits_literal_iff hl).mpr rfl, h⟩

/-- A leading star can cover more text. -/
theorem Fits.absorb {pattern text : List Char} (h : Fits ('*' :: pattern) text)
    (more : List Char) : Fits ('*' :: pattern) (more ++ text) := by
  obtain ⟨covered, rest, rfl, hrest⟩ := fits_star_iff.mp h
  rw [← List.append_assoc]
  exact .star (more ++ covered) hrest

/-- A leading star covers nothing, or the first character and perhaps more. -/
theorem fits_star_cons_iff {pattern text : List Char} {c : Char} :
    Fits ('*' :: pattern) (c :: text) ↔ Fits pattern (c :: text) ∨ Fits ('*' :: pattern) text := by
  constructor
  · intro h
    obtain ⟨covered, rest, he, hrest⟩ := fits_star_iff.mp h
    cases covered with
    | nil => exact .inl (by rwa [he])
    | cons d covered =>
      have ht : text = covered ++ rest := (List.cons.inj he).2
      exact .inr (ht ▸ .star covered hrest)
  · rintro (h | h)
    · exact .star [] h
    · exact h.absorb [c]

/-- The empty text fits the patterns that consist of stars. -/
theorem fits_empty_iff {pattern : List Char} :
    Fits pattern [] ↔ pattern.all (· == '*') = true := by
  induction pattern with
  | nil => simp [fits_nil_iff]
  | cons c pattern ih =>
    by_cases hc : c = '*'
    · subst hc
      rw [List.all_cons, beq_self_eq_true, Bool.true_and, ← ih]
      constructor
      · intro h
        obtain ⟨covered, rest, he, hrest⟩ := fits_star_iff.mp h
        rwa [(List.append_eq_nil_iff.mp he.symm).2] at hrest
      · exact .star []
    · simp [fits_char_iff hc, hc]

/-- A pattern fits what is left of it when every star is struck out. -/
theorem fits_strike (pattern : List Char) : Fits pattern (pattern.filter (· != '*')) := by
  induction pattern with
  | nil => exact .nil
  | cons c pattern ih =>
    by_cases hc : c = '*'
    · subst hc
      simpa using Fits.star [] ih
    · simpa [hc] using Fits.char hc ih

/-- A text with literal text in front fits a star, the same literal text and another star exactly if the
rest fits from the second star on. So a match never has to come back beyond the star seen last. -/
theorem fits_second_star_iff {literal pattern text : List Char} (hl : '*' ∉ literal) :
    Fits ('*' :: (literal ++ '*' :: pattern)) (literal ++ text) ↔ Fits ('*' :: pattern) text := by
  constructor
  · intro h
    obtain ⟨covered, rest, he, hrest⟩ := fits_star_iff.mp h
    obtain ⟨u, v, rfl, hu, hv⟩ := fits_append_iff.mp hrest
    rw [(fits_literal_iff hl).mp hu] at he
    have hlen : v.length ≤ text.length := by
      have := congrArg List.length he
      simp only [List.length_append] at this
      omega
    have hv₁ : v <:+ literal ++ text :=
      he ▸ (List.suffix_append literal v).trans (List.suffix_append covered _)
    obtain ⟨more, rfl⟩ := List.suffix_of_suffix_length_le hv₁ (List.suffix_append _ _) hlen
    exact hv.absorb more
  · intro h
    exact .star [] ((fits_literal_append_iff hl).mpr h)

/-- After a mismatch the star seen last has to cover one character more. -/
theorem fits_star_of_mismatch_iff {resume mark : List Char} {m : Char}
    (hn : ¬ Fits resume (m :: mark)) : Fits ('*' :: resume) (m :: mark) ↔ Fits ('*' :: resume) mark := by
  rw [fits_star_cons_iff]
  exact ⟨fun h => h.resolve_left hn, .inr⟩

/-- Literal text followed by one more character that is no star is literal text. -/
theorem star_not_mem_concat {literal : List Char} {c : Char} (hl : '*' ∉ literal) (hc : c ≠ '*') :
    '*' ∉ literal ++ [c] := by
  simp only [List.mem_append, List.mem_singleton, not_or]
  exact ⟨hl, hc.symm⟩

/-- Where the text ends after literal text, the rest of the pattern has to fit the empty text. -/
theorem fits_literal_end_iff {literal pattern : List Char} (hl : '*' ∉ literal) :
    Fits (literal ++ pattern) literal ↔ Fits pattern [] := by
  have h := @fits_literal_append_iff literal pattern [] hl
  rwa [List.append_nil] at h

/-- Where the text ends after literal text, it is of no use that a star before it may cover more. -/
theorem fits_star_literal_end_iff {literal pattern : List Char} (hl : '*' ∉ literal) :
    Fits ('*' :: (literal ++ pattern)) literal ↔ Fits pattern [] := by
  constructor
  · intro h
    obtain ⟨covered, rest, he, hrest⟩ := fits_star_iff.mp h
    obtain ⟨u, v, rfl, hu, hv⟩ := fits_append_iff.mp hrest
    obtain rfl := (fits_literal_iff hl).mp hu
    have hv₀ : v = [] := by
      have := congrArg List.length he
      simp only [List.length_append] at this
      exact List.length_eq_zero_iff.mp (by omega)
    rwa [hv₀] at hv
  · exact fun h => .star [] ((fits_literal_end_iff hl).mpr h)

/-- Where the pattern goes on after literal text with neither a star nor the next character of the text, or
does not go on at all, the text does not fit. -/
theorem not_fits_of_mismatch {literal pattern text : List Char} {c : Char} (hl : '*' ∉ literal)
    (hstar : pattern.head? ≠ some '*') (hchar : pattern.head? ≠ some c) :
    ¬ Fits (literal ++ pattern) (literal ++ c :: text) := by
  rw [fits_literal_append_iff hl]
  cases pattern with
  | nil =>
    rw [fits_nil_iff]
    exact List.cons_ne_nil _ _
  | cons d pattern =>
    have hd : d ≠ '*' := fun h => hstar (congrArg some h)
    rw [fits_char_iff hd]
    rintro ⟨rest, he, _⟩
    exact hchar (congrArg some (List.cons.inj he).1.symm)

/-- Continuing after a star decides whether the star and the pattern after it fit the text from the
mark on. `literal` is the star-free text that was matched since the mark. -/
theorem matchAfterStar_iff (resume mark pattern text : List Char) (h : text.length ≤ mark.length)
    (literal : List Char) (hl : '*' ∉ literal) (hresume : resume = literal ++ pattern)
    (hmark : mark = literal ++ text) :
    matchAfterStar resume mark pattern text h = true ↔ Fits ('*' :: resume) mark := by
  induction resume, mark, pattern, text, h using matchAfterStar.induct generalizing literal with
  | case1 resume mark pattern h _ =>
    rw [List.append_nil] at hmark
    subst hresume hmark
    rw [matchAfterStar, ← fits_empty_iff, fits_star_literal_end_iff hl]
  | case2 resume mark c text pattern h _ ih =>
    subst hresume hmark
    rw [matchAfterStar, ih [] List.not_mem_nil rfl rfl, fits_second_star_iff hl]
  | case3 resume mark text d pattern hd h _ ih =>
    rw [matchAfterStar.eq_def]
    simp only [↓reduceIte]
    exact ih (literal ++ [d]) (star_not_mem_concat hl hd) (by simp [hresume]) (by simp [hmark])
  | case4 resume c text d pattern hd hne h _ => exact absurd h (by simp)
  | case5 resume c text d pattern hd hne m mark h _ ih =>
    have hn : ¬ Fits resume (m :: mark) := by
      rw [hresume, hmark]
      exact not_fits_of_mismatch hl (fun h => hd (Option.some.inj h)) fun h => hne (Option.some.inj h)
    rw [matchAfterStar.eq_def]
    simp only [hne, ↓reduceIte]
    rw [ih [] List.not_mem_nil rfl rfl, fits_star_of_mismatch_iff hn]
  | case6 resume c text h _ => exact absurd h (by simp)
  | case7 resume c text m mark h _ ih =>
    have hn : ¬ Fits resume (m :: mark) := by
      rw [hresume, hmark]
      exact not_fits_of_mismatch hl nofun nofun
    rw [matchAfterStar.eq_def]
    simp only
    rw [ih [] List.not_mem_nil rfl rfl, fits_star_of_mismatch_iff hn]

/-- The scan from the left decides whether the text fits the pattern. -/
theorem matchText_iff (pattern text : List Char) : matchText pattern text = true ↔ Fits pattern text := by
  induction pattern, text using matchText.induct with
  | case1 pattern => rw [matchText.eq_def, fits_empty_iff]
  | case2 pattern c text =>
    rw [matchText.eq_def]
    exact matchAfterStar_iff _ _ _ _ _ [] List.not_mem_nil rfl rfl
  | case3 d pattern c text hd ih =>
    rw [fits_char_iff hd, matchText.eq_def]
    simp only [Bool.and_eq_true, beq_iff_eq, ih]
    constructor
    · rintro ⟨rfl, h⟩
      exact ⟨text, rfl, h⟩
    · rintro ⟨rest, he, h⟩
      cases he
      exact ⟨rfl, h⟩
  | case4 c text => simp [matchText, fits_nil_iff]

/-- A glob accepts the texts that fit it. -/
theorem accepts_iff (glob : Glob) (text : List Char) : glob.accepts text = true ↔ Fits glob.chars text :=
  matchText_iff _ _

/-- A glob holds a star exactly if a star is among its characters. -/
theorem hasStar_iff (glob : Glob) : glob.hasStar = true ↔ '*' ∈ glob.chars := by
  simp [hasStar]

/-- A glob without stars has none among its characters. -/
theorem not_mem_of_hasStar_false {glob : Glob} (h : glob.hasStar = false) : '*' ∉ glob.chars := by
  rw [← hasStar_iff, h]
  exact Bool.false_ne_true

/-- The characters before the first star are literal characters of the glob. -/
theorem leading_literal {glob : Glob} {c : Char} (h : c ∈ glob.leading) :
    c ≠ '*' ∧ c ∈ glob.chars := by
  have hc := List.all_eq_true.mp List.all_takeWhile c h
  exact ⟨by simpa using hc, (List.takeWhile_prefix _).subset h⟩

/-- A glob with a star is its leading text, a star and some rest. -/
theorem exists_leading {glob : Glob} (h : glob.hasStar = true) :
    ∃ rest, glob.chars = glob.leading ++ '*' :: rest := by
  obtain ⟨before, rest, he, hn⟩ := List.eq_append_cons_of_mem ((hasStar_iff glob).mp h)
  have hp : ∀ c ∈ before, (c != '*') = true := fun c hc => by
    simpa using fun hs : c = '*' => hn (hs ▸ hc)
  refine ⟨rest, ?_⟩
  rw [leading, he, List.takeWhile_append_of_pos hp]
  simp

/-- The characters after the last star are the trailing text. -/
theorem trailing_eq {glob : Glob} {before rest : List Char}
    (he : glob.chars = before ++ '*' :: rest) (hn : '*' ∉ rest) : glob.trailing = rest := by
  have hp : ∀ c ∈ rest.reverse, (c != '*') = true := fun c hc => by
    simpa using fun hs : c = '*' => hn (hs ▸ List.mem_reverse.mp hc)
  have hr : glob.chars.reverse = rest.reverse ++ '*' :: before.reverse := by
    rw [he]
    simp
  rw [trailing, hr, List.takeWhile_append_of_pos hp]
  simp

/-- A list with a star has a last star. -/
theorem exists_last_star {chars : List Char} (h : '*' ∈ chars) :
    ∃ before rest, chars = before ++ '*' :: rest ∧ '*' ∉ rest := by
  obtain ⟨u, v, he, hn⟩ := List.eq_append_cons_of_mem (List.mem_reverse.mpr h)
  refine ⟨v.reverse, u.reverse, ?_, fun hm => hn (List.mem_reverse.mp hm)⟩
  have := congrArg List.reverse he
  simpa using this

/-- The characters after the last star are literal characters of the glob. -/
theorem trailing_literal {glob : Glob} {c : Char} (h : c ∈ glob.trailing) :
    c ≠ '*' ∧ c ∈ glob.chars := by
  have hm := List.mem_reverse.mp h
  have hc := List.all_eq_true.mp List.all_takeWhile c hm
  exact ⟨by simpa using hc, List.mem_reverse.mp ((List.takeWhile_prefix _).subset hm)⟩

/-- A text that fits a glob with a star begins with the leading text. -/
theorem leading_of_fits {glob : Glob} {text : List Char} (h : glob.hasStar = true)
    (ht : Fits glob.chars text) : glob.leading <+: text := by
  obtain ⟨rest, he⟩ := exists_leading h
  rw [he] at ht
  obtain ⟨u, v, rfl, hu, _⟩ := fits_append_iff.mp ht
  have hl : '*' ∉ glob.leading := fun hs => (leading_literal hs).1 rfl
  rw [(fits_literal_iff hl).mp hu]
  exact List.prefix_append _ _

/-- A text that fits a glob with a star ends with the trailing text. -/
theorem trailing_of_fits {glob : Glob} {text : List Char} (h : glob.hasStar = true)
    (ht : Fits glob.chars text) : glob.trailing <:+ text := by
  obtain ⟨before, rest, he, hn⟩ := exists_last_star ((hasStar_iff glob).mp h)
  rw [he] at ht
  obtain ⟨u, v, rfl, _, hv⟩ := fits_append_iff.mp ht
  obtain ⟨covered, w, rfl, hw⟩ := fits_star_iff.mp hv
  rw [trailing_eq he hn, (fits_literal_iff hn).mp hw, ← List.append_assoc]
  exact List.suffix_append _ _

/-- Around a core of its own literal text, a glob with a star admits any text next to its leading and
trailing texts. -/
theorem exists_core {glob : Glob} (h : glob.hasStar = true) :
    ∃ core, (∀ c ∈ core, c ≠ '*' ∧ c ∈ glob.chars) ∧
      ∀ x y, Fits glob.chars (glob.leading ++ (x ++ (core ++ (y ++ glob.trailing)))) := by
  obtain ⟨rest, he⟩ := exists_leading h
  have hl : '*' ∉ glob.leading := fun hs => (leading_literal hs).1 rfl
  by_cases hr : '*' ∈ rest
  · obtain ⟨middle, last, rfl, hn⟩ := exists_last_star hr
    have hm : glob.chars = (glob.leading ++ '*' :: middle) ++ '*' :: last := by
      rw [List.append_assoc]
      exact he
    have ht := trailing_eq hm hn
    refine ⟨middle.filter (· != '*'), ?_, fun x y => ?_⟩
    · intro c hc
      obtain ⟨hc, hs⟩ := List.mem_filter.mp hc
      refine ⟨by simpa using hs, ?_⟩
      rw [he]
      simp [hc]
    · rw [he, fits_literal_append_iff hl, ht]
      exact .star x (fits_append_iff.mpr ⟨_, _, rfl, fits_strike middle,
        .star y ((fits_literal_iff hn).mpr rfl)⟩)
  · have ht := trailing_eq he hr
    refine ⟨[], by simp, fun x y => ?_⟩
    rw [he, fits_literal_append_iff hl, ht, List.nil_append, ← List.append_assoc]
    exact .star (x ++ y) ((fits_literal_iff hr).mpr rfl)

/-- Two globs with stars whose leading and trailing texts are compatible have a common text. -/
theorem exists_common_of_affixes {a b : Glob} (ha : a.hasStar = true) (hb : b.hasStar = true)
    (hl : b.leading <+: a.leading ∨ a.leading <+: b.leading)
    (ht : b.trailing <:+ a.trailing ∨ a.trailing <:+ b.trailing) :
    ∃ text, Fits a.chars text ∧ Fits b.chars text ∧
      ∀ c ∈ text, c ≠ '*' ∧ (c ∈ a.chars ∨ c ∈ b.chars) := by
  obtain ⟨coreA, hcoreA, hfitA⟩ := exists_core ha
  obtain ⟨coreB, hcoreB, hfitB⟩ := exists_core hb
  have hfront : ∃ front xa xb, front = a.leading ++ xa ∧ front = b.leading ++ xb ∧
      ∀ c ∈ front, c ≠ '*' ∧ (c ∈ a.chars ∨ c ∈ b.chars) := by
    rcases hl with ⟨x, hx⟩ | ⟨x, hx⟩
    · exact ⟨a.leading, [], x, by simp, hx.symm,
        fun c hc => ⟨(leading_literal hc).1, .inl (leading_literal hc).2⟩⟩
    · exact ⟨b.leading, x, [], hx.symm, by simp,
        fun c hc => ⟨(leading_literal hc).1, .inr (leading_literal hc).2⟩⟩
  have hback : ∃ back ya yb, back = ya ++ a.trailing ∧ back = yb ++ b.trailing ∧
      ∀ c ∈ back, c ≠ '*' ∧ (c ∈ a.chars ∨ c ∈ b.chars) := by
    rcases ht with ⟨y, hy⟩ | ⟨y, hy⟩
    · exact ⟨a.trailing, [], y, by simp, hy.symm,
        fun c hc => ⟨(trailing_literal hc).1, .inl (trailing_literal hc).2⟩⟩
    · exact ⟨b.trailing, y, [], hy.symm, by simp,
        fun c hc => ⟨(trailing_literal hc).1, .inr (trailing_literal hc).2⟩⟩
  obtain ⟨front, xa, xb, hfa, hfb, hfront⟩ := hfront
  obtain ⟨back, ya, yb, hba, hbb, hback⟩ := hback
  refine ⟨front ++ (coreA ++ (coreB ++ back)), ?_, ?_, ?_⟩
  · have h := hfitA xa (coreB ++ ya)
    rw [hfa, hba]
    simpa only [List.append_assoc] using h
  · have h := hfitB (xb ++ coreA) yb
    rw [hfb, hbb]
    simpa only [List.append_assoc] using h
  · intro c hc
    simp only [List.mem_append] at hc
    rcases hc with hc | hc | hc | hc
    · exact hfront c hc
    · exact ⟨(hcoreA c hc).1, .inl (hcoreA c hc).2⟩
    · exact ⟨(hcoreB c hc).1, .inr (hcoreB c hc).2⟩
    · exact hback c hc

/-- Globs that overlap have a common text, made of literal characters of the two. -/
theorem exists_common_of_overlaps {a b : Glob} (h : a.overlaps b = true) :
    ∃ text, Fits a.chars text ∧ Fits b.chars text ∧
      ∀ c ∈ text, c ≠ '*' ∧ (c ∈ a.chars ∨ c ∈ b.chars) := by
  have hliteral : ∀ {glob : Glob}, glob.hasStar = false →
      Fits glob.chars glob.chars ∧ ∀ c ∈ glob.chars, c ≠ '*' := by
    intro glob hg
    have hn := not_mem_of_hasStar_false hg
    exact ⟨(fits_literal_iff hn).mpr rfl, fun c hc hs => hn (hs ▸ hc)⟩
  cases ha : a.hasStar <;> cases hb : b.hasStar <;>
    simp only [overlaps, ha, hb, Bool.and_eq_true, Bool.or_eq_true, beq_iff_eq,
      List.isPrefixOf_iff_prefix, List.isSuffixOf_iff_suffix] at h
  · subst h
    exact ⟨a.chars, (hliteral ha).1, (hliteral ha).1, fun c hc => ⟨(hliteral ha).2 c hc, .inl hc⟩⟩
  · exact ⟨a.chars, (hliteral ha).1, (accepts_iff b _).mp h,
      fun c hc => ⟨(hliteral ha).2 c hc, .inl hc⟩⟩
  · exact ⟨b.chars, (accepts_iff a _).mp h, (hliteral hb).1,
      fun c hc => ⟨(hliteral hb).2 c hc, .inr hc⟩⟩
  · exact exists_common_of_affixes ha hb h.1 h.2

/-- Globs with a common text overlap. -/
theorem overlaps_of_common {a b : Glob} {text : List Char} (hta : Fits a.chars text)
    (htb : Fits b.chars text) : a.overlaps b = true := by
  cases ha : a.hasStar <;> cases hb : b.hasStar <;>
    simp only [overlaps, ha, hb, Bool.and_eq_true, Bool.or_eq_true, beq_iff_eq,
      List.isPrefixOf_iff_prefix, List.isSuffixOf_iff_suffix]
  · have h := (fits_literal_iff (not_mem_of_hasStar_false ha)).mp hta
    rw [(fits_literal_iff (not_mem_of_hasStar_false hb)).mp htb] at h
    cases a
    cases b
    exact congrArg Glob.mk h.symm
  · rw [accepts_iff, ← (fits_literal_iff (not_mem_of_hasStar_false ha)).mp hta]
    exact htb
  · rw [accepts_iff, ← (fits_literal_iff (not_mem_of_hasStar_false hb)).mp htb]
    exact hta
  · exact ⟨List.prefix_or_prefix_of_prefix (leading_of_fits hb htb) (leading_of_fits ha hta),
      List.suffix_or_suffix_of_suffix (trailing_of_fits hb htb) (trailing_of_fits ha hta)⟩

end Interception.Glob
