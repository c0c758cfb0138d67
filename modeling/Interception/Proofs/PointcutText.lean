import Mathlib.Data.List.Basic
import Interception.Pointcut
import Interception.Proofs.BracketBalance
import Interception.Proofs.TypePatternReading

/-!
# Pointcuts and their texts

The four patterns of a pointcut have a canonical text: the result type, a space, the type pattern, a dot
unless `..` stands last, the method, and the parameters in parentheses with a comma and a space between
neighbours. Reading takes the text apart again where it was put together, although result type and
parameters may hold brackets, commas, dots and spaces themselves. What is read from any text has a
canonical text that is read the same.
-/

namespace Interception

/-- The text of a segment among parameters. -/
def Segment.text : Segment → List Char
  | many => ['.', '.']
  | one glob => glob.chars

namespace Pointcut

open TypeText

/-- The four patterns of a pointcut. -/
structure Parts where
  /-- The pattern for the result type. -/
  returnType : List Char
  /-- The pattern for the declaring type. -/
  typeSegments : List Segment
  /-- The pattern for the method's name. -/
  method : List Char
  /-- The patterns for the parameter types. -/
  params : List Segment

/-- The four patterns of a pointcut that was read. -/
def parts (pointcut : Pointcut) : Parts :=
  ⟨pointcut.returnPattern.chars, pointcut.typePattern.segments, pointcut.methodPattern.chars,
    pointcut.argsPattern⟩

/-- A text for a parameter that is read as it stands: no blank ends, a type text, other than `..`, and
every comma in brackets. -/
structure LegalParam (token : List Char) : Prop where
  /-- The ends are not blank. -/
  trimmed : Text.trim token = token
  /-- The text is a type text. -/
  checked : check token = .ok ()
  /-- The text does not stand for any number of parameters. -/
  ne_many : token ≠ ['.', '.']
  /-- Commas stand where brackets of all kinds do not balance. -/
  commas : BracketCount.all.Encloses (· == ',') 0 token

namespace Parts

/-- What a pointcut's patterns look like. -/
structure Legal (parts : Parts) : Prop where
  /-- The result type is a type text. -/
  return_checked : check parts.returnType = .ok ()
  /-- Spaces of the result type stand where angle and square brackets do not balance. -/
  return_spaces : BracketCount.angleSquare.Encloses (· == ' ') 0 parts.returnType
  /-- Angle and square brackets of the result type balance. -/
  return_balanced : BracketCount.angleSquare.balance parts.returnType = 0
  /-- The type pattern has segments. -/
  type_ne_nil : parts.typeSegments ≠ []
  /-- The globs of the type pattern are texts of identifiers and stars. -/
  type_globs : TypePattern.GlobsLegal parts.typeSegments
  /-- No two `..` stand side by side in the type pattern. -/
  type_apart : Segment.ManyApart parts.typeSegments
  /-- The method has characters. -/
  method_ne_nil : parts.method ≠ []
  /-- The method consists of characters of identifiers and stars. -/
  method_identifier : ∀ c ∈ parts.method, isIdentifierChar c = true
  /-- The parameters other than `..` are read as they stand. -/
  params_legal : ∀ glob, .one glob ∈ parts.params → LegalParam glob.chars
  /-- No two `..` stand side by side among the parameters. -/
  params_apart : Segment.ManyApart parts.params

/-- The text before the parameters: type pattern and method, with a dot between them unless the type
pattern ends with `..`. -/
def renderHead (parts : Parts) : List Char :=
  TypePattern.render parts.typeSegments ++
    (if TypePattern.endsWithGlob false parts.typeSegments then ['.'] else []) ++ parts.method

/-- The text of parameters, with a comma and a space between neighbours. -/
def renderParams (params : List Segment) : List Char :=
  List.intercalate [',', ' '] (params.map Segment.text)

/-- The canonical text of a pointcut. -/
def render (parts : Parts) : List Char :=
  parts.returnType ++ ' ' :: (parts.renderHead ++ '(' :: (renderParams parts.params ++ [')']))

/-- The part of the text after the result type and its space. -/
def renderRest (parts : Parts) : List Char :=
  parts.renderHead ++ '(' :: (renderParams parts.params ++ [')'])

/-- The pointcut with the four patterns and their canonical text. -/
def toPointcut (parts : Parts) : Pointcut :=
  { expression := String.ofList parts.render
    returnPattern := ⟨parts.returnType⟩
    typePattern := ⟨String.ofList (TypePattern.render parts.typeSegments), parts.typeSegments⟩
    methodPattern := ⟨parts.method⟩
    argsPattern := parts.params }

end Parts

/-- What one character adds to the count of angle and square brackets. -/
theorem weight_angleSquare (c : Char) : BracketCount.angleSquare.weight c =
    if c = '<' ∨ c = '[' then 1 else if c = '>' ∨ c = ']' then -1 else 0 := by
  by_cases hopens : c = '<' ∨ c = '['
  · rw [if_pos hopens]
    obtain rfl | rfl := hopens <;> rfl
  · rw [if_neg hopens]
    by_cases hcloses : c = '>' ∨ c = ']'
    · rw [if_pos hcloses]
      obtain rfl | rfl := hcloses <;> rfl
    · rw [if_neg hcloses]
      rw [not_or] at hopens hcloses
      exact BracketCount.angleSquare.weight_eq_zero (by simp [BracketCount.angleSquare, hopens])
        (by simp [BracketCount.angleSquare, hcloses])

section Return

variable {depth : Int}

/-- The result type ends at the first blank character that stands outside angle and square brackets. -/
theorem splitReturn_of_encloses (front text after : List Char)
    (hblanks : BracketCount.angleSquare.Encloses Text.isBlank depth text)
    (hbalance : depth + BracketCount.angleSquare.balance text = 0) (hafter : Text.trim after ≠ []) :
    splitReturn front depth (text ++ ' ' :: after) = some (front.reverse ++ text, Text.trim after) := by
  induction text generalizing front depth with
  | nil =>
    rw [BracketCount.balance_nil, Int.add_zero] at hbalance
    subst hbalance
    rw [List.nil_append, splitReturn, if_neg (by decide), if_neg (by decide), if_pos (by decide),
      Text.trim_space_cons]
    simp [hafter]
  | cons c text ih =>
    obtain ⟨hfirst, hrest⟩ := BracketCount.encloses_cons_iff.mp hblanks
    rw [BracketCount.balance_cons, ← Int.add_assoc] at hbalance
    have hnext := ih (c :: front) hrest hbalance
    have hfront : (c :: front).reverse ++ text = front.reverse ++ c :: text := by simp
    rw [hfront] at hnext
    rw [weight_angleSquare] at hnext
    have hcut : ¬(Text.isBlank c = true ∧ depth = 0) := fun h => hfirst h.1 h.2
    rw [List.cons_append, splitReturn]
    split
    · simpa [*] using hnext
    · split
      · simpa [*, Int.sub_eq_add_neg] using hnext
      · simpa [*] using hnext

/-- What is cut off as result type is followed by a blank character, where angle and square brackets
balance for the first time at a blank character. -/
theorem splitReturn_sound {front text returnType rest : List Char}
    (h : splitReturn front depth text = some (returnType, rest)) :
    ∃ type, returnType = front.reverse ++ type ∧
      BracketCount.angleSquare.Encloses Text.isBlank depth type ∧
      depth + BracketCount.angleSquare.balance type = 0 := by
  induction text generalizing front depth with
  | nil => cases h
  | cons c text ih =>
    have hgoes : ∀ {next : Int}, next = depth + BracketCount.angleSquare.weight c →
        (Text.isBlank c = true → depth ≠ 0) →
        splitReturn (c :: front) next text = some (returnType, rest) →
        ∃ type, returnType = front.reverse ++ type ∧
          BracketCount.angleSquare.Encloses Text.isBlank depth type ∧
          depth + BracketCount.angleSquare.balance type = 0 := by
      rintro next rfl hfirst hnext
      obtain ⟨type, htype, hencloses, hbalance⟩ := ih hnext
      refine ⟨c :: type, by simp [htype], BracketCount.encloses_cons_iff.mpr ⟨hfirst, hencloses⟩, ?_⟩
      rw [BracketCount.balance_cons]
      omega
    rw [splitReturn] at h
    split at h
    case isTrue hopens =>
      refine hgoes (by rw [weight_angleSquare, if_pos hopens]) (fun hblank => ?_) h
      obtain rfl | rfl := hopens <;> exact absurd hblank (by decide)
    case isFalse hopens =>
      split at h
      case isTrue hcloses =>
        refine hgoes (by rw [weight_angleSquare, if_neg hopens, if_pos hcloses]; rfl)
          (fun hblank => ?_) h
        obtain rfl | rfl := hcloses <;> exact absurd hblank (by decide)
      case isFalse hcloses =>
        split at h
        case isTrue hcut =>
          simp only at h
          split at h
          · cases h
          · cases h
            exact ⟨[], by simp, BracketCount.encloses_nil, by simp [hcut.2]⟩
        case isFalse hcut =>
          exact hgoes (by rw [weight_angleSquare, if_neg hopens, if_neg hcloses, Int.add_zero])
            (fun hblank hdepth => hcut ⟨hblank, hdepth⟩) h

end Return

section Params

variable {depth : Int}

/-- Cutting at commas yields at least one text. -/
theorem exists_splitCommas (depth : Int) (text : List Char) :
    ∃ part parts, splitCommas depth text = part :: parts := by
  cases text with
  | nil => exact ⟨[], [], rfl⟩
  | cons c text =>
    rw [splitCommas]
    split
    · exact ⟨[], _, rfl⟩
    · simp only
      split
      · exact ⟨[c], [], rfl⟩
      · exact ⟨_, _, rfl⟩

/-- A character other than a comma outside brackets belongs to the first text. -/
theorem splitCommas_cons {c : Char} {text part : List Char} {parts : List (List Char)}
    (hc : ¬ (c = ',' ∧ depth = 0))
    (h : splitCommas (depth + BracketCount.all.weight c) text = part :: parts) :
    splitCommas depth (c :: text) = (c :: part) :: parts := by
  have hdepth : (if opens c = true then depth + 1 else if closes c = true then depth - 1 else depth) =
      depth + BracketCount.all.weight c := by
    rw [weight_all]
    split
    · rfl
    · split
      · rfl
      · exact (Int.add_zero depth).symm
  rw [splitCommas, if_neg hc]
  simp only [hdepth, h]

/-- What stands before all commas outside brackets belongs to the first text. -/
theorem splitCommas_append {text rest part : List Char} {parts : List (List Char)}
    (hcommas : BracketCount.all.Encloses (· == ',') depth text)
    (h : splitCommas (depth + BracketCount.all.balance text) rest = part :: parts) :
    splitCommas depth (text ++ rest) = (text ++ part) :: parts := by
  induction text generalizing depth with
  | nil => simpa using h
  | cons c text ih =>
    obtain ⟨hfirst, hrest⟩ := BracketCount.encloses_cons_iff.mp hcommas
    rw [BracketCount.balance_cons, ← Int.add_assoc] at h
    exact splitCommas_cons (fun hc => hfirst (by simp [hc.1]) hc.2) (ih hrest h)

/-- Texts in which every comma is in brackets and brackets balance are cut apart where a comma and a space
were put between them. The space stays with the text after it. -/
theorem splitCommas_intercalate {text : List Char} {texts : List (List Char)}
    (h : ∀ t ∈ text :: texts, BracketCount.all.Encloses (· == ',') 0 t ∧ BracketCount.all.balance t = 0) :
    splitCommas 0 (List.intercalate [',', ' '] (text :: texts)) = text :: texts.map (' ' :: ·) := by
  induction texts generalizing text with
  | nil =>
    obtain ⟨hcommas, hbalance⟩ := h text List.mem_cons_self
    have hend : splitCommas (0 + BracketCount.all.balance text) [] = [] :: [] := rfl
    simpa using splitCommas_append hcommas hend
  | cons next texts ih =>
    obtain ⟨hcommas, hbalance⟩ := h text List.mem_cons_self
    obtain ⟨hcommas', hbalance'⟩ := h next (List.mem_cons_of_mem _ List.mem_cons_self)
    have hspaced : BracketCount.all.Encloses (· == ',') 0 (' ' :: next) :=
      BracketCount.encloses_cons_iff.mpr ⟨fun hc => absurd hc (by decide), hcommas'⟩
    have hrest := @ih (' ' :: next) fun t ht => by
      obtain rfl | ht := List.mem_cons.mp ht
      · exact ⟨hspaced, hbalance'⟩
      · exact h t (List.mem_cons_of_mem _ (List.mem_cons_of_mem _ ht))
    have hcut : splitCommas (0 + BracketCount.all.balance text)
        (',' :: List.intercalate [',', ' '] ((' ' :: next) :: texts)) =
        [] :: (' ' :: next) :: texts.map (' ' :: ·) := by
      rw [hbalance, splitCommas, if_pos (by decide), Int.add_zero, hrest]
    have hjoin : List.intercalate [',', ' '] (text :: next :: texts) =
        text ++ ',' :: List.intercalate [',', ' '] ((' ' :: next) :: texts) := by
      cases texts <;> simp [List.intercalate]
    rw [hjoin, splitCommas_append hcommas hcut, List.append_nil, List.map_cons]

/-- In every text between commas, the remaining commas stand in brackets. -/
theorem splitCommas_sound {text part : List Char} {parts : List (List Char)}
    (h : splitCommas depth text = part :: parts) :
    BracketCount.all.Encloses (· == ',') depth part ∧
      ∀ later ∈ parts, BracketCount.all.Encloses (· == ',') 0 later := by
  induction text generalizing depth part parts with
  | nil =>
    cases h
    exact ⟨BracketCount.encloses_nil, fun later hlater => absurd hlater List.not_mem_nil⟩
  | cons c text ih =>
    by_cases hc : c = ',' ∧ depth = 0
    · obtain ⟨rfl, rfl⟩ := hc
      rw [splitCommas, if_pos ⟨rfl, rfl⟩] at h
      obtain ⟨first, others, hsplit⟩ := exists_splitCommas 0 text
      obtain ⟨hfirst, hothers⟩ := ih hsplit
      cases h
      rw [hsplit]
      exact ⟨BracketCount.encloses_nil, List.forall_mem_cons.mpr ⟨hfirst, hothers⟩⟩
    · obtain ⟨first, others, hsplit⟩ :=
        exists_splitCommas (depth + BracketCount.all.weight c) text
      rw [splitCommas_cons hc hsplit] at h
      cases h
      obtain ⟨hfirst, hothers⟩ := ih hsplit
      refine ⟨BracketCount.encloses_cons_iff.mpr ⟨fun hcomma hzero => hc ⟨?_, hzero⟩, hfirst⟩, hothers⟩
      simpa using hcomma

/-- Parameters are read from texts that are theirs but for blank ends, after those that are done. -/
theorem readParams_eq {done params : List Segment} {tokens : List (List Char)}
    (htokens : tokens.map Text.trim = params.map Segment.text)
    (hlegal : ∀ glob, .one glob ∈ params → LegalParam glob.chars)
    (hapart : Segment.ManyApart (done ++ params)) : readParams done tokens = .ok (done ++ params) := by
  induction params generalizing done tokens with
  | nil =>
    cases List.map_eq_nil_iff.mp htokens
    simp [readParams]
  | cons param params ih =>
    obtain ⟨token, tokens, rfl, htoken, hothers⟩ := List.map_eq_cons_iff.mp htokens
    have hnext := @ih (done ++ [param]) tokens hothers
      (fun glob hglob => hlegal glob (List.mem_cons_of_mem _ hglob)) (by simpa using hapart)
    rw [List.append_assoc] at hnext
    cases param with
    | many =>
      have hdots : Text.trim token = ['.', '.'] := htoken
      rw [readParams]
      simp only [hdots, if_pos, if_neg hapart.getLast]
      exact hnext
    | one glob =>
      have hglob := hlegal glob List.mem_cons_self
      have hchars : Text.trim token = glob.chars := htoken
      rw [readParams]
      simp only [hchars, if_neg hglob.ne_many, hglob.checked]
      exact hnext

/-- Parameters that are read are legal, and no two `..` stand side by side among them. -/
theorem readParams_sound {done params : List Segment} {tokens : List (List Char)}
    (hdone : ∀ glob, .one glob ∈ done → LegalParam glob.chars) (hapart : Segment.ManyApart done)
    (htokens : ∀ token ∈ tokens, BracketCount.all.Encloses (· == ',') 0 token)
    (h : readParams done tokens = .ok params) :
    (∀ glob, .one glob ∈ params → LegalParam glob.chars) ∧ Segment.ManyApart params := by
  induction tokens generalizing done with
  | nil =>
    cases h
    exact ⟨hdone, hapart⟩
  | cons token tokens ih =>
    have hothers := fun t ht => htokens t (List.mem_cons_of_mem token ht)
    rw [readParams] at h
    split at h
    · split at h
      case isTrue => cases h
      case isFalse hlast =>
        refine ih (fun glob hglob => hdone glob ?_) (hapart.append_many hlast) hothers h
        simpa using hglob
    case isFalse hdots =>
      split at h
      case h_1 => cases h
      case h_2 hchecked =>
        refine ih (fun glob hglob => ?_) (hapart.append_one _) hothers h
        obtain hglob | hglob := List.mem_append.mp hglob
        · exact hdone glob hglob
        · obtain rfl : glob = ⟨Text.trim token⟩ := by simpa using hglob
          obtain ⟨before, after, hsplit, hblank, _⟩ := Text.exists_trim token
          have hcommas := htokens token List.mem_cons_self
          rw [hsplit] at hcommas
          exact ⟨Text.trim_trim token, hchecked, hdots,
            hcommas.left.right fun c hc => weight_of_isBlank (hblank c hc)⟩

/-- Texts that do not begin or end with blank characters can be put together to one that does not. -/
theorem trim_intercalate {texts : List (List Char)} (separator : List Char)
    (h : ∀ t ∈ texts, t ≠ [] ∧ Text.trim t = t) :
    Text.trim (List.intercalate separator texts) = List.intercalate separator texts := by
  refine Text.trim_eq_self ?_ ?_
  · intro c hc
    cases texts with
    | nil => simp [List.intercalate] at hc
    | cons text texts =>
      obtain ⟨hn, htrim⟩ := h text List.mem_cons_self
      obtain ⟨d, text, rfl⟩ := List.exists_cons_of_ne_nil hn
      refine Text.head_of_trim_eq htrim ?_
      cases texts <;> simpa [List.intercalate] using hc
  · intro c hc
    induction texts with
    | nil => simp [List.intercalate] at hc
    | cons text texts ih =>
      cases texts with
      | nil =>
        rw [List.intercalate_singleton] at hc
        exact Text.getLast_of_trim_eq (h text List.mem_cons_self).2 hc
      | cons next texts =>
        refine ih (fun t ht => h t (List.mem_cons_of_mem _ ht)) ?_
        have hn : List.intercalate separator (next :: texts) ≠ [] := by
          obtain ⟨d, next, rfl⟩ :=
            List.exists_cons_of_ne_nil (h next (List.mem_cons_of_mem _ List.mem_cons_self)).1
          cases texts <;> simp [List.intercalate]
        rw [List.intercalate_cons_cons, List.getLast?_append_of_ne_nil _ hn] at hc
        exact hc

/-- The text of a parameter has characters and no blank ends, encloses its commas and balances. -/
theorem text_of_legalParam {param : Segment} (h : ∀ glob, param = .one glob → LegalParam glob.chars) :
    (param.text ≠ [] ∧ Text.trim param.text = param.text) ∧
      BracketCount.all.Encloses (· == ',') 0 param.text ∧ BracketCount.all.balance param.text = 0 := by
  cases param with
  | many =>
    exact ⟨⟨List.cons_ne_nil _ _, by decide⟩, by decide, by decide⟩
  | one glob =>
    have hglob := h glob rfl
    exact ⟨⟨ne_nil_of_check hglob.checked, hglob.trimmed⟩, hglob.commas,
      (check_sound hglob.checked).1⟩

/-- Parameters are read back from their text. -/
theorem parseParams_renderParams {params : List Segment}
    (hlegal : ∀ glob, .one glob ∈ params → LegalParam glob.chars) (hapart : Segment.ManyApart params) :
    parseParams (Parts.renderParams params) = .ok params := by
  have htexts : ∀ t ∈ params.map Segment.text, (t ≠ [] ∧ Text.trim t = t) ∧
      BracketCount.all.Encloses (· == ',') 0 t ∧ BracketCount.all.balance t = 0 := by
    intro t ht
    obtain ⟨param, hparam, rfl⟩ := List.mem_map.mp ht
    exact text_of_legalParam fun glob hglob => hlegal glob (hglob ▸ hparam)
  have htrim : Text.trim (Parts.renderParams params) = Parts.renderParams params :=
    trim_intercalate _ fun t ht => (htexts t ht).1
  rw [parseParams, htrim]
  cases params with
  | nil => rfl
  | cons param params =>
    have hsplit := @splitCommas_intercalate param.text (params.map Segment.text)
      fun t ht => (htexts t ht).2
    have hn : (Parts.renderParams (param :: params)).isEmpty = false := by
      obtain ⟨c, text, hc⟩ := List.exists_cons_of_ne_nil (htexts param.text List.mem_cons_self).1.1
      cases params <;> simp [Parts.renderParams, hc, List.intercalate]
    have htokens : (param.text :: (params.map Segment.text).map (' ' :: ·)).map Text.trim =
        (param :: params).map Segment.text := by
      rw [List.map_cons, (htexts param.text List.mem_cons_self).1.2, List.map_cons, List.map_map]
      refine congrArg _ (Eq.trans (List.map_congr_left fun t ht => ?_) (List.map_id _))
      rw [Function.comp_apply, Text.trim_space_cons, (htexts t (List.mem_cons_of_mem _ ht)).1.2]
      rfl
    rw [hn, if_neg Bool.false_ne_true]
    rw [Parts.renderParams, List.map_cons, hsplit]
    exact readParams_eq htokens hlegal hapart

/-- Parameters that are read from a text are legal, and no two `..` stand side by side among them. -/
theorem parseParams_sound {text : List Char} {params : List Segment} (h : parseParams text = .ok params) :
    (∀ glob, .one glob ∈ params → LegalParam glob.chars) ∧ Segment.ManyApart params := by
  have hnone : ∀ glob, Segment.one glob ∈ [] → LegalParam glob.chars :=
    fun glob hglob => absurd hglob List.not_mem_nil
  rw [parseParams] at h
  split at h
  · cases h
    exact ⟨hnone, Segment.manyApart_nil⟩
  · obtain ⟨part, parts, hsplit⟩ := exists_splitCommas 0 (Text.trim text)
    obtain ⟨hpart, hparts⟩ := splitCommas_sound hsplit
    rw [hsplit] at h
    exact readParams_sound hnone Segment.manyApart_nil (List.forall_mem_cons.mpr ⟨hpart, hparts⟩) h

end Params

section Head

/-- A text is cut at a dot after which no other follows. -/
theorem splitLastDot_eq (before : List Char) {after : List Char} (h : ∀ c ∈ after, c ≠ '.') :
    splitLastDot (before ++ '.' :: after) = some (before, after) := by
  have hafter : ∀ c ∈ after.reverse, (c != '.') = true := fun c hc => by
    simpa using h c (List.mem_reverse.mp hc)
  have hreverse : (before ++ '.' :: after).reverse = after.reverse ++ '.' :: before.reverse := by simp
  have htake : (after.reverse ++ '.' :: before.reverse).takeWhile (· != '.') = after.reverse := by
    rw [List.takeWhile_append_of_pos hafter, List.takeWhile_cons_of_neg (by decide), List.append_nil]
  have hdrop : (after.reverse ++ '.' :: before.reverse).dropWhile (· != '.') =
      '.' :: before.reverse := by
    rw [List.dropWhile_append_of_pos hafter, List.dropWhile_cons_of_neg (by decide)]
  rw [splitLastDot, hreverse]
  simp only [htake, hdrop, List.reverse_reverse]

/-- A method is read after a dot that does not belong to the type pattern. -/
theorem parseHead_eq {before typeText method : List Char} {typePattern : TypePattern}
    (hmethod : method ≠ []) (hidentifier : ∀ c ∈ method, isIdentifierChar c = true)
    (htext : (if before.getLast? = some '.' then before ++ ['.'] else before) = typeText)
    (htype : TypePattern.parse typeText = .ok typePattern) :
    parseHead (before ++ '.' :: method) = .ok (typePattern, ⟨method⟩) := by
  have hsplit := splitLastDot_eq before fun c hc => TypePattern.ne_dot_of_isIdentifierChar (hidentifier c hc)
  have hlegal : (method.isEmpty || !method.all isIdentifierChar) = false := by
    simpa [hmethod] using hidentifier
  rw [parseHead, hsplit]
  simp only [hlegal, htext, htype, Bool.false_eq_true, if_false]

/-- No character of a type pattern's text is blank. -/
theorem isBlank_of_mem_render {segments : List Segment} {c : Char}
    (hglobs : TypePattern.GlobsLegal segments) (hc : c ∈ TypePattern.render segments) :
    Text.isBlank c = false := by
  obtain rfl | hidentifier := TypePattern.renderFrom_chars false hglobs hc
  · decide
  · exact isBlank_of_isIdentifierChar hidentifier

/-- A type pattern is read back from its text. -/
theorem parse_render {segments : List Segment} (hn : segments ≠ [])
    (hglobs : TypePattern.GlobsLegal segments) (hapart : Segment.ManyApart segments) :
    TypePattern.parse (TypePattern.render segments) =
      .ok ⟨String.ofList (TypePattern.render segments), segments⟩ := by
  have htrim : Text.trim (TypePattern.render segments) = TypePattern.render segments :=
    Text.trim_of_forall fun c hc => isBlank_of_mem_render hglobs hc
  rw [TypePattern.parse, htrim]
  simp only [TypePattern.readSegments_render hglobs hn hapart]

variable {parts : Parts}

/-- Type pattern and method are read back from their text. -/
theorem parseHead_renderHead (h : parts.Legal) : parseHead parts.renderHead =
    .ok (⟨String.ofList (TypePattern.render parts.typeSegments), parts.typeSegments⟩,
      ⟨parts.method⟩) := by
  have htype := parse_render h.type_ne_nil h.type_globs h.type_apart
  rw [Parts.renderHead]
  obtain ⟨hglob, hlast⟩ | ⟨hmany, before, hbefore⟩ :=
    TypePattern.render_ending h.type_ne_nil h.type_globs
  · rw [if_pos hglob, List.append_assoc]
    exact parseHead_eq h.method_ne_nil h.method_identifier (if_neg hlast) htype
  · -- The second dot of the `..` that stands last is the one at which the method is cut off.
    have hhead : before ++ ['.', '.'] ++ [] ++ parts.method =
        (before ++ ['.']) ++ '.' :: parts.method := by simp
    have htext : (if (before ++ ['.']).getLast? = some '.' then before ++ ['.'] ++ ['.']
        else before ++ ['.']) = TypePattern.render parts.typeSegments := by
      rw [if_pos (by simp), hbefore]
      simp
    rw [if_neg (by simp [hmany]), hbefore, hhead, ← hbefore]
    exact parseHead_eq h.method_ne_nil h.method_identifier htext htype

/-- The characters of type pattern and method are dots and characters of identifiers. -/
theorem renderHead_chars (h : parts.Legal) {c : Char} (hc : c ∈ parts.renderHead) :
    c = '.' ∨ isIdentifierChar c = true := by
  simp only [Parts.renderHead, List.mem_append] at hc
  obtain (htype | hdot) | hmethod := hc
  · exact TypePattern.renderFrom_chars false h.type_globs htype
  · split at hdot
    · exact .inl (List.mem_singleton.mp hdot)
    · exact absurd hdot List.not_mem_nil
  · exact .inr (h.method_identifier c hmethod)

/-- What is read before the parameters has segments and a method as they have to be. -/
theorem parseHead_sound {head : List Char} {typePattern : TypePattern} {method : Glob}
    (h : parseHead head = .ok (typePattern, method)) :
    (typePattern.segments ≠ [] ∧ TypePattern.GlobsLegal typePattern.segments ∧
      Segment.ManyApart typePattern.segments) ∧
      method.chars ≠ [] ∧ ∀ c ∈ method.chars, isIdentifierChar c = true := by
  rw [parseHead] at h
  split at h
  · cases h
  · rename_i before name _
    split at h
    · cases h
    · rename_i hname
      simp only at h
      generalize (if before.getLast? = some '.' then before ++ ['.'] else before) = typeText at h
      cases htype : TypePattern.parse typeText with
      | error fault => simp [htype] at h
      | ok pattern =>
        simp only [htype, Except.ok.injEq, Prod.mk.injEq] at h
        obtain ⟨rfl, rfl⟩ := h
        obtain ⟨hglobs, hn, _⟩ := TypePattern.IsParsed.sound ⟨typeText, htype⟩
        have hapart := TypePattern.IsParsed.manyApart ⟨typeText, htype⟩
        refine ⟨⟨hn, hglobs, hapart⟩, ?_⟩
        simpa using hname

end Head

section Whole

variable {parts : Parts}

/-- Blank characters of a result type stand where angle and square brackets do not balance. -/
theorem Parts.Legal.return_encloses (h : parts.Legal) :
    BracketCount.angleSquare.Encloses Text.isBlank 0 parts.returnType := by
  intro before c after he hc
  have hlegal := (check_sound h.return_checked).2 c (by simp [he])
  exact h.return_spaces before c after he (by simp [hlegal.eq_space hc])

/-- No character of type pattern and method is blank or a parenthesis. -/
theorem renderHead_plain (h : parts.Legal) :
    ∀ c ∈ parts.renderHead, Text.isBlank c = false ∧ (c != '(') = true := by
  intro c hc
  obtain rfl | hidentifier := renderHead_chars h hc
  · exact ⟨by decide, by decide⟩
  · refine ⟨isBlank_of_isIdentifierChar hidentifier, bne_iff_ne.mpr ?_⟩
    rintro rfl
    exact absurd hidentifier (by decide)

/-- What stands after the result type has no blank ends. -/
theorem trim_renderRest (h : parts.Legal) : Text.trim parts.renderRest = parts.renderRest := by
  have hn : parts.renderHead ≠ [] := by simp [Parts.renderHead, h.method_ne_nil]
  obtain ⟨first, head, hhead⟩ := List.exists_cons_of_ne_nil hn
  have hfirst : Text.isBlank first = false := (renderHead_plain h first (by simp [hhead])).1
  have hsplit : parts.renderRest =
      first :: ((head ++ '(' :: Parts.renderParams parts.params) ++ [')']) := by
    simp [Parts.renderRest, hhead]
  rw [hsplit]
  exact Text.trim_cons_concat _ hfirst (by decide)

/-- The canonical text of a pointcut has no blank ends. -/
theorem trim_render (h : parts.Legal) : Text.trim parts.render = parts.render := by
  obtain ⟨first, later, hreturn⟩ := List.exists_cons_of_ne_nil (ne_nil_of_check h.return_checked)
  have hfirst : Text.isBlank first = false := by
    by_contra hblank
    exact h.return_encloses [] first later hreturn (by simpa using hblank) rfl
  have hsplit : parts.render = first ::
      ((later ++ ' ' :: (parts.renderHead ++ '(' :: Parts.renderParams parts.params)) ++ [')']) := by
    simp [Parts.render, hreturn]
  rw [hsplit]
  exact Text.trim_cons_concat _ hfirst (by decide)

/-- The result type is cut off where its text ends. -/
theorem splitReturn_render (h : parts.Legal) :
    splitReturn [] 0 parts.render = some (parts.returnType, parts.renderRest) := by
  have hn : Text.trim parts.renderRest ≠ [] := by
    rw [trim_renderRest h]
    simp [Parts.renderRest]
  have hcut := splitReturn_of_encloses [] parts.returnType parts.renderRest h.return_encloses
    (by rw [h.return_balanced]; rfl) hn
  rwa [trim_renderRest h] at hcut

/-- What stands before the first parenthesis after the result type are type pattern and method. -/
theorem takeWhile_renderRest (h : parts.Legal) :
    parts.renderRest.takeWhile (· != '(') = parts.renderHead := by
  rw [Parts.renderRest, List.takeWhile_append_of_pos fun c hc => (renderHead_plain h c hc).2,
    List.takeWhile_cons_of_neg (by decide), List.append_nil]

/-- At the first parenthesis after the result type, the parameters begin. -/
theorem dropWhile_renderRest (h : parts.Legal) : parts.renderRest.dropWhile (· != '(') =
    '(' :: (Parts.renderParams parts.params ++ [')']) := by
  rw [Parts.renderRest, List.dropWhile_append_of_pos fun c hc => (renderHead_plain h c hc).2,
    List.dropWhile_cons_of_neg (by decide)]

/-- The four patterns of a pointcut are read back from their text. -/
theorem parse_render_of_legal (h : parts.Legal) :
    parse (String.ofList parts.render) = .ok parts.toPointcut := by
  have hlast : parts.renderRest.getLast? = some ')' := by
    rw [Parts.renderRest, ← List.cons_append, ← List.append_assoc, List.getLast?_concat]
  have hhead : Text.trim parts.renderHead = parts.renderHead :=
    Text.trim_of_forall fun c hc => (renderHead_plain h c hc).1
  have hparams := parseParams_renderParams h.params_legal h.params_apart
  rw [parse, String.toList_ofList, trim_render h, parseTrimmed, splitReturn_render h]
  simp only [h.return_checked, dropWhile_renderRest h, hlast, takeWhile_renderRest h, hhead,
    parseHead_renderHead h, List.dropLast_concat, hparams, ne_eq, not_true_eq_false, if_false,
    Parts.toPointcut]

/-- A pointcut that was read has a result type that was cut off and checked, a type pattern and a method
that were read from what stands before the parameters, and parameters that were read. -/
theorem parseTrimmed_inversion {text : List Char} {pointcut : Pointcut}
    (h : parseTrimmed text = .ok pointcut) :
    (∃ rest, splitReturn [] 0 text = some (pointcut.returnPattern.chars, rest)) ∧
      check pointcut.returnPattern.chars = .ok () ∧
      (∃ head, parseHead head = .ok (pointcut.typePattern, pointcut.methodPattern)) ∧
      ∃ params, parseParams params = .ok pointcut.argsPattern := by
  rw [parseTrimmed] at h
  cases hreturn : splitReturn [] 0 text with
  | none => simp [hreturn] at h
  | some cut =>
    obtain ⟨returnType, rest⟩ := cut
    cases hcheck : check returnType with
    | error fault => simp [hreturn, hcheck] at h
    | ok _ =>
      simp only [hreturn, hcheck] at h
      split at h
      case h_1 => cases h
      case h_2 params _ =>
        split at h
        case isTrue => cases h
        case isFalse =>
          cases hhead : parseHead (Text.trim (rest.takeWhile (· != '('))) with
          | error fault => simp [hhead] at h
          | ok head =>
            cases hargs : parseParams params.dropLast with
            | error fault => simp [hhead, hargs] at h
            | ok args =>
              simp only [hhead, hargs, Except.ok.injEq] at h
              subst h
              exact ⟨⟨rest, rfl⟩, hcheck, ⟨_, hhead⟩, _, hargs⟩

/-- The four patterns of a pointcut that was read look like those that can be read back. -/
theorem legal_of_parse {text : String} {pointcut : Pointcut} (h : parse text = .ok pointcut) :
    pointcut.parts.Legal := by
  have hparse : parseTrimmed (Text.trim text.toList) = .ok pointcut := by
    rw [parse] at h
    split at h
    · cases h
      assumption
    · cases h
  obtain ⟨⟨rest, hreturn⟩, hchecked, ⟨head, hhead⟩, args, hargs⟩ := parseTrimmed_inversion hparse
  obtain ⟨type, htype, hencloses, hbalance⟩ := splitReturn_sound hreturn
  rw [List.reverse_nil, List.nil_append] at htype
  rw [← htype] at hencloses hbalance
  obtain ⟨⟨hn, hglobs, htypeApart⟩, hmethod, hidentifier⟩ := parseHead_sound hhead
  obtain ⟨hlegal, hapart⟩ := parseParams_sound hargs
  have hspaces : BracketCount.angleSquare.Encloses (· == ' ') 0 pointcut.returnPattern.chars :=
    fun before c after he hc => hencloses before c after he (by rw [beq_iff_eq.mp hc]; decide)
  rw [Int.zero_add] at hbalance
  exact ⟨hchecked, hspaces, hbalance, hn, hglobs, htypeApart, hmethod, hidentifier, hlegal, hapart⟩

/-- Reading inverts rendering. Four patterns that look as they have to are read back from their canonical
text, and whatever text a pointcut is read from, its four patterns look as they have to and are read back
from their canonical text. -/
theorem parse_inverts_render :
    (∀ parts : Parts, parts.Legal →
      ∃ pointcut, parse (String.ofList parts.render) = .ok pointcut ∧ pointcut.parts = parts) ∧
    ∀ text pointcut, parse text = .ok pointcut → pointcut.parts.Legal ∧
      ∃ again, parse (String.ofList pointcut.parts.render) = .ok again ∧
        again.parts = pointcut.parts := by
  have hread : ∀ parts : Parts, parts.Legal →
      ∃ pointcut, parse (String.ofList parts.render) = .ok pointcut ∧ pointcut.parts = parts :=
    fun parts h => ⟨parts.toPointcut, parse_render_of_legal h, rfl⟩
  exact ⟨hread, fun text pointcut h => ⟨legal_of_parse h, hread _ (legal_of_parse h)⟩⟩

/-- Brackets with commas and spaces stay together in result type and parameters. -/
theorem parse_inverts_render_brackets :
    ∃ parts : Parts, parts.Legal ∧
      parts.render = "Result<u64, Error> com.x..*Impl.save((A, B), ..)".toList ∧
      (∃ pointcut, parse (String.ofList parts.render) = .ok pointcut ∧ pointcut.parts = parts) ∧
      ∃ pointcut, parse "* com..save(.., Vec<A, B>)" = .ok pointcut ∧ pointcut.parts.Legal ∧
        ∃ again, parse (String.ofList pointcut.parts.render) = .ok again ∧
          again.parts = pointcut.parts := by
  let parts : Parts :=
    { returnType := "Result<u64, Error>".toList
      typeSegments := [.one ⟨"com".toList⟩, .one ⟨"x".toList⟩, .many, .one ⟨"*Impl".toList⟩]
      method := "save".toList
      params := [.one ⟨"(A, B)".toList⟩, .many] }
  have hglobs : TypePattern.GlobsLegal parts.typeSegments := by
    intro glob hglob
    simp only [parts, List.mem_cons, Segment.one.injEq, reduceCtorEq, List.not_mem_nil, or_false,
      false_or] at hglob
    obtain rfl | rfl | rfl := hglob <;> exact ⟨by decide, List.all_eq_true.mp (by decide)⟩
  have hparams : ∀ glob, .one glob ∈ parts.params → LegalParam glob.chars := by
    intro glob hglob
    simp only [parts, List.mem_cons, Segment.one.injEq, reduceCtorEq, List.not_mem_nil,
      or_false] at hglob
    obtain rfl := hglob
    exact ⟨rfl, rfl, by decide, by decide⟩
  have hlegal : parts.Legal :=
    { return_checked := rfl
      return_spaces := by decide
      return_balanced := by decide
      type_ne_nil := by decide
      type_globs := hglobs
      type_apart := by unfold Segment.ManyApart; decide
      method_ne_nil := by decide
      method_identifier := List.all_eq_true.mp (by decide)
      params_legal := hparams
      params_apart := by unfold Segment.ManyApart; decide }
  obtain ⟨pointcut, hparse⟩ : ∃ pointcut, parse "* com..save(.., Vec<A, B>)" = .ok pointcut :=
    ⟨_, rfl⟩
  exact ⟨parts, hlegal, by decide, parse_inverts_render.1 parts hlegal, pointcut, hparse,
    parse_inverts_render.2 _ pointcut hparse⟩

end Whole

end Pointcut

end Interception
