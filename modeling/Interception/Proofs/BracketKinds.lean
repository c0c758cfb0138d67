import Interception.Proofs.BracketPairs
import Interception.Proofs.CachedPointcuts
import Interception.Proofs.SignaturePointcut

/-!
# Kinds of brackets

Reading counts brackets and does not remember which kinds are open. So the brackets of result type and
parameters are paired in what is read, but those that belong together need not be of one kind, and `Vec<u8]` is
read as a type. Kinds make no difference at all among parameters, and in the result type angle and square brackets
stand for each other.

A pattern without stars stands for itself alone. If its brackets are paired and not nested, the pointcut never
selects a method whose types have nested brackets.
-/

namespace Interception

namespace TypeText

/-- A parenthesis in place of every bracket. -/
def asParenthesis (c : Char) : Char := if opens c then '(' else if closes c then ')' else c

/-- A square bracket in place of an angle bracket. -/
def asSquare (c : Char) : Char := if c = '<' then '[' else if c = '>' then ']' else c

/-- Brackets are put in the place of brackets, opening ones for opening and closing ones for closing, and
other characters stay. -/
structure Exchanges (f : Char → Char) : Prop where
  /-- An opening bracket takes the place of an opening one. -/
  opening : ∀ c, opens c = true → opens (f c) = true
  /-- A closing bracket takes the place of a closing one. -/
  closing : ∀ c, closes c = true → closes (f c) = true
  /-- Other characters stay. -/
  plain : ∀ c, opens c = false → closes c = false → f c = c

/-- Parentheses may take the place of all brackets. -/
theorem exchanges_asParenthesis : Exchanges asParenthesis where
  opening c h := by
    rw [asParenthesis, if_pos h]
    rfl
  closing c h := by
    rw [asParenthesis, opens_of_closes h, if_neg Bool.false_ne_true, if_pos h]
    rfl
  plain c hopens hcloses := by
    rw [asParenthesis, hopens, hcloses, if_neg Bool.false_ne_true, if_neg Bool.false_ne_true]

/-- Square brackets may take the place of angle brackets. -/
theorem exchanges_asSquare : Exchanges asSquare where
  opening c h := by
    simp only [opens, Bool.or_eq_true, beq_iff_eq] at h
    obtain (rfl | rfl) | rfl := h <;> rfl
  closing c h := by
    simp only [closes, Bool.or_eq_true, beq_iff_eq] at h
    obtain (rfl | rfl) | rfl := h <;> rfl
  plain c hopens hcloses := by
    simp only [opens, closes, Bool.or_eq_false_iff, beq_eq_false_iff_ne] at hopens hcloses
    rw [asSquare, if_neg hopens.1.1, if_neg hcloses.1.1]

namespace Exchanges

variable {f : Char → Char}

/-- No other character is put in the place of a bracket, nor a bracket in the place of another character. -/
theorem cases (hf : Exchanges f) (c : Char) :
    (opens c = true ∧ opens (f c) = true) ∨ (closes c = true ∧ closes (f c) = true) ∨
      (opens c = false ∧ closes c = false ∧ f c = c) := by
  cases hopens : opens c with
  | true => exact .inl ⟨rfl, hf.opening c hopens⟩
  | false =>
    cases hcloses : closes c with
    | true => exact .inr (.inl ⟨rfl, hf.closing c hcloses⟩)
    | false => exact .inr (.inr ⟨rfl, rfl, hf.plain c hopens hcloses⟩)

/-- What opens brackets still does, and nothing else. -/
theorem opens_eq (hf : Exchanges f) (c : Char) : opens (f c) = opens c := by
  obtain ⟨hc, hfc⟩ | ⟨hc, hfc⟩ | ⟨_, _, hfc⟩ := hf.cases c
  · rw [hc, hfc]
  · rw [opens_of_closes hc, opens_of_closes hfc]
  · rw [hfc]

/-- What closes brackets still does, and nothing else. -/
theorem closes_eq (hf : Exchanges f) (c : Char) : closes (f c) = closes c := by
  obtain ⟨hc, hfc⟩ | ⟨hc, hfc⟩ | ⟨_, _, hfc⟩ := hf.cases c
  · rw [closes_of_opens hc, closes_of_opens hfc]
  · rw [hc, hfc]
  · rw [hfc]

/-- A character that is no bracket is put in its own place only. -/
theorem eq_iff (hf : Exchanges f) {c d : Char} (hopens : opens d = false) (hcloses : closes d = false) :
    f c = d ↔ c = d := by
  constructor
  · rintro rfl
    rw [hf.opens_eq] at hopens
    rw [hf.closes_eq] at hcloses
    exact (hf.plain c hopens hcloses).symm
  · rintro rfl
    exact hf.plain c hopens hcloses

/-- The same characters are legal in type texts. -/
theorem isLegalChar_iff (hf : Exchanges f) (c : Char) : IsLegalChar (f c) ↔ IsLegalChar c := by
  obtain ⟨hc, hfc⟩ | ⟨hc, hfc⟩ | ⟨_, _, hfc⟩ := hf.cases c
  · exact iff_of_true (.inl hfc) (.inl hc)
  · exact iff_of_true (.inr (.inl hfc)) (.inr (.inl hc))
  · rw [hfc]

/-- The same characters are blank. -/
theorem isBlank_eq (hf : Exchanges f) (c : Char) : Text.isBlank (f c) = Text.isBlank c := by
  have hbracket : ∀ d : Char, opens d = true ∨ closes d = true → Text.isBlank d = false := by
    intro d hd
    simp only [opens, closes, Bool.or_eq_true, beq_iff_eq] at hd
    obtain ((rfl | rfl) | rfl) | ((rfl | rfl) | rfl) := hd <;> decide
  obtain ⟨hc, hfc⟩ | ⟨hc, hfc⟩ | ⟨_, _, hfc⟩ := hf.cases c
  · rw [hbracket _ (.inl hc), hbracket _ (.inl hfc)]
  · rw [hbracket _ (.inr hc), hbracket _ (.inr hfc)]
  · rw [hfc]

/-- The count of all brackets is the same. -/
theorem weight_all_eq (hf : Exchanges f) (c : Char) :
    BracketCount.all.weight (f c) = BracketCount.all.weight c := by
  rw [weight_all, weight_all, hf.opens_eq, hf.closes_eq]

/-- A text has blank ends if it has before brackets were exchanged. -/
theorem trim_eq_self_iff (hf : Exchanges f) (text : List Char) :
    Text.trim (text.map f) = text.map f ↔ Text.trim text = text := by
  have hends : ∀ text : List Char, Text.trim text = text ↔
      (∀ c ∈ text.head?, Text.isBlank c = false) ∧ ∀ c ∈ text.getLast?, Text.isBlank c = false :=
    fun text => ⟨fun h => ⟨fun _ => Text.head_of_trim_eq h, fun _ => Text.getLast_of_trim_eq h⟩,
      fun h => Text.trim_eq_self h.1 h.2⟩
  rw [hends, hends, List.head?_map, List.getLast?_map]
  simp only [Option.mem_def, Option.map_eq_some_iff, forall_exists_index, and_imp, forall_apply_eq_imp_iff₂,
    hf.isBlank_eq]

end Exchanges

namespace BracketCount

variable {count : BracketCount} {marked : Char → Bool} {f : Char → Char}

/-- The balance of a text is that of its characters. -/
theorem balance_map (hweight : ∀ c, count.weight (f c) = count.weight c) (text : List Char) :
    count.balance (text.map f) = count.balance text := by
  induction text with
  | nil => rfl
  | cons c text ih => rw [List.map_cons, balance_cons, balance_cons, hweight, ih]

/-- Which characters are enclosed depends on their marks and on what they add to the count. -/
theorem encloses_map_iff (hweight : ∀ c, count.weight (f c) = count.weight c)
    (hmarked : ∀ c, marked (f c) = marked c) {start : Int} (text : List Char) :
    count.Encloses marked start (text.map f) ↔ count.Encloses marked start text := by
  induction text generalizing start with
  | nil => rfl
  | cons c text ih => rw [List.map_cons, encloses_cons_iff, encloses_cons_iff, hmarked, hweight, ih]

end BracketCount

/-- The check accepts legal characters with paired brackets, and what is open before them is closed. -/
theorem checkFrom_eq_ok_iff (text rest : List Char) (depth : Nat) :
    checkFrom text depth rest = .ok () ↔ depthAfter depth rest = some 0 ∧ ∀ c ∈ rest, IsLegalChar c := by
  induction rest generalizing depth with
  | nil => cases depth <;> simp [checkFrom, depthAfter]
  | cons c rest ih =>
    rw [depthAfter_cons, List.forall_mem_cons, checkFrom.eq_def]
    simp only
    by_cases hopens : opens c = true
    · have hlegal : IsLegalChar c := .inl hopens
      simp [depthStep_of_opens, hopens, hlegal, ih]
    · by_cases hcloses : closes c = true
      · have hlegal : IsLegalChar c := .inr (.inl hcloses)
        cases depth with
        | zero => simp [depthStep_zero_of_closes, hopens, hcloses]
        | succ depth => simp [depthStep_of_closes, hopens, hcloses, hlegal, ih]
      · rw [if_neg hopens, if_neg hcloses]
        rw [Bool.not_eq_true] at hopens hcloses
        rw [depthStep_of_plain hopens hcloses, Option.bind_some]
        by_cases hplain : isPlain c = true
        · have hlegal : IsLegalChar c := .inr (.inr hplain)
          rw [if_pos hplain, ih]
          simp [hlegal]
        · have hillegal : ¬ IsLegalChar c := by simp [IsLegalChar, hopens, hcloses, hplain]
          simp [hplain, hillegal]

/-- Type texts are the texts of legal characters with paired brackets, except the empty one. -/
theorem check_eq_ok_iff (text : List Char) :
    check text = .ok () ↔ text ≠ [] ∧ Paired text ∧ ∀ c ∈ text, IsLegalChar c := by
  rw [check]
  cases text with
  | nil => simp
  | cons c text => simp [checkFrom_eq_ok_iff, Paired]

/-- As many brackets are open as were before they were exchanged. -/
theorem Exchanges.depthAfter_map {f : Char → Char} (hf : Exchanges f) (depth : Nat) (text : List Char) :
    depthAfter depth (text.map f) = depthAfter depth text := by
  induction text generalizing depth with
  | nil => rfl
  | cons c text ih =>
    have hstep : depthStep depth (f c) = depthStep depth c := by
      rw [depthStep, depthStep, hf.opens_eq, hf.closes_eq]
    rw [List.map_cons, depthAfter_cons, depthAfter_cons, hstep]
    exact congrArg _ (funext fun next => ih next)

/-- Brackets are paired if they were before they were exchanged. -/
theorem Exchanges.paired_map_iff {f : Char → Char} (hf : Exchanges f) (text : List Char) :
    Paired (text.map f) ↔ Paired text := by
  rw [Paired, Paired, hf.depthAfter_map]

/-- The same texts are type texts. -/
theorem Exchanges.check_eq_ok_iff {f : Char → Char} (hf : Exchanges f) (text : List Char) :
    check (text.map f) = .ok () ↔ check text = .ok () := by
  rw [TypeText.check_eq_ok_iff, TypeText.check_eq_ok_iff, hf.paired_map_iff, List.forall_mem_map]
  simp only [hf.isLegalChar_iff, ne_eq, List.map_eq_nil_iff]

end TypeText

namespace Segment

/-- The segment with its characters replaced. -/
def mapChars (f : Char → Char) : Segment → Segment
  | many => many
  | one glob => one ⟨glob.chars.map f⟩

/-- Replacing characters does not bring two `..` together. -/
theorem manyApart_map_iff (f : Char → Char) (segments : List Segment) :
    ManyApart (segments.map (mapChars f)) ↔ ManyApart segments := by
  have hmany : ∀ segment, mapChars f segment = many ↔ segment = many := by
    intro segment
    cases segment <;> simp [mapChars]
  refine not_congr ⟨?_, fun h => h.map (mapChars f)⟩
  rintro ⟨before, after, h⟩
  obtain ⟨front, back, rfl, hfront, _⟩ := List.map_eq_append_iff.mp h.symm
  obtain ⟨before', pair, rfl, _, hpair⟩ := List.map_eq_append_iff.mp hfront
  obtain ⟨first, rest, rfl, hfirst, hrest⟩ := List.map_eq_cons_iff.mp hpair
  obtain ⟨second, last, rfl, hsecond, hlast⟩ := List.map_eq_cons_iff.mp hrest
  obtain rfl := (hmany first).mp hfirst
  obtain rfl := (hmany second).mp hsecond
  obtain rfl := List.map_eq_nil_iff.mp hlast
  exact ⟨before', back, rfl⟩

end Segment

/-- The types of a method have nested brackets. -/
def CallSignature.HasNestedTypes (signature : CallSignature) : Prop :=
  TypeText.Nested signature.method.returnType.toList ∧
    ∀ param ∈ signature.method.params, TypeText.Nested param.toList

namespace Pointcut

open TypeText

/-- A text may be a parameter exactly if it may with parentheses in place of its brackets. -/
theorem legalParam_map_iff (token : List Char) : LegalParam (token.map asParenthesis) ↔ LegalParam token := by
  have hf := exchanges_asParenthesis
  have hcommas : BracketCount.all.Encloses (· == ',') 0 (token.map asParenthesis) ↔
      BracketCount.all.Encloses (· == ',') 0 token := by
    refine BracketCount.encloses_map_iff hf.weight_all_eq (fun c => ?_) token
    rw [Bool.eq_iff_iff, beq_iff_eq, beq_iff_eq]
    exact hf.eq_iff rfl rfl
  have hmany : token.map asParenthesis = ['.', '.'] ↔ token = ['.', '.'] := by
    match token with
    | [] => simp
    | [_] => simp
    | [first, second] => simp [hf.eq_iff (d := '.') rfl rfl]
    | _ :: _ :: _ :: _ => simp
  constructor
  · rintro ⟨htrimmed, hchecked, hne, henclosed⟩
    exact ⟨(hf.trim_eq_self_iff token).mp htrimmed, (hf.check_eq_ok_iff token).mp hchecked,
      mt hmany.mpr hne, hcommas.mp henclosed⟩
  · rintro ⟨htrimmed, hchecked, hne, henclosed⟩
    exact ⟨(hf.trim_eq_self_iff token).mpr htrimmed, (hf.check_eq_ok_iff token).mpr hchecked,
      mt hmany.mp hne, hcommas.mpr henclosed⟩

namespace Parts

/-- The patterns with parentheses for all brackets of parameters, and with square brackets for the angle
brackets of the result type. -/
def leveled (parts : Parts) : Parts :=
  { parts with
    returnType := parts.returnType.map asSquare
    params := parts.params.map (Segment.mapChars asParenthesis) }

/-- Square brackets count as angle brackets do. -/
theorem weight_asSquare (c : Char) :
    BracketCount.angleSquare.weight (asSquare c) = BracketCount.angleSquare.weight c := by
  by_cases hopens : c = '<'
  · subst hopens
    rfl
  · by_cases hcloses : c = '>'
    · subst hcloses
      rfl
    · rw [asSquare, if_neg hopens, if_neg hcloses]

/-- Patterns look as they have to exactly if they do with their brackets leveled. -/
theorem legal_leveled_iff (parts : Parts) : parts.leveled.Legal ↔ parts.Legal := by
  have hf := exchanges_asSquare
  have hchecked := hf.check_eq_ok_iff parts.returnType
  have hspaces : BracketCount.angleSquare.Encloses (· == ' ') 0 (parts.returnType.map asSquare) ↔
      BracketCount.angleSquare.Encloses (· == ' ') 0 parts.returnType := by
    refine BracketCount.encloses_map_iff weight_asSquare (fun c => ?_) _
    rw [Bool.eq_iff_iff, beq_iff_eq, beq_iff_eq]
    exact hf.eq_iff rfl rfl
  have hbalance := BracketCount.balance_map weight_asSquare parts.returnType
  have hparams : (∀ glob, .one glob ∈ parts.leveled.params → LegalParam glob.chars) ↔
      ∀ glob, .one glob ∈ parts.params → LegalParam glob.chars := by
    constructor
    · intro h glob hglob
      exact (legalParam_map_iff glob.chars).mp (h _ (List.mem_map.mpr ⟨.one glob, hglob, rfl⟩))
    · intro h glob hglob
      obtain ⟨segment, hsegment, hone⟩ := List.mem_map.mp hglob
      cases segment with
      | many => cases hone
      | one other =>
        cases hone
        exact (legalParam_map_iff other.chars).mpr (h other hsegment)
  have hapart := Segment.manyApart_map_iff asParenthesis parts.params
  constructor
  · intro h
    exact { h with
      return_checked := hchecked.mp h.return_checked
      return_spaces := hspaces.mp h.return_spaces
      return_balanced := hbalance.symm.trans h.return_balanced
      params_legal := hparams.mp h.params_legal
      params_apart := hapart.mp h.params_apart }
  · intro h
    exact { h with
      return_checked := hchecked.mpr h.return_checked
      return_spaces := hspaces.mpr h.return_spaces
      return_balanced := hbalance.trans h.return_balanced
      params_legal := hparams.mpr h.params_legal
      params_apart := hapart.mpr h.params_apart }

end Parts

/-- Patterns that look as they have to are read from their canonical text. -/
theorem read_render_of_legal {parts : Parts} (h : parts.Legal) :
    ∃ pointcut, read (String.ofList parts.render) = .ok pointcut ∧ pointcut.parts = parts := by
  refine ⟨parts.toPointcut, ?_, rfl⟩
  rw [read, parse_render_of_legal h]
  rfl

/-- A text shows a type in a pointcut: the result type, or a parameter other than `..`. -/
def HasType (pointcut : Pointcut) (chars : List Char) : Prop :=
  chars = pointcut.returnPattern.chars ∨ .one ⟨chars⟩ ∈ pointcut.argsPattern

/-- The types of what is read are type texts. -/
theorem check_of_parse {text : String} {pointcut : Pointcut} (h : parse text = .ok pointcut) {chars : List Char}
    (hchars : pointcut.HasType chars) : check chars = .ok () := by
  have hlegal := legal_of_parse h
  obtain rfl | hparam := hchars
  · exact hlegal.return_checked
  · exact (hlegal.params_legal ⟨chars⟩ hparam).checked

/-- A glob without stars that takes part in covering nested types is nested. -/
theorem nested_of_covers {segments : List Segment} {parts : List (List Char)}
    (h : Segment.Covers segments parts) (hparts : ∀ part ∈ parts, Nested part) {glob : Glob}
    (hglob : .one glob ∈ segments) (hstar : '*' ∉ glob.chars) : Nested glob.chars := by
  induction h with
  | nil => exact absurd hglob List.not_mem_nil
  | many pieces _ ih =>
    obtain hmany | hrest := List.mem_cons.mp hglob
    · cases hmany
    · exact ih (fun part hpart => hparts part (List.mem_append_right _ hpart)) hrest
  | one hfits _ ih =>
    obtain ⟨hfirst, hothers⟩ := List.forall_mem_cons.mp hparts
    obtain hone | hrest := List.mem_cons.mp hglob
    · cases hone
      rwa [(Glob.fits_literal_iff hstar).mp hfits] at hfirst
    · exact ih hothers hrest

/-- A method has the types that a pointcut which selects it shows without stars. -/
theorem nested_of_accepts {pointcut : Pointcut} {signature : CallSignature}
    (h : pointcut.accepts signature = true) (hnested : signature.HasNestedTypes) {chars : List Char}
    (hchars : pointcut.HasType chars) (hstar : '*' ∉ chars) : Nested chars := by
  simp only [accepts, Bool.and_eq_true] at h
  obtain ⟨⟨⟨hreturn, -⟩, -⟩, hargs⟩ := h
  obtain rfl | hparam := hchars
  · have hsame := (Glob.fits_literal_iff hstar).mp ((Glob.accepts_iff _ _).mp hreturn)
    rw [← hsame]
    exact hnested.1
  · refine nested_of_covers ((Segment.coverAll_iff _ _).mp hargs) ?_ hparam hstar
    intro part hpart
    obtain ⟨param, hmem, rfl⟩ := List.mem_map.mp hpart
    exact hnested.2 param hmem

/-- Reading pairs brackets and does not compare their kinds. A text is refused as malformed, or it becomes a
pointcut whose types have paired brackets, which are nested exactly if those that belong together are of one kind.
If they are not, the pointcut selects no method with nested types, unless the type has stars. Whether they are does
not matter to reading: if parentheses take the place of all brackets of parameters, and square brackets the place
of the angle brackets of the result type, whatever then shows the same patterns is read as well. -/
theorem brackets_paired_of_any_kind (text : String) :
    (∃ fault, read text = .error (.configuration (.pointcut (String.ofList (Text.trim text.toList)) fault))) ∨
    ∃ pointcut, read text = .ok pointcut ∧
      (∀ chars, pointcut.HasType chars → Paired chars ∧ (Nested chars ↔ OfOneKind chars)) ∧
      (∀ chars, pointcut.HasType chars → '*' ∉ chars → ¬ OfOneKind chars →
        ∀ signature : CallSignature, signature.HasNestedTypes → pointcut.accepts signature = false) ∧
      ∀ parts : Parts, parts.leveled = pointcut.parts.leveled →
        ∃ other, read (String.ofList parts.render) = .ok other ∧ other.parts = parts := by
  cases hparse : parse text with
  | error fault =>
    have htext : fault.1 = String.ofList (Text.trim text.toList) := by
      rw [parse] at hparse
      split at hparse <;> cases hparse
      rfl
    have hread : read text = .error (.configuration (.pointcut fault.1 fault.2)) := by
      rw [read, hparse]
      rfl
    exact .inl ⟨fault.2, htext ▸ hread⟩
  | ok pointcut =>
    have hread : read text = .ok pointcut := by
      rw [read, hparse]
      rfl
    have hpaired : ∀ chars, pointcut.HasType chars → Paired chars :=
      fun chars hchars => ((check_eq_ok_iff chars).mp (check_of_parse hparse hchars)).2.1
    refine .inr ⟨pointcut, hread, fun chars hchars => ⟨hpaired chars hchars, ?_⟩, ?_, fun parts hlevel => ?_⟩
    · rw [nested_iff]
      exact and_iff_right (hpaired chars hchars)
    · intro chars hchars hstar hkind signature hnested
      rw [Bool.eq_false_iff]
      exact fun haccepts => hkind (nested_of_accepts haccepts hnested hchars hstar).ofOneKind
    · have hleveled : parts.leveled.Legal := hlevel ▸ (Parts.legal_leveled_iff _).mpr (legal_of_parse hparse)
      exact read_render_of_legal ((Parts.legal_leveled_iff parts).mp hleveled)

/-- A result type with brackets of two kinds is read, although its brackets are only paired, and the pointcut
selects nothing that has nested types. -/
theorem brackets_paired_of_any_kind_mixed :
    ∃ pointcut, read "Vec<u8] a.Svc.get((u8>)" = .ok pointcut ∧
      Paired pointcut.returnPattern.chars ∧ ¬ OfOneKind pointcut.returnPattern.chars ∧
      pointcut.accepts ⟨"a.Svc", "Svc", ⟨"get", ["(u8)"], "Vec<u8>"⟩⟩ = false := by
  obtain ⟨fault, hrefused⟩ | ⟨pointcut, hread, htypes, hnever, _⟩ :=
    brackets_paired_of_any_kind "Vec<u8] a.Svc.get((u8>)"
  · have hread : ∃ pointcut, read "Vec<u8] a.Svc.get((u8>)" = .ok pointcut := ⟨_, rfl⟩
    obtain ⟨pointcut, hread⟩ := hread
    rw [hrefused] at hread
    cases hread
  · have hreturn : pointcut.returnPattern.chars = "Vec<u8]".toList := by
      cases hread
      rfl
    obtain ⟨hpaired, hnested⟩ := htypes "Vec<u8]".toList (.inl hreturn.symm)
    have hkind : ¬ OfOneKind "Vec<u8]".toList := mt hnested.mpr (by decide)
    have hsignature : CallSignature.HasNestedTypes ⟨"a.Svc", "Svc", ⟨"get", ["(u8)"], "Vec<u8>"⟩⟩ := by
      refine ⟨by decide, fun param hparam => ?_⟩
      rw [List.mem_singleton.mp hparam]
      decide
    have hrefuses := hnever "Vec<u8]".toList (.inl hreturn.symm) (by decide) hkind _ hsignature
    exact ⟨pointcut, hread, hreturn ▸ hpaired, hreturn ▸ hkind, hrefuses⟩

/-- Not every pointcut that is read has nested brackets: those of `Vec<u8]` are not of one kind. -/
theorem brackets_not_compared :
    ¬ ∀ text pointcut, read text = .ok pointcut → ∀ chars, pointcut.HasType chars → Nested chars := by
  intro hall
  have hnested : Nested "Vec<u8]".toList := hall "Vec<u8] a.Svc.get(..)" _ rfl _ (.inl rfl)
  exact absurd hnested (by decide)

end Pointcut

end Interception
