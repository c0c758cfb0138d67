import Interception.Proofs.TypedMethods

/-!
# Arguments that fit their parameters

Any list of values may reach a target, whatever its caller packed. The target takes its arguments one after the
other and is entered only if every parameter has an argument of its type. Then it gets exactly these arguments,
in their order, and what is left over does not matter. Otherwise the first parameter whose argument is missing
or has another type decides on the error, and no code of the target runs.
-/

namespace Interception

/-- The argument at a position is there and has the type of its parameter. -/
def Fits (types : List ValueType) (values : List Value) (index : Nat) : Prop :=
  ∃ value, values[index]? = some value ∧ types[index]? = some value.type

/-- What messages say of the argument at a position: the name of its type, or that it is missing. -/
def foundAt (values : List Value) (index : Nat) : String :=
  (values[index]?.map Value.typeName).getD "missing"

section

variable {type : ValueType} {types : List ValueType} {value : Value} {values : List Value}

/-- The first argument fits if it has the type of the first parameter. -/
theorem fits_cons_zero_iff : Fits (type :: types) (value :: values) 0 ↔ value.type = type := by
  simp [Fits, eq_comm]

/-- The other arguments fit as they do without the first one. -/
theorem fits_cons_succ_iff {index : Nat} :
    Fits (type :: types) (value :: values) (index + 1) ↔ Fits types values index := by
  simp [Fits]

/-- An argument that is missing does not fit. -/
theorem not_fits_nil (index : Nat) : ¬ Fits types [] index := by simp [Fits]

/-- Where the first argument fits, those before a position fit if those after the first do. -/
theorem fits_cons_of_lt {index : Nat} (htype : value.type = type)
    (h : ∀ earlier < index, Fits types values earlier) :
    ∀ earlier < index + 1, Fits (type :: types) (value :: values) earlier := by
  intro earlier hearlier
  cases earlier with
  | zero => exact fits_cons_zero_iff.mpr htype
  | succ earlier => exact fits_cons_succ_iff.mpr (h earlier (Nat.lt_of_succ_lt_succ hearlier))

end

/-- Taking arguments at the types of the parameters takes one for each of them if all fit, and stops at the
first that does not. -/
theorem ArgumentReader.takeAll_cases (types : List ValueType) (values : List Value) (start : Nat) :
    ((∀ index < types.length, Fits types values index) ∧
      (ArgumentReader.mk values start).takeAll types =
        .ok (values.take types.length, ⟨values.drop types.length, start + types.length⟩)) ∨
    ∃ index type, types[index]? = some type ∧ (∀ earlier < index, Fits types values earlier) ∧
      ¬ Fits types values index ∧
      (ArgumentReader.mk values start).takeAll types =
        .error (.argument (start + index) type.name (foundAt values index)) := by
  induction types generalizing values start with
  | nil => exact .inl ⟨fun index hindex => absurd hindex (Nat.not_lt_zero index), rfl⟩
  | cons type types ih =>
    cases values with
    | nil => exact .inr ⟨0, type, rfl, fun _ h => absurd h (Nat.not_lt_zero _), not_fits_nil 0, rfl⟩
    | cons value values =>
      by_cases htype : value.type = type
      · have htake : (ArgumentReader.mk (value :: values) start).take type =
            (.ok value, ⟨values, start + 1⟩) := by simp only [take, if_pos htype]
        rw [takeAll, htake]
        obtain ⟨hfits, htaken⟩ | ⟨index, found, hfound, hearlier, hmisfit, hrefused⟩ := ih values (start + 1)
        · refine .inl ⟨fits_cons_of_lt htype hfits, ?_⟩
          simp only [htaken, List.length_cons, List.take_succ_cons, List.drop_succ_cons]
          rw [Nat.add_assoc, Nat.add_comm 1]
        · refine .inr ⟨index + 1, found, hfound, fits_cons_of_lt htype hearlier,
            fun h => hmisfit (fits_cons_succ_iff.mp h), ?_⟩
          simp only [hrefused, foundAt, List.getElem?_cons_succ]
          rw [Nat.add_assoc, Nat.add_comm 1]
      · refine .inr ⟨0, type, rfl, fun _ h => absurd h (Nat.not_lt_zero _),
          fun h => htype (fits_cons_zero_iff.mp h), ?_⟩
        simp only [takeAll, take, if_neg htype]
        rfl

/-- Every value consists of something at its type. -/
theorem Value.exists_of (value : Value) :
    ∃ content : value.type.Carrier, Value.of value.type content = value := by
  cases value with
  | unit => exact ⟨(), rfl⟩
  | _ => exact ⟨_, rfl⟩

/-- Values that fit are arguments of the types. -/
theorem TypedValues.exists_values {types : List ValueType} {values : List Value}
    (h : ∀ index < types.length, Fits types values index) :
    ∃ contents : TypedValues types, contents.values = values.take types.length := by
  induction types generalizing values with
  | nil => exact ⟨nil, rfl⟩
  | cons type types ih =>
    cases values with
    | nil => exact absurd (h 0 (Nat.zero_lt_succ _)) (not_fits_nil 0)
    | cons value values =>
      have htype : value.type = type := fits_cons_zero_iff.mp (h 0 (Nat.zero_lt_succ _))
      subst htype
      obtain ⟨content, hcontent⟩ := value.exists_of
      obtain ⟨rest, hrest⟩ := ih fun index hindex =>
        fits_cons_succ_iff.mp (h (index + 1) (Nat.succ_lt_succ hindex))
      refine ⟨cons content rest, ?_⟩
      rw [TypedValues.values, hcontent, hrest]
      rfl

namespace TypedMethod

variable {types : List ValueType}

/-- What a call gets from a method for the arguments that reach it. -/
inductive Receives (method : TypedMethod types) (dial : Dialler) (values : List Value) :
    Run World CallResult → Prop where
  /-- All arguments fit: the method is entered with them, in their order, and answers. -/
  | entered (contents : TypedValues types) :
    (∀ index < types.length, Fits types values index) →
    contents.values = values.take types.length →
    Receives method dial values ((method.body contents).run (Ambient.answer dial) >>= fun answer =>
      pure (method.resultOf answer))
  /-- An argument does not fit: the method is not entered, and the error tells of the first such argument. -/
  | refused (index : Nat) (type : ValueType) :
    types[index]? = some type →
    (∀ earlier < index, Fits types values earlier) →
    ¬ Fits types values index →
    Receives method dial values (pure (.error (.argument index type.name (foundAt values index))))

/-- A method is entered exactly if all its arguments fit, and otherwise the call gets the error that tells of
the first that does not. -/
theorem receives_terminal (method : TypedMethod types) (dial : Dialler) (arguments : Arguments) :
    method.Receives dial arguments.values ((method.erase.terminal arguments).run (Ambient.answer dial)) := by
  obtain ⟨hfits, htaken⟩ | ⟨index, type, htype, hearlier, hmisfit, hrefused⟩ :=
    ArgumentReader.takeAll_cases types arguments.values 0
  · obtain ⟨contents, hcontents⟩ := TypedValues.exists_values hfits
    rw [← hcontents] at htaken
    rw [run_terminal_of_takeAll method contents (Ambient.answer dial) htaken]
    exact .entered contents hfits hcontents
  · have hterminal : method.erase.terminal arguments =
        .done (.error (.argument index type.name (foundAt arguments.values index))) := by
      have hrefused : (ArgumentReader.ofArguments arguments).takeAll method.erase.takes = _ := hrefused
      rw [TargetMethod.terminal, hrefused]
      simp only [Nat.zero_add]
    rw [hterminal]
    exact .refused index type htype hearlier hmisfit

end TypedMethod

end Interception
