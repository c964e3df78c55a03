import GraphSync.Proofs.Run.Floats

/-! # Values of a declared type

    An assignment that declares the type `str`, `int`, `float` or `bool` binds
    a string, a signed integer, a number or a truth value.  There is one
    exception: JSON has no number for an infinity or for that which is no
    number, and a float that is read as one of these is bound to null, without
    an error.  These are the names of such floats, and the decimal numbers that
    are too large for doubles (`Assignment.declared_type_is_kept_iff`). -/

namespace GraphSync.Assignment

/-! ## Types of values -/

/-- The types other than that of any JSON value. -/
def scalarTypes : List String := ["str", "int", "float", "bool"]

/-- The values of a type. -/
inductive OfType : String → Json → Prop
  | str (s : String) : OfType "str" (.string s)
  | int (n : Json.Integer) (signed : n.val ≤ Int64.maxValue.toInt) : OfType "int" (.integer n)
  | float (x : Double) : OfType "float" (.double x)
  | bool (b : Bool) : OfType "bool" (.bool b)

theorem OfType.ne_null {type : String} {v : Json} (h : OfType type v) : v ≠ .null := by
  cases h <;> simp

theorem ofType_int (n : Int64) : OfType "int" (.ofInt64 n) := .int (.ofInt64 n) n.toInt_le

/-- A float that is lost on the way to JSON: `raw` is its text. -/
def IsLost (type : String) (raw : List Char) : Prop :=
  type = "float" ∧ Literal.IsBeyondDoubles (Text.trim raw)

/-! ## What is bound -/

/-- What a text denotes in a type is either of that type or lost. -/
theorem Denotes.ofType_or_lost {raw : List Char} {type : String} {v : Json}
    (h : Denotes (String.ofList raw) type v) (htype : type ∈ scalarTypes) :
    OfType type v ∧ ¬ IsLost type raw ∨ v = .null ∧ IsLost type raw := by
  cases h with
  | str => exact .inl ⟨.str _, fun hlost => absurd hlost.1 (by decide)⟩
  | int => exact .inl ⟨ofType_int _, fun hlost => absurd hlost.1 (by decide)⟩
  | @float body x trims reads =>
    rw [String.toList_ofList] at trims
    have hlost : IsLost "float" raw ↔ x = .notFinite := by
      rw [IsLost, trims.trim_eq, ← Literal.readFloat_eq_notFinite_iff, reads, Except.ok.injEq,
        eq_self_iff_true, true_and]
    rw [hlost]
    cases x with
    | finite x => exact .inl ⟨.float x, by simp⟩
    | notFinite => exact .inr ⟨rfl, rfl⟩
  | bool => exact .inl ⟨.bool _, fun hlost => absurd hlost.1 (by decide)⟩
  | json => exact absurd htype (by decide)

/-- An assignment with a declared type binds a value of this type, and never
    null, except for a float that is lost: that one is always null. -/
theorem declared_type_is_kept_iff {text : String} {a : Assignment} {key raw : List Char}
    {name type : String} (hcut : Cuts '=' text.toList key raw) (hkey : Declares key name type)
    (htype : type ∈ scalarTypes) (hparse : parse text = .ok a) :
    (OfType type a.value ↔ ¬ IsLost type raw) ∧ (a.value = .null ↔ IsLost type raw) := by
  rw [parse_of_cut hcut hkey] at hparse
  split_ifs at hparse with hname
  obtain ⟨v, hv, rfl⟩ := map_eq_ok_iff.1 hparse
  rcases (readValue_eq_ok_iff.1 hv).ofType_or_lost htype with ⟨hof, hkept⟩ | ⟨rfl, hlost⟩
  · exact ⟨⟨fun _ => hkept, fun _ => hof⟩, fun hnull => absurd hnull hof.ne_null,
      fun hlost => absurd hlost hkept⟩
  · exact ⟨⟨fun hof => absurd rfl hof.ne_null, fun hkept => absurd hlost hkept⟩,
      fun _ => hlost, fun _ => rfl⟩

/-- A ratio is declared to be a float. -/
theorem declares_ratio : Declares "Ratio:float".toList "Ratio" "float" :=
  @Declares.typed _ "Ratio".toList "float".toList _ _ ⟨by decide, by decide⟩
    (Text.trim_eq_iff.1 (by decide)) (Text.trim_eq_iff.1 (by decide))

/-- A ratio that is larger than the largest double, but nearest to it. -/
theorem largest_ratio_is_kept :
    Cuts '=' "Ratio:float=1.797693134862315807e308".toList "Ratio:float".toList
      "1.797693134862315807e308".toList ∧
    "float" ∈ scalarTypes ∧
    parse "Ratio:float=1.797693134862315807e308" = .ok ⟨"Ratio", .double Double.largest⟩ ∧
    ¬ IsLost "float" "1.797693134862315807e308".toList := by
  have hcut : Cuts '=' "Ratio:float=1.797693134862315807e308".toList "Ratio:float".toList
      "1.797693134862315807e308".toList := ⟨by decide, by decide⟩
  have htype : "float" ∈ scalarTypes := by decide
  have hreads : Literal.readFloat "1.797693134862315807e308".toList =
      .ok (.finite Double.largest) := by decide +kernel
  have hparse : parse "Ratio:float=1.797693134862315807e308" =
      .ok ⟨"Ratio", .double Double.largest⟩ :=
    parse_eq_ok_iff.2 ⟨_, _, _, hcut, declares_ratio, by decide,
      .float (Text.trim_eq_iff.1 (by decide)) hreads⟩
  exact ⟨hcut, htype, hparse,
    (declared_type_is_kept_iff hcut declares_ratio htype hparse).1.1 (.float Double.largest)⟩

/-- A ratio that is no number is accepted, and bound to null. -/
theorem ratio_that_is_no_number_is_null :
    Cuts '=' "Ratio:float=nan".toList "Ratio:float".toList "nan".toList ∧
    Declares "Ratio:float".toList "Ratio" "float" ∧ "float" ∈ scalarTypes ∧
    parse "Ratio:float=nan" = .ok ⟨"Ratio", .null⟩ ∧ ¬ OfType "float" .null :=
  ⟨⟨by decide, by decide⟩, declares_ratio, by decide, by rfl, fun h => h.ne_null rfl⟩

end GraphSync.Assignment
