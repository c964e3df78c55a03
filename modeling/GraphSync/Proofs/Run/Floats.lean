import GraphSync.Json.Number
import GraphSync.Proofs.Double.Range
import GraphSync.Proofs.Run.Assignments

/-! # The grammar of floats

    `Literal.IsDecimal text negative n e` says how the number `± n * 10 ^ e` is
    written: a sign, digits with a point, a power of ten, of which all but one
    digit may be missing.  Infinity and that which is no number have names
    (`Literal.IsSpecialName`).  The reader accepts these texts and no others
    (`Literal.readFloat_eq_ok_iff`).

    What is read is no double for the names, and for decimal numbers that are
    too large (`Literal.readFloat_eq_notFinite_iff`). -/

namespace GraphSync.Literal

deriving instance DecidableEq for FloatValue

/-! ## The grammar -/

/-- A sign, and whether it is minus. -/
inductive IsSign : List Char → Bool → Prop
  | absent : IsSign [] false
  | plus : IsSign ['+'] false
  | minus : IsSign ['-'] true

/-- Digits only. -/
def IsDigits (ds : List Char) : Prop := ∀ c ∈ ds, c.isDigit = true

/-- A point with digits after it, and these digits. -/
inductive IsFraction : List Char → List Char → Prop
  | absent : IsFraction [] []
  | point {ds : List Char} (digits : IsDigits ds) : IsFraction ('.' :: ds) ds

/-- A power of ten, and its exponent. -/
inductive IsPower : List Char → Int → Prop
  | absent : IsPower [] 0
  | written {letter : Char} {sign ds : List Char} {negative : Bool}
      (isLetter : letter = 'e' ∨ letter = 'E') (isSign : IsSign sign negative)
      (digits : IsDigits ds) (nonempty : ds ≠ []) :
      IsPower (letter :: (sign ++ ds)) (signed negative (Nat.ofDigitChars 10 ds 0))

/-- A decimal number without sign, `n * 10 ^ e`. -/
inductive IsUnsigned : List Char → Nat → Int → Prop
  | mk {whole point ds power : List Char} {e : Int} (digits : IsDigits whole)
      (fraction : IsFraction point ds) (nonempty : whole ++ ds ≠ []) (isPower : IsPower power e) :
      IsUnsigned (whole ++ (point ++ power)) (Nat.ofDigitChars 10 (whole ++ ds) 0) (e - ds.length)

/-- A decimal number, `± n * 10 ^ e`. -/
def IsDecimal (text : List Char) (negative : Bool) (n : Nat) (e : Int) : Prop :=
  ∃ sign body, text = sign ++ body ∧ IsSign sign negative ∧ IsUnsigned body n e

/-- A name of infinity or of that which is no number, in capitals or not. -/
def IsSpecialName (name : List Char) : Prop :=
  name.map Char.toLower ∈ ["inf".toList, "infinity".toList, "nan".toList]

/-- Such a name with a sign. -/
def IsSpecialText (text : List Char) : Prop :=
  ∃ sign negative name, text = sign ++ name ∧ IsSign sign negative ∧ IsSpecialName name

/-- What a decimal number is read as. -/
def decimalValue (negative : Bool) (n : Nat) (e : Int) : FloatValue :=
  match Double.ofDecimal? negative n e with
  | some x => .finite x
  | none => .notFinite

theorem decimalValue_eq_notFinite_iff {negative : Bool} {n : Nat} {e : Int} :
    decimalValue negative n e = .notFinite ↔ (Double.overflow : ℚ) ≤ n * 10 ^ e := by
  rw [← Double.ofDecimal?_eq_none_iff negative, decimalValue]
  cases Double.ofDecimal? negative n e <;> simp

/-! ## Digits -/

theorem digitsValue_eq {ds : List Char} (h : IsDigits ds) :
    Text.digitsValue 10 ds = Nat.ofDigitChars 10 ds 0 := by
  rw [Text.digitsValue, Nat.ofDigitChars_eq_foldl]
  refine List.foldl_ext _ _ 0 fun n c hc => ?_
  rw [Text.hexDigit?, if_pos (h c hc)]
  rfl

/-! ## Signs -/

/-- A text that begins with no sign. -/
def Unsigned (s : List Char) : Prop := ∀ c ∈ s.head?, c ≠ '-' ∧ c ≠ '+'

theorem readSign_append {sign s : List Char} {negative : Bool} (h : IsSign sign negative)
    (hs : Unsigned s) : Json.Literal.readSign (sign ++ s) = (negative, s) := by
  cases h with
  | absent =>
    rw [List.nil_append]
    unfold Json.Literal.readSign
    split
    · exact absurd rfl (hs '-' rfl).1
    · exact absurd rfl (hs '+' rfl).2
    · rfl
  | plus => rfl
  | minus => rfl

theorem exists_sign (s : List Char) :
    ∃ sign, IsSign sign (Json.Literal.readSign s).1 ∧ s = sign ++ (Json.Literal.readSign s).2 := by
  unfold Json.Literal.readSign
  split
  · exact ⟨_, .minus, rfl⟩
  · exact ⟨_, .plus, rfl⟩
  · exact ⟨_, .absent, rfl⟩

theorem IsDigits.unsigned {ds : List Char} (h : IsDigits ds) : Unsigned ds := by
  intro c hc
  have hdigit := h c (List.mem_of_mem_head? hc)
  constructor <;> (rintro rfl; exact absurd hdigit (by decide))

/-! ## Powers of ten -/

theorem readExponent?_cons (c : Char) (rest : List Char) :
    readExponent? (c :: rest) =
      if c = 'e' || c = 'E' then
        let (negative, ds) := Json.Literal.readSign rest
        if ds.isEmpty || !ds.all Char.isDigit then none
        else some (signed negative (Text.digitsValue 10 ds))
      else none := rfl

theorem readExponent?_eq_some_iff {s : List Char} {e : Int} :
    readExponent? s = some e ↔ IsPower s e := by
  constructor
  · intro h
    cases s with
    | nil =>
      cases h
      exact .absent
    | cons c rest =>
      obtain ⟨sign, hsign, hrest⟩ := exists_sign rest
      rw [readExponent?_cons] at h
      generalize Json.Literal.readSign rest = parts at *
      obtain ⟨negative, ds⟩ := parts
      dsimp only at h hsign hrest
      split_ifs at h with hletter hdigits
      cases h
      rw [Bool.or_eq_true, not_or, List.isEmpty_iff, Bool.not_eq_true, Bool.not_eq_false',
        List.all_eq_true] at hdigits
      rw [Bool.or_eq_true, decide_eq_true_eq, decide_eq_true_eq] at hletter
      rw [digitsValue_eq hdigits.2, hrest]
      exact .written hletter hsign hdigits.2 hdigits.1
  · intro h
    cases h with
    | absent => rfl
    | @written letter sign ds negative isLetter isSign digits nonempty =>
      have hdigits : ds.all Char.isDigit = true := List.all_eq_true.2 digits
      rw [readExponent?_cons, readSign_append isSign digits.unsigned]
      simp [isLetter, nonempty, hdigits, digitsValue_eq digits]

/-! ## Numbers without sign -/

theorem IsPower.head {s : List Char} {e : Int} (h : IsPower s e) :
    ∀ c ∈ s.head?, c ≠ '.' ∧ c.isDigit = false := by
  intro c hc
  cases h with
  | absent => cases hc
  | written isLetter =>
    cases hc
    rcases isLetter with rfl | rfl <;> decide

theorem IsFraction.head {point ds rest : List Char} (h : IsFraction point ds)
    (hrest : ∀ c ∈ rest.head?, c.isDigit = false) :
    ∀ c ∈ (point ++ rest).head?, c.isDigit = false := by
  cases h with
  | absent => exact hrest
  | point digits =>
    intro c hc
    cases hc
    decide

theorem readFraction_append {point ds rest : List Char} (h : IsFraction point ds)
    (hrest : ∀ c ∈ rest.head?, c ≠ '.' ∧ c.isDigit = false) :
    readFraction (point ++ rest) = (ds, rest) := by
  cases h with
  | absent =>
    rw [List.nil_append]
    unfold readFraction
    split
    · exact absurd rfl (hrest '.' rfl).1
    · rfl
  | point digits => exact Text.span_eq_iff.2 ⟨rfl, digits, fun c hc => (hrest c hc).2⟩

theorem exists_fraction (s : List Char) :
    ∃ point, IsFraction point (readFraction s).1 ∧ s = point ++ (readFraction s).2 := by
  unfold readFraction
  split
  · next rest =>
    obtain ⟨htext, hdigits, -⟩ := Text.span_eq_iff.1 (Prod.eta (rest.span Char.isDigit)).symm
    exact ⟨_, .point hdigits, congrArg (List.cons '.') htext⟩
  · exact ⟨_, .absent, rfl⟩

/-- The parts of a number, and what they are put together to. -/
theorem readFinite?_eq {negative : Bool} {s whole s' ds rest : List Char}
    (hwhole : s.span Char.isDigit = (whole, s')) (hfraction : readFraction s' = (ds, rest)) :
    readFinite? negative s =
      if whole ++ ds = [] then none
      else (readExponent? rest).map fun e =>
        decimalValue negative (Text.digitsValue 10 (whole ++ ds)) (e - ds.length) := by
  unfold readFinite?
  rw [hwhole]
  dsimp only
  rw [hfraction]
  simp only [Bool.and_eq_true, List.isEmpty_iff, List.append_eq_nil_iff]
  split
  · rfl
  · cases readExponent? rest <;> rfl

theorem IsFraction.digits {point ds : List Char} (h : IsFraction point ds) : IsDigits ds := by
  cases h with
  | absent => exact fun _ hc => nomatch hc
  | point digits => exact digits

theorem IsDigits.append {ds ds' : List Char} (h : IsDigits ds) (h' : IsDigits ds') :
    IsDigits (ds ++ ds') := fun c hc => (List.mem_append.1 hc).elim (h c) (h' c)

theorem readFinite?_eq_some_iff {negative : Bool} {s : List Char} {v : FloatValue} :
    readFinite? negative s = some v ↔
      ∃ n e, IsUnsigned s n e ∧ v = decimalValue negative n e := by
  constructor
  · intro h
    obtain ⟨htext, hwhole, -⟩ := Text.span_eq_iff.1 (Prod.eta (s.span Char.isDigit)).symm
    obtain ⟨point, hpoint, hfraction⟩ := exists_fraction (s.span Char.isDigit).2
    rw [readFinite?_eq (Prod.eta _).symm (Prod.eta _).symm] at h
    split_ifs at h with hnonempty
    obtain ⟨e, he, rfl⟩ := Option.map_eq_some_iff.1 h
    have hunsigned := IsUnsigned.mk hwhole hpoint hnonempty (readExponent?_eq_some_iff.1 he)
    rw [← hfraction, ← htext] at hunsigned
    exact ⟨_, _, hunsigned, by rw [digitsValue_eq (.append hwhole hpoint.digits)]⟩
  · rintro ⟨n, e, ⟨digits, fraction, nonempty, isPower⟩, rfl⟩
    have hspan := Text.span_eq_iff.2
      ⟨rfl, digits, fraction.head fun c hc => (isPower.head c hc).2⟩
    rw [readFinite?_eq hspan (readFraction_append fraction isPower.head), if_neg nonempty,
      readExponent?_eq_some_iff.2 isPower, digitsValue_eq (digits.append fraction.digits)]
    rfl

/-! ## Floats -/

theorem isSpecial_iff {s : List Char} : isSpecial s = true ↔ IsSpecialName s := by
  simp only [isSpecial, IsSpecialName, Bool.or_eq_true, beq_iff_eq, List.mem_cons,
    List.not_mem_nil, or_false, or_assoc]

theorem toLower_of_isDigit {c : Char} (h : c.isDigit = true) : c.toLower = c := by
  have hbounds := bounds_of_isDigit h
  unfold Char.toLower
  rw [dif_neg]
  rintro ⟨hcapital, -⟩
  have hlower : 65 ≤ c.toNat := UInt32.le_iff_toNat_le.1 hcapital
  omega

/-- The first character of a name is a letter. -/
theorem IsSpecialName.exists_head {s : List Char} (h : IsSpecialName s) :
    ∃ c rest, s = c :: rest ∧ (c.toLower = 'i' ∨ c.toLower = 'n') := by
  cases s with
  | nil => simp [IsSpecialName] at h
  | cons c rest =>
    refine ⟨c, rest, rfl, ?_⟩
    simp only [IsSpecialName, List.map_cons, List.mem_cons, List.not_mem_nil, or_false] at h
    rcases h with h | h | h
    · exact .inl (List.cons.inj h).1
    · exact .inl (List.cons.inj h).1
    · exact .inr (List.cons.inj h).1

/-- The first character of a number without sign is a digit or the point. -/
theorem IsUnsigned.exists_head {s : List Char} {n : Nat} {e : Int} (h : IsUnsigned s n e) :
    ∃ c rest, s = c :: rest ∧ (c.isDigit = true ∨ c = '.') := by
  obtain ⟨digits, fraction, nonempty, isPower⟩ := h
  rename_i whole point ds power e
  cases whole with
  | cons c whole => exact ⟨c, _, rfl, .inl (digits c List.mem_cons_self)⟩
  | nil =>
    cases fraction with
    | absent => exact absurd rfl nonempty
    | point => exact ⟨'.', _, rfl, .inr rfl⟩

theorem readFloat_eq (s : List Char) :
    readFloat s =
      let (negative, body) := Json.Literal.readSign s
      if s.isEmpty then .error .emptyFloat
      else if isSpecial body then .ok .notFinite
      else
        match readFinite? negative body with
        | some v => .ok v
        | none => .error .invalidFloat := rfl

/-- No number is a name. -/
theorem IsUnsigned.not_isSpecialName {s : List Char} {n : Nat} {e : Int} (h : IsUnsigned s n e) :
    ¬ IsSpecialName s := by
  intro hname
  obtain ⟨c, rest, rfl, hletter⟩ := hname.exists_head
  obtain ⟨_, _, heq, hdigit⟩ := h.exists_head
  cases heq
  rcases hdigit with hdigit | rfl
  · rw [toLower_of_isDigit hdigit] at hletter
    rcases hletter with rfl | rfl <;> exact absurd hdigit (by decide)
  · exact absurd hletter (by decide)

/-- Reading a float whose sign is known. -/
theorem readFloat_of_sign {sign rest : List Char} {negative : Bool} {c : Char}
    (hsign : IsSign sign negative) (hc : c ≠ '-' ∧ c ≠ '+') :
    readFloat (sign ++ c :: rest) =
      if isSpecial (c :: rest) then .ok .notFinite
      else
        match readFinite? negative (c :: rest) with
        | some v => .ok v
        | none => .error .invalidFloat := by
  have hbody : Unsigned (c :: rest) := by
    rintro d ⟨⟩
    exact hc
  rw [readFloat_eq, readSign_append hsign hbody]
  dsimp only
  rw [if_neg (by simp)]

/-- The texts that are read as floats, and what they are read as. -/
theorem readFloat_eq_ok_iff {s : List Char} {v : FloatValue} :
    readFloat s = .ok v ↔
      IsSpecialText s ∧ v = .notFinite ∨
        ∃ negative n e, IsDecimal s negative n e ∧ v = decimalValue negative n e := by
  constructor
  · intro h
    obtain ⟨sign, hsign, hs⟩ := exists_sign s
    rw [readFloat_eq] at h
    generalize Json.Literal.readSign s = parts at *
    obtain ⟨negative, body⟩ := parts
    dsimp only at h hsign hs
    split_ifs at h with hempty hname
    · cases h
      exact .inl ⟨⟨sign, negative, body, hs, hsign, isSpecial_iff.1 hname⟩, rfl⟩
    · split at h
      · next v' hread =>
        cases h
        obtain ⟨n, e, hbody, rfl⟩ := readFinite?_eq_some_iff.1 hread
        exact .inr ⟨negative, n, e, ⟨sign, body, hs, hsign, hbody⟩, rfl⟩
      · cases h
  · rintro (⟨⟨sign, negative, name, rfl, hsign, hname⟩, rfl⟩ |
      ⟨negative, n, e, ⟨sign, body, rfl, hsign, hbody⟩, rfl⟩)
    · obtain ⟨c, rest, rfl, hc⟩ := hname.exists_head
      have hsigns : c ≠ '-' ∧ c ≠ '+' := by
        constructor <;> (rintro rfl; exact absurd hc (by decide))
      rw [readFloat_of_sign hsign hsigns, if_pos (isSpecial_iff.2 hname)]
    · obtain ⟨c, rest, rfl, hc⟩ := hbody.exists_head
      have hsigns : c ≠ '-' ∧ c ≠ '+' := by
        constructor <;> (rintro rfl; exact absurd hc (by decide))
      rw [readFloat_of_sign hsign hsigns,
        if_neg fun hname => hbody.not_isSpecialName (isSpecial_iff.1 hname),
        readFinite?_eq_some_iff.2 ⟨n, e, hbody, rfl⟩]

/-- What no double is read for: a name, or a decimal number that is too
    large. -/
def IsBeyondDoubles (text : List Char) : Prop :=
  IsSpecialText text ∨
    ∃ negative n e, IsDecimal text negative n e ∧ (Double.overflow : ℚ) ≤ n * 10 ^ e

theorem readFloat_eq_notFinite_iff {s : List Char} :
    readFloat s = .ok .notFinite ↔ IsBeyondDoubles s := by
  simp only [readFloat_eq_ok_iff, IsBeyondDoubles, and_true, eq_comm (a := FloatValue.notFinite),
    decimalValue_eq_notFinite_iff]

end GraphSync.Literal
