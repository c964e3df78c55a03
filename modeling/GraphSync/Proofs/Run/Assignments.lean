import Mathlib.Data.List.Basic
import GraphSync.Proofs.Text.Span
import GraphSync.Run.Assignment

/-! # The grammar of assignments

    `Assignment.Writes` is the grammar without the reader: where a text is
    cut, what is trimmed, and what each type takes for a value.  The reader
    accepts what the grammar writes, and no text is written in two ways
    (`Assignment.parse_eq_ok_iff`).

    A value of type `str`, and one without a type, is the text after the first
    equals sign as it stands.  The decimal text of an `Int64` is read back
    (`Literal.readInt64_toString`). -/

namespace GraphSync

/-! ## Trimming -/

namespace Text

/-- `inner` is what `s` holds between the blanks at its two ends. -/
structure Trims (s inner : List Char) : Prop where
  cover : ∃ left right, s = left ++ (inner ++ right) ∧
    (∀ c ∈ left, isBlank c = true) ∧ ∀ c ∈ right, isBlank c = true
  head : ∀ c ∈ inner.head?, isBlank c = false
  last : ∀ c ∈ inner.getLast?, isBlank c = false

/-- Blanks before and after a text without blanks at its ends are what
    trimming removes. -/
theorem Trims.trim_eq {s inner : List Char} (h : Trims s inner) : trim s = inner := by
  obtain ⟨left, right, rfl, hleft, hright⟩ := h.cover
  unfold trim
  rw [List.dropWhile_append_of_pos hleft]
  rcases List.eq_nil_or_concat inner with rfl | ⟨front, c, rfl⟩
  · -- a text of blanks only is used up from the left
    rw [List.nil_append, List.dropWhile_eq_nil_iff.2 hright]
    rfl
  · have hhead : ∀ d ∈ (front.concat c ++ right).head?, isBlank d = false := by
      intro d hd
      refine h.head d ?_
      rw [List.head?_append_of_ne_nil] at hd
      · exact hd
      · simp
    have hlast : ∀ d ∈ (front.concat c).reverse.head?, isBlank d = false := by
      rw [List.head?_reverse]
      exact h.last
    -- seen from the end, `right` comes first and `inner` after it
    have hreverse : ∀ d ∈ right.reverse, isBlank d = true := fun d hd =>
      hright d (List.mem_reverse.1 hd)
    rw [dropWhile_eq_self_of_head hhead, List.reverse_append,
      List.dropWhile_append_of_pos hreverse, dropWhile_eq_self_of_head hlast, List.reverse_reverse]

/-- The blanks at the end of a text, which trimming it from the left leaves. -/
theorem exists_trim_append (s : List Char) :
    ∃ right, trim s ++ right = s.dropWhile isBlank ∧ ∀ c ∈ right, isBlank c = true := by
  refine ⟨((s.dropWhile isBlank).reverse.takeWhile isBlank).reverse, ?_, fun c hc =>
    List.mem_takeWhile_imp (List.mem_reverse.1 hc)⟩
  unfold trim
  rw [← List.reverse_append, List.takeWhile_append_dropWhile, List.reverse_reverse]

theorem trims_trim (s : List Char) : Trims s (trim s) := by
  obtain ⟨right, hright, hblank⟩ := exists_trim_append s
  refine ⟨⟨s.takeWhile isBlank, right, ?_, fun c hc => List.mem_takeWhile_imp hc, hblank⟩, ?_, ?_⟩
  · rw [hright, List.takeWhile_append_dropWhile]
  · -- the first character is that of what trimming from the left has left
    intro c hc
    refine head_dropWhile s c ?_
    rw [← hright]
    exact List.mem_head?_append_of_mem_head? hc
  · unfold trim
    rw [List.getLast?_reverse]
    exact head_dropWhile _

/-- A text without blanks. -/
theorem Trims.of_forall {s : List Char} (h : ∀ c ∈ s, isBlank c = false) : Trims s s where
  cover := ⟨[], [], by rw [List.nil_append, List.append_nil], by simp, by simp⟩
  head := fun c hc => h c (List.mem_of_mem_head? hc)
  last := fun c hc => h c (List.mem_of_mem_getLast? hc)

theorem trim_eq_iff {s inner : List Char} : trim s = inner ↔ Trims s inner := by
  constructor
  · rintro rfl
    exact trims_trim s
  · exact Trims.trim_eq

end Text

/-! ## Decimal texts -/

namespace Literal

theorem bounds_of_isDigit {c : Char} (h : c.isDigit = true) : 48 ≤ c.toNat ∧ c.toNat ≤ 57 := by
  simp only [Char.isDigit, Bool.and_eq_true, decide_eq_true_eq] at h
  exact ⟨UInt32.le_iff_toNat_le.1 h.1, UInt32.le_iff_toNat_le.1 h.2⟩

/-- A number or its opposite. -/
def signed (negative : Bool) (n : Nat) : Int := if negative then -n else n

/-- The range of signed 64-bit numbers. -/
def Fits (x : Int) : Prop := Int64.minValue.toInt ≤ x ∧ x ≤ Int64.maxValue.toInt

theorem Fits.of_le {negative : Bool} {n m : Nat} (h : Fits (signed negative m)) (hle : n ≤ m) :
    Fits (signed negative n) := by
  have hmin : Int64.minValue.toInt ≤ 0 := by decide
  have hmax : 0 ≤ Int64.maxValue.toInt := by decide
  obtain ⟨hlower, hupper⟩ := h
  cases negative
  · simp only [signed, Bool.false_eq_true, if_false] at hlower hupper ⊢
    exact ⟨by omega, by omega⟩
  · simp only [signed, if_true] at hlower hupper ⊢
    exact ⟨by omega, by omega⟩

theorem le_ofDigitChars (ds : List Char) (n : Nat) : n ≤ Nat.ofDigitChars 10 ds n := by
  induction ds generalizing n with
  | nil => exact le_refl n
  | cons c rest ih =>
    rw [Nat.ofDigitChars_cons]
    have hrest := ih (10 * n + (c.toNat - '0'.toNat))
    omega

/-- Digits are read to the number that they write if that is in range, as then
    all on the way to it are. -/
theorem readDigits_eq_ok {negative : Bool} {ds : List Char} {n : Nat}
    (hdigits : ∀ c ∈ ds, c.isDigit = true)
    (hfits : Fits (signed negative (Nat.ofDigitChars 10 ds n))) :
    readDigits negative (signed negative n) ds =
      .ok (signed negative (Nat.ofDigitChars 10 ds n)) := by
  -- on the digits, for any number that has been read before them
  induction ds generalizing n with
  | nil => rfl
  | cons c rest ih =>
    obtain ⟨hc, hrest⟩ := List.forall_mem_cons.1 hdigits
    rw [Nat.ofDigitChars_cons] at hfits ⊢
    -- one step of the reader, up or down
    have hnext : (if negative then 10 * signed negative n - ((c.toNat : Int) - 48)
        else 10 * signed negative n + ((c.toNat : Int) - 48)) =
          signed negative (10 * n + (c.toNat - '0'.toNat)) := by
      obtain ⟨hlower, -⟩ := bounds_of_isDigit hc
      have hzero : '0'.toNat = 48 := rfl
      cases negative
      · simp only [signed, Bool.false_eq_true, if_false]
        omega
      · simp only [signed, if_true]
        omega
    have hrange := hfits.of_le (le_ofDigitChars rest _)
    simp only [readDigits, if_pos hc]
    rw [hnext, if_neg (Int.not_lt.2 hrange.1), if_neg (Int.not_lt.2 hrange.2)]
    exact ih hrest hfits

/-- The decimal text of a number in range, after its sign. -/
theorem readMagnitude_toDigits {negative : Bool} {n : Nat} (hfits : Fits (signed negative n)) :
    readMagnitude negative (Nat.toDigits 10 n) = .ok (signed negative n) := by
  have hvalue : Nat.ofDigitChars 10 (Nat.toDigits 10 n) 0 = n :=
    Nat.ofDigitChars_toDigits (by decide) (by decide)
  have hdigits : ∀ c ∈ Nat.toDigits 10 n, c.isDigit = true := fun c hc =>
    Nat.isDigit_of_mem_toDigits (by decide) (by decide) hc
  have hread : readDigits negative (signed negative 0) (Nat.toDigits 10 n) =
      .ok (signed negative n) := by
    rw [readDigits_eq_ok hdigits (by rw [hvalue]; exact hfits), hvalue]
  have hzero : signed negative 0 = 0 := by cases negative <;> rfl
  rw [hzero] at hread
  cases hds : Nat.toDigits 10 n with
  | nil => exact absurd hds Nat.toDigits_ne_nil
  | cons c rest =>
    rw [hds] at hread
    exact hread

/-- A text that starts with a digit has no sign. -/
theorem readInt64_of_digit {c : Char} (hc : c.isDigit = true) (rest : List Char) :
    readInt64 (c :: rest) = Int64.ofInt <$> readMagnitude false (c :: rest) := by
  unfold readInt64
  -- neither sign is a digit
  split
  · contradiction
  · rename_i h
    obtain ⟨rfl, -⟩ := List.cons_eq_cons.1 h
    exact absurd hc (by decide)
  · rename_i h
    obtain ⟨rfl, -⟩ := List.cons_eq_cons.1 h
    exact absurd hc (by decide)
  · rfl

theorem isDigit_of_mem_toDigits {m : Nat} : ∀ c ∈ Nat.toDigits 10 m, c.isDigit = true := fun _ hc =>
  Nat.isDigit_of_mem_toDigits (by decide) (by decide) hc

/-- Digits behind a minus sign or behind nothing. -/
theorem readInt64_signed {negative : Bool} {m : Nat} (hfits : Fits (signed negative m)) :
    readInt64 ((if negative then ['-'] else []) ++ Nat.toDigits 10 m) =
      .ok (Int64.ofInt (signed negative m)) := by
  have hread := readMagnitude_toDigits hfits
  cases negative with
  | true =>
    show Int64.ofInt <$> readMagnitude true (Nat.toDigits 10 m) = _
    rw [hread]
    rfl
  | false =>
    have hdigits := isDigit_of_mem_toDigits (m := m)
    show readInt64 (Nat.toDigits 10 m) = _
    cases hds : Nat.toDigits 10 m with
    | nil => exact absurd hds Nat.toDigits_ne_nil
    | cons c rest =>
      rw [hds] at hread hdigits
      rw [readInt64_of_digit (hdigits c List.mem_cons_self), hread]
      rfl

/-- The decimal text of a number is its sign, if it is negative, and digits. -/
theorem exists_toString (n : Int64) : ∃ negative m, n.toInt = signed negative m ∧
    (toString n).toList = (if negative then ['-'] else []) ++ Nat.toDigits 10 m := by
  show ∃ negative m, n.toInt = signed negative m ∧ n.toInt.repr.toList = _
  cases n.toInt with
  | ofNat m =>
    refine ⟨false, m, rfl, ?_⟩
    show (Nat.repr m).toList = Nat.toDigits 10 m
    rw [Nat.repr_eq_ofList_toDigits, String.toList_ofList]
  | negSucc m =>
    refine ⟨true, m + 1, rfl, ?_⟩
    show ("-" ++ Nat.repr (m + 1)).toList = '-' :: Nat.toDigits 10 (m + 1)
    simp only [Nat.repr_eq_ofList_toDigits, String.toList_append, String.toList_ofList]
    rfl

/-- The decimal text of a signed 64-bit number is read as that number. -/
theorem readInt64_toString (n : Int64) : readInt64 (toString n).toList = .ok n := by
  have hfits : Fits n.toInt := ⟨n.le_toInt, n.toInt_le⟩
  obtain ⟨negative, m, hn, htext⟩ := exists_toString n
  rw [hn] at hfits
  rw [htext, readInt64_signed hfits, ← hn, Int64.ofInt_toInt]

theorem not_isBlank_toString (n : Int64) : ∀ c ∈ (toString n).toList, Text.isBlank c = false := by
  intro c hc
  obtain ⟨negative, m, -, htext⟩ := exists_toString n
  rw [htext, List.mem_append] at hc
  rcases hc with hsign | hdigit
  · cases negative with
    | false => cases hsign
    | true =>
      rw [List.mem_singleton.1 hsign]
      decide
  · obtain ⟨hlower, hupper⟩ := bounds_of_isDigit (isDigit_of_mem_toDigits c hdigit)
    simp only [Text.isBlank, Bool.or_eq_false_iff, Bool.and_eq_false_iff, decide_eq_false_iff_not,
      beq_eq_false_iff_ne]
    omega

end Literal

/-! ## The grammar -/

namespace Assignment

/-- `s` is cut at the first `sep`. -/
structure Cuts (sep : Char) (s before after : List Char) : Prop where
  text : s = before ++ sep :: after
  first : sep ∉ before

/-- What stands before the equals sign: a name, and a type after the first
    colon if there is one. -/
inductive Declares (key : List Char) : String → String → Prop
  | untyped {name : String} (colon : ':' ∉ key) (trims : Text.Trims key name.toList) :
      Declares key name "str"
  | typed {before after : List Char} {name type : String} (cuts : Cuts ':' key before after)
      (name_trims : Text.Trims before name.toList) (type_trims : Text.Trims after type.toList) :
      Declares key name type

/-- What stands after the equals sign, as a value of a type. -/
inductive Denotes (raw : String) : String → Json → Prop
  | str : Denotes raw "str" (.string raw)
  | int {body : List Char} {n : Int64} (trims : Text.Trims raw.toList body)
      (reads : Literal.readInt64 body = .ok n) : Denotes raw "int" (.ofInt64 n)
  | float {body : List Char} {x : Literal.FloatValue} (trims : Text.Trims raw.toList body)
      (reads : Literal.readFloat body = .ok x) : Denotes raw "float" (floatValue x)
  | bool {body : List Char} {b : Bool} (trims : Text.Trims raw.toList body)
      (reads : Literal.readBool body = .ok b) : Denotes raw "bool" (.bool b)
  | json {v : Json} (reads : Json.parse? raw = some v) : Denotes raw "json" v

/-- The text of an assignment. -/
def Writes (text : String) (a : Assignment) : Prop :=
  ∃ key raw type, Cuts '=' text.toList key raw ∧ Declares key a.name type ∧ a.name ≠ "" ∧
    Denotes (String.ofList raw) type a.value

/-! ## What the reader accepts -/

theorem splitAt?_eq_none_iff {sep : Char} {s : List Char} : splitAt? sep s = none ↔ sep ∉ s := by
  induction s with
  | nil => simp [splitAt?]
  | cons c rest ih =>
    by_cases hc : c = sep
    · simp [splitAt?, hc]
    · simp [splitAt?, hc, ih, Ne.symm hc]

theorem splitAt?_eq_some_iff {sep : Char} {s before after : List Char} :
    splitAt? sep s = some (before, after) ↔ Cuts sep s before after := by
  constructor
  · -- on the text, since the reader goes through it
    intro h
    induction s generalizing before with
    | nil => cases h
    | cons c rest ih =>
      by_cases hc : c = sep
      · rw [splitAt?, if_pos hc] at h
        cases h
        exact ⟨by rw [hc, List.nil_append], List.not_mem_nil⟩
      · rw [splitAt?, if_neg hc, Option.map_eq_some_iff] at h
        obtain ⟨⟨front, _⟩, hrest, hpair⟩ := h
        cases hpair
        obtain ⟨htext, hfirst⟩ := ih hrest
        refine ⟨by rw [htext, List.cons_append], ?_⟩
        rw [List.mem_cons, not_or]
        exact ⟨Ne.symm hc, hfirst⟩
  · -- on what stands before the cut, all of which is passed over
    rintro ⟨rfl, hfirst⟩
    induction before with
    | nil => rw [List.nil_append, splitAt?, if_pos rfl]
    | cons c rest ih =>
      rw [List.mem_cons, not_or] at hfirst
      rw [List.cons_append, splitAt?, if_neg (Ne.symm hfirst.1), ih hfirst.2]
      rfl

theorem nameAndType_eq_iff {key : List Char} {name type : String} :
    nameAndType key = (name.toList, type) ↔ Declares key name type := by
  unfold nameAndType
  constructor
  · intro h
    cases hcut : splitAt? ':' key with
    | none =>
      rw [hcut, Prod.mk.injEq] at h
      obtain ⟨hname, rfl⟩ := h
      exact .untyped (splitAt?_eq_none_iff.1 hcut) (Text.trim_eq_iff.1 hname)
    | some cut =>
      obtain ⟨before, after⟩ := cut
      rw [hcut, Prod.mk.injEq] at h
      obtain ⟨hname, rfl⟩ := h
      refine .typed (splitAt?_eq_some_iff.1 hcut) (Text.trim_eq_iff.1 hname) ?_
      rw [String.toList_ofList]
      exact Text.trims_trim after
  · intro h
    cases h with
    | untyped colon trims => rw [splitAt?_eq_none_iff.2 colon, trims.trim_eq]
    | typed cuts name_trims type_trims =>
      rw [splitAt?_eq_some_iff.2 cuts]
      show (Text.trim _, String.ofList (Text.trim _)) = _
      rw [name_trims.trim_eq, type_trims.trim_eq, String.ofList_toList]

theorem map_eq_ok_iff {ε α β : Type} {x : Except ε α} {f : α → β} {b : β} :
    x.map f = .ok b ↔ ∃ a, x = .ok a ∧ f a = b := by
  cases x <;> simp [Except.map]

theorem mapError_map_eq_ok_iff {ε ε' α β : Type} {x : Except ε α} {f : α → β} {g : ε → ε'} {b : β} :
    (x.map f).mapError g = .ok b ↔ ∃ a, x = .ok a ∧ f a = b := by
  cases x <;> simp [Except.map, Except.mapError]

theorem readValue_eq_ok_iff {name type raw : String} {v : Json} :
    readValue name type raw = .ok v ↔ Denotes raw type v := by
  unfold readValue
  constructor
  · -- the types in the order in which they are tried
    intro h
    split_ifs at h with hstr hint hfloat hbool hjson
    · cases h
      exact hstr ▸ .str
    · obtain ⟨n, hn, rfl⟩ := mapError_map_eq_ok_iff.1 h
      exact hint ▸ .int (Text.trims_trim _) hn
    · obtain ⟨x, hx, rfl⟩ := mapError_map_eq_ok_iff.1 h
      exact hfloat ▸ .float (Text.trims_trim _) hx
    · obtain ⟨b, hb, rfl⟩ := mapError_map_eq_ok_iff.1 h
      exact hbool ▸ .bool (Text.trims_trim _) hb
    · split at h
      · rename_i w hw
        cases h
        exact hjson ▸ .json hw
      · cases h
  · intro h
    cases h with
    | str => rfl
    | int trims reads => exact mapError_map_eq_ok_iff.2 ⟨_, trims.trim_eq ▸ reads, rfl⟩
    | float trims reads => exact mapError_map_eq_ok_iff.2 ⟨_, trims.trim_eq ▸ reads, rfl⟩
    | bool trims reads => exact mapError_map_eq_ok_iff.2 ⟨_, trims.trim_eq ▸ reads, rfl⟩
    | json reads =>
      simp only [reads]
      rfl

/-- Reading a text whose cut is known, and the name and type before it. -/
theorem parse_of_cut {text : String} {key raw : List Char} {name type : String}
    (hcut : Cuts '=' text.toList key raw) (hkey : Declares key name type) :
    parse text = if name = "" then .error (.noName text)
      else (readValue name type (String.ofList raw)).map fun value => { name, value } := by
  have hempty : name.toList.isEmpty = true ↔ name = "" := by
    rw [List.isEmpty_iff, String.toList_eq_nil_iff]
  unfold parse
  rw [splitAt?_eq_some_iff.2 hcut]
  simp only [nameAndType_eq_iff.2 hkey, String.ofList_toList, hempty]

theorem exists_declares (key : List Char) : ∃ name type, Declares key name type := by
  refine ⟨String.ofList (nameAndType key).1, (nameAndType key).2, nameAndType_eq_iff.1 ?_⟩
  rw [String.toList_ofList]

/-- A text is read as an assignment if and only if the grammar writes that one
    so. -/
theorem parse_eq_ok_iff {text : String} {a : Assignment} : parse text = .ok a ↔ Writes text a := by
  constructor
  · intro h
    cases hcut : splitAt? '=' text.toList with
    | none =>
      rw [parse, hcut] at h
      cases h
    | some cut =>
      obtain ⟨key, raw⟩ := cut
      obtain ⟨name, type, hkey⟩ := exists_declares key
      rw [splitAt?_eq_some_iff] at hcut
      rw [parse_of_cut hcut hkey] at h
      split_ifs at h with hname
      obtain ⟨v, hv, rfl⟩ := map_eq_ok_iff.1 h
      exact ⟨key, raw, type, hcut, hkey, hname, readValue_eq_ok_iff.1 hv⟩
  · rintro ⟨key, raw, type, hcut, hkey, hname, hvalue⟩
    rw [parse_of_cut hcut hkey, if_neg hname, readValue_eq_ok_iff.2 hvalue]
    rfl

/-! ## Names without separators -/

/-- A name that is not empty, has neither separator and no blank at its ends. -/
structure IsName (name : String) : Prop where
  nonempty : name ≠ ""
  no_equals : '=' ∉ name.toList
  no_colon : ':' ∉ name.toList
  trimmed : Text.trim name.toList = name.toList

variable {name : String}

theorem IsName.writes_untyped (h : IsName name) (s : String) :
    Writes (name ++ "=" ++ s) ⟨name, .string s⟩ := by
  refine ⟨name.toList, s.toList, "str", ⟨?_, h.no_equals⟩,
    .untyped h.no_colon (Text.trim_eq_iff.1 h.trimmed), h.nonempty, ?_⟩
  · simp
  · rw [String.ofList_toList]
    exact .str

theorem IsName.writes_typed (h : IsName name) {type : String} (hequals : '=' ∉ type.toList)
    (htype : Text.trim type.toList = type.toList) {raw : String} {v : Json}
    (hv : Denotes raw type v) : Writes (name ++ ":" ++ type ++ "=" ++ raw) ⟨name, v⟩ := by
  refine ⟨name.toList ++ ':' :: type.toList, raw.toList, type, ⟨?_, ?_⟩,
    .typed ⟨rfl, h.no_colon⟩ (Text.trim_eq_iff.1 h.trimmed) (Text.trim_eq_iff.1 htype), h.nonempty,
    ?_⟩
  · simp
  · simp [h.no_equals, hequals]
  · rw [String.ofList_toList]
    exact hv

theorem denotes_int (n : Int64) : Denotes (toString n) "int" (.ofInt64 n) :=
  .int (.of_forall (Literal.not_isBlank_toString n)) (Literal.readInt64_toString n)

/-- Exactly the texts of the grammar are assignments.  A name without
    separators can be given any string, with or without the type, and any
    signed 64-bit number by its decimal text. -/
theorem assignments_are_read_as_written :
    (∀ text a, parse text = .ok a ↔ Writes text a) ∧
    ∀ name, IsName name → ∀ (s : String) (n : Int64),
      parse (name ++ "=" ++ s) = .ok ⟨name, .string s⟩ ∧
      parse (name ++ ":" ++ "str" ++ "=" ++ s) = .ok ⟨name, .string s⟩ ∧
      parse (name ++ ":" ++ "int" ++ "=" ++ toString n) = .ok ⟨name, .ofInt64 n⟩ := by
  refine ⟨fun _ _ => parse_eq_ok_iff, fun name h s n => ⟨?_, ?_, ?_⟩⟩
  · exact parse_eq_ok_iff.2 (h.writes_untyped s)
  · exact parse_eq_ok_iff.2 (h.writes_typed (by decide) (by decide) .str)
  · exact parse_eq_ok_iff.2 (h.writes_typed (by decide) (by decide) (denotes_int n))

theorem account_is_read_as_written : IsName "AWS_ID" ∧
    parse ("AWS_ID" ++ "=" ++ " a=b:c ") = .ok ⟨"AWS_ID", .string " a=b:c "⟩ ∧
    parse ("AWS_ID" ++ ":" ++ "int" ++ "=" ++ toString Int64.minValue) =
      .ok ⟨"AWS_ID", .ofInt64 Int64.minValue⟩ := by
  have h : IsName "AWS_ID" := ⟨by decide, by decide, by decide, by decide⟩
  obtain ⟨hstring, -, hint⟩ := assignments_are_read_as_written.2 "AWS_ID" h " a=b:c " Int64.minValue
  exact ⟨h, hstring, hint⟩

/-- Name, type and number are trimmed. -/
example : parse " AWS_ID : int = 7 " = .ok ⟨"AWS_ID", .ofInt64 7⟩ := by cbv

end Assignment

end GraphSync
