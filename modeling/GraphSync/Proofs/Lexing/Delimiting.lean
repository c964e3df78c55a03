import GraphSync.Proofs.Lexing.Lexer
import GraphSync.Proofs.Text.Span

/-! # One name at the front of a text

    The rule for names by itself, without the other tokens of a statement.
    A plain word is the longest one that is there, and a quoted name ends with
    the first backtick that is not one of two.

    `Reads` is the rule and `readName` follows it, so that at most one name is
    read off a text.  The reader of statements takes the same name
    (`lex_of_reads`).  The written form of any name is read off as that name,
    up to its end, whatever follows that could not be part of a name
    (`escaped_names_are_delimited`). -/

namespace GraphSync.Cypher

open Identifier

namespace Lexer

/-! ## The rule -/

/-- A letter or underscore, and then letters, digits and underscores. -/
def PlainWord : List Char → Prop
  | [] => False
  | c :: rest => isNameStart c = true ∧ ∀ d ∈ rest, isNameRest d = true

/-- `Quotes body name`: between its backticks, the name is written as `body`,
    in which two backticks are one of the name. -/
inductive Quotes : List Char → List Char → Prop
  | nil : Quotes [] []
  | pair {body name : List Char} (quotes : Quotes body name) :
      Quotes (backtick :: backtick :: body) (backtick :: name)
  | other {c : Char} {body name : List Char} (single : c ≠ backtick) (quotes : Quotes body name) :
      Quotes (c :: body) (c :: name)

/-- `Reads text name rest`: the text begins with the name, and goes on with the
    rest. -/
inductive Reads : List Char → List Char → List Char → Prop
  | word {name rest : List Char} (plain : PlainWord name)
      (longest : ∀ c ∈ rest.head?, isNameRest c = false) : Reads (name ++ rest) name rest
  | quoted {body name rest : List Char} (quotes : Quotes body name)
      (single : ∀ c ∈ rest.head?, c ≠ backtick) :
      Reads (backtick :: (body ++ backtick :: rest)) name rest

/-! ## Reading by the rule -/

/-- A character that is part of the name. -/
def inName (c : Char) (read : List Char × List Char) : List Char × List Char := (c :: read.1, read.2)

/-- The end of a quoted name, and what comes after it. -/
def readQuoted : List Char → Option (List Char × List Char)
  | [] => none
  | [c] => if c = backtick then some ([], []) else none
  | c :: d :: rest =>
    if c = backtick then
      if d = backtick then (readQuoted rest).map (inName backtick) else some ([], d :: rest)
    else (readQuoted (d :: rest)).map (inName c)

/-- A name, and what comes after it. -/
def readName : List Char → Option (List Char × List Char)
  | [] => none
  | c :: rest =>
    if c = backtick then readQuoted rest
    else if isNameStart c then some (inName c (rest.span isNameRest))
    else none

theorem readQuoted_pair (text : List Char) :
    readQuoted (backtick :: backtick :: text) = (readQuoted text).map (inName backtick) := by
  rw [readQuoted, if_pos rfl, if_pos rfl]

theorem readQuoted_other {c : Char} (hc : c ≠ backtick) (text : List Char) :
    readQuoted (c :: text) = (readQuoted text).map (inName c) := by
  cases text with
  | nil => simp [readQuoted, hc]
  | cons d rest => rw [readQuoted, if_neg hc]

theorem readQuoted_end {rest : List Char} (h : ∀ c ∈ rest.head?, c ≠ backtick) :
    readQuoted (backtick :: rest) = some ([], rest) := by
  cases rest with
  | nil => rfl
  | cons c rest => rw [readQuoted, if_pos rfl, if_neg (h c rfl)]

theorem readQuoted_eq_some_iff {text name rest : List Char} :
    readQuoted text = some (name, rest) ↔
      ∃ body, Quotes body name ∧ text = body ++ backtick :: rest ∧ ∀ c ∈ rest.head?, c ≠ backtick := by
  constructor
  · intro h
    fun_induction readQuoted text generalizing name with
    | case1 => cases h
    | case2 =>
      cases h
      exact ⟨[], .nil, rfl, by simp⟩
    | case3 => cases h
    | case4 text ih =>
      -- two backticks, after which the name goes on
      obtain ⟨⟨name', rest'⟩, hrest, heq⟩ := Option.map_eq_some_iff.1 h
      cases heq
      obtain ⟨body, hbody, rfl, hend⟩ := ih hrest
      exact ⟨_, hbody.pair, rfl, hend⟩
    | case5 d text hd =>
      cases h
      exact ⟨[], .nil, rfl, by simpa using hd⟩
    | case6 c d text hc ih =>
      obtain ⟨⟨name', rest'⟩, hrest, heq⟩ := Option.map_eq_some_iff.1 h
      cases heq
      obtain ⟨body, hbody, htext, hend⟩ := ih hrest
      exact ⟨_, hbody.other hc, by rw [htext, List.cons_append], hend⟩
  · rintro ⟨body, hbody, rfl, hend⟩
    induction hbody with
    | nil => exact readQuoted_end hend
    | pair _ ih =>
      rw [List.cons_append, List.cons_append, readQuoted_pair, ih]
      rfl
    | other hc _ ih =>
      rw [List.cons_append, readQuoted_other hc, ih]
      rfl

theorem isNameStart_ne_backtick {c : Char} (h : isNameStart c = true) : c ≠ backtick := by
  rintro rfl
  exact absurd h (by decide)

theorem readName_word {name rest : List Char} (plain : PlainWord name)
    (longest : ∀ c ∈ rest.head?, isNameRest c = false) :
    readName (name ++ rest) = some (name, rest) := by
  cases name with
  | nil => exact plain.elim
  | cons c name =>
    obtain ⟨hstart, hrest⟩ := plain
    rw [List.cons_append, readName, if_neg (isNameStart_ne_backtick hstart), if_pos hstart,
      Text.span_eq_iff.2 ⟨rfl, hrest, longest⟩]
    rfl

/-- The name that is read is the one of the rule. -/
theorem readName_eq_some_iff {text name rest : List Char} :
    readName text = some (name, rest) ↔ Reads text name rest := by
  constructor
  · intro h
    cases text with
    | nil => cases h
    | cons c text =>
      rw [readName] at h
      split_ifs at h with hquote hstart
      · obtain ⟨body, hbody, rfl, hend⟩ := readQuoted_eq_some_iff.1 h
        exact hquote ▸ .quoted hbody hend
      · obtain ⟨htext, hword, hlongest⟩ := Text.span_eq_iff.1 (Prod.eta (text.span isNameRest)).symm
        cases h
        have hplain : PlainWord (c :: (text.span isNameRest).1) := ⟨hstart, hword⟩
        have hreads := Reads.word hplain hlongest
        rwa [List.cons_append, ← htext] at hreads
  · rintro (⟨plain, longest⟩ | ⟨quotes, single⟩)
    · exact readName_word plain longest
    · rw [readName, if_pos rfl]
      exact readQuoted_eq_some_iff.2 ⟨_, quotes, rfl, single⟩

instance (text name rest : List Char) : Decidable (Reads text name rest) :=
  decidable_of_iff (readName text = some (name, rest)) readName_eq_some_iff

/-- A text begins with one name at most. -/
theorem Reads.unique {text name rest name' rest' : List Char} (h : Reads text name rest)
    (h' : Reads text name' rest') : name' = name ∧ rest' = rest := by
  rw [← readName_eq_some_iff] at h h'
  rw [h, Option.some.injEq, Prod.mk.injEq] at h'
  exact ⟨h'.1.symm, h'.2.symm⟩

/-! ## Names in statements -/

theorem Quotes.eq_doubled {body name : List Char} (h : Quotes body name) : body = doubled name := by
  induction h with
  | nil => rfl
  | pair _ ih => rw [doubled, if_pos rfl, ih]
  | other hc _ ih => rw [doubled, if_neg hc, ih]

theorem run_append_of_silent {m m' : Mode} {cs : List Char} (h : run m cs = some ([], m'))
    (ds : List Char) : run m (cs ++ ds) = run m' ds := by
  rw [run_append, h]
  cases hrun : run m' ds with
  | none => simp [hrun]
  | some rest => simp [hrun]

/-- Where the reader of statements is after the name at the front of a text,
    and that it takes the name for complete. -/
theorem run_of_reads {text name rest : List Char} (h : Reads text name rest) :
    ∃ m, run .between text = run m rest ∧ finish m = some [named name.reverse] ∧
      ∀ c ∈ rest.head?, next m c = beginAfter name.reverse c := by
  cases h with
  | word plain longest =>
    cases name with
    | nil => exact plain.elim
    | cons c name =>
      obtain ⟨hstart, hrest⟩ := plain
      have hword : run (.word [c]) name = some ([], .word (c :: name).reverse) := by
        rw [run_word [c] name (List.all_eq_true.2 hrest), List.reverse_cons]
      refine ⟨.word (c :: name).reverse, ?_, rfl, fun d hd => if_neg (by simp [longest d hd])⟩
      rw [List.cons_append, run_cons (m := .between) (begin_nameStart hstart),
        run_append_of_silent hword]
  | @quoted body _ _ quotes single =>
    have hopen : next .between backtick = some ([], .quoted []) := rfl
    have hquoted : run (.quoted []) (body ++ [backtick]) = some ([], .closing name.reverse) := by
      rw [quotes.eq_doubled, run_quoted, List.append_nil]
    refine ⟨.closing name.reverse, ?_, rfl, fun d hd => if_neg (single d hd)⟩
    rw [run_cons hopen, ← List.singleton_append, ← List.append_assoc, run_append_of_silent hquoted]

/-- The reader of statements reads names by the rule. -/
theorem lex_of_reads {text name rest : List Char} (h : Reads text name rest) :
    lex (String.ofList text) =
      (lex (String.ofList rest)).map (.ident (String.ofList name) :: ·) := by
  obtain ⟨m, hrun, hfinish, hnext⟩ := run_of_reads h
  have hnamed : named name.reverse = .ident (String.ofList name) := by
    rw [named, List.reverse_reverse]
  unfold lex
  rw [String.toList_ofList, String.toList_ofList, hrun]
  cases rest with
  | nil =>
    show (finish m).map ([] ++ ·) = _
    rw [hfinish, hnamed]
    rfl
  | cons c rest =>
    rw [run, run, hnext c rfl, beginAfter, next, hnamed]
    cases begin c with
    | none => rfl
    | some first =>
      obtain ⟨us, m₁⟩ := first
      simp only [Option.map_some, Option.bind_some, Option.bind_map, Option.map_bind]
      cases run m₁ rest with
      | none => rfl
      | some second => simp [Function.comp_def]

/-! ## Written names -/

theorem isWord_iff {name : List Char} : isWord name = true ↔ PlainWord name := by
  cases name with
  | nil => simp [isWord, PlainWord]
  | cons c rest => simp [isWord, PlainWord, isWordStart_eq, isWordRest_eq]

theorem quotes_doubled (name : List Char) : Quotes (doubled name) name := by
  induction name with
  | nil => exact .nil
  | cons c rest ih =>
    rw [doubled]
    split
    · next hc => exact hc ▸ ih.pair
    · next hc => exact ih.other hc

/-- What is written for a name is read off as that name. -/
theorem reads_written (name : List Char) {rest : List Char}
    (h : ∀ c ∈ rest.head?, isNameRest c = false ∧ c ≠ backtick) :
    Reads (written name ++ rest) name rest := by
  rw [written]
  split
  · next hword => exact .word (isWord_iff.1 hword) fun c hc => (h c hc).1
  · rw [List.cons_append, List.append_assoc]
    exact .quoted (quotes_doubled name) fun c hc => (h c hc).2

theorem length_le_length_doubled (name : List Char) : name.length ≤ (doubled name).length := by
  induction name with
  | nil => exact Nat.le_refl 0
  | cons c rest ih =>
    rw [doubled]
    split <;> simp only [List.length_cons] <;> omega

/-- Backticks make a text longer, so only plain words are written as they are. -/
theorem written_eq_self_iff {name : List Char} : written name = name ↔ PlainWord name := by
  rw [← isWord_iff, written]
  constructor
  · intro h
    by_contra hword
    rw [if_neg hword] at h
    have hlength := congrArg List.length h
    have hdoubled := length_le_length_doubled name
    simp only [List.length_cons, List.length_append, List.length_nil] at hlength
    omega
  · intro hword
    rw [if_pos hword]

/-- Before a text that does not go on with a name, exactly one name is read off
    an escaped name, which is the name itself, and all of its characters are
    used up.  So different names are never written alike.  Plain words, and no
    other names, are written as they are. -/
theorem escaped_names_are_delimited :
    (∀ s t : String, Starts t → ∀ name rest : List Char,
      Reads (escape s ++ t).toList name rest ↔ name = s.toList ∧ rest = t.toList) ∧
    Function.Injective escape ∧
    ∀ s : String, escape s = s ↔ PlainWord s.toList := by
  have hreads {s t : String} (ht : Starts t) : Reads (escape s ++ t).toList s.toList t.toList := by
    rw [String.toList_append, escape, String.toList_ofList]
    exact reads_written s.toList ht
  refine ⟨fun s t ht name rest => ⟨(hreads ht).unique, ?_⟩, fun s s' h => ?_, fun s => ?_⟩
  · rintro ⟨rfl, rfl⟩
    exact hreads ht
  · -- the text alone, with nothing after it
    have hs := hreads (s := s) starts_empty
    rw [h] at hs
    exact String.toList_injective ((hreads starts_empty).unique hs).1
  · rw [← written_eq_self_iff, ← String.toList_inj, escape, String.toList_ofList]

/-- A name that begins and ends with backticks, and holds the rest of a pattern
    in between, is read off up to its last backtick. -/
theorem name_of_backticks_is_delimited : Starts ") RETURN n" ∧
    ∀ name rest : List Char,
      Reads (escape "\x60) DETACH DELETE n\x60\x60" ++ ") RETURN n").toList name rest ↔
        name = "\x60) DETACH DELETE n\x60\x60".toList ∧ rest = ") RETURN n".toList :=
  have hstarts : Starts ") RETURN n" := by decide
  ⟨hstarts, escaped_names_are_delimited.1 "\x60) DETACH DELETE n\x60\x60" ") RETURN n" hstarts⟩

/-- The empty name is written as two backticks, which are read off as it. -/
example : Reads "\x60\x60:Host".toList [] ":Host".toList := by decide

end Lexer

end GraphSync.Cypher
