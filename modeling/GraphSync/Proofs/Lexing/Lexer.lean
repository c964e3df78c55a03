import GraphSync.Cypher.Identifier
import Mathlib.Data.List.Basic

/-! # Tokens of a statement

    How a database cuts the text of a statement into tokens.  A name is a
    plain word or stands between backticks, where two backticks are one that
    belongs to the name.  Blanks separate tokens, and a few characters are
    tokens of their own.  Everything else is refused, a name without its last
    backtick included.

    The reader goes through the text once.  A name is over only when the
    character after it has been seen, so texts are put together with a look at
    what follows:

    * `Lexes` is a text that may end with a name, `Closed` one that does not;
    * `Starts` is a text that does not go on with a name before it. -/

namespace GraphSync.Cypher

open Identifier

/-- A token. -/
inductive Token where
  | ident (name : String)
  | symbol (c : Char)
  deriving DecidableEq

namespace Lexer

/-! ## The reader -/

/-- What the reader is in the middle of, with what it has read of a name, the
    last character first. -/
inductive Mode where
  | between
  | word (read : List Char)
  | quoted (read : List Char)
  /-- After a backtick in a quoted name: the last one, or the first of two. -/
  | closing (read : List Char)
  deriving DecidableEq

/-- The name that has been read. -/
def named (read : List Char) : Token := .ident (String.ofList read.reverse)

/-- The characters that a plain word begins with. -/
def isNameStart (c : Char) : Bool := ('A' ≤ c && c ≤ 'Z') || ('a' ≤ c && c ≤ 'z') || c == '_'

/-- The characters that a plain word goes on with. -/
def isNameRest (c : Char) : Bool := isNameStart c || ('0' ≤ c && c ≤ '9')

/-- The characters that are tokens of their own. -/
def isSymbol (c : Char) : Bool := "()[]\x7b\x7d<>-=.,:$*".toList.contains c

/-- A character at which no name is being read. -/
def begin (c : Char) : Option (List Token × Mode) :=
  if c.isWhitespace then some ([], .between)
  else if c = backtick then some ([], .quoted [])
  else if isNameStart c then some ([], .word [c])
  else if isSymbol c then some ([.symbol c], .between)
  else none

/-- A character that follows the end of a name. -/
def beginAfter (read : List Char) (c : Char) : Option (List Token × Mode) :=
  (begin c).map fun (ts, m) => (named read :: ts, m)

/-- One character: the tokens that it completes, and the mode after it. -/
def next : Mode → Char → Option (List Token × Mode)
  | .between, c => begin c
  | .word read, c => if isNameRest c then some ([], .word (c :: read)) else beginAfter read c
  | .quoted read, c =>
    if c = backtick then some ([], .closing read) else some ([], .quoted (c :: read))
  | .closing read, c =>
    if c = backtick then some ([], .quoted (backtick :: read)) else beginAfter read c

/-- Reads characters on. -/
def run : Mode → List Char → Option (List Token × Mode)
  | m, [] => some ([], m)
  | m, c :: cs =>
    (next m c).bind fun (ts, m') => (run m' cs).map fun (us, m'') => (ts ++ us, m'')

/-- The tokens that the end of the text completes. -/
def finish : Mode → Option (List Token)
  | .between => some []
  | .word read | .closing read => some [named read]
  | .quoted _ => none

end Lexer

open Lexer

/-- The tokens of a text. -/
def lex (s : String) : Option (List Token) :=
  (run .between s.toList).bind fun (ts, m) => (finish m).map (ts ++ ·)

namespace Lexer

/-- To read two texts one after another. -/
theorem run_append (m : Mode) (cs ds : List Char) :
    run m (cs ++ ds) =
      (run m cs).bind fun (ts, m') => (run m' ds).map fun (us, m'') => (ts ++ us, m'') := by
  induction cs generalizing m with
  | nil => simp [run]
  | cons c cs ih =>
    rw [List.cons_append, run, run]
    cases hnext : next m c with
    | none => rfl
    | some first =>
      obtain ⟨ts, m₁⟩ := first
      simp only [Option.bind_some, ih]
      cases hrun : run m₁ cs with
      | none => rfl
      | some second =>
        obtain ⟨us, m₂⟩ := second
        simp only [Option.bind_some, Option.map_some, Option.map_map]
        congr 1
        funext third
        simp

/-! ## Texts that are put together -/

/-- A text with the tokens `ts`. -/
def Lexes (s : String) (ts : List Token) : Prop := lex s = some ts

/-- A text with the tokens `ts` after which no name is open. -/
def Closed (s : String) (ts : List Token) : Prop := run .between s.toList = some (ts, .between)

/-- A text whose first character, if it has one, is not part of a name before
    it. -/
def Starts (s : String) : Prop := ∀ c ∈ s.toList.head?, isNameRest c = false ∧ c ≠ backtick

instance (s : String) (ts : List Token) : Decidable (Closed s ts) :=
  inferInstanceAs (Decidable (_ = _))

instance (s : String) : Decidable (Starts s) :=
  decidable_of_iff ((s.toList.head?.all fun c => !isNameRest c && c != backtick) = true) <| by
    simp [Starts, Option.all_eq_true]

/-- A text that may stand after a name and before one. -/
structure Between (s : String) (ts : List Token) : Prop where
  closed   : Closed s ts
  starts   : Starts s
  nonempty : s ≠ ""

instance (s : String) (ts : List Token) : Decidable (Between s ts) :=
  decidable_of_iff (Closed s ts ∧ Starts s ∧ s ≠ "")
    ⟨fun h => ⟨h.1, h.2.1, h.2.2⟩, fun h => ⟨h.closed, h.starts, h.nonempty⟩⟩

theorem Closed.lexes {s : String} {ts : List Token} (h : Closed s ts) : Lexes s ts := by
  unfold Lexes lex
  rw [show run .between s.toList = _ from h]
  simp [finish]

theorem lexes_empty : Lexes "" [] := rfl

theorem starts_empty : Starts "" := by
  intro c hc
  cases hc

theorem Starts.append {a : String} (ha : Starts a) (hne : a ≠ "") (b : String) :
    Starts (a ++ b) := by
  intro c hc
  apply ha
  rw [String.toList_append, List.head?_append_of_ne_nil] at hc
  · exact hc
  · intro hnil
    exact hne (String.toList_eq_nil_iff.1 hnil)

/-- After a text that is closed any text may follow. -/
theorem Closed.append_lexes {a b : String} {ts us : List Token} (ha : Closed a ts)
    (hb : Lexes b us) : Lexes (a ++ b) (ts ++ us) := by
  unfold Lexes lex at hb ⊢
  rw [String.toList_append, run_append, show run .between a.toList = _ from ha]
  obtain ⟨⟨vs, m⟩, hrun, hfinish⟩ := Option.bind_eq_some_iff.1 hb
  obtain ⟨ws, hws, rfl⟩ := Option.map_eq_some_iff.1 hfinish
  simp [hrun, hws]

theorem Closed.append {a b : String} {ts us : List Token} (ha : Closed a ts) (hb : Closed b us) :
    Closed (a ++ b) (ts ++ us) := by
  unfold Closed at ha hb ⊢
  rw [String.toList_append, run_append, ha]
  simp [hb]

/-- A character that is not part of a name is read the same after a name as
    between tokens. -/
theorem next_of_finish {m : Mode} {ts : List Token} (hm : finish m = some ts) {c : Char}
    (hc : isNameRest c = false ∧ c ≠ backtick) :
    next m c = (begin c).map fun (us, m') => (ts ++ us, m') := by
  cases m with
  | between =>
    cases hm
    simp [next]
  | word read =>
    cases hm
    show (if isNameRest c then some ([], Mode.word (c :: read)) else beginAfter read c) = _
    rw [if_neg (by simp [hc.1])]
    rfl
  | quoted read => cases hm
  | closing read =>
    cases hm
    show (if c = backtick then some ([], Mode.quoted (backtick :: read))
      else beginAfter read c) = _
    rw [if_neg hc.2]
    rfl

theorem run_of_finish {m : Mode} {ts : List Token} (hm : finish m = some ts) {b : String}
    (hb : Starts b) (hne : b ≠ "") :
    run m b.toList = (run .between b.toList).map fun (us, m') => (ts ++ us, m') := by
  cases hlist : b.toList with
  | nil => exact absurd (String.toList_eq_nil_iff.1 hlist) hne
  | cons c cs =>
    have hc := hb c (by rw [hlist]; rfl)
    rw [run, run, next_of_finish hm hc, next]
    cases begin c with
    | none => rfl
    | some first =>
      obtain ⟨us, m₁⟩ := first
      simp only [Option.map_some, Option.bind_some, Option.map_map]
      congr 1
      funext second
      simp

/-- After a name may follow what does not go on with it. -/
theorem Lexes.append_between {a b : String} {ts us : List Token} (ha : Lexes a ts)
    (hb : Between b us) : Closed (a ++ b) (ts ++ us) := by
  obtain ⟨⟨vs, m⟩, hrun, hfinish⟩ := Option.bind_eq_some_iff.1 ha
  obtain ⟨ws, hws, rfl⟩ := Option.map_eq_some_iff.1 hfinish
  have hclosed : run .between b.toList = some (us, .between) := hb.closed
  unfold Closed
  rw [String.toList_append, run_append, hrun]
  simp [run_of_finish hws hb.starts hb.nonempty, hclosed]

theorem Lexes.append {a b : String} {ts us : List Token} (ha : Lexes a ts) (hb : Lexes b us)
    (hstarts : Starts b) : Lexes (a ++ b) (ts ++ us) := by
  by_cases hne : b = ""
  · -- nothing follows, and a name at the end stays open
    subst hne
    rw [String.append_empty, ← Option.some.inj (show some [] = some us from hb), List.append_nil]
    exact ha
  · obtain ⟨⟨vs, m⟩, hrun, hfinish⟩ := Option.bind_eq_some_iff.1 ha
    obtain ⟨ws, hws, rfl⟩ := Option.map_eq_some_iff.1 hfinish
    obtain ⟨⟨vs', m'⟩, hrun', hfinish'⟩ := Option.bind_eq_some_iff.1 hb
    obtain ⟨ws', hws', rfl⟩ := Option.map_eq_some_iff.1 hfinish'
    unfold Lexes lex
    rw [String.toList_append, run_append, hrun]
    simp [run_of_finish hws hstarts hne, hrun', hws']

/-! ## Names -/

/-- A character that completes no token. -/
theorem run_cons {m m' : Mode} {c : Char} (h : next m c = some ([], m')) (cs : List Char) :
    run m (c :: cs) = run m' cs := by
  rw [run, h]
  cases hrun : run m' cs with
  | none => simp [hrun]
  | some rest => simp [hrun]

/-- The printer takes the same names for plain words as the reader. -/
theorem isWordStart_eq (c : Char) : isWordStart c = isNameStart c := by
  show (decide ('A'.val ≤ c.val ∧ c.val ≤ 'Z'.val) || (decide ('a'.val ≤ c.val) &&
    decide (c.val ≤ 'z'.val)) || c == '_') = _
  rw [Bool.decide_and]
  rfl

theorem isWordRest_eq (c : Char) : isWordRest c = isNameRest c := by
  have hstart := isWordStart_eq c
  unfold isWordStart at hstart
  unfold isWordRest isNameRest
  rw [← hstart, Bool.or_right_comm]
  rfl

theorem run_word (read cs : List Char) (h : cs.all isNameRest = true) :
    run (.word read) cs = some ([], .word (cs.reverse ++ read)) := by
  induction cs generalizing read with
  | nil => rfl
  | cons c cs ih =>
    rw [List.all_cons, Bool.and_eq_true] at h
    have hnext : next (.word read) c = some ([], .word (c :: read)) := if_pos h.1
    rw [run_cons hnext, ih _ h.2]
    simp

theorem begin_nameStart {c : Char} (h : isNameStart c = true) :
    begin c = some ([], .word [c]) := by
  have hblank : c.isWhitespace = false := by
    rw [Bool.eq_false_iff]
    intro hblank
    unfold Char.isWhitespace at hblank
    simp only [Bool.or_eq_true, decide_eq_true_eq] at hblank
    rcases hblank with ((rfl | rfl) | rfl) | rfl <;> exact absurd h (by decide)
  have hquote : c ≠ backtick := by
    intro hc
    subst hc
    exact absurd h (by decide)
  unfold begin
  rw [if_neg (by simp [hblank]), if_neg hquote, if_pos h]

/-- A plain word is read as itself. -/
theorem lexes_word {w : String} (h : isWord w.toList = true) : Lexes w [.ident w] := by
  unfold Lexes lex
  cases hlist : w.toList with
  | nil =>
    rw [hlist] at h
    cases h
  | cons c cs =>
    rw [hlist, isWord, Bool.and_eq_true] at h
    have hw : String.ofList (c :: cs) = w := by rw [← hlist, String.ofList_toList]
    have hnext : next .between c = some ([], .word [c]) :=
      begin_nameStart ((isWordStart_eq c).symm.trans h.1)
    have hrest : cs.all isNameRest = true := by
      rw [← h.2]
      exact List.all_congr rfl fun d => (isWordRest_eq d).symm
    rw [run_cons hnext, run_word _ _ hrest]
    simp [finish, named, hw]

theorem run_quoted (read cs : List Char) :
    run (.quoted read) (doubled cs ++ [backtick]) = some ([], .closing (cs.reverse ++ read)) := by
  induction cs generalizing read with
  | nil => rfl
  | cons c cs ih =>
    by_cases hc : c = backtick
    · subst hc
      -- the two backticks lead out of the name and back into it
      have hout : next (.quoted read) backtick = some ([], .closing read) := rfl
      have hback : next (.closing read) backtick = some ([], .quoted (backtick :: read)) := rfl
      rw [doubled, if_pos rfl, List.cons_append, List.cons_append, run_cons hout, run_cons hback,
        ih]
      simp
    · have hnext : next (.quoted read) c = some ([], .quoted (c :: read)) := if_neg hc
      rw [doubled, if_neg hc, List.cons_append, run_cons hnext, ih]
      simp

/-- The written form of any name is read as that name. -/
theorem lexes_escape (name : String) : Lexes (escape name) [.ident name] := by
  unfold escape written
  split
  · next hword =>
    rw [String.ofList_toList]
    exact lexes_word hword
  · -- the text ends after what may be the first of two backticks
    have hopen : next .between backtick = some ([], .quoted []) := rfl
    unfold Lexes lex
    rw [String.toList_ofList, run_cons hopen, run_quoted]
    simp [finish, named, String.ofList_toList]

/-- A name that would end a pattern, and go on with a clause, is one token. -/
example : lex (escape "n\x60) DELETE m\n") = some [.ident "n\x60) DELETE m\n"] := by decide

/-! ## Lists -/

/-- Texts with something between every two. -/
theorem lexes_intercalate {sep : String} {us : List Token} (hsep : Between sep us) {α : Type}
    {text : α → String} {tokens : α → List Token} :
    ∀ {l : List α}, (∀ a ∈ l, Lexes (text a) (tokens a)) →
      Lexes (sep.intercalate (l.map text)) (us.intercalate (l.map tokens))
  | [], _ => lexes_empty
  | [a], h => by
    simpa [String.intercalate_singleton] using h a (by simp)
  | a :: b :: rest, h => by
    have hfirst := h a (by simp)
    have hrest := lexes_intercalate hsep (fun c hc => h c (List.mem_cons_of_mem a hc))
    rw [List.map_cons, List.map_cons] at hrest
    rw [List.map_cons, List.map_cons, String.intercalate_cons_cons, List.map_cons, List.map_cons,
      List.intercalate_cons_cons]
    exact (hfirst.append_between hsep).append_lexes hrest

end Lexer

end GraphSync.Cypher
