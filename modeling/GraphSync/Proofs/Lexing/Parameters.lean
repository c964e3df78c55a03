import GraphSync.Cypher.Parameters
import GraphSync.Proofs.Lexing.Printer

/-! # Parameters of a text

    The parameters of a query are collected from the tree, and a database finds
    them in the text: each name after a dollar sign.  Two recursions over the
    same tree have to agree, so every syntactic class has one lemma here that
    compares its tokens with its parameters (`Reads`).

    The names cannot get in the way.  A dollar sign inside a name is not a
    token, and a name after a dollar sign is one token (`Query.lexes`). -/

namespace GraphSync.Cypher

open Lexer

/-! ## Names after a dollar sign -/

/-- The names that stand right after a dollar sign, in the order of the text. -/
def dollarNames : List Token → List String
  | .symbol '$' :: .ident name :: rest => name :: dollarNames rest
  | _ :: rest => dollarNames rest
  | [] => []

/-- Tokens that read just the parameters `names`, whatever comes after them. -/
def Reads (ts : List Token) (names : List String) : Prop :=
  ∀ us, dollarNames (ts ++ us) = names ++ dollarNames us

namespace Reads

theorem dollarNames_eq {ts : List Token} {names : List String} (h : Reads ts names) :
    dollarNames ts = names := by
  have hall := h []
  rw [List.append_nil] at hall
  rw [hall, dollarNames, List.append_nil]

theorem nil : Reads [] [] := fun _ => rfl

theorem append {ts us : List Token} {names more : List String} (hts : Reads ts names)
    (hus : Reads us more) : Reads (ts ++ us) (names ++ more) := by
  intro vs
  rw [List.append_assoc, hts, hus, List.append_assoc]

/-- Tokens without parameters before, after or between others. -/
theorem silent {ts : List Token} (h : ∀ t ∈ ts, t ≠ .symbol '$') : Reads ts [] := by
  intro us
  induction ts with
  | nil => rfl
  | cons t rest ih =>
    have ht : t ≠ .symbol '$' := h t List.mem_cons_self
    have hrest := ih fun other hmem => h other (List.mem_cons_of_mem t hmem)
    -- what is no dollar sign is passed over, whatever it is
    have hskip : dollarNames (t :: (rest ++ us)) = dollarNames (rest ++ us) := by
      rw [dollarNames]
      rintro name more rfl
      exact absurd rfl ht
    rw [List.cons_append, hskip, hrest]

theorem ident (name : String) : Reads [.ident name] [] :=
  silent (by simp)

theorem param (name : String) : Reads ([.symbol '$'] ++ [.ident name]) [name] := by
  intro us
  rw [List.append_assoc, List.singleton_append, List.singleton_append, dollarNames]
  rfl

section lists

variable {α : Type} {tokens : α → List Token} {names : α → List String} {l : List α}

theorem flatMap (h : ∀ a ∈ l, Reads (tokens a) (names a)) :
    Reads (l.flatMap tokens) (l.flatMap names) := by
  induction l with
  | nil => exact nil
  | cons a rest ih =>
    have hrest := ih fun b hb => h b (List.mem_cons_of_mem a hb)
    rw [List.flatMap_cons, List.flatMap_cons]
    exact (h a List.mem_cons_self).append hrest

theorem intercalate {sep : List Token} (hsep : Reads sep []) :
    ∀ {l : List α}, (∀ a ∈ l, Reads (tokens a) (names a)) →
      Reads (sep.intercalate (l.map tokens)) (l.flatMap names)
  | [], _ => nil
  | [a], h => by
    simpa using h a (by simp)
  | a :: b :: rest, h => by
    -- the separator reads nothing, so the names are those of the parts
    have hfirst := h a (by simp)
    have hrest := intercalate hsep fun c hc => h c (List.mem_cons_of_mem a hc)
    rw [List.map_cons] at hrest
    rw [List.map_cons, List.map_cons, List.intercalate_cons_cons, List.flatMap_cons]
    have hall := (hfirst.append hsep).append hrest
    rw [List.append_nil] at hall
    exact hall

theorem block {first sep last : List Token} (hfirst : Reads first []) (hsep : Reads sep [])
    (hlast : Reads last []) (h : ∀ a ∈ l, Reads (tokens a) (names a)) :
    Reads (block first sep last (l.map tokens)) (l.flatMap names) := by
  cases l with
  | nil => exact nil
  | cons a rest =>
    have hall := (hfirst.append (intercalate hsep h)).append hlast
    rw [List.append_nil, List.nil_append] at hall
    exact hall

end lists

end Reads

/-! ## Expressions and patterns -/

theorem Expr.reads (e : Expr) : Reads e.tokens e.params := by
  induction e with
  | param name => exact Reads.param name
  | field name => exact Reads.silent (by simp [tokens])
  | property v key => exact Reads.silent (by simp [tokens])
  | var name => exact Reads.ident name
  | timestamp => exact Reads.silent (by decide)
  | countAll => exact Reads.silent (by decide)
  | toLower e ih =>
    have hopen : Reads [.ident "toLower", .symbol '('] [] := Reads.silent (by decide)
    have hclose : Reads [.symbol ')'] [] := Reads.silent (by decide)
    simpa [tokens, params] using (hopen.append ih).append hclose

/-- Two expressions with something between them. -/
theorem Expr.reads_between (a b : Expr) {sep : List Token} (hsep : Reads sep []) :
    Reads (a.tokens ++ sep ++ b.tokens) (a.params ++ b.params) := by
  have hall := (a.reads.append hsep).append b.reads
  rw [List.append_nil] at hall
  exact hall

theorem Condition.reads (c : Condition) : Reads c.tokens c.params := by
  cases c with
  | eq a b => exact a.reads_between b (.silent (by decide))
  | ne a b => exact a.reads_between b (.silent (by decide))
  | isIn a b => exact a.reads_between b (.ident "IN")
  | contains a b => exact a.reads_between b (.ident "CONTAINS")
  | isNotNull a =>
    have hnull : Reads [.ident "IS", .ident "NOT", .ident "NULL"] [] := .silent (by decide)
    simpa [tokens, params] using a.reads.append hnull

theorem reads_varTokens (v : Option String) : Reads (varTokens v) [] := by
  cases v with
  | none => exact .nil
  | some name => exact .ident name

theorem reads_labelTokens (labels : List String) : Reads (labelTokens labels) [] := by
  apply Reads.silent
  intro t ht
  obtain ⟨label, -, hmem⟩ := List.mem_flatMap.1 ht
  rcases List.mem_pair.1 hmem with rfl | rfl
  · decide
  · simp

theorem reads_propTokens (p : String × Expr) : Reads (propTokens p) p.2.params := by
  have hcolon : Reads [.symbol ':'] [] := .silent (by decide)
  exact ((Reads.ident p.1).append hcolon).append p.2.reads

theorem NodePattern.reads (n : NodePattern) : Reads n.tokens n.params := by
  have hopen : Reads [.symbol '('] [] := .silent (by decide)
  have hbrace : Reads [.symbol '\x7b'] [] := .silent (by decide)
  have hcomma : Reads [.symbol ','] [] := .silent (by decide)
  have hend : Reads [.symbol '\x7d'] [] := .silent (by decide)
  have hclose : Reads [.symbol ')'] [] := .silent (by decide)
  have hprops := Reads.block hbrace hcomma hend fun p (_ : p ∈ n.props) => reads_propTokens p
  have hall := (((hopen.append (reads_varTokens n.var)).append (reads_labelTokens n.labels)).append
    hprops).append hclose
  rw [List.append_nil] at hall
  exact hall

theorem RelPattern.reads (r : RelPattern) : Reads r.tokens [] := by
  have hopen : Reads [.symbol '['] [] := .silent (by decide)
  have hcolon : Reads [.symbol ':'] [] := .silent (by decide)
  have hclose : Reads [.symbol ']'] [] := .silent (by decide)
  have hinner := (((hopen.append (reads_varTokens r.var)).append hcolon).append
    (.ident r.type)).append hclose
  unfold tokens
  cases r.arrow with
  | outgoing =>
    have hleft : Reads [.symbol '-'] [] := .silent (by decide)
    have hright : Reads [.symbol '-', .symbol '>'] [] := .silent (by decide)
    exact (hleft.append hinner).append hright
  | incoming =>
    have hleft : Reads [.symbol '<', .symbol '-'] [] := .silent (by decide)
    have hright : Reads [.symbol '-'] [] := .silent (by decide)
    exact (hleft.append hinner).append hright

theorem Path.reads (p : Path) : Reads p.tokens p.params := by
  have hhops := Reads.flatMap fun hop (_ : hop ∈ p.hops) => hop.1.reads.append hop.2.reads
  exact p.start.reads.append hhops

theorem SetItem.reads (i : SetItem) : Reads i.tokens i.params := by
  cases i with
  | property v key value =>
    have hdot : Reads [.symbol '.'] [] := .silent (by decide)
    have hequals : Reads [.symbol '='] [] := .silent (by decide)
    exact ((((Reads.ident v).append hdot).append (.ident key)).append hequals).append value.reads
  | labels v names => exact (Reads.ident v).append (reads_labelTokens names)

/-! ## Clauses -/

theorem reads_whereTokens (conditions : List Condition) :
    Reads (whereTokens conditions) (conditions.flatMap Condition.params) :=
  .block (.ident "WHERE") (.ident "AND") .nil fun c _ => c.reads

mutual

/-- One case for each clause.  A subquery goes on to its branches. -/
theorem Clause.reads : ∀ clause : Clause, Reads clause.tokens clause.params
  | .unwind list var => by
    have hall := (((Reads.ident "UNWIND").append list.reads).append (.ident "AS")).append
      (.ident var)
    rw [List.append_nil, List.append_nil] at hall
    exact hall
  | .matching optional path conditions => by
    have hmatch : Reads (if optional then [.ident "OPTIONAL", .ident "MATCH"]
        else [.ident "MATCH"]) [] := by
      cases optional <;> exact .silent (by decide)
    exact (hmatch.append path.reads).append (reads_whereTokens conditions)
  | .merge path onCreate => by
    have hcreate : Reads [.ident "ON", .ident "CREATE", .ident "SET"] [] := .silent (by decide)
    have hcomma : Reads [.symbol ','] [] := .silent (by decide)
    exact ((Reads.ident "MERGE").append path.reads).append
      (.block hcreate hcomma .nil fun i _ => i.reads)
  | .set items => by
    have hcomma : Reads [.symbol ','] [] := .silent (by decide)
    exact (Reads.ident "SET").append (.intercalate hcomma fun i _ => i.reads)
  | .withVars vars conditions limit => by
    have hcomma : Reads [.symbol ','] [] := .silent (by decide)
    have hvars := Reads.intercalate hcomma fun v (_ : v ∈ vars) => Reads.ident v
    rw [List.flatMap_eq_nil_iff.2 fun _ _ => rfl] at hvars
    have hhead := ((Reads.ident "WITH").append hvars).append (reads_whereTokens conditions)
    unfold Clause.tokens Clause.params
    cases limit with
    | none => exact hhead.append .nil
    | some e => exact hhead.append ((Reads.ident "LIMIT").append e.reads)
  | .call branches => by
    have hopen : Reads [.ident "CALL", .symbol '\x7b'] [] := .silent (by decide)
    have hclose : Reads [.symbol '\x7d'] [] := .silent (by decide)
    have hall := hopen.append ((reads_branches branches).append hclose)
    rw [List.append_nil] at hall
    exact hall
  | .delete detach var => by
    have hdelete : Reads (if detach then [.ident "DETACH", .ident "DELETE"]
        else [.ident "DELETE"]) [] := by
      cases detach <;> exact .silent (by decide)
    exact hdelete.append (.ident var)
  | .returning items => by
    have hcomma : Reads [.symbol ','] [] := .silent (by decide)
    have hitem (i : Expr × String) :
        Reads (i.1.tokens ++ [.ident "AS"] ++ [.ident i.2]) i.1.params := by
      have hall := (i.1.reads.append (.ident "AS")).append (.ident i.2)
      rw [List.append_nil, List.append_nil] at hall
      exact hall
    exact (Reads.ident "RETURN").append (.intercalate hcomma fun i _ => hitem i)

theorem reads_clauses :
    ∀ clauses : List Clause, Reads (clausesTokens clauses) (clauseParams clauses)
  | [] => .nil
  | clause :: rest => clause.reads.append (reads_clauses rest)

theorem reads_branches :
    ∀ branches : List (List Clause), Reads (branchesTokens branches) (branchParams branches)
  | [] => .nil
  | [branch] => by
    have hall := (reads_clauses branch).append .nil
    rw [List.append_nil] at hall
    exact hall
  | branch :: second :: rest => by
    have hrest := (Reads.ident "UNION").append (reads_branches (second :: rest))
    rw [List.nil_append] at hrest
    exact (reads_clauses branch).append hrest

end

/-! ## Queries -/

theorem Query.dollarNames_tokens (q : Query) : dollarNames q.tokens = clauseParams q :=
  (reads_clauses q).dollarNames_eq

/-- Clauses that are pushed one after another stand at the end. -/
theorem Query.foldl_push (q : Query) (pushed : List Clause) :
    pushed.foldl Query.push q = q ++ pushed := by
  induction pushed generalizing q with
  | nil => exact (List.append_nil q).symm
  | cons clause rest ih => rw [List.foldl_cons, ih, push, List.append_assoc, List.singleton_append]

theorem Query.plain_foldl_push {q : Query} (hq : q.Plain) {pushed : List Clause}
    (hpushed : ∀ clause ∈ pushed, clause.Plain) : (pushed.foldl Query.push q).Plain := by
  have hrest : clausesPlain pushed := by
    clear hq
    induction pushed with
    | nil => trivial
    | cons clause rest ih =>
      exact ⟨hpushed clause List.mem_cons_self,
        ih fun c hc => hpushed c (List.mem_cons_of_mem _ hc)⟩
  rw [foldl_push]
  exact clausesPlain_append hq hrest

theorem nodup_eraseDups {α : Type} [BEq α] [LawfulBEq α] : ∀ l : List α, l.eraseDups.Nodup
  | [] => List.nodup_nil
  | a :: rest => by
    have ih := nodup_eraseDups (rest.filter fun b => !b == a)
    rw [List.eraseDups_cons, List.nodup_cons]
    refine ⟨?_, ih⟩
    rw [List.mem_eraseDups]
    simp
termination_by l => l.length
decreasing_by exact Nat.lt_succ_of_le (List.length_filter_le _ _)

/-- The list of names is in strict order, so none of them is in it twice. -/
theorem sortedNames_pairwise (names : List String) : (sortedNames names).Pairwise (· < ·) := by
  have hsorted : (sortedNames names).Pairwise fun a b => (!decide (b < a)) = true := by
    apply List.pairwise_mergeSort
    · intro a b c hab hbc
      simp only [Bool.not_eq_true', decide_eq_false_iff_not, String.not_lt] at hab hbc ⊢
      exact String.le_trans hab hbc
    · intro a b
      simp only [Bool.or_eq_true, Bool.not_eq_true', decide_eq_false_iff_not, String.not_lt]
      exact String.le_total a b
  have hnodup : (sortedNames names).Nodup :=
    (List.mergeSort_perm _ _).nodup_iff.2 (nodup_eraseDups names)
  refine (hsorted.and hnodup).imp ?_
  rintro a b ⟨hle, hne⟩
  rw [Bool.not_eq_true', decide_eq_false_iff_not, String.not_lt] at hle
  exact Std.lt_of_le_of_ne hle hne

/-- However a query was put together, its text can be read, and the parameters
    that it reports are the names after a dollar sign in the text, each once. -/
theorem parameters_are_read (q : Query) (pushed : List Clause) (hq : q.Plain)
    (hpushed : ∀ clause ∈ pushed, clause.Plain) :
    ∃ ts, lex (pushed.foldl Query.push q).text = some ts ∧
      (pushed.foldl Query.push q).parameters.Pairwise (· < ·) ∧
      ∀ name, name ∈ (pushed.foldl Query.push q).parameters ↔ name ∈ dollarNames ts := by
  have hplain := Query.plain_foldl_push hq hpushed
  refine ⟨(pushed.foldl Query.push q).tokens, Query.lexes hplain, sortedNames_pairwise _, ?_⟩
  intro name
  rw [Query.dollarNames_tokens]
  exact mem_sortedNames

/-- The pattern of a node whose names look like parameters. -/
def disguisedNode : NodePattern where
  var := some "n"
  labels := ["$A"]
  props := [("$k", .field "$x")]

/-- A query with nested subqueries.  Its names have dollar signs, a backtick and
    a line break in them, and one parameter has the empty name. -/
def disguised : Query :=
  [.unwind (.param "rows") rowAlias,
   .call
     [[.merge { start := disguisedNode } [.property "n" "a\n$b" (.param "c\x60 = $d")]],
      [.call [[.withVars ["n"] [.contains (.property "n" "$e") (.toLower (.param ""))]
         (some (.param "window"))]]]]]

/-- A clause for the end of it. -/
def counted : Clause := .returning [(.param "last", "x")]

theorem disguised_parameters_are_read :
    disguised.Plain ∧ counted.Plain ∧
    ∃ ts, lex (disguised.push counted).text = some ts ∧
      (disguised.push counted).parameters.Pairwise (· < ·) ∧
      ∀ name, name ∈ (disguised.push counted).parameters ↔ name ∈ dollarNames ts := by
  have hitem : PlainWord rowAlias := by decide
  have hn : PlainWord "n" := by decide
  have hx : PlainWord "x" := by decide
  have hnode : disguisedNode.Plain := ⟨by simpa [disguisedNode] using hn,
    by simp [disguisedNode, Expr.Plain]⟩
  have hpath : Path.Plain { start := disguisedNode } := ⟨hnode, by simp⟩
  have hdisguised : disguised.Plain := by
    simp [disguised, Query.Plain, clausesPlain, branchesPlain, Clause.Plain, SetItem.Plain,
      Condition.Plain, Expr.Plain, hpath, hitem, hn]
  have hcounted : counted.Plain := by
    simp [counted, Clause.Plain, Expr.Plain, hx]
  exact ⟨hdisguised, hcounted,
    parameters_are_read disguised [counted] hdisguised (by simpa using hcounted)⟩

/-- A dollar sign inside a quoted name begins no parameter. -/
example : (lex "SET i.\x60$a\x60 = $\x60$b\x60").map dollarNames = some ["$b"] := by decide

end GraphSync.Cypher
