import GraphSync.Proofs.Lexing.Legible

/-! # Printing loses nothing

    Two queries with the same text are the same, up to a field of the row that
    is written as a property of the variable `item` (`text_eq_iff_expanded_eq`).
    Names may be any strings: line breaks, braces and keywords in them are part
    of one token.  Variables and columns are plain words, and may be keywords.

    A clause is told by the keywords it begins with, and goes on until the next
    clause, a `UNION` or a brace.  Lists that the grammar demands are taken not
    to be empty: a subquery without branches, for one, is written like one with
    an empty branch. -/

namespace GraphSync.Cypher

/-! ## Complete clauses -/

mutual

/-- No list that the grammar demands is empty in a clause. -/
def Clause.Complete : Clause → Prop
  | .set items => items ≠ []
  | .withVars vars _ _ => vars ≠ []
  | .returning items => items ≠ []
  | .call branches => branches ≠ [] ∧ branchesComplete branches
  | .unwind _ _ | .matching _ _ _ | .merge _ _ | .delete _ _ => True

/-- Each of some clauses is complete. -/
def clausesComplete : List Clause → Prop
  | [] => True
  | clause :: rest => clause.Complete ∧ clausesComplete rest

/-- Each clause of some branches is complete. -/
def branchesComplete : List (List Clause) → Prop
  | [] => True
  | branch :: rest => clausesComplete branch ∧ branchesComplete rest

end

/-- A query of complete clauses. -/
def Query.Complete (q : Query) : Prop := clausesComplete q

theorem clausesComplete_iff {clauses : List Clause} :
    clausesComplete clauses ↔ ∀ clause ∈ clauses, clause.Complete := by
  induction clauses with
  | nil => simp [clausesComplete]
  | cons clause rest ih => rw [clausesComplete, ih, List.forall_mem_cons]

theorem branchesComplete_iff {branches : List (List Clause)} :
    branchesComplete branches ↔ ∀ branch ∈ branches, ∀ clause ∈ branch, clause.Complete := by
  induction branches with
  | nil => simp [branchesComplete]
  | cons branch rest ih => rw [branchesComplete, ih, clausesComplete_iff, List.forall_mem_cons]

/-! ## How clauses begin -/

/-- What a clause does. -/
inductive Verb where
  | unwind
  | matching
  | merge
  | set
  | withVars
  | call
  | delete
  | returning
  deriving DecidableEq

/-- What a clause does, whatever it does it to. -/
def Clause.verb : Clause → Verb
  | .unwind _ _ => .unwind
  | .matching _ _ _ => .matching
  | .merge _ _ => .merge
  | .set _ => .set
  | .withVars _ _ _ => .withVars
  | .call _ => .call
  | .delete _ _ => .delete
  | .returning _ => .returning

/-- The flag of a clause; those without one have it unset. -/
def Clause.flag : Clause → Bool
  | .matching optional _ _ => optional
  | .delete detach _ => detach
  | _ => false

/-- The keywords at the beginning of a clause. -/
def Verb.opening (flag : Bool) : Verb → List Token
  | .unwind => [.ident "UNWIND"]
  | .matching => if flag then [.ident "OPTIONAL", .ident "MATCH"] else [.ident "MATCH"]
  | .merge => [.ident "MERGE"]
  | .set => [.ident "SET"]
  | .withVars => [.ident "WITH"]
  | .call => [.ident "CALL", .symbol '\x7b']
  | .delete => if flag then [.ident "DETACH", .ident "DELETE"] else [.ident "DELETE"]
  | .returning => [.ident "RETURN"]

/-- The tokens after the keywords. -/
def Clause.body : Clause → List Token
  | .unwind list var => list.tokens ++ [.ident "AS", .ident var]
  | .matching _ path conditions => path.tokens ++ whereTokens conditions
  | .merge path onCreate =>
    path.tokens ++ block [.ident "ON", .ident "CREATE", .ident "SET"] [.symbol ','] []
      (onCreate.map SetItem.tokens)
  | .set items => List.intercalate [.symbol ','] (items.map SetItem.tokens)
  | .withVars vars conditions limit =>
    List.intercalate [.symbol ','] (vars.map fun v => [.ident v])
      ++ (whereTokens conditions ++ limitTokens limit)
  | .call branches => branchesTokens branches ++ [.symbol '\x7d']
  | .delete _ var => [.ident var]
  | .returning items =>
    List.intercalate [.symbol ','] (items.map fun i => i.1.tokens ++ [.ident "AS"] ++ [.ident i.2])

theorem Clause.tokens_eq (clause : Clause) :
    clause.tokens = clause.verb.opening clause.flag ++ clause.body := by
  cases clause with
  | matching optional path conditions =>
    cases optional <;> simp [tokens, verb, flag, body, Verb.opening]
  | delete detach var => cases detach <;> rfl
  | _ => simp [tokens, verb, body, Verb.opening]

/-- What the first token of a clause tells: the verb and the flag. -/
def readVerb : Token → Option (Verb × Bool)
  | .ident "UNWIND" => some (.unwind, false)
  | .ident "MATCH" => some (.matching, false)
  | .ident "OPTIONAL" => some (.matching, true)
  | .ident "MERGE" => some (.merge, false)
  | .ident "SET" => some (.set, false)
  | .ident "WITH" => some (.withVars, false)
  | .ident "CALL" => some (.call, false)
  | .ident "DELETE" => some (.delete, false)
  | .ident "DETACH" => some (.delete, true)
  | .ident "RETURN" => some (.returning, false)
  | _ => none

theorem Clause.readVerb_opening (clause : Clause) :
    ∃ t rest, clause.verb.opening clause.flag = t :: rest ∧
      readVerb t = some (clause.verb, clause.flag) := by
  cases clause with
  | matching optional path conditions => cases optional <;> exact ⟨_, _, rfl, rfl⟩
  | delete detach var => cases detach <;> exact ⟨_, _, rfl, rfl⟩
  | _ => exact ⟨_, _, rfl, rfl⟩

/-- Clauses that are written alike do the same, and differ in what it is done
    to. -/
theorem Clause.body_eq_of_tokens {a b : Clause} {ts us : List Token}
    (h : a.tokens ++ ts = b.tokens ++ us) :
    a.verb = b.verb ∧ a.flag = b.flag ∧ a.body ++ ts = b.body ++ us := by
  rw [a.tokens_eq, b.tokens_eq, List.append_assoc, List.append_assoc] at h
  obtain ⟨t, rest, ha, hreadA⟩ := a.readVerb_opening
  obtain ⟨t', rest', hb, hreadB⟩ := b.readVerb_opening
  have hsame : t = t' := by
    rw [ha, hb] at h
    exact (List.cons.inj h).1
  rw [hsame, hreadB] at hreadA
  obtain ⟨hverb, hflag⟩ := Prod.mk.inj (Option.some.inj hreadA)
  rw [hverb, hflag] at h
  exact ⟨hverb.symm, hflag.symm, List.append_cancel_left h⟩

/-! ## Parts of clauses -/

/-- The tokens with which a clause begins. -/
def clauseStarts : Set Token := {t | (readVerb t).isSome}

/-- What a clause could go on with. -/
def clauseMore : Set Token :=
  {.symbol '.', .symbol '(', .symbol ':', .symbol ',', .symbol '-', .symbol '<', .ident "WHERE",
    .ident "AND", .ident "ON", .ident "LIMIT"}

theorem notMem_clauseMore : ∀ t ∈ clauseStarts, t ∉ clauseMore := by
  have hnone : ∀ t ∈ clauseMore, readVerb t = none := by
    simp [clauseMore, readVerb]
  intro t hstart hmore
  change (readVerb t).isSome at hstart
  rw [hnone t hmore] at hstart
  cases hstart

theorem Clause.starts (clause : Clause) : ∃ t ∈ clauseStarts, ∃ rest, clause.tokens = t :: rest := by
  obtain ⟨t, rest, hopening, hread⟩ := clause.readVerb_opening
  refine ⟨t, ?_, rest ++ clause.body, ?_⟩
  · show (readVerb t).isSome
    rw [hread]
    rfl
  · rw [clause.tokens_eq, hopening, List.cons_append]

theorem legible_where (conditions : List Condition) :
    Legible (insert (.ident "WHERE") (insert (.ident "AND") exprMore)) (fun _ => True) whereTokens
      (List.map Condition.expanded) conditions := by
  have hand : Token.ident "AND" ∉ exprMore := by
    simp [exprMore]
  exact (Legible.block hand (fun _ hts => hts) fun c _ => c.legible).restrict
    fun _ _ _ _ => trivial

theorem legible_limit (limit : Option Expr) :
    Legible (insert (.ident "LIMIT") exprMore) (fun _ => True) limitTokens
      (Option.map Expr.expanded) limit := by
  have hexpr : exprMore ⊆ insert (.ident "LIMIT") exprMore := Set.subset_insert _ _
  intro limit' _ ts us hts hus h
  cases limit with
  | none =>
    cases limit' with
    | none => exact ⟨rfl, h⟩
    | some e' =>
      change ts = _ :: _ at h
      rw [h] at hts
      simp at hts
  | some e =>
    cases limit' with
    | none =>
      change _ :: _ = us at h
      rw [← h] at hus
      simp at hus
    | some e' =>
      obtain ⟨hread, hend⟩ := e.legible trivial (hts.mono hexpr) (hus.mono hexpr)
        (List.cons.inj h).2
      exact ⟨congrArg some hread, hend⟩

/-- A comma does not belong to an item before it. -/
theorem comma_notMem_itemMore : Token.symbol ',' ∉ itemMore := by
  simp [itemMore, exprMore]

theorem legible_onCreate (items : List SetItem) :
    Legible (insert (.ident "ON") (insert (.symbol ',') itemMore)) (fun _ => True)
      (fun items => block [.ident "ON", .ident "CREATE", .ident "SET"] [.symbol ','] []
        (items.map SetItem.tokens)) (List.map SetItem.expanded) items :=
  (Legible.block comma_notMem_itemMore (fun _ hts => hts) fun i _ => i.legible).restrict
    fun _ _ _ _ => trivial

theorem legible_items {items : List SetItem} (h : items ≠ []) :
    Legible (insert (.symbol ',') itemMore) (fun items => items ≠ [])
      (fun items => List.intercalate [.symbol ','] (items.map SetItem.tokens))
      (List.map SetItem.expanded) items :=
  (Legible.intercalate comma_notMem_itemMore h fun i _ => i.legible).restrict
    fun _ hne => ⟨hne, fun _ _ => trivial⟩

/-- Items of which none goes on with anything go on with one more item. -/
theorem legible_commas {α β : Type} {tokens : α → List Token} {read : α → β}
    (hitem : ∀ a, Legible ∅ (fun _ => True) tokens read a) {l : List α} (h : l ≠ []) :
    Legible {.symbol ','} (fun l => l ≠ [])
      (fun l => List.intercalate [.symbol ','] (l.map tokens)) (List.map read) l := by
  rw [← insert_empty_eq]
  exact (Legible.intercalate (Set.notMem_empty _) h fun a _ => hitem a).restrict
    fun _ hne => ⟨hne, fun _ _ => trivial⟩

theorem legible_vars {vars : List String} (h : vars ≠ []) :
    Legible {.symbol ','} (fun vars => vars ≠ [])
      (fun vars : List String => List.intercalate [.symbol ','] (vars.map fun v => [.ident v]))
      id vars := by
  rw [← List.map_id_fun]
  refine legible_commas ?_ h
  intro v v' _ ts us _ _ heq
  simpa using heq

theorem legible_columns {items : List (Expr × String)} (h : items ≠ []) :
    Legible {.symbol ','} (fun items => items ≠ [])
      (fun items : List (Expr × String) => List.intercalate [.symbol ',']
        (items.map fun i => i.1.tokens ++ [.ident "AS"] ++ [.ident i.2]))
      (List.map fun i => (i.1.expanded, i.2)) items := by
  refine legible_commas ?_ h
  intro i i' _ ts us _ _ heq
  simp only [List.append_assoc, List.cons_append, List.nil_append] at heq
  obtain ⟨hread, hrest⟩ := i.1.legible trivial (by simp [exprMore]) (by simp [exprMore]) heq
  simp only [List.cons.injEq, Token.ident.injEq, true_and] at hrest
  exact ⟨congrArg₂ Prod.mk hread hrest.1, hrest.2⟩

/-! ## Clauses -/

theorem stops_where {more : Set Token} (h : .ident "WHERE" ∉ more) (conditions : List Condition) :
    Stops more (whereTokens conditions) :=
  stops_block h _ _ _ _

theorem stops_limit {more : Set Token} (h : .ident "LIMIT" ∉ more) (limit : Option Expr) :
    Stops more (limitTokens limit) := by
  cases limit with
  | none => exact Stops.nil
  | some e => exact Stops.cons_iff.2 h

theorem clausesTokens_eq (clauses : List Clause) :
    clausesTokens clauses = clauses.flatMap Clause.tokens := by
  induction clauses with
  | nil => rfl
  | cons clause rest ih => rw [clausesTokens, ih, List.flatMap_cons]

/-- Clauses one after another, each told by its keywords. -/
theorem legible_clauseList {clauses : List Clause} (h : ∀ clause ∈ clauses,
    Legible clauseMore Clause.Complete Clause.tokens Clause.expanded clause) :
    Legible (clauseStarts ∪ clauseMore) clausesComplete clausesTokens clausesExpanded clauses := by
  rw [funext clausesTokens_eq, funext clausesExpanded_eq]
  exact (Legible.flatMap notMem_clauseMore Clause.starts h).restrict
    fun _ => clausesComplete_iff.1

/-- Branches with `UNION` between them, which no clause begins or goes on
    with. -/
theorem legible_branchList {branches : List (List Clause)} (hne : branches ≠ [])
    (h : ∀ branch ∈ branches, ∀ clause ∈ branch,
      Legible clauseMore Clause.Complete Clause.tokens Clause.expanded clause) :
    Legible (insert (.ident "UNION") (clauseStarts ∪ clauseMore))
      (fun branches => branches ≠ [] ∧ branchesComplete branches) branchesTokens branchesExpanded
      branches := by
  have hunion : Token.ident "UNION" ∉ clauseStarts ∪ clauseMore := by
    simp [clauseStarts, clauseMore, readVerb]
  have hbranch : ∀ branch ∈ branches, Legible (clauseStarts ∪ clauseMore) clausesComplete
      clausesTokens (List.map Clause.expanded) branch := by
    intro branch hbranch
    rw [← funext clausesExpanded_eq]
    exact legible_clauseList (h branch hbranch)
  rw [funext branchesTokens_eq, funext branchesExpanded_eq]
  refine (Legible.intercalate hunion hne hbranch).restrict ?_
  intro branches' ⟨hne', hcomplete⟩
  refine ⟨hne', ?_⟩
  intro branch' hbranch'
  exact clausesComplete_iff.2 (branchesComplete_iff.1 hcomplete branch' hbranch')

mutual

/-- One case for each clause.  Only a subquery goes on to other clauses. -/
theorem Clause.legible : ∀ {clause : Clause}, clause.Complete →
    Legible clauseMore Clause.Complete Clause.tokens Clause.expanded clause
  | .unwind list var, _ => by
    intro clause' _ ts us _ _ h
    obtain ⟨hverb, -, h⟩ := Clause.body_eq_of_tokens h
    cases clause' with
    | unwind list' var' =>
      simp only [Clause.body, List.append_assoc, List.cons_append, List.nil_append] at h
      obtain ⟨hlist, h⟩ := list.legible trivial (by simp [exprMore]) (by simp [exprMore]) h
      simp only [List.cons.injEq, Token.ident.injEq, true_and] at h
      exact ⟨congrArg₂ Clause.unwind hlist h.1, h.2⟩
    | _ => cases hverb
  | .matching optional path conditions, _ => by
    intro clause' _ ts us hts hus h
    obtain ⟨hverb, hflag, h⟩ := Clause.body_eq_of_tokens h
    cases clause' with
    | matching optional' path' conditions' =>
      have hpath : pathMore ⊆ clauseMore := by
        simp [pathMore, clauseMore, Set.insert_subset_iff]
      have hwhere : insert (.ident "WHERE") (insert (.ident "AND") exprMore) ⊆ clauseMore := by
        simp [exprMore, clauseMore, Set.insert_subset_iff]
      have hstops (conditions : List Condition) : Stops pathMore (whereTokens conditions) :=
        stops_where (by simp [pathMore]) conditions
      simp only [Clause.body, List.append_assoc] at h
      obtain ⟨hp, h⟩ := path.legible trivial ((hstops _).append (hts.mono hpath))
        ((hstops _).append (hus.mono hpath)) h
      obtain ⟨hc, hend⟩ := legible_where conditions trivial (hts.mono hwhere) (hus.mono hwhere) h
      change optional = optional' at hflag
      exact ⟨by rw [Clause.expanded, Clause.expanded, hflag, hp, hc], hend⟩
    | _ => cases hverb
  | .merge path onCreate, _ => by
    intro clause' _ ts us hts hus h
    obtain ⟨hverb, -, h⟩ := Clause.body_eq_of_tokens h
    cases clause' with
    | merge path' onCreate' =>
      have hpath : pathMore ⊆ clauseMore := by
        simp [pathMore, clauseMore, Set.insert_subset_iff]
      have hon : insert (.ident "ON") (insert (.symbol ',') itemMore) ⊆ clauseMore := by
        simp [itemMore, exprMore, clauseMore, Set.insert_subset_iff]
      simp only [Clause.body, List.append_assoc] at h
      obtain ⟨hp, h⟩ := path.legible trivial
        ((stops_block (by simp [pathMore]) _ _ _ _).append (hts.mono hpath))
        ((stops_block (by simp [pathMore]) _ _ _ _).append (hus.mono hpath)) h
      obtain ⟨hi, hend⟩ := legible_onCreate onCreate trivial (hts.mono hon) (hus.mono hon) h
      exact ⟨congrArg₂ Clause.merge hp hi, hend⟩
    | _ => cases hverb
  | .set items, hcomplete => by
    intro clause' hcomplete' ts us hts hus h
    obtain ⟨hverb, -, h⟩ := Clause.body_eq_of_tokens h
    cases clause' with
    | set items' =>
      have hitems : insert (.symbol ',') itemMore ⊆ clauseMore := by
        simp [itemMore, exprMore, clauseMore, Set.insert_subset_iff]
      obtain ⟨hi, hend⟩ := legible_items hcomplete hcomplete' (hts.mono hitems) (hus.mono hitems) h
      exact ⟨congrArg Clause.set hi, hend⟩
    | _ => cases hverb
  | .withVars vars conditions limit, hcomplete => by
    intro clause' hcomplete' ts us hts hus h
    obtain ⟨hverb, -, h⟩ := Clause.body_eq_of_tokens h
    cases clause' with
    | withVars vars' conditions' limit' =>
      have hcomma : ({.symbol ','} : Set Token) ⊆ clauseMore := by
        simp [clauseMore]
      have hwhere : insert (.ident "WHERE") (insert (.ident "AND") exprMore) ⊆ clauseMore := by
        simp [exprMore, clauseMore, Set.insert_subset_iff]
      have hlimit : insert (.ident "LIMIT") exprMore ⊆ clauseMore := by
        simp [exprMore, clauseMore, Set.insert_subset_iff]
      simp only [Clause.body, List.append_assoc] at h
      obtain ⟨hv, h⟩ := legible_vars hcomplete hcomplete'
        ((stops_where (by simp) _).append ((stops_limit (by simp) _).append (hts.mono hcomma)))
        ((stops_where (by simp) _).append ((stops_limit (by simp) _).append (hus.mono hcomma))) h
      obtain ⟨hc, h⟩ := legible_where conditions trivial
        ((stops_limit (by simp [exprMore]) _).append (hts.mono hwhere))
        ((stops_limit (by simp [exprMore]) _).append (hus.mono hwhere)) h
      obtain ⟨hl, hend⟩ := legible_limit limit trivial (hts.mono hlimit) (hus.mono hlimit) h
      change vars = vars' at hv
      exact ⟨by rw [Clause.expanded, Clause.expanded, hv, hc, hl], hend⟩
    | _ => cases hverb
  | .call branches, hcomplete => by
    intro clause' hcomplete' ts us _ _ h
    obtain ⟨hverb, -, h⟩ := Clause.body_eq_of_tokens h
    cases clause' with
    | call branches' =>
      have hclose (ts : List Token) : Stops (insert (.ident "UNION") (clauseStarts ∪ clauseMore))
          (.symbol '\x7d' :: ts) := by
        simp [clauseStarts, clauseMore, readVerb]
      simp only [Clause.body, List.append_assoc, List.cons_append, List.nil_append] at h
      obtain ⟨hb, hend⟩ := legible_branchList hcomplete.1 (legible_branches hcomplete.2)
        hcomplete' (hclose ts) (hclose us) h
      exact ⟨congrArg Clause.call hb, (List.cons.inj hend).2⟩
    | _ => cases hverb
  | .delete detach var, _ => by
    intro clause' _ ts us _ _ h
    obtain ⟨hverb, hflag, h⟩ := Clause.body_eq_of_tokens h
    cases clause' with
    | delete detach' var' =>
      change detach = detach' at hflag
      simp only [Clause.body, List.cons_append, List.nil_append, List.cons.injEq,
        Token.ident.injEq] at h
      exact ⟨congrArg₂ Clause.delete hflag h.1, h.2⟩
    | _ => cases hverb
  | .returning items, hcomplete => by
    intro clause' hcomplete' ts us hts hus h
    obtain ⟨hverb, -, h⟩ := Clause.body_eq_of_tokens h
    cases clause' with
    | returning items' =>
      have hcomma : ({.symbol ','} : Set Token) ⊆ clauseMore := by
        simp [clauseMore]
      obtain ⟨hi, hend⟩ := legible_columns hcomplete hcomplete' (hts.mono hcomma)
        (hus.mono hcomma) h
      exact ⟨congrArg Clause.returning hi, hend⟩
    | _ => cases hverb

theorem legible_clauses : ∀ {clauses : List Clause}, clausesComplete clauses →
    ∀ clause ∈ clauses, Legible clauseMore Clause.Complete Clause.tokens Clause.expanded clause
  | [], _ => by simp
  | clause :: rest, h => List.forall_mem_cons.2 ⟨Clause.legible h.1, legible_clauses h.2⟩

theorem legible_branches : ∀ {branches : List (List Clause)}, branchesComplete branches →
    ∀ branch ∈ branches, ∀ clause ∈ branch,
      Legible clauseMore Clause.Complete Clause.tokens Clause.expanded clause
  | [], _ => by simp
  | branch :: rest, h => List.forall_mem_cons.2 ⟨legible_clauses h.1, legible_branches h.2⟩

end

/-! ## Queries -/

theorem Query.expanded_eq_of_tokens {q q' : Query} (hq : q.Complete) (hq' : q'.Complete)
    (h : q.tokens = q'.tokens) : q.expanded = q'.expanded := by
  have hall := legible_clauseList (legible_clauses hq)
  -- nothing follows either query
  have happend : q.tokens ++ [] = q'.tokens ++ [] := by
    rw [h]
  exact (hall hq' Stops.nil Stops.nil happend).1

/-- The text of a query tells the query, except whether a value that is read
    from `item` was written as a field of the row or as a property. -/
theorem text_eq_iff_expanded_eq {q q' : Query} (hplain : q.Plain) (hplain' : q'.Plain)
    (hcomplete : q.Complete) (hcomplete' : q'.Complete) :
    q.text = q'.text ↔ q.expanded = q'.expanded := by
  constructor
  · intro htext
    have hlex : Lexer.Lexes q.text q'.tokens := by
      rw [htext]
      exact Query.lexes hplain'
    have htokens : some q.tokens = some q'.tokens := (Query.lexes hplain).symm.trans hlex
    exact Query.expanded_eq_of_tokens hcomplete hcomplete' (Option.some.inj htokens)
  · intro hexpanded
    rw [← q.text_expanded, ← q'.text_expanded, hexpanded]

/-! ## A query with misleading names -/

/-- A node whose variable is a keyword and whose label ends a subquery.  Its
    key is the value `key`. -/
def misleadingNode (key : Expr) : NodePattern where
  var := some "MATCH"
  labels := ["a\n\x7d"]
  props := [("UNION", key)]

/-- A query of such nodes in a nested subquery. -/
def misleading (key : Expr) : Query :=
  [.call
    [[.call [[.matching true { start := misleadingNode key } [.isNotNull (.var "MATCH")],
        .delete true "MATCH"]],
      .withVars ["WITH", "LIMIT"] [] (some (.var "WHERE"))],
     [.returning [(.countAll, "AS")]]]]

theorem misleading_plain {key : Expr} (hkey : key.Plain) : (misleading key).Plain := by
  have hmatch : PlainWord "MATCH" := by decide
  have hwords : PlainWord "WITH" ∧ PlainWord "LIMIT" ∧ PlainWord "WHERE" ∧ PlainWord "AS" := by
    decide
  have hnode : (misleadingNode key).Plain :=
    ⟨by simpa [misleadingNode] using hmatch, by simpa [misleadingNode] using hkey⟩
  have hpath : Path.Plain { start := misleadingNode key } := ⟨hnode, by simp⟩
  simp [misleading, Query.Plain, clausesPlain, branchesPlain, Clause.Plain, Condition.Plain,
    Expr.Plain, hpath, hmatch, hwords]

theorem misleading_complete (key : Expr) : (misleading key).Complete := by
  simp [misleading, Query.Complete, clausesComplete, branchesComplete, Clause.Complete]

/-- A field and a property of `item` are written alike, a parameter is not. -/
theorem misleading_texts :
    (misleading (.field "x")).text = (misleading (.property rowAlias "x")).text ∧
      (misleading (.field "x")).text ≠ (misleading (.param "x")).text := by
  have hfield : (misleading (.field "x")).Plain := misleading_plain trivial
  have hproperty : (misleading (.property rowAlias "x")).Plain :=
    misleading_plain (show PlainWord rowAlias by decide)
  have hparam : (misleading (.param "x")).Plain := misleading_plain trivial
  have hcomplete := misleading_complete
  refine ⟨(text_eq_iff_expanded_eq hfield hproperty (hcomplete _) (hcomplete _)).2 rfl, ?_⟩
  rw [Ne, text_eq_iff_expanded_eq hfield hparam (hcomplete _) (hcomplete _)]
  simp [misleading, misleadingNode, Query.expanded, clausesExpanded, branchesExpanded,
    Clause.expanded, Path.expanded, NodePattern.expanded, Expr.expanded]

end GraphSync.Cypher
