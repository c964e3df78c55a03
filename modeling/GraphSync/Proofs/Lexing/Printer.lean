import GraphSync.Cypher.Index
import GraphSync.Cypher.Printer
import GraphSync.Proofs.Lexing.Lexer

/-! # Tokens of what is printed

    Every tree of the syntax has tokens, in which each name is one token,
    whatever its characters are.  What is printed has just these, as long as
    variables and columns, which are written as they are, are plain words
    (`Query.lexes`, `Index.lexes`). -/

namespace GraphSync.Cypher

open Identifier Lexer

/-! ## Plain variables -/

/-- A plain word. -/
def PlainWord (v : String) : Prop := isWord v.toList = true

instance (v : String) : Decidable (PlainWord v) := inferInstanceAs (Decidable (_ = _))

/-- An expression with plain variables. -/
def Expr.Plain : Expr → Prop
  | .property v _ | .var v => PlainWord v
  | .toLower e => e.Plain
  | .param _ | .field _ | .timestamp | .countAll => True

/-- A condition with plain variables. -/
def Condition.Plain : Condition → Prop
  | .eq a b | .ne a b | .isIn a b | .contains a b => a.Plain ∧ b.Plain
  | .isNotNull a => a.Plain

/-- A node pattern with plain variables. -/
structure NodePattern.Plain (n : NodePattern) : Prop where
  var   : ∀ v ∈ n.var, PlainWord v
  props : ∀ p ∈ n.props, p.2.Plain

/-- A path with plain variables. -/
structure Path.Plain (p : Path) : Prop where
  start : p.start.Plain
  hops  : ∀ hop ∈ p.hops, (∀ v ∈ hop.1.var, PlainWord v) ∧ hop.2.Plain

/-- A `SET` item with plain variables. -/
def SetItem.Plain : SetItem → Prop
  | .property v _ value => PlainWord v ∧ value.Plain
  | .labels v _ => PlainWord v

mutual

/-- A clause with plain variables and columns. -/
def Clause.Plain : Clause → Prop
  | .unwind list var => list.Plain ∧ PlainWord var
  | .matching _ path conditions => path.Plain ∧ ∀ c ∈ conditions, c.Plain
  | .merge path onCreate => path.Plain ∧ ∀ i ∈ onCreate, i.Plain
  | .set items => ∀ i ∈ items, i.Plain
  | .withVars vars conditions limit =>
    (∀ v ∈ vars, PlainWord v) ∧ (∀ c ∈ conditions, c.Plain) ∧ ∀ e ∈ limit, e.Plain
  | .call branches => branchesPlain branches
  | .delete _ var => PlainWord var
  | .returning items => ∀ i ∈ items, i.1.Plain ∧ PlainWord i.2

/-- Clauses with plain variables and columns. -/
def clausesPlain : List Clause → Prop
  | [] => True
  | clause :: rest => clause.Plain ∧ clausesPlain rest

/-- Branches with plain variables and columns. -/
def branchesPlain : List (List Clause) → Prop
  | [] => True
  | branch :: rest => clausesPlain branch ∧ branchesPlain rest

end

theorem clausesPlain_append {l m : List Clause} (hl : clausesPlain l) (hm : clausesPlain m) :
    clausesPlain (l ++ m) := by
  induction l with
  | nil => exact hm
  | cons clause rest ih => exact ⟨hl.1, ih hl.2⟩

theorem branchesPlain_of_forall {branches : List (List Clause)}
    (h : ∀ branch ∈ branches, clausesPlain branch) : branchesPlain branches := by
  induction branches with
  | nil => trivial
  | cons branch rest ih =>
    exact ⟨h branch List.mem_cons_self, ih fun b hb => h b (List.mem_cons_of_mem _ hb)⟩

/-! ## Tokens -/

/-- The tokens of an expression. -/
def Expr.tokens : Expr → List Token
  | .param name => [.symbol '$'] ++ [.ident name]
  | .field name => [.ident rowAlias, .symbol '.'] ++ [.ident name]
  | .property v key => [.ident v] ++ [.symbol '.'] ++ [.ident key]
  | .var name => [.ident name]
  | .timestamp => [.ident "timestamp", .symbol '(', .symbol ')']
  | .countAll => [.ident "count", .symbol '(', .symbol '*', .symbol ')']
  | .toLower e => [.ident "toLower", .symbol '('] ++ e.tokens ++ [.symbol ')']

/-- The tokens of a condition. -/
def Condition.tokens : Condition → List Token
  | .eq a b => a.tokens ++ [.symbol '='] ++ b.tokens
  | .ne a b => a.tokens ++ [.symbol '<', .symbol '>'] ++ b.tokens
  | .isIn a b => a.tokens ++ [.ident "IN"] ++ b.tokens
  | .contains a b => a.tokens ++ [.ident "CONTAINS"] ++ b.tokens
  | .isNotNull a => a.tokens ++ [.ident "IS", .ident "NOT", .ident "NULL"]

/-- A list that is left out when it is empty: its items after `first` and
    before `last`, with `sep` between every two. -/
def block (first sep last : List Token) (items : List (List Token)) : List Token :=
  if items.isEmpty then [] else first ++ sep.intercalate items ++ last

/-- The tokens of an optional variable. -/
def varTokens (v : Option String) : List Token := (v.map Token.ident).toList

/-- The tokens of labels. -/
def labelTokens (labels : List String) : List Token :=
  labels.flatMap fun label => [.symbol ':', .ident label]

/-- The tokens of a property in a pattern. -/
def propTokens (p : String × Expr) : List Token := [.ident p.1] ++ [.symbol ':'] ++ p.2.tokens

/-- The tokens of a node pattern. -/
def NodePattern.tokens (n : NodePattern) : List Token :=
  [.symbol '('] ++ varTokens n.var ++ labelTokens n.labels
    ++ block [.symbol '\x7b'] [.symbol ','] [.symbol '\x7d'] (n.props.map propTokens)
    ++ [.symbol ')']

/-- The tokens of an arrow that leads to what follows it, or comes from it. -/
def Arrow.around (inner : List Token) : Arrow → List Token
  | .outgoing => [.symbol '-'] ++ inner ++ [.symbol '-', .symbol '>']
  | .incoming => [.symbol '<', .symbol '-'] ++ inner ++ [.symbol '-']

/-- The tokens of a relationship pattern. -/
def RelPattern.tokens (r : RelPattern) : List Token :=
  r.arrow.around
    ([.symbol '['] ++ varTokens r.var ++ [.symbol ':'] ++ [.ident r.type] ++ [.symbol ']'])

/-- The tokens of a path. -/
def Path.tokens (p : Path) : List Token :=
  p.start.tokens ++ p.hops.flatMap fun hop => hop.1.tokens ++ hop.2.tokens

/-- The tokens of a `SET` item. -/
def SetItem.tokens : SetItem → List Token
  | .property v key value =>
    [.ident v] ++ [.symbol '.'] ++ [.ident key] ++ [.symbol '='] ++ value.tokens
  | .labels v names => [.ident v] ++ labelTokens names

/-- The tokens of a list of conditions after `WHERE`. -/
def whereTokens (conditions : List Condition) : List Token :=
  block [.ident "WHERE"] [.ident "AND"] [] (conditions.map Condition.tokens)

/-- The tokens of an optional limit. -/
def limitTokens : Option Expr → List Token
  | some e => [.ident "LIMIT"] ++ e.tokens
  | none => []

mutual

/-- The tokens of a clause. -/
def Clause.tokens : Clause → List Token
  | .unwind list var => [.ident "UNWIND"] ++ list.tokens ++ [.ident "AS"] ++ [.ident var]
  | .matching optional path conditions =>
    ((if optional then [.ident "OPTIONAL", .ident "MATCH"] else [.ident "MATCH"]) ++ path.tokens)
      ++ whereTokens conditions
  | .merge path onCreate =>
    ([.ident "MERGE"] ++ path.tokens)
      ++ block [.ident "ON", .ident "CREATE", .ident "SET"] [.symbol ','] []
        (onCreate.map SetItem.tokens)
  | .set items => [.ident "SET"] ++ List.intercalate [.symbol ','] (items.map SetItem.tokens)
  | .withVars vars conditions limit =>
    [.ident "WITH"] ++ List.intercalate [.symbol ','] (vars.map fun v => [.ident v])
      ++ whereTokens conditions ++ limitTokens limit
  | .call branches =>
    [.ident "CALL", .symbol '\x7b'] ++ (branchesTokens branches ++ [.symbol '\x7d'])
  | .delete detach var =>
    (if detach then [.ident "DETACH", .ident "DELETE"] else [.ident "DELETE"]) ++ [.ident var]
  | .returning items =>
    [.ident "RETURN"] ++ List.intercalate [.symbol ',']
      (items.map fun i => i.1.tokens ++ [.ident "AS"] ++ [.ident i.2])

/-- The tokens of clauses one after another. -/
def clausesTokens : List Clause → List Token
  | [] => []
  | clause :: rest => clause.tokens ++ clausesTokens rest

/-- The tokens of branches, with `UNION` between two. -/
def branchesTokens : List (List Clause) → List Token
  | [] => []
  | [branch] => clausesTokens branch
  | branch :: rest => clausesTokens branch ++ ([.ident "UNION"] ++ branchesTokens rest)

end

theorem clausesTokens_append (l m : List Clause) :
    clausesTokens (l ++ m) = clausesTokens l ++ clausesTokens m := by
  induction l with
  | nil => rfl
  | cons clause rest ih =>
    rw [List.cons_append, clausesTokens, clausesTokens, ih, List.append_assoc]

theorem branchesTokens_eq :
    ∀ branches : List (List Clause), branchesTokens branches =
      List.intercalate [.ident "UNION"] (branches.map clausesTokens)
  | [] => rfl
  | [branch] => (List.append_nil (clausesTokens branch)).symm
  | branch :: second :: rest => by
    rw [branchesTokens, branchesTokens_eq (second :: rest), List.map_cons, List.map_cons,
      List.map_cons, List.intercalate_cons_cons, List.append_assoc]
    exact List.cons_ne_nil second rest

/-- The tokens with which an index statement begins. -/
def createIndex : List Token :=
  [.ident "CREATE", .ident "INDEX", .ident "IF", .ident "NOT", .ident "EXISTS", .ident "FOR"]

/-- The tokens of the keys of a relationship index. -/
def keyTokens (keys : List String) : List Token :=
  List.intercalate [.symbol ','] (keys.map fun key => [.ident "r", .symbol '.'] ++ [.ident key])

/-- The tokens of an index statement. -/
def Index.tokens : Index → List Token
  | .node label key =>
    createIndex ++ [.symbol '(', .ident "n", .symbol ':'] ++ [.ident label]
      ++ [.symbol ')', .ident "ON", .symbol '(', .ident "n", .symbol '.'] ++ [.ident key]
      ++ [.symbol ')']
  | .relationship type keys =>
    createIndex ++ [.symbol '(', .symbol ')', .symbol '-', .symbol '[', .ident "r", .symbol ':']
      ++ [.ident type]
      ++ [.symbol ']', .symbol '-', .symbol '(', .symbol ')', .ident "ON", .symbol '(']
      ++ keyTokens keys ++ [.symbol ')']

/-! ## Expressions and conditions -/

theorem Expr.lexes {e : Expr} (h : e.Plain) : Lexes e.text e.tokens := by
  induction e with
  | param name =>
    have hdollar : Closed "$" [.symbol '$'] := rfl
    exact hdollar.append_lexes (lexes_escape name)
  | field name =>
    have hrow : Closed (rowAlias ++ ".") [.ident rowAlias, .symbol '.'] := rfl
    exact hrow.append_lexes (lexes_escape name)
  | property v key =>
    have hdot : Between "." [.symbol '.'] := by decide
    exact ((lexes_word h).append_between hdot).append_lexes (lexes_escape key)
  | var name => exact lexes_word h
  | timestamp => rfl
  | countAll => rfl
  | toLower e ih =>
    have hopen : Closed "toLower(" [.ident "toLower", .symbol '('] := rfl
    have hclose : Between ")" [.symbol ')'] := by decide
    exact ((hopen.append_lexes (ih h)).append_between hclose).lexes

/-- Two expressions with something between them. -/
theorem Expr.lexes_between {a b : Expr} (h : a.Plain ∧ b.Plain) {sep : String} {us : List Token}
    (hsep : Between sep us) : Lexes (a.text ++ sep ++ b.text) (a.tokens ++ us ++ b.tokens) :=
  ((Expr.lexes h.1).append_between hsep).append_lexes (Expr.lexes h.2)

theorem Condition.lexes {c : Condition} (h : c.Plain) : Lexes c.text c.tokens := by
  cases c with
  | eq a b => exact Expr.lexes_between h (by decide)
  | ne a b => exact Expr.lexes_between h (by decide)
  | isIn a b => exact Expr.lexes_between h (by decide)
  | contains a b => exact Expr.lexes_between h (by decide)
  | isNotNull a =>
    have hnull : Lexes " IS NOT NULL" [.ident "IS", .ident "NOT", .ident "NULL"] := rfl
    exact (Expr.lexes h).append hnull (by decide)

/-! ## Patterns -/

theorem lexes_var {v : Option String} (h : ∀ w ∈ v, PlainWord w) :
    Lexes (v.getD "") (varTokens v) := by
  cases v with
  | none => exact lexes_empty
  | some w => exact lexes_word (h w rfl)

theorem labelsText_cons (label : String) (rest : List String) :
    labelsText (label :: rest) = ":" ++ escape label ++ labelsText rest := by
  unfold labelsText
  rw [List.map_cons, String.join_cons]

theorem starts_labels (labels : List String) : Starts (labelsText labels) := by
  cases labels with
  | nil => decide
  | cons label rest =>
    have hcolon : Starts ":" := by decide
    rw [labelsText_cons, String.append_assoc]
    exact hcolon.append (by decide) _

theorem lexes_labels (labels : List String) : Lexes (labelsText labels) (labelTokens labels) := by
  induction labels with
  | nil => rfl
  | cons label rest ih =>
    have hcolon : Closed ":" [.symbol ':'] := rfl
    rw [labelsText_cons]
    exact (hcolon.append_lexes (lexes_escape label)).append ih (starts_labels rest)

theorem starts_ite (b : Bool) {s : String} (h : Starts s) : Starts (if b then "" else s) := by
  cases b with
  | true => exact starts_empty
  | false => exact h

theorem lexes_prop {p : String × Expr} (h : p.2.Plain) :
    Lexes (escape p.1 ++ ": " ++ p.2.text) (propTokens p) :=
  ((lexes_escape p.1).append_between (by decide)).append_lexes (Expr.lexes h)

/-- The properties of a node pattern, in braces. -/
def propsText (props : List String) : String :=
  if props.isEmpty then "" else " \x7b" ++ ", ".intercalate props ++ "\x7d"

theorem starts_props (props : List String) : Starts (propsText props) := by
  have hopen : Starts " \x7b" := by decide
  apply starts_ite
  rw [String.append_assoc]
  exact hopen.append (by decide) _

theorem lexes_props {props : List (String × Expr)} (h : ∀ p ∈ props, p.2.Plain) :
    Lexes (propsText (props.map fun (key, value) => escape key ++ ": " ++ value.text))
      (block [.symbol '\x7b'] [.symbol ','] [.symbol '\x7d'] (props.map propTokens)) := by
  cases props with
  | nil => rfl
  | cons p rest =>
    have hopen : Closed " \x7b" [.symbol '\x7b'] := rfl
    have hcomma : Between ", " [.symbol ','] := by decide
    have hitems := lexes_intercalate hcomma fun p hp => lexes_prop (h p hp)
    exact ((hopen.append_lexes hitems).append_between (by decide)).lexes

theorem NodePattern.closed {n : NodePattern} (h : n.Plain) : Closed n.text n.tokens := by
  have hopen : Closed "(" [.symbol '('] := rfl
  have hvar := hopen.append_lexes (lexes_var h.var)
  have hlabels := hvar.append (lexes_labels n.labels) (starts_labels n.labels)
  have hprops := hlabels.append (lexes_props h.props) (starts_props _)
  exact hprops.append_between (by decide)

theorem RelPattern.closed {r : RelPattern} (h : ∀ v ∈ r.var, PlainWord v) :
    Closed r.text r.tokens := by
  have hopen : Closed "[" [.symbol '['] := rfl
  have hcolon : Between ":" [.symbol ':'] := by decide
  have hclose : Between "]" [.symbol ']'] := by decide
  have htype := ((hopen.append_lexes (lexes_var h)).append_between hcolon).append_lexes
    (lexes_escape r.type)
  have hinner := htype.append_between hclose
  obtain ⟨v, type, arrow⟩ := r
  cases arrow with
  | outgoing =>
    have hleft : Closed "-" [.symbol '-'] := rfl
    have hright : Closed "->" [.symbol '-', .symbol '>'] := rfl
    exact (hleft.append hinner).append hright
  | incoming =>
    have hleft : Closed "<-" [.symbol '<', .symbol '-'] := rfl
    have hright : Closed "-" [.symbol '-'] := rfl
    exact (hleft.append hinner).append hright

theorem Path.closed {p : Path} (h : p.Plain) : Closed p.text p.tokens := by
  obtain ⟨start, hops⟩ := p
  -- a node pattern is closed, so the hops do not depend on what is before them
  have hhops : Closed (String.join (hops.map fun hop => hop.1.text ++ hop.2.text))
      (hops.flatMap fun hop => hop.1.tokens ++ hop.2.tokens) := by
    have hall : ∀ hop ∈ hops, (∀ v ∈ hop.1.var, PlainWord v) ∧ hop.2.Plain := h.hops
    clear h
    induction hops with
    | nil => rfl
    | cons hop rest ih =>
      obtain ⟨hrel, hnode⟩ := hall hop List.mem_cons_self
      have hrest := ih fun other hmem => hall other (List.mem_cons_of_mem _ hmem)
      rw [List.map_cons, String.join_cons, List.flatMap_cons]
      exact ((RelPattern.closed hrel).append (NodePattern.closed hnode)).append hrest
  exact (NodePattern.closed h.start).append hhops

/-! ## Lines -/

theorem SetItem.lexes {i : SetItem} (h : i.Plain) : Lexes i.text i.tokens := by
  cases i with
  | property v key value =>
    have hdot : Between "." [.symbol '.'] := by decide
    have hkey := ((lexes_word h.1).append_between hdot).append_lexes (lexes_escape key)
    exact (hkey.append_between (by decide)).append_lexes (Expr.lexes h.2)
  | labels v names => exact (lexes_word h).append (lexes_labels names) (starts_labels names)

/-- Lines with the tokens `ts`, each line complete in itself. -/
inductive LexLines : List String → List Token → Prop where
  | nil : LexLines [] []
  | cons {line : String} {ts : List Token} {rest : List String} {us : List Token} :
    Lexes line ts → LexLines rest us → LexLines (line :: rest) (ts ++ us)

theorem LexLines.single {line : String} {ts : List Token} (h : Lexes line ts) :
    LexLines [line] ts := by
  rw [← List.append_nil ts]
  exact .cons h .nil

theorem LexLines.append {l m : List String} {ts us : List Token} (hl : LexLines l ts)
    (hm : LexLines m us) : LexLines (l ++ m) (ts ++ us) := by
  induction hl with
  | nil => exact hm
  | cons hline _ ih =>
    rw [List.append_assoc]
    exact .cons hline ih

theorem lexes_indent {line : String} {ts : List Token} (h : Lexes line ts) :
    Lexes (indent line) ts := by
  have hblank : Closed "    " [] := rfl
  exact hblank.append_lexes h

/-- The lines of a subquery are indented, each once. -/
theorem LexLines.indent {l : List String} {ts : List Token} (h : LexLines l ts) :
    LexLines (l.map Cypher.indent) ts := by
  induction h with
  | nil => exact .nil
  | cons hline _ ih => exact .cons (lexes_indent hline) ih

/-- Lines are put together with line breaks. -/
theorem LexLines.lexes {l : List String} {ts : List Token} (h : LexLines l ts) :
    Lexes ("\n".intercalate l) ts := by
  induction h with
  | nil => exact lexes_empty
  | @cons line ts rest us hline hrest ih =>
    cases hrest with
    | nil =>
      -- the last line has no break after it
      rw [String.intercalate_singleton, List.append_nil]
      exact hline
    | cons hsecond hothers =>
      have hbreak : Between "\n" [] := by decide
      have hfirst := hline.append_between hbreak
      rw [List.append_nil] at hfirst
      rw [String.intercalate_cons_cons]
      exact hfirst.append_lexes ih

/-! ## Items of a `SET` -/

theorem lexLines_commaLines :
    ∀ {items : List SetItem}, (∀ i ∈ items, i.Plain) →
      LexLines (commaLines items) (List.intercalate [.symbol ','] (items.map SetItem.tokens))
  | [], _ => .nil
  | [item], h => by
    rw [show List.intercalate _ _ = item.tokens by simp]
    exact .single (lexes_indent (SetItem.lexes (h item List.mem_cons_self)))
  | item :: second :: rest, h => by
    have hcomma : Between "," [.symbol ','] := by decide
    have hitem := SetItem.lexes (h item List.mem_cons_self)
    have hrest := lexLines_commaLines fun i hi => h i (List.mem_cons_of_mem item hi)
    rw [List.map_cons, List.map_cons, List.intercalate_cons_cons]
    exact .cons (lexes_indent (hitem.append_between hcomma).lexes) hrest

theorem lexLines_setLines {items : List SetItem} (h : ∀ i ∈ items, i.Plain) :
    LexLines (setLines items) (Clause.set items).tokens := by
  have hset : Lexes "SET" [.ident "SET"] := rfl
  unfold setLines
  split
  · next item =>
    have hopen : Closed "SET " [.ident "SET"] := rfl
    rw [show (Clause.set [item]).tokens = [.ident "SET"] ++ item.tokens by simp [Clause.tokens]]
    exact .single (hopen.append_lexes (SetItem.lexes (h item List.mem_cons_self)))
  · rw [Clause.tokens]
    exact .cons hset (lexLines_commaLines h)

/-! ## Lists that may be left out -/

section block

variable {α : Type} {text : α → String} {tokens : α → List Token} {l : List α}
  {first sep : String} {fs us : List Token}

theorem lexes_block (h : ∀ a ∈ l, Lexes (text a) (tokens a)) (hfirst : Closed first fs)
    (hsep : Between sep us) :
    Lexes (if l.isEmpty then "" else first ++ sep.intercalate (l.map text))
      (block fs us [] (l.map tokens)) := by
  cases l with
  | nil => rfl
  | cons a rest =>
    show Lexes (first ++ _) (fs ++ _ ++ [])
    rw [List.append_nil]
    exact hfirst.append_lexes (lexes_intercalate hsep h)

/-- The same on a line of its own. -/
theorem lexLines_block (h : ∀ a ∈ l, Lexes (text a) (tokens a)) (hfirst : Closed first fs)
    (hsep : Between sep us) :
    LexLines (if l.isEmpty then [] else [first ++ sep.intercalate (l.map text)])
      (block fs us [] (l.map tokens)) := by
  have hline := lexes_block h hfirst hsep
  cases l with
  | nil => exact .nil
  | cons a rest => exact .single hline

end block

/-! ## Clauses -/

theorem lexes_withLine {vars : List String} {conditions : List Condition} {limit : Option Expr}
    (hvars : ∀ v ∈ vars, PlainWord v) (hconditions : ∀ c ∈ conditions, c.Plain)
    (hlimit : ∀ e ∈ limit, e.Plain) :
    Lexes (withLine vars conditions limit) (Clause.withVars vars conditions limit).tokens := by
  have hwith : Closed "WITH " [.ident "WITH"] := rfl
  have hwhere : Between " WHERE " [.ident "WHERE"] := by decide
  have hand : Between " AND " [.ident "AND"] := by decide
  have hcomma : Between ", " [.symbol ','] := by decide
  have hlist := lexes_intercalate hcomma fun v hv => lexes_word (hvars v hv)
  rw [List.map_id'] at hlist
  have hfilter := lexes_block (fun c hc => Condition.lexes (hconditions c hc)) hwhere.closed hand
  have hstarts := starts_ite conditions.isEmpty
    (hwhere.starts.append (by decide) (conditionsText conditions))
  have hhead := (hwith.append_lexes hlist).append hfilter hstarts
  unfold withLine Clause.tokens
  cases limit with
  | none => exact hhead.append lexes_empty starts_empty
  | some e =>
    have hlimitWord : Between " LIMIT " [.ident "LIMIT"] := by decide
    exact hhead.append (hlimitWord.closed.append_lexes (Expr.lexes (hlimit e rfl)))
      (hlimitWord.starts.append (by decide) _)

mutual

theorem Clause.lexLines : ∀ {clause : Clause}, clause.Plain → LexLines clause.lines clause.tokens
  | .unwind list var, h => by
    have hunwind : Closed "UNWIND " [.ident "UNWIND"] := rfl
    have has : Between " AS " [.ident "AS"] := by decide
    unfold Clause.lines Clause.tokens
    exact .single (((hunwind.append_lexes (Expr.lexes h.1)).append_between has).append_lexes
      (lexes_word h.2))
  | .matching optional path conditions, h => by
    have hmatch : Closed (if optional then "OPTIONAL MATCH " else "MATCH ")
        (if optional then [.ident "OPTIONAL", .ident "MATCH"] else [.ident "MATCH"]) := by
      cases optional <;> rfl
    have hwhere : Closed "WHERE " [.ident "WHERE"] := rfl
    have hand : Between " AND " [.ident "AND"] := by decide
    unfold Clause.lines Clause.tokens
    exact .cons (hmatch.append (Path.closed h.1)).lexes
      (lexLines_block (fun c hc => Condition.lexes (h.2 c hc)) hwhere hand)
  | .merge path onCreate, h => by
    have hmerge : Closed "MERGE " [.ident "MERGE"] := rfl
    have hon : Closed "ON CREATE SET " [.ident "ON", .ident "CREATE", .ident "SET"] := rfl
    have hcomma : Between ", " [.symbol ','] := by decide
    unfold Clause.lines Clause.tokens
    exact .cons (hmerge.append (Path.closed h.1)).lexes
      (lexLines_block (fun i hi => SetItem.lexes (h.2 i hi)) hon hcomma)
  | .set items, h => lexLines_setLines h
  | .withVars vars conditions limit, h => .single (lexes_withLine h.1 h.2.1 h.2.2)
  | .call branches, h => by
    have hopen : Lexes "CALL \x7b" [.ident "CALL", .symbol '\x7b'] := rfl
    have hclose : Lexes "\x7d" [.symbol '\x7d'] := rfl
    unfold Clause.lines Clause.tokens
    exact .cons hopen ((lexLines_branches h).append (.single hclose))
  | .delete detach var, h => by
    have hdelete : Closed (if detach then "DETACH DELETE " else "DELETE ")
        (if detach then [.ident "DETACH", .ident "DELETE"] else [.ident "DELETE"]) := by
      cases detach <;> rfl
    unfold Clause.lines Clause.tokens
    exact .single (hdelete.append_lexes (lexes_word h))
  | .returning items, h => by
    have hreturn : Closed "RETURN " [.ident "RETURN"] := rfl
    have has : Between " AS " [.ident "AS"] := by decide
    have hcomma : Between ", " [.symbol ','] := by decide
    have hitems := lexes_intercalate hcomma fun i hi =>
      ((Expr.lexes (h i hi).1).append_between has).append_lexes (lexes_word (h i hi).2)
    unfold Clause.lines Clause.tokens
    exact .single (hreturn.append_lexes hitems)

theorem lexLines_clauses : ∀ {clauses : List Clause}, clausesPlain clauses →
    LexLines (clauseLines clauses) (clausesTokens clauses)
  | [], _ => .nil
  | _ :: _, h => (Clause.lexLines h.1).append (lexLines_clauses h.2)

theorem lexLines_branches : ∀ {branches : List (List Clause)}, branchesPlain branches →
    LexLines (branchLines branches) (branchesTokens branches)
  | [], _ => .nil
  | [_], h => (lexLines_clauses h.1).indent
  | _ :: _ :: _, h => by
    have hunion : Lexes "UNION" [.ident "UNION"] := rfl
    exact (lexLines_clauses h.1).indent.append
      (.cons (lexes_indent hunion) (lexLines_branches h.2))

end

/-! ## Statements -/

/-- The tokens of a query. -/
def Query.tokens (q : Query) : List Token := clausesTokens q

/-- A query with plain variables and columns. -/
def Query.Plain (q : Query) : Prop := clausesPlain q

/-- The text of a query is read as its tokens. -/
theorem Query.lexes {q : Query} (h : q.Plain) : Lexes q.text q.tokens :=
  (lexLines_clauses h).lexes

/-- The text of an index statement is read as its tokens. -/
theorem Index.lexes (i : Index) : Lexes i.text i.tokens := by
  cases i with
  | node label key =>
    have hopen : Closed "CREATE INDEX IF NOT EXISTS FOR (n:"
        (createIndex ++ [.symbol '(', .ident "n", .symbol ':']) := rfl
    have hon : Between ") ON (n." [.symbol ')', .ident "ON", .symbol '(', .ident "n",
        .symbol '.'] := by decide
    have hlabel := (hopen.append_lexes (lexes_escape label)).append_between hon
    exact ((hlabel.append_lexes (lexes_escape key)).append_between (by decide)).lexes
  | relationship type keys =>
    have hopen : Closed "CREATE INDEX IF NOT EXISTS FOR ()-[r:"
        (createIndex ++
          [.symbol '(', .symbol ')', .symbol '-', .symbol '[', .ident "r", .symbol ':']) := rfl
    have hon : Between "]-() ON (" [.symbol ']', .symbol '-', .symbol '(', .symbol ')',
        .ident "ON", .symbol '('] := by decide
    have hkey : Closed "r." [.ident "r", .symbol '.'] := rfl
    have hcomma : Between ", " [.symbol ','] := by decide
    have hkeys := lexes_intercalate hcomma fun key (_ : key ∈ keys) =>
      hkey.append_lexes (lexes_escape key)
    have htype := (hopen.append_lexes (lexes_escape type)).append_between hon
    exact ((htype.append_lexes hkeys).append_between (by decide)).lexes

theorem keyTokens_injective :
    ∀ {keys keys' : List String}, keyTokens keys = keyTokens keys' → keys = keys'
  | [], [], _ => rfl
  | [], [_], h => by simp [keyTokens] at h
  | [], _ :: _ :: _, h => by simp [keyTokens] at h
  | [_], [], h => by simp [keyTokens] at h
  | _ :: _ :: _, [], h => by simp [keyTokens] at h
  | [_], [_], h => by simpa [keyTokens] using h
  | [_], _ :: _ :: _, h => by simp [keyTokens] at h
  | _ :: _ :: _, [_], h => by simp [keyTokens] at h
  | a :: b :: rest, c :: d :: rest', h => by
    have hsplit (x y : String) (more : List String) : keyTokens (x :: y :: more) =
        [.ident "r", .symbol '.', .ident x, .symbol ','] ++ keyTokens (y :: more) := by
      simp [keyTokens, List.intercalate_cons_cons]
    rw [hsplit, hsplit] at h
    obtain ⟨hfirst, hrest⟩ := List.append_inj h rfl
    have hac : a = c := by simpa using hfirst
    rw [hac, keyTokens_injective hrest]

/-- No two index statements are read alike. -/
theorem Index.tokens_injective : Function.Injective Index.tokens := by
  intro i j h
  cases i with
  | node label key =>
    cases j with
    | node label' key' => simpa [Index.tokens, createIndex] using h
    | relationship type keys => simp [Index.tokens, createIndex] at h
  | relationship type keys =>
    cases j with
    | node label key => simp [Index.tokens, createIndex] at h
    | relationship type' keys' =>
      have hparts : type = type' ∧ keyTokens keys = keyTokens keys' := by
        simpa [Index.tokens, createIndex, keyTokens] using h
      rw [hparts.1, keyTokens_injective hparts.2]

end GraphSync.Cypher
