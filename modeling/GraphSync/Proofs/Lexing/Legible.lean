import GraphSync.Proofs.Lexing.Expansion
import GraphSync.Proofs.Lexing.Printer
import Mathlib.Data.Set.Insert

/-! # Reading tokens back

    What is printed for a tree can be told from the tokens after it, as long as
    these do not go on with it.  For a syntactic class this is said by
    `Legible`: tokens of two members cancel from the left, and what cancels
    was printed for the same member.

    A variable, for example, could go on with a dot and be a property after
    all; the tokens that could go on are a parameter of `Legible`, and every
    way to put classes together says what becomes of them:

    - a list with separators goes on with the separator (`Legible.intercalate`),
    - a list of items that begin with certain tokens goes on with these
      (`Legible.flatMap`),
    - a list that is left out when it is empty goes on with the token that
      would have opened it (`Legible.block`). -/

namespace GraphSync.Cypher

/-! ## Tokens that do not go on -/

/-- The first token, if there is one, is not among `more`. -/
def Stops (more : Set Token) (ts : List Token) : Prop := ∀ t ∈ ts.head?, t ∉ more

namespace Stops

variable {more less : Set Token} {t : Token} {ts us : List Token}

@[simp]
theorem nil : Stops more [] := by
  simp [Stops]

@[simp]
theorem cons_iff : Stops more (t :: ts) ↔ t ∉ more := by
  simp [Stops]

theorem append (hts : Stops more ts) (hus : Stops more us) : Stops more (ts ++ us) := by
  cases ts with
  | nil => exact hus
  | cons t rest => exact cons_iff.2 (cons_iff.1 hts)

theorem mono (h : less ⊆ more) (hts : Stops more ts) : Stops less ts :=
  fun t ht hless => hts t ht (h hless)

/-- Items that begin with certain tokens do not begin with others, and where
    there are none, what follows does not either. -/
theorem flatMap {α : Type} {starts : Set Token} {tokens : α → List Token}
    (hstarts : ∀ t ∈ starts, t ∉ more)
    (hhead : ∀ a, ∃ t ∈ starts, ∃ rest, tokens a = t :: rest)
    (hts : Stops more ts) (l : List α) : Stops more (l.flatMap tokens ++ ts) := by
  cases l with
  | nil => exact hts
  | cons a rest =>
    obtain ⟨t, ht, rest', htokens⟩ := hhead a
    rw [List.flatMap_cons, htokens, List.cons_append, List.cons_append, cons_iff]
    exact hstarts t ht

end Stops

/-! ## Classes that can be read back -/

section combinators

variable {α β : Type} {more follow starts : Set Token} {good : α → Prop}
  {tokens : α → List Token} {read : α → β} {a : α} {l : List α}

/-- The tokens of `a`, before others that do not begin with one in `more`, are
    those of no other member, up to what `read` tells of members. -/
def Legible (more : Set Token) (good : α → Prop) (tokens : α → List Token) (read : α → β)
    (a : α) : Prop :=
  ∀ ⦃b : α⦄, good b → ∀ ⦃ts us : List Token⦄, Stops more ts → Stops more us →
    tokens a ++ ts = tokens b ++ us → read a = read b ∧ ts = us

namespace Legible

theorem restrict {fewer : α → Prop} (h : Legible more good tokens read a)
    (hfewer : ∀ b, fewer b → good b) : Legible more fewer tokens read a :=
  fun _ hb _ _ hts hus heq => h (hfewer _ hb) hts hus heq

/-- Items one after another, when the first token of an item tells that there
    is one. -/
theorem flatMap (hstarts : ∀ t ∈ starts, t ∉ more)
    (hhead : ∀ a, ∃ t ∈ starts, ∃ rest, tokens a = t :: rest)
    (h : ∀ a ∈ l, Legible more good tokens read a) :
    Legible (starts ∪ more) (fun m => ∀ b ∈ m, good b) (List.flatMap tokens) (List.map read) l := by
  have hless : more ⊆ starts ∪ more := Set.subset_union_right
  -- a list that has ended is not followed by an item
  have hitem (b : α) (us : List Token) : ¬ Stops (starts ∪ more) (tokens b ++ us) := by
    obtain ⟨t, ht, rest, htokens⟩ := hhead b
    rw [htokens, List.cons_append, Stops.cons_iff]
    exact fun hnot => hnot (Set.mem_union_left _ ht)
  induction l with
  | nil =>
    intro m hm ts us hts hus heq
    cases m with
    | nil => exact ⟨rfl, heq⟩
    | cons b rest =>
      change ts = _ at heq
      rw [heq, List.flatMap_cons, List.append_assoc] at hts
      exact absurd hts (hitem b _)
  | cons a l ih =>
    intro m hm ts us hts hus heq
    cases m with
    | nil =>
      change _ = us at heq
      rw [← heq, List.flatMap_cons, List.append_assoc] at hus
      exact absurd hus (hitem a _)
    | cons b rest =>
      simp only [List.flatMap_cons, List.append_assoc] at heq
      obtain ⟨hread, hrest⟩ := h a List.mem_cons_self (hm b List.mem_cons_self)
        (.flatMap hstarts hhead (hts.mono hless) l) (.flatMap hstarts hhead (hus.mono hless) rest)
        heq
      obtain ⟨hreads, hend⟩ := ih (fun c hc => h c (List.mem_cons_of_mem a hc))
        (fun c hc => hm c (List.mem_cons_of_mem b hc)) hts hus hrest
      exact ⟨by rw [List.map_cons, List.map_cons, hread, hreads], hend⟩

/-- Items with a separator between every two: the first, and then each after a
    separator. -/
theorem intercalate {s : Token} (hs : s ∉ more) (hl : l ≠ [])
    (h : ∀ a ∈ l, Legible more good tokens read a) :
    Legible (insert s more) (fun m => m ≠ [] ∧ ∀ b ∈ m, good b)
      (fun m => List.intercalate [s] (m.map tokens)) (List.map read) l := by
  have hsplit (a : α) (rest : List α) : List.intercalate [s] ((a :: rest).map tokens) =
      tokens a ++ rest.flatMap fun b => s :: tokens b := by
    induction rest generalizing a with
    | nil => simp
    | cons b rest ih =>
      rw [List.map_cons, List.map_cons, List.intercalate_cons_cons, ← List.map_cons, ih b,
        List.flatMap_cons, List.append_assoc]
      rfl
  have hstarts : ∀ t ∈ ({s} : Set Token), t ∉ more := by
    intro t ht
    rw [Set.mem_singleton_iff.1 ht]
    exact hs
  have hhead (b : α) : ∃ t ∈ ({s} : Set Token), ∃ rest, s :: tokens b = t :: rest :=
    ⟨s, rfl, tokens b, rfl⟩
  have hitem : ∀ a ∈ l, Legible more good (fun b => s :: tokens b) read a := by
    intro a ha b hb ts us hts hus heq
    exact h a ha hb hts hus (List.cons.inj heq).2
  intro m ⟨hm, hgood⟩ ts us hts hus heq
  obtain ⟨a, l, rfl⟩ := List.exists_cons_of_ne_nil hl
  obtain ⟨b, m, rfl⟩ := List.exists_cons_of_ne_nil hm
  have hless : more ⊆ insert s more := Set.subset_insert s more
  simp only [hsplit, List.append_assoc] at heq
  obtain ⟨hread, hrest⟩ := h a List.mem_cons_self (hgood b List.mem_cons_self)
    (.flatMap hstarts hhead (hts.mono hless) l) (.flatMap hstarts hhead (hus.mono hless) m) heq
  obtain ⟨hreads, hend⟩ := flatMap hstarts hhead
    (fun c hc => hitem c (List.mem_cons_of_mem a hc))
    (fun c hc => hgood c (List.mem_cons_of_mem b hc)) hts hus hrest
  exact ⟨by rw [List.map_cons, List.map_cons, hread, hreads], hend⟩

/-- A list that is left out when it is empty. -/
theorem block {f s : Token} {first last : List Token} (hs : s ∉ more)
    (hlast : ∀ ts, Stops follow ts → Stops (insert s more) (last ++ ts))
    (h : ∀ a ∈ l, Legible more good tokens read a) :
    Legible (insert f follow) (fun m => ∀ b ∈ m, good b)
      (fun m => block (f :: first) [s] last (m.map tokens)) (List.map read) l := by
  have hless : follow ⊆ insert f follow := Set.subset_insert f follow
  intro m hm ts us hts hus heq
  cases l with
  | nil =>
    cases m with
    | nil => exact ⟨rfl, heq⟩
    | cons b rest =>
      change ts = f :: _ at heq
      rw [heq] at hts
      exact absurd (Set.mem_insert f follow) (Stops.cons_iff.1 hts)
  | cons a l =>
    cases m with
    | nil =>
      change f :: _ = us at heq
      rw [← heq] at hus
      exact absurd (Set.mem_insert f follow) (Stops.cons_iff.1 hus)
    | cons b rest =>
      change (f :: first) ++ List.intercalate [s] ((a :: l).map tokens) ++ last ++ ts =
        (f :: first) ++ List.intercalate [s] ((b :: rest).map tokens) ++ last ++ us at heq
      simp only [List.append_assoc] at heq
      have hitems := List.append_cancel_left heq
      obtain ⟨hreads, hend⟩ := intercalate hs (List.cons_ne_nil a l) h
        ⟨List.cons_ne_nil b rest, hm⟩ (hlast ts (hts.mono hless)) (hlast us (hus.mono hless)) hitems
      exact ⟨hreads, List.append_cancel_left hend⟩

end Legible

end combinators

/-! ## Expressions and conditions -/

/-- What an expression could go on with: a variable may be an owner or a
    function. -/
def exprMore : Set Token := {.symbol '.', .symbol '('}

/-- A name that neither a dot nor a parenthesis follows is a variable. -/
theorem Expr.eq_var_of_tokens {e : Expr} {v : String} {ts us : List Token}
    (hts : Stops exprMore ts) (h : .ident v :: ts = e.tokens ++ us) : e = .var v ∧ ts = us := by
  cases e with
  | var w => simpa [tokens, eq_comm] using h
  | param name => simp [tokens] at h
  | _ =>
    -- the token after the name is one of the two
    simp only [tokens, List.cons_append, List.nil_append, List.cons.injEq, List.append_assoc] at h
    rw [h.2] at hts
    simp [exprMore] at hts

theorem Expr.legible (e : Expr) :
    Legible exprMore (fun _ => True) Expr.tokens Expr.expanded e := by
  induction e with
  | var name =>
    intro e' _ ts us hts _ h
    obtain ⟨rfl, hrest⟩ := eq_var_of_tokens hts h
    exact ⟨rfl, hrest⟩
  | toLower e ih =>
    intro e' _ ts us _ hus h
    cases e' with
    | toLower e' =>
      have hclose (ts : List Token) : Stops exprMore (.symbol ')' :: ts) := by
        simp [exprMore]
      simp only [tokens, List.append_assoc] at h
      obtain ⟨hread, hrest⟩ := ih trivial (hclose ts) (hclose us) (List.append_cancel_left h)
      exact ⟨congrArg toLower hread, (List.cons.inj hrest).2⟩
    | var w => exact absurd (eq_var_of_tokens hus h.symm).1 (by simp)
    | _ => simp [tokens, rowAlias] at h
  | param name =>
    intro e' _ ts us _ hus h
    cases e' with
    | param name' => simpa [tokens, expanded] using h
    | _ => simp [tokens] at h
  | field name =>
    intro e' _ ts us _ hus h
    cases e' with
    | field name' => simpa [tokens, expanded] using h
    | property v key => simpa [tokens, expanded, and_assoc] using h
    | var w => exact absurd (eq_var_of_tokens hus h.symm).1 (by simp)
    | _ => simp [tokens] at h
  | property v key =>
    intro e' _ ts us _ hus h
    cases e' with
    | field name => simpa [tokens, expanded, and_assoc] using h
    | property v' key' => simpa [tokens, expanded, and_assoc] using h
    | var w => exact absurd (eq_var_of_tokens hus h.symm).1 (by simp)
    | _ => simp [tokens] at h
  | timestamp =>
    intro e' _ ts us _ hus h
    cases e' with
    | timestamp => simpa [tokens] using h
    | var w => exact absurd (eq_var_of_tokens hus h.symm).1 (by simp)
    | _ => simp [tokens] at h
  | countAll =>
    intro e' _ ts us _ hus h
    cases e' with
    | countAll => simpa [tokens] using h
    | var w => exact absurd (eq_var_of_tokens hus h.symm).1 (by simp)
    | _ => simp [tokens] at h

/-- The expression that a condition is about. -/
def Condition.subject : Condition → Expr
  | .eq a _ | .ne a _ | .isIn a _ | .contains a _ | .isNotNull a => a

/-- The tokens of what is said about it. -/
def Condition.predicate : Condition → List Token
  | .eq _ b => .symbol '=' :: b.tokens
  | .ne _ b => .symbol '<' :: .symbol '>' :: b.tokens
  | .isIn _ b => .ident "IN" :: b.tokens
  | .contains _ b => .ident "CONTAINS" :: b.tokens
  | .isNotNull _ => [.ident "IS", .ident "NOT", .ident "NULL"]

theorem Condition.tokens_eq (c : Condition) : c.tokens = c.subject.tokens ++ c.predicate := by
  cases c <;> simp [tokens, subject, predicate]

theorem Condition.stops_predicate (c : Condition) (ts : List Token) :
    Stops exprMore (c.predicate ++ ts) := by
  cases c <;> simp [predicate, exprMore]

theorem Condition.legible (c : Condition) :
    Legible exprMore (fun _ => True) Condition.tokens Condition.expanded c := by
  intro c' _ ts us hts hus h
  rw [tokens_eq, tokens_eq, List.append_assoc, List.append_assoc] at h
  obtain ⟨hsubject, hrest⟩ := c.subject.legible trivial (c.stops_predicate ts)
    (c'.stops_predicate us) h
  cases c with
  | eq a b =>
    cases c' with
    | eq a' b' =>
      obtain ⟨hread, hend⟩ := b.legible trivial hts hus (by simpa [predicate] using hrest)
      exact ⟨congrArg₂ eq hsubject hread, hend⟩
    | _ => simp [predicate] at hrest
  | ne a b =>
    cases c' with
    | ne a' b' =>
      obtain ⟨hread, hend⟩ := b.legible trivial hts hus (by simpa [predicate] using hrest)
      exact ⟨congrArg₂ ne hsubject hread, hend⟩
    | _ => simp [predicate] at hrest
  | isIn a b =>
    cases c' with
    | isIn a' b' =>
      obtain ⟨hread, hend⟩ := b.legible trivial hts hus (by simpa [predicate] using hrest)
      exact ⟨congrArg₂ isIn hsubject hread, hend⟩
    | _ => simp [predicate] at hrest
  | contains a b =>
    cases c' with
    | contains a' b' =>
      obtain ⟨hread, hend⟩ := b.legible trivial hts hus (by simpa [predicate] using hrest)
      exact ⟨congrArg₂ contains hsubject hread, hend⟩
    | _ => simp [predicate] at hrest
  | isNotNull a =>
    cases c' with
    | isNotNull a' => exact ⟨congrArg isNotNull hsubject, by simpa [predicate] using hrest⟩
    | _ => simp [predicate] at hrest

/-! ## Patterns -/

theorem legible_var (v : Option String) :
    Legible (Set.range Token.ident) (fun _ => True) varTokens id v := by
  intro w _ ts us hts hus h
  cases v with
  | none =>
    cases w with
    | none => exact ⟨rfl, h⟩
    | some name =>
      change ts = _ :: us at h
      rw [h] at hts
      simp at hts
  | some name =>
    cases w with
    | none =>
      change _ :: ts = us at h
      rw [← h] at hus
      simp at hus
    | some name' => simpa [varTokens] using h

theorem legible_labels (labels : List String) :
    Legible {.symbol ':'} (fun _ => True) labelTokens id labels := by
  have hlabel (label : String) : Legible ∅ (fun _ => True)
      (fun label => [.symbol ':', .ident label]) id label := by
    intro label' _ ts us _ _ h
    simpa using h
  have hcolon : ∀ t ∈ ({.symbol ':'} : Set Token), t ∉ (∅ : Set Token) :=
    fun t _ => Set.notMem_empty t
  have hall := Legible.flatMap (l := labels) hcolon
    (fun label => ⟨.symbol ':', rfl, _, rfl⟩) fun label _ => hlabel label
  rw [Set.union_empty, List.map_id_fun] at hall
  exact hall.restrict fun _ _ _ _ => trivial

theorem legible_prop (p : String × Expr) :
    Legible exprMore (fun _ => True) propTokens (fun p => (p.1, p.2.expanded)) p := by
  intro p' _ ts us hts hus h
  simp only [propTokens, List.cons_append, List.nil_append, List.cons.injEq,
    Token.ident.injEq, true_and] at h
  obtain ⟨hread, hend⟩ := p.2.legible trivial hts hus h.2
  exact ⟨congrArg₂ Prod.mk h.1 hread, hend⟩

theorem stops_labels {more : Set Token} (h : .symbol ':' ∉ more) (labels : List String) :
    Stops more (labelTokens labels) := by
  cases labels with
  | nil => exact Stops.nil
  | cons label rest => exact Stops.cons_iff.2 h

theorem stops_block {more : Set Token} {f : Token} (h : f ∉ more) (first sep last : List Token)
    (items : List (List Token)) : Stops more (block (f :: first) sep last items) := by
  cases items with
  | nil => exact Stops.nil
  | cons item rest => exact Stops.cons_iff.2 h

theorem NodePattern.legible (n : NodePattern) :
    Legible ∅ (fun _ => True) NodePattern.tokens NodePattern.expanded n := by
  have hprops : Legible {.symbol '\x7b'} (fun _ => True)
      (fun m => block [.symbol '\x7b'] [.symbol ','] [.symbol '\x7d'] (m.map propTokens))
      (List.map fun p => (p.1, p.2.expanded)) n.props := by
    rw [← insert_empty_eq]
    exact (Legible.block (by simp [exprMore]) (by simp [exprMore])
      fun p _ => legible_prop p).restrict fun _ _ _ _ => trivial
  intro n' _ ts us _ _ h
  -- the parts are read from the left, each up to the one after it
  have hend (ts : List Token) : Stops {.symbol '\x7b'} (.symbol ')' :: ts) := by
    simp
  have hlabels (m : NodePattern) (ts : List Token) : Stops {.symbol ':'}
      (block [.symbol '\x7b'] [.symbol ','] [.symbol '\x7d'] (m.props.map propTokens)
        ++ .symbol ')' :: ts) :=
    (stops_block (by simp) _ _ _ _).append (by simp)
  have hvar (m : NodePattern) (ts : List Token) : Stops (Set.range Token.ident)
      (labelTokens m.labels ++ (block [.symbol '\x7b'] [.symbol ','] [.symbol '\x7d']
        (m.props.map propTokens) ++ .symbol ')' :: ts)) :=
    (stops_labels (by simp) _).append ((stops_block (by simp) _ _ _ _).append (by simp))
  simp only [tokens, List.append_assoc, List.cons_append, List.nil_append, List.cons.injEq,
    true_and] at h
  obtain ⟨hv, h⟩ := legible_var n.var trivial (hvar n ts) (hvar n' us) h
  obtain ⟨hl, h⟩ := legible_labels n.labels trivial (hlabels n ts) (hlabels n' us) h
  obtain ⟨hp, h⟩ := hprops trivial (hend ts) (hend us) h
  refine ⟨?_, (List.cons.inj h).2⟩
  obtain ⟨v, labels, props⟩ := n
  obtain ⟨v', labels', props'⟩ := n'
  cases hv
  cases hl
  exact congrArg (NodePattern.mk v labels) hp

theorem RelPattern.legible (r : RelPattern) :
    Legible ∅ (fun _ => True) RelPattern.tokens id r := by
  obtain ⟨v, type, arrow⟩ := r
  intro r' _ ts us _ _ h
  obtain ⟨v', type', arrow'⟩ := r'
  have hcolon (ts : List Token) : Stops (Set.range Token.ident) (.symbol ':' :: ts) := by
    simp
  cases arrow with
  | outgoing =>
    cases arrow' with
    | incoming => simp [tokens, Arrow.around] at h
    | outgoing =>
      simp only [tokens, Arrow.around, List.append_assoc, List.cons_append, List.nil_append,
        List.cons.injEq, true_and] at h
      obtain ⟨hv, h⟩ := legible_var v trivial (hcolon _) (hcolon _) h
      cases hv
      simpa using h
  | incoming =>
    cases arrow' with
    | outgoing => simp [tokens, Arrow.around] at h
    | incoming =>
      simp only [tokens, Arrow.around, List.append_assoc, List.cons_append, List.nil_append,
        List.cons.injEq, true_and] at h
      obtain ⟨hv, h⟩ := legible_var v trivial (hcolon _) (hcolon _) h
      cases hv
      simpa using h

/-- What a path could go on with: the beginning of an arrow. -/
def pathMore : Set Token := {.symbol '-', .symbol '<'}

theorem Path.legible (p : Path) :
    Legible pathMore (fun _ => True) Path.tokens Path.expanded p := by
  have hhop (hop : RelPattern × NodePattern) : Legible ∅ (fun _ => True)
      (fun hop : RelPattern × NodePattern => hop.1.tokens ++ hop.2.tokens)
      (fun hop => (hop.1, hop.2.expanded)) hop := by
    intro hop' _ ts us _ _ h
    rw [List.append_assoc, List.append_assoc] at h
    obtain ⟨hrel, h⟩ := hop.1.legible trivial (by simp [Stops]) (by simp [Stops]) h
    obtain ⟨hnode, hend⟩ := hop.2.legible trivial (by simp [Stops]) (by simp [Stops]) h
    exact ⟨congrArg₂ Prod.mk hrel hnode, hend⟩
  have harrow (hop : RelPattern × NodePattern) :
      ∃ t ∈ pathMore, ∃ rest, hop.1.tokens ++ hop.2.tokens = t :: rest := by
    unfold RelPattern.tokens
    cases hop.1.arrow with
    | outgoing => exact ⟨.symbol '-', by simp [pathMore], _, rfl⟩
    | incoming => exact ⟨.symbol '<', by simp [pathMore], _, rfl⟩
  have hnothing : ∀ t ∈ pathMore, t ∉ (∅ : Set Token) := fun t _ => Set.notMem_empty t
  have hhops := Legible.flatMap (l := p.hops) hnothing harrow fun hop _ => hhop hop
  rw [Set.union_empty] at hhops
  intro p' _ ts us hts hus h
  rw [tokens, tokens, List.append_assoc, List.append_assoc] at h
  obtain ⟨hstart, h⟩ := p.start.legible trivial (by simp [Stops]) (by simp [Stops]) h
  obtain ⟨hrest, hend⟩ := hhops (fun _ _ => trivial) hts hus h
  exact ⟨congrArg₂ Path.mk hstart hrest, hend⟩

/-! ## Items of a `SET` -/

/-- What a `SET` item could go on with: its value, or one more label. -/
def itemMore : Set Token := insert (.symbol ':') exprMore

theorem SetItem.legible (i : SetItem) :
    Legible itemMore (fun _ => True) SetItem.tokens SetItem.expanded i := by
  have hexpr : exprMore ⊆ itemMore := Set.subset_insert _ _
  -- a dot after the variable tells a property from labels
  have hlabels (v w key : String) (value : Expr) (names : List String) {ts us : List Token}
      (hus : Stops itemMore us) : SetItem.tokens (.property v key value) ++ ts ≠
        SetItem.tokens (.labels w names) ++ us := by
    intro h
    have hdot : Stops {.symbol '.'} (labelTokens names ++ us) :=
      (stops_labels (by simp) names).append (hus.mono (by simp [itemMore, exprMore]))
    simp only [tokens, List.cons_append, List.nil_append, List.cons.injEq] at h
    rw [← h.2] at hdot
    simp at hdot
  intro i' _ ts us hts hus h
  cases i with
  | property v key value =>
    cases i' with
    | property v' key' value' =>
      simp only [tokens, List.cons_append, List.nil_append, List.cons.injEq,
        Token.ident.injEq, true_and] at h
      obtain ⟨rfl, rfl, h⟩ := h
      obtain ⟨hread, hend⟩ := value.legible trivial (hts.mono hexpr) (hus.mono hexpr) h
      exact ⟨congrArg (SetItem.property v key) hread, hend⟩
    | labels v' names' => exact absurd h (hlabels _ _ _ _ _ hus)
  | labels v names =>
    cases i' with
    | property v' key' value' => exact absurd h.symm (hlabels _ _ _ _ _ hts)
    | labels v' names' =>
      have hcolon : ({.symbol ':'} : Set Token) ⊆ itemMore := by
        simp [itemMore]
      simp only [tokens, List.cons_append, List.nil_append, List.cons.injEq,
        Token.ident.injEq] at h
      obtain ⟨rfl, h⟩ := h
      obtain ⟨hread, hend⟩ := legible_labels names trivial (hts.mono hcolon) (hus.mono hcolon) h
      exact ⟨congrArg (SetItem.labels v) hread, hend⟩

end GraphSync.Cypher
