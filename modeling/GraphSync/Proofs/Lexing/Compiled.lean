import GraphSync.Plan.Cleanup
import GraphSync.Plan.Indexes
import GraphSync.Plan.Ingestion
import GraphSync.Proofs.Lexing.Form

/-! # Forms of compiled queries

    The tokens of everything that a schema compiles to come from one form each,
    whatever the names of the schema are. -/

namespace GraphSync

open Cypher Plan

/-! ## Syntax -/

namespace Parametric

theorem labels (names : List String) :
    Parametric fun f => labelTokens (names.map f.name) := by
  have hlabels := ParametricList.map
    (fun label => (Parametric.fixed [.symbol ':']).append (.name label)) names
  apply hlabels.flatten.of_eq
  intro f
  unfold labelTokens
  rw [List.flatMap_map]
  rfl

theorem nodePattern {v : Option String} {labels : Renaming → List String}
    {props : Renaming → List (String × Expr)} (hlabels : Parametric fun f => labelTokens (labels f))
    (hprops : ParametricList fun f => (props f).map propTokens) :
    Parametric fun f => NodePattern.tokens { var := v, labels := labels f, props := props f } :=
  ((((fixed [.symbol '(']).append (.fixed (varTokens v))).append hlabels).append
    (hprops.block [.symbol '\x7b'] [.symbol ','] [.symbol '\x7d'])).append (.fixed [.symbol ')'])

/-- A node pattern with a label of the schema only. -/
theorem labelled (v : Option String) (label : String) :
    Parametric fun f => NodePattern.tokens { var := v, labels := [f.name label] } :=
  nodePattern (labels [label]) .nil

/-- A relationship pattern with a type of the schema. -/
theorem relPattern (v : Option String) (type : String) (arrow : Arrow) :
    Parametric fun f => RelPattern.tokens { var := v, type := f.name type, arrow := arrow } := by
  have hinner := ((((fixed [.symbol '[']).append (.fixed (varTokens v))).append
    (.fixed [.symbol ':'])).append (.name type)).append (.fixed [.symbol ']'])
  cases arrow with
  | outgoing => exact ((fixed [.symbol '-']).append hinner).append (.fixed _)
  | incoming => exact ((fixed [.symbol '<', .symbol '-']).append hinner).append (.fixed _)

theorem path {start finish : Renaming → NodePattern} {rel : Renaming → RelPattern}
    (hstart : Parametric fun f => (start f).tokens) (hrel : Parametric fun f => (rel f).tokens)
    (hfinish : Parametric fun f => (finish f).tokens) :
    Parametric fun f => Path.tokens { start := start f, hops := [(rel f, finish f)] } :=
  hstart.append ((hrel.append hfinish).append (.fixed []))

theorem node {start : Renaming → NodePattern} (hstart : Parametric fun f => (start f).tokens) :
    Parametric fun f => Path.tokens { start := start f } :=
  hstart.append (.fixed [])

theorem matching (optional : Bool) {path : Renaming → Path}
    {conditions : Renaming → List Condition} (hpath : Parametric fun f => (path f).tokens)
    (hconditions : ParametricList fun f => (conditions f).map Condition.tokens) :
    Parametric fun f => (Clause.matching optional (path f) (conditions f)).tokens :=
  ((fixed _).append hpath).append (hconditions.block _ _ _)

theorem merge {path : Renaming → Path} {onCreate : Renaming → List SetItem}
    (hpath : Parametric fun f => (path f).tokens)
    (honCreate : ParametricList fun f => (onCreate f).map SetItem.tokens) :
    Parametric fun f => (Clause.merge (path f) (onCreate f)).tokens :=
  ((fixed _).append hpath).append (honCreate.block _ _ _)

theorem set {items : Renaming → List SetItem}
    (hitems : ParametricList fun f => (items f).map SetItem.tokens) :
    Parametric fun f => (Clause.set (items f)).tokens :=
  (fixed _).append (hitems.intercalate _)

theorem cons {clause : Renaming → Clause} {rest : Renaming → List Clause}
    (hclause : Parametric fun f => (clause f).tokens)
    (hrest : Parametric fun f => clausesTokens (rest f)) :
    Parametric fun f => clausesTokens (clause f :: rest f) :=
  hclause.append hrest

theorem call {branches : Renaming → List (List Clause)}
    (h : ParametricList fun f => (branches f).map clausesTokens) :
    Parametric fun f => (Clause.call (branches f)).tokens := by
  have hbranches := h.intercalate [.ident "UNION"]
  apply ((fixed [.ident "CALL", .symbol '\x7b']).append
    (hbranches.append (.fixed [.symbol '\x7d']))).of_eq
  intro f
  rw [Clause.tokens, branchesTokens_eq]

end Parametric

/-! ## Parts -/

theorem Reference.parametric_expr (r : Reference) :
    Parametric fun f => (r.rename f).expr.tokens := by
  obtain ⟨name, origin, mode, extra⟩ := r
  cases origin with
  | row => exact (Parametric.fixed [.ident rowAlias, .symbol '.']).append (.name name)
  | parameter => exact (Parametric.fixed [.symbol '$']).append (.name name)

namespace Plan

/-- A property of the schema with its value. -/
theorem parametric_prop (key : String) (r : Reference) :
    Parametric fun f => propTokens (f.name key, (r.rename f).expr) :=
  ((Parametric.name key).append (.fixed [.symbol ':'])).append r.parametric_expr

theorem parametric_patternProps (matcher : Fields) :
    ParametricList fun f => ((matcher.rename f).filterMap patternProp).map propTokens := by
  apply ParametricList.filterMap_fields
  intro field r
  cases hmode : r.mode with
  | exact =>
    right
    refine ⟨_, parametric_prop field r, ?_⟩
    intro f
    simp [patternProp, Reference.rename, hmode]
  | _ =>
    left
    intro f
    simp [patternProp, Reference.rename, hmode]

theorem parametric_endpointPattern (var : String) (e : Endpoint) :
    Parametric fun f => (endpointPattern var (e.rename f)).tokens :=
  .nodePattern (.labels [e.label]) (parametric_patternProps e.matcher)

/-- A condition on a property of the schema. -/
theorem parametric_property (var key : String) :
    Parametric fun f => (Expr.property var (f.name key)).tokens :=
  (Parametric.fixed ([.ident var] ++ [.symbol '.'])).append (.name key)

theorem parametric_endpointConditions (var : String) (e : Endpoint) :
    ParametricList fun f => (endpointConditions var (e.rename f)).map Condition.tokens := by
  apply ParametricList.filterMap_fields
  intro field r
  have hfield := parametric_property var field
  have hvalue := r.parametric_expr
  have hlower {T : Renaming → List Token} (h : Parametric T) :
      Parametric fun f => [.ident "toLower", .symbol '('] ++ T f ++ [.symbol ')'] :=
    ((Parametric.fixed _).append h).append (.fixed _)
  cases hmode : r.mode with
  | exact =>
    left
    intro f
    simp [fieldCondition, Reference.rename, hmode]
  | oneToMany =>
    right
    refine ⟨_, (hfield.append (.fixed [.ident "IN"])).append hvalue, ?_⟩
    intro f
    simp [fieldCondition, Reference.rename, hmode, Condition.tokens]
  | ignoreCase =>
    right
    refine ⟨_, ((hlower hfield).append (.fixed [.symbol '='])).append (hlower hvalue), ?_⟩
    intro f
    simp [fieldCondition, Reference.rename, hmode, Condition.tokens, Expr.tokens]
  | fuzzy =>
    right
    refine ⟨_, ((hlower hfield).append (.fixed [.ident "CONTAINS"])).append (hlower hvalue), ?_⟩
    intro f
    simp [fieldCondition, Reference.rename, hmode, Condition.tokens, Expr.tokens]

theorem parametric_setFields (var : String) (fields : Fields) :
    ParametricList fun f => (setFields var (fields.rename f)).map SetItem.tokens := by
  have hentry (entry : String × Reference) : Parametric fun f =>
      (SetItem.property var (f.name entry.1) (entry.2.rename f).expr).tokens :=
    ((parametric_property var entry.1).append (.fixed [.symbol '='])).append
      entry.2.parametric_expr
  apply (ParametricList.map hentry fields).of_eq
  intro f
  unfold setFields Fields.rename
  rw [List.map_map, List.map_map]
  rfl

theorem parametric_mergeLink (left : String) (rel : Relationship) (right : String) :
    Parametric fun f => (mergeLink left (rel.rename f) right).tokens := by
  have hstamp : ParametricList fun _ => [setFirstSeen "r"].map SetItem.tokens :=
    .cons (.fixed _) .nil
  exact .merge (.path (.fixed _) (.relPattern (some "r") rel.label (arrow rel.direction))
    (.fixed _)) hstamp

end Plan

/-! ## Ingestion -/

namespace NodeSchema

theorem parametric_attach (rel : Relationship) :
    Parametric fun f => clausesTokens (attach (rel.rename f)) :=
  .cons (.fixed _) <|
  .cons (.matching true (.node (parametric_endpointPattern "j" rel.target))
    (parametric_endpointConditions "j" rel.target)) <|
  .cons (.fixed _) <|
  .cons (parametric_mergeLink "i" rel "j") <|
  .cons (.set (parametric_setFields "r" rel.properties)) <|
  .fixed []

/-- The identity key is fixed, its value is read under the name of the
    schema. -/
theorem parametric_identity (s : NodeSchema) :
    ParametricList fun f => (s.rename f).identity.map propTokens := by
  have hprop (r : Reference) : Parametric fun f => propTokens (idKey, (r.rename f).expr) :=
    (Parametric.fixed ([.ident idKey] ++ [.symbol ':'])).append r.parametric_expr
  apply (ParametricList.map hprop (s.properties.get? idKey).toList).of_eq
  intro f
  show (((s.properties.rename f).get? idKey).toList.map fun r => (idKey, r.expr)).map propTokens = _
  rw [Fields.get?_id_rename, Option.toList_map, List.map_map, List.map_map]
  rfl

theorem parametric_addLabels (s : NodeSchema) : Parametric fun f => clausesTokens
    (if (s.rename f).extraLabels.isEmpty then []
      else [.set [.labels "i" (s.rename f).extraLabels]]) := by
  have hitem : Parametric fun f => (SetItem.labels "i" (s.rename f).extraLabels).tokens :=
    (Parametric.fixed [.ident "i"]).append (.labels s.extraLabels)
  have hset : Parametric fun f => clausesTokens [.set [.labels "i" (s.rename f).extraLabels]] :=
    .cons (.set (.cons hitem .nil)) (.fixed [])
  apply (Parametric.ite s.extraLabels.isEmpty (.fixed []) hset).of_eq
  intro f
  rw [show (s.rename f).extraLabels.isEmpty = s.extraLabels.isEmpty from List.isEmpty_map]
  split <;> rfl

theorem parametric_attachAll (s : NodeSchema) : Parametric fun f => clausesTokens
    (if (s.rename f).relationships.isEmpty then []
      else [.withVars ["i", rowAlias] [] none, .call ((s.rename f).relationships.map attach)]) := by
  have hbranches : ParametricList fun f =>
      ((s.rename f).relationships.map attach).map clausesTokens := by
    apply (ParametricList.map parametric_attach s.relationships).of_eq
    intro f
    rw [s.relationships_rename, List.map_map, List.map_map]
    rfl
  have hcall : Parametric fun f => clausesTokens
      [.withVars ["i", rowAlias] [] none, .call ((s.rename f).relationships.map attach)] :=
    .cons (.fixed _) (.cons (.call hbranches) (.fixed []))
  apply (Parametric.ite s.relationships.isEmpty (.fixed []) hcall).of_eq
  intro f
  have hempty : (s.rename f).relationships.isEmpty = s.relationships.isEmpty := by
    rw [s.relationships_rename, List.isEmpty_map]
  rw [hempty]
  split <;> rfl

theorem parametric_ingestion (s : NodeSchema) :
    Parametric fun f => (s.rename f).ingestion.tokens := by
  have hset : ParametricList fun f => (setFields "i"
      ((s.rename f).properties.filter fun entry => entry.1 != idKey)).map SetItem.tokens := by
    apply (parametric_setFields "i" (s.properties.filter fun entry => entry.1 != idKey)).of_eq
    intro f
    rw [← Fields.filter_id_rename]
    rfl
  have hstamp : ParametricList fun _ => [setFirstSeen "i"].map SetItem.tokens :=
    .cons (.fixed _) .nil
  have hnode : Parametric fun f => clausesTokens
      [unwindRows,
       .merge { start := { var := some "i", labels := [f.name s.label],
                           props := (s.rename f).identity } } [setFirstSeen "i"],
       .set (setFields "i" ((s.rename f).properties.filter fun entry => entry.1 != idKey))] :=
    .cons (.fixed _) <|
    .cons (.merge (.node (.nodePattern (.labels [s.label]) s.parametric_identity)) hstamp) <|
    .cons (.set hset) <|
    .fixed []
  apply ((hnode.append s.parametric_addLabels).append s.parametric_attachAll).of_eq
  intro f
  unfold Query.tokens ingestion
  rw [clausesTokens_append, clausesTokens_append]
  rfl

end NodeSchema

theorem Matchlink.parametric_ingestion (m : Matchlink) :
    Parametric fun f => (m.rename f).ingestion.tokens :=
  .cons (.fixed _) <|
  .cons (.matching false (.node (parametric_endpointPattern "src" m.source))
    (parametric_endpointConditions "src" m.source)) <|
  .cons (.matching false (.node (parametric_endpointPattern "tgt" m.relationship.target))
    (parametric_endpointConditions "tgt" m.relationship.target)) <|
  .cons (parametric_mergeLink "src" m.relationship "tgt") <|
  .cons (.set (parametric_setFields "r" m.relationship.properties)) <|
  .fixed []

/-! ## Cleanup -/

namespace NodeSchema

theorem parametric_ownedPath (s : NodeSchema) (sub : Relationship) (relVar : Option String) :
    Parametric fun f => ((s.rename f).ownedPath (sub.rename f) relVar).tokens :=
  .path (.labelled (some "n") s.label) (.relPattern relVar sub.label (arrow sub.direction))
    (parametric_endpointPattern "owner" sub.target)

theorem parametric_linkPath {left : Renaming → NodePattern}
    (hleft : Parametric fun f => (left f).tokens) (rel : Relationship) :
    Parametric fun f => (linkPath (left f) (rel.rename f)).tokens :=
  .path hleft (.relPattern (some "r") rel.label (arrow rel.direction))
    (.labelled none rel.target.label)

theorem parametric_cleanupAllLinks (s : NodeSchema) (rel : Relationship) :
    Parametric fun f => ((s.rename f).cleanupAllLinks (rel.rename f)).tokens :=
  .cons (.matching false (parametric_linkPath (.labelled (some "n") s.label) rel)
    (.cons (.fixed _) .nil)) <|
  .fixed _

theorem parametric_cleanupOwnedLinks (s : NodeSchema) (sub rel : Relationship) :
    Parametric fun f => ((s.rename f).cleanupOwnedLinks (sub.rename f) (rel.rename f)).tokens :=
  .cons (.matching false (s.parametric_ownedPath sub none)
    (parametric_endpointConditions "owner" sub.target)) <|
  .cons (.matching false (parametric_linkPath (.fixed _) rel) (.cons (.fixed _) .nil)) <|
  .fixed _

/-- What deletes stale nodes of the owner, or stale links to it. -/
theorem parametric_cleanupOwned (s : NodeSchema) (sub : Relationship) (relVar : Option String)
    (var : String) (detach : Bool) : Parametric fun f => clausesTokens
      (.matching false ((s.rename f).ownedPath (sub.rename f) relVar)
        (stale var :: endpointConditions "owner" (sub.rename f).target) ::
        deleteWindow detach var) :=
  .cons (.matching false (s.parametric_ownedPath sub relVar)
    (.cons (.fixed _) (parametric_endpointConditions "owner" sub.target))) <|
  .fixed _

theorem parametric_cleanupAllNodes (s : NodeSchema) :
    Parametric fun f => (s.rename f).cleanupAllNodes.tokens :=
  .cons (.matching false (.node (.labelled (some "n") s.label)) (.cons (.fixed _) .nil)) <|
  .fixed _

theorem parametric_cleanup (s : NodeSchema) :
    ParametricList fun f => (s.rename f).cleanup.map Query.tokens := by
  have hall := ParametricList.map s.parametric_cleanupAllLinks s.others
  have hrenamed (f : Renaming) : (s.rename f).scope = s.scope.rename f := rfl
  cases hscope : s.scope with
  | subResource sub =>
    have hnodes := s.parametric_cleanupOwned sub none "n" true
    have hlinks := s.parametric_cleanupOwned sub (some "s") "s" false
    have hothers := ParametricList.map (s.parametric_cleanupOwnedLinks sub) s.others
    apply (ParametricList.cons hnodes (.cons hlinks hothers)).of_eq
    intro f
    unfold cleanup
    rw [hrenamed, hscope]
    show (_ :: _ :: (s.others.map (Relationship.rename f)).map _).map Query.tokens = _
    rw [List.map_cons, List.map_cons, List.map_map, List.map_map]
    rfl
  | relationshipsOnly =>
    apply hall.of_eq
    intro f
    unfold cleanup
    rw [hrenamed, hscope]
    show ((s.others.map (Relationship.rename f)).map _).map Query.tokens = _
    rw [List.map_map, List.map_map]
    rfl
  | unscoped =>
    apply (ParametricList.cons s.parametric_cleanupAllNodes hall).of_eq
    intro f
    unfold cleanup
    rw [hrenamed, hscope]
    show (_ :: (s.others.map (Relationship.rename f)).map _).map Query.tokens = _
    rw [List.map_cons, List.map_map, List.map_map]
    rfl

end NodeSchema

theorem Matchlink.parametric_cleanup (m : Matchlink) :
    Parametric fun f => (m.rename f).cleanup.tokens :=
  .cons (.matching false
    (.path (.labelled none m.source.label)
      (.relPattern (some "r") m.relationship.label (arrow m.relationship.direction))
      (.labelled none m.relationship.target.label))
    (.cons (.fixed _) (.cons (.fixed _) (.cons (.fixed _) .nil)))) <|
  .fixed _

/-! ## Indexes -/

/-- An index on a key of the schema, or one that is fixed. -/
theorem parametric_nodeIndex (label : String) {key : Renaming → String}
    (hkey : Parametric fun f => [.ident (key f)]) :
    Parametric fun f => (Index.node (f.name label) (key f)).tokens :=
  ((((Parametric.fixed _).append (.name label)).append (.fixed _)).append hkey).append (.fixed _)

theorem parametric_relationshipIndex (type : String) {keys : Renaming → List String}
    (hkeys : ParametricList fun f =>
      (keys f).map fun key => [.ident "r", .symbol '.'] ++ [.ident key]) :
    Parametric fun f => (Index.relationship (f.name type) (keys f)).tokens :=
  ((((Parametric.fixed _).append (.name type)).append (.fixed _)).append
    (hkeys.intercalate _)).append (.fixed _)

theorem Fields.indexedKeys_rename (f : Renaming) (fields : Fields) :
    (fields.rename f).indexedKeys = fields.indexedKeys.map f.name := by
  unfold indexedKeys rename
  rw [List.filter_map, List.map_map, List.map_map]
  rfl

theorem Endpoint.parametric_indexes (e : Endpoint) :
    ParametricList fun f => (e.rename f).indexes.map Index.tokens := by
  have hindex (entry : String × Reference) :=
    parametric_nodeIndex e.label (.name entry.1)
  apply (ParametricList.map hindex e.matcher).of_eq
  intro f
  unfold indexes rename Fields.rename
  rw [List.map_map, List.map_map]
  rfl

theorem Relationship.parametric_extraIndexes (rel : Relationship) :
    ParametricList fun f => (rel.rename f).extraIndexes.map Index.tokens := by
  have hindex (key : String) : Parametric fun f =>
      (Index.relationship (f.name rel.label) [f.name key]).tokens :=
    parametric_relationshipIndex rel.label
      (.cons ((Parametric.fixed [.ident "r", .symbol '.']).append (.name key)) .nil)
  apply (ParametricList.map hindex rel.properties.indexedKeys).of_eq
  intro f
  unfold extraIndexes
  rw [show (rel.rename f).properties = rel.properties.rename f from rfl,
    Fields.indexedKeys_rename, List.map_map, List.map_map]
  rfl

theorem NodeSchema.parametric_lookups (s : NodeSchema) :
    ParametricList fun f => (s.rename f).lookups.map Index.tokens := by
  have hfixed : ParametricList fun f =>
      [(Index.node (f.name s.label) idKey).tokens,
       (Index.node (f.name s.label) lastUpdatedKey).tokens] :=
    .cons (parametric_nodeIndex s.label (.fixed _)) <|
    .cons (parametric_nodeIndex s.label (.fixed _)) <|
    .nil
  have hkey (key : String) := parametric_nodeIndex s.label (.name key)
  have hrel (rel : Relationship) := rel.target.parametric_indexes.append rel.parametric_extraIndexes
  apply ((hfixed.append (.map hkey s.properties.indexedKeys)).append
    (.flatMap hrel s.relationships)).of_eq
  intro f
  unfold lookups
  rw [show (s.rename f).properties = s.properties.rename f from rfl, Fields.indexedKeys_rename,
    relationships_rename, List.map_append, List.map_append, List.map_map, List.map_map,
    List.map_flatMap, List.flatMap_map]
  simp only [List.map_append]
  rfl

theorem Matchlink.parametric_lookups (m : Matchlink) :
    ParametricList fun f => (m.rename f).lookups.map Index.tokens := by
  have hmarkers : ParametricList fun f => [(Index.relationship (f.name m.relationship.label)
      [lastUpdatedKey, scopeLabelKey, scopeIdKey]).tokens] :=
    .cons (parametric_relationshipIndex m.relationship.label
      (.cons (.fixed _) (.cons (.fixed _) (.cons (.fixed _) .nil)))) .nil
  apply (((m.source.parametric_indexes.append m.relationship.target.parametric_indexes).append
    hmarkers).append m.relationship.parametric_extraIndexes).of_eq
  intro f
  unfold lookups
  rw [List.map_append, List.map_append, List.map_append]
  rfl

end GraphSync
