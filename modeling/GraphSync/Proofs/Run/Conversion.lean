import GraphSync.Bolt

/-! # What the database is sent for a value

    A JSON value goes to the database as a Bolt value.  Bolt has no unsigned
    integers, and what is above the signed ones goes as the nearest float.
    This is the one thing that gets lost:

    * `Json.rounded` is the JSON value with these integers replaced, and
      `Bolt.toJson` reads it back;
    * two values are sent as one if and only if they are rounded to one
      (`rounded_values_are_recovered`), so all values without such an integer
      are told apart;
    * with such integers they are not (`large_ids_are_merged`). -/

namespace GraphSync

/-! ## Dictionaries of ordered entries -/

namespace Entries

variable {α β : Type}

/-- Entries with other values under the same keys. -/
def mapValues (f : α → β) (entries : List (String × α)) : List (String × β) :=
  entries.map fun e => (e.1, f e.2)

theorem ordered_mapValues {f : α → β} {entries : List (String × α)} :
    Ordered (mapValues f entries) ↔ Ordered entries := by
  unfold Ordered mapValues
  rw [List.pairwise_map]

theorem insert_mapValues (f : α → β) (key : String) (value : α) (entries : List (String × α)) :
    insert key (f value) (mapValues f entries) = mapValues f (insert key value entries) := by
  induction entries with
  | nil => rfl
  | cons head rest ih =>
    obtain ⟨k, v⟩ := head
    unfold mapValues at ih ⊢
    rw [List.map_cons, insert, insert, ih]
    split
    · rfl
    · split
      · rfl
      · rfl

/-- A key above all others comes last. -/
theorem insert_eq_append {key : String} {value : α} {entries : List (String × α)}
    (h : ∀ e ∈ entries, e.1 < key) : insert key value entries = entries ++ [(key, value)] := by
  induction entries with
  | nil => rfl
  | cons head rest ih =>
    obtain ⟨k, v⟩ := head
    obtain ⟨hk, hrest⟩ := List.forall_mem_cons.1 h
    have hne : key ≠ k := (Std.ne_of_lt hk).symm
    have hnlt : ¬ key < k := String.lt_asymm hk
    rw [insert, if_neg hne, if_neg hnlt, ih hrest, List.cons_append]

end Entries

namespace Dictionary

variable {α β : Type}

theorem entries_insertMany_mapValues (f : α → β) (pairs : List (String × α)) (d : Dictionary α)
    (d' : Dictionary β) (h : d'.entries = Entries.mapValues f d.entries) :
    (d'.insertMany (Entries.mapValues f pairs)).entries =
      Entries.mapValues f (d.insertMany pairs).entries := by
  induction pairs generalizing d d' with
  | nil => exact h
  | cons pair rest ih =>
    refine ih (d.insert pair.1 pair.2) (d'.insert pair.1 (f pair.2)) ?_
    show Entries.insert pair.1 (f pair.2) d'.entries = _
    rw [h, Entries.insert_mapValues]
    rfl

/-- The values of a dictionary can be changed before or after it is made. -/
theorem entries_ofList_mapValues (f : α → β) (pairs : List (String × α)) :
    (ofList (Entries.mapValues f pairs)).entries = Entries.mapValues f (ofList pairs).entries :=
  entries_insertMany_mapValues f pairs .empty .empty rfl

theorem entries_insertMany_of_ordered {pairs : List (String × α)} {d : Dictionary α}
    (h : Entries.Ordered (d.entries ++ pairs)) :
    (d.insertMany pairs).entries = d.entries ++ pairs := by
  induction pairs generalizing d with
  | nil => rw [List.append_nil]; rfl
  | cons pair rest ih =>
    have hlast : (d.insert pair.1 pair.2).entries = d.entries ++ [pair] :=
      Entries.insert_eq_append fun e he =>
        (List.pairwise_append.1 h).2.2 e he pair List.mem_cons_self
    have hrest := ih (d := d.insert pair.1 pair.2)
    rw [hlast, List.append_assoc] at hrest
    exact hrest h

/-- Ordered entries are the dictionary that they make. -/
theorem entries_ofList_of_ordered {pairs : List (String × α)} (h : Entries.Ordered pairs) :
    (ofList pairs).entries = pairs :=
  entries_insertMany_of_ordered (d := .empty) h

end Dictionary

/-! ## JSON values -/

namespace Json

mutual

/-- `v.Throughout p`: a value and all values in it have a property. -/
def Throughout (p : Json → Prop) : Json → Prop
  | .array items => p (.array items) ∧ itemsThroughout p items
  | .object members => p (.object members) ∧ membersThroughout p members
  | v => p v

/-- All items have a property throughout. -/
def itemsThroughout (p : Json → Prop) : List Json → Prop
  | [] => True
  | item :: rest => item.Throughout p ∧ itemsThroughout p rest

/-- The values of all members have a property throughout. -/
def membersThroughout (p : Json → Prop) : List (String × Json) → Prop
  | [] => True
  | (_, value) :: rest => value.Throughout p ∧ membersThroughout p rest

end

/-- An object has its members in the order of their keys, with no key twice. -/
def OrderedHere : Json → Prop
  | .object members => Entries.Ordered members
  | _ => True

/-- All objects have their members in order. -/
def Ordered (v : Json) : Prop := v.Throughout OrderedHere

/-- An integer is no larger than a signed word. -/
def SignedHere : Json → Prop
  | .integer n => n.val ≤ Int64.maxValue.toInt
  | _ => True

/-- All integers are signed words. -/
def Signed (v : Json) : Prop := v.Throughout SignedHere

mutual

/-- A value with a float in place of each integer that no signed word holds. -/
def rounded : Json → Json
  | .integer n =>
    if n.val ≤ Int64.maxValue.toInt then .integer n else .double (Bolt.nearestFloat n)
  | .array items => .array (roundedItems items)
  | .object members => .object (roundedMembers members)
  | v => v

/-- Items, rounded. -/
def roundedItems : List Json → List Json
  | [] => []
  | item :: rest => item.rounded :: roundedItems rest

/-- Members, rounded. -/
def roundedMembers : List (String × Json) → List (String × Json)
  | [] => []
  | (key, value) :: rest => (key, value.rounded) :: roundedMembers rest

end

theorem roundedMembers_eq (members : List (String × Json)) :
    roundedMembers members = Entries.mapValues rounded members := by
  induction members with
  | nil => rfl
  | cons member rest ih => rw [roundedMembers, ih]; rfl

mutual

/-- Rounding is without effect exactly if there is nothing to round. -/
theorem rounded_eq_self_iff : ∀ v : Json, v.rounded = v ↔ v.Signed
  | .null | .bool _ | .double _ | .string _ => by simp [rounded, Signed, Throughout, SignedHere]
  | .integer n => by
    simp only [rounded, Signed, Throughout, SignedHere]
    split
    · next h => simp [h]
    · next h => simp [h]
  | .array items => by
    rw [rounded, Json.array.injEq, roundedItems_eq_self_iff items]
    simp [Signed, Throughout, SignedHere]
  | .object members => by
    rw [rounded, Json.object.injEq, roundedMembers_eq_self_iff members]
    simp [Signed, Throughout, SignedHere]

theorem roundedItems_eq_self_iff :
    ∀ items : List Json, roundedItems items = items ↔ itemsThroughout SignedHere items
  | [] => by simp [roundedItems, itemsThroughout]
  | item :: rest => by
    rw [roundedItems, List.cons.injEq, rounded_eq_self_iff item, roundedItems_eq_self_iff rest,
      itemsThroughout]
    rfl

theorem roundedMembers_eq_self_iff : ∀ members : List (String × Json),
    roundedMembers members = members ↔ membersThroughout SignedHere members
  | [] => by simp [roundedMembers, membersThroughout]
  | (key, value) :: rest => by
    rw [roundedMembers, List.cons.injEq, Prod.mk.injEq, rounded_eq_self_iff value,
      roundedMembers_eq_self_iff rest, membersThroughout]
    simp [Signed]

end

end Json

/-! ## Bolt values -/

namespace Bolt

mutual

/-- A value with the entries of every map in the order of their keys. -/
def sorted : Bolt → Bolt
  | .list items => .list (sortedItems items)
  | .map entries => .map (Dictionary.ofList (sortedEntries entries)).entries
  | b => b

/-- Items, sorted inside. -/
def sortedItems : List Bolt → List Bolt
  | [] => []
  | item :: rest => item.sorted :: sortedItems rest

/-- Entries, sorted inside. -/
def sortedEntries : List (String × Bolt) → List (String × Bolt)
  | [] => []
  | (key, value) :: rest => (key, value.sorted) :: sortedEntries rest

end

/-- Two values are the same for the database.  The entries of a map have no
    order there. -/
def Same (b c : Bolt) : Prop := b.sorted = c.sorted

mutual

/-- The JSON value that a Bolt value is read as. -/
def toJson : Bolt → Json
  | .null => .null
  | .boolean b => .bool b
  | .integer n => .ofInt64 n
  | .float x => .double x
  | .string s => .string s
  | .list items => .array (toItems items)
  | .map entries => Json.ofMembers (toMembers entries)

/-- The items that a list is read as. -/
def toItems : List Bolt → List Json
  | [] => []
  | item :: rest => item.toJson :: toItems rest

/-- The members that the entries of a map are read as. -/
def toMembers : List (String × Bolt) → List (String × Json)
  | [] => []
  | (key, value) :: rest => (key, value.toJson) :: toMembers rest

end

theorem toMembers_eq (entries : List (String × Bolt)) :
    toMembers entries = Entries.mapValues toJson entries := by
  induction entries with
  | nil => rfl
  | cons entry rest ih => rw [toMembers, ih]; rfl

mutual

/-- The order of entries is nothing that is read. -/
theorem toJson_sorted : ∀ b : Bolt, b.sorted.toJson = b.toJson
  | .null | .boolean _ | .integer _ | .float _ | .string _ => by simp [sorted]
  | .list items => by rw [sorted, toJson, toItems_sortedItems items, toJson]
  | .map entries => by
    have hmembers : toMembers (Dictionary.ofList (sortedEntries entries)).entries =
        (Dictionary.ofList (toMembers entries)).entries := by
      rw [toMembers_eq, ← Dictionary.entries_ofList_mapValues, ← toMembers_eq,
        toMembers_sortedEntries entries]
    rw [sorted, toJson, toJson, hmembers, Json.ofMembers, Json.ofMembers,
      Dictionary.entries_ofList_of_ordered (Dictionary.ordered _)]

theorem toItems_sortedItems : ∀ items : List Bolt, toItems (sortedItems items) = toItems items
  | [] => rfl
  | item :: rest => by
    rw [sortedItems, toItems, toItems, toJson_sorted item, toItems_sortedItems rest]

theorem toMembers_sortedEntries :
    ∀ entries : List (String × Bolt), toMembers (sortedEntries entries) = toMembers entries
  | [] => rfl
  | (key, value) :: rest => by
    rw [sortedEntries, toMembers, toMembers, toJson_sorted value, toMembers_sortedEntries rest]

end

/-! ## There and back -/

theorem toJson_ofInteger (n : Json.Integer) : (ofInteger n).toJson = (Json.integer n).rounded := by
  unfold ofInteger
  rw [Json.rounded]
  split
  · next h =>
    have hval : (Int64.ofInt n.val).toInt = n.val :=
      Int64.toInt_ofInt_of_le n.lower (Int.lt_add_one_of_le h)
    show Json.integer (.ofInt64 (Int64.ofInt n.val)) = .integer n
    rw [Json.integer.injEq, Json.Integer.mk.injEq]
    exact hval
  · rfl

mutual

/-- What has been sent is read as the rounded value. -/
theorem toJson_ofJson : ∀ v : Json, v.Ordered → (ofJson v).toJson = v.rounded
  | .null, _ | .bool _, _ | .double _, _ | .string _, _ => by simp [ofJson, toJson, Json.rounded]
  | .integer n, _ => toJson_ofInteger n
  | .array items, h => by rw [ofJson, toJson, toItems_ofItems items h.2, Json.rounded]
  | .object members, h => by
    have hordered : Entries.Ordered (Json.roundedMembers members) := by
      rw [Json.roundedMembers_eq, Entries.ordered_mapValues]
      exact h.1
    rw [ofJson, toJson, toMembers_ofMembers members h.2, Json.rounded, Json.ofMembers,
      Dictionary.entries_ofList_of_ordered hordered]

theorem toItems_ofItems : ∀ items : List Json, Json.itemsThroughout Json.OrderedHere items →
    toItems (ofItems items) = Json.roundedItems items
  | [], _ => rfl
  | item :: rest, h => by
    rw [ofItems, toItems, toJson_ofJson item h.1, toItems_ofItems rest h.2, Json.roundedItems]

theorem toMembers_ofMembers :
    ∀ members : List (String × Json), Json.membersThroughout Json.OrderedHere members →
      toMembers (ofMembers members) = Json.roundedMembers members
  | [], _ => rfl
  | (key, value) :: rest, h => by
    rw [ofMembers, toMembers, toJson_ofJson value h.1, toMembers_ofMembers rest h.2,
      Json.roundedMembers]

end

mutual

/-- Nothing but the rounded value is sent. -/
theorem ofJson_rounded : ∀ v : Json, ofJson v.rounded = ofJson v
  | .null | .bool _ | .double _ | .string _ => by simp [Json.rounded]
  | .integer n => by
    rw [Json.rounded]
    split
    · rfl
    · next h => rw [ofJson, ofJson, ofInteger, if_neg h]
  | .array items => by rw [Json.rounded, ofJson, ofJson, ofItems_rounded items]
  | .object members => by rw [Json.rounded, ofJson, ofJson, ofMembers_rounded members]

theorem ofItems_rounded : ∀ items : List Json, ofItems (Json.roundedItems items) = ofItems items
  | [] => rfl
  | item :: rest => by
    rw [Json.roundedItems, ofItems, ofItems, ofJson_rounded item, ofItems_rounded rest]

theorem ofMembers_rounded :
    ∀ members : List (String × Json), ofMembers (Json.roundedMembers members) = ofMembers members
  | [] => rfl
  | (key, value) :: rest => by
    rw [Json.roundedMembers, ofMembers, ofMembers, ofJson_rounded value, ofMembers_rounded rest]

end

/-- Values that are the same for the database are read alike. -/
theorem Same.toJson_eq {b c : Bolt} (h : b.Same c) : b.toJson = c.toJson := by
  rw [← toJson_sorted b, ← toJson_sorted c, h]

end Bolt

/-- From whatever the database takes for the value that was sent, the value can
    be read back, up to integers above the signed words: it is read back
    unchanged exactly if it has none.  And two values are taken for the same
    exactly if these integers are all that they differ in and have the same
    nearest floats. -/
theorem signed_values_are_recovered {v : Json} (h : v.Ordered) :
    (∀ b : Bolt, b.Same (.ofJson v) → (b.toJson = v ↔ v.Signed)) ∧
    ∀ w : Json, w.Ordered → ((Bolt.ofJson v).Same (.ofJson w) ↔ v.rounded = w.rounded) := by
  refine ⟨fun b hb => ?_, fun w hw => ⟨fun hsame => ?_, fun hrounded => ?_⟩⟩
  · rw [hb.toJson_eq, Bolt.toJson_ofJson v h]
    exact Json.rounded_eq_self_iff v
  · calc v.rounded = (Bolt.ofJson v).toJson := (Bolt.toJson_ofJson v h).symm
      _ = (Bolt.ofJson w).toJson := hsame.toJson_eq
      _ = w.rounded := Bolt.toJson_ofJson w hw
  · unfold Bolt.Same
    rw [← Bolt.ofJson_rounded v, hrounded, Bolt.ofJson_rounded w]

namespace Sample

/-- The row of an element with tags. -/
def taggedRow (id : Json.Integer) : Json :=
  .object [("id", .integer id),
    ("tags", .array [.object [("key", .string "os"), ("value", .null)]])]

/-- The last id that is a signed word. -/
def lastId : Json.Integer := .ofInt64 Int64.maxValue

/-- The id after it. -/
def largeId : Json.Integer := .ofUInt64 9223372036854775808

/-- The next one. -/
def largerId : Json.Integer := .ofUInt64 9223372036854775809

theorem taggedRow_ordered (id : Json.Integer) : (taggedRow id).Ordered := by
  have hrow : "id" < "tags" := by decide
  have htag : "key" < "value" := by decide
  simp only [taggedRow, Json.Ordered, Json.Throughout, Json.membersThroughout,
    Json.itemsThroughout, Json.OrderedHere, Entries.Ordered, List.pairwise_pair, hrow, htag,
    and_self]

end Sample

/-- A row with the last id is read back, in whatever order its entries come,
    and the row with the id after it is not taken for it. -/
theorem last_signed_id_is_recovered :
    (Sample.taggedRow Sample.lastId).Ordered ∧ (Sample.taggedRow Sample.largeId).Ordered ∧
    (∀ b : Bolt, b.Same (.ofJson (Sample.taggedRow Sample.lastId)) →
      b.toJson = Sample.taggedRow Sample.lastId) ∧
    ¬ (Bolt.ofJson (Sample.taggedRow Sample.lastId)).Same
      (.ofJson (Sample.taggedRow Sample.largeId)) := by
  have hlast := Sample.taggedRow_ordered Sample.lastId
  have hlarge := Sample.taggedRow_ordered Sample.largeId
  have hsigned : (Sample.taggedRow Sample.lastId).Signed := by
    simp [Sample.taggedRow, Json.Signed, Json.Throughout, Json.membersThroughout,
      Json.itemsThroughout, Json.SignedHere, Sample.lastId, Json.Integer.ofInt64]
  obtain ⟨hread, hsame⟩ := signed_values_are_recovered hlast
  refine ⟨hlast, hlarge, fun b hb => (hread b hb).2 hsigned, fun h => ?_⟩
  have hrounded := (hsame _ hlarge).1 h
  have hbeyond : ¬ Sample.largeId.val ≤ Int64.maxValue.toInt := by
    decide
  -- the id of the other row has become a float
  rw [(Json.rounded_eq_self_iff _).2 hsigned] at hrounded
  simp [Sample.taggedRow, Json.rounded, Json.roundedMembers, hbeyond] at hrounded

/-- Of two rows with larger ids, only one is left. -/
theorem large_ids_are_merged :
    (Sample.taggedRow Sample.largeId).Ordered ∧ (Sample.taggedRow Sample.largerId).Ordered ∧
    Sample.taggedRow Sample.largeId ≠ Sample.taggedRow Sample.largerId ∧
    (Bolt.ofJson (Sample.taggedRow Sample.largeId)).Same
      (.ofJson (Sample.taggedRow Sample.largerId)) := by
  have hfloat : Bolt.nearestFloat Sample.largeId = Bolt.nearestFloat Sample.largerId := by
    decide +kernel
  have hids : Bolt.ofInteger Sample.largeId = Bolt.ofInteger Sample.largerId := by
    rw [Bolt.ofInteger, if_neg (by decide), Bolt.ofInteger, if_neg (by decide), hfloat]
  refine ⟨Sample.taggedRow_ordered _, Sample.taggedRow_ordered _, fun h => ?_, ?_⟩
  · have hid : Sample.largeId = Sample.largerId := by
      simpa [Sample.taggedRow] using h
    exact absurd hid (by decide)
  · simp only [Bolt.Same, Sample.taggedRow, Bolt.ofJson, Bolt.ofMembers, hids]

end GraphSync
