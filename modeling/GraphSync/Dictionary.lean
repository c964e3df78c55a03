/-!
# Dictionaries

A dictionary holds one value per key and lists its entries by key, in code point order. The order
is part of what the library shows: parameters and the members of JSON objects are written in it.

* `Dictionary.insert` replaces the value of a key that is present.
* `find?_insert_self` and `find?_insert_of_ne` say what a look-up gives afterwards.
-/

namespace GraphSync

/-! ## Entry lists -/

namespace Entries

/-- The value under a key, in a list of entries. -/
def find? {α : Type} (key : String) : List (String × α) → Option α
  | [] => none
  | (k, v) :: rest => if k = key then some v else find? key rest

/-- Puts a value under a key into an entry list that is ordered by key. -/
def insert {α : Type} (key : String) (value : α) : List (String × α) → List (String × α)
  | [] => [(key, value)]
  | (k, v) :: rest =>
    if key = k then (key, value) :: rest
    else if key < k then (key, value) :: (k, v) :: rest
    else (k, v) :: insert key value rest

/-- Entries are ordered when each key is below all later ones. -/
def Ordered {α : Type} (entries : List (String × α)) : Prop :=
  entries.Pairwise fun a b => a.1 < b.1

theorem mem_insert {α : Type} {key : String} {value : α} {entries : List (String × α)}
    {e : String × α} (h : e ∈ insert key value entries) : e = (key, value) ∨ e ∈ entries := by
  induction entries with
  | nil => simpa [insert] using h
  | cons head rest ih =>
    obtain ⟨k, v⟩ := head
    rw [insert] at h
    split at h
    · rcases List.mem_cons.1 h with h | h
      · exact .inl h
      · exact .inr (List.mem_cons_of_mem _ h)
    · split at h
      · rcases List.mem_cons.1 h with h | h
        · exact .inl h
        · exact .inr h
      · rcases List.mem_cons.1 h with h | h
        · exact .inr (h ▸ List.mem_cons_self)
        · exact (ih h).imp id (List.mem_cons_of_mem _)

theorem Ordered.insert {α : Type} {entries : List (String × α)} (h : Ordered entries)
    (key : String) (value : α) : Ordered (insert key value entries) := by
  induction entries with
  | nil => exact List.pairwise_singleton _ _
  | cons head rest ih =>
    obtain ⟨k, v⟩ := head
    obtain ⟨hk, hrest⟩ := List.pairwise_cons.1 h
    rw [Entries.insert]
    split
    case isTrue heq =>
      subst heq
      exact List.pairwise_cons.2 ⟨hk, hrest⟩
    case isFalse hne =>
      split
      case isTrue hlt =>
        refine List.pairwise_cons.2 ⟨fun e he => ?_, h⟩
        rcases List.mem_cons.1 he with he | he
        · exact he ▸ hlt
        · exact String.lt_trans hlt (hk e he)
      case isFalse hnlt =>
        have hlt : k < key := by
          rcases Std.le_total (α := String) (a := k) (b := key) with hle | hle
          · exact Std.lt_of_le_of_ne hle (Ne.symm hne)
          · exact absurd (Std.lt_of_le_of_ne hle hne) hnlt
        refine List.pairwise_cons.2 ⟨fun e he => ?_, ih hrest⟩
        rcases mem_insert he with he | he
        · exact he ▸ hlt
        · exact hk e he

@[simp]
theorem find?_insert_self {α : Type} (key : String) (value : α) (entries : List (String × α)) :
    find? key (insert key value entries) = some value := by
  induction entries with
  | nil => simp [insert, find?]
  | cons head rest ih =>
    obtain ⟨k, v⟩ := head
    rw [insert]
    split
    · simp [find?]
    · split
      · simp [find?]
      · next hne _ => simp [find?, Ne.symm hne, ih]

theorem find?_insert_of_ne {α : Type} {key other : String} (h : other ≠ key) (value : α)
    (entries : List (String × α)) :
    find? other (insert key value entries) = find? other entries := by
  induction entries with
  | nil => simp [insert, find?, Ne.symm h]
  | cons head rest ih =>
    obtain ⟨k, v⟩ := head
    rw [insert]
    split
    case isTrue heq => subst heq; simp [find?, Ne.symm h]
    case isFalse =>
      split
      · simp [find?, Ne.symm h]
      · simp [find?, ih]

end Entries

/-! ## Dictionaries -/

/-- One value per key, in code point order of the keys. -/
structure Dictionary (α : Type) where
  entries : List (String × α)
  ordered : Entries.Ordered entries

namespace Dictionary

variable {α : Type}

/-- The dictionary without entries. -/
def empty : Dictionary α := { entries := [], ordered := List.Pairwise.nil }

instance : EmptyCollection (Dictionary α) := ⟨empty⟩

instance : Inhabited (Dictionary α) := ⟨empty⟩

/-- Puts a value under a key, in place of one that is there. -/
def insert (d : Dictionary α) (key : String) (value : α) : Dictionary α :=
  { entries := Entries.insert key value d.entries, ordered := d.ordered.insert key value }

/-- The value under a key. -/
def find? (d : Dictionary α) (key : String) : Option α := Entries.find? key d.entries

/-- Whether a key is present. -/
def contains (d : Dictionary α) (key : String) : Bool := (d.find? key).isSome

/-- The number of keys. -/
def size (d : Dictionary α) : Nat := d.entries.length

/-- The keys, in order. -/
def keys (d : Dictionary α) : List String := d.entries.map (·.1)

/-- Puts pairs in one after another, so the last value of a repeated key stays. -/
def insertMany (d : Dictionary α) (pairs : List (String × α)) : Dictionary α :=
  pairs.foldl (fun d p => d.insert p.1 p.2) d

/-- The dictionary of a list of pairs. -/
def ofList (pairs : List (String × α)) : Dictionary α := empty.insertMany pairs

@[simp]
theorem find?_empty (key : String) : (empty : Dictionary α).find? key = none := rfl

@[simp]
theorem find?_insert_self (d : Dictionary α) (key : String) (value : α) :
    (d.insert key value).find? key = some value :=
  Entries.find?_insert_self key value d.entries

theorem find?_insert_of_ne (d : Dictionary α) {key other : String} (h : other ≠ key) (value : α) :
    (d.insert key value).find? other = d.find? other :=
  Entries.find?_insert_of_ne h value d.entries

end Dictionary

end GraphSync
