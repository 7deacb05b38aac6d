/-!
# Sorted maps and sets

A map from keys to values in the order of its keys.  The order is part of the type, so
two maps with the same bindings are the same map.  Main statement: looking a key up
after an insertion (`get?_insert`).
-/
namespace OutboundHttp

variable {κ ν : Type}

/-- Puts a binding where it belongs in a list sorted by key; a binding of the same key
gives way. -/
def insertSorted [LT κ] [DecidableLT κ] [DecidableEq κ] (k : κ) (v : ν) :
    List (κ × ν) → List (κ × ν)
  | [] => [(k, v)]
  | (k', v') :: rest =>
    if k < k' then (k, v) :: (k', v') :: rest
    else if k = k' then (k, v) :: rest
    else (k', v') :: insertSorted k v rest

theorem mem_of_mem_insertSorted [LT κ] [DecidableLT κ] [DecidableEq κ] {k : κ} {v : ν}
    {b : κ × ν} {entries : List (κ × ν)} (h : b ∈ insertSorted k v entries) :
    b = (k, v) ∨ b ∈ entries := by
  induction entries with
  | nil => simpa [insertSorted] using h
  | cons head rest ih =>
    obtain ⟨k', v'⟩ := head
    rw [insertSorted] at h
    split at h
    · simpa using h
    · split at h
      · rcases List.mem_cons.mp h with h | h
        · exact .inl h
        · exact .inr (List.mem_cons_of_mem _ h)
      · rcases List.mem_cons.mp h with h | h
        · exact .inr (h ▸ List.mem_cons_self)
        · exact (ih h).imp id (List.mem_cons_of_mem _)

/-- A key order in which any two different keys compare one way. -/
class KeyOrder (κ : Type) [LT κ] : Prop where
  irrefl (a : κ) : ¬ a < a
  trans {a b c : κ} : a < b → b < c → a < c
  lt_of_not_lt {a b : κ} : ¬ a < b → a ≠ b → b < a

instance : KeyOrder (List Char) where
  irrefl := List.lt_irrefl
  trans := List.lt_trans
  lt_of_not_lt h ne := by grind

instance : KeyOrder UInt16 where
  irrefl := UInt16.lt_irrefl
  trans := UInt16.lt_trans
  lt_of_not_lt h ne := by grind

/-- A map sorted by key. -/
structure SortedMap (κ ν : Type) [LT κ] where
  entries : List (κ × ν)
  sorted : entries.Pairwise fun a b => a.1 < b.1

namespace SortedMap

variable [LT κ]

/-- The map without bindings. -/
def empty : SortedMap κ ν := ⟨[], .nil⟩

instance : Inhabited (SortedMap κ ν) := ⟨empty⟩

instance : EmptyCollection (SortedMap κ ν) := ⟨empty⟩

@[ext] theorem ext {m n : SortedMap κ ν} (h : m.entries = n.entries) : m = n := by
  cases m; cases n; simpa using h

instance [DecidableEq κ] [DecidableEq ν] : DecidableEq (SortedMap κ ν) := fun m n =>
  decidable_of_iff (m.entries = n.entries) ⟨ext, fun h => h ▸ rfl⟩

/-- The keys in order. -/
def keys (m : SortedMap κ ν) : List κ := m.entries.map Prod.fst

/-- There are no bindings. -/
def isEmpty (m : SortedMap κ ν) : Bool := m.entries.isEmpty

/-- The value bound to a key. -/
def get? [DecidableEq κ] (m : SortedMap κ ν) (k : κ) : Option ν :=
  m.entries.lookup k

@[simp] theorem get?_empty [DecidableEq κ] (k : κ) :
    (empty : SortedMap κ ν).get? k = none := rfl

/-- The key has a value. -/
def contains [DecidableEq κ] (m : SortedMap κ ν) (k : κ) : Bool :=
  (m.get? k).isSome

variable [DecidableLT κ] [DecidableEq κ] [KeyOrder κ]

theorem pairwise_insertSorted (k : κ) (v : ν) {entries : List (κ × ν)}
    (h : entries.Pairwise fun a b => a.1 < b.1) :
    (insertSorted k v entries).Pairwise fun a b => a.1 < b.1 := by
  induction entries with
  | nil => simp [insertSorted]
  | cons head rest ih =>
    obtain ⟨k', v'⟩ := head
    obtain ⟨above, tail⟩ := List.pairwise_cons.mp h
    rw [insertSorted]
    split
    · rename_i lt
      refine List.pairwise_cons.mpr ⟨fun b hb => ?_, h⟩
      rcases List.mem_cons.mp hb with rfl | hb
      · exact lt
      · exact KeyOrder.trans lt (above b hb)
    · rename_i notLt
      split
      · rename_i eq
        subst eq
        exact List.pairwise_cons.mpr ⟨above, tail⟩
      · rename_i ne
        refine List.pairwise_cons.mpr ⟨fun b hb => ?_, ih tail⟩
        rcases mem_of_mem_insertSorted hb with rfl | hb
        · exact KeyOrder.lt_of_not_lt notLt ne
        · exact above b hb

/-- The map with a key bound to a value, in place of any value it had. -/
def insert (m : SortedMap κ ν) (k : κ) (v : ν) : SortedMap κ ν :=
  ⟨insertSorted k v m.entries, pairwise_insertSorted k v m.sorted⟩

/-- The map with several bindings made in order. -/
def insertMany (m : SortedMap κ ν) (bindings : List (κ × ν)) : SortedMap κ ν :=
  bindings.foldl (fun m b => m.insert b.1 b.2) m

/-- The map made by several bindings in order, of which the last counts for each key. -/
def ofList (bindings : List (κ × ν)) : SortedMap κ ν :=
  empty.insertMany bindings

theorem get?_insert (m : SortedMap κ ν) (k k' : κ) (v : ν) :
    (m.insert k v).get? k' = if k' = k then some v else m.get? k' := by
  simp only [insert, get?]
  induction m.entries with
  | nil => simp only [insertSorted, List.lookup_cons, List.lookup_nil]; grind
  | cons head rest ih =>
    simp only [insertSorted]
    split
    · simp only [List.lookup_cons]; grind
    · split
      · simp only [List.lookup_cons]; grind
      · simp only [List.lookup_cons, ih]; grind

end SortedMap

/-- A set sorted by its members. -/
abbrev SortedSet (κ : Type) [LT κ] := SortedMap κ Unit

namespace SortedSet

variable [LT κ] [DecidableLT κ] [DecidableEq κ] [KeyOrder κ]

/-- The set with more members. -/
def insertMany (s : SortedSet κ) (members : List κ) : SortedSet κ :=
  SortedMap.insertMany s (members.map (·, ()))

theorem contains_insertMany {s : SortedSet κ} {members : List κ} {k : κ} :
    (insertMany s members).contains k = true ↔ k ∈ members ∨ s.contains k = true := by
  induction members generalizing s with
  | nil => simp [insertMany, SortedMap.insertMany]
  | cons member members ih =>
    have hcons : insertMany s (member :: members) = insertMany (s.insert member ()) members := rfl
    rw [hcons, ih, SortedMap.contains, SortedMap.get?_insert, List.mem_cons]
    by_cases hk : k = member
    · simp [hk]
    · simp [hk, SortedMap.contains]

end SortedSet
end OutboundHttp
