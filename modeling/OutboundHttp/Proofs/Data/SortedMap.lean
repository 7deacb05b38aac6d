import OutboundHttp.Data.SortedMap

/-!
# The bindings of a sorted map

A sorted map is known by what is bound to each key (`ext_get?`).  From this one fact follow the
rules for insertions: a key that has a value already keeps the map as it is when it is given this
value again, the later of two insertions of a key counts, and those of different keys may come in
any order (`insert_of_get?`, `insert_insert`, `insert_comm`).  Of several bindings made in order
the last one of a key counts (`get?_ofList`), so bindings of some keys can be left out without
regard to the others (`get?_ofList_filter`).
-/
namespace OutboundHttp

section Lookup

variable {κ ν : Type} [BEq κ] [LawfulBEq κ]

theorem lookup_eq_some_iff_mem {entries : List (κ × ν)}
    (h : entries.Pairwise fun a b => a.1 ≠ b.1) {k : κ} {v : ν} :
    entries.lookup k = some v ↔ (k, v) ∈ entries := by
  induction entries with
  | nil => simp
  | cons entry entries ih =>
    obtain ⟨hentry, hrest⟩ := List.pairwise_cons.mp h
    obtain ⟨k', v'⟩ := entry
    rw [List.mem_cons, List.lookup_cons]
    by_cases heq : k = k'
    · subst heq
      have hfresh : (k, v) ∉ entries := fun hmem => hentry _ hmem rfl
      simp [hfresh, eq_comm]
    · have hne : (k == k') = false := beq_eq_false_iff_ne.mpr heq
      simp [hne, heq, ih hrest]

/-- Leaving out the entries of some keys hides these keys and no others. -/
theorem lookup_filter (p : κ → Bool) (entries : List (κ × ν)) (k : κ) :
    (entries.filter fun entry => p entry.1).lookup k = if p k then entries.lookup k else none := by
  induction entries with
  | nil => simp
  | cons entry entries ih =>
    obtain ⟨k', v⟩ := entry
    rw [List.filter_cons]
    by_cases hkeep : p k' = true
    · rw [if_pos hkeep, List.lookup_cons, List.lookup_cons, ih]
      by_cases heq : k = k'
      · subst heq
        simp [hkeep]
      · simp [beq_eq_false_iff_ne.mpr heq]
    · rw [if_neg hkeep, List.lookup_cons, ih]
      by_cases heq : k = k'
      · subst heq
        simp [hkeep]
      · simp [beq_eq_false_iff_ne.mpr heq]

omit [LawfulBEq κ] in
theorem lookup_map_snd {ω : Type} (f : ν → ω) (entries : List (κ × ν)) (k : κ) :
    (entries.map fun entry => (entry.1, f entry.2)).lookup k = (entries.lookup k).map f := by
  induction entries with
  | nil => rfl
  | cons entry entries ih =>
    rw [List.map_cons, List.lookup_cons, List.lookup_cons, ih]
    cases k == entry.1 <;> rfl

end Lookup

namespace SortedMap

variable {κ ν : Type} [LT κ] [DecidableEq κ] [KeyOrder κ] {m n : SortedMap κ ν} {k k' : κ}
  {v : ν}

omit [DecidableEq κ] in
/-- A map binds each of its keys once. -/
theorem pairwise_ne (m : SortedMap κ ν) : m.entries.Pairwise fun a b => a.1 ≠ b.1 :=
  m.sorted.imp fun {_ b} hlt (heq : _ = b.1) => KeyOrder.irrefl b.1 (heq ▸ hlt)

theorem get?_eq_some_iff : m.get? k = some v ↔ (k, v) ∈ m.entries :=
  lookup_eq_some_iff_mem m.pairwise_ne

/-- A key has its value in the bindings of a map in any order. -/
theorem lookup_of_perm [BEq κ] [LawfulBEq κ] (m : SortedMap κ ν) {order : List (κ × ν)}
    (h : order.Perm m.entries) (k : κ) : order.lookup k = m.get? k := by
  have horder : order.Pairwise fun a b => a.1 ≠ b.1 := (h.pairwise_iff Ne.symm).mpr m.pairwise_ne
  refine Option.ext fun v => ?_
  rw [lookup_eq_some_iff_mem horder, h.mem_iff, get?_eq_some_iff]

/-- **Maps with the same value for every key are the same.** -/
theorem ext_get? (h : ∀ k, m.get? k = n.get? k) : m = n := by
  have hmem : ∀ binding, binding ∈ m.entries ↔ binding ∈ n.entries := by
    rintro ⟨k, v⟩
    rw [← get?_eq_some_iff, h, get?_eq_some_iff]
  have hnodup (m : SortedMap κ ν) : m.entries.Nodup :=
    m.pairwise_ne.imp fun hne heq => hne (congrArg Prod.fst heq)
  have hperm := (List.perm_ext_iff_of_nodup (hnodup m) (hnodup n)).mpr hmem
  refine ext (hperm.eq_of_pairwise (fun a b _ _ hab hba => ?_) m.sorted n.sorted)
  exact absurd (KeyOrder.trans hab hba) (KeyOrder.irrefl a.1)

variable [DecidableLT κ]

/-- A key that is given the value that it has changes nothing. -/
theorem insert_of_get? (h : m.get? k = some v) : m.insert k v = m := by
  refine ext_get? fun key => ?_
  rw [get?_insert]
  split
  · rw [‹key = k›, h]
  · rfl

theorem insert_insert (m : SortedMap κ ν) (k : κ) (v w : ν) :
    (m.insert k v).insert k w = m.insert k w := by
  refine ext_get? fun key => ?_
  simp only [get?_insert]
  split <;> rfl

theorem insert_comm (m : SortedMap κ ν) (h : k ≠ k') (v v' : ν) :
    (m.insert k v).insert k' v' = (m.insert k' v').insert k v := by
  refine ext_get? fun key => ?_
  simp only [get?_insert]
  by_cases hk : key = k
  · rw [if_neg (hk ▸ h), if_pos hk, if_pos hk]
  · rw [if_neg hk, if_neg hk]

/-! ## Several bindings -/

theorem insertMany_cons (m : SortedMap κ ν) (binding : κ × ν) (bindings : List (κ × ν)) :
    m.insertMany (binding :: bindings) = (m.insert binding.1 binding.2).insertMany bindings :=
  rfl

theorem insertMany_append (m : SortedMap κ ν) (bindings more : List (κ × ν)) :
    m.insertMany (bindings ++ more) = (m.insertMany bindings).insertMany more :=
  List.foldl_append

theorem mem_of_mem_insertMany {binding : κ × ν} {bindings : List (κ × ν)}
    (h : binding ∈ (m.insertMany bindings).entries) : binding ∈ bindings ∨ binding ∈ m.entries := by
  induction bindings generalizing m with
  | nil => exact Or.inr h
  | cons new bindings ih =>
    rcases ih h with hlater | hinsert
    · exact Or.inl (List.mem_cons_of_mem new hlater)
    · rcases mem_of_mem_insertSorted hinsert with rfl | hold
      · exact Or.inl List.mem_cons_self
      · exact Or.inr hold

theorem get?_insertMany (m : SortedMap κ ν) (bindings : List (κ × ν)) (k : κ) :
    (m.insertMany bindings).get? k = (bindings.reverse.lookup k).or (m.get? k) := by
  induction bindings generalizing m with
  | nil => rfl
  | cons binding bindings ih =>
    obtain ⟨k', v⟩ := binding
    rw [insertMany_cons, ih, get?_insert, List.reverse_cons, List.lookup_append, Option.or_assoc,
      List.lookup_cons, List.lookup_nil]
    by_cases heq : k = k'
    · rw [if_pos heq, beq_iff_eq.mpr heq]
      rfl
    · rw [if_neg heq, beq_eq_false_iff_ne.mpr heq, Option.none_or]

/-- The bindings of another map count before those of the map they are made in. -/
theorem get?_insertMany_map {ω : Type} (m : SortedMap κ ω) (n : SortedMap κ ν) (f : ν → ω) (k : κ) :
    (m.insertMany (n.entries.map fun entry => (entry.1, f entry.2))).get? k =
      ((n.get? k).map f).or (m.get? k) := by
  rw [get?_insertMany, ← List.map_reverse, lookup_map_snd, n.lookup_of_perm (List.reverse_perm _)]

/-- **Of several bindings the last one of a key counts.** -/
theorem get?_ofList (bindings : List (κ × ν)) (k : κ) :
    (ofList bindings).get? k = bindings.reverse.lookup k := by
  rw [ofList, get?_insertMany, get?_empty, Option.or_none]

theorem get?_ofList_filter (p : κ → Bool) (bindings : List (κ × ν)) (k : κ) :
    (ofList (bindings.filter fun binding => p binding.1)).get? k =
      if p k then (ofList bindings).get? k else none := by
  rw [get?_ofList, get?_ofList, ← List.filter_reverse, lookup_filter]

theorem exists_get?_ofList {bindings : List (κ × ν)} {binding : κ × ν} (h : binding ∈ bindings) :
    ∃ v, (ofList bindings).get? binding.1 = some v := by
  rw [get?_ofList, ← Option.isSome_iff_exists, List.lookup_isSome_iff]
  exact ⟨binding, List.mem_reverse.mpr h, beq_iff_eq.mpr rfl⟩

/-- Bindings can be left out only if there are none to leave out. -/
theorem ofList_eq_ofList_filter_iff {p : κ → Bool} {bindings : List (κ × ν)} :
    ofList bindings = ofList (bindings.filter fun binding => p binding.1) ↔
      ∀ binding ∈ bindings, p binding.1 = true := by
  constructor
  · intro heq binding hbinding
    obtain ⟨v, hv⟩ := exists_get?_ofList hbinding
    rw [heq, get?_ofList_filter] at hv
    by_cases hkeep : p binding.1 = true
    · exact hkeep
    · rw [if_neg hkeep] at hv
      cases hv
  · intro hall
    rw [List.filter_eq_self.mpr hall]

end SortedMap
end OutboundHttp
