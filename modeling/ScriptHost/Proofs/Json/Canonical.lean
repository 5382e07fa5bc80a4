import ScriptHost.Json.Value
import Mathlib.Data.String.Basic
import Mathlib.Data.List.Pairwise
/-!
Members in order, and values whose members are in order.

Sorting puts the keys into strictly increasing order and leaves members that are in order as they are, so
`canonical` changes nothing the second time. It only ever drops and moves members: a canonical value nests
no deeper than the value it came from and holds no other numbers.
-/

namespace ScriptHost

/-! ## Sorted members -/

namespace Members

variable {α β : Type} {k : String} {v : α} {m : String × α} {ms acc : List (String × α)}

/-- Every key is below the keys behind it. -/
abbrev Sorted (ms : List (String × α)) : Prop := ms.Pairwise fun m n => m.1 < n.1

theorem mem_put (h : m ∈ put k v ms) : m = (k, v) ∨ m ∈ ms := by
  induction ms with
  | nil => exact .inl (by simpa [put] using h)
  | cons n ms ih =>
    obtain ⟨l, w⟩ := n
    simp only [put] at h
    split at h
    · simpa using h
    · split at h
      · rcases List.mem_cons.1 h with h | h
        · exact .inl h
        · exact .inr (by simp [h])
      · rcases List.mem_cons.1 h with h | h
        · exact .inr (by simp [h])
        · exact (ih h).imp id fun h => by simp [h]

theorem sorted_put (h : Sorted ms) : Sorted (put k v ms) := by
  induction ms with
  | nil => simp [put]
  | cons n ms ih =>
    obtain ⟨l, w⟩ := n
    obtain ⟨below, rest⟩ := List.pairwise_cons.1 h
    simp only [put]
    split
    · rename_i hl
      refine List.pairwise_cons.2 ⟨?_, h⟩
      intro m hm
      rcases List.mem_cons.1 hm with rfl | hm
      · exact hl
      · exact hl.trans (below m hm)
    · rename_i hl
      split
      · rename_i he
        subst he
        exact List.pairwise_cons.2 ⟨below, rest⟩
      · rename_i hne
        have above : l < k := lt_of_le_of_ne (not_lt.1 hl) (Ne.symm hne)
        refine List.pairwise_cons.2 ⟨?_, ih rest⟩
        intro m hm
        rcases mem_put hm with rfl | hm
        · exact above
        · exact below m hm

/-- A key above all others goes to the end. -/
theorem put_of_above (h : ∀ m ∈ ms, m.1 < k) : put k v ms = ms ++ [(k, v)] := by
  induction ms with
  | nil => rfl
  | cons n ms ih =>
    obtain ⟨hn, h⟩ := List.forall_mem_cons.1 h
    simp only [put, if_neg hn.not_gt, if_neg hn.ne', List.cons_append, ih h]

theorem put_map (f : α → β) :
    put k (f v) (ms.map (Prod.map id f)) = (put k v ms).map (Prod.map id f) := by
  induction ms with
  | nil => rfl
  | cons n ms ih =>
    obtain ⟨l, w⟩ := n
    simp only [List.map_cons, Prod.map, id, put]
    split
    · rfl
    · split
      · rfl
      · simpa using ih

theorem mem_sort (h : m ∈ sort ms) : m ∈ ms := by
  have puts : ∀ m ∈ sort ms, m ∈ ms := by
    refine List.foldlRecOn (motive := fun acc => ∀ m ∈ acc, m ∈ ms) ms _ (by simp) ?_
    intro acc ih n hn m hm
    rcases mem_put hm with rfl | hm
    · exact hn
    · exact ih m hm
  exact puts m h

theorem sorted_sort (ms : List (String × α)) : Sorted (sort ms) :=
  List.foldlRecOn (motive := Sorted) ms _ .nil fun _ h _ _ => sorted_put h

/-- Sorting leaves members alone that are in order: each goes behind those before it. -/
theorem sort_of_sorted (h : Sorted ms) : sort ms = ms := by
  have puts : ∀ ms acc : List (String × α), Sorted (acc ++ ms) →
      ms.foldl (fun acc m => put m.1 m.2 acc) acc = acc ++ ms := by
    intro ms
    induction ms with
    | nil => simp
    | cons n ms ih =>
      intro acc h
      have above : ∀ m ∈ acc, m.1 < n.1 := fun m hm =>
        (List.pairwise_append.1 h).2.2 m hm n (by simp)
      rw [List.foldl_cons, put_of_above above, ih _ (by simpa using h)]
      simp
  exact puts ms [] h

theorem sort_map (f : α → β) (ms : List (String × α)) :
    sort (ms.map (Prod.map id f)) = (sort ms).map (Prod.map id f) := by
  simp only [sort, List.foldl_map]
  show List.foldl _ ([].map (Prod.map id f)) ms = _
  refine List.foldl_hom (List.map (Prod.map id f)) ?_
  intro acc m
  exact put_map f

end Members

/-! ## Depth and numbers -/

namespace Json

variable {v : Json} {xs : List Json} {ms : List (String × Json)} {d : Nat}

mutual

/-- How many arrays and objects lie inside one another. -/
def nesting : Json → Nat
  | .arr xs => itemsNesting xs + 1
  | .obj ms => membersNesting ms + 1
  | .null | .bool _ | .int _ | .real _ | .str _ => 0

/-- The deepest nesting among items. -/
def itemsNesting : List Json → Nat
  | [] => 0
  | x :: xs => max x.nesting (itemsNesting xs)

/-- The deepest nesting among the values of members. -/
def membersNesting : List (String × Json) → Nat
  | [] => 0
  | (_, v) :: ms => max v.nesting (membersNesting ms)

end

mutual

/-- The numbers in a value, from left to right. -/
def numbers : Json → List Json
  | .int n => [.int n]
  | .real x => [.real x]
  | .arr xs => itemsNumbers xs
  | .obj ms => membersNumbers ms
  | .null | .bool _ | .str _ => []

/-- The numbers in items. -/
def itemsNumbers : List Json → List Json
  | [] => []
  | x :: xs => x.numbers ++ itemsNumbers xs

/-- The numbers in the values of members. -/
def membersNumbers : List (String × Json) → List Json
  | [] => []
  | (_, v) :: ms => v.numbers ++ membersNumbers ms

end

theorem itemsNesting_le : itemsNesting xs ≤ d ↔ ∀ x ∈ xs, x.nesting ≤ d := by
  induction xs with
  | nil => simp [itemsNesting]
  | cons x xs ih => simp [itemsNesting, ih]

theorem membersNesting_le : membersNesting ms ≤ d ↔ ∀ m ∈ ms, m.2.nesting ≤ d := by
  induction ms with
  | nil => simp [membersNesting]
  | cons m ms ih => simp [membersNesting, ih]

theorem mem_itemsNumbers : v ∈ itemsNumbers xs ↔ ∃ x ∈ xs, v ∈ x.numbers := by
  induction xs with
  | nil => simp [itemsNumbers]
  | cons x xs ih => simp [itemsNumbers, ih]

theorem mem_membersNumbers : v ∈ membersNumbers ms ↔ ∃ m ∈ ms, v ∈ m.2.numbers := by
  induction ms with
  | nil => simp [membersNumbers]
  | cons m ms ih => simp [membersNumbers, ih]

/-- A value that stands in another nests less, and its numbers are numbers of the other. -/
def Inside (u v : Json) : Prop := u.nesting < v.nesting ∧ u.numbers ⊆ v.numbers

theorem inside_arr (h : v ∈ xs) : v.Inside (.arr xs) := by
  constructor
  · exact Nat.lt_succ_of_le (itemsNesting_le.1 (Nat.le_refl _) v h)
  · intro n hn
    exact mem_itemsNumbers.2 ⟨v, h, hn⟩

theorem inside_obj {m : String × Json} (h : m ∈ ms) : m.2.Inside (.obj ms) := by
  constructor
  · exact Nat.lt_succ_of_le (membersNesting_le.1 (Nat.le_refl _) m h)
  · intro n hn
    exact mem_membersNumbers.2 ⟨m, h, hn⟩

/-! ## Canonical values -/

theorem canonicalMembers_eq (ms : List (String × Json)) :
    canonicalMembers ms = ms.map (Prod.map id canonical) := by
  induction ms with
  | nil => rfl
  | cons m ms ih => simp [canonicalMembers, ih, Prod.map]

theorem canonical_ne_null (h : v ≠ .null) : v.canonical ≠ .null := by
  cases v <;> simp_all [canonical]

mutual

theorem canonical_canonical : ∀ v : Json, v.canonical.canonical = v.canonical
  | .null | .bool _ | .int _ | .real _ | .str _ => by simp [canonical]
  | .arr xs => by simp [canonical, canonicalItems_canonicalItems xs]
  | .obj ms => by
    have again := canonicalMembers_canonicalMembers ms
    simp only [canonical]
    rw [canonicalMembers_eq (Members.sort _), ← Members.sort_map, ← canonicalMembers_eq, again,
      Members.sort_of_sorted (Members.sorted_sort _)]

theorem canonicalItems_canonicalItems : ∀ xs, canonicalItems (canonicalItems xs) = canonicalItems xs
  | [] => rfl
  | x :: xs => by simp [canonicalItems, canonical_canonical x, canonicalItems_canonicalItems xs]

theorem canonicalMembers_canonicalMembers :
    ∀ ms, canonicalMembers (canonicalMembers ms) = canonicalMembers ms
  | [] => rfl
  | (_, v) :: ms => by
    simp [canonicalMembers, canonical_canonical v, canonicalMembers_canonicalMembers ms]

end

mutual

theorem nesting_canonical_le : ∀ v : Json, v.canonical.nesting ≤ v.nesting
  | .null | .bool _ | .int _ | .real _ | .str _ => by simp [canonical]
  | .arr xs => by simpa [canonical, nesting] using itemsNesting_canonicalItems_le xs
  | .obj ms => by
    have values := membersNesting_le.1 (membersNesting_canonicalMembers_le ms)
    simp only [canonical, nesting, Nat.add_le_add_iff_right]
    exact membersNesting_le.2 fun m hm => values m (Members.mem_sort hm)

theorem itemsNesting_canonicalItems_le : ∀ xs, itemsNesting (canonicalItems xs) ≤ itemsNesting xs
  | [] => Nat.le_refl _
  | x :: xs => max_le_max (nesting_canonical_le x) (itemsNesting_canonicalItems_le xs)

theorem membersNesting_canonicalMembers_le :
    ∀ ms, membersNesting (canonicalMembers ms) ≤ membersNesting ms
  | [] => Nat.le_refl _
  | (_, v) :: ms => max_le_max (nesting_canonical_le v) (membersNesting_canonicalMembers_le ms)

end

mutual

theorem numbers_canonical_subset : ∀ v : Json, v.canonical.numbers ⊆ v.numbers
  | .null | .bool _ | .int _ | .real _ | .str _ => by simp [canonical]
  | .arr xs => by simpa [canonical, numbers] using itemsNumbers_canonicalItems_subset xs
  | .obj ms => by
    intro x hx
    simp only [canonical, numbers] at hx ⊢
    obtain ⟨m, hm, hx⟩ := mem_membersNumbers.1 hx
    exact membersNumbers_canonicalMembers_subset ms (mem_membersNumbers.2 ⟨m, Members.mem_sort hm, hx⟩)

theorem itemsNumbers_canonicalItems_subset : ∀ xs, itemsNumbers (canonicalItems xs) ⊆ itemsNumbers xs
  | [] => List.Subset.refl _
  | x :: xs => by
    have rest := itemsNumbers_canonicalItems_subset xs
    exact List.append_subset.2 ⟨List.subset_append_of_subset_left _ (numbers_canonical_subset x),
      List.subset_append_of_subset_right _ rest⟩

theorem membersNumbers_canonicalMembers_subset :
    ∀ ms, membersNumbers (canonicalMembers ms) ⊆ membersNumbers ms
  | [] => List.Subset.refl _
  | (_, v) :: ms => by
    have rest := membersNumbers_canonicalMembers_subset ms
    exact List.append_subset.2 ⟨List.subset_append_of_subset_left _ (numbers_canonical_subset v),
      List.subset_append_of_subset_right _ rest⟩

end

end Json

end ScriptHost
