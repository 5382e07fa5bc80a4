import ScriptHost.Proofs.Bridge.Resolution
/-!
Outcomes that are told one after another.

A table that is told outcomes for ids, in some order, gives each pending id the first outcome that is told
for it, and every other entry stays as it is (`mem_pending_tell`, `waiter?_tell`, `mem_heard`). This
counts as telling, whoever does it: signals, posted texts, and the failure of a hand-off.
-/

namespace ScriptHost

variable {σ : Type}

/-- The waiter once an outcome was told for its id, if one was. -/
def Waiter.told (w : Waiter) : Option Outcome → Waiter
  | some o => { w with outcome := some o }
  | none => w

namespace Table

variable {t : Table} {id j : InvocationId} {o : Outcome} {told told' : List (InvocationId × Outcome)}

/-- The table after outcomes are told for ids, from left to right. -/
def tell (t : Table) (told : List (InvocationId × Outcome)) : Table :=
  told.foldl (fun t r => t.resolve r.1 r.2) t

/-- Those of the outcomes told that find their ids pending. -/
def heard (t : Table) : List (InvocationId × Outcome) → List (InvocationId × Outcome)
  | [] => []
  | r :: told => (if t.isPending r.1 then [r] else []) ++ (t.resolve r.1 r.2).heard told

@[simp] theorem tell_nil : t.tell [] = t := rfl

@[simp] theorem tell_cons (r : InvocationId × Outcome) : t.tell (r :: told) = (t.resolve r.1 r.2).tell told := rfl

theorem tell_append : t.tell (told ++ told') = (t.tell told).tell told' := List.foldl_append

theorem heard_append : t.heard (told ++ told') = t.heard told ++ (t.tell told).heard told' := by
  induction told generalizing t with
  | nil => rfl
  | cons r told ih => simp [heard, ih]

theorem lookup_cons_ne (h : j ≠ id) (o : Outcome) (told : List (InvocationId × Outcome)) :
    ((id, o) :: told).lookup j = told.lookup j := by
  simp [List.lookup_cons, beq_false_of_ne h]

/-! ## One outcome -/

theorem nodup_resolve (hn : t.pending.Nodup) (id : InvocationId) (o : Outcome) : (t.resolve id o).pending.Nodup := by
  rw [pending_resolve]
  exact hn.erase id

theorem mem_pending_resolve (hn : t.pending.Nodup) : j ∈ (t.resolve id o).pending ↔ j ∈ t.pending ∧ j ≠ id := by
  rw [pending_resolve, hn.mem_erase_iff, and_comm]

theorem isPending_resolve_of_ne (h : j ≠ id) : (t.resolve id o).isPending j = t.isPending j := by
  rw [Bool.eq_iff_iff, isPending_iff, isPending_iff, pending_resolve, List.mem_erase_of_ne h]

theorem find?_deliver (ws : List Waiter) : (deliver id o ws).find? (fun w => w.id = j) =
    (ws.find? fun w => w.id = j).map fun w => if j = id then { w with outcome := some o } else w := by
  induction ws with
  | nil => rfl
  | cons w ws ih =>
    by_cases hi : w.id = id
    · subst hi
      by_cases hj : w.id = j
      · simp [deliver, hj]
      · simp [deliver, hj, Ne.symm hj]
    · by_cases hj : w.id = j
      · simp [deliver, hj, hj ▸ hi]
      · simp [deliver, hi, hj, ih]

theorem waiter?_resolve : (t.resolve id o).waiter? j =
    if j = id ∧ id ∈ t.pending then (t.waiter? j).map (·.told (some o)) else t.waiter? j := by
  unfold resolve
  by_cases hp : id ∈ t.pending
  · rw [if_pos (isPending_iff.2 hp)]
    by_cases hj : j = id <;> simp [waiter?, find?_deliver, hj, hp, Waiter.told]
  · rw [if_neg (by simpa using hp), if_neg fun h => hp h.2]

/-! ## Many outcomes -/

/-- What is pending afterwards is what was pending and was told nothing. -/
theorem mem_pending_tell (hn : t.pending.Nodup) :
    j ∈ (t.tell told).pending ↔ j ∈ t.pending ∧ told.lookup j = none := by
  induction told generalizing t with
  | nil => simp
  | cons r told ih =>
    obtain ⟨id, o⟩ := r
    rw [tell_cons, ih (nodup_resolve hn id o), mem_pending_resolve hn]
    by_cases hj : j = id
    · subst hj
      simp
    · rw [lookup_cons_ne hj, and_iff_left hj]

/-- The waiter of a pending id has the first outcome told for it, and other waiters have what they had. -/
theorem waiter?_tell (hn : t.pending.Nodup) : (t.tell told).waiter? j =
    if j ∈ t.pending then (t.waiter? j).map (·.told (told.lookup j)) else t.waiter? j := by
  induction told generalizing t with
  | nil => simp [Waiter.told]
  | cons r told ih =>
    obtain ⟨id, o⟩ := r
    have pending : j ∈ (t.resolve id o).pending ↔ j ∈ t.pending ∧ j ≠ id := mem_pending_resolve hn
    rw [tell_cons, ih (nodup_resolve hn id o), waiter?_resolve]
    by_cases hj : j = id
    · -- The first outcome for the id takes its entry away.
      subst hj
      rw [if_neg fun hp => (pending.1 hp).2 rfl, List.lookup_cons_self]
      simp
    · have stays : j ∈ (t.resolve id o).pending ↔ j ∈ t.pending := pending.trans (and_iff_left hj)
      simp only [stays, hj, false_and, if_false, lookup_cons_ne hj]

theorem mem_heard (hn : t.pending.Nodup) : (id, o) ∈ t.heard told ↔ id ∈ t.pending ∧ told.lookup id = some o := by
  induction told generalizing t with
  | nil => simp [heard]
  | cons r told ih =>
    obtain ⟨j, p⟩ := r
    rw [heard, List.mem_append, ih (nodup_resolve hn j p), mem_pending_resolve hn]
    by_cases hj : id = j
    · subst hj
      rw [List.lookup_cons_self]
      by_cases hp : id ∈ t.pending
      · have found : t.isPending id = true := isPending_iff.2 hp
        simp [hp, found, eq_comm]
      · have absent : t.isPending id = false := isPending_eq_false_iff.2 hp
        simp [hp, absent]
    · rw [lookup_cons_ne hj]
      simp [hj]

end Table

end ScriptHost
