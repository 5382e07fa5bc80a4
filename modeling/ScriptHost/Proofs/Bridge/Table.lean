import ScriptHost.Bridge.Table
import Mathlib.Data.List.Nodup
/-!
Who is pending and who waits after each operation of a table.
-/

namespace ScriptHost.Table

variable {t : Table} {id : InvocationId} {o : Outcome} {w : Waiter} {ws : List Waiter}

/-! ## Pending ids -/

@[simp] theorem pending_resolve : (t.resolve id o).pending = t.pending.erase id := by
  unfold resolve
  split
  · rfl
  · rename_i h
    exact (List.erase_of_not_mem (by simpa using h)).symm

theorem pending_register (h : id ∉ t.pending) (held : Bool) :
    (t.register id held).pending = t.pending ++ [id] := by
  simp [register, List.erase_of_not_mem h]

/-! ## Waiters -/

theorem waiter?_isSome_iff : (t.waiter? id).isSome ↔ id ∈ t.waiters.map (·.id) := by
  simp [waiter?]

/-- Where every waiter has an id of its own, looking for an id finds its waiter. -/
theorem waiter?_eq_some_iff (hn : (t.waiters.map (·.id)).Nodup) :
    t.waiter? id = some w ↔ w ∈ t.waiters ∧ w.id = id := by
  have found : ∀ v, t.waiter? id = some v → v ∈ t.waiters ∧ v.id = id := fun v h =>
    ⟨List.mem_of_find?_eq_some h, by simpa using List.find?_some h⟩
  refine ⟨found w, ?_⟩
  rintro ⟨hw, hi⟩
  have some_waits : (t.waiter? id).isSome := waiter?_isSome_iff.2 (hi ▸ List.mem_map_of_mem hw)
  obtain ⟨v, hv⟩ := Option.isSome_iff_exists.1 some_waits
  have same : v = w := List.inj_on_of_nodup_map hn (found v hv).1 hw ((found v hv).2.trans hi.symm)
  rw [hv, same]

/-- Where every waiter has an id of its own, a delivery reaches the one with the id and no other. -/
theorem deliver_eq_map (hn : (ws.map (·.id)).Nodup) :
    deliver id o ws = ws.map fun w => if w.id = id then { w with outcome := some o } else w := by
  induction ws with
  | nil => rfl
  | cons v ws ih =>
    obtain ⟨hv, hn⟩ := List.nodup_cons.1 hn
    by_cases h : v.id = id
    · subst h
      have others : ∀ w ∈ ws, (if w.id = v.id then { w with outcome := some o } else w) = w := by
        intro w hw
        exact if_neg fun e => hv (List.mem_map.2 ⟨w, hw, e⟩)
      simp only [deliver, if_true, List.map_cons]
      rw [List.map_congr_left others, List.map_id']
    · simp only [deliver, if_neg h, List.map_cons]
      rw [ih hn]

theorem waiters_resolve (hn : (t.waiters.map (·.id)).Nodup) (h : id ∈ t.pending) :
    (t.resolve id o).waiters = t.waiters.map fun w => if w.id = id then { w with outcome := some o } else w := by
  rw [resolve, if_pos (isPending_iff.2 h)]
  exact deliver_eq_map hn

theorem resolve_of_not_pending (h : id ∉ t.pending) : t.resolve id o = t := by
  rw [resolve, if_neg (by simpa using h)]

@[simp] theorem ids_deliver : (deliver id o ws).map (·.id) = ws.map (·.id) := by
  induction ws with
  | nil => rfl
  | cons v ws ih =>
    simp only [deliver]
    split
    · rfl
    · simp [ih]

@[simp] theorem ids_resolve : (t.resolve id o).waiters.map (·.id) = t.waiters.map (·.id) := by
  unfold resolve
  split
  · exact ids_deliver
  · rfl

@[simp] theorem ids_hold : (t.hold id).waiters.map (·.id) = t.waiters.map (·.id) := by
  simp only [hold, List.map_map]
  refine List.map_congr_left fun w _ => ?_
  simp only [Function.comp_apply]
  split <;> rfl

@[simp] theorem waiters_release : (t.release id).waiters = t.waiters.filter fun w => w.id ≠ id := by
  unfold release
  split
  · rfl
  · rename_i h
    refine (List.filter_eq_self.2 fun w hw => ?_).symm
    rw [waiter?_isSome_iff] at h
    simpa using fun e => h (List.mem_map.2 ⟨w, hw, e⟩)

/-- Letting an id go gives up its entry, if entries never outlive their waiters. -/
theorem pending_release (h : id ∈ t.pending → id ∈ t.waiters.map (·.id)) :
    (t.release id).pending = t.pending.erase id := by
  unfold release
  split
  · rfl
  · rename_i hw
    exact (List.erase_of_not_mem fun hp => hw (waiter?_isSome_iff.2 (h hp))).symm

/-! ## Waiters in the middle of a wait -/

theorem isHeld_iff : t.isHeld id ↔ ∃ w ∈ t.waiters, w.id = id ∧ w.held = true := by
  simp [isHeld]

@[simp] theorem isHeld_resolve {j : InvocationId} : (t.resolve j o).isHeld id = t.isHeld id := by
  have delivered : ∀ ws : List Waiter, (deliver j o ws).any (fun w => w.id = id ∧ w.held) =
      ws.any fun w => w.id = id ∧ w.held := by
    intro ws
    induction ws with
    | nil => rfl
    | cons v ws ih =>
      simp only [deliver]
      split
      · rfl
      · simp only [List.any_cons, ih]
  unfold resolve
  split
  · exact delivered t.waiters
  · rfl

theorem isHeld_register (h : t.isHeld id) (j : InvocationId) (held : Bool) : (t.register j held).isHeld id := by
  obtain ⟨w, hw, hi⟩ := isHeld_iff.1 h
  exact isHeld_iff.2 ⟨w, List.mem_append_left _ hw, hi⟩

/-- Nobody lets go a waiter in the middle of a wait by letting go another one. -/
theorem isHeld_release {j : InvocationId} (h : t.isHeld id) (hj : j ≠ id) : (t.release j).isHeld id := by
  obtain ⟨w, hw, rfl, held⟩ := isHeld_iff.1 h
  refine isHeld_iff.2 ⟨w, ?_, rfl, held⟩
  rw [waiters_release, List.mem_filter]
  exact ⟨hw, by simpa using hj.symm⟩

theorem isHeld_hold (h : id ∈ t.waiters.map (·.id)) : (t.hold id).isHeld id := by
  obtain ⟨w, hw, hi⟩ := List.mem_map.1 h
  refine isHeld_iff.2 ⟨{ w with held := true }, List.mem_map.2 ⟨w, hw, ?_⟩, hi, rfl⟩
  rw [if_pos hi]

/-! ## Beginning to wait -/

@[simp] theorem isPending_hold {j : InvocationId} : (t.hold id).isPending j = t.isPending j := rfl

theorem waiter?_hold {j : InvocationId} : (t.hold id).waiter? j =
    (t.waiter? j).map fun w => if w.id = id then { w with held := true } else w := by
  simp only [waiter?, hold, List.find?_map]
  congr 2
  funext w
  simp only [Function.comp_apply]
  split <;> rfl

@[simp] theorem isSome_waiter?_hold {j : InvocationId} : ((t.hold id).waiter? j).isSome = (t.waiter? j).isSome := by
  simp [waiter?_hold]

/-- A waiter has the same outcome when it waits. -/
theorem outcome_hold {j : InvocationId} :
    ((t.hold id).waiter? j).bind (·.outcome) = (t.waiter? j).bind (·.outcome) := by
  rw [waiter?_hold, Option.bind_map]
  congr 1
  funext w
  simp only [Function.comp_apply]
  split <;> rfl

theorem deliver_hold {j : InvocationId} (ws : List Waiter) :
    deliver j o (ws.map fun w => if w.id = id then { w with held := true } else w) =
      (deliver j o ws).map fun w => if w.id = id then { w with held := true } else w := by
  induction ws with
  | nil => rfl
  | cons w ws ih =>
    by_cases hi : w.id = id <;> by_cases hj : w.id = j <;> simp_all [deliver]

theorem resolve_hold {j : InvocationId} : (t.hold id).resolve j o = (t.resolve j o).hold id := by
  unfold resolve
  rw [isPending_hold]
  split
  · exact congrArg (Table.mk _) (deliver_hold t.waiters)
  · rfl

theorem release_hold {j : InvocationId} : (t.hold id).release j = (t.release j).hold id := by
  unfold release
  rw [isSome_waiter?_hold]
  split
  · refine congrArg (Table.mk _) ?_
    simp only [hold, discard, List.filter_map]
    refine congrArg _ (List.filter_congr fun w _ => ?_)
    simp only [Function.comp_apply]
    split <;> rfl
  · rfl

/-- A waiter that is let go leaves nothing of its wait. -/
theorem release_hold_self : (t.hold id).release id = t.release id := by
  rw [release_hold]
  refine congrArg (Table.mk _) ((List.map_congr_left fun w hw => ?_).trans (List.map_id' _))
  rw [waiters_release, List.mem_filter] at hw
  exact if_neg (by simpa using hw.2)

theorem register_hold {j : InvocationId} (hj : j ≠ id) (held : Bool) :
    (t.hold id).register j held = (t.register j held).hold id := by
  simp [register, hold, hj]

/-- Who enters an id to wait for it at once might as well begin to wait afterwards. -/
theorem register_held (h : id ∉ t.waiters.map (·.id)) : t.register id true = (t.register id false).hold id := by
  have others : t.waiters.map (fun w => if w.id = id then { w with held := true } else w) = t.waiters := by
    refine (List.map_congr_left fun w hw => ?_).trans (List.map_id' _)
    exact if_neg fun hi => h (List.mem_map.2 ⟨w, hw, hi⟩)
  simp [register, hold, others]

theorem hold_hold : (t.hold id).hold id = t.hold id := by
  simp only [hold, List.map_map]
  refine congrArg _ (List.map_congr_left fun w _ => ?_)
  simp only [Function.comp_apply]
  split <;> simp_all

/-- Who waits already has no wait to begin. -/
theorem hold_of_isHeld (hn : (t.waiters.map (·.id)).Nodup) (h : t.isHeld id) : t.hold id = t := by
  obtain ⟨v, hv, hi, held⟩ := isHeld_iff.1 h
  refine congrArg (Table.mk _) ((List.map_congr_left fun w hw => ?_).trans (List.map_id' _))
  split
  · rename_i same
    obtain rfl : w = v := List.inj_on_of_nodup_map hn hw hv (same.trans hi.symm)
    cases w
    cases held
    rfl
  · rfl

theorem isHeld_hold_of_ne {j : InvocationId} (hj : j ≠ id) : (t.hold id).isHeld j = t.isHeld j := by
  simp only [isHeld, hold, List.any_map]
  congr 1
  funext w
  simp only [Function.comp_apply]
  split
  · rename_i hw
    simp [hw, hj.symm]
  · rfl

end ScriptHost.Table
