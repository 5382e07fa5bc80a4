import ScriptHost.Proofs.Bridge.Signals
/-!
Signals in another order.

Completions of different ids commute (`Table.resolve_comm`), so what is told for one id can be gathered in
front of everything else (`Table.tell_gather`), and only the order among the signals for one id counts. Of
those the first has an effect.
-/

namespace ScriptHost

variable {σ : Type}

/-! ## Completions of different ids -/

namespace Table

variable {t : Table} {i j : InvocationId} {o p : Outcome} {told told' : List (InvocationId × Outcome)}

theorem deliver_comm (h : i ≠ j) (ws : List Waiter) : deliver j p (deliver i o ws) = deliver i o (deliver j p ws) := by
  induction ws with
  | nil => rfl
  | cons w ws ih =>
    by_cases hi : w.id = i
    · simp [deliver, hi, h]
    · by_cases hj : w.id = j
      · simp [deliver, hj, h.symm]
      · simp [deliver, hi, hj, ih]

/-- Completions of different ids commute. -/
theorem resolve_comm (h : i ≠ j) : (t.resolve i o).resolve j p = (t.resolve j p).resolve i o := by
  have first : (t.resolve j p).isPending i = t.isPending i := isPending_resolve_of_ne h
  have second : (t.resolve i o).isPending j = t.isPending j := isPending_resolve_of_ne h.symm
  rw [resolve, second, resolve.eq_def (t.resolve j p), first]
  by_cases hi : t.isPending i <;> by_cases hj : t.isPending j
  · simp only [resolve, hi, hj, if_true]
    rw [List.erase_comm, deliver_comm h]
  all_goals simp only [resolve, hi, hj, if_true, if_false, Bool.false_eq_true]

/-- A completion can wait until others are done that are for other ids. -/
theorem tell_resolve (h : ∀ r ∈ told, r.1 ≠ j) : (t.resolve j p).tell told = (t.tell told).resolve j p := by
  induction told generalizing t with
  | nil => rfl
  | cons r told ih =>
    obtain ⟨ne, h⟩ := List.forall_mem_cons.1 h
    rw [tell_cons, tell_cons, resolve_comm ne.symm, ih h]

/-- What is told for one id can be told in front of everything else. -/
theorem tell_gather (t : Table) (i : InvocationId) (told : List (InvocationId × Outcome)) :
    t.tell told = (t.tell (told.filter (·.1 = i))).tell (told.filter (·.1 ≠ i)) := by
  induction told generalizing t with
  | nil => rfl
  | cons r told ih =>
    obtain ⟨j, p⟩ := r
    by_cases hj : j = i
    · simp [hj, ih (t.resolve i p)]
    · have others : ∀ r ∈ told.filter (·.1 = i), r.1 ≠ j := by
        intro r hr
        have ri : r.1 = i := by simpa using (List.mem_filter.1 hr).2
        exact fun rj => hj (rj.symm.trans ri)
      simp [hj, ih (t.resolve j p), tell_resolve others]

/-- The table depends only on what is told for each id, in order. -/
theorem tell_congr (t : Table) (h : ∀ i, told.filter (·.1 = i) = told'.filter (·.1 = i)) :
    t.tell told = t.tell told' := by
  -- The induction takes away all that is told for one id at a time.
  induction hn : told.length using Nat.strongRecOn generalizing t told told' with
  | ind n ih =>
    cases told with
    | nil =>
      have nothing : told' = [] := by
        refine List.eq_nil_iff_forall_not_mem.2 fun r hr => ?_
        have found : r ∈ told'.filter (·.1 = r.1) := by simpa using hr
        rw [← h r.1] at found
        cases found
      rw [nothing]
    | cons r rest =>
      obtain ⟨i, o⟩ := r
      have fewer : (((i, o) :: rest).filter (·.1 ≠ i)).length < n := by
        have least : (rest.filter (·.1 ≠ i)).length ≤ rest.length := List.length_filter_le _ _
        simpa [← hn] using Nat.lt_succ_of_le least
      have others : ∀ k, (((i, o) :: rest).filter (·.1 ≠ i)).filter (·.1 = k) =
          (told'.filter (·.1 ≠ i)).filter (·.1 = k) := by
        intro k
        rw [List.filter_comm, h k, List.filter_comm]
      rw [tell_gather t i, tell_gather t i told', h i]
      exact ih _ fewer _ others rfl

end Table

/-! ## Signals one after another -/

/-- The outcome that a signal tells, and the id for which it does. -/
def Signal.telling (s : Signal) : InvocationId × Outcome := (s.id, s.outcome)

/-- The signals for an id, in order. -/
def Signal.naming (id : InvocationId) (ss : List Signal) : List Signal := ss.filter (·.id = id)

/-- The same signals, those for each id in the same order. -/
def Signal.Reordered (ss ss' : List Signal) : Prop := ∀ id, naming id ss = naming id ss'

/-- What signals for one id come to: the first one completes the id, if it is pending, and the others find
nothing. -/
def Disposition.inTurn (pending : Bool) : Nat → List Disposition
  | 0 => []
  | n + 1 => (if pending then .resolved else .unmatched) :: List.replicate n .unmatched

theorem Disposition.inTurn_false (n : Nat) : inTurn false n = List.replicate n .unmatched := by
  cases n <;> rfl

open Signal

namespace Bridge

variable {b : Bridge σ} {ss ss' : List Signal} {id : InvocationId}

/-- Hands signals in one after another: what becomes of each. -/
def signalEach (b : Bridge σ) : List Signal → List Disposition × Bridge σ
  | [] => ([], b)
  | s :: ss =>
    let (d, b) := b.signal s
    let (ds, b) := b.signalEach ss
    (d :: ds, b)

/-- Each signal, and what becomes of it. -/
def marks (b : Bridge σ) (ss : List Signal) : List (Signal × Disposition) := ss.zip (b.signalEach ss).1

theorem signalEach_cons (b : Bridge σ) (s : Signal) (ss : List Signal) :
    b.signalEach (s :: ss) = ((b.signal s).1 :: ((b.signal s).2.signalEach ss).1, ((b.signal s).2.signalEach ss).2) :=
  rfl

theorem marks_cons (b : Bridge σ) (s : Signal) (ss : List Signal) :
    b.marks (s :: ss) = (s, (b.signal s).1) :: (b.signal s).2.marks ss := rfl

theorem length_signalEach (b : Bridge σ) (ss : List Signal) : (b.signalEach ss).1.length = ss.length := by
  induction ss generalizing b with
  | nil => rfl
  | cons s ss ih => simp [signalEach_cons, ih]

/-- Signals do to the table what telling it their outcomes does. -/
theorem table_signalEach (b : Bridge σ) (ss : List Signal) :
    (b.signalEach ss).2.table = b.table.tell (ss.map telling) := by
  induction ss generalizing b with
  | nil => rfl
  | cons s ss ih => exact ih (b.signal s).2

theorem lookup_telling (id : InvocationId) (ss : List Signal) :
    (ss.map telling).lookup id = (naming id ss).head?.map (·.outcome) := by
  induction ss with
  | nil => rfl
  | cons s ss ih =>
    by_cases hs : s.id = id
    · subst hs
      simp [telling, naming]
    · have skipped : naming id (s :: ss) = naming id ss := by simp [naming, hs]
      rw [List.map_cons, skipped, ← ih, telling, Table.lookup_cons_ne (Ne.symm hs)]

theorem filter_telling (id : InvocationId) (ss : List Signal) :
    (ss.map telling).filter (·.1 = id) = (naming id ss).map telling := by
  rw [List.filter_map]
  rfl

/-- A reordering comes to the same table. -/
theorem table_of_reordered (b : Bridge σ) (h : Reordered ss ss') :
    (b.signalEach ss).2.table = (b.signalEach ss').2.table := by
  rw [table_signalEach, table_signalEach]
  refine b.table.tell_congr fun id => ?_
  rw [filter_telling, filter_telling, h id]

/-! ## What becomes of each signal -/

/-- Of the signals for an id the first one finds it pending, if it is. -/
theorem marks_naming (once : b.table.pending.Nodup) (id : InvocationId) (ss : List Signal) :
    (b.marks ss).filter (·.1.id = id) =
      (naming id ss).zip (Disposition.inTurn (b.table.isPending id) (naming id ss).length) := by
  induction ss generalizing b with
  | nil => rfl
  | cons s ss ih =>
    have rest := ih (b := (b.signal s).2) (Table.nodup_resolve once s.id s.outcome)
    rw [marks_cons]
    by_cases hs : s.id = id
    · subst hs
      have gone : (b.signal s).2.table.isPending s.id = false := by
        rw [Table.isPending_eq_false_iff]
        exact fun hp => ((Table.mem_pending_resolve once).1 hp).2 rfl
      have named : naming s.id (s :: ss) = s :: naming s.id ss := by simp [naming]
      rw [gone, Disposition.inTurn_false] at rest
      rw [named, List.filter_cons_of_pos (by simp), rest]
      rfl
    · have stays : (b.signal s).2.table.isPending id = b.table.isPending id :=
        Table.isPending_resolve_of_ne (Ne.symm hs)
      have skipped : naming id (s :: ss) = naming id ss := by simp [naming, hs]
      rw [stays] at rest
      rw [skipped, List.filter_cons_of_neg (by simpa using hs), rest]

theorem mem_signalEach {d : Disposition} (h : d ∈ (b.signalEach ss).1) : d = .resolved ∨ d = .unmatched := by
  induction ss generalizing b with
  | nil => cases h
  | cons s ss ih =>
    rcases List.mem_cons.1 h with rfl | h
    · by_cases hp : b.table.isPending s.id <;> simp [hp]
    · exact ih h

/-- As many signals resolve something as there are pending ids that are named. -/
theorem count_resolved (once : b.table.pending.Nodup) (ss : List Signal) :
    (b.signalEach ss).1.count .resolved = b.table.pending.countP (· ∈ ss.map (·.id)) := by
  induction ss generalizing b with
  | nil => simp [signalEach]
  | cons s ss ih =>
    have rest := ih (b := (b.signal s).2) (Table.nodup_resolve once s.id s.outcome)
    have pending : (b.signal s).2.table.pending = b.table.pending.erase s.id := Table.pending_resolve
    rw [pending] at rest
    rw [signalEach_cons]
    by_cases hp : s.id ∈ b.table.pending
    · have resolved : (b.signal s).1 = .resolved := (signal_resolved_iff s).2 (Table.isPending_iff.2 hp)
      have others : (b.table.pending.erase s.id).countP (· ∈ (s :: ss).map (·.id)) =
          (b.table.pending.erase s.id).countP (· ∈ ss.map (·.id)) := by
        refine List.countP_congr fun j hj => ?_
        have ne : j ≠ s.id := (once.mem_erase_iff.1 hj).1
        simp [ne]
      rw [resolved, List.count_cons_self, rest, (List.perm_cons_erase hp).countP_eq, ← others]
      simp
    · have unmatched : (b.signal s).1 = .unmatched := if_neg (by simpa using hp)
      rw [unmatched, List.count_cons_of_ne (by simp), rest, List.erase_of_not_mem hp]
      refine List.countP_congr fun j hj => ?_
      have ne : j ≠ s.id := fun same => hp (same ▸ hj)
      simp [ne]

end Bridge

open Bridge

/-- Signals for different ids commute, and of the signals for one id the first one counts: a pending id that is named
is gone, and its waiter has what the first signal for it says. What is not named or not pending stays as it is. As many
signals resolve something as there are pending ids named, and all others find nothing. In another order that keeps
that of the signals for each id, all comes to the same. A table never has an id twice, as `Ledger.pending_nodup` says of
every run. -/
theorem signals_for_different_ids_commute (b : Bridge σ) (once : b.table.pending.Nodup) (ss : List Signal) :
    let ds := (b.signalEach ss).1
    let later := (b.signalEach ss).2
    (∀ id s, b.table.isPending id → (naming id ss).head? = some s → ¬ later.table.isPending id ∧
      later.table.waiter? id = (b.table.waiter? id).map ({ · with outcome := some s.outcome })) ∧
    (∀ id, naming id ss = [] ∨ ¬ b.table.isPending id →
      later.table.isPending id = b.table.isPending id ∧ later.table.waiter? id = b.table.waiter? id) ∧
    ds.length = ss.length ∧ (∀ d ∈ ds, d = .resolved ∨ d = .unmatched) ∧
    ds.count .resolved = b.table.pending.countP (· ∈ ss.map (·.id)) ∧
    (∀ id, ((b.marks ss).filter (·.1.id = id)).map (·.2) =
      Disposition.inTurn (b.table.isPending id) (naming id ss).length) ∧
    ∀ ss', Reordered ss ss' → (b.signalEach ss').2.table = later.table ∧
      (∀ id, (b.signalEach ss').2.look id = later.look id) ∧
      ∀ id, (b.marks ss').filter (·.1.id = id) = (b.marks ss).filter (·.1.id = id) := by
  intro ds later
  have table : later.table = b.table.tell (ss.map telling) := b.table_signalEach ss
  have pending : ∀ id, later.table.isPending id ↔ b.table.isPending id ∧ naming id ss = [] := by
    intro id
    rw [table, Table.isPending_iff, Table.isPending_iff, Table.mem_pending_tell once, lookup_telling,
      Option.map_eq_none_iff, List.head?_eq_none_iff]
  have waiter : ∀ id, later.table.waiter? id = if b.table.isPending id then
      (b.table.waiter? id).map (·.told ((naming id ss).head?.map (·.outcome))) else b.table.waiter? id := by
    intro id
    simp only [table, Table.waiter?_tell once, lookup_telling, Table.isPending_iff]
  refine ⟨fun id s hp hs => ⟨fun still => ?_, ?_⟩, fun id untouched => ?_, b.length_signalEach ss,
    fun d hd => mem_signalEach hd, count_resolved once ss, fun id => ?_, fun ss' h => ⟨?_, fun id => ?_, fun id => ?_⟩⟩
  · rw [((pending id).1 still).2] at hs
    cases hs
  · rw [waiter, if_pos hp, hs]
    rfl
  · rcases untouched with unnamed | absent
    · refine ⟨?_, ?_⟩
      · rw [Bool.eq_iff_iff, pending]
        exact and_iff_left unnamed
      · rw [waiter, unnamed]
        simp [Waiter.told]
    · refine ⟨?_, ?_⟩
      · rw [Bool.eq_iff_iff, pending]
        exact and_iff_left_of_imp fun hp => absurd hp absent
      · rw [waiter, if_neg absent]
  · rw [marks_naming once]
    refine List.map_snd_zip ?_
    cases (naming id ss).length <;> simp [Disposition.inTurn]
  · exact (b.table_of_reordered h).symm
  · unfold look
    rw [b.table_of_reordered h]
  · rw [marks_naming once, marks_naming once, h id]

/-- Two ids are pending, and another one is not. -/
def twoPending : Bridge Unit := (((Bridge.fresh {} 1).dispatch "x").2.dispatch "y").2

/-- Signals for three ids, two of them for the same one. -/
def mixedSignals : List Signal :=
  [.ofValue (.issue "inv" 2) (.bool true), .ofError (.issue "inv" 1) "no", .ofValue (.issue "inv" 9) .null,
    .ofError (.issue "inv" 2) "late"]

/-- The same signals, gathered by their ids. -/
def gatheredSignals : List Signal :=
  [.ofValue (.issue "inv" 9) .null, .ofError (.issue "inv" 1) "no", .ofValue (.issue "inv" 2) (.bool true),
    .ofError (.issue "inv" 2) "late"]

theorem mixed_signals_can_be_gathered :
    twoPending.table.pending.Nodup ∧ Reordered mixedSignals gatheredSignals ∧
      (twoPending.signalEach gatheredSignals).2.table = (twoPending.signalEach mixedSignals).2.table ∧
      (twoPending.signalEach mixedSignals).1.count .resolved = 2 := by
  have ids : twoPending.table.pending = [.issue "inv" 1, .issue "inv" 2] := rfl
  have once : twoPending.table.pending.Nodup := by
    rw [ids]
    decide
  have reordered : Reordered mixedSignals gatheredSignals := by
    intro id
    by_cases first : InvocationId.issue "inv" 1 = id
    · subst first
      rfl
    · by_cases second : InvocationId.issue "inv" 2 = id
      · subst second
        rfl
      · by_cases other : InvocationId.issue "inv" 9 = id <;>
          simp [naming, mixedSignals, gatheredSignals, Signal.ofValue, Signal.ofError, first, second, other]
  obtain ⟨-, -, -, -, count, -, commute⟩ := signals_for_different_ids_commute twoPending once mixedSignals
  refine ⟨once, reordered, (commute _ reordered).1, count.trans ?_⟩
  rw [ids]
  decide

end ScriptHost
