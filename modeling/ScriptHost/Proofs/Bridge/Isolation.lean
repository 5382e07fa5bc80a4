import ScriptHost.Bridge.Process
import ScriptHost.Proofs.Bridge.Calls
import ScriptHost.Proofs.Bridge.Ledger
import Mathlib.Data.List.Induction
/-!
Bridges of one process do not interfere.

A move issues at most the next id (`issues_step`), and the counter never comes back to a number, so no two
ids of a process have the same number; by `InvocationId.issue_eq_iff` their texts differ, too. `Apart` is
the invariant of every run of a process. It says of each bridge that its own moves took it to where it is:
all that a bridge notices of the others is that the counter went on.
-/

namespace ScriptHost

open Bridge

/-! ## What one move issues -/

section Issues

variable {σ : Type} {b b' b'' : Bridge σ} {m m' : Moment σ} {e : Engine σ} {c : Command}

namespace Bridge

/-- A bridge under the same settings that has issued the next id, or nothing, and counts on. -/
structure Issues (b b' : Bridge σ) : Prop where
  config : b'.config = b.config
  number : b.number ≤ b'.number
  issued : b'.issued = b.issued ∨ b'.issued = b.issued ++ [b.nextId]

theorem Issues.same (hc : b'.config = b.config) (hn : b.number ≤ b'.number) (hi : b'.issued = b.issued) :
    Issues b b' := ⟨hc, hn, .inl hi⟩

theorem Issues.frame (h : Issues b b') (hc : b''.config = b'.config) (hn : b''.number = b'.number)
    (hi : b''.issued = b'.issued) : Issues b b'' :=
  ⟨hc.trans h.config, hn ▸ h.number, h.issued.imp hi.trans hi.trans⟩

theorem Issues.note (h : Issues b b') {v : Event} (hv : v.issued? = none) : Issues b (b'.note v) :=
  h.frame rfl rfl (record_note_aside hv b')

theorem Issues.resolve (h : Issues b b') (id : InvocationId) (o : Outcome) : Issues b (b'.resolve id o) :=
  h.frame rfl rfl (by simp)

theorem issues_dispatch (b : Bridge σ) (source : String) (held : Bool) :
    Issues b (b.dispatch source held).2 := by
  have number : b.number ≤ b.number + 1 := Nat.le_succ _
  rcases dispatch_cases b source held with ⟨o, h⟩ | ⟨-, -, h⟩ <;> rw [h]
  · exact ⟨rfl, number, .inr (by simp)⟩
  · exact ⟨rfl, number, .inr (by simp)⟩

theorem issues_outer (ho : b.Outer b') : Issues b b' := by
  cases ho with
  | dispatch source held => exact issues_dispatch b source held
  | resolve id o => exact .same rfl (Nat.le_refl _) (by simp)
  | release id => exact .same rfl (Nat.le_refl _) (by simp)
  | openGate r => exact .same rfl (Nat.le_refl _) (by simp)
  | elsewhere n => exact .same rfl (Nat.le_add_right _ _) rfl
  | same | hold | cancel | pass | share => exact .same rfl (Nat.le_refl _) rfl

theorem issues_built (b : Bridge σ) (r : Except Abort σ) : Issues b (b.built r) := by
  rcases r with (f | text) | s
  · have opened := issues_outer (.openGate b (.initFailed f.message))
    have waits : Issues b (b.openGate (.initFailed f.message)).2.bootstrap := opened.frame rfl rfl rfl
    exact waits.note rfl
  · have crashed : Issues b b.crash := .same rfl (Nat.le_refl _) rfl
    exact crashed.note rfl
  · have waits : Issues b { b with engine := some s }.bootstrap := .same rfl (Nat.le_refl _) rfl
    exact waits.note rfl

theorem issues_returned (b : Bridge σ) (c : Command) (r : σ × Except Abort Unit) :
    Issues b (b.returned c r) := by
  have kept : Issues b { b with engine := some r.1 } := .same rfl (Nat.le_refl _) rfl
  have noted := kept.note (v := .returned c r.2) rfl
  obtain ⟨s, (a | u)⟩ := r
  · exact noted.resolve _ _
  · exact noted

theorem issues_close (b : Bridge σ) : Issues b b.close := by
  have emptied : Issues b { b with deferred := [], queue := [], phase := .stopped } :=
    .same rfl (Nat.le_refl _) rfl
  exact close_keeps (I := Issues b) (fun _ id h => h.resolve id _) b emptied

end Bridge

theorem issues_stride (hs : Stride e m m') : Issues m.bridge m'.bridge := by
  have taken : ∀ {b b' : Bridge σ} {c : Command}, b.next? = some (c, b') → Issues b (b'.note (.taken c)) := by
    intro b b' c hn
    have next : Issues b b' := by
      rw [next?_eq hn]
      exact .same rfl (Nat.le_refl _) rfl
    exact next.note rfl
  cases hs with
  | rest | beginBuild | drain | park | defer | serve => exact .same rfl (Nat.le_refl _) rfl
  | actInBuild ha | actInWrapping ha | actInEvaluation ha => exact issues_outer ha.outer
  | endBuild b r => exact issues_built b r
  | close => exact issues_close _
  | skip hn => exact taken hn
  | refuse hn => exact (taken hn).resolve _ _
  | handOver hn => exact (taken hn).note rfl
  | failWrapping b c s a => exact issues_returned b c (s, .error a)
  | endWrapping => exact .same rfl (Nat.le_refl _) (by simp)
  | endEvaluation b c r => exact issues_returned b c r

theorem issues_step (e : Engine σ) (m : Moment σ) (v : Move σ) : Issues m.bridge (m.step e v).bridge := by
  by_cases hv : v = .advance
  · subst hv
    exact issues_stride (Moment.stride_advance e m)
  · rw [Moment.step_of_ne e m hv]
    exact issues_outer (outer_move m.bridge v)

theorem config_after (e : Engine σ) (m : Moment σ) (vs : List (Move σ)) :
    (m.after e vs).bridge.config = m.bridge.config := by
  induction vs generalizing m with
  | nil => rfl
  | cons v vs ih => exact (ih (m.step e v)).trans (issues_step e m v).config

end Issues

/-! ## The bridges of a process -/

variable {ι : Type} [DecidableEq ι] {σ : ι → Type} {e : (i : ι) → Engine (σ i)} {config : ι → Config}
  {first : Nat} {ds : List (Deed σ)} {p : Process σ} {i j : ι}

/-- The counter stands elsewhere because ids were issued elsewhere. -/
theorem Moment.lend_eq {σ : Type} (e : Engine σ) (m : Moment σ) {number : Nat} (h : m.bridge.number ≤ number) :
    m.lend number = m.step e (.elsewhere (number - m.bridge.number)) := by
  simp [Moment.lend, Moment.step, Bridge.move, Nat.add_sub_cancel' h]

theorem Move.here_append {σ : Type} (vs ws : List (Move σ)) : here (vs ++ ws) = here vs ++ here ws :=
  List.filter_append vs ws

namespace Deed

theorem own_append_self (ds : List (Deed σ)) (i : ι) (v : Move (σ i)) :
    own i (ds ++ [⟨i, v⟩]) = own i ds ++ [v] := by
  simp [own]

theorem own_append_other (ds : List (Deed σ)) {d : Deed σ} (h : d.doer ≠ i) : own i (ds ++ [d]) = own i ds := by
  simp [own, h]

end Deed

namespace Process

theorem after_append (e : (i : ι) → Engine (σ i)) (p : Process σ) (ds ds' : List (Deed σ)) :
    p.after e (ds ++ ds') = (p.after e ds).after e ds' := List.foldl_append

theorem step_self (e : (i : ι) → Engine (σ i)) (p : Process σ) (i : ι) (v : Move (σ i)) :
    (p.step e ⟨i, v⟩).moment i = ((p.moment i).lend p.number).step (e i) v := by
  simp [step]

theorem step_other (e : (i : ι) → Engine (σ i)) (p : Process σ) {d : Deed σ} (h : j ≠ d.doer) :
    (p.step e d).moment j = p.moment j := by
  simp [step, h]

theorem number_step (e : (i : ι) → Engine (σ i)) (p : Process σ) (i : ι) (v : Move (σ i)) :
    (p.step e ⟨i, v⟩).number = ((p.step e ⟨i, v⟩).bridge i).number := by
  rw [bridge, step_self]
  rfl

/-- Where the bridges of a process are after a run. -/
structure Apart (e : (i : ι) → Engine (σ i)) (config : ι → Config) (first : Nat) (ds : List (Deed σ))
    (p : Process σ) : Prop where
  /-- Each bridge is where its own moves took it. -/
  alone : ∀ i, ∃ vs, Move.here vs = Move.here (Deed.own i ds) ∧
    p.moment i = (Moment.start (config i) first).after (e i) vs
  number : ∀ i, (p.bridge i).number ≤ p.number
  /-- A number is in an id of one bridge only. -/
  owner : ∀ n i j, .issue (config i).idStem n ∈ (p.bridge i).issued →
    .issue (config j).idStem n ∈ (p.bridge j).issued → i = j

namespace Apart

theorem config_eq (h : Apart e config first ds p) (i : ι) : (p.bridge i).config = config i := by
  obtain ⟨vs, -, hm⟩ := h.alone i
  rw [bridge, hm]
  exact config_after (e i) _ vs

theorem ledger (h : Apart e config first ds p) (i : ι) : Ledger (p.bridge i) := by
  obtain ⟨vs, -, hm⟩ := h.alone i
  rw [bridge, hm]
  exact ledger_after (e i) (config i) first vs

theorem numbered (h : Apart e config first ds p) {id : InvocationId} (hi : id ∈ (p.bridge i).issued) :
    ∃ n < p.number, id = .issue (config i).idStem n := by
  obtain ⟨n, hn, hid⟩ := (h.ledger i).numbered id hi
  exact ⟨n, Nat.lt_of_lt_of_le hn (h.number i), h.config_eq i ▸ hid⟩

theorem start (e : (i : ι) → Engine (σ i)) (config : ι → Config) (first : Nat) :
    Apart e config first [] (Process.start config first) where
  alone _ := ⟨[], rfl, rfl⟩
  number _ := Nat.le_refl _
  owner _ _ _ hi := absurd hi List.not_mem_nil

theorem unused (h : Apart e config first ds p) (j : ι) :
    .issue (config j).idStem p.number ∉ (p.bridge j).issued := by
  intro hj
  obtain ⟨n, hn, hid⟩ := h.numbered hj
  have same := (InvocationId.issue_eq_iff.1 hid).2
  omega

/-- What a deed issues has the process's number, which is in no id yet. -/
theorem issued_step (h : Apart e config first ds p) (v : Move (σ i)) {id : InvocationId}
    (hid : id ∈ ((p.step e ⟨i, v⟩).bridge i).issued) :
    id ∈ (p.bridge i).issued ∨ id = .issue (config i).idStem p.number := by
  have next : ((p.moment i).lend p.number).bridge.nextId = .issue (config i).idStem p.number := by
    rw [← h.config_eq i]
    rfl
  rw [bridge, step_self] at hid
  rcases (issues_step (e i) ((p.moment i).lend p.number) v).issued with same | added
  · exact .inl (same ▸ hid)
  · rw [added, next, List.mem_append, List.mem_singleton] at hid
    exact hid

theorem owner_step (h : Apart e config first ds p) (v : Move (σ i)) {n : Nat} (hj : j ≠ i)
    (hi : .issue (config i).idStem n ∈ ((p.step e ⟨i, v⟩).bridge i).issued) :
    .issue (config j).idStem n ∉ (p.bridge j).issued := by
  intro hid
  rcases h.issued_step v hi with old | new
  · exact hj (h.owner n j i hid old)
  · obtain ⟨-, rfl⟩ := InvocationId.issue_eq_iff.1 new
    exact h.unused j hid

theorem step (h : Apart e config first ds p) (d : Deed σ) : Apart e config first (ds ++ [d]) (p.step e d) := by
  obtain ⟨i, v⟩ := d
  have others : ∀ j, j ≠ i → (p.step e ⟨i, v⟩).moment j = p.moment j := fun j hj => step_other e p hj
  have counts : p.number ≤ (p.step e ⟨i, v⟩).number := (issues_step (e i) ((p.moment i).lend p.number) v).number
  constructor
  · intro j
    obtain ⟨vs, hvs, hm⟩ := h.alone j
    by_cases hj : j = i
    · subst hj
      refine ⟨vs ++ [.elsewhere (p.number - (p.bridge j).number), v], ?_, ?_⟩
      · rw [Deed.own_append_self, Move.here_append, Move.here_append, hvs]
        rfl
      · rw [step_self, Moment.lend_eq (e j) _ (h.number j), Moment.after_append, ← hm]
        rfl
    · exact ⟨vs, by rw [Deed.own_append_other ds (Ne.symm hj), hvs], (others j hj).trans hm⟩
  · intro j
    by_cases hj : j = i
    · subst hj
      exact Nat.le_of_eq (number_step e p j v).symm
    · rw [bridge, others j hj]
      exact Nat.le_trans (h.number j) counts
  · intro n j k hj hk
    by_cases hji : j = i <;> by_cases hki : k = i
    · rw [hji, hki]
    · subst hji
      rw [bridge, others k hki] at hk
      exact absurd hk (h.owner_step v hki hj)
    · subst hki
      rw [bridge, others j hji] at hj
      exact absurd hj (h.owner_step v hji hk)
    · rw [bridge, others j hji] at hj
      rw [bridge, others k hki] at hk
      exact h.owner n j k hj hk

end Apart

/-- Where every run of a process takes its bridges. -/
theorem apart_after (e : (i : ι) → Engine (σ i)) (config : ι → Config) (first : Nat) (ds : List (Deed σ)) :
    Apart e config first ds ((start config first).after e ds) := by
  induction ds using List.reverseRecOn with
  | nil => exact .start e config first
  | append_singleton ds d ih =>
    rw [after_append]
    exact ih.step d

theorem issued_subset_step (e : (i : ι) → Engine (σ i)) (p : Process σ) (d : Deed σ) (j : ι) :
    (p.bridge j).issued ⊆ ((p.step e d).bridge j).issued := by
  obtain ⟨i, v⟩ := d
  by_cases hj : j = i
  · subst hj
    rw [bridge, bridge, step_self]
    rcases (issues_step (e j) ((p.moment j).lend p.number) v).issued with same | added
    · exact same ▸ List.Subset.refl _
    · exact added ▸ List.subset_append_left _ _
  · rw [bridge, bridge, step_other e p hj]
    exact List.Subset.refl _

theorem issued_subset_after (e : (i : ι) → Engine (σ i)) (p : Process σ) (ds : List (Deed σ)) (j : ι) :
    (p.bridge j).issued ⊆ ((p.after e ds).bridge j).issued := by
  induction ds generalizing p with
  | nil => exact List.Subset.refl _
  | cons d ds ih => exact List.Subset.trans (issued_subset_step e p d j) (ih (p.step e d))

/-- No id was issued by two bridges, whatever their stems are. -/
theorem Apart.disjoint (h : Apart e config first ds p) (hij : i ≠ j) :
    (p.bridge i).issued.Disjoint (p.bridge j).issued := by
  intro id hi hj
  obtain ⟨n, -, rfl⟩ := h.numbered hi
  obtain ⟨m, -, hid⟩ := h.numbered hj
  have stems := (InvocationId.issue_eq_iff.1 hid).1
  exact hij (h.owner n i j hi (stems ▸ hj))

end Process

/-- A signal for an id that a bridge never issued finds nothing there, sent or posted. -/
theorem Ledger.signal_of_not_issued {σ : Type} {b : Bridge σ} (h : Ledger b) {s : Signal} (hs : s.id ∉ b.issued) :
    b.signal s = (.unmatched, b) ∧
      ∀ raw, Message.parse raw = .ok (.signal s) → b.post raw = (.unmatched, b) := by
  have absent : s.id ∉ b.table.pending := fun hp => hs ((h.pending_iff s.id).1 hp).1
  have unmatched : b.signal s = (.unmatched, b) := by
    simp [Bridge.signal, absent, resolve_of_not_pending absent]
  refine ⟨unmatched, fun raw hraw => ?_⟩
  simpa [Bridge.post, hraw] using unmatched

end ScriptHost
