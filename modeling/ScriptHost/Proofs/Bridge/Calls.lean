import ScriptHost.Proofs.Bridge.Run
/-!
Calls are runs.

Each operation of a caller, from a poll to a wait in which the engine thread works on, takes a bridge at
rest to a bridge at rest in some run (`Leads`).
-/

namespace ScriptHost.Bridge

variable {σ α : Type} {e : Engine σ} {b b' b'' : Bridge σ}

/-- Some run takes a bridge at rest to another one at rest. -/
def Leads (e : Engine σ) (b b' : Bridge σ) : Prop := ∃ vs, (⟨b, .idle⟩ : Moment σ).after e vs = ⟨b', .idle⟩

namespace Leads

theorem refl (e : Engine σ) (b : Bridge σ) : Leads e b b := ⟨[], rfl⟩

theorem trans (h : Leads e b b') (h' : Leads e b' b'') : Leads e b b'' := by
  obtain ⟨vs, hv⟩ := h
  obtain ⟨ws, hw⟩ := h'
  exact ⟨vs ++ ws, by rw [Moment.after_append, hv, hw]⟩

theorem move (e : Engine σ) (b : Bridge σ) (v : Move σ) (hv : v ≠ .advance) : Leads e b (b.move v) :=
  ⟨[v], Moment.step_of_ne e ⟨b, .idle⟩ hv⟩

theorem perform (e : Engine σ) (b : Bridge σ) (a : Act) : Leads e b (b.perform a).2 := move e b (.act a) nofun

theorem run (e : Engine σ) (c : Conduct α) (b : Bridge σ) : Leads e b (b.run c).2 := by
  induction c generalizing b with
  | done a => exact refl e b
  | act a next ih => exact (perform e b a).trans (ih _ _)

theorem settle (e : Engine σ) (patience : Nat) (b : Bridge σ) : Leads e b (b.settle e patience) := by
  obtain ⟨n, hn⟩ := Moment.after_settle e patience b
  exact ⟨Moment.alone n, hn⟩

theorem dispatch (e : Engine σ) (b : Bridge σ) (source : String) (held : Bool) :
    Leads e b (b.dispatch source held).2 := by
  cases held
  · exact perform e b (.invoke source)
  · exact move e b (.block source) nofun

theorem drop (e : Engine σ) (b : Bridge σ) (id : InvocationId) : Leads e b (b.drop id) := perform e b (.release id)

theorem release (e : Engine σ) (b : Bridge σ) (id : InvocationId) : Leads e b (b.release id) :=
  move e b (.expire id 0) nofun

theorem poll (e : Engine σ) (b : Bridge σ) (id : InvocationId) : Leads e b (b.poll id).2 := move e b (.poll id) nofun

theorem elapse (e : Engine σ) (patience : Nat) (due : Bool) (b : Bridge σ) :
    Leads e b (b.elapse e patience due) := by
  unfold Bridge.elapse
  split
  · exact (move e b .deadline nofun).trans (settle e patience _)
  · exact refl e b

theorem waitTimeout (e : Engine σ) (patience : Nat) (due : Bool) (id : InvocationId) (ms : Nat) (b : Bridge σ) :
    Leads e b (b.waitTimeout e patience due id ms).2 := by
  have held : Leads e b (b.hold id) := move e b (.hold id) nofun
  unfold Bridge.waitTimeout
  split
  · rename_i o b₁ hp
    have polled := held.trans (poll e (b.hold id) id)
    rwa [hp] at polled
  · rename_i b₁ hp
    have polled := held.trans (poll e (b.hold id) id)
    rw [hp] at polled
    have elapsed := polled.trans (elapse e patience due b₁)
    have again := elapsed.trans (poll e (b₁.elapse e patience due) id)
    split
    · rename_i o b₂ hp'
      rwa [hp'] at again
    · rename_i b₂ hp'
      rw [hp'] at again
      exact again.trans (release e b₂ id)

theorem receive (e : Engine σ) (patience : Nat) (due : Bool) (id : InvocationId) (b : Bridge σ) :
    Leads e b (b.receive e patience due id).2 := by
  unfold Bridge.receive
  split
  · exact refl e b
  · exact elapse e patience due b

theorem await (e : Engine σ) (patience : Nat) (due : Bool) (id : InvocationId) (ms : Nat) (b : Bridge σ) :
    Leads e b (b.await e patience due id ms).2 := by
  have received := receive e patience due id b
  unfold Bridge.await
  split
  · rename_i o b₁ hr
    rw [hr] at received
    exact received.trans (release e b₁ id)
  · rename_i b₁ hr
    rw [hr] at received
    exact received.trans (release e b₁ id)

theorem invokeBlocking (e : Engine σ) (patience : Nat) (due : Bool) (caller : Caller) (source : String)
    (ms : Nat) (b : Bridge σ) : Leads e b (b.invokeBlocking e patience due caller source ms).2 := by
  cases caller
  · exact refl e b
  · exact ((dispatch e b source true).trans (settle e patience _)).trans (await e patience due _ ms _)

theorem invokeBlockingAs (read : Json → Except String α) (e : Engine σ) (patience : Nat) (due : Bool)
    (caller : Caller) (source : String) (ms : Nat) (b : Bridge σ) :
    Leads e b (b.invokeBlockingAs read e patience due caller source ms).2 :=
  invokeBlocking e patience due caller source ms b

theorem invokeEach (e : Engine σ) (held : Bool) (sources : List String) (b : Bridge σ) :
    Leads e b (Bridge.invokeEach held sources b).2 := by
  induction sources generalizing b with
  | nil => exact refl e b
  | cons s ss ih => exact (dispatch e b s held).trans (ih _)

theorem awaitEach (e : Engine σ) (patience : Nat) (due : Bool) (ms : Nat) (ids : List InvocationId)
    (b : Bridge σ) : Leads e b (Bridge.awaitEach e patience due ms ids b).2 := by
  induction ids generalizing b with
  | nil => exact refl e b
  | cons id ids ih => exact (await e patience due id ms b).trans (ih _)

theorem dropEach (e : Engine σ) (ids : List InvocationId) (b : Bridge σ) : Leads e b (ids.foldl Bridge.drop b) := by
  induction ids generalizing b with
  | nil => exact refl e b
  | cons id ids ih => exact (drop e b id).trans (ih _)

theorem decode (e : Engine σ) (read : Json → Except String α) (id : InvocationId) (b : Bridge σ) :
    Leads e b (b.decode read id).2 := by
  have polled := poll e b id
  unfold Bridge.decode
  split
  · rename_i o b₁ hp
    rwa [hp] at polled
  · rename_i b₁ hp
    rw [hp] at polled
    exact polled.trans (drop e b₁ id)

theorem invokeAs (read : Json → Except String α) (e : Engine σ) (patience : Nat) (due : Bool) (source : String)
    (b : Bridge σ) : Leads e b (b.invokeAs read e patience due source).2 :=
  ((dispatch e b source true).trans (settle e patience _)).trans (waitTimeout e patience due _ _ _)

theorem waitReady (e : Engine σ) (patience : Nat) (due : Bool) (ms : Nat) (b : Bridge σ) :
    Leads e b (b.waitReady e patience due ms).2 := by
  unfold Bridge.waitReady
  split
  · exact refl e b
  · dsimp only
    split <;> exact elapse e patience due b

theorem shutdown (e : Engine σ) (patience : Nat) (b : Bridge σ) : Leads e b (b.shutdown e patience) :=
  (perform e b .shutdown).trans (settle e patience _)

theorem lend (e : Engine σ) (b : Bridge σ) (f : σ → σ) {number : Nat} (h : b.number ≤ number) :
    Leads e b { b with number, engine := b.engine.map f } := by
  have numbered := move e b (.elsewhere (number - b.number)) nofun
  have shared := numbered.trans (move e _ (.share f) nofun)
  have same : b.number + (number - b.number) = number := by omega
  simpa [Bridge.move, same] using shared

end Leads

/-! ## Numbers only grow -/

theorem number_outer (h : b.Outer b') : b.number ≤ b'.number := by
  cases h with
  | dispatch source held =>
    rcases dispatch_cases b source held with ⟨o, e⟩ | ⟨-, -, e⟩ <;> rw [e] <;> exact Nat.le_succ _
  | elsewhere n => exact Nat.le_add_right _ _
  | same | resolve | release | hold | openGate | cancel | pass | share => exact Nat.le_refl _

theorem number_stride {m m' : Moment σ} (h : Stride e m m') : m.bridge.number ≤ m'.bridge.number := by
  cases h with
  | actInBuild ha | actInWrapping ha | actInEvaluation ha => exact number_outer ha.outer
  | endBuild b r => rcases r with (f | text) | s <;> exact Nat.le_refl _
  | @close b => exact close_keeps (I := fun b' => b.number ≤ b'.number) (fun _ _ h => h) b (Nat.le_refl _)
  | skip hn | refuse hn | handOver hn => rw [next?_eq hn]; exact Nat.le_refl _
  | endEvaluation b c r =>
    obtain ⟨s, (a | u)⟩ := r <;> exact Nat.le_refl _
  | rest | beginBuild | drain | park | defer | serve | failWrapping | endWrapping => exact Nat.le_refl _

theorem Leads.number (h : Leads e b b') : b.number ≤ b'.number := by
  obtain ⟨vs, hv⟩ := h
  have grows : b.number ≤ ((⟨b, .idle⟩ : Moment σ).after e vs).bridge.number :=
    Moment.after_keeps (I := fun m => b.number ≤ m.bridge.number) (fun _ _ ho h => Nat.le_trans h (number_outer ho))
      (fun _ _ hs h => Nat.le_trans h (number_stride hs)) (Nat.le_refl _) vs
  rwa [hv] at grows

end ScriptHost.Bridge
