import ScriptHost.Proofs.Bridge.Custody
/-!
What opens the gate.

Engines, hosts, a factory that fails and the deadline all give reasons for opening the gate, in any order.
`Moment.triggers` lists them for a run. The gate is what the first of them made it (`gate_after`), so the
first reason decides about every turn there ever is.
-/

namespace ScriptHost

open Bridge

variable {σ : Type} {e : Engine σ} {b b' : Bridge σ} {m m' : Moment σ} {c : Command} {r : Readiness}

/-! ## Triggers -/

/-- The reason for opening the gate that a lifecycle message gives. -/
def Lifecycle.trigger : Lifecycle → Readiness
  | ready => .signalled
  | initError reason => .initFailed reason

/-- The reason for opening the gate that an act gives, if it gives one. -/
def Act.trigger? : Act → Option Readiness
  | ready => some .signalled
  | initFailed reason => some (.initFailed reason)
  | post raw =>
    match Message.parse raw with
    | .ok (.lifecycle l) => some l.trigger
    | _ => none
  | _ => none

/-- The reason that the engine thread's next move gives: it performs an act of the engine, or finds that
the factory failed. -/
def Work.trigger? : Work σ → Option Readiness
  | building (.done (.error (.failed f))) => some (.initFailed f.message)
  | building (.act a _) | wrapping _ (.act a _) | evaluating _ (.act a _) => a.trigger?
  | _ => none

namespace Moment

/-- The reason for opening the gate that a move gives. The deadline counts while the thread waits for the gate. -/
def trigger? (m : Moment σ) : Move σ → Option Readiness
  | .advance => m.work.trigger?
  | .act a => a.trigger?
  | .deadline => if m.bridge.phase = .parked ∧ !m.bridge.cancelled then some .bootstrapTimeout else none
  | _ => none

/-- The reasons that the moves of a run give, in order. -/
def triggers (e : Engine σ) (m : Moment σ) : List (Move σ) → List Readiness
  | [] => []
  | v :: vs => (m.trigger? v).toList ++ (m.step e v).triggers e vs

end Moment

/-- The reason for which the gate was opened. -/
@[simp] def Event.opening? : Event → Option Readiness
  | opened r => some r
  | _ => none

/-- The openings of the gate. -/
abbrev Bridge.openings (b : Bridge σ) : List Readiness := b.record Event.opening?

/-! ## One move -/

/-- The gate and the record of its openings after one reason or none. -/
structure Bridge.Offered (t : Option Readiness) (b b' : Bridge σ) : Prop where
  gate : b'.gate = t.elim b.gate fun r => (b.gate.trigger r).1
  openings : b'.openings = b.openings ++ t.toList.filter fun _ => !b.gate.isReady

namespace Bridge

theorem offered_none (hg : b'.gate = b.gate) (ho : b'.openings = b.openings) : Offered none b b' :=
  ⟨hg, by simpa using ho⟩

theorem offered_openGate (b : Bridge σ) (r : Readiness) : Offered (some r) b (b.openGate r).2 := by
  constructor
  · rfl
  · cases hg : b.gate <;> simp [hg, Gate.isReady]

theorem offered_dispatch (b : Bridge σ) (source : String) (held : Bool) :
    Offered none b (b.dispatch source held).2 := by
  rcases dispatch_cases b source held with ⟨o, e⟩ | ⟨-, -, e⟩
  · rw [e]
    exact offered_none rfl (by simp)
  · rw [e]
    exact offered_none rfl (by simp)

theorem offered_post (b : Bridge σ) (raw : String) : Offered (Act.post raw).trigger? b (b.post raw).2 := by
  simp only [post, Act.trigger?]
  cases Message.parse raw with
  | error fault => exact offered_none rfl rfl
  | ok message =>
    cases message with
    | signal s => exact offered_none rfl (by simp [signal])
    | lifecycle l =>
      cases l with
      | ready => exact offered_openGate b .signalled
      | initError reason => exact offered_openGate b (.initFailed reason)

theorem offered_perform (b : Bridge σ) (a : Act) : Offered a.trigger? b (b.perform a).2 := by
  cases a with
  | signal s => exact offered_none rfl (by simp [perform, signal])
  | post raw => exact offered_post b raw
  | ready => exact offered_openGate b .signalled
  | initFailed reason => exact offered_openGate b (.initFailed reason)
  | invoke source => exact offered_dispatch b source false
  | release id =>
    simp only [perform, drop]
    split
    · exact offered_none rfl rfl
    · exact offered_none rfl (by simp)
  | invokeBlocking | gate | onEngineThread | shutdown => exact offered_none rfl rfl

theorem offered_move (m : Moment σ) {v : Move σ} (hv : v ≠ .advance) :
    Offered (m.trigger? v) m.bridge (m.bridge.move v) := by
  cases v with
  | advance => exact absurd rfl hv
  | act a => exact offered_perform m.bridge a
  | block source => exact offered_dispatch m.bridge source true
  | poll id =>
    simp only [move, poll, Moment.trigger?]
    split
    · exact offered_none rfl (by simp)
    · exact offered_none rfl rfl
  | expire id ms => exact offered_none rfl (by simp [move, expire])
  | deadline =>
    simp only [move, deadline, Moment.trigger?]
    split
    · exact offered_openGate m.bridge .bootstrapTimeout
    · exact offered_none rfl rfl
  | hold | pass | elsewhere | share => exact offered_none rfl rfl

theorem offered_built (b : Bridge σ) (r : Except Abort σ) :
    Offered (Work.building (.done r)).trigger? b (b.built r) := by
  rcases r with (f | text) | s
  · have opened := offered_openGate b (.initFailed f.message)
    exact ⟨opened.gate, (record_note_aside rfl _).trans opened.openings⟩
  · exact offered_none rfl (record_note_aside rfl _)
  · exact offered_none rfl (record_note_aside rfl _)

theorem offered_returned (b : Bridge σ) (c : Command) (r : σ × Except Abort Unit) :
    Offered none b (b.returned c r) := by
  obtain ⟨s, (a | u)⟩ := r
  · refine offered_none rfl ?_
    simp only [returned, record_resolve, record_note, Event.opening?, Option.toList_none, ite_self,
      List.append_nil]
    rfl
  · exact offered_none rfl (record_note_aside rfl _)

theorem offered_close (b : Bridge σ) : Offered none b b.close := by
  have kept : b.close.gate = b.gate ∧ b.close.openings = b.openings := by
    refine close_keeps (I := fun b' => b'.gate = b.gate ∧ b'.openings = b.openings) ?_ b ⟨rfl, rfl⟩
    intro b' id h
    exact ⟨h.1, by simp [h.2]⟩
  exact offered_none kept.1 kept.2

theorem offered_next (hn : b.next? = some (c, b')) : Offered none b (b'.note (.taken c)) := by
  refine offered_none ?_ (by simp [record_next _ hn])
  rw [next?_eq hn]
  rfl

/-- A thread that is not in the middle of something gives no reason. -/
theorem offered_idle (hs : Stride e ⟨b, .idle⟩ m') : Offered none b m'.bridge := by
  cases hs with
  | rest | beginBuild | drain | park | defer | serve => exact offered_none rfl rfl
  | close => exact offered_close b
  | skip hn => exact offered_next hn
  | refuse hn =>
    have turn := offered_next hn
    exact offered_none turn.gate (by simpa using turn.openings)
  | handOver hn =>
    have turn := offered_next hn
    exact offered_none turn.gate (by simpa using turn.openings)

end Bridge

namespace Moment

theorem offered_advance (e : Engine σ) (m : Moment σ) :
    Offered m.work.trigger? m.bridge (m.advance e).bridge := by
  obtain ⟨b, work⟩ := m
  cases work with
  | idle => exact offered_idle (stride_advance e ⟨b, .idle⟩)
  | building rest =>
    cases rest with
    | done r => exact offered_built b r
    | act a next => exact offered_perform b a
  | wrapping c rest =>
    rcases rest with ⟨s, (a | program)⟩ | ⟨a, next⟩
    · exact offered_returned b c (s, .error a)
    · exact offered_none rfl (record_note_aside rfl b)
    · exact offered_perform b a
  | evaluating c rest =>
    cases rest with
    | done r => exact offered_returned b c r
    | act a next => exact offered_perform b a

theorem offered_step (e : Engine σ) (m : Moment σ) (v : Move σ) :
    Offered (m.trigger? v) m.bridge (m.step e v).bridge := by
  by_cases hv : v = .advance
  · subst hv
    exact offered_advance e m
  · rw [step_of_ne e m hv]
    exact offered_move m hv

/-! ## Runs -/

/-- An open gate stays as it is. -/
theorem gate_of_open (e : Engine σ) {m : Moment σ} (hg : m.bridge.gate = .ready r) (vs : List (Move σ)) :
    (m.after e vs).bridge.gate = .ready r ∧ (m.after e vs).bridge.openings = m.bridge.openings := by
  induction vs generalizing m with
  | nil => exact ⟨hg, rfl⟩
  | cons v vs ih =>
    obtain ⟨gate, openings⟩ := offered_step e m v
    have still : (m.step e v).bridge.gate = .ready r := by
      rw [gate, hg]
      cases m.trigger? v <;> rfl
    obtain ⟨later, same⟩ := ih still
    refine ⟨later, same.trans ?_⟩
    rw [openings, hg]
    simp [Gate.isReady]

/-- A closed gate is opened by the first reason that is given. -/
theorem gate_of_closed (e : Engine σ) {m : Moment σ} (hg : m.bridge.gate = .initializing) (vs : List (Move σ)) :
    (m.after e vs).bridge.gate = (m.triggers e vs).head?.elim .initializing .ready ∧
      (m.after e vs).bridge.openings = m.bridge.openings ++ (m.triggers e vs).take 1 := by
  induction vs generalizing m with
  | nil => simp [triggers, hg]
  | cons v vs ih =>
    obtain ⟨gate, openings⟩ := offered_step e m v
    rw [hg] at gate openings
    cases ht : m.trigger? v with
    | none =>
      have closed : (m.step e v).bridge.gate = .initializing := by rw [gate, ht]; rfl
      obtain ⟨later, recorded⟩ := ih closed
      have same : (m.step e v).bridge.openings = m.bridge.openings := by rw [openings, ht]; simp
      simp only [triggers, ht, Option.toList_none, List.nil_append, after_cons]
      exact ⟨later, recorded.trans (by rw [same])⟩
    | some r =>
      have opened : (m.step e v).bridge.gate = .ready r := by rw [gate, ht]; rfl
      obtain ⟨later, recorded⟩ := gate_of_open e opened vs
      have one : (m.step e v).bridge.openings = m.bridge.openings ++ [r] := by
        rw [openings, ht]
        simp [Gate.isReady]
      simp only [triggers, ht, Option.toList_some, List.singleton_append, after_cons]
      exact ⟨later, recorded.trans one⟩

end Moment

/-! ## What triggers report -/

namespace Bridge

theorem openGate_reports (b : Bridge σ) (r : Readiness) : (b.openGate r).1 = !b.gate.isReady := by
  cases hg : b.gate <;> simp [openGate, hg, Gate.isReady]

theorem openGate_of_open (hg : b.gate = .ready r) (r' : Readiness) : b.openGate r' = (false, b) := by
  obtain ⟨config, table, gate, phase, deferred, queue, cancelled, engine, journal, number⟩ := b
  cases hg
  rfl

theorem post_lifecycle {raw : String} {l : Lifecycle} (hm : Message.parse raw = .ok (.lifecycle l)) (b : Bridge σ) :
    b.post raw = (.lifecycle (b.openGate l.trigger).1, (b.openGate l.trigger).2) := by
  cases l <;> simp only [post, hm] <;> rfl

/-- Whoever gives a reason is told whether the gate was closed before. -/
theorem reports (b : Bridge σ) : b.ready.1 = .lifecycle (!b.gate.isReady) ∧
    (∀ reason, (b.initFailed reason).1 = .lifecycle (!b.gate.isReady)) ∧
    ∀ raw l, Message.parse raw = .ok (.lifecycle l) → (b.post raw).1 = .lifecycle (!b.gate.isReady) := by
  refine ⟨?_, ?_, ?_⟩
  · rw [← openGate_reports b .signalled]
    rfl
  · intro reason
    rw [← openGate_reports b (.initFailed reason)]
    rfl
  · intro raw l hm
    rw [post_lifecycle hm, openGate_reports]

/-- Behind an open gate a reason does nothing. -/
theorem open_ignores (hg : b.gate = .ready r) : b.ready.2 = b ∧ (∀ reason, (b.initFailed reason).2 = b) ∧
    (∀ raw l, Message.parse raw = .ok (.lifecycle l) → (b.post raw).2 = b) ∧ b.deadline = b ∧
    ∀ f, b.built (.error (.failed f)) = b.bootstrap.note (.built (.error (.failed f))) := by
  have same : ∀ r', b.openGate r' = (false, b) := openGate_of_open hg
  refine ⟨?_, ?_, ?_, ?_, ?_⟩
  · exact congrArg Prod.snd (same .signalled)
  · intro reason
    exact congrArg Prod.snd (same (.initFailed reason))
  · intro raw l hm
    rw [post_lifecycle hm, same]
  · simp [deadline, same]
  · intro f
    simp [built, same]

end Bridge

/-! ## Turns without an engine -/

/-- Why the engine does not get a command whose turn it is. -/
def Bridge.refusal? (b : Bridge σ) : Option Failure :=
  match b.gate, b.engine with
  | .ready (.initFailed reason), _ => some (.initFailed reason)
  | _, none => some .unavailable
  | _, some _ => none

theorem Bridge.refusal?_of_initFailed {reason : String} (hg : b.gate = .ready (.initFailed reason)) :
    b.refusal? = some (.initFailed reason) := by
  simp [refusal?, hg]

theorem Bridge.refusal?_of_signalled (hg : b.gate = .ready .signalled) (he : b.engine = none) :
    b.refusal? = some .unavailable := by
  simp [refusal?, hg, he]

theorem Bridge.turn_of_refusal (e : Engine σ) (hp : c.id ∈ b.table.pending) {f : Failure}
    (hf : b.refusal? = some f) : b.turn e c = .step ((b.note (.taken c)).resolve c.id (.error f)) := by
  have pending : (b.note (.taken c)).table.isPending c.id = true := Table.isPending_iff.2 hp
  simp only [turn, pending, Bool.not_true, Bool.false_eq_true, if_false]
  unfold refusal? at hf
  split
  · rename_i reason hg
    change b.gate = _ at hg
    simp only [hg, Option.some.injEq] at hf
    rw [hf]
  · rename_i he hg
    change b.engine = none at he
    split at hf
    · rename_i reason hr
      exact absurd hr (hg reason)
    · rw [Option.some.inj hf]
    · cases hf
  · rename_i s hs hg
    change b.engine = some s at hs
    split at hf
    · rename_i reason hr
      exact absurd hr (hg reason)
    · simp_all
    · cases hf

namespace Moment

/-- A pending command that the engine does not get is resolved with the reason in its turn. -/
theorem resolutions_of_refusal (e : Engine σ) (ht : m.turn? = some c) (hp : c.id ∈ m.bridge.table.pending)
    {f : Failure} (hf : m.bridge.refusal? = some f) :
    (m.advance e).bridge.resolutions = m.bridge.resolutions ++ [(c.id, .error f)] := by
  obtain ⟨b, work⟩ := m
  obtain ⟨rfl, b', hn⟩ := next_of_turn ht
  have same := next?_eq hn
  have pending : c.id ∈ b'.table.pending := by
    rw [same]
    exact hp
  have refused : b'.refusal? = some f := by
    rw [same]
    exact hf
  rw [advance_idle, task_of_next hn, turn_of_refusal e pending refused]
  have waiting : c.id ∈ (b'.note (.taken c)).table.pending := pending
  simp [Task.moment, waiting, record_next _ hn]

/-- The engine makes its states in its factory only: once it has one, it has one for ever. -/
theorem engine_isSome_after (e : Engine σ) (config : Config) (number : Nat) (vs ws : List (Move σ))
    (h : ((start config number).after e vs).bridge.engine.isSome) :
    ((start config number).after e (vs ++ ws)).bridge.engine.isSome := by
  have made := (queues_after e config number vs).2.engine_iff.1 h
  have grows := record_after Event.built? e ((start config number).after e vs) ws
  rw [← after_append] at grows
  exact (queues_after e config number (vs ++ ws)).2.engine_iff.2 (grows.subset made)

end Moment

/-- In a run, whatever command's turn comes while the command is pending, it fails, and in the same way. -/
def Refuses (run : List (Move σ) → Moment σ) (us : List (Move σ)) (f : Failure) : Prop :=
  ∀ c us₁ us₂, us = us₁ ++ .advance :: us₂ → (run us₁).turn? = some c →
    (run us₁).bridge.table.isPending c.id →
      (c.id, .error f) ∈ (run us).bridge.resolutions ∧
        ∀ w ∈ (run us).bridge.table.waiters, w.id = c.id → w.outcome = some (.error f)

/-- The engine was given nothing, and has nothing. -/
def Moment.Untouched (m : Moment σ) : Prop :=
  m.bridge.handed = [] ∧ m.bridge.wrapped = [] ∧ m.work.command? = none

theorem refuses_of_refusal (e : Engine σ) (config : Config) (number : Nat) (us : List (Move σ)) (f : Failure)
    (h : ∀ us₁ us₂, us = us₁ ++ us₂ → ((Moment.start config number).after e us₁).bridge.gate.isReady →
      ((Moment.start config number).after e us₁).bridge.refusal? = some f) :
    Refuses ((Moment.start config number).after e) us f := by
  intro c us₁ us₂ hus ht hp
  have opened : ((Moment.start config number).after e us₁).bridge.gate.isReady := by
    obtain ⟨hw, b, hn⟩ := Moment.next_of_turn ht
    exact (queues_after e config number us₁).2.opened (taking_of_next? hn)
  have refused := Moment.resolutions_of_refusal e ht (Table.isPending_iff.1 hp) (h us₁ _ hus opened)
  have recorded := Moment.record_after Event.resolution? e (((Moment.start config number).after e us₁).advance e) us₂
  have same : (((Moment.start config number).after e us₁).advance e).after e us₂ =
      (Moment.start config number).after e us := by
    rw [hus, Moment.after_append]
    rfl
  rw [same] at recorded
  have resolved : (c.id, .error f) ∈ ((Moment.start config number).after e us).bridge.resolutions := by
    apply recorded.subset
    simp [refused]
  refine ⟨resolved, ?_⟩
  intro w hw hi
  have ledger := ledger_after e config number us
  exact (ledger.given_iff w hw _).2 (hi ▸ resolved)

theorem untouched_of_refusal (e : Engine σ) (config : Config) (number : Nat) (vs : List (Move σ))
    (h : (∃ reason, ((Moment.start config number).after e vs).bridge.gate = .ready (.initFailed reason)) ∨
      ((Moment.start config number).after e vs).bridge.engine.isSome = false) :
    ((Moment.start config number).after e vs).Untouched := by
  have ready := (queues_after e config number vs).2
  have custody := custody_after e config number vs
  have handed : ((Moment.start config number).after e vs).bridge.handed = [] := by
    apply List.eq_nil_iff_forall_not_mem.2
    intro c hc
    obtain ⟨⟨r, hr, admitted⟩, some⟩ := ready.handed c hc
    rcases h with ⟨reason, hg⟩ | none
    · exact admitted reason (Gate.ready.inj (hr.symm.trans hg))
    · simp [none] at some
  refine ⟨handed, ?_, ?_⟩
  · apply List.eq_nil_iff_forall_not_mem.2
    intro c hc
    have := custody.wrapped_handed c hc
    simp [handed] at this
  · apply Option.eq_none_iff_forall_ne_some.2
    intro c hc
    have := custody.handed c hc
    simp [handed] at this

/-- A gate that was open in the course of a run was open for the reason for which it is at the end. -/
theorem Moment.gate_before {us₁ us₂ : List (Move σ)} (hr : (m.after e (us₁ ++ us₂)).bridge.gate = .ready r)
    (opened : (m.after e us₁).bridge.gate.isReady) : (m.after e us₁).bridge.gate = .ready r := by
  cases hg : (m.after e us₁).bridge.gate with
  | initializing => simp [hg, Gate.isReady] at opened
  | ready r' =>
    have at_end := (gate_of_open e hg us₂).1
    rw [← after_append] at at_end
    exact at_end.symm.trans hr

/-- An engine that did not come up is given nothing. -/
theorem refuses_of_initFailed (e : Engine σ) (config : Config) (number : Nat) (us : List (Move σ)) {reason : String}
    (hr : ((Moment.start config number).after e us).bridge.gate = .ready (.initFailed reason)) :
    ((Moment.start config number).after e us).Untouched ∧
      Refuses ((Moment.start config number).after e) us (.initFailed reason) := by
  refine ⟨untouched_of_refusal e config number us (.inl ⟨reason, hr⟩), ?_⟩
  apply refuses_of_refusal
  rintro us₁ us₂ rfl opened
  exact refusal?_of_initFailed (Moment.gate_before hr opened)

/-- Nothing is given to an engine that there is not. -/
theorem refuses_of_signalled (e : Engine σ) (config : Config) (number : Nat) (us : List (Move σ))
    (hr : ((Moment.start config number).after e us).bridge.gate = .ready .signalled)
    (none_later : ¬ ((Moment.start config number).after e us).bridge.engine.isSome) :
    ((Moment.start config number).after e us).Untouched ∧
      Refuses ((Moment.start config number).after e) us .unavailable := by
  refine ⟨untouched_of_refusal e config number us (.inr (by simpa using none_later)), ?_⟩
  apply refuses_of_refusal
  rintro us₁ us₂ rfl opened
  refine refusal?_of_signalled (Moment.gate_before hr opened) ?_
  -- An engine that there was then would still be there.
  have none_then : ¬ ((Moment.start config number).after e us₁).bridge.engine.isSome := fun some =>
    none_later (Moment.engine_isSome_after e config number us₁ us₂ some)
  simpa using none_then

/-- In every run the first trigger opens the gate and counts for ever: the gate is what that trigger made it, each
trigger reports whether it is the first and does nothing otherwise, and all who wait for the gate are told the first
one's reason. Where it is that the engine did not come up, the engine is given nothing, and each command fails with
that reason in its turn. So it does where the factory failed behind an open gate, since there is no engine then. -/
theorem first_trigger_governs (e : Engine σ) (config : Config) (number : Nat) (vs ws : List (Move σ)) :
    let run := (Moment.start config number : Moment σ).after e
    let triggers := (Moment.start config number : Moment σ).triggers e
    let b := (run vs).bridge
    let later := (run (vs ++ ws)).bridge
    (b.gate = .initializing ↔ triggers vs = []) ∧
    (∀ r, b.gate = .ready r ↔ (triggers vs).head? = some r) ∧ b.openings = (triggers vs).take 1 ∧
    (b.ready.1 = .lifecycle (triggers vs).isEmpty ∧
      (∀ reason, (b.initFailed reason).1 = .lifecycle (triggers vs).isEmpty) ∧
      ∀ raw l, Message.parse raw = .ok (.lifecycle l) → (b.post raw).1 = .lifecycle (triggers vs).isEmpty) ∧
    (triggers vs ≠ [] → b.ready.2 = b ∧ (∀ reason, (b.initFailed reason).2 = b) ∧
      (∀ raw l, Message.parse raw = .ok (.lifecycle l) → (b.post raw).2 = b) ∧ b.deadline = b ∧
      ∀ f, b.built (.error (.failed f)) = b.bootstrap.note (.built (.error (.failed f)))) ∧
    (∀ r, b.gate = .ready r → later.gate = .ready r ∧
      ∀ patience due ms, later.waitReady e patience due ms = (.ok r, later)) ∧
    (∀ reason, b.gate = .ready (.initFailed reason) → (run (vs ++ ws)).Untouched ∧
      Refuses run (vs ++ ws) (.transport s!"engine failed to initialize: {reason}")) ∧
    (∀ f, b.gate = .ready .signalled → .error (.failed f) ∈ b.factory → (run (vs ++ ws)).Untouched ∧
      Refuses run (vs ++ ws) (.transport "engine unavailable")) := by
  intro run triggers b later
  obtain ⟨gate, openings⟩ := Moment.gate_of_closed e (m := Moment.start config number) rfl vs
  change b.gate = (triggers vs).head?.elim .initializing .ready at gate
  change b.openings = [] ++ (triggers vs).take 1 at openings
  have stays : ∀ r, b.gate = .ready r → later.gate = .ready r := by
    intro r hr
    have kept := (Moment.gate_of_open e hr ws).1
    rwa [← Moment.after_append] at kept
  have first : (triggers vs).isEmpty = !b.gate.isReady := by
    rw [gate]
    cases triggers vs <;> rfl
  refine ⟨?_, ?_, openings, first ▸ b.reports, ?_, ?_, ?_, ?_⟩
  · cases ht : triggers vs <;> simp [gate, ht]
  · intro r
    cases ht : triggers vs <;> simp [gate, ht]
  · intro some_before
    cases ht : triggers vs with
    | nil => exact absurd ht some_before
    | cons r rs => exact open_ignores (r := r) (by simp [gate, ht])
  · intro r hr
    refine ⟨stays r hr, ?_⟩
    intro patience due ms
    simp [waitReady, stays r hr]
  · intro reason hr
    exact refuses_of_initFailed e config number (vs ++ ws) (stays _ hr)
  · intro f hr failed
    apply refuses_of_signalled e config number (vs ++ ws) (stays _ hr)
    have grows := Moment.record_after Event.built? e (run vs) ws
    rw [← Moment.after_append] at grows
    exact (queues_after e config number (vs ++ ws)).2.not_some_of_failed (grows.subset failed)

end ScriptHost
