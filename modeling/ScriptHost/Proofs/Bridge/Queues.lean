import ScriptHost.Proofs.Bridge.Ledger
/-!
The queues and the gate.

What was sent to the engine thread had its turn, is held back or is in the queue, in this order
(`Queues`), whenever the gate opens and whoever sends meanwhile. The engine has a command only behind a
gate that admits it (`Readied`).
-/

namespace ScriptHost

open Bridge

variable {σ α : Type} {e : Engine σ} {b b' : Bridge σ} {m m' : Moment σ} {c : Command}

namespace Event

/-! ## What the engine thread records -/

/-- A heading under which only the engine thread records. -/
def OfWork (f : Event → Option α) : Prop := ∀ v, v.isWork = false → f v = none

theorem taken_ofWork : OfWork taken? := fun v h => by cases v <;> first | rfl | cases h

theorem handed_ofWork : OfWork handed? := fun v h => by cases v <;> first | rfl | cases h

theorem wrapped_ofWork : OfWork wrapped? := fun v h => by cases v <;> first | rfl | cases h

theorem accepted_ofWork : OfWork accepted? := fun v h => by cases v <;> first | rfl | cases h

theorem finished_ofWork : OfWork finished? := fun v h => by cases v <;> first | rfl | cases h

theorem built_ofWork : OfWork built? := fun v h => by cases v <;> first | rfl | cases h

end Event

namespace Bridge

theorem record_outer {f : Event → Option α} (hf : Event.OfWork f) (ho : b.Outer b') :
    b'.record f = b.record f := by
  cases ho with
  | dispatch source held =>
    rcases dispatch_cases b source held with ⟨o, e⟩ | ⟨-, -, e⟩ <;> rw [e]
    · simp [hf (.issued b.nextId) rfl, hf (.resolved b.nextId o) rfl]
    · simp [hf (.issued b.nextId) rfl, hf (.sent ⟨b.nextId, source⟩) rfl]
  | resolve id o => simp [hf (.resolved id o) rfl]
  | release id => simp [hf (.discarded id) rfl, hf (.released id) rfl]
  | openGate r => simp [hf (.opened r) rfl]
  | same | hold | cancel | pass | elsewhere | share => rfl

theorem record_next (f : Event → Option α) (hn : b.next? = some (c, b')) : b'.record f = b.record f := by
  rw [next?_eq hn]
  rfl

theorem record_built {f : Event → Option α} (hf : Event.OfWork f) (r : Except Abort σ) :
    (b.built r).record f = b.record f ++ (f (.built (r.map fun _ => ()))).toList := by
  rcases r with (f' | text) | s
  · have opened : (b.openGate (.initFailed f'.message)).2.record f = b.record f := record_outer hf (.openGate b _)
    exact (record_note f _ _).trans (congrArg (· ++ _) opened)
  · exact record_note f _ _
  · exact record_note f _ _

theorem record_returned {f : Event → Option α} (hf : Event.OfWork f) (c : Command)
    (r : σ × Except Abort Unit) : (b.returned c r).record f = b.record f ++ (f (.returned c r.2)).toList := by
  obtain ⟨s, (a | u)⟩ := r
  · exact (record_outer hf (.resolve _ _ _)).trans (record_note f _ _)
  · exact record_note f _ _

theorem record_close {f : Event → Option α} (hf : Event.OfWork f) :
    b.close.record f = b.record f :=
  close_keeps (I := fun b' => b'.record f = b.record f)
    (fun _ id h => (record_outer hf (.resolve _ id _)).trans h) b rfl

/-! ## What nobody else changes -/

/-- The queues as others leave them: nothing is sent, or a fresh command is sent and stands last. -/
theorem queues_outer (ho : b.Outer b') : b'.phase = b.phase ∧ b'.deferred = b.deferred ∧
    (b'.sent = b.sent ∧ b'.queue = b.queue ∧ b.issued.Sublist b'.issued ∨
      ∃ source, encodingFault? source = none ∧ b.phase.isRunning ∧ b'.issued = b.issued ++ [b.nextId] ∧
        b'.sent = b.sent ++ [⟨b.nextId, source⟩] ∧ b'.queue = b.queue ++ [⟨b.nextId, source⟩]) := by
  cases ho with
  | dispatch source held =>
    rcases dispatch_cases b source held with ⟨o, e⟩ | ⟨hf, hr, e⟩ <;> rw [e]
    · exact ⟨rfl, rfl, .inl ⟨by simp, rfl, by simp⟩⟩
    · exact ⟨rfl, rfl, .inr ⟨source, hf, hr, by simp, by simp, rfl⟩⟩
  | resolve | release | openGate => exact ⟨rfl, rfl, .inl ⟨by simp, rfl, by simp⟩⟩
  | same | hold | cancel | pass | elsewhere | share => exact ⟨rfl, rfl, .inl ⟨rfl, rfl, List.Sublist.refl _⟩⟩

end Bridge

/-! ## Turns -/

/-- Whether the thread gives turns to commands. -/
def Phase.isTaking : Phase → Bool
  | draining | serving => true
  | _ => false

theorem Phase.isRunning_of_isTaking {p : Phase} (h : p.isTaking) : p.isRunning := by
  cases p <;> first | rfl | cases h

theorem Bridge.taking_of_next? (hn : b.next? = some (c, b')) : b.phase.isTaking := by
  rcases next?_cases hn with ⟨cs, hp, -⟩ | ⟨cs, hp, -⟩ <;> rw [hp] <;> rfl

/-- What was sent is in order: it had its turn, is held back, or is in the queue. -/
structure Queues (b : Bridge σ) : Prop where
  ids : (b.sent.map (·.id)).Sublist b.issued
  clean : ∀ c ∈ b.sent, encodingFault? c.source = none
  in_order : b.phase.isRunning → b.sent = b.taken ++ b.deferred ++ b.queue
  taken_first : b.taken <+: b.sent
  emptied : b.phase.isRunning = false → b.deferred = [] ∧ b.queue = []
  none_deferred : b.phase = .starting ∨ b.phase = .serving → b.deferred = []

namespace Queues

theorem frame (h : Queues b) (hp : b'.phase = b.phase) (hd : b'.deferred = b.deferred)
    (hq : b'.queue = b.queue) (hs : b'.sent = b.sent) (ht : b'.taken = b.taken)
    (hi : b.issued.Sublist b'.issued) : Queues b' where
  ids := by
    rw [hs]
    exact h.ids.trans hi
  clean := hs ▸ h.clean
  in_order hr := by
    rw [hs, ht, hd, hq]
    exact h.in_order (hp ▸ hr)
  taken_first := by
    rw [hs, ht]
    exact h.taken_first
  emptied hr := by
    rw [hd, hq]
    exact h.emptied (hp ▸ hr)
  none_deferred hs := by
    rw [hd]
    exact h.none_deferred (hp ▸ hs)

theorem outer (h : Queues b) (ho : b.Outer b') : Queues b' := by
  obtain ⟨hp, hd, ⟨hs, hq, hi⟩ | ⟨source, hf, hr, hi, hs, hq⟩⟩ := queues_outer ho
  · exact h.frame hp hd hq hs (record_outer Event.taken_ofWork ho) hi
  · have ht : b'.taken = b.taken := record_outer Event.taken_ofWork ho
    constructor
    · rw [hs, hi, List.map_append]
      exact h.ids.append (List.Sublist.refl _)
    · intro c hc
      rw [hs, List.mem_append, List.mem_singleton] at hc
      rcases hc with hc | rfl
      · exact h.clean c hc
      · exact hf
    · intro _
      rw [hs, ht, hd, hq, h.in_order hr, List.append_assoc _ b.queue]
    · rw [hs, ht]
      exact h.taken_first.trans (List.prefix_append _ _)
    · intro hn
      rw [hp, hr] at hn
      cases hn
    · rw [hp, hd]
      exact h.none_deferred

/-- A turn takes the oldest of those held back, or else of the queue. -/
theorem turn (h : Queues b) (hn : b.next? = some (c, b')) : Queues (b'.note (.taken c)) := by
  have taken : (b'.note (.taken c)).taken = b.taken ++ [c] := by simp [record_next _ hn]
  have sent : (b'.note (.taken c)).sent = b.sent := by simp [record_next _ hn]
  have issued : (b'.note (.taken c)).issued = b.issued := by simp [record_next _ hn]
  have running := Phase.isRunning_of_isTaking (taking_of_next? hn)
  have order : b'.phase = b.phase ∧
      b.sent = (b.taken ++ [c]) ++ b'.deferred ++ b'.queue ∧ (b.phase = .serving → b'.deferred = []) := by
    -- In both phases the next command is the first of those without a turn: none is held back while serving.
    rcases next?_cases hn with ⟨cs, hp, hd, rfl⟩ | ⟨cs, hp, -, hq, rfl⟩
    · refine ⟨rfl, ?_, fun hs => by simp [hp] at hs⟩
      rw [h.in_order running, hd, List.append_assoc b.taken [c] cs]
      rfl
    · have none_left : b.deferred = [] := h.none_deferred (.inr hp)
      refine ⟨rfl, ?_, fun _ => none_left⟩
      rw [h.in_order running, hq, none_left]
      simp
  obtain ⟨hp, order, serving⟩ := order
  constructor
  · rw [sent, issued]
    exact h.ids
  · rw [sent]
    exact h.clean
  · intro _
    rw [sent, taken]
    exact order
  · rw [sent, taken, order, List.append_assoc]
    exact List.prefix_append _ _
  · intro hr
    have : b.phase.isRunning = false := hp ▸ hr
    simp [running] at this
  · rintro (hs | hs)
    · have starting : b.phase = .starting := hp ▸ hs
      have taking := taking_of_next? hn
      simp [starting, Phase.isTaking] at taking
    · exact serving (hp ▸ hs)

theorem built (h : Queues b) (hp : b.phase = .starting) (r : Except Abort σ) : Queues (b.built r) := by
  have running : b.phase.isRunning := by rw [hp]; rfl
  have taken : (b.built r).taken = b.taken := by simp [record_built Event.taken_ofWork]
  have none_left : b.deferred = [] := h.none_deferred (.inl hp)
  have rest : (b.built r).sent = b.sent ∧ (b.built r).issued = b.issued ∧ (b.built r).deferred = b.deferred := by
    rcases r with (f | text) | s
    · exact ⟨(record_note_aside rfl _).trans (record_openGate _ _ _ |>.trans (by simp)),
        (record_note_aside rfl _).trans (record_openGate _ _ _ |>.trans (by simp)), rfl⟩
    · exact ⟨record_note_aside rfl _, record_note_aside rfl _, rfl⟩
    · exact ⟨record_note_aside rfl _, record_note_aside rfl _, rfl⟩
  obtain ⟨sent, issued, deferred⟩ := rest
  constructor
  · rw [sent, issued]
    exact h.ids
  · rw [sent]
    exact h.clean
  · intro hr
    rcases built_turns b r with ⟨-, -, -, queue⟩ | ⟨-, crashed, -⟩
    · rw [sent, taken, deferred, queue]
      exact h.in_order running
    · rw [crashed] at hr
      cases hr
  · rw [sent, taken]
    exact h.taken_first
  · intro hr
    rcases built_turns b r with ⟨-, -, waits, -⟩ | ⟨-, -, queue⟩
    · rw [waits] at hr
      cases hr
    · exact ⟨deferred.trans none_left, queue⟩
  · rw [deferred]
    exact fun _ => none_left

theorem returned (h : Queues b) (c : Command) (r : σ × Except Abort Unit) : Queues (b.returned c r) := by
  have taken : (b.returned c r).taken = b.taken := by simp [record_returned Event.taken_ofWork]
  obtain ⟨s, (a | u)⟩ := r
  · have noted : Queues ({ b with engine := some s }.note (.returned c (.error a))) :=
      h.frame rfl rfl rfl rfl rfl (List.Sublist.refl _)
    exact noted.outer (.resolve _ _ _)
  · exact h.frame rfl rfl rfl rfl taken (List.Sublist.refl _)

theorem close (h : Queues b) : Queues b.close := by
  have cleared : Queues { b with deferred := [], queue := [], phase := .stopped } :=
    { ids := h.ids
      clean := h.clean
      in_order := nofun
      taken_first := h.taken_first
      emptied := fun _ => ⟨rfl, rfl⟩
      none_deferred := fun _ => rfl }
  exact close_keeps (fun b id h => h.outer (.resolve b id _)) b cleared

theorem fresh (config : Config) (number : Nat) : Queues (.fresh config number : Bridge σ) := by
  constructor <;> simp [Bridge.fresh, record]

end Queues

/-! ## The gate and the engine -/

/-- The gate is open, and not because the engine did not come up. -/
def Gate.Admits (g : Gate) : Prop := ∃ r, g = .ready r ∧ ∀ reason, r ≠ .initFailed reason

/-- The factory runs once, and the engine has commands only if the gate admits and the factory made it. -/
structure Readied (m : Moment σ) : Prop where
  starting : ∀ rest, m.work = .building rest → m.bridge.phase = .starting
  unbuilt : m.bridge.phase = .starting → m.bridge.factory = []
  built_once : m.bridge.factory.length ≤ 1
  opened : m.bridge.phase.isTaking → m.bridge.gate.isReady
  engine_iff : m.bridge.engine.isSome ↔ .ok () ∈ m.bridge.factory
  busy : ∀ c, m.work.command? = some c → m.bridge.engine.isSome
  handed : ∀ c ∈ m.bridge.handed, m.bridge.gate.Admits ∧ m.bridge.engine.isSome

namespace Bridge

/-- Nobody else makes or takes an engine, or changes a gate that is open. -/
theorem gate_outer (ho : b.Outer b') :
    b'.engine.isSome = b.engine.isSome ∧ (b'.gate = b.gate ∨ b.gate = .initializing ∧ b'.gate.isReady) := by
  cases ho with
  | dispatch source held =>
    rcases dispatch_cases b source held with ⟨o, e⟩ | ⟨-, -, e⟩ <;> rw [e] <;> exact ⟨rfl, .inl rfl⟩
  | openGate r =>
    refine ⟨rfl, ?_⟩
    have gate : (b.openGate r).2.gate = (b.gate.trigger r).1 := rfl
    cases hg : b.gate with
    | initializing => exact .inr ⟨rfl, by rw [gate, hg]; rfl⟩
    | ready s => exact .inl (by rw [gate, hg]; rfl)
  | share f => exact ⟨by simp, .inl rfl⟩
  | same | resolve | release | hold | cancel | pass | elsewhere => exact ⟨rfl, .inl rfl⟩

end Bridge

theorem Gate.Admits.stays {g g' : Gate} (h : g.Admits) (hg : g' = g ∨ g = .initializing ∧ g'.isReady) :
    g'.Admits := by
  rcases hg with rfl | ⟨rfl, -⟩
  · exact h
  · obtain ⟨r, hr, -⟩ := h
    cases hr

namespace Readied

theorem frame (h : Readied m) {b : Bridge σ} {w : Work σ}
    (hp : b.phase = m.bridge.phase) (hw : ∀ rest, w = .building rest → ∃ rest, m.work = .building rest)
    (hb : ∀ c, w.command? = some c → b.engine.isSome) (hg : b.gate = m.bridge.gate ∨
      m.bridge.gate = .initializing ∧ b.gate.isReady) (he : b.engine.isSome = m.bridge.engine.isSome)
    (hf : b.factory = m.bridge.factory) (hh : b.handed = m.bridge.handed) : Readied ⟨b, w⟩ where
  starting rest hr := by
    obtain ⟨rest', hr'⟩ := hw rest hr
    exact hp.trans (h.starting rest' hr')
  unbuilt hs := hf.trans (h.unbuilt (hp ▸ hs))
  built_once := by
    change b.factory.length ≤ 1
    rw [hf]
    exact h.built_once
  opened ho := by
    rcases hg with hg | ⟨-, hg⟩
    · exact hg ▸ h.opened (hp ▸ ho)
    · exact hg
  engine_iff := by
    change b.engine.isSome ↔ _ ∈ b.factory
    rw [he, hf]
    exact h.engine_iff
  busy := hb
  handed c hc := by
    obtain ⟨admits, some⟩ := h.handed c (hh ▸ hc)
    exact ⟨admits.stays hg, he.trans some⟩

theorem outer (h : Readied m) (ho : m.bridge.Outer b) {w : Work σ}
    (hw : ∀ rest, w = .building rest → ∃ rest, m.work = .building rest)
    (hb : ∀ c, w.command? = some c → m.work.command? = some c) : Readied ⟨b, w⟩ := by
  obtain ⟨he, hg⟩ := gate_outer ho
  refine h.frame (queues_outer ho).1 hw (fun c hc => ?_) hg he (record_outer Event.built_ofWork ho)
    (record_outer Event.handed_ofWork ho)
  rw [he]
  exact h.busy c (hb c hc)

theorem built (h : Readied ⟨b, .idle⟩) (hp : b.phase = .starting) (r : Except Abort σ) :
    Readied ⟨b.built r, .idle⟩ := by
  have factory : (b.built r).factory = b.factory ++ [r.map fun _ => ()] := record_built Event.built_ofWork r
  have handed : (b.built r).handed = b.handed := by simp [record_built Event.handed_ofWork]
  have gate : (b.built r).gate = b.gate ∨ b.gate = .initializing ∧ (b.built r).gate.isReady := by
    rcases r with (f | text) | s
    · exact (gate_outer (.openGate b (.initFailed f.message))).2
    · exact .inl rfl
    · exact .inl rfl
  have engine : (b.built r).engine.isSome ↔ b.engine.isSome ∨ .ok () = r.map fun _ => () := by
    rcases r with (f | text) | s
    · exact (or_iff_left nofun).symm
    · exact (or_iff_left nofun).symm
    · exact iff_of_true rfl (.inr rfl)
  have turns : (b.built r).phase = .bootstrapping ∨ (b.built r).phase = .crashed :=
    (built_turns b r).imp (·.2.2.1) (·.2.1)
  refine ⟨nofun, fun starting => ?_, ?_, fun taking => ?_, ?_, nofun, fun c hc => ?_⟩
  · rcases turns with other | other <;> exact absurd (starting.symm.trans other) nofun
  · change (b.built r).factory.length ≤ 1
    rw [factory, h.unbuilt hp]
    exact Nat.le_refl 1
  · change (b.built r).phase.isTaking at taking
    rcases turns with other | other <;> simp [other, Phase.isTaking] at taking
  · change (b.built r).engine.isSome ↔ _ ∈ (b.built r).factory
    rw [factory, List.mem_append, List.mem_singleton, engine]
    exact or_congr_left h.engine_iff
  · obtain ⟨admits, some⟩ := h.handed c (handed ▸ hc)
    exact ⟨admits.stays gate, engine.2 (.inl some)⟩

theorem returned (h : Readied m) (hc : m.work.command? = some c) (r : σ × Except Abort Unit) :
    Readied ⟨m.bridge.returned c r, .idle⟩ := by
  have same : (m.bridge.returned c r).phase = m.bridge.phase ∧ (m.bridge.returned c r).gate = m.bridge.gate ∧
      (m.bridge.returned c r).engine.isSome = true := by
    obtain ⟨s, (a | u)⟩ := r <;> exact ⟨rfl, rfl, rfl⟩
  obtain ⟨hp, hg, he⟩ := same
  exact h.frame hp nofun nofun (.inl hg) (he.trans (h.busy c hc).symm)
    (by simp [record_returned Event.built_ofWork]) (by simp [record_returned Event.handed_ofWork])

theorem close (h : Readied ⟨b, .idle⟩) : Readied ⟨b.close, .idle⟩ :=
  close_keeps (I := fun b => Readied ⟨b, .idle⟩) (fun b id h => h.outer (.resolve b id _) nofun nofun) b
    ⟨nofun, nofun, h.built_once, nofun, h.engine_iff, nofun, h.handed⟩

theorem turn (h : Readied ⟨b, .idle⟩) (hn : b.next? = some (c, b')) : Readied ⟨b'.note (.taken c), .idle⟩ := by
  have phase : b'.phase = b.phase := next?_phase hn
  have gate : b'.gate = b.gate := next?_gate hn
  have built : b'.engine.isSome = b.engine.isSome := congrArg Option.isSome (next?_engine hn)
  exact h.frame phase nofun nofun (.inl gate) built (by simp [record_next _ hn]) (by simp [record_next _ hn])

/-- Where a turn comes, the gate is open. -/
theorem admits_of_turn (h : Readied ⟨b, .idle⟩) (hn : b.next? = some (c, b'))
    (hg : ∀ reason, b.gate ≠ .ready (.initFailed reason)) : b.gate.Admits := by
  have ready : b.gate.isReady := h.opened (taking_of_next? hn)
  cases hr : b.gate with
  | initializing => simp [hr, Gate.isReady] at ready
  | ready r => exact ⟨r, rfl, fun reason e => hg reason (e ▸ hr)⟩

theorem stride (hs : Stride e m m') (h : Readied m) : Readied m' := by
  cases hs with
  | rest => exact h
  | beginBuild hp => exact ⟨fun _ _ => hp, h.unbuilt, h.built_once, h.opened, h.engine_iff, nofun, h.handed⟩
  | actInBuild ha rest => exact h.outer ha.outer (fun _ _ => ⟨rest, rfl⟩) nofun
  | actInWrapping ha => exact h.outer ha.outer nofun fun _ hc => hc
  | actInEvaluation ha => exact h.outer ha.outer nofun fun _ hc => hc
  | endBuild b r =>
    have idle : Readied ⟨b, .idle⟩ :=
      ⟨nofun, h.unbuilt, h.built_once, h.opened, h.engine_iff, nofun, h.handed⟩
    exact idle.built (h.starting _ rfl) r
  | drain hp hg => exact ⟨nofun, nofun, h.built_once, fun _ => hg, h.engine_iff, nofun, h.handed⟩
  | park | defer => exact ⟨nofun, nofun, h.built_once, nofun, h.engine_iff, nofun, h.handed⟩
  | @serve b hp =>
    have taking : b.phase.isTaking := by rw [hp]; rfl
    exact ⟨nofun, nofun, h.built_once, fun _ => h.opened taking, h.engine_iff, nofun, h.handed⟩
  | close => exact h.close
  | skip hn => exact h.turn hn
  | refuse hn hi f => exact (h.turn hn).outer (.resolve _ _ _) nofun nofun
  | @handOver b b' c hn hi hg s hs =>
    have taken := h.turn hn
    have some : b'.engine.isSome := by
      rw [next?_eq hn]
      exact Option.isSome_iff_exists.2 ⟨s, hs⟩
    have admits : b'.gate.Admits := by
      rw [next?_eq hn]
      exact h.admits_of_turn hn hg
    exact ⟨nofun, taken.unbuilt, taken.built_once, taken.opened, taken.engine_iff, fun _ _ => some,
      fun _ _ => ⟨admits, some⟩⟩
  | failWrapping b c s a => exact h.returned rfl _
  | endWrapping b c s program => exact h.frame rfl nofun (fun _ _ => h.busy c rfl) (.inl rfl) rfl rfl rfl
  | endEvaluation b c r => exact h.returned rfl r

theorem start (config : Config) (number : Nat) : Readied (Moment.start config number : Moment σ) :=
  ⟨nofun, fun _ => rfl, Nat.zero_le 1, nofun, by simp [Moment.start, Bridge.fresh, record], nofun, nofun⟩

end Readied

theorem Queues.stride (hs : Stride e m m') (ready : Readied m) (h : Queues m.bridge) : Queues m'.bridge := by
  cases hs with
  | rest | beginBuild => exact h
  | actInBuild ha | actInWrapping ha | actInEvaluation ha => exact h.outer ha.outer
  | endBuild b r => exact h.built (ready.starting _ rfl) r
  | @drain b hp =>
    have running : b.phase.isRunning := by rcases hp with hp | hp <;> rw [hp] <;> rfl
    exact ⟨h.ids, h.clean, fun _ => h.in_order running, h.taken_first, nofun, nofun⟩
  | @park b hp =>
    have running : b.phase.isRunning := by rw [hp]; rfl
    exact ⟨h.ids, h.clean, fun _ => h.in_order running, h.taken_first, nofun, nofun⟩
  | @defer b c cs hp hq =>
    have running : b.phase.isRunning := by rw [hp]; rfl
    refine ⟨h.ids, h.clean, fun _ => ?_, h.taken_first, nofun, nofun⟩
    refine (h.in_order running).trans ?_
    simp [hq, record]
  | @serve b hp hd =>
    have running : b.phase.isRunning := by rw [hp]; rfl
    exact ⟨h.ids, h.clean, fun _ => h.in_order running, h.taken_first, nofun, fun _ => hd⟩
  | close => exact h.close
  | skip hn => exact h.turn hn
  | refuse hn _ f => exact (h.turn hn).outer (.resolve _ _ _)
  | handOver hn => exact (h.turn hn).frame rfl rfl rfl rfl rfl (List.Sublist.refl _)
  | failWrapping b c s a => exact Queues.returned (b := b) h c (s, .error a)
  | endWrapping b c s program => exact Queues.frame (b := b) h rfl rfl rfl rfl rfl (List.Sublist.refl _)
  | endEvaluation b c r => exact Queues.returned (b := b) h c r

/-- In every run commands keep their order, and the engine has one only behind an open gate. -/
theorem queues_after (e : Engine σ) (config : Config) (number : Nat) (vs : List (Move σ)) :
    Queues ((Moment.start config number).after e vs).bridge ∧ Readied ((Moment.start config number).after e vs) :=
  Moment.after_keeps (I := fun m => Queues m.bridge ∧ Readied m)
    (fun _ _ ho h => ⟨h.1.outer ho, h.2.outer ho (fun rest hr => ⟨rest, hr⟩) fun _ hc => hc⟩)
    (fun _ _ hs h => ⟨.stride hs h.2 h.1, .stride hs h.2⟩) ⟨.fresh config number, .start config number⟩ vs

end ScriptHost
