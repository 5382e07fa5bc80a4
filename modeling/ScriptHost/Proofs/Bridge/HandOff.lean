import ScriptHost.Proofs.Bridge.Signals
import ScriptHost.Proofs.Bridge.Turns
/-!
Hand-offs.

Where a command's turn comes, the engine has it to itself until it is done. If all that it does meanwhile is
to signal and to post, then nothing else happens than that these outcomes are told to the table one after
another, and behind them the failure of the hand-off if there is one (`Tells`, `tells_handOff`).
-/

namespace ScriptHost

open Bridge

variable {σ α : Type} {e : Engine σ} {b b' b'' : Bridge σ} {c : Command}
  {told told' : List (InvocationId × Outcome)}

/-! ## What an engine does -/

/-- Whether an act is a message: a signal, or a posted text. -/
def Act.isMessage : Act → Bool
  | signal _ | post _ => true
  | _ => false

/-- The outcome that an act tells, and the id for which it does. -/
def Act.telling? : Act → Option (InvocationId × Outcome)
  | signal s => some (s.id, s.outcome)
  | post raw =>
    match Message.parse raw with
    | .ok (.signal s) => some (s.id, s.outcome)
    | _ => none
  | _ => none

/-- What the failure of a hand-off tells for its command. -/
def Command.failure (c : Command) : Except Abort Unit → List (InvocationId × Outcome)
  | .ok () => []
  | .error a => [(c.id, .error a.failure)]

namespace Bridge

/-- The acts that a conduct does on a bridge, in order. -/
def acts (b : Bridge σ) : Conduct α → List Act
  | .done _ => []
  | .act a next => a :: (b.perform a).2.acts (next (b.perform a).1)

/-- The acts that the engine does about a command that it is given, in order, and what they come to. -/
def exchange (e : Engine σ) (b : Bridge σ) (c : Command) (rest : Conduct (σ × Except Abort String)) :
    List Act × σ × Except Abort Unit :=
  match b.run rest with
  | ((s, .error a), _) => (b.acts rest, s, .error a)
  | ((s, .ok program), b') =>
    let b' := b'.note (.wrapped c)
    (b.acts rest ++ b'.acts (e.evaluate s c.id program), (b'.run (e.evaluate s c.id program)).1)

/-- From one bridge to the other, outcomes are told to the table one after another, and the engine thread
has the same before it. -/
structure Tells (told : List (InvocationId × Outcome)) (b b' : Bridge σ) : Prop where
  table : b'.table = b.table.tell told
  resolutions : b'.resolutions = b.resolutions ++ b.table.heard told
  phase : b'.phase = b.phase
  deferred : b'.deferred = b.deferred
  queue : b'.queue = b.queue
  cancelled : b'.cancelled = b.cancelled

theorem Tells.trans (h : Tells told b b') (h' : Tells told' b' b'') : Tells (told ++ told') b b'' where
  table := by rw [h'.table, h.table, Table.tell_append]
  resolutions := by rw [h'.resolutions, h.resolutions, h.table, Table.heard_append, List.append_assoc]
  phase := h'.phase.trans h.phase
  deferred := h'.deferred.trans h.deferred
  queue := h'.queue.trans h.queue
  cancelled := h'.cancelled.trans h.cancelled

theorem tells_note {v : Event} (h : v.resolution? = none) (b : Bridge σ) : Tells [] b (b.note v) :=
  ⟨rfl, (record_note_aside h b).trans (List.append_nil _).symm, rfl, rfl, rfl, rfl⟩

theorem tells_resolve (b : Bridge σ) (id : InvocationId) (o : Outcome) : Tells [(id, o)] b (b.resolve id o) := by
  refine ⟨rfl, ?_, rfl, rfl, rfl, rfl⟩
  simp [Table.heard]

theorem tells_openGate (b : Bridge σ) (r : Readiness) : Tells [] b (b.openGate r).2 :=
  ⟨rfl, by simp [Table.heard], rfl, rfl, rfl, rfl⟩

/-- A message tells what it says, and nothing else happens to the table. -/
theorem tells_perform (b : Bridge σ) {a : Act} (h : a.isMessage) : Tells a.telling?.toList b (b.perform a).2 := by
  cases a with
  | signal s => exact tells_resolve b s.id s.outcome
  | post raw =>
    simp only [Act.telling?, perform, post]
    cases Message.parse raw with
    | error fault => exact ⟨rfl, (List.append_nil _).symm, rfl, rfl, rfl, rfl⟩
    | ok message =>
      cases message with
      | signal s => exact tells_resolve b s.id s.outcome
      | lifecycle l =>
        cases l with
        | ready => exact tells_openGate b _
        | initError reason => exact tells_openGate b _
  | _ => cases h

theorem tells_run (rest : Conduct α) (b : Bridge σ) (h : ∀ a ∈ b.acts rest, a.isMessage) :
    Tells ((b.acts rest).filterMap Act.telling?) b (b.run rest).2 := by
  induction rest generalizing b with
  | done a => exact ⟨rfl, (List.append_nil _).symm, rfl, rfl, rfl, rfl⟩
  | act a next ih =>
    have first := tells_perform b (h a List.mem_cons_self)
    have others := ih (b.perform a).1 (b.perform a).2 fun a' ha' => h a' (List.mem_cons_of_mem a ha')
    have said : (b.acts (.act a next)).filterMap Act.telling? =
        a.telling?.toList ++ ((b.perform a).2.acts (next (b.perform a).1)).filterMap Act.telling? := by
      cases ha : a.telling? <;> simp [acts, ha]
    rw [said]
    exact first.trans others

/-- What is left to tell when the engine is done: its failure. -/
theorem tells_returned (b : Bridge σ) (c : Command) (r : σ × Except Abort Unit) :
    Tells (c.failure r.2) b (b.returned c r) := by
  obtain ⟨s, r⟩ := r
  have resolutions : ({ b with engine := some s }.note (.returned c r)).resolutions = b.resolutions :=
    record_note_aside rfl _
  have noted : Tells [] b ({ b with engine := some s }.note (.returned c r)) :=
    ⟨rfl, resolutions.trans (List.append_nil _).symm, rfl, rfl, rfl, rfl⟩
  rcases r with a | u
  · exact noted.trans (tells_resolve _ c.id _)
  · exact noted

/-- A hand-off tells what the engine's messages say, and then its failure if it fails. -/
theorem tells_handOff (b : Bridge σ) (c : Command) (rest : Conduct (σ × Except Abort String))
    (h : ∀ a ∈ (b.exchange e c rest).1, a.isMessage) :
    Tells ((b.exchange e c rest).1.filterMap Act.telling? ++ c.failure (b.exchange e c rest).2.2) b
        (b.handOff e c rest) ∧ (b.handOff e c rest).engine = some (b.exchange e c rest).2.1 := by
  have wrapping := tells_run rest b
  revert h wrapping
  unfold exchange handOff
  generalize b.acts rest = as
  rcases b.run rest with ⟨⟨s, a | program⟩, b₁⟩
  · intro h wrapping
    exact ⟨(wrapping h).trans (tells_returned b₁ c _), engine_returned b₁ c _⟩
  · intro h wrapping
    have evaluating := tells_run (e.evaluate s c.id program) (b₁.note (.wrapped c))
      fun a ha => h a (List.mem_append_right _ ha)
    have wrapped : Tells [] b₁ (b₁.note (.wrapped c)) := tells_note rfl b₁
    have told := ((wrapping fun a ha => h a (List.mem_append_left _ ha)).trans wrapped).trans evaluating
    rw [List.append_nil] at told
    refine ⟨?_, engine_returned _ c _⟩
    rw [List.filterMap_append]
    exact told.trans (tells_returned _ c _)

/-- The thread has the same turn before it. -/
theorem Tells.next_eq (h : Tells told b b') : b'.next?.map (·.1) = b.next?.map (·.1) := by
  unfold next?
  rw [h.phase, h.deferred, h.queue, h.cancelled]
  split
  · rfl
  · split <;> rfl
  · rfl

/-! ## Turns -/

/-- A command whose turn it is, and that nothing is against, is handed over. -/
theorem tick_of_gets {s : σ} (hn : b.next? = some (c, b')) (hp : c.id ∈ b.table.pending)
    (hg : ∀ reason, b.gate ≠ .ready (.initFailed reason)) (hs : b.engine = some s) :
    b.tick e = some (((b'.note (.taken c)).note (.handedOver c)).handOff e c (e.wrap s c.id c.source)) := by
  have pending : (b'.note (.taken c)).table.isPending c.id = true := by
    have same : b'.table = b.table := next?_table hn
    simpa [note, same] using hp
  have gate : b'.gate = b.gate := next?_gate hn
  have engine : (b'.note (.taken c)).engine = some s := (next?_engine hn).trans hs
  have task : b.task e = .wrap ((b'.note (.taken c)).note (.handedOver c)) c (e.wrap s c.id c.source) := by
    rw [Moment.task_of_next hn, turn]
    simp only [pending, Bool.not_true, Bool.false_eq_true, if_false]
    split
    · rename_i reason hr
      exact absurd (gate.symm.trans hr) (hg reason)
    · rename_i none_built _
      rw [engine] at none_built
      cases none_built
    · rename_i s' built _
      obtain rfl : s = s' := Option.some.inj (engine.symm.trans built)
      rfl
  rw [tick, task]

end Bridge

/-- Executing a command is telling the table what the engine signals and posts meanwhile, from left to right,
and behind it, only if the engine failed or panicked, that failure for the command's own id. So the first
outcome told for an id counts, what the engine tells for the command wins over its failure, after a failure the command
is not pending, what is not named stays as it is, and the thread goes on with the next command. A table never has
an id twice, as `Ledger.pending_nodup` says of every run. -/
theorem executing_tells_signals_then_failure (e : Engine σ) {b b' : Bridge σ} {c : Command} {s : σ}
    (turn : b.next? = some (c, b')) (pending : b.table.isPending c.id)
    (admitted : ∀ reason, b.gate ≠ .ready (.initFailed reason)) (available : b.engine = some s)
    (once : b.table.pending.Nodup)
    (messages : ∀ a ∈ (((b'.note (.taken c)).note (.handedOver c)).exchange e c (e.wrap s c.id c.source)).1,
      a.isMessage) :
    let did := ((b'.note (.taken c)).note (.handedOver c)).exchange e c (e.wrap s c.id c.source)
    let said := did.1.filterMap Act.telling?
    let told := said ++ c.failure did.2.2
    ∃ later, b.tick e = some later ∧ (∃ n, (⟨b, .idle⟩ : Moment σ).after e (Moment.alone n) = ⟨later, .idle⟩) ∧
      later.table = b.table.tell told ∧ later.resolutions = b.resolutions ++ b.table.heard told ∧
      (∀ id, later.table.isPending id ↔ b.table.isPending id ∧ told.lookup id = none) ∧
      (∀ id, b.table.isPending id → later.table.waiter? id = (b.table.waiter? id).map (·.told (told.lookup id))) ∧
      (∀ id o, (id, o) ∈ later.resolutions ↔
        (id, o) ∈ b.resolutions ∨ b.table.isPending id ∧ told.lookup id = some o) ∧
      (∀ o, said.lookup c.id = some o → told.lookup c.id = some o) ∧
      (∀ a, did.2.2 = .error a → ¬ later.table.isPending c.id ∧
        (said.lookup c.id = none → told.lookup c.id = some (.error a.failure))) ∧
      (∀ text, (Abort.panicked text).failure = .engine "engine panicked during evaluation") ∧
      (∀ id, id ≠ c.id → said.lookup id = none →
        later.table.isPending id = b.table.isPending id ∧ later.table.waiter? id = b.table.waiter? id) ∧
      later.phase = b.phase ∧ later.cancelled = b.cancelled ∧ later.engine = some did.2.1 ∧
      later.next?.map (·.1) = b'.next?.map (·.1) := by
  intro did said told
  have hp : c.id ∈ b.table.pending := Table.isPending_iff.1 pending
  have ticks := tick_of_gets (e := e) turn hp admitted available
  obtain ⟨n, alone⟩ := Moment.after_tick ticks
  have given : Tells [] b' ((b'.note (.taken c)).note (.handedOver c)) := (tells_note rfl b').trans (tells_note rfl _)
  obtain ⟨told_then, engine⟩ := tells_handOff _ c _ messages
  have tells : Tells told b' (((b'.note (.taken c)).note (.handedOver c)).handOff e c (e.wrap s c.id c.source)) :=
    given.trans told_then
  have lookup_append : ∀ id, told.lookup id = (said.lookup id).or ((c.failure did.2.2).lookup id) :=
    fun id => List.lookup_append
  generalize ((b'.note (.taken c)).note (.handedOver c)).handOff e c (e.wrap s c.id c.source) = later
    at ticks alone tells engine
  have table : later.table = b.table.tell told := tells.table.trans (congrArg (Table.tell · told) (next?_table turn))
  have resolutions : later.resolutions = b.resolutions ++ b.table.heard told := by
    rw [tells.resolutions, next?_table turn, resolutions, record_next _ turn]
  have stays : ∀ id, later.table.isPending id ↔ b.table.isPending id ∧ told.lookup id = none := by
    intro id
    rw [table, Table.isPending_iff, Table.isPending_iff]
    exact Table.mem_pending_tell once
  refine ⟨later, ticks, ⟨n, alone⟩, table, resolutions, stays, fun id hid => ?_, fun id o => ?_,
    fun o ho => ?_, fun a ha => ⟨fun still => ?_, fun silent => ?_⟩, fun _ => rfl, fun id hid silent => ?_,
    tells.phase.trans (next?_phase turn), tells.cancelled.trans ?_, engine, tells.next_eq⟩
  · rw [table, Table.waiter?_tell once, if_pos (Table.isPending_iff.1 hid)]
  · rw [resolutions, List.mem_append, Table.mem_heard once, Table.isPending_iff]
  · rw [lookup_append, ho]
    rfl
  · have silent := ((stays c.id).1 still).2
    rw [lookup_append, ha, Command.failure, List.lookup_cons_self] at silent
    cases hs : said.lookup c.id <;> simp [hs] at silent
  · rw [lookup_append, silent, ha, Command.failure, List.lookup_cons_self]
    rfl
  · have untold : told.lookup id = none := by
      rw [lookup_append, silent]
      rcases did.2.2 with a | u
      · exact Table.lookup_cons_ne hid _ []
      · rfl
    constructor
    · rw [Bool.eq_iff_iff, stays id]
      exact and_iff_left untold
    · rw [table, Table.waiter?_tell once, untold]
      simp [Waiter.told]
  · rw [next?_eq turn]

/-- An engine that answers its command and another one, and then panics. -/
def chatty : Engine Unit where
  build := .act .ready fun _ => .done (.ok ())
  wrap _ _ source := .done ((), .ok source)
  evaluate _ id _ :=
    .act (.signal (.ofValue (.issue "inv" 2) .null)) fun _ => .act (.post "") fun _ =>
      .act (.signal (.ofValue id (.bool true))) fun _ => .act (.signal (.ofError id "late")) fun _ =>
        .done ((), .error (.panicked "after all"))

/-- Two sources are invoked, and the turn of the first has come. -/
def chattyRun : List (Move Unit) :=
  Moment.alone 3 ++ [.act (.invoke "x"), .act (.invoke "y")] ++ Moment.alone 2

theorem chatty_is_heard_before_it_panics :
    let b := ((Moment.start {} 1).after chatty chattyRun).bridge
    let c : Command := ⟨.issue "inv" 1, "x"⟩
    b.next?.map (·.1) = some c ∧ b.table.isPending c.id ∧ b.gate = .ready .signalled ∧ b.engine = some () ∧
      b.table.pending.Nodup ∧
      ∃ later, b.tick chatty = some later ∧ ¬ later.table.isPending c.id ∧
        (c.id, .ok (.bool true)) ∈ later.resolutions ∧ later.next?.map (·.1) = some ⟨.issue "inv" 2, "y"⟩ := by
  intro b c
  have turn : b.next? = some (c, { b with queue := [⟨.issue "inv" 2, "y"⟩] }) := rfl
  have pending : b.table.isPending c.id = true := rfl
  have once : b.table.pending.Nodup := by
    have ids : b.table.pending = [.issue "inv" 1, .issue "inv" 2] := rfl
    rw [ids]
    decide
  obtain ⟨later, ticks, -, -, -, -, -, resolutions, wins, fails, -, -, -, -, -, next⟩ :=
    executing_tells_signals_then_failure chatty turn pending nofun rfl once (by decide)
  have told := wins (.ok (.bool true)) rfl
  exact ⟨rfl, pending, rfl, rfl, once, later, ticks, (fails _ rfl).1,
    (resolutions _ _).2 (.inr ⟨pending, told⟩), next⟩

end ScriptHost
