import ScriptHost.Proofs.Bridge.Resolution
import ScriptHost.Proofs.Bridge.Teardown
import Mathlib.Data.List.Induction
/-!
Engines that answer.

An engine `Answers` if a command alone decides what becomes of it: whatever the state of the engine is, it
fails, or signals for the command's own id and is done, or takes the command well and leaves it open. In
a run, other threads may get ahead of it with signals of their own (`Move.signalled?`). `Course` is the
invariant of every run: what the engine was given has the outcome that it was to have, or one of theirs.
-/

namespace ScriptHost

open Bridge

variable {σ : Type} {e : Engine σ} {b b' : Bridge σ} {m m' : Moment σ}
  {c : Command} {id : InvocationId} {o : Outcome}

/-! ## What such an engine does -/

/-- A factory that reports readiness, however often, and makes the engine. -/
inductive Readies : Conduct (Except Abort σ) → Prop
  | made (s : σ) : Readies (.done (.ok s))
  | report {next : Disposition → Conduct (Except Abort σ)} (h : ∀ d, Readies (next d)) : Readies (.act .ready next)

/-- An evaluation that gives a command an outcome, or leaves it open. -/
inductive Evaluates (c : Command) : Option Outcome → Conduct (σ × Except Abort Unit) → Prop
  | signals {s : Signal} (hs : s.id = c.id) (t : σ) :
      Evaluates c (some s.outcome) (.act (.signal s) fun _ => .done (t, .ok ()))
  | fails (t : σ) (a : Abort) : Evaluates c (some (.error a.failure)) (.done (t, .error a))
  | leaves (t : σ) : Evaluates c none (.done (t, .ok ()))

/-- A wrapping that fails, or that yields a program whose evaluation gives the outcome. -/
inductive Wraps (e : Engine σ) (c : Command) : Option Outcome → Conduct (σ × Except Abort String) → Prop
  | fails (t : σ) (a : Abort) : Wraps e c (some (.error a.failure)) (.done (t, .error a))
  | yields {t : σ} {program : String} {o : Option Outcome} (h : Evaluates c o (e.evaluate t c.id program)) :
      Wraps e c o (.done (t, .ok program))

/-- The engine gives each command that it may get the outcome that `answer` says. -/
structure Engine.Answers (e : Engine σ) (P : Command → Prop) (answer : Command → Option Outcome) : Prop where
  build : Readies e.build
  call : ∀ s c, P c → Wraps e c (answer c) (e.wrap s c.id c.source)

variable {P : Command → Prop} {answer : Command → Option Outcome}

/-! ## One call -/

/-- The table with an id completed, if there is an outcome for it. -/
def Table.complete (t : Table) (id : InvocationId) : Option Outcome → Table
  | some o => t.resolve id o
  | none => t

theorem Evaluates.table_run {o : Option Outcome} {rest : Conduct (σ × Except Abort Unit)} (h : Evaluates c o rest)
    (b : Bridge σ) : ((b.run rest).2.returned c (b.run rest).1).table = b.table.complete c.id o := by
  cases h with
  | signals hs t =>
    rw [← hs]
    rfl
  | fails t a => rfl
  | leaves t => rfl

/-- Handing a command over completes its id with the answer, and does nothing else to the table. -/
theorem Engine.Answers.table_handOff (h : e.Answers P answer) (s : σ) (hc : P c) (b : Bridge σ) :
    (b.handOff e c (e.wrap s c.id c.source)).table = b.table.complete c.id (answer c) := by
  have wraps := h.call s c hc
  revert wraps
  generalize e.wrap s c.id c.source = rest
  generalize answer c = o
  intro wraps
  cases wraps with
  | fails t a => rfl
  | yields evaluates => exact evaluates.table_run (b.note (.wrapped c))

theorem Evaluates.resolutions_run {o : Option Outcome} {rest : Conduct (σ × Except Abort Unit)}
    (h : Evaluates c o rest) (b : Bridge σ) : ((b.run rest).2.returned c (b.run rest).1).resolutions =
      b.resolutions ++ if b.table.isPending c.id then (o.map (c.id, ·)).toList else [] := by
  cases h with
  | signals hs t =>
    rw [← hs]
    exact (record_note_aside rfl _).trans (record_resolve _ b _ _)
  | fails t a =>
    have noted : ({ b with engine := some t }.note (.returned c (.error a))).resolutions = b.resolutions :=
      record_note_aside rfl _
    exact (record_resolve _ _ _ _).trans (congrArg (· ++ _) noted)
  | leaves t =>
    have noted : (b.returned c (t, .ok ())).resolutions = b.resolutions := record_note_aside rfl _
    exact noted.trans (by simp)

/-- The answer is delivered to its waiter, and nothing to anybody else. -/
theorem Engine.Answers.delivered (h : e.Answers P answer) (s : σ) (hc : P c) (l : Ledger b)
    (hp : c.id ∈ b.table.pending) (ha : answer c = some o) :
    Delivered c.id o b (b.handOff e c (e.wrap s c.id c.source)) := by
  have table := h.table_handOff s hc b
  have resolutions : (b.handOff e c (e.wrap s c.id c.source)).resolutions = b.resolutions ++ [(c.id, o)] := by
    have wraps := h.call s c hc
    rw [ha] at wraps
    revert wraps
    generalize e.wrap s c.id c.source = rest
    intro wraps
    have pending : b.table.isPending c.id = true := Table.isPending_iff.2 hp
    cases wraps with
    | fails t a =>
      have run := (Evaluates.fails (c := c) t a).resolutions_run b
      rw [pending] at run
      exact run
    | yields evaluates =>
      have run := evaluates.resolutions_run (b.note (.wrapped c))
      have noted : (b.note (.wrapped c)).resolutions = b.resolutions := record_note_aside rfl _
      have pending' : (b.note (.wrapped c)).table.isPending c.id = true := pending
      rw [noted, pending'] at run
      exact run
  rw [ha] at table
  have delivered := l.delivered hp o
  exact ⟨delivered.waiting, table ▸ delivered.waiters, table ▸ delivered.pending, resolutions⟩

/-! ## The thread at work -/

/-- What is left of the thread's work. -/
def Moment.AtWork (e : Engine σ) (answer : Command → Option Outcome) (m : Moment σ) : Prop :=
  match m.work with
  | .idle => True
  | .building rest => Readies rest
  | .wrapping c rest => Wraps e c (answer c) rest
  | .evaluating c rest =>
    Evaluates c (answer c) rest ∨ (∃ t, rest = .done (t, .ok ())) ∧ c.id ∈ m.bridge.ended

/-- What the thread does next in the middle of its work. -/
inductive Works (e : Engine σ) (answer : Command → Option Outcome) (b : Bridge σ) : Work σ → Moment σ → Prop
  | report (rest rest' : Conduct (Except Abort σ)) :
      Works e answer b (.building rest) ⟨(b.openGate .signalled).2, .building rest'⟩
  | made (s : σ) : Works e answer b (.building (.done (.ok s))) ⟨b.built (.ok s), .idle⟩
  | fail {w : Work σ} {c : Command} (hw : w.command? = some c) (t : σ) {a : Abort}
      (ha : answer c = some (.error a.failure)) : Works e answer b w ⟨b.returned c (t, .error a), .idle⟩
  | wrap (c : Command) (rest : Conduct (σ × Except Abort String)) (t : σ) (program : String) :
      Works e answer b (.wrapping c rest) ⟨b.note (.wrapped c), .evaluating c (e.evaluate t c.id program)⟩
  | signal {c : Command} {o : Outcome} (ha : answer c = some o) (rest rest' : Conduct (σ × Except Abort Unit)) :
      Works e answer b (.evaluating c rest) ⟨b.resolve c.id o, .evaluating c rest'⟩
  | accept {c : Command} (rest : Conduct (σ × Except Abort Unit)) (ha : answer c = none ∨ c.id ∈ b.ended)
      (t : σ) : Works e answer b (.evaluating c rest) ⟨b.returned c (t, .ok ()), .idle⟩

/-- The id that its waiter gave up while it was pending. -/
@[simp] def Event.discarded? : Event → Option InvocationId
  | discarded id => some id
  | _ => none

/-- The ids that their waiters gave up. -/
abbrev Bridge.discarded (b : Bridge σ) : List InvocationId := b.record Event.discarded?

/-- What leaves the table is completed or given up. -/
theorem Bridge.mem_ended : id ∈ b.ended ↔ (∃ o, (id, o) ∈ b.resolutions) ∨ id ∈ b.discarded := by
  simp only [record, List.mem_reverse, List.mem_filterMap]
  constructor
  · rintro ⟨v, hv, he⟩
    cases v with
    | resolved j o =>
      obtain rfl : j = id := by simpa using he
      exact .inl ⟨o, .resolved j o, hv, rfl⟩
    | discarded j => exact .inr ⟨.discarded j, hv, he⟩
    | _ => cases he
  · rintro (⟨o, v, hv, he⟩ | ⟨v, hv, he⟩)
    · cases v with
      | resolved j p =>
        obtain ⟨rfl, -⟩ : j = id ∧ p = o := by simpa using he
        exact ⟨.resolved j p, hv, rfl⟩
      | _ => cases he
    · cases v with
      | discarded j => exact ⟨.discarded j, hv, he⟩
      | _ => cases he

namespace Ledger

theorem ended_of_not_pending (l : Ledger b) (hi : id ∈ b.issued) (hp : id ∉ b.table.pending) : id ∈ b.ended := by
  by_contra open_
  exact hp ((l.pending_iff id).2 ⟨hi, open_⟩)

theorem ended_resolve (l : Ledger b) (hi : id ∈ b.issued) (o : Outcome) : id ∈ (b.resolve id o).ended := by
  have issued : id ∈ (b.resolve id o).issued := by simpa using hi
  refine (l.resolve id o).ended_of_not_pending issued ?_
  rw [pending_resolve, l.pending_nodup.mem_erase_iff]
  exact fun h => h.1 rfl

theorem ended_returned (l : Ledger b) (hi : c.id ∈ b.issued) (t : σ) (a : Abort) :
    c.id ∈ (b.returned c (t, .error a)).ended := by
  have engine : Ledger { b with engine := some t } := l.frame rfl (Nat.le_refl _) rfl rfl rfl rfl rfl
  have noted := engine.note (e := .returned c (.error a)) rfl rfl rfl rfl
  have issued : c.id ∈ ({ b with engine := some t }.note (.returned c (.error a))).issued := by
    rw [issued, record_note_aside rfl]
    exact hi
  exact noted.ended_resolve issued _

end Ledger

theorem works_advance (l : Ledger m.bridge) (hi : ∀ c, m.work.command? = some c → c.id ∈ m.bridge.issued)
    (h : m.AtWork e answer) (hw : m.work ≠ .idle) :
    Works e answer m.bridge m.work (m.advance e) ∧ (m.advance e).AtWork e answer := by
  obtain ⟨b, work⟩ := m
  cases work with
  | idle => exact absurd rfl hw
  | building rest =>
    cases h with
    | made s => exact ⟨.made s, trivial⟩
    | @report next h => exact ⟨.report _ _, h _⟩
  | wrapping c rest =>
    have wraps : Wraps e c (answer c) rest := h
    generalize ha : answer c = o at wraps
    cases wraps with
    | fails t a => exact ⟨.fail rfl t ha, trivial⟩
    | @yields t program _ evaluates => exact ⟨.wrap c _ t program, .inl (ha ▸ evaluates)⟩
  | evaluating c rest =>
    have issued : c.id ∈ b.issued := hi c rfl
    rcases h with evaluates | ⟨⟨t, rfl⟩, ended⟩
    · have evaluates : Evaluates c (answer c) rest := evaluates
      generalize ha : answer c = o at evaluates
      cases evaluates with
      | @signals s hs t =>
        have moved : (⟨b, .evaluating c (.act (.signal s) fun _ => .done (t, .ok ()))⟩ : Moment σ).advance e =
            ⟨b.resolve c.id s.outcome, .evaluating c (.done (t, .ok ()))⟩ := by
          rw [← hs]
          rfl
        rw [moved]
        exact ⟨.signal ha _ _, .inr ⟨⟨t, rfl⟩, l.ended_resolve issued _⟩⟩
      | fails t a => exact ⟨.fail rfl t ha, trivial⟩
      | leaves t => exact ⟨.accept _ (.inl ha) t, trivial⟩
    · exact ⟨.accept _ (.inr ended) t, trivial⟩

/-! ## What the factory comes to -/

/-- The factory, and what it came to. -/
structure Readying (m : Moment σ) : Prop where
  rest : ∀ rest, m.work = .building rest → Readies rest
  made : ∀ r ∈ m.bridge.factory, r = .ok ()

theorem readying_after (ready : Readies e.build) (config : Config) (number : Nat) (vs : List (Move σ)) :
    Readying ((Moment.start config number).after e vs) := by
  refine Moment.after_induction ⟨nofun, nofun⟩ (fun b m' _ h hs => ⟨fun rest hw => ?_, ?_⟩) (fun m _ hw h => ?_)
    fun m v _ _ h => ⟨h.rest, ?_⟩
  · cases hs with
    | beginBuild => cases hw; exact ready
    | _ => cases hw
  · rcases factory_stride hs with same | ⟨b, r, ends, -⟩
    · exact same ▸ h.made
    · cases ends
  · have hs := Moment.stride_advance e m
    obtain ⟨b, work⟩ := m
    cases work with
    | idle => exact absurd rfl hw
    | building rest =>
      cases h.rest rest rfl with
      | made s =>
        have factory : (b.built (.ok s)).factory = b.factory ++ [.ok ()] := record_built Event.built_ofWork _
        refine ⟨nofun, fun r hr => ?_⟩
        rcases List.mem_append.1 (factory ▸ hr) with old | new
        · exact h.made r old
        · exact List.mem_singleton.1 new
      | report rest =>
        have factory : (b.openGate .signalled).2.factory = b.factory :=
          record_outer Event.built_ofWork (.openGate b _)
        exact ⟨fun rest' hw => by cases hw; exact rest _, factory ▸ h.made⟩
    | wrapping c rest | evaluating c rest =>
      refine ⟨fun rest hw => ?_, ?_⟩
      · revert hs hw
        generalize Moment.advance e _ = m'
        intro hs hw
        cases hs <;> cases hw
      · rcases factory_stride hs with same | ⟨b, r, ends, -⟩
        · exact same ▸ h.made
        · cases ends
  · have factory : (m.bridge.move v).factory = m.bridge.factory := record_outer Event.built_ofWork (outer_move _ v)
    exact factory ▸ h.made

theorem alive_of_readies (ready : Readies e.build) (config : Config) (number : Nat) (vs : List (Move σ))
    (waits : ((Moment.start config number).after e vs).bridge.canWait) :
    ((Moment.start config number).after e vs).bridge.phase ≠ .crashed := by
  refine alive_of_canWait e config number vs (fun text panicked => ?_) waits
  cases (readying_after ready config number vs).made _ panicked

/-! ## What other threads signal -/

/-- The id that an act signals. -/
def Act.signalled? : Act → Option InvocationId
  | signal s => some s.id
  | post raw =>
    match Message.parse raw with
    | .ok (.signal s) => some s.id
    | _ => none
  | _ => none

/-- The id that another thread's move signals. -/
def Move.signalled? : Move σ → Option InvocationId
  | act a => a.signalled?
  | _ => none

/-- The ids that other threads signal in a run. -/
def Move.signalled (vs : List (Move σ)) : List InvocationId := vs.filterMap signalled?

namespace Bridge

theorem mem_resolutions_resolve {j : InvocationId} {p : Outcome} (h : (id, o) ∈ (b.resolve j p).resolutions) :
    (id, o) ∈ b.resolutions ∨ id ∈ b.table.pending ∧ id = j ∧ o = p := by
  rw [resolutions, record_resolve, List.mem_append] at h
  refine h.imp_right fun new => ?_
  split at new
  · rename_i hp
    obtain ⟨rfl, rfl⟩ : id = j ∧ o = p := by simpa using new
    exact ⟨Table.isPending_iff.1 hp, rfl, rfl⟩
  · cases new

theorem mem_resolutions_dispatch {source : String} {held : Bool}
    (h : (id, o) ∈ (b.dispatch source held).2.resolutions) : (id, o) ∈ b.resolutions ∨ id = b.nextId := by
  rcases dispatch_cases b source held with ⟨p, e⟩ | ⟨-, -, e⟩ <;> rw [e] at h
  · rcases mem_resolutions_resolve h with old | ⟨-, new, -⟩
    · exact .inl (by simpa using old)
    · exact .inr new
  · exact .inl (by simpa using h)

theorem resolutions_release (b : Bridge σ) (j : InvocationId) : (b.release j).resolutions = b.resolutions := by
  simp

theorem mem_resolutions_perform {a : Act} (h : (id, o) ∈ (b.perform a).2.resolutions) :
    (id, o) ∈ b.resolutions ∨ a.signalled? = some id ∨ id = b.nextId := by
  cases a with
  | signal s =>
    rcases mem_resolutions_resolve h with old | ⟨-, rfl, -⟩
    · exact .inl old
    · exact .inr (.inl rfl)
  | post raw =>
    have posted : (id, o) ∈ (b.post raw).2.resolutions := h
    unfold post at posted
    split at posted
    · rename_i s hs
      rcases mem_resolutions_resolve posted with old | ⟨-, rfl, -⟩
      · exact .inl old
      · exact .inr (.inl (by simp [Act.signalled?, hs]))
    · exact .inl (by simpa [ready] using posted)
    · exact .inl (by simpa [initFailed] using posted)
    · exact .inl posted
  | ready => exact .inl (by simpa [perform, ready] using h)
  | initFailed reason => exact .inl (by simpa [perform, initFailed] using h)
  | invoke source =>
    rcases mem_resolutions_dispatch h with old | new
    · exact .inl old
    · exact .inr (.inr new)
  | release j =>
    have dropped : (id, o) ∈ (b.drop j).resolutions := h
    unfold drop at dropped
    split at dropped
    · exact .inl dropped
    · exact .inl (resolutions_release b j ▸ dropped)
  | invokeBlocking | gate | onEngineThread | shutdown => exact .inl h

/-- What others complete, they signal; but for what a dispatch refuses. -/
theorem mem_resolutions_move {v : Move σ} (h : (id, o) ∈ (b.move v).resolutions) :
    (id, o) ∈ b.resolutions ∨ v.signalled? = some id ∨ id = b.nextId := by
  cases v with
  | act a => exact mem_resolutions_perform h
  | block source =>
    rcases mem_resolutions_dispatch h with old | new
    · exact .inl old
    · exact .inr (.inr new)
  | poll j =>
    have polled : (id, o) ∈ (b.poll j).2.resolutions := h
    unfold poll at polled
    split at polled
    · exact .inl (resolutions_release b j ▸ polled)
    · exact .inl polled
  | expire j ms => exact .inl (resolutions_release b j ▸ h)
  | deadline =>
    have passed : (id, o) ∈ b.deadline.resolutions := h
    unfold deadline at passed
    split at passed
    · exact .inl (by simpa using passed)
    · exact .inl passed
  | advance | hold | pass | elsewhere | share => exact .inl h

/-- The end of the thread closes what is pending, and nothing else. -/
theorem mem_resolutions_close (h : (id, o) ∈ b.close.resolutions) :
    (id, o) ∈ b.resolutions ∨ id ∈ b.table.pending ∧ o = .error .closed := by
  have kept := close_keeps (I := fun b' : Bridge σ => b'.table.pending ⊆ b.table.pending ∧
      ∀ id o, (id, o) ∈ b'.resolutions → (id, o) ∈ b.resolutions ∨ id ∈ b.table.pending ∧ o = .error .closed)
    (fun b' j hb => ?_) b ⟨List.Subset.refl _, fun _ _ => .inl⟩
  · exact kept.2 id o h
  · constructor
    · rw [pending_resolve]
      exact List.Subset.trans List.erase_subset hb.1
    · intro id o hr
      rcases mem_resolutions_resolve hr with old | ⟨pending, -, closed⟩
      · exact hb.2 id o old
      · exact .inr ⟨hb.1 pending, closed⟩

end Bridge

/-! ## A run -/

/-- What holds after every run, whatever the engine. -/
structure Moment.Regular (m : Moment σ) : Prop where
  ledger : Ledger m.bridge
  queues : Queues m.bridge
  ready : Readied m
  custody : Custody m
  handed : m.bridge.handed.Sublist m.bridge.taken

theorem regular_after (e : Engine σ) (config : Config) (number : Nat) (vs : List (Move σ)) :
    ((Moment.start config number).after e vs).Regular where
  ledger := ledger_after e config number vs
  queues := (queues_after e config number vs).1
  ready := (queues_after e config number vs).2
  custody := custody_after e config number vs
  handed := Moment.handed_taken_after e config number vs

namespace Moment.Regular

theorem handed_sent (r : m.Regular) : m.bridge.handed ⊆ m.bridge.sent :=
  fun _ hc => r.queues.taken_first.subset (r.handed.subset hc)

theorem issued (r : m.Regular) (hc : c ∈ m.bridge.sent) : c.id ∈ m.bridge.issued :=
  r.queues.ids.subset (List.mem_map_of_mem hc)

theorem sent_unique (r : m.Regular) {d : Command} (hc : c ∈ m.bridge.sent) (hd : d ∈ m.bridge.sent)
    (h : c.id = d.id) : c = d :=
  List.inj_on_of_nodup_map (r.ledger.issued_nodup.sublist r.queues.ids) hc hd h

theorem current_handed (r : m.Regular) (hc : m.work.command? = some c) : c ∈ m.bridge.handed := r.custody.handed c hc

theorem next_sent (r : m.Regular) (hn : m.bridge.next? = some (c, b')) : c ∈ m.bridge.sent := by
  have running := Phase.isRunning_of_isTaking (taking_of_next? hn)
  rw [r.queues.in_order running, List.mem_append, List.mem_append]
  rcases next?_cases hn with ⟨cs, -, hd, -⟩ | ⟨cs, -, -, hq, -⟩
  · exact .inl (.inr (hd ▸ List.mem_cons_self))
  · exact .inr (hq ▸ List.mem_cons_self)

/-- A command whose turn it is was never handed over. -/
theorem next_not_handed (r : m.Regular) (hn : m.bridge.next? = some (c, b')) : c ∉ m.bridge.handed := by
  intro hc
  have running := Phase.isRunning_of_isTaking (taking_of_next? hn)
  have once : (m.bridge.taken ++ (m.bridge.deferred ++ m.bridge.queue)).Nodup := by
    rw [← List.append_assoc, ← r.queues.in_order running]
    exact r.queues.sent_nodup r.ledger
  have coming : c ∈ m.bridge.deferred ++ m.bridge.queue := by
    rw [List.mem_append]
    rcases next?_cases hn with ⟨cs, -, hd, -⟩ | ⟨cs, -, -, hq, -⟩
    · exact .inl (hd ▸ List.mem_cons_self)
    · exact .inr (hq ▸ List.mem_cons_self)
  exact List.disjoint_of_nodup_append once (r.handed.subset hc) coming

end Moment.Regular

/-- How far an engine that answers is with what it was given, where others signalled some ids. -/
structure Course (e : Engine σ) (answer : Command → Option Outcome) (signalled : List InvocationId) (m : Moment σ) :
    Prop where
  work : m.AtWork e answer
  /-- What was handed over is in hand, was left open, or has left the table. -/
  done : ∀ c ∈ m.bridge.handed, m.work.command? = some c ∨ answer c = none ∨ c.id ∈ m.bridge.ended
  /-- Its outcome is the answer, unless somebody else gave it one, or the thread ended with it open. -/
  own : ∀ c ∈ m.bridge.handed, ∀ o, (c.id, o) ∈ m.bridge.resolutions →
    answer c = some o ∨ c.id ∈ signalled ∨ answer c = none ∧ m.bridge.phase = .stopped

namespace Course

variable {ids ids' : List InvocationId}

theorem frame (h : Course e answer ids m) (work : m'.AtWork e answer)
    (handed : m'.bridge.handed = m.bridge.handed) (ended : m.bridge.ended ⊆ m'.bridge.ended)
    (stopped : m.bridge.phase = .stopped → m'.bridge.phase = .stopped) (signalled : ids ⊆ ids')
    (current : ∀ c, m.work.command? = some c →
      m'.work.command? = some c ∨ answer c = none ∨ c.id ∈ m'.bridge.ended)
    (resolved : ∀ c ∈ m.bridge.handed, ∀ o, (c.id, o) ∈ m'.bridge.resolutions →
      (c.id, o) ∈ m.bridge.resolutions ∨ answer c = some o ∨ c.id ∈ ids' ∨
        answer c = none ∧ m'.bridge.phase = .stopped) :
    Course e answer ids' m' where
  work := work
  done c hc := by
    rcases h.done c (handed ▸ hc) with now | open_ | gone
    · exact current c now
    · exact .inr (.inl open_)
    · exact .inr (.inr (ended gone))
  own c hc o ho := by
    have hc : c ∈ m.bridge.handed := handed ▸ hc
    rcases resolved c hc o ho with old | new
    · exact (h.own c hc o old).imp_right (Or.imp (fun hi => signalled hi) (And.imp_right stopped))
    · exact new

theorem outer (h : Course e answer ids m) (r : m.Regular) {v : Move σ} :
    Course e answer (ids ++ v.signalled?.toList) ⟨m.bridge.move v, m.work⟩ := by
  have ho := outer_move m.bridge v
  have ended : m.bridge.ended ⊆ (m.bridge.move v).ended := (Moment.record_mono (Moment.journal_outer ho)).subset
  refine h.frame ?_ (record_outer Event.handed_ofWork ho) ended
    (fun hs => (queues_outer ho).1.trans hs) (List.subset_append_left _ _) (fun c => .inl) fun c hc o hr => ?_
  · obtain ⟨b, work⟩ := m
    have at_work : Moment.AtWork e answer ⟨b, work⟩ := h.work
    cases work with
    | evaluating c rest => exact at_work.imp_right (And.imp_right fun hi => ended hi)
    | idle | building | wrapping => exact at_work
  · rcases mem_resolutions_move hr with old | signalled | new
    · exact .inl old
    · exact .inr (.inr (.inl (List.mem_append_right _ (by simp [signalled]))))
    · exact absurd (new ▸ r.issued (r.handed_sent hc)) r.ledger.nextId_not_issued

theorem idle (h : Course e answer ids ⟨b, .idle⟩) (r : (⟨b, .idle⟩ : Moment σ).Regular)
    (ans : e.Answers P answer) (hP : ∀ c ∈ b.sent, P c) (hs : Stride e ⟨b, .idle⟩ m') :
    Course e answer ids m' := by
  have ended : b.ended ⊆ m'.bridge.ended := (Moment.record_mono (Moment.journal_stride hs)).subset
  have same : ∀ {b' : Bridge σ} {w : Work σ}, b'.journal = b.journal →
      (b.phase = .stopped → b'.phase = .stopped) → Moment.AtWork e answer ⟨b', w⟩ →
        Course e answer ids ⟨b', w⟩ := by
    intro b' w hj hp work
    have records : ∀ {α : Type} (f : Event → Option α), b'.record f = b.record f :=
      fun f => by rw [record, hj, record]
    have resolutions : b'.resolutions = b.resolutions := records _
    have ended : b'.ended = b.ended := records _
    exact h.frame work (records _) (ended ▸ List.Subset.refl _) hp (List.Subset.refl _)
        (fun c hc => by cases hc)
      fun c hc o hr => .inl (resolutions ▸ hr)
  cases hs with
  | rest => exact h
  | beginBuild hp => exact same rfl id ans.build
  | drain hp =>
    refine same rfl (fun stopped => ?_) trivial
    rcases hp with hp | hp <;> simp [hp] at stopped
  | park hp | defer hp | serve hp =>
    refine same rfl (fun stopped => ?_) trivial
    rw [hp] at stopped
    cases stopped
  | close hp hc =>
    obtain ⟨stopped, -⟩ := close_frame b
    refine h.frame trivial (record_close Event.handed_ofWork) ended
      (fun _ => stopped) (List.Subset.refl _) (fun c hc => by cases hc) fun c hc o hr => ?_
    rcases mem_resolutions_close hr with old | ⟨pending, -⟩
    · exact .inl old
    · rcases h.done c hc with now | open_ | gone
      · cases now
      · exact .inr (.inr (.inr ⟨open_, stopped⟩))
      · exact absurd gone ((r.ledger.pending_iff c.id).1 pending).2
  | @skip b b' c hn hi =>
    have phase := next?_phase hn
    refine h.frame trivial (by simp [record_next _ hn]) ended phase.trans
      (List.Subset.refl _) (fun c hc => by cases hc) fun d hd o hr => .inl ?_
    simpa [record_next _ hn] using hr
  | @refuse b b' c hn hi f =>
    have phase := next?_phase hn
    refine h.frame trivial (by simp [record_next _ hn]) ended phase.trans
      (List.Subset.refl _) (fun c hc => by cases hc) fun d hd o hr => .inl ?_
    rcases mem_resolutions_resolve hr with old | ⟨-, same, -⟩
    · simpa [record_next _ hn] using old
    · have twin : d = c := r.sent_unique (r.handed_sent hd) (r.next_sent hn) same
      exact absurd (twin ▸ hd) (r.next_not_handed hn)
  | @handOver b b' c hn hi hg s hs =>
    have phase := next?_phase hn
    have handed : ((b'.note (.taken c)).note (.handedOver c)).handed = b.handed ++ [c] := by
      simp [record_next _ hn]
    have resolutions : ((b'.note (.taken c)).note (.handedOver c)).resolutions = b.resolutions := by
      simp [record_next _ hn]
    refine ⟨ans.call s c (hP c (r.next_sent hn)), fun d hd => ?_, fun d hd o hr => ?_⟩
    · rcases List.mem_append.1 (handed ▸ hd) with old | new
      · rcases h.done d old with now | open_ | gone
        · cases now
        · exact .inr (.inl open_)
        · exact .inr (.inr (ended gone))
      · exact .inl (congrArg some (List.mem_singleton.1 new).symm)
    · have before : (d.id, o) ∈ b.resolutions := resolutions ▸ hr
      rcases List.mem_append.1 (handed ▸ hd) with old | new
      · exact (h.own d old o before).imp_right (Or.imp_right (And.imp_right phase.trans))
      · obtain rfl := List.mem_singleton.1 new
        exact absurd before (r.ledger.not_resolved_of_pending hi)

theorem busy (h : Course e answer ids m) (r : m.Regular) (hw : m.work ≠ .idle) :
    Course e answer ids (m.advance e) := by
  have issued : ∀ c, m.work.command? = some c → c.id ∈ m.bridge.issued :=
    fun c hc => r.issued (r.handed_sent (r.current_handed hc))
  have ended : m.bridge.ended ⊆ (m.advance e).bridge.ended :=
    (Moment.record_mono (Moment.journal_stride (Moment.stride_advance e m))).subset
  obtain ⟨works, at_work⟩ := works_advance r.ledger issued h.work hw
  -- The engine completes nothing but the command that it is at.
  have own : ∀ {c : Command} {o : Outcome}, m.work.command? = some c → answer c = some o →
      ∀ d ∈ m.bridge.handed, ∀ o', d.id = c.id → o' = o → answer d = some o' := by
    rintro c o hc ha d hd o' same rfl
    rwa [r.sent_unique (r.handed_sent hd) (r.handed_sent (r.current_handed hc)) same]
  revert works at_work ended
  generalize hm' : m.advance e = m'
  generalize hwork : m.work = w at own hw
  intro ended works at_work
  have current : ∀ d, m.work.command? = some d → w.command? = some d := fun d hd => hwork ▸ hd
  cases works with
  | report rest rest' =>
    refine h.frame at_work (record_outer Event.handed_ofWork (.openGate m.bridge _)) ended id
      (List.Subset.refl _) (fun c hc => by simp [hwork, Work.command?] at hc) fun d hd o hr => .inl ?_
    simpa using hr
  | made s =>
    have starting : m.bridge.phase = .starting := r.ready.starting _ hwork
    have resolutions : (m.bridge.built (.ok s)).resolutions = m.bridge.resolutions := record_note_aside rfl _
    exact h.frame at_work (by simp [record_built Event.handed_ofWork]) ended
      (fun stopped => by simp [starting] at stopped) (List.Subset.refl _)
      (fun c hc => by simp [hwork, Work.command?] at hc) fun d hd o hr => .inl (resolutions ▸ hr)
  | @fail _ c hc t a ha =>
    have noted : ({ m.bridge with engine := some t }.note (.returned c (.error a))).resolutions =
        m.bridge.resolutions := record_note_aside rfl _
    refine h.frame at_work (by simp [record_returned Event.handed_ofWork]) ended id
      (List.Subset.refl _) (fun d hd => .inr (.inr ?_)) fun d hd o hr => ?_
    · obtain rfl : c = d := Option.some.inj (hc.symm.trans (current d hd))
      exact r.ledger.ended_returned (issued c hd) t a
    · rcases mem_resolutions_resolve hr with old | ⟨-, same, rfl⟩
      · exact .inl (noted ▸ old)
      · exact .inr (.inl (own hc ha d hd _ same rfl))
  | wrap c rest t program =>
    refine h.frame at_work (record_note_aside rfl _) ended id (List.Subset.refl _)
      (fun d hd => .inl (current d hd)) fun d hd o hr => .inl ?_
    simpa using hr
  | @signal c o ha rest rest' =>
    refine h.frame at_work (record_outer Event.handed_ofWork (.resolve m.bridge _ _)) ended id
      (List.Subset.refl _) (fun d hd => .inl (current d hd)) fun d hd o' hr => ?_
    rcases mem_resolutions_resolve hr with old | ⟨-, same, rfl⟩
    · exact .inl old
    · exact .inr (.inl (own rfl ha d hd _ same rfl))
  | @accept c rest ha t =>
    have resolutions : (m.bridge.returned c (t, .ok ())).resolutions = m.bridge.resolutions := record_note_aside rfl _
    refine h.frame at_work (by simp [record_returned Event.handed_ofWork]) ended id
      (List.Subset.refl _) (fun d hd => .inr ?_) fun d hd o hr => .inl (resolutions ▸ hr)
    obtain rfl : c = d := Option.some.inj (current d hd)
    exact ha.imp_right fun gone => ended gone

theorem start (e : Engine σ) (answer : Command → Option Outcome) (config : Config) (number : Nat) :
    Course e answer [] (Moment.start config number) :=
  ⟨trivial, nofun, nofun⟩

theorem advance (h : Course e answer ids m) (r : m.Regular) (ans : e.Answers P answer)
    (hP : ∀ c ∈ m.bridge.sent, P c) : Course e answer ids (m.advance e) := by
  by_cases hw : m.work = .idle
  · obtain ⟨b, work⟩ := m
    obtain rfl : work = .idle := hw
    exact h.idle r ans hP (Moment.stride_advance e _)
  · exact h.busy r hw

end Course

/-- In every run in which the engine gets what it may get, what it was given has its answer for an outcome,
unless another thread signalled its id. -/
theorem course_after (ans : e.Answers P answer) (config : Config) (number : Nat) (vs : List (Move σ))
    (hP : ∀ c ∈ ((Moment.start config number).after e vs).bridge.sent, P c) :
    Course e answer (Move.signalled vs) ((Moment.start config number).after e vs) := by
  induction vs using List.reverseRecOn with
  | nil => exact .start e answer config number
  | append_singleton vs v ih =>
    rw [Moment.after_append] at hP ⊢
    have before : ∀ c ∈ ((Moment.start config number).after e vs).bridge.sent, P c :=
      fun c hc => hP c ((Moment.record_after Event.sent? e _ [v]).subset hc)
    have course := ih before
    have regular := regular_after e config number vs
    by_cases hv : v = .advance
    · subst hv
      have signalled : Move.signalled (vs ++ [.advance]) = Move.signalled vs := by
        simp [Move.signalled, Move.signalled?]
      rw [signalled]
      exact course.advance regular ans before
    · have signalled : Move.signalled (vs ++ [v]) = Move.signalled vs ++ v.signalled?.toList := by
        cases hs : v.signalled? <;> simp [Move.signalled, hs]
      have moved := Moment.step_of_ne e ((Moment.start config number).after e vs) hv
      rw [signalled, Moment.after_cons, Moment.after_nil, moved]
      exact course.outer regular

/-! ## At rest -/

/-- A thread that runs behind an open gate and waits has nothing left to do. -/
theorem settled_of_isSettled (q : Queues b) (hg : b.gate.isReady) (hr : b.phase.isRunning) (hs : b.isSettled e) :
    Settled ⟨b, .idle⟩ := by
  have waits : b.task e = .wait := settled_iff.1 hs
  unfold task at waits
  split at waits
  · cases waits
  · cases waits
  · split at waits <;> cases waits
  · split at waits
    · exact absurd waits (turn_ne_wait e _ _)
    · cases waits
  · rename_i serving
    split at waits
    · cases waits
    · rename_i running
      split at waits
      · exact absurd waits (turn_ne_wait e _ _)
      · rename_i none_next
        refine ⟨hg, hr, q.none_deferred (.inr serving), ?_, rfl⟩
        cases hq : b.queue with
        | nil => rfl
        | cons c cs => simp [next?, serving, hq, running] at none_next
  · rename_i stopped
    simp [stopped, Phase.isRunning] at hr
  · rename_i crashed
    simp [crashed, Phase.isRunning] at hr

theorem Rests.settled_or_closed (rests : Rests e m) (r : m.Regular) (ended : Ended m.bridge)
    (hg : m.bridge.gate.isReady) : Settled m ∨ m.bridge.table.pending = [] := by
  obtain ⟨b, work⟩ := m
  obtain ⟨rfl, settled, alive⟩ := rests
  by_cases running : b.phase.isRunning
  · exact .inl (settled_of_isSettled r.queues hg running settled)
  · cases hp : b.phase with
    | stopped => exact .inr (ended.closed hp).2
    | crashed => exact absurd hp alive
    | _ => simp [hp, Phase.isRunning] at running

/-- What is pending where the thread has nothing left to do was left open. -/
theorem Course.open_of_settled {ids : List InvocationId} (h : Course e answer ids m) (r : m.Regular)
    (settled : Settled m) (hp : id ∈ m.bridge.table.pending) : ∃ c ∈ m.bridge.handed, c.id = id ∧ answer c = none := by
  obtain ⟨c, rfl, hd | hq | hc | ht⟩ := r.custody.kept settled.running id hp
  · simp [settled.none_deferred] at hd
  · simp [settled.none_queued] at hq
  · simp [settled.idle, Work.command?] at hc
  · have handed := r.custody.wrapped_handed c ht.1
    refine ⟨c, handed, rfl, ?_⟩
    rcases h.done c handed with now | open_ | gone
    · simp [settled.idle, Work.command?] at now
    · exact open_
    · exact absurd gone ((r.ledger.pending_iff c.id).1 hp).2

end ScriptHost
