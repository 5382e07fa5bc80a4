import ScriptHost.Bridge.Moment
import ScriptHost.Bridge.Journal
import Mathlib.Data.List.Induction
/-!
What can happen in a run.

`Acted` lists what an act of an engine does to its bridge, `Outer` what callers and others do, and `Stride`
what the engine thread does. By `outer_move` and `stride_advance` there is nothing else, so an invariant of
every run is one that both lists keep (`Moment.after_keeps`); where it takes more than a step's shape to keep it,
or only some moves do, it goes by `Moment.after_induction`. `after_tick` says that the thread, left to itself,
does what `Bridge.tick` says.
-/

namespace ScriptHost

variable {σ α : Type}

namespace Bridge

/-- What an act of an engine does to its bridge. -/
inductive Acted : Bridge σ → Bridge σ → Prop
  | same (b : Bridge σ) : Acted b b
  | dispatch (b : Bridge σ) (source : String) : Acted b (b.dispatch source).2
  | resolve (b : Bridge σ) (id : InvocationId) (o : Outcome) : Acted b (b.resolve id o)
  | drop (b : Bridge σ) (id : InvocationId) : Acted b (b.drop id)
  | openGate (b : Bridge σ) (r : Readiness) : Acted b (b.openGate r).2
  | cancel (b : Bridge σ) : Acted b b.cancel

/-- What is done to a bridge, the engine thread's own work apart. -/
inductive Outer : Bridge σ → Bridge σ → Prop
  | same (b : Bridge σ) : Outer b b
  | dispatch (b : Bridge σ) (source : String) (held : Bool) : Outer b (b.dispatch source held).2
  | resolve (b : Bridge σ) (id : InvocationId) (o : Outcome) : Outer b (b.resolve id o)
  | release (b : Bridge σ) (id : InvocationId) : Outer b (b.release id)
  | hold (b : Bridge σ) (id : InvocationId) : Outer b (b.hold id)
  | openGate (b : Bridge σ) (r : Readiness) : Outer b (b.openGate r).2
  | cancel (b : Bridge σ) : Outer b b.cancel
  | pass (b : Bridge σ) (ms : Nat) : Outer b (b.pass ms)
  | elsewhere (b : Bridge σ) (n : Nat) : Outer b { b with number := b.number + n }
  | share (b : Bridge σ) (f : σ → σ) : Outer b { b with engine := b.engine.map f }

theorem acted_post (b : Bridge σ) (raw : String) : Acted b (b.post raw).2 := by
  unfold post
  split
  · exact .resolve b _ _
  · exact .openGate b _
  · exact .openGate b _
  · exact .same b

theorem acted_perform (b : Bridge σ) (a : Act) : Acted b (b.perform a).2 := by
  cases a with
  | signal s => exact .resolve b s.id s.outcome
  | post raw => exact acted_post b raw
  | ready => exact .openGate b _
  | initFailed reason => exact .openGate b _
  | invoke source => exact .dispatch b source
  | release id => exact .drop b id
  | shutdown => exact .cancel b
  | invokeBlocking | gate | onEngineThread => exact .same b

theorem Acted.outer {b b' : Bridge σ} (h : Acted b b') : Outer b b' := by
  cases h with
  | same => exact .same b
  | dispatch source => exact .dispatch b source false
  | resolve id o => exact .resolve b id o
  | drop id =>
    unfold Bridge.drop
    split
    · exact .same b
    · exact .release b id
  | openGate r => exact .openGate b r
  | cancel => exact .cancel b

theorem outer_poll (b : Bridge σ) (id : InvocationId) : Outer b (b.poll id).2 := by
  unfold poll
  split
  · exact .release b id
  · exact .same b

theorem outer_deadline (b : Bridge σ) : Outer b b.deadline := by
  unfold deadline
  split
  · exact .openGate b _
  · exact .same b

theorem outer_move (b : Bridge σ) (v : Move σ) : Outer b (b.move v) := by
  cases v with
  | advance => exact .same b
  | act a => exact (acted_perform b a).outer
  | block source => exact .dispatch b source true
  | hold id => exact .hold b id
  | poll id => exact outer_poll b id
  | expire id ms => exact .release b id
  | deadline => exact outer_deadline b
  | pass ms => exact .pass b ms
  | elsewhere n => exact .elsewhere b n
  | share f => exact .share b f

/-- A dispatch enters the next id, and then either resolves it at once or sends its command to a running
thread. -/
theorem dispatch_cases (b : Bridge σ) (source : String) (held : Bool) :
    (∃ o, (b.dispatch source held).2 = (b.enter held).resolve b.nextId o) ∨
      encodingFault? source = none ∧ b.phase.isRunning ∧
        (b.dispatch source held).2 = (b.enter held).push ⟨b.nextId, source⟩ := by
  cases hf : encodingFault? source with
  | some f => exact .inl ⟨.error f, by simp [dispatch, send, hf]⟩
  | none =>
    by_cases hr : b.phase.isRunning
    · refine .inr ⟨rfl, hr, ?_⟩
      simp only [dispatch, send, hf]
      exact if_pos hr
    · refine .inl ⟨.error .notRunning, ?_⟩
      simp only [dispatch, send, hf]
      exact if_neg hr

theorem journal_noteIf (b : Bridge σ) (p : Bool) (e : Event) : b.journal <:+ (b.noteIf p e).journal := by
  cases p
  · exact List.suffix_rfl
  · exact List.suffix_cons _ _

theorem journal_resolve (b : Bridge σ) (id : InvocationId) (o : Outcome) :
    b.journal <:+ (b.resolve id o).journal := journal_noteIf _ _ _

/-- The next command is the oldest one held back, or else the oldest one sent. -/
theorem next?_cases {b b' : Bridge σ} {c : Command} (h : b.next? = some (c, b')) :
    (∃ cs, b.phase = .draining ∧ b.deferred = c :: cs ∧ b' = { b with deferred := cs }) ∨
      ∃ cs, b.phase = .serving ∧ b.cancelled = false ∧ b.queue = c :: cs ∧ b' = { b with queue := cs } := by
  unfold next? at h
  split at h
  · rename_i c cs hp hd
    obtain ⟨rfl, rfl⟩ := Prod.mk.inj (Option.some.inj h)
    exact .inl ⟨cs, hp, hd, rfl⟩
  · rename_i c cs hp hq
    split at h
    · cases h
    · rename_i hc
      obtain ⟨rfl, rfl⟩ := Prod.mk.inj (Option.some.inj h)
      exact .inr ⟨cs, hp, by simpa using hc, hq, rfl⟩
  · cases h

/-- A turn changes the two queues only. -/
theorem next?_eq {b b' : Bridge σ} {c : Command} (h : b.next? = some (c, b')) :
    b' = { b with deferred := b'.deferred, queue := b'.queue } := by
  rcases next?_cases h with ⟨cs, -, -, rfl⟩ | ⟨cs, -, -, -, rfl⟩ <;> rfl

theorem next?_table {b b' : Bridge σ} {c : Command} (h : b.next? = some (c, b')) : b'.table = b.table := by
  rw [next?_eq h]

theorem next?_phase {b b' : Bridge σ} {c : Command} (h : b.next? = some (c, b')) : b'.phase = b.phase := by
  rw [next?_eq h]

theorem next?_gate {b b' : Bridge σ} {c : Command} (h : b.next? = some (c, b')) : b'.gate = b.gate := by
  rw [next?_eq h]

theorem next?_engine {b b' : Bridge σ} {c : Command} (h : b.next? = some (c, b')) : b'.engine = b.engine := by
  rw [next?_eq h]

theorem engine_returned (b : Bridge σ) (c : Command) (r : σ × Except Abort Unit) :
    (b.returned c r).engine = some r.1 := by
  obtain ⟨s, (a | u)⟩ := r <;> rfl

/-- A property that is kept when one id is failed is kept when many are. -/
theorem failEach_keeps {I : Bridge σ → Prop} {f : Failure} (h : ∀ b id, I b → I (b.resolve id (.error f)))
    (ids : List InvocationId) (b : Bridge σ) (hb : I b) : I (b.failEach f ids) := by
  induction ids generalizing b with
  | nil => exact hb
  | cons id ids ih => exact ih _ (h b id hb)

/-- A property that is kept when ids are closed holds after the thread's end if it holds of the bridge
with both queues emptied. -/
theorem close_keeps {I : Bridge σ → Prop} (h : ∀ b id, I b → I (b.resolve id (.error .closed))) (b : Bridge σ)
    (hb : I { b with deferred := [], queue := [], phase := .stopped }) : I b.close :=
  failEach_keeps h _ _ (failEach_keeps h _ _ hb)

/-- Once the factory is done, the thread turns to its queue, or crashes and loses it. -/
theorem built_turns (b : Bridge σ) (r : Except Abort σ) :
    (b.canWait ∧ (∀ text, r ≠ .error (.panicked text)) ∧
        (b.built r).phase = .bootstrapping ∧ (b.built r).queue = b.queue) ∨
      (b.canWait = false ∨ ∃ text, r = .error (.panicked text)) ∧
        (b.built r).phase = .crashed ∧ (b.built r).queue = [] := by
  rcases r with (f | text) | s
  case error.panicked => exact .inr ⟨.inr ⟨text, rfl⟩, rfl, rfl⟩
  all_goals
    cases hw : b.canWait with
    | true => exact .inl ⟨rfl, nofun, if_pos hw, if_pos hw⟩
    | false => exact .inr ⟨.inl rfl, if_neg (Bool.eq_false_iff.1 hw), if_neg (Bool.eq_false_iff.1 hw)⟩

end Bridge

/-- What the engine thread does. -/
inductive Stride (e : Engine σ) : Moment σ → Moment σ → Prop
  | rest (m : Moment σ) : Stride e m m
  | beginBuild {b : Bridge σ} (hp : b.phase = .starting) : Stride e ⟨b, .idle⟩ ⟨b, .building e.build⟩
  | actInBuild {b b' : Bridge σ} (h : b.Acted b') (rest rest' : Conduct (Except Abort σ)) :
      Stride e ⟨b, .building rest⟩ ⟨b', .building rest'⟩
  | endBuild (b : Bridge σ) (r : Except Abort σ) : Stride e ⟨b, .building (.done r)⟩ ⟨b.built r, .idle⟩
  | drain {b : Bridge σ} (hp : b.phase = .bootstrapping ∨ b.phase = .parked) (hg : b.gate.isReady) :
      Stride e ⟨b, .idle⟩ ⟨{ b with phase := .draining }, .idle⟩
  | park {b : Bridge σ} (hp : b.phase = .bootstrapping) : Stride e ⟨b, .idle⟩ ⟨{ b with phase := .parked }, .idle⟩
  | defer {b : Bridge σ} {c : Command} {cs : List Command} (hp : b.phase = .parked) (hq : b.queue = c :: cs) :
      Stride e ⟨b, .idle⟩ ⟨{ b with queue := cs, deferred := b.deferred ++ [c], phase := .bootstrapping }, .idle⟩
  | serve {b : Bridge σ} (hp : b.phase = .draining) (hd : b.deferred = []) :
      Stride e ⟨b, .idle⟩ ⟨{ b with phase := .serving }, .idle⟩
  | close {b : Bridge σ} (hp : b.phase = .parked ∨ b.phase = .serving) (hc : b.cancelled) :
      Stride e ⟨b, .idle⟩ ⟨b.close, .idle⟩
  | skip {b b' : Bridge σ} {c : Command} (hn : b.next? = some (c, b')) (hi : c.id ∉ b.table.pending) :
      Stride e ⟨b, .idle⟩ ⟨b'.note (.taken c), .idle⟩
  | refuse {b b' : Bridge σ} {c : Command} (hn : b.next? = some (c, b')) (hi : c.id ∈ b.table.pending)
      (f : Failure) (hf : (∃ reason, b.gate = .ready (.initFailed reason)) ∨ b.engine = none) :
      Stride e ⟨b, .idle⟩ ⟨(b'.note (.taken c)).resolve c.id (.error f), .idle⟩
  | handOver {b b' : Bridge σ} {c : Command} (hn : b.next? = some (c, b')) (hi : c.id ∈ b.table.pending)
      (hg : ∀ reason, b.gate ≠ .ready (.initFailed reason)) {s : σ} (hs : b.engine = some s) :
      Stride e ⟨b, .idle⟩
        ⟨(b'.note (.taken c)).note (.handedOver c), .wrapping c (e.wrap s c.id c.source)⟩
  | actInWrapping {b b' : Bridge σ} (h : b.Acted b') (c : Command)
      (rest rest' : Conduct (σ × Except Abort String)) :
      Stride e ⟨b, .wrapping c rest⟩ ⟨b', .wrapping c rest'⟩
  | failWrapping (b : Bridge σ) (c : Command) (s : σ) (a : Abort) :
      Stride e ⟨b, .wrapping c (.done (s, .error a))⟩ ⟨b.returned c (s, .error a), .idle⟩
  | endWrapping (b : Bridge σ) (c : Command) (s : σ) (program : String) :
      Stride e ⟨b, .wrapping c (.done (s, .ok program))⟩
        ⟨b.note (.wrapped c), .evaluating c (e.evaluate s c.id program)⟩
  | actInEvaluation {b b' : Bridge σ} (h : b.Acted b') (c : Command)
      (rest rest' : Conduct (σ × Except Abort Unit)) :
      Stride e ⟨b, .evaluating c rest⟩ ⟨b', .evaluating c rest'⟩
  | endEvaluation (b : Bridge σ) (c : Command) (r : σ × Except Abort Unit) :
      Stride e ⟨b, .evaluating c (.done r)⟩ ⟨b.returned c r, .idle⟩

namespace Bridge

/-- What the thread's task makes of a bridge at rest. -/
def Task.moment (b : Bridge σ) : Task σ → Moment σ
  | .wait => ⟨b, .idle⟩
  | .step b => ⟨b, .idle⟩
  | .build b rest => ⟨b, .building rest⟩
  | .wrap b c rest => ⟨b, .wrapping c rest⟩

theorem stride_turn (e : Engine σ) {b b' : Bridge σ} {c : Command} (hn : b.next? = some (c, b')) :
    Stride e ⟨b, .idle⟩ ((b'.turn e c).moment b) := by
  have ht := next?_table hn
  have hg := next?_gate hn
  have he := next?_engine hn
  by_cases hi : c.id ∈ b.table.pending
  · have hi' : (b'.note (.taken c)).table.isPending c.id := by
      simpa [note, ht] using hi
    simp only [turn, hi', Bool.not_true, Bool.false_eq_true, if_false]
    split
    · rename_i reason hr
      exact .refuse hn hi _ (.inl ⟨reason, hg ▸ hr⟩)
    · rename_i hs _
      exact .refuse hn hi _ (.inr (he ▸ hs))
    · rename_i s hs hr
      refine .handOver hn hi (fun reason h => ?_) (he ▸ hs)
      exact hr reason (hg.trans h)
  · have hi' : (b'.note (.taken c)).table.isPending c.id = false := by
      simpa [note, ht] using hi
    simp only [turn, hi', Bool.not_false, if_true]
    exact .skip hn hi

theorem cancelled_of_quits {b : Bridge σ} (h : b.quits) : b.cancelled := by
  rw [quits, Bool.and_eq_true] at h
  exact h.1

theorem stride_task (e : Engine σ) (b : Bridge σ) : Stride e ⟨b, .idle⟩ ((b.task e).moment b) := by
  unfold task
  split
  · rename_i hp
    exact .beginBuild hp
  · rename_i hp
    split
    · rename_i hg
      exact .drain (.inl hp) hg
    · exact .park hp
  · rename_i hp
    split
    · rename_i quits
      exact .close (.inl hp) (cancelled_of_quits quits)
    · split
      · rename_i hg
        exact .drain (.inr hp) hg
      · split
        · exact .rest _
        · rename_i hq
          exact .defer hp hq
  · rename_i hp
    split
    · rename_i hn
      exact stride_turn e hn
    · rename_i hn
      refine .serve hp ?_
      cases hd : b.deferred with
      | nil => rfl
      | cons c cs => simp [next?, hp, hd] at hn
  · rename_i hp
    split
    · rename_i hc
      exact .close (.inr hp) hc
    · split
      · rename_i hn
        exact stride_turn e hn
      · exact .rest _
  · exact .rest _
  · exact .rest _

end Bridge

namespace Moment

theorem advance_idle (e : Engine σ) (b : Bridge σ) :
    (⟨b, .idle⟩ : Moment σ).advance e = (b.task e).moment b := by
  simp only [advance]
  cases b.task e <;> rfl

/-- The engine thread does nothing that is not listed. -/
theorem stride_advance (e : Engine σ) (m : Moment σ) : Stride e m (m.advance e) := by
  obtain ⟨b, work⟩ := m
  cases work with
  | idle =>
    rw [advance_idle]
    exact Bridge.stride_task e b
  | building rest =>
    cases rest with
    | done r => exact .endBuild b r
    | act a next => exact .actInBuild (Bridge.acted_perform b a) _ _
  | wrapping c rest =>
    rcases rest with ⟨s, (a | program)⟩ | ⟨a, next⟩
    · exact .failWrapping b c s a
    · exact .endWrapping b c s program
    · exact .actInWrapping (Bridge.acted_perform b a) c _ _
  | evaluating c rest =>
    cases rest with
    | done r => exact .endEvaluation b c r
    | act a next => exact .actInEvaluation (Bridge.acted_perform b a) c _ _

theorem step_of_ne (e : Engine σ) (m : Moment σ) {v : Move σ} (h : v ≠ .advance) :
    m.step e v = ⟨m.bridge.move v, m.work⟩ := by
  cases v with
  | advance => exact absurd rfl h
  | _ => rfl

@[simp] theorem after_nil (e : Engine σ) (m : Moment σ) : m.after e [] = m := rfl

@[simp] theorem after_cons (e : Engine σ) (m : Moment σ) (v : Move σ) (vs : List (Move σ)) :
    m.after e (v :: vs) = (m.step e v).after e vs := rfl

theorem after_append (e : Engine σ) (m : Moment σ) (vs ws : List (Move σ)) :
    m.after e (vs ++ ws) = (m.after e vs).after e ws := List.foldl_append

/-- An invariant of every run is one that callers, signals, engines and the engine thread keep. -/
theorem after_keeps {e : Engine σ} {I : Moment σ → Prop}
    (outer : ∀ m b, m.bridge.Outer b → I m → I ⟨b, m.work⟩) (stride : ∀ m m', Stride e m m' → I m → I m')
    {m : Moment σ} (h : I m) (vs : List (Move σ)) : I (m.after e vs) := by
  induction vs generalizing m with
  | nil => exact h
  | cons v vs ih =>
    refine ih ?_
    by_cases hv : v = .advance
    · subst hv
      exact stride m _ (stride_advance e m) h
    · rw [step_of_ne e m hv]
      exact outer m _ (Bridge.outer_move m.bridge v) h

/-- An invariant of some runs from a start: the engine thread keeps it, at rest and at work, at each moment that
can be reached, and so do the other moves of the run. -/
theorem after_induction {e : Engine σ} {I : Moment σ → Prop} {m₀ : Moment σ} {vs : List (Move σ)} (start : I m₀)
    (idle : ∀ b m', (∃ us, m₀.after e us = ⟨b, .idle⟩) → I ⟨b, .idle⟩ → Stride e ⟨b, .idle⟩ m' → I m')
    (busy : ∀ m, (∃ us, m₀.after e us = m) → m.work ≠ .idle → I m → I (m.advance e))
    (other : ∀ m, ∀ v ∈ vs, v ≠ .advance → I m → I ⟨m.bridge.move v, m.work⟩) : I (m₀.after e vs) := by
  induction vs using List.reverseRecOn with
  | nil => exact start
  | append_singleton vs v ih =>
    have before : I (m₀.after e vs) := ih fun m w hw => other m w (List.mem_append_left _ hw)
    have reached : ∃ us, m₀.after e us = m₀.after e vs := ⟨vs, rfl⟩
    rw [after_append, after_cons, after_nil]
    generalize m₀.after e vs = m at before reached
    by_cases hv : v = .advance
    · subst hv
      by_cases hw : m.work = .idle
      · obtain ⟨b, work⟩ := m
        obtain rfl : work = .idle := hw
        exact idle b _ reached before (stride_advance e _)
      · exact busy m reached hw before
    · rw [step_of_ne e m hv]
      exact other m v (List.mem_append_right _ (List.mem_singleton_self v)) hv before

/-! ## The journal only grows -/

theorem journal_outer {b b' : Bridge σ} (h : b.Outer b') : b.journal <:+ b'.journal := by
  cases h with
  | dispatch source held =>
    rcases Bridge.dispatch_cases b source held with ⟨o, e⟩ | ⟨-, -, e⟩ <;> rw [e]
    · have entered : b.journal <:+ (b.enter held).journal := List.suffix_cons _ _
      exact entered.trans (Bridge.journal_resolve _ _ _)
    · exact (List.suffix_cons _ _).trans (List.suffix_cons _ _)
  | resolve id o => exact Bridge.journal_resolve b id o
  | release id => exact (Bridge.journal_noteIf _ _ _).trans (Bridge.journal_noteIf _ _ _)
  | openGate r => exact Bridge.journal_noteIf _ _ _
  | same | hold | cancel | pass | elsewhere | share => exact List.suffix_rfl

theorem journal_built (b : Bridge σ) (r : Except Abort σ) : b.journal <:+ (b.built r).journal := by
  rcases r with (f | text) | s
  · exact (journal_outer (.openGate b _)).trans (List.suffix_cons _ _)
  · exact List.suffix_cons _ _
  · exact List.suffix_cons _ _

theorem journal_returned (b : Bridge σ) (c : Command) (r : σ × Except Abort Unit) :
    b.journal <:+ (b.returned c r).journal := by
  obtain ⟨s, (a | u)⟩ := r
  · have noted : b.journal <:+ ({ b with engine := some s }.note (.returned c (.error a))).journal :=
      List.suffix_cons _ _
    exact noted.trans (Bridge.journal_resolve _ _ _)
  · exact List.suffix_cons _ _

theorem journal_stride {e : Engine σ} {m m' : Moment σ} (h : Stride e m m') :
    m.bridge.journal <:+ m'.bridge.journal := by
  have next : ∀ {b b' : Bridge σ} {c : Command}, b.next? = some (c, b') → b'.journal = b.journal :=
    fun hn => by rw [Bridge.next?_eq hn]
  cases h with
  | actInBuild ha | actInWrapping ha | actInEvaluation ha => exact journal_outer ha.outer
  | endBuild b r => exact journal_built b r
  | failWrapping b c s a => exact journal_returned b c _
  | endWrapping => exact List.suffix_cons _ _
  | endEvaluation b c r => exact journal_returned b c r
  | @close b =>
    exact Bridge.close_keeps (I := fun b' => b.journal <:+ b'.journal)
      (fun b' id h => h.trans (journal_outer (.resolve b' id _))) b List.suffix_rfl
  | skip hn => exact next hn ▸ List.suffix_cons _ _
  | @refuse _ b' c hn =>
    have noted : b'.journal <:+ (b'.note (.taken c)).journal := List.suffix_cons _ _
    exact next hn ▸ noted.trans (Bridge.journal_resolve _ _ _)
  | handOver hn => exact next hn ▸ (List.suffix_cons _ _).trans (List.suffix_cons _ _)
  | rest | beginBuild | drain | park | defer | serve => exact List.suffix_rfl

theorem record_mono {f : Event → Option α} {b b' : Bridge σ} (h : b.journal <:+ b'.journal) :
    b.record f <+: b'.record f := List.reverse_prefix.2 (h.filterMap f)

/-- What is recorded stays recorded, and later records come behind it. -/
theorem record_after (f : Event → Option α) (e : Engine σ) (m : Moment σ) (vs : List (Move σ)) :
    m.bridge.record f <+: (m.after e vs).bridge.record f := by
  have grows : m.bridge.journal <:+ (m.after e vs).bridge.journal :=
    after_keeps (I := fun m' => m.bridge.journal <:+ m'.bridge.journal)
      (fun m' b ho h => h.trans (journal_outer ho)) (fun m' m'' hs h => h.trans (journal_stride hs))
      List.suffix_rfl vs
  exact record_mono grows

/-! ## The engine thread left to itself -/

/-- Nobody but the engine thread moves, so many times. -/
def alone (n : Nat) : List (Move σ) := List.replicate n .advance

theorem after_building (e : Engine σ) (rest : Conduct (Except Abort σ)) (b : Bridge σ) :
    ∃ n, (⟨b, .building rest⟩ : Moment σ).after e (alone n) = ⟨(b.run rest).2.built (b.run rest).1, .idle⟩ := by
  induction rest generalizing b with
  | done r => exact ⟨1, rfl⟩
  | act a next ih =>
    obtain ⟨n, hn⟩ := ih (b.perform a).1 (b.perform a).2
    exact ⟨n + 1, hn⟩

theorem after_evaluating (e : Engine σ) (c : Command) (rest : Conduct (σ × Except Abort Unit)) (b : Bridge σ) :
    ∃ n, (⟨b, .evaluating c rest⟩ : Moment σ).after e (alone n) =
      ⟨(b.run rest).2.returned c (b.run rest).1, .idle⟩ := by
  induction rest generalizing b with
  | done r => exact ⟨1, rfl⟩
  | act a next ih =>
    obtain ⟨n, hn⟩ := ih (b.perform a).1 (b.perform a).2
    exact ⟨n + 1, hn⟩

theorem after_wrapping (e : Engine σ) (c : Command) (rest : Conduct (σ × Except Abort String)) (b : Bridge σ) :
    ∃ n, (⟨b, .wrapping c rest⟩ : Moment σ).after e (alone n) = ⟨b.handOff e c rest, .idle⟩ := by
  induction rest generalizing b with
  | done r =>
    obtain ⟨s, (a | program)⟩ := r
    · exact ⟨1, rfl⟩
    · obtain ⟨n, hn⟩ := after_evaluating e c (e.evaluate s c.id program) (b.note (.wrapped c))
      exact ⟨n + 1, hn⟩
  | act a next ih =>
    obtain ⟨n, hn⟩ := ih (b.perform a).1 (b.perform a).2
    exact ⟨n + 1, hn⟩

/-- Left to itself, the thread finishes what it is at. -/
theorem after_work (e : Engine σ) (m : Moment σ) : ∃ n b, m.after e (alone n) = ⟨b, .idle⟩ := by
  obtain ⟨b, work⟩ := m
  cases work with
  | idle => exact ⟨0, b, rfl⟩
  | building rest =>
    obtain ⟨n, hn⟩ := after_building e rest b
    exact ⟨n, _, hn⟩
  | wrapping c rest =>
    obtain ⟨n, hn⟩ := after_wrapping e c rest b
    exact ⟨n, _, hn⟩
  | evaluating c rest =>
    obtain ⟨n, hn⟩ := after_evaluating e c rest b
    exact ⟨n, _, hn⟩

theorem after_alone_add (e : Engine σ) (m : Moment σ) (n k : Nat) :
    m.after e (alone (n + k)) = (m.after e (alone n)).after e (alone k) := by
  rw [alone, ← List.replicate_append_replicate, after_append]
  rfl

/-- The engine thread, left to itself, does what `tick` says. -/
theorem after_tick {e : Engine σ} {b b' : Bridge σ} (h : b.tick e = some b') :
    ∃ n, (⟨b, .idle⟩ : Moment σ).after e (alone n) = ⟨b', .idle⟩ := by
  unfold Bridge.tick at h
  have hs : (⟨b, .idle⟩ : Moment σ).step e .advance = (b.task e).moment b := advance_idle e b
  cases ht : b.task e with
  | wait => simp [ht] at h
  | step b₁ =>
    simp only [ht, Option.some.injEq] at h
    exact ⟨1, by rw [alone, List.replicate_one, after_cons, hs, ht, h]; rfl⟩
  | build b₁ rest =>
    simp only [ht, Option.some.injEq] at h
    obtain ⟨n, hn⟩ := after_building e rest b₁
    exact ⟨n + 1, by rw [alone, List.replicate_succ, after_cons, hs, ht, ← h]; exact hn⟩
  | wrap b₁ c rest =>
    simp only [ht, Option.some.injEq] at h
    obtain ⟨n, hn⟩ := after_wrapping e c rest b₁
    exact ⟨n + 1, by rw [alone, List.replicate_succ, after_cons, hs, ht, ← h]; exact hn⟩

/-- A bridge that settles is a bridge whose engine thread is left to itself. -/
theorem after_settle (e : Engine σ) (patience : Nat) (b : Bridge σ) :
    ∃ n, (⟨b, .idle⟩ : Moment σ).after e (alone n) = ⟨b.settle e patience, .idle⟩ := by
  induction patience generalizing b with
  | zero => exact ⟨0, rfl⟩
  | succ k ih =>
    unfold Bridge.settle
    cases ht : b.tick e with
    | none => exact ⟨0, rfl⟩
    | some b₁ =>
      obtain ⟨n, hn⟩ := after_tick ht
      obtain ⟨n', hn'⟩ := ih b₁
      exact ⟨n + n', by rw [after_alone_add, hn, hn']⟩

end Moment

end ScriptHost
