import ScriptHost.Proofs.Bridge.Answers
import ScriptHost.Proofs.Bridge.Isolation
import ScriptHost.Proofs.Bridge.Progress
/-!
Runs in which callers only call.

Callers invoke, wait and look for what there is, and the gate opens at some time; nobody signals, gives an
id up or ends the thread (`Move.IsCalling`). Then nothing comes between a command and an engine that
answers: `Undisturbed` says that what was sent is handed over, all of it and in order.
-/

namespace ScriptHost

open Bridge

variable {σ : Type} {e : Engine σ} {b b' : Bridge σ} {m m' : Moment σ}
  {c : Command} {id : InvocationId} {o : Outcome}

theorem Readies.quiet {rest : Conduct (Except Abort σ)} (h : Readies rest) : rest.Quiet := by
  induction h with
  | made s => exact .done _
  | report _ ih => exact .act nofun ih

/-! ## Calls -/

/-- A move by which nobody signals, gives an id up, fails the engine or ends its thread. -/
def Move.IsCalling : Move σ → Prop
  | .advance | .block _ | .hold _ | .poll _ | .deadline | .pass _ | .elsewhere _ => True
  | .act (.invoke _) | .act .ready | .act .gate | .act .onEngineThread => True
  | .act (.post raw) => Message.parse raw = .ok (.lifecycle .ready) ∨ ∃ f, Message.parse raw = .error f
  | _ => False

/-- The source that a move asks for. -/
def Move.source? : Move σ → Option String
  | .act (.invoke source) | .block source => some source
  | _ => none

/-- What callers ask for in a run, in order. -/
def Moment.asked (e : Engine σ) (m : Moment σ) : List (Move σ) → List Command
  | [] => []
  | v :: vs => (v.source?.map fun source => ⟨m.bridge.nextId, source⟩).toList ++ (m.step e v).asked e vs

namespace Moment

theorem asked_append (e : Engine σ) (m : Moment σ) (vs ws : List (Move σ)) :
    m.asked e (vs ++ ws) = m.asked e vs ++ (m.after e vs).asked e ws := by
  induction vs generalizing m with
  | nil => rfl
  | cons v vs ih => simp [asked, ih]

theorem asked_alone (e : Engine σ) (m : Moment σ) (n : Nat) : m.asked e (alone n) = [] := by
  induction n generalizing m with
  | zero => rfl
  | succ n ih => exact ih (m.step e .advance)

theorem source_of_asked {vs : List (Move σ)} (h : c ∈ m.asked e vs) : ∃ v ∈ vs, v.source? = some c.source := by
  induction vs generalizing m with
  | nil => cases h
  | cons v vs ih =>
    rcases List.mem_append.1 h with now | later
    · obtain ⟨source, hs, rfl⟩ := Option.map_eq_some_iff.1 (Option.mem_toList.1 now)
      exact ⟨v, List.mem_cons_self, hs⟩
    · obtain ⟨w, hw, hs⟩ := ih later
      exact ⟨w, List.mem_cons_of_mem v hw, hs⟩

theorem id_of_asked {vs : List (Move σ)} (h : c ∈ m.asked e vs) :
    ∃ n, c.id = .issue m.bridge.config.idStem n := by
  induction vs generalizing m with
  | nil => cases h
  | cons v vs ih =>
    rcases List.mem_append.1 h with now | later
    · obtain ⟨source, -, rfl⟩ := Option.map_eq_some_iff.1 (Option.mem_toList.1 now)
      exact ⟨m.bridge.number, rfl⟩
    · obtain ⟨n, hn⟩ := ih later
      exact ⟨n, (issues_step e m v).config ▸ hn⟩

end Moment

theorem Move.signalled_of_calling {vs : List (Move σ)} (h : ∀ v ∈ vs, v.IsCalling) : Move.signalled vs = [] := by
  refine List.filterMap_eq_nil_iff.2 fun v hv => ?_
  have calling := h v hv
  cases v with
  | act a =>
    cases a with
    | post raw =>
      rcases calling with ready | ⟨f, failed⟩
      · simp [signalled?, Act.signalled?, ready]
      · simp [signalled?, Act.signalled?, failed]
    | signal => cases calling
    | _ => rfl
  | _ => rfl

namespace Bridge

/-- What such a move does to a bridge. -/
inductive Called (b : Bridge σ) : Option String → Bridge σ → Prop
  | same : Called b none b
  | dispatch (source : String) (held : Bool) : Called b (some source) (b.dispatch source held).2
  | hold (id : InvocationId) : Called b none (b.hold id)
  | poll (id : InvocationId) : Called b none (b.poll id).2
  | openGate {r : Readiness} (hr : ∀ reason, r ≠ .initFailed reason) : Called b none (b.openGate r).2
  | pass (ms : Nat) : Called b none (b.pass ms)
  | elsewhere (n : Nat) : Called b none { b with number := b.number + n }

theorem called_move {v : Move σ} (h : v.IsCalling) : Called b v.source? (b.move v) := by
  cases v with
  | advance => exact .same
  | block source => exact .dispatch source true
  | hold id => exact .hold id
  | poll id => exact .poll id
  | pass ms => exact .pass ms
  | elsewhere n => exact .elsewhere n
  | deadline =>
    change Called b none b.deadline
    unfold deadline
    split
    · exact .openGate nofun
    · exact .same
  | expire | share => cases h
  | act a =>
    cases a with
    | invoke source => exact .dispatch source false
    | ready => exact .openGate nofun
    | gate | onEngineThread => exact .same
    | post raw =>
      change Called b none (b.post raw).2
      rcases h with ready | ⟨f, failed⟩
      · rw [post, ready]
        exact .openGate nofun
      · rw [post, failed]
        exact .same
    | signal | initFailed | invokeBlocking | release | shutdown => cases h

end Bridge

/-- Who finds an outcome finds it after the id left the table. -/
theorem Ledger.not_pending_of_look (l : Ledger b) (h : b.look id = some o) : id ∉ b.table.pending := by
  intro hp
  unfold look at h
  split at h
  · rename_i p given
    obtain ⟨w, found, outcome⟩ := Option.bind_eq_some_iff.1 given
    obtain ⟨hw, rfl⟩ := (Table.waiter?_eq_some_iff l.waiters_nodup).1 found
    rw [l.not_given_of_pending hw hp] at outcome
    cases outcome
  · simp [hp] at h

/-! ## What was asked for -/

/-- The bridge after a run in which callers only call. -/
structure Undisturbed (asked : List Command) (m : Moment σ) : Prop where
  issued : m.bridge.issued = asked.map (·.id)
  /-- What can cross the border is sent, in order; the rest has failed. -/
  sent : m.bridge.sent = asked.filter fun c => (encodingFault? c.source).isNone
  refused : ∀ c ∈ asked, ∀ f, encodingFault? c.source = some f → (c.id, .error f) ∈ m.bridge.resolutions
  /-- What has its turn is handed over. -/
  taken : m.bridge.taken = m.bridge.handed
  ended : ∀ id ∈ m.bridge.ended, id ∈ m.bridge.handed.map (·.id) ∨
    ∃ c ∈ asked, c.id = id ∧ (encodingFault? c.source).isSome
  kept : m.bridge.discarded = []
  running : m.bridge.phase.isRunning
  uncancelled : m.bridge.cancelled = false
  not_failed : ∀ reason, m.bridge.gate ≠ .ready (.initFailed reason)
  engine : m.bridge.phase = .starting ∨ m.bridge.engine.isSome

namespace Undisturbed

variable {asked : List Command}

theorem frame (h : Undisturbed asked m) (issued : m'.bridge.issued = m.bridge.issued)
    (sent : m'.bridge.sent = m.bridge.sent) (resolutions : m.bridge.resolutions ⊆ m'.bridge.resolutions)
    (taken : m'.bridge.taken = m.bridge.taken) (handed : m'.bridge.handed = m.bridge.handed)
    (ended : ∀ id ∈ m'.bridge.ended, id ∈ m.bridge.ended ∨ id ∈ m.bridge.handed.map (·.id))
    (kept : m'.bridge.discarded = m.bridge.discarded) (running : m'.bridge.phase.isRunning)
    (uncancelled : m'.bridge.cancelled = m.bridge.cancelled)
    (not_failed : ∀ reason, m'.bridge.gate ≠ .ready (.initFailed reason))
    (engine : m'.bridge.phase = .starting ∨ m'.bridge.engine.isSome) : Undisturbed asked m' where
  issued := issued.trans h.issued
  sent := sent.trans h.sent
  refused c hc f hf := resolutions (h.refused c hc f hf)
  taken := by rw [taken, handed, h.taken]
  ended id hid := by
    rw [handed]
    rcases ended id hid with old | new
    · exact h.ended id old
    · exact .inl new
  kept := kept.trans h.kept
  running := running
  uncancelled := uncancelled.trans h.uncancelled
  not_failed := not_failed
  engine := engine

/-- What changes neither the journal nor how the thread stands. -/
theorem same (h : Undisturbed asked m) (journal : m'.bridge.journal = m.bridge.journal)
    (running : m'.bridge.phase.isRunning) (uncancelled : m'.bridge.cancelled = m.bridge.cancelled)
    (gate : m'.bridge.gate = m.bridge.gate) (engine : m'.bridge.phase = .starting ∨ m'.bridge.engine.isSome) :
    Undisturbed asked m' := by
  have records : ∀ {α : Type} (f : Event → Option α), m'.bridge.record f = m.bridge.record f :=
    fun f => by rw [record, journal, record]
  have ended : m'.bridge.ended = m.bridge.ended := records _
  have resolutions : m'.bridge.resolutions = m.bridge.resolutions := records _
  exact h.frame (records _) (records _) (resolutions ▸ List.Subset.refl _) (records _) (records _)
    (fun id hid => .inl (ended ▸ hid)) (records _) running uncancelled (gate ▸ h.not_failed) engine

theorem openGate (h : Undisturbed asked m) {r : Readiness} (hr : ∀ reason, r ≠ .initFailed reason) (w : Work σ) :
    Undisturbed asked ⟨(m.bridge.openGate r).2, w⟩ := by
  refine h.frame (by simp) (by simp) (by simp) (by simp) (by simp) (fun id hid => .inl (by simpa using hid)) (by simp)
    h.running rfl (fun reason => ?_) h.engine
  have gate : (m.bridge.openGate r).2.gate = (m.bridge.gate.trigger r).1 := rfl
  have not_failed := h.not_failed reason
  change (m.bridge.openGate r).2.gate ≠ _
  rw [gate]
  cases hg : m.bridge.gate with
  | initializing =>
    intro failed
    exact hr reason (Gate.ready.inj failed)
  | ready s =>
    rw [hg] at not_failed
    exact not_failed

/-- An event about neither ids nor commands. -/
theorem note (h : Undisturbed asked m) {v : Event} (issued : v.issued? = none) (sent : v.sent? = none)
    (taken : v.taken? = none) (handed : v.handed? = none) (resolution : v.resolution? = none)
    (ended : v.ended? = none) (discarded : v.discarded? = none) (w : Work σ) :
    Undisturbed asked ⟨m.bridge.note v, w⟩ := by
  have resolutions : (m.bridge.note v).resolutions = m.bridge.resolutions := record_note_aside resolution _
  have gone : (m.bridge.note v).ended = m.bridge.ended := record_note_aside ended _
  exact h.frame (record_note_aside issued _) (record_note_aside sent _) (resolutions ▸ List.Subset.refl _)
    (record_note_aside taken _) (record_note_aside handed _) (fun id hid => .inl (gone ▸ hid))
    (record_note_aside discarded _) h.running rfl h.not_failed h.engine

/-- What the engine was given is completed. -/
theorem resolve (h : Undisturbed asked m) (hc : c ∈ m.bridge.handed) (o : Outcome) (w : Work σ) :
    Undisturbed asked ⟨m.bridge.resolve c.id o, w⟩ := by
  refine h.frame (by simp) (by simp) (by simp) (by simp) (by simp) (fun id hid => ?_) (by simp) h.running rfl
    h.not_failed h.engine
  have resolved : (m.bridge.resolve c.id o).ended =
      m.bridge.ended ++ if m.bridge.table.isPending c.id then [c.id] else [] := by simp
  rcases List.mem_append.1 (resolved ▸ hid) with old | new
  · exact .inl old
  · split at new
    · exact .inr (List.mem_singleton.1 new ▸ List.mem_map_of_mem hc)
    · cases new

/-- What nobody can tell the engine fails at once, and the rest is sent. -/
theorem dispatch (h : Undisturbed asked m) (l : Ledger m.bridge) (source : String) (held : Bool) :
    Undisturbed (asked ++ [⟨m.bridge.nextId, source⟩]) ⟨(m.bridge.dispatch source held).2, m.work⟩ := by
  obtain ⟨b, work⟩ := m
  cases hf : encodingFault? source with
  | some f =>
    have dispatched : (b.dispatch source held).2 = (b.enter held).resolve b.nextId (.error f) := by
      simp [Bridge.dispatch, send, hf]
    have entered : (b.enter held).table.isPending b.nextId = true := by
      have fresh : b.nextId ∉ b.table.pending := fun hp => l.nextId_not_issued ((l.pending_iff _).1 hp).1
      have pending : (b.enter held).table.pending = b.table.pending ++ [b.nextId] := Table.pending_register fresh held
      rw [Table.isPending_iff, pending]
      exact List.mem_append_right _ (List.mem_singleton_self _)
    have resolutions : ((b.enter held).resolve b.nextId (.error f)).resolutions =
        b.resolutions ++ [(b.nextId, .error f)] := by simp [entered]
    have ended : ((b.enter held).resolve b.nextId (.error f)).ended = b.ended ++ [b.nextId] := by simp [entered]
    rw [dispatched]
    refine ⟨?_, ?_, fun c hc g hg => ?_, ?_, fun id hid => ?_, ?_, h.running, h.uncancelled, h.not_failed, h.engine⟩
    · simp [h.issued]
    · simp [h.sent, hf]
    · rw [resolutions]
      rcases List.mem_append.1 hc with old | new
      · exact List.mem_append_left _ (h.refused c old g hg)
      · obtain rfl := List.mem_singleton.1 new
        obtain rfl : f = g := Option.some.inj (hf.symm.trans hg)
        exact List.mem_append_right _ (List.mem_singleton_self _)
    · simpa using h.taken
    · have handed : ((b.enter held).resolve b.nextId (.error f)).handed = b.handed := by simp
      rw [handed]
      rcases List.mem_append.1 (ended ▸ hid) with old | new
      · refine (h.ended id old).imp_right ?_
        rintro ⟨c, hc, hi, fault⟩
        exact ⟨c, List.mem_append_left _ hc, hi, fault⟩
      · obtain rfl := List.mem_singleton.1 new
        exact .inr ⟨_, List.mem_append_right _ (List.mem_singleton_self _), rfl, by simp [hf]⟩
    · simpa using h.kept
  | none =>
    have dispatched : (b.dispatch source held).2 = (b.enter held).push ⟨b.nextId, source⟩ := by
      simp only [Bridge.dispatch, send, hf]
      exact if_pos h.running
    rw [dispatched]
    refine ⟨?_, ?_, fun c hc g hg => ?_, ?_, fun id hid => ?_, ?_, h.running, h.uncancelled, h.not_failed, h.engine⟩
    · simp [h.issued]
    · simp [h.sent, hf]
    · rcases List.mem_append.1 hc with old | new
      · simpa using h.refused c old g hg
      · obtain rfl := List.mem_singleton.1 new
        cases hf.symm.trans hg
    · simpa using h.taken
    · have old : id ∈ b.ended := by simpa using hid
      rcases h.ended id old with handed | ⟨c, hc, hi, fault⟩
      · exact .inl (by simpa using handed)
      · exact .inr ⟨c, List.mem_append_left _ hc, hi, fault⟩
    · simpa using h.kept

theorem poll (h : Undisturbed asked m) (l : Ledger m.bridge) (id : InvocationId) :
    Undisturbed asked ⟨(m.bridge.poll id).2, m.work⟩ := by
  unfold Bridge.poll
  split
  · rename_i o found
    have gone : m.bridge.table.isPending id = false := Table.isPending_eq_false_iff.2 (l.not_pending_of_look found)
    exact h.frame (by simp) (by simp) (by simp) (by simp) (by simp)
      (fun id hid => .inl (by simpa [gone] using hid)) (by simp [gone]) h.running rfl h.not_failed h.engine
  · exact h

theorem called (h : Undisturbed asked m) (l : Ledger m.bridge) {source? : Option String}
    (hc : Called m.bridge source? b) :
    Undisturbed (asked ++ (source?.map fun source => ⟨m.bridge.nextId, source⟩).toList) ⟨b, m.work⟩ := by
  cases hc with
  | dispatch source held => exact h.dispatch l source held
  | same => simpa using h
  | hold id =>
    have held : Undisturbed asked ⟨m.bridge.hold id, m.work⟩ := h.same rfl h.running rfl rfl h.engine
    simpa using held
  | poll id => simpa using h.poll l id
  | openGate hr => simpa using h.openGate hr m.work
  | pass ms =>
    have later : Undisturbed asked ⟨m.bridge.pass ms, m.work⟩ := h.same rfl h.running rfl rfl h.engine
    simpa using later
  | elsewhere n =>
    have counted : Undisturbed asked ⟨{ m.bridge with number := m.bridge.number + n }, m.work⟩ :=
      h.same rfl h.running rfl rfl h.engine
    simpa using counted

theorem mem_sent (h : Undisturbed asked m) :
    c ∈ m.bridge.sent ↔ c ∈ asked ∧ encodingFault? c.source = none := by
  rw [h.sent, List.mem_filter, Option.isNone_iff_eq_none]

/-- What was sent and not handed over is pending. -/
theorem pending_of_next (h : Undisturbed asked m) (r : m.Regular) (hn : m.bridge.next? = some (c, b')) :
    c.id ∈ m.bridge.table.pending := by
  have sent := r.next_sent hn
  by_contra gone
  rcases h.ended c.id (r.ledger.ended_of_not_pending (r.issued sent) gone) with handed | ⟨d, hd, same, fault⟩
  · obtain ⟨d, hd, same⟩ := List.mem_map.1 handed
    exact r.next_not_handed hn (r.sent_unique (r.handed_sent hd) sent same ▸ hd)
  · rw [h.sent, List.mem_filter] at sent
    have ids : (asked.map (·.id)).Nodup := h.issued ▸ r.ledger.issued_nodup
    obtain rfl : d = c := List.inj_on_of_nodup_map ids hd sent.1 same
    simp [Option.isNone_iff_eq_none.1 sent.2] at fault

theorem idle (h : Undisturbed asked ⟨b, .idle⟩) (r : (⟨b, .idle⟩ : Moment σ).Regular)
    (hs : Stride e ⟨b, .idle⟩ m') : Undisturbed asked m' := by
  cases hs with
  | rest => exact h
  | beginBuild hp => exact h.same rfl h.running rfl rfl h.engine
  | drain hp =>
    refine h.same rfl rfl rfl rfl (.inr (h.engine.resolve_left fun starting => ?_))
    rcases hp with hp | hp <;> simp [hp] at starting
  | park hp | defer hp | serve hp =>
    refine h.same rfl rfl rfl rfl (.inr (h.engine.resolve_left fun starting => ?_))
    rw [hp] at starting
    cases starting
  | close hp hc => exact absurd (hc.symm.trans h.uncancelled) (by decide)
  | skip hn hi => exact absurd (h.pending_of_next r hn) hi
  | refuse hn hi f hf =>
    rcases hf with ⟨reason, failed⟩ | none_built
    · exact absurd failed (h.not_failed reason)
    · have taking := taking_of_next? hn
      rcases h.engine with starting | built
      · have starting : b.phase = .starting := starting
        simp [starting, Phase.isTaking] at taking
      · have built : b.engine.isSome := built
        simp [none_built] at built
  | @handOver b b' c hn hi hg s hs =>
    have records : ∀ {α : Type} (f : Event → Option α), f (.taken c) = none → f (.handedOver c) = none →
        ((b'.note (.taken c)).note (.handedOver c)).record f = b.record f := by
      intro α f ht hh
      simp [record_next _ hn, ht, hh]
    have taken : ((b'.note (.taken c)).note (.handedOver c)).taken = b.taken ++ [c] := by simp [record_next _ hn]
    have handed : ((b'.note (.taken c)).note (.handedOver c)).handed = b.handed ++ [c] := by
      simp [record_next _ hn]
    have ended : ((b'.note (.taken c)).note (.handedOver c)).ended = b.ended := records _ rfl rfl
    have resolutions : ((b'.note (.taken c)).note (.handedOver c)).resolutions = b.resolutions :=
      records _ rfl rfl
    have phase := next?_phase hn
    have gate := next?_gate hn
    have engine := next?_engine hn
    have cancelled : b'.cancelled = b.cancelled := by rw [next?_eq hn]
    exact {
      issued := (records Event.issued? rfl rfl).trans h.issued
      sent := (records Event.sent? rfl rfl).trans h.sent
      refused := fun d hd f hf => resolutions ▸ h.refused d hd f hf
      taken := by
        change ((b'.note (.taken c)).note (.handedOver c)).taken = _
        rw [taken, handed]
        exact congrArg (· ++ [c]) h.taken
      ended := fun id hid => by
        change id ∈ ((b'.note (.taken c)).note (.handedOver c)).handed.map _ ∨ _
        rw [handed, List.map_append]
        exact (h.ended id (ended ▸ hid)).imp_left (List.mem_append_left _)
      kept := (records Event.discarded? rfl rfl).trans h.kept
      running := phase ▸ h.running
      uncancelled := cancelled.trans h.uncancelled
      not_failed := gate ▸ h.not_failed
      engine := by
        change b'.phase = _ ∨ b'.engine.isSome
        rw [phase, engine]
        exact h.engine }

theorem returned (h : Undisturbed asked m) (hc : c ∈ m.bridge.handed) (r : σ × Except Abort Unit) :
    Undisturbed asked ⟨m.bridge.returned c r, .idle⟩ := by
  have noted : ∀ (t : σ) (u : Except Abort Unit),
      Undisturbed asked ⟨{ m.bridge with engine := some t }.note (.returned c u), .idle⟩ := by
    intro t u
    have changed : Undisturbed asked ⟨{ m.bridge with engine := some t }, .idle⟩ :=
      h.same rfl h.running rfl rfl (.inr rfl)
    exact changed.note rfl rfl rfl rfl rfl (by cases u <;> rfl) rfl _
  obtain ⟨t, (a | u)⟩ := r
  · have handed : ({ m.bridge with engine := some t }.note (.returned c (.error a))).handed = m.bridge.handed :=
      record_note_aside rfl _
    exact (noted t (.error a)).resolve (handed ▸ hc) _ _
  · exact noted t (.ok u)

theorem busy (h : Undisturbed asked m) (r : m.Regular) {answer : Command → Option Outcome}
    (hs : Works e answer m.bridge m.work m') (alive : m'.bridge.phase ≠ .crashed) : Undisturbed asked m' := by
  have current : ∀ c, m.work.command? = some c → c ∈ m.bridge.handed := fun c hc => r.current_handed hc
  revert hs
  generalize m.work = w at current
  intro hs
  cases hs with
  | report rest rest' => exact h.openGate (r := .signalled) nofun _
  | made s =>
    have waits : ({ m.bridge with engine := some s }.bootstrap).phase = .bootstrapping := by
      rcases built_turns m.bridge (.ok s) with ⟨-, -, phase, -⟩ | ⟨-, crashed, -⟩
      · exact phase
      · exact absurd crashed alive
    have running : ({ m.bridge with engine := some s }.bootstrap).phase.isRunning := by rw [waits]; rfl
    have engine : Undisturbed asked ⟨{ m.bridge with engine := some s }.bootstrap, .idle⟩ :=
      h.same rfl running rfl rfl (.inr rfl)
    exact engine.note rfl rfl rfl rfl rfl rfl rfl _
  | fail hc t ha => exact h.returned (current _ hc) _
  | wrap c rest t program => exact h.note rfl rfl rfl rfl rfl rfl rfl _
  | @signal c o ha rest rest' => exact h.resolve (current c rfl) o _
  | @accept c rest ha t => exact h.returned (current c rfl) _

theorem advance (h : Undisturbed asked m) (r : m.Regular) {answer : Command → Option Outcome}
    {ids : List InvocationId} (course : Course e answer ids m) (alive : (m.advance e).bridge.phase ≠ .crashed) :
    Undisturbed asked (m.advance e) := by
  by_cases hw : m.work = .idle
  · obtain ⟨b, work⟩ := m
    obtain rfl : work = .idle := hw
    exact h.idle r (Moment.stride_advance e _)
  · have issued : ∀ c, m.work.command? = some c → c.id ∈ m.bridge.issued :=
      fun c hc => r.issued (r.handed_sent (r.current_handed hc))
    exact h.busy r (works_advance r.ledger issued course.work hw).1 alive

theorem start (config : Config) (number : Nat) : Undisturbed [] (Moment.start config number : Moment σ) where
  issued := rfl
  sent := rfl
  refused := nofun
  taken := rfl
  ended := nofun
  kept := rfl
  running := rfl
  uncancelled := rfl
  not_failed := nofun
  engine := .inl rfl

end Undisturbed

section Run

variable {P : Command → Prop} {answer : Command → Option Outcome} (ans : e.Answers P answer) (config : Config)
  (number : Nat) {vs : List (Move σ)} (calling : ∀ v ∈ vs, v.IsCalling)
  (hP : ∀ c ∈ (Moment.start config number).asked e vs, encodingFault? c.source = none → P c)
include ans calling hP

/-- In every run in which callers only call, an engine that answers gets all that it can get, unless its thread
crashes. -/
theorem undisturbed_after (alive : ((Moment.start config number).after e vs).bridge.phase ≠ .crashed) :
    Undisturbed ((Moment.start config number).asked e vs) ((Moment.start config number).after e vs) := by
  induction vs using List.reverseRecOn with
  | nil => exact .start config number
  | append_singleton vs v ih =>
    rw [Moment.asked_append] at hP
    have undisturbed := ih (fun w hw => calling w (List.mem_append_left _ hw))
      (fun c hc => hP c (List.mem_append_left _ hc)) (alive_before [v] alive)
    have regular := regular_after e config number vs
    rw [Moment.after_append, Moment.after_cons, Moment.after_nil] at alive
    rw [Moment.asked_append, Moment.after_append, Moment.after_cons, Moment.after_nil]
    by_cases hv : v = .advance
    · subst hv
      have course := course_after ans config number vs fun c hc =>
        hP c (List.mem_append_left _ (undisturbed.mem_sent.1 hc).1) (undisturbed.mem_sent.1 hc).2
      have asked : ((Moment.start config number).after e vs).asked e [.advance] = [] := rfl
      rw [asked, List.append_nil]
      exact undisturbed.advance regular course alive
    · have hc : v.IsCalling := calling v (List.mem_append_right _ (List.mem_singleton_self v))
      have called := undisturbed.called regular.ledger (called_move hc)
      rw [Moment.step_of_ne e _ hv]
      simpa [Moment.asked] using called

theorem course_of_calling (alive : ((Moment.start config number).after e vs).bridge.phase ≠ .crashed) :
    Course e answer [] ((Moment.start config number).after e vs) := by
  have undisturbed := undisturbed_after ans config number calling hP alive
  have course := course_after ans config number vs fun c hc =>
    hP c (undisturbed.mem_sent.1 hc).1 (undisturbed.mem_sent.1 hc).2
  rwa [Move.signalled_of_calling calling] at course

/-- Behind an open gate the thread, left to itself, comes to have nothing left to do, as long as it can tell
when the gate opens by itself. -/
theorem settles_of_calling (quiet : e.Quiet) (hg : ((Moment.start config number).after e vs).bridge.gate.isReady)
    (waits : ((Moment.start config number).after e vs).bridge.canWait) :
    ∃ n, Settled (((Moment.start config number).after e vs).after e (Moment.alone n)) := by
  obtain ⟨n, b, hn, settled⟩ := Moment.comes_to_rest quiet ((Moment.start config number).after e vs)
  have later : ∀ v ∈ vs ++ Moment.alone n, v.IsCalling := by
    intro v hv
    rcases List.mem_append.1 hv with old | new
    · exact calling v old
    · rw [List.eq_of_mem_replicate new]
      trivial
  have asked : (Moment.start config number).asked e (vs ++ Moment.alone n) =
      (Moment.start config number).asked e vs := by
    rw [Moment.asked_append, Moment.asked_alone, List.append_nil]
  have alive : ((Moment.start config number).after e (vs ++ Moment.alone n)).bridge.phase ≠ .crashed := by
    refine alive_of_readies ans.build config number _ ?_
    rw [Moment.after_append, canWait_alone]
    exact waits
  have undisturbed := undisturbed_after ans config number later (asked ▸ hP) alive
  have regular := regular_after e config number (vs ++ Moment.alone n)
  rw [Moment.after_append, hn] at undisturbed regular
  have open_ : b.gate.isReady := by
    obtain ⟨r, hr⟩ : ∃ r, ((Moment.start config number).after e vs).bridge.gate = .ready r := by
      cases hgate : ((Moment.start config number).after e vs).bridge.gate with
      | initializing => simp [hgate, Gate.isReady] at hg
      | ready r => exact ⟨r, rfl⟩
    have stays := (Moment.gate_of_open e hr (Moment.alone n)).1
    rw [hn] at stays
    exact stays ▸ rfl
  exact ⟨n, hn ▸ settled_of_isSettled regular.queues open_ undisturbed.running settled⟩

end Run

/-! ## What callers find -/

/-- The outcome that a command is to have: what it cannot tell the engine fails, and else the engine answers. -/
def Command.fate (answer : Command → Option Outcome) (c : Command) : Option Outcome :=
  match encodingFault? c.source with
  | some f => some (.error f)
  | none => answer c

namespace Undisturbed

variable {asked : List Command} {answer : Command → Option Outcome}

theorem asked_unique (h : Undisturbed asked m) (l : Ledger m.bridge) {d : Command} (hc : c ∈ asked)
    (hd : d ∈ asked) (same : c.id = d.id) : c = d :=
  List.inj_on_of_nodup_map (h.issued ▸ l.issued_nodup) hc hd same

/-- At any time, the outcome that there is for an invocation is its fate. -/
theorem fate_of_resolved (h : Undisturbed asked m) (r : m.Regular) (course : Course e answer [] m) (hc : c ∈ asked)
    (ho : (c.id, o) ∈ m.bridge.resolutions) : c.fate answer = some o := by
  unfold Command.fate
  cases hf : encodingFault? c.source with
  | some f => exact congrArg some (r.ledger.resolution_unique (h.refused c hc f hf) ho)
  | none =>
    have sent : c ∈ m.bridge.sent := h.mem_sent.2 ⟨hc, hf⟩
    rcases h.ended c.id (ended_of_resolution ho) with handed | ⟨d, hd, same, fault⟩
    · obtain ⟨d, hd, same⟩ := List.mem_map.1 handed
      obtain rfl := r.sent_unique (r.handed_sent hd) sent same
      rcases course.own d hd o ho with mine | signalled | ⟨-, stopped⟩
      · exact mine
      · cases signalled
      · have running := h.running
        simp [stopped, Phase.isRunning] at running
    · obtain rfl := h.asked_unique r.ledger hd hc same
      simp [hf] at fault

/-- Where the thread has nothing left to do, all that was sent was handed over. -/
theorem handed_of_settled (h : Undisturbed asked m) (r : m.Regular) (settled : Settled m) :
    m.bridge.handed = m.bridge.sent := by
  rw [r.queues.in_order h.running, settled.none_deferred, settled.none_queued, h.taken, List.append_nil,
    List.append_nil]

theorem resolved_of_settled (h : Undisturbed asked m) (r : m.Regular) (course : Course e answer [] m)
    (settled : Settled m) (hc : c ∈ asked) (ho : c.fate answer = some o) : (c.id, o) ∈ m.bridge.resolutions := by
  have gone : c.id ∈ m.bridge.ended := by
    unfold Command.fate at ho
    cases hf : encodingFault? c.source with
    | some f => exact ended_of_resolution (h.refused c hc f hf)
    | none =>
      have handed : c ∈ m.bridge.handed := h.handed_of_settled r settled ▸ h.mem_sent.2 ⟨hc, hf⟩
      rcases course.done c handed with now | open_ | gone
      · simp [settled.idle, Work.command?] at now
      · simp [hf, open_] at ho
      · exact gone
  rcases Bridge.mem_ended.1 gone with ⟨o', ho'⟩ | given_up
  · have same := h.fate_of_resolved r course hc ho'
    rw [ho] at same
    exact Option.some.inj same ▸ ho'
  · rw [h.kept] at given_up
    cases given_up

theorem waiting (h : Undisturbed asked m) (l : Ledger m.bridge) (hc : c ∈ asked) (hr : c.id ∉ m.bridge.released) :
    ∃ w ∈ m.bridge.table.waiters, w.id = c.id := by
  have issued : c.id ∈ m.bridge.issued := h.issued ▸ List.mem_map_of_mem hc
  obtain ⟨w, hw, same⟩ := List.mem_map.1 ((l.waiting_iff c.id).2 ⟨issued, hr⟩)
  exact ⟨w, hw, same⟩

/-- Who looks for an outcome finds nothing but its fate. -/
theorem fate_of_look (h : Undisturbed asked m) (r : m.Regular) (course : Course e answer [] m) (hc : c ∈ asked)
    (hr : c.id ∉ m.bridge.released) (ho : m.bridge.look c.id = some o) : c.fate answer = some o := by
  obtain ⟨w, hw, same⟩ := h.waiting r.ledger hc hr
  rw [← same, r.ledger.look_eq hw, r.ledger.given_iff w hw, same] at ho
  exact h.fate_of_resolved r course hc ho

theorem look_of_settled (h : Undisturbed asked m) (r : m.Regular) (course : Course e answer [] m)
    (settled : Settled m) (hc : c ∈ asked) (hr : c.id ∉ m.bridge.released) :
    m.bridge.look c.id = c.fate answer := by
  obtain ⟨w, hw, same⟩ := h.waiting r.ledger hc hr
  have look : m.bridge.look c.id = w.outcome := same ▸ r.ledger.look_eq hw
  have given : ∀ o, w.outcome = some o ↔ c.fate answer = some o := by
    intro o
    rw [r.ledger.given_iff w hw, same]
    exact ⟨h.fate_of_resolved r course hc, h.resolved_of_settled r course settled hc⟩
  rw [look]
  exact Option.ext given

/-- What is pending where the thread has nothing left to do has no outcome. -/
theorem pending_of_settled (h : Undisturbed asked m) (r : m.Regular) (course : Course e answer [] m)
    (settled : Settled m) : m.bridge.pending = asked.countP fun c => (c.fate answer).isNone := by
  have nodup : ((asked.filter fun c => (c.fate answer).isNone).map (·.id)).Nodup :=
    (h.issued ▸ r.ledger.issued_nodup : (asked.map (·.id)).Nodup).sublist (List.filter_sublist.map _)
  have same : ∀ id, id ∈ m.bridge.table.pending ↔
      id ∈ (asked.filter fun c => (c.fate answer).isNone).map (·.id) := by
    intro id
    rw [r.ledger.pending_iff, h.issued]
    constructor
    · rintro ⟨hi, open_⟩
      obtain ⟨c, hc, rfl⟩ := List.mem_map.1 hi
      refine List.mem_map_of_mem (List.mem_filter.2 ⟨hc, ?_⟩)
      cases ho : c.fate answer with
      | none => rfl
      | some o => exact absurd (ended_of_resolution (h.resolved_of_settled r course settled hc ho)) open_
    · intro hi
      obtain ⟨c, hc, rfl⟩ := List.mem_map.1 hi
      obtain ⟨hc, none⟩ := List.mem_filter.1 hc
      refine ⟨List.mem_map_of_mem hc, fun gone => ?_⟩
      rcases Bridge.mem_ended.1 gone with ⟨o, ho⟩ | given_up
      · simp [h.fate_of_resolved r course hc ho] at none
      · rw [h.kept] at given_up
        cases given_up
  have lengths := ((List.perm_ext_iff_of_nodup r.ledger.pending_nodup nodup).2 same).length_eq
  rw [Bridge.pending, Table.size, lengths, List.length_map, List.countP_eq_length_filter]

end Undisturbed

end ScriptHost
