import ScriptHost.Proofs.Bridge.Calls
import ScriptHost.Proofs.Bridge.Waiting
import ScriptHost.Session.Run
import Mathlib.Data.List.Basic
import Mathlib.Logic.Relation
/-!
The bridges of a session.

Whatever the steps of a session are, they do one of a few things to its bridges at a time (`State.Goes`). So
each of them is where a run of its own has taken it (`hosts_after`): what holds after every run of a bridge
holds of all bridges in every state of every session.
-/

namespace ScriptHost.Session

open Bridge

/-- Some run of its own took a host's bridge to where it is. -/
def Host.IsRun (h : Host) : Prop := ∃ config number, Leads h.engine (.fresh config number) h.bridge

/-- A host later, with the same engine. -/
def Host.Leads (h h' : Host) : Prop := h'.engine = h.engine ∧ Bridge.Leads h.engine h.bridge h'.bridge

/-- What happens to the hosts of a session at once. -/
inductive State.Goes (st st' : State) : Prop
  | aside (hosts : st'.hosts = st.hosts) (number : st'.number = st.number)
  /-- A host acts. It has the session's desk and next number, and the session takes the number on. -/
  | act {k : Nat} {h h' : Host} (hk : st.hosts[k]? = some h) (l : (h.lend st.desk st.number).Leads h')
      (hosts : st'.hosts = st.hosts.set k h') (number : st'.number = h'.bridge.number)
  /-- What a host wrote down is taken away. -/
  | write {k : Nat} {h h' : Host} (hk : st.hosts[k]? = some h) (bridge : h'.bridge = h.bridge)
      (engine : h'.engine = h.engine) (hosts : st'.hosts = st.hosts.set k h') (number : st'.number = st.number)
  /-- A host that does not act loses a handle. -/
  | drop {k : Nat} {h : Host} (hk : st.hosts[k]? = some h) (id : InvocationId)
      (hosts : st'.hosts = st.hosts.set k { h with bridge := h.bridge.drop id }) (number : st'.number = st.number)
  | spawn {h : Host} {config : Config} {n : Nat} (fresh : h.bridge = .fresh config n) (hn : n ≤ st.number)
      (hosts : st'.hosts = st.hosts ++ [h]) (number : st'.number = st.number)

/-- A session later. -/
abbrev State.Leads : State → State → Prop := Relation.ReflTransGen State.Goes

/-- Each bridge is where a run took it, and no id was issued that has the session's next number. -/
structure State.Sound (st : State) : Prop where
  run : ∀ h ∈ st.hosts, h.IsRun
  numbered : ∀ h ∈ st.hosts, h.bridge.number ≤ st.number

variable {h h' h'' : Host} {st st' : State} {α : Type}

namespace Host

theorem Leads.refl (h : Host) : h.Leads h := ⟨rfl, .refl h.engine h.bridge⟩

theorem Leads.trans (l : h.Leads h') (l' : h'.Leads h'') : h.Leads h'' :=
  ⟨l'.1.trans l.1, l.2.trans (l.1 ▸ l'.2)⟩

theorem IsRun.leads (r : h.IsRun) (l : h.Leads h') : h'.IsRun := by
  obtain ⟨config, number, hr⟩ := r
  exact ⟨config, number, l.1 ▸ hr.trans l.2⟩

/-- What is so after every run of a bridge is so of a host's. -/
theorem IsRun.ledger (r : h.IsRun) : Ledger h.bridge := by
  obtain ⟨config, number, vs, hv⟩ := r
  have ledger := ledger_after h.engine config number vs
  rw [Moment.start, hv] at ledger
  exact ledger

theorem leads_settle (h : Host) : h.Leads h.settle := ⟨rfl, .settle h.engine patience h.bridge⟩

theorem leads_lend (h : Host) (desk : Desk) {number : Nat} (hn : h.bridge.number ≤ number) :
    h.Leads (h.lend desk number) := ⟨rfl, .lend h.engine h.bridge _ hn⟩

theorem leads_collect (h : Host) : h.Leads h.collect := by
  unfold collect
  split
  · exact .refl h
  · rename_i n hn
    refine ⟨rfl, ?_⟩
    have shared := Bridge.Leads.move h.engine h.bridge (.share fun n => { n with seen := [], entries := [] }) nofun
    simpa [Bridge.move, hn] using shared

theorem number_collect (h : Host) : h.collect.bridge.number = h.bridge.number := by
  unfold collect
  split <;> rfl

/-- The time in which the engine had to report may be over when a host acts. -/
theorem leads_due (h : Host) (now : Nat) :
    h.Leads (if h.isDue now then { h with bridge := h.bridge.deadline }.settle else h) := by
  split
  · have opened : h.Leads { h with bridge := h.bridge.deadline } := ⟨rfl, .move h.engine h.bridge .deadline nofun⟩
    exact opened.trans (leads_settle _)
  · exact .refl h

theorem Leads.number (l : h.Leads h') : h.bridge.number ≤ h'.bridge.number := l.2.number

end Host

/-- Polling several ids is a run. -/
theorem leads_pollAll (e : Engine Notebook) (ids : List InvocationId) (b : Bridge Notebook) :
    Bridge.Leads e b (pollAll ids b).2 := by
  induction ids generalizing b with
  | nil => exact .refl e b
  | cons id ids ih => exact (Bridge.Leads.poll e b id).trans (ih _)

namespace State

/-! ## What a session does to its hosts -/

theorem Goes.number_le (g : st.Goes st') : st.number ≤ st'.number := by
  cases g with
  | act hk l hosts number => exact number ▸ l.number
  | aside hosts number | write _ _ _ hosts number | drop _ _ hosts number | spawn _ _ hosts number =>
    exact Nat.le_of_eq number.symm

namespace Leads

theorem number_le (l : st.Leads st') : st.number ≤ st'.number := by
  induction l with
  | refl => exact Nat.le_refl _
  | tail _ g ih => exact Nat.le_trans ih g.number_le

theorem aside (hosts : st'.hosts = st.hosts) (number : st'.number = st.number) : st.Leads st' :=
  .single (.aside hosts number)

theorem write {k : Nat} (hk : st.hosts[k]? = some h) (bridge : h'.bridge = h.bridge) (engine : h'.engine = h.engine) :
    st.Leads { st with hosts := st.hosts.set k h' } :=
  .single (.write hk bridge engine rfl rfl)

theorem abandon (st : State) (self : Nat) (before : Desk) : st.Leads (st.abandon self before) := by
  unfold State.abandon
  induction before generalizing st with
  | nil => exact .refl
  | cons t before ih =>
    refine Relation.ReflTransGen.trans ?_ (ih _)
    dsimp only
    split
    · exact .refl
    · rcases hk : st.hosts[t.2.host]? with - | h
      · have beyond : st.hosts.length ≤ t.2.host := List.getElem?_eq_none_iff.1 hk
        exact Leads.aside (List.modify_eq_self beyond) rfl
      · refine .single (.drop hk t.2.id ?_ rfl)
        rw [List.modify_eq_set_getElem?, hk]
        rfl

/-- What a host does in a session is a run of its bridge. -/
theorem act {k : Nat} {f : Host → α × Host} (hf : ∀ h : Host, h.Leads (f h).2) {a : α}
    (ha : st.act k f = some (a, st')) : st.Leads st' := by
  unfold State.act at ha
  split at ha
  · cases ha
  · rename_i h hk
    obtain ⟨-, rfl⟩ := Prod.mk.inj (Option.some.inj ha)
    have acted := ((h.lend st.desk st.number).leads_due st.now).trans ((hf _).trans (Host.leads_settle _))
    have collected := acted.trans (Host.leads_collect _)
    exact Relation.ReflTransGen.head (.act hk collected rfl (Host.number_collect _).symm) (abandon _ k st.desk)

theorem onBridge {k : Nat} {f : Bridge Notebook → α × Bridge Notebook}
    (hf : ∀ e b, Bridge.Leads e b (f b).2) {a : α} (ha : st.onBridge k f = some (a, st')) : st.Leads st' :=
  act (fun h => ⟨rfl, hf h.engine h.bridge⟩) ha

theorem wait {k ms : Nat} {inVain : α → Bool} {f : Engine Notebook → Bool → Bridge Notebook → α × Bridge Notebook}
    (hf : ∀ e due b, Bridge.Leads e b (f e due b).2) {a : α} (ha : st.wait k ms inVain f = some (a, st')) :
    st.Leads st' := by
  unfold State.wait at ha
  split at ha
  · cases ha
  · split at ha
    · cases ha
    · rename_i a' isOpen st₁ hact
      obtain ⟨-, rfl⟩ := Prod.mk.inj (Option.some.inj ha)
      have moved := act (fun h => ⟨rfl, hf h.engine _ h.bridge⟩) hact
      exact moved.trans (aside rfl rfl)

theorem release (st : State) (t : Ticket) : st.Leads (st.release t) := by
  unfold State.release
  split
  · rename_i st₁ ha
    exact onBridge (fun e b => .drop e b t.id) ha
  · exact .refl

theorem dropNamed (st : State) (name : String) : st.Leads (st.dropNamed name) := by
  unfold State.dropNamed
  split
  · split
    · rename_i st₁ ha
      exact act (fun h => ⟨rfl, .perform h.engine h.bridge .shutdown⟩) ha
    · exact .refl
  · exact .refl

/-- A bridge that is started has not run yet. Its ids are numbered from the session's next number on. -/
theorem spawn (st : State) (name : String) (config : Config) (kind : EngineKind) :
    st.Leads (st.spawn name config kind).2 := by
  unfold State.spawn
  split
  · exact .refl
  · exact .refl
  · rename_i bridge hb
    have started : bridge = .fresh config st.number := by
      unfold Bridge.spawn at hb
      split at hb
      · cases hb
      · split at hb
        · cases hb
        · exact (Launch.started.inj hb).symm
    have dropped := dropNamed st name
    have added : st.Leads { st.dropNamed name with
        hosts := (st.dropNamed name).hosts ++ [⟨bridge, kind.engine st.hosts.length (st.dropNamed name).desk,
          (st.dropNamed name).now, [], [], true⟩]
        names := (name, st.hosts.length) :: (st.dropNamed name).names } :=
      dropped.tail (.spawn started dropped.number_le rfl rfl)
    dsimp only
    split
    · rename_i st₁ ha
      exact added.trans (onBridge (fun e b => .refl e b) ha)
    · exact added

end Leads

/-! ## Deeds -/

/-- Whatever is answered, the session is at a later state. -/
def Keeps (st : State) (x : Option (Answer × State)) : Prop := ∀ r, x = some r → st.Leads r.2

namespace Keeps

theorem pure {a : Answer} (l : st.Leads st') : st.Keeps (some (a, st')) := by
  rintro r ⟨⟩
  exact l

theorem bind {β : Type} {x : Option β} {f : β → Option (Answer × State)} (h : ∀ a, x = some a → st.Keeps (f a)) :
    st.Keeps (x >>= f) := by
  intro r hr
  obtain ⟨a, ha, hr⟩ := Option.bind_eq_some_iff.1 hr
  exact h a ha r hr

/-- A call of a bridge, and an answer that shows what came of it. -/
theorem onBridge {k : Nat} {f : Bridge Notebook → α × Bridge Notebook} (hf : ∀ e b, Bridge.Leads e b (f b).2)
    (view : α → Answer) : st.Keeps (st.onBridge k f >>= fun r => some (view r.1, r.2)) :=
  bind fun _ ha => pure (Leads.onBridge hf ha)

/-- A wait on a bridge, and an answer that shows what came of it. -/
theorem wait {k ms : Nat} {inVain : α → Bool} {f : Engine Notebook → Bool → Bridge Notebook → α × Bridge Notebook}
    (hf : ∀ e due b, Bridge.Leads e b (f e due b).2) (view : α → Answer) :
    st.Keeps (st.wait k ms inVain f >>= fun r => some (view r.1, r.2)) :=
  bind fun _ ha => pure (Leads.wait hf ha)

end Keeps

theorem keeps_deed (st : State) (name : String) (k : Nat) (d : Deed) : st.Keeps (st.deed name k d) := by
  cases d with
  | spawn config kind => exact .pure (.spawn st name config kind)
  | invoke h source =>
    refine .bind fun ⟨id, st₁⟩ ha => ?_
    have l := Leads.onBridge (fun e b => .dispatch e b _ false) ha
    have put : st.Leads { st₁ with
      desk := st₁.desk.put h ⟨k, id⟩
      issued := (h, id.text) :: st₁.issued.filter fun n => n.1 ≠ h } := l.trans (Leads.aside rfl rfl)
    refine .pure ?_
    split
    · exact put.trans (Leads.release _ _)
    · exact put
  | poll h =>
    refine .bind fun t _ => .bind fun ⟨o, st₁⟩ ha => .pure ?_
    have l := Leads.onBridge (fun e b => .poll e b t.id) ha
    split
    · exact l.trans (Leads.aside rfl rfl)
    · exact l
  | waitTimeout h ms =>
    refine .bind fun t _ => .bind fun ⟨o, st₁⟩ ha => .pure ?_
    have l := Leads.wait (fun e due b => .waitTimeout e patience due t.id ms b) ha
    exact l.trans (Leads.aside rfl rfl)
  | decode h type =>
    refine .bind fun t _ => .bind fun ⟨o, st₁⟩ ha => .pure ?_
    have l := Leads.onBridge (fun e b => .decode e type.decode t.id b) ha
    exact l.trans (Leads.aside rfl rfl)
  | drop h =>
    refine .bind fun t _ => .pure ?_
    have forgotten : st.Leads (st.forget h) := Leads.aside rfl rfl
    exact forgotten.trans (Leads.release _ t)
  | id h => exact .bind fun t _ => .pure .refl
  | invokeAs source type =>
    exact .bind fun host _ => .wait (fun e due b => .invokeAs type.decode e patience due _ b) .outcome
  | invokeBlocking source ms =>
    exact .wait (fun e due b => .invokeBlocking e patience due .elsewhere _ ms b) .outcome
  | invokeBlockingAs source ms type =>
    exact .wait (fun e due b => .invokeBlockingAs type.decode e patience due .elsewhere _ ms b) .outcome
  | burst sources =>
    refine .bind fun ⟨ids, st₁⟩ ha => .bind fun ⟨answers, st₂⟩ hb => .bind fun ⟨_, st₃⟩ hc => .pure ?_
    have invoked := Leads.onBridge (fun e b => .invokeEach e false _ b) ha
    have polled := Leads.onBridge (fun e b => leads_pollAll e ids b) hb
    have dropped := Leads.onBridge (fun e b => .dropEach e ids b) hc
    exact (invoked.trans polled).trans dropped
  | threads sources ms =>
    refine .bind fun ⟨ids, st₁⟩ ha => .bind fun ⟨os, st₂⟩ hb => .pure ?_
    have invoked := Leads.onBridge (fun e b => .invokeEach e true _ b) ha
    exact invoked.trans (Leads.wait (fun e due b => .awaitEach e patience due ms ids b) hb)
  | signal sig => exact .onBridge (fun e b => .perform e b (.signal _)) .disposition
  | post raw => exact .onBridge (fun e b => .perform e b (.post _)) .disposition
  | ready => exact .onBridge (fun e b => .perform e b .ready) .disposition
  | initFailed reason => exact .onBridge (fun e b => .perform e b (.initFailed reason)) .disposition
  | waitReady ms => exact .wait (fun e due b => .waitReady e patience due ms b) (answerOf .readiness)
  | state => exact .onBridge (fun e b => .refl e b) .gate
  | pending => exact .onBridge (fun e b => .refl e b) .count
  | settle => exact .onBridge (fun e b => .refl e b) fun _ => .nothing
  | onEngineThread => exact .pure .refl
  | shutdown =>
    refine .bind fun ⟨_, st₁⟩ ha => .pure ?_
    exact .act (fun h => ⟨rfl, .shutdown h.engine patience h.bridge⟩) ha
  | dropBridge =>
    refine .bind fun ⟨_, st₁⟩ ha => .pure ?_
    exact .act (fun h => ⟨rfl, .perform h.engine h.bridge .shutdown⟩) ha
  | evaluated | log =>
    exact .bind fun h hk => .pure (.write hk rfl rfl)
  | directWrap engine id source => cases engine <;> exact .pure .refl
  | directEvaluate engine id program =>
    cases engine with
    | command =>
      refine .bind fun ⟨⟨seen, r⟩, st₁⟩ ha => .pure ?_
      exact .onBridge (fun e b => .run e _ b) ha
    | script limits api =>
      refine .bind fun ⟨⟨entries, r⟩, st₁⟩ ha => .bind fun h hk => .pure ?_
      have l := Leads.onBridge (fun e b => .run e _ b) ha
      exact l.trans (Leads.write hk rfl rfl)

theorem leads_step (st : State) (x : Step) : st.Leads (st.step x).2 := by
  unfold State.step
  split
  rename_i answer st₁ hx
  dsimp only
  split at hx
  · rename_i config kind hd
    have spawned := Leads.spawn st x.bridge config kind
    rwa [hx] at spawned
  · rename_i d hd
    cases hk : st.names.lookup x.bridge with
    | none =>
      simp only [hk, Option.bind_none] at hx
      obtain ⟨-, rfl⟩ := Prod.mk.inj hx
      exact .refl
    | some k =>
      simp only [hk, Option.bind_some] at hx
      split at hx
      · rename_i r hr
        have kept := keeps_deed st x.bridge k _ r hr
        rwa [hx] at kept
      · obtain ⟨-, rfl⟩ := Prod.mk.inj hx
        exact .refl

/-- The state after some steps. -/
def after (st : State) (xs : List Step) : State := xs.foldl (fun st x => (st.step x).2) st

theorem leads_after (st : State) (xs : List Step) : st.Leads (st.after xs) := by
  induction xs generalizing st with
  | nil => exact .refl
  | cons x xs ih => exact (leads_step st x).trans (ih _)

/-! ## Hosts and their runs -/

namespace Sound

theorem start (first : Nat) : (initial first).Sound where
  run _ hm := absurd hm List.not_mem_nil
  numbered _ hm := absurd hm List.not_mem_nil

/-- One host moves on, and the next number with it. -/
theorem set (s : st.Sound) {k : Nat} (hk : st.hosts[k]? = some h) (l : h.Leads h')
    (hh : st'.hosts = st.hosts.set k h') (hn : st.number ≤ st'.number) (hn' : h'.bridge.number ≤ st'.number) :
    st'.Sound where
  run g hg := by
    rw [hh] at hg
    rcases List.mem_or_eq_of_mem_set hg with hg | rfl
    · exact s.run g hg
    · exact (s.run h (List.mem_of_getElem? hk)).leads l
  numbered g hg := by
    rw [hh] at hg
    rcases List.mem_or_eq_of_mem_set hg with hg | rfl
    · exact Nat.le_trans (s.numbered g hg) hn
    · exact hn'

theorem append (s : st.Sound) (r : h.IsRun) (hh : st'.hosts = st.hosts ++ [h]) (hn : st.number ≤ st'.number)
    (hn' : h.bridge.number ≤ st'.number) : st'.Sound where
  run g hg := by
    rw [hh] at hg
    rcases List.mem_append.1 hg with hg | hg
    · exact s.run g hg
    · exact List.mem_singleton.1 hg ▸ r
  numbered g hg := by
    rw [hh] at hg
    rcases List.mem_append.1 hg with hg | hg
    · exact Nat.le_trans (s.numbered g hg) hn
    · exact List.mem_singleton.1 hg ▸ hn'

theorem goes (s : st.Sound) (g : st.Goes st') : st'.Sound := by
  have grown := g.number_le
  cases g with
  | aside hosts number => exact ⟨hosts ▸ s.run, hosts ▸ number ▸ s.numbered⟩
  | @act k h h' hk l hosts number =>
    have lent := h.leads_lend st.desk (s.numbered h (List.mem_of_getElem? hk))
    exact s.set hk (lent.trans l) hosts grown (Nat.le_of_eq number.symm)
  | @write k h h' hk bridge engine hosts number =>
    have below : h'.bridge.number ≤ st'.number := by
      rw [bridge, number]
      exact s.numbered h (List.mem_of_getElem? hk)
    exact s.set hk ⟨engine, bridge ▸ .refl h.engine h.bridge⟩ hosts grown below
  | @drop k h hk id hosts number =>
    have same : (h.bridge.drop id).number = h.bridge.number := by
      unfold Bridge.drop
      split <;> rfl
    have l : h.Leads { h with bridge := h.bridge.drop id } := ⟨rfl, .drop h.engine h.bridge id⟩
    have below : (h.bridge.drop id).number ≤ st'.number := by
      rw [same, number]
      exact s.numbered h (List.mem_of_getElem? hk)
    exact s.set hk l hosts grown below
  | @spawn h config n fresh hn hosts number =>
    have born : h.IsRun := ⟨config, n, fresh ▸ .refl _ _⟩
    have below : h.bridge.number ≤ st'.number := by
      rw [fresh, number]
      exact hn
    exact s.append born hosts grown below

end Sound

/-- In every state of every session each bridge is where a run of its own has taken it. -/
theorem hosts_after (first : Nat) (xs : List Step) : ∀ h ∈ ((initial first).after xs).hosts, h.IsRun := by
  have sound : ∀ st, (initial first).Leads st → st.Sound := by
    intro st l
    induction l with
    | refl => exact .start first
    | tail _ g ih => exact ih.goes g
  exact (sound _ (leads_after (initial first) xs)).run

end State

/-- At every moment of every run, and for every bridge between the steps of every session, the table has just
the ids of the waiters that were given nothing, and whoever waits gets what its id was completed with. -/
theorem entries_and_waiters_agree :
    (∀ (σ : Type) (e : Engine σ) (config : Config) (number : Nat) (vs : List (Move σ)),
      Agreement ((Moment.start config number).after e vs).bridge) ∧
    ∀ (first : Nat) (xs : List Step), ∀ h ∈ ((initial first).after xs).hosts, Agreement h.bridge := by
  constructor
  · intro σ e config number vs
    exact (ledger_after e config number vs).agreement
  · intro first xs h hh
    exact (State.hosts_after first xs h hh).ledger.agreement

end ScriptHost.Session
