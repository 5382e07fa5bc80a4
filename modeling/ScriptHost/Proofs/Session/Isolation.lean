import ScriptHost.Proofs.Bridge.Isolation
import ScriptHost.Proofs.Session.Hosts
/-!
Sessions are runs of a process.

What a session does to its hosts, a process can do to its bridges (`Mirrors.goes`): a host that acts does all
its moves in a row, from the session's next number on. So what is said of every interleaving of bridges
holds of the bridges of every session.
-/

namespace ScriptHost

open Bridge

/-! ## One bridge moves several times -/

namespace Process

variable {ι : Type} [DecidableEq ι] {σ : ι → Type}

/-- A bridge that makes all the moves is lent the number once. -/
theorem after_doer (e : (i : ι) → Engine (σ i)) (p : Process σ) (i : ι) (v : Move (σ i)) (vs : List (Move (σ i))) :
    (p.after e ((v :: vs).map fun v => ⟨i, v⟩)).moment i = ((p.moment i).lend p.number).after (e i) (v :: vs) ∧
      (p.after e ((v :: vs).map fun v => ⟨i, v⟩)).number =
        ((p.after e ((v :: vs).map fun v => ⟨i, v⟩)).bridge i).number := by
  induction vs generalizing p v with
  | nil => exact ⟨step_self e p i v, number_step e p i v⟩
  | cons w vs ih =>
    obtain ⟨moment, number⟩ := ih (p.step e ⟨i, v⟩) w
    have kept : ((p.step e ⟨i, v⟩).moment i).lend (p.step e ⟨i, v⟩).number = (p.step e ⟨i, v⟩).moment i := by
      rw [number_step]
      rfl
    rw [kept, step_self] at moment
    exact ⟨moment, number⟩

theorem after_other (e : (i : ι) → Engine (σ i)) (p : Process σ) {ds : List (Deed σ)} {j : ι}
    (h : ∀ d ∈ ds, d.doer ≠ j) : (p.after e ds).moment j = p.moment j := by
  induction ds generalizing p with
  | nil => rfl
  | cons d ds ih =>
    have first : (p.step e d).moment j = p.moment j := step_other e p (Ne.symm (h d List.mem_cons_self))
    exact (ih (p.step e d) fun d hd => h d (List.mem_cons_of_mem _ hd)).trans first

end Process

namespace Session

variable {e : Nat → Engine Notebook} {config : Nat → Config} {st st' : State} {p p' : Process fun _ : Nat => Notebook}
  {k : Nat} {h h' : Host}

/-! ## What hosts keep -/

namespace State

/-- A host of an earlier state is there later, with its engine and its settings. -/
theorem Goes.keeps_host (g : st.Goes st') (hk : st.hosts[k]? = some h) :
    ∃ h', st'.hosts[k]? = some h' ∧ h'.engine = h.engine ∧ h'.bridge.config = h.bridge.config := by
  have set : ∀ {j : Nat} {g g' : Host}, st.hosts[j]? = some g → st'.hosts = st.hosts.set j g' →
      g'.engine = g.engine → g'.bridge.config = g.bridge.config →
        ∃ h', st'.hosts[k]? = some h' ∧ h'.engine = h.engine ∧ h'.bridge.config = h.bridge.config := by
    intro j g g' hj hosts engine config
    rw [hosts, List.getElem?_set]
    split
    · rename_i same
      subst same
      obtain rfl : g = h := Option.some.inj (hj.symm.trans hk)
      exact ⟨g', if_pos (List.getElem?_eq_some_iff.1 hj).1, engine, config⟩
    · exact ⟨h, hk, rfl, rfl⟩
  cases g with
  | aside hosts number => exact ⟨h, hosts ▸ hk, rfl, rfl⟩
  | @act j g g' hj l hosts number =>
    obtain ⟨engine, vs, hv⟩ := l
    refine set hj hosts engine ?_
    have config := config_after (g.lend st.desk st.number).engine ⟨(g.lend st.desk st.number).bridge, .idle⟩ vs
    rw [hv] at config
    exact config
  | write hj bridge engine hosts number => exact set hj hosts engine (bridge ▸ rfl)
  | @drop j g hj id hosts number =>
    refine set hj hosts rfl ?_
    change (g.bridge.drop id).config = g.bridge.config
    unfold Bridge.drop
    split <;> rfl
  | spawn fresh hn hosts number =>
    refine ⟨h, ?_, rfl, rfl⟩
    rw [hosts, List.getElem?_append_left (List.getElem?_eq_some_iff.1 hk).1]
    exact hk

/-- Engines and settings that are those of a session's hosts. -/
def Fits (e : Nat → Engine Notebook) (config : Nat → Config) (st : State) : Prop :=
  ∀ k h, st.hosts[k]? = some h → e k = h.engine ∧ config k = h.bridge.config

theorem Goes.fits (g : st.Goes st') (f : Fits e config st') : Fits e config st := by
  intro k h hk
  obtain ⟨h', hk', engine, settings⟩ := g.keeps_host hk
  exact engine ▸ settings ▸ f k h' hk'

/-! ## A process that does what a session does -/

/-- A process whose bridges are those of a session's hosts. A host that does not act is told of no number. -/
structure Mirrors (config : Nat → Config) (first : Nat) (p : Process fun _ : Nat => Notebook) (st : State) :
    Prop where
  number : p.number = st.number
  host : ∀ k h, st.hosts[k]? = some h → ∃ n, p.moment k = ⟨{ h.bridge with number := n }, .idle⟩
  unborn : ∀ k, st.hosts.length ≤ k → p.moment k = .start (config k) first

namespace Mirrors

variable {first : Nat}

theorem set (m : Mirrors config first p st) (hk : st.hosts[k]? = some h) (hosts : st'.hosts = st.hosts.set k h')
    (number : p'.number = st'.number) (others : ∀ j, k ≠ j → p'.moment j = p.moment j)
    (own : ∃ n, p'.moment k = ⟨{ h'.bridge with number := n }, .idle⟩) : Mirrors config first p' st' where
  number := number
  host j g hj := by
    rw [hosts, List.getElem?_set] at hj
    split at hj
    · rename_i same
      subst same
      split at hj
      · exact Option.some.inj hj ▸ own
      · cases hj
    · rename_i other
      exact others j other ▸ m.host j g hj
  unborn j hj := by
    rw [hosts, List.length_set] at hj
    have inside : k < st.hosts.length := (List.getElem?_eq_some_iff.1 hk).1
    exact (others j (Nat.ne_of_lt (Nat.lt_of_lt_of_le inside hj))).trans (m.unborn j hj)

/-- What happens in a session, a process can do. -/
theorem goes (m : Mirrors config first p st) (g : st.Goes st') (fits : Fits e config st') :
    ∃ ds, Mirrors config first (p.after e ds) st' := by
  have engines : ∀ k h, st.hosts[k]? = some h → e k = h.engine := fun k h hk => (g.fits fits k h hk).1
  cases g with
  | aside hosts number =>
    exact ⟨[], m.number.trans number.symm, hosts ▸ m.host, hosts ▸ m.unborn⟩
  | @act k h h' hk l hosts number =>
    obtain ⟨-, vs, hv⟩ := l
    obtain ⟨n, hm⟩ := m.host k h hk
    let lend : Move Notebook := .share fun n => { n with desk := st.desk }
    have lent : ((p.moment k).lend p.number).step (e k) lend = ⟨(h.lend st.desk st.number).bridge, .idle⟩ := by
      rw [hm, m.number]
      rfl
    obtain ⟨moment, taken⟩ := Process.after_doer e p k lend vs
    have own : (p.after e ((lend :: vs).map fun v => ⟨k, v⟩)).moment k = ⟨h'.bridge, .idle⟩ := by
      rw [moment, Moment.after_cons, lent, engines k h hk]
      exact hv
    refine ⟨_, m.set hk hosts ?_ (fun j hj => ?_) ⟨_, own⟩⟩
    · rw [taken, Process.bridge, own, number]
    · refine Process.after_other e p fun d hd => ?_
      obtain ⟨v, -, rfl⟩ := List.mem_map.1 hd
      exact hj
  | @write k h h' hk bridge engine hosts number =>
    obtain ⟨n, hm⟩ := m.host k h hk
    exact ⟨[], m.set hk hosts (m.number.trans number.symm) (fun _ _ => rfl) ⟨n, bridge ▸ hm⟩⟩
  | @drop k h hk id hosts number =>
    obtain ⟨n, hm⟩ := m.host k h hk
    have own : (p.step e ⟨k, .act (.release id)⟩).moment k =
        ⟨{ h.bridge.drop id with number := st.number }, .idle⟩ := by
      rw [Process.step_self, hm, m.number]
      change (⟨({ h.bridge with number := st.number } : Bridge Notebook).drop id, .idle⟩ : Moment Notebook) = _
      unfold Bridge.drop
      dsimp only
      split <;> rfl
    have taken : (p.step e ⟨k, .act (.release id)⟩).number = st'.number := by
      rw [Process.number_step, Process.bridge, own, number]
    exact ⟨[⟨k, .act (.release id)⟩], m.set hk hosts taken (fun j hj => Process.step_other e p hj.symm) ⟨_, own⟩⟩
  | @spawn h c n fresh hn hosts number =>
    refine ⟨[], m.number.trans number.symm, fun k g hk => ?_, fun k hk => m.unborn k ?_⟩
    · by_cases old : k < st.hosts.length
      · rw [hosts, List.getElem?_append_left old] at hk
        exact m.host k g hk
      · have born := m.unborn k (Nat.le_of_not_lt old)
        rw [(fits k g hk).2] at born
        rw [hosts, List.getElem?_append_right (Nat.le_of_not_lt old)] at hk
        obtain rfl : g = h := List.mem_singleton.1 (List.mem_of_getElem? hk)
        refine ⟨first, born.trans ?_⟩
        rw [fresh]
        rfl
    · rw [hosts, List.length_append] at hk
      exact Nat.le_of_add_right_le hk

end Mirrors

/-- Whatever a session has come to, a process with its engines and settings has come to. -/
theorem mirrors_after (first : Nat) (l : (initial first).Leads st) (fits : Fits e config st) :
    ∃ ds, Mirrors config first ((Process.start config first).after e ds) st := by
  induction l with
  | refl => exact ⟨[], rfl, nofun, fun _ _ => rfl⟩
  | tail _ g ih =>
    obtain ⟨ds, mirrors⟩ := ih (g.fits fits)
    obtain ⟨ds', mirrors'⟩ := mirrors.goes g fits
    exact ⟨ds ++ ds', Process.after_append e _ ds ds' ▸ mirrors'⟩

/-- The hosts of every session are the bridges of a process. -/
theorem hosts_of_process (first : Nat) (xs : List Step) :
    ∃ (e : Nat → Engine Notebook) (config : Nat → Config) (ds : List (ScriptHost.Deed fun _ : Nat => Notebook)),
      Mirrors config first ((Process.start config first).after e ds) ((initial first).after xs) := by
  let hosts := ((initial first).after xs).hosts
  let e : Nat → Engine Notebook := fun k => (hosts[k]?.map (·.engine)).getD (EngineKind.engine 0 [] (.command []))
  let config : Nat → Config := fun k => (hosts[k]?.map (·.bridge.config)).getD {}
  have fits : Fits e config ((initial first).after xs) := by
    intro k h hk
    have found : hosts[k]? = some h := hk
    simp [e, config, found]
  obtain ⟨ds, mirrors⟩ := mirrors_after first (leads_after (initial first) xs) fits
  exact ⟨e, config, ds, mirrors⟩

end State

end Session

open Session State in
/-- In every interleaving of what happens to the bridges of a process, whatever stems their ids have, no two ids ever
issued have the same text, and what happens to one bridge changes no other one, so that each bridge is where its own
moves took it. A signal for another bridge's id, issued before or later, is unmatched and does nothing. Sessions are
such interleavings, and their hosts tell their ids apart in the same way. -/
theorem bridges_do_not_interfere :
    (∀ (ι : Type) [DecidableEq ι] (σ : ι → Type) (e : (i : ι) → Engine (σ i)) (config : ι → Config) (first : Nat)
      (ds ds' : List (Deed σ)),
      let p := (Process.start config first).after e ds
      let q := p.after e ds'
      (∀ i, ((p.bridge i).issued.map (·.text)).Nodup) ∧
      (∀ i j, i ≠ j → ((p.bridge i).issued.map (·.text)).Disjoint ((p.bridge j).issued.map (·.text))) ∧
      (∀ d j, j ≠ d.doer → (p.step e d).moment j = p.moment j) ∧
      (∀ i, ∃ vs, Move.here vs = Move.here (Deed.own i ds) ∧
        p.moment i = (Moment.start (config i) first).after (e i) vs) ∧
      ∀ i j, i ≠ j → ∀ s : Signal, s.id ∈ (q.bridge i).issued →
        (p.bridge j).signal s = (.unmatched, p.bridge j) ∧
          ∀ raw, Message.parse raw = .ok (.signal s) → (p.bridge j).post raw = (.unmatched, p.bridge j)) ∧
    ∀ (first : Nat) (xs : List Step),
      let st := (initial first).after xs
      (∃ e config ds, Mirrors config first ((Process.start config first).after e ds) st) ∧
      ∀ (j k : Nat) (g h : Host), st.hosts[j]? = some g → st.hosts[k]? = some h → j ≠ k →
        (g.bridge.issued.map (·.text)).Disjoint (h.bridge.issued.map (·.text)) ∧
        ∀ s : Signal, s.id ∈ g.bridge.issued → h.bridge.signal s = (.unmatched, h.bridge) ∧
          ∀ raw, Message.parse raw = .ok (.signal s) → h.bridge.post raw = (.unmatched, h.bridge) := by
  constructor
  · intro ι _ σ e config first ds ds' p q
    have apart : p.Apart e config first ds := Process.apart_after e config first ds
    have later : q.Apart e config first (ds ++ ds') := by
      have h := Process.apart_after e config first (ds ++ ds')
      rwa [Process.after_append] at h
    refine ⟨fun i => (apart.ledger i).issued_nodup.map InvocationId.text_injective, fun i j hij => ?_,
      fun d j hj => Process.step_other e p hj, apart.alone, fun i j hij s hs => ?_⟩
    · exact (apart.disjoint hij).map InvocationId.text_injective
    · refine (apart.ledger j).signal_of_not_issued fun hj => ?_
      exact later.disjoint hij hs (Process.issued_subset_after e p ds' j hj)
  · intro first xs st
    obtain ⟨e, config, ds, mirrors⟩ := hosts_of_process first xs
    have apart := Process.apart_after e config first ds
    have issued : ∀ (k : Nat) (h : Host), st.hosts[k]? = some h →
        (((Process.start config first).after e ds).bridge k).issued = h.bridge.issued := by
      intro k h hk
      obtain ⟨n, hm⟩ := mirrors.host k h hk
      rw [Process.bridge, hm]
      rfl
    refine ⟨⟨e, config, ds, mirrors⟩, fun j k g h hj hk hjk => ?_⟩
    have disjoint : g.bridge.issued.Disjoint h.bridge.issued := by
      rw [← issued j g hj, ← issued k h hk]
      exact apart.disjoint hjk
    refine ⟨disjoint.map InvocationId.text_injective, fun s hs => ?_⟩
    have run := hosts_after first xs h (List.mem_of_getElem? hk)
    exact run.ledger.signal_of_not_issued fun hi => disjoint hs hi

end ScriptHost
