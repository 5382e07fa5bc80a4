import ScriptHost.Session.Step
/-!
Running a session.

A session works on named bridges and named handles. After each step the bridges settle; time passes
only in waits that come to nothing at once.
-/

namespace ScriptHost

namespace Session

/-- The state of a session. -/
structure State where
  hosts : List Host
  /-- which host a bridge's name means, latest first -/
  names : List (String × Nat)
  desk : Desk
  /-- the id last invoked under each name -/
  issued : List (String × String)
  /-- the number of the next id, over all bridges -/
  number : Nat
  /-- milliseconds waited so far -/
  now : Nat

/-- Before the first step, with the number of the first id. -/
def initial (first : Nat) : State := ⟨[], [], [], [], first, 0⟩

/-- A text in which `${name}` stands for the id last invoked under the name. -/
def State.substitute (st : State) (s : String) : String :=
  st.issued.foldl (fun s n => Text.replace ("$\x7b" ++ n.1 ++ "\x7d") n.2 s) s

/-- The handles that left the desk and belong to other bridges are given up there. -/
def State.abandon (st : State) (self : Nat) (before : Desk) : State :=
  before.foldl (fun st t =>
    if t.2.host = self ∨ st.desk.has t.2 then st
    else { st with hosts := st.hosts.modify t.2.host fun h => { h with bridge := h.bridge.drop t.2.id } }) st

/-- Lets the host with a number act and settle: what it did and wrote down is taken over. -/
def State.act {α : Type} (st : State) (k : Nat) (f : Host → α × Host) : Option (α × State) :=
  match st.hosts[k]? with
  | none => none
  | some h =>
    let h := h.lend st.desk st.number
    let h := if h.isDue st.now then { h with bridge := h.bridge.deadline }.settle else h
    let (a, h) := f h
    let h := h.settle
    let before := st.desk
    let desk := (h.bridge.engine.map (·.desk)).getD before
    let st := { st with desk, number := h.bridge.number, hosts := st.hosts.set k h.collect }
    some (a, st.abandon k before)

/-- As `act`, for what concerns the bridge only. -/
def State.onBridge {α : Type} (st : State) (k : Nat) (f : Bridge Notebook → α × Bridge Notebook) :
    Option (α × State) :=
  st.act k fun h => let (a, b) := f h.bridge; (a, { h with bridge := b })

/-- A wait of so many milliseconds on a host: `f` is told whether the gate opens by itself meanwhile,
and tells whether the wait was in vain. -/
def State.wait {α : Type} (st : State) (k ms : Nat) (inVain : α → Bool)
    (f : Engine Notebook → Bool → Bridge Notebook → α × Bridge Notebook) : Option (α × State) :=
  match st.hosts[k]? with
  | none => none
  | some host =>
    let wasOpen := host.bridge.gate.isReady
    match st.act k (fun h =>
      let (a, b) := f h.engine (h.isDue (st.now + ms)) h.bridge
      ((a, b.gate.isReady), { h with bridge := b })) with
    | none => none
    | some ((a, isOpen), st') =>
      let now :=
        if inVain a then st'.now + ms
        else if !wasOpen && isOpen then max st'.now host.deadline
        else st'.now
      some (a, { st' with now })

/-- Whether waiting for an outcome was in vain. -/
def timedOut {α : Type} : Except Failure α → Bool
  | .error (.timeout _ _) | .error (.notReady _) => true
  | _ => false

/-- An answer to a call that may fail. -/
def answerOf {α : Type} (view : α → Answer) : Except Failure α → Answer
  | .ok a => view a
  | .error f => .failed f

/-- The ticket under a name is gone. -/
def State.forget (st : State) (name : String) : State := { st with desk := st.desk.remove name }

/-- Gives up a ticket. -/
def State.release (st : State) (t : Ticket) : State :=
  match st.onBridge t.host fun b => ((), b.drop t.id) with
  | some (_, st) => st
  | none => st

/-- Invokes a source on a host. -/
def State.invoke (st : State) (k : Nat) (source : String) : Option (InvocationId × State) :=
  st.onBridge k fun b => b.invoke source

/-- What polling answers. -/
def polled : Option Outcome → Answer
  | some o => .outcome o
  | none => .unresolved

/-- Polls ids one after another. -/
def pollAll : List InvocationId → Bridge Notebook → List Answer × Bridge Notebook
  | [], b => ([], b)
  | id :: ids, b =>
    let (o, b) := b.poll id
    let (as, b) := pollAll ids b
    (polled o :: as, b)

/-- What an engine's call answers. -/
def resultOf {α : Type} (view : α → Answer) : Except Abort α → Answer
  | .ok a => view a
  | .error (.failed f) => .failed f
  | .error (.panicked text) => .panicked text

/-- A text as an outcome. -/
def textAnswer (s : String) : Answer := .outcome (.ok (.str s))

/-- Nothing as an outcome. -/
def nullAnswer : Answer := .outcome (.ok .null)

/-- The bridge that has a name, if there is one, is dropped. -/
def State.dropNamed (st : State) (name : String) : State :=
  match st.names.lookup name with
  | some k =>
    match st.act k fun h => ((), { h with bridge := h.bridge.cancel, held := false }) with
    | some (_, st) => st
    | none => st
  | none => st

/-- Starts a bridge under a name; a bridge that had the name is dropped. -/
def State.spawn (st : State) (name : String) (config : Config) (kind : EngineKind) : Answer × State :=
  match Bridge.spawn config st.number with
  | .refused v => (.failed v.failure, st)
  | .panicked text => (.panicked text, st)
  | .started bridge =>
    let k := st.hosts.length
    let st := st.dropNamed name
    let h : Host := ⟨bridge, kind.engine k st.desk, st.now, [], [], true⟩
    let st := { st with hosts := st.hosts ++ [h], names := (name, k) :: st.names }
    match st.onBridge k fun b => ((), b) with
    | some (_, st) => (.spawned, st)
    | none => (.spawned, st)

/-- What a deed does on the host with a number. -/
def State.deed (st : State) (name : String) (k : Nat) : Deed → Option (Answer × State)
  | .spawn config kind => some (st.spawn name config kind)
  | .invoke h source => do
    let (id, st) ← st.invoke k (st.substitute source)
    let old := st.desk.find? h
    let st := { st with
      desk := st.desk.put h ⟨k, id⟩
      issued := (h, id.text) :: st.issued.filter fun n => n.1 ≠ h }
    pure (.id id, match old with
      | some t => st.release t
      | none => st)
  | .poll h => do
    let t ← st.desk.find? h
    let (o, st) ← st.onBridge t.host fun b => b.poll t.id
    pure (polled o, if o.isSome then st.forget h else st)
  | .waitTimeout h ms => do
    let t ← st.desk.find? h
    let (o, st) ← st.wait t.host ms timedOut fun e due b => b.waitTimeout e patience due t.id ms
    pure (.outcome o, st.forget h)
  | .decode h type => do
    let t ← st.desk.find? h
    let (o, st) ← st.onBridge t.host fun b => b.decode type.decode t.id
    pure (polled o, st.forget h)
  | .drop h => do
    let t ← st.desk.find? h
    pure (.nothing, (st.forget h).release t)
  | .id h => do
    let t ← st.desk.find? h
    pure (.id t.id, st)
  | .invokeAs source type => do
    let host ← st.hosts[k]?
    let (o, st) ← st.wait k host.bridge.config.defaultTimeoutMs timedOut fun e due b =>
      b.invokeAs type.decode e patience due (st.substitute source)
    pure (.outcome o, st)
  | .invokeBlocking source ms => do
    let (o, st) ← st.wait k ms timedOut fun e due b =>
      b.invokeBlocking e patience due .elsewhere (st.substitute source) ms
    pure (.outcome o, st)
  | .invokeBlockingAs source ms type => do
    let (o, st) ← st.wait k ms timedOut fun e due b =>
      b.invokeBlockingAs type.decode e patience due .elsewhere (st.substitute source) ms
    pure (.outcome o, st)
  | .burst sources => do
    let (ids, st) ← st.onBridge k (Bridge.invokeEach false (sources.map st.substitute))
    let (answers, st) ← st.onBridge k (pollAll ids)
    let (_, st) ← st.onBridge k fun b => ((), ids.foldl Bridge.drop b)
    pure (.list answers, st)
  | .threads sources ms => do
    let (ids, st) ← st.onBridge k (Bridge.invokeEach true (sources.map st.substitute))
    let (os, st) ← st.wait k ms (·.any timedOut) fun e due b => b.awaitEach e patience due ms ids
    pure (.list (os.map .outcome), st)
  | .signal s => do
    let (d, st) ← st.onBridge k fun b => b.signal { s with id := ⟨st.substitute s.id.text⟩ }
    pure (.disposition d, st)
  | .post raw => do
    let (d, st) ← st.onBridge k fun b => b.post (st.substitute raw)
    pure (.disposition d, st)
  | .ready => do
    let (d, st) ← st.onBridge k Bridge.ready
    pure (.disposition d, st)
  | .initFailed reason => do
    let (d, st) ← st.onBridge k fun b => b.initFailed reason
    pure (.disposition d, st)
  | .waitReady ms => do
    let (r, st) ← st.wait k ms timedOut fun e due b => b.waitReady e patience due ms
    pure (answerOf .readiness r, st)
  | .state => do
    let (g, st) ← st.onBridge k fun b => (b.gate, b)
    pure (.gate g, st)
  | .pending => do
    let (n, st) ← st.onBridge k fun b => (b.pending, b)
    pure (.count n, st)
  | .onEngineThread => some (.flag false, st)
  | .settle => do
    let (_, st) ← st.onBridge k fun b => ((), b)
    pure (.nothing, st)
  | .shutdown => do
    let (_, st) ← st.act k fun h => ((), { h with bridge := h.bridge.shutdown h.engine patience })
    pure (.nothing, st)
  | .dropBridge => do
    let (_, st) ← st.act k fun h => ((), { h with bridge := h.bridge.cancel, held := false })
    pure (.nothing, st)
  | .evaluated => do
    let h ← st.hosts[k]?
    pure (.ids h.reported, { st with hosts := st.hosts.set k { h with reported := [] } })
  | .log => do
    let h ← st.hosts[k]?
    pure (.log h.log, { st with hosts := st.hosts.set k { h with log := [] } })
  | .directWrap .command id source =>
    let id : InvocationId := ⟨st.substitute id⟩
    some (.direct (textAnswer (Command.program id (st.substitute source))) [], st)
  | .directEvaluate .command id program => do
    let id : InvocationId := ⟨st.substitute id⟩
    let ((seen, r), st) ← st.onBridge k fun b => b.run (Command.evaluate [] id (st.substitute program))
    pure (.direct (resultOf (fun _ => nullAnswer) r) seen.reverse, st)
  | .directWrap (.script limits _) _ source =>
    some (resultOf textAnswer (ScriptEngine.program limits (st.substitute source)), st)
  | .directEvaluate (.script limits api) id program => do
    let id : InvocationId := ⟨st.substitute id⟩
    let ((s, r), st) ← st.onBridge k fun b => b.run (ScriptEngine.evaluate limits api {} id (st.substitute program))
    let h ← st.hosts[k]?
    let st := { st with hosts := st.hosts.set k { h with log := h.log ++ s.entries.reverse } }
    pure (resultOf (fun _ => nullAnswer) r, st)

/-- How the bridge of a name stands. -/
def State.standing (st : State) (name : String) : Option (Nat × Gate) := do
  let k ← st.names.lookup name
  let h ← st.hosts[k]?
  if h.held then some (h.bridge.pending, h.bridge.gate) else none

/-- One step. -/
def State.step (st : State) (s : Step) : Entry × State :=
  let (answer, st) := match s.deed with
    | .spawn config kind => st.spawn s.bridge config kind
    | d =>
      match (st.names.lookup s.bridge).bind fun k => st.deed s.bridge k d with
      | some r => r
      | none => (.misuse "no such bridge or handle", st)
  (⟨answer, st.standing s.bridge⟩, st)

/-- Runs the steps in order. -/
def State.run (st : State) : List Step → List Entry
  | [] => []
  | s :: ss =>
    let (e, st) := st.step s
    e :: st.run ss

end Session

/-- What the steps of a session answer if its ids are numbered from `first` on. -/
def Session.run (first : Nat) (steps : List Session.Step) : List Session.Entry := (Session.initial first).run steps

end ScriptHost
