import ScriptHost.Session.Host
/-!
The steps of a session and their answers.
-/

namespace ScriptHost.Session

/-- The engine that a program is given to directly. -/
inductive DirectEngine where
  | command
  | script (limits : Script.Limits) (api : Script.Api)

/-- What a step does. In sources, posted texts and ids `${name}` stands for the id that was last
invoked under the name. -/
inductive Deed where
  | spawn (config : Config) (kind : EngineKind)
  | invoke (name source : String)
  | poll (name : String)
  | waitTimeout (name : String) (ms : Nat)
  | decode (name : String) (t : Target)
  | drop (name : String)
  | id (name : String)
  | invokeAs (source : String) (t : Target)
  | invokeBlocking (source : String) (ms : Nat)
  | invokeBlockingAs (source : String) (ms : Nat) (t : Target)
  | burst (sources : List String)
  | threads (sources : List String) (ms : Nat)
  | signal (s : Signal)
  | post (raw : String)
  | ready
  | initFailed (reason : String)
  | waitReady (ms : Nat)
  | state
  | pending
  | onEngineThread
  | settle
  | shutdown
  | dropBridge
  | evaluated
  | log
  | directWrap (engine : DirectEngine) (id source : String)
  | directEvaluate (engine : DirectEngine) (id program : String)

/-- A step: the bridge it is about, and what it does. -/
structure Step where
  bridge : String
  deed : Deed

/-- What a step answers. -/
inductive Answer where
  | nothing
  | spawned
  | failed (f : Failure)
  | panicked (text : String)
  | id (id : InvocationId)
  | outcome (o : Outcome)
  | unresolved
  | list (answers : List Answer)
  | disposition (d : Disposition)
  | readiness (r : Readiness)
  | gate (g : Gate)
  | count (n : Nat)
  | flag (b : Bool)
  | ids (ids : List InvocationId)
  | log (entries : List LogEntry)
  /-- what a command engine returned, and the ids that it evaluated -/
  | direct (result : Answer) (reported : List InvocationId)
  /-- the step names nothing that exists -/
  | misuse (message : String)

/-- An answer, and how the bridge stands after the step if it is still held. -/
structure Entry where
  answer : Answer
  standing : Option (Nat × Gate)

end ScriptHost.Session
