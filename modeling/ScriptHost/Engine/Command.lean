import ScriptHost.Bridge.Engine
import ScriptHost.Text.Blank
/-!
The command engine.

Its source language is one command for each invocation: a word that says what to report, and behind
the first blank its argument. The program carries the id on its first line. The engine's state are
the ids that it has evaluated, latest first.
-/

namespace ScriptHost.Command

/-- What a source asks for. -/
inductive Instruction where
  /-- completes with `null` -/
  | empty
  /-- completes with a JSON value -/
  | value (literal : String)
  /-- completes with an error -/
  | throw (message : String)
  /-- completes nothing -/
  | hold
  /-- refuses the command -/
  | reject (message : String)
  /-- posts a text -/
  | raw (text : String)
  | panic
  | unknown (word : String)
deriving DecidableEq, Repr

/-- The instruction of a source: blanks around it do not count, the first space ends the word. -/
def Instruction.ofSource (source : String) : Instruction :=
  let (word, argument) := Text.cut ' ' (Text.trim source)
  match word with
  | "" => .empty
  | "value" => .value argument
  | "throw" => .throw argument
  | "hold" => .hold
  | "reject" => .reject argument
  | "raw" => .raw argument
  | "panic" => .panic
  | _ => .unknown word

/-- What the engine does about an instruction for an invocation. -/
def Instruction.conduct (id : InvocationId) : Instruction → Conduct (Except Abort Unit)
  | .empty => .act (.signal (.ofValue id .null)) fun _ => .done (.ok ())
  | .value literal =>
    match Json.read literal with
    | .ok v => .act (.signal (.ofValue id v)) fun _ => .done (.ok ())
    | .error e => .done (.error (.failed (.encoding s!"bad value literal: {e.message}")))
  | .throw message => .act (.signal (.ofError id message)) fun _ => .done (.ok ())
  | .hold => .done (.ok ())
  | .reject message => .done (.error (.failed (.transport message)))
  | .raw text => .act (.post text) fun _ => .done (.ok ())
  | .panic => .done (.error (.panicked "scripted engine panic"))
  | .unknown word => .done (.error (.failed (.engine s!"unknown command: {word}")))

/-- The program of an invocation: its id on the first line, then the source. -/
def program (id : InvocationId) (source : String) : String := s!"{id.text}\n{source}"

/-- What evaluating a program does; a program that was made for another id is refused. -/
def evaluate (seen : List InvocationId) (id : InvocationId) (program : String) :
    Conduct (List InvocationId × Except Abort Unit) :=
  let (owner, source) := Text.cut '\n' program
  if owner ≠ id.text then
    .done (seen, .error (.failed (.transport "wrapped program lost its invocation id")))
  else ((Instruction.ofSource source).conduct id).map fun r => (id :: seen, r)

/-- The command engine; `build` is what its factory does. -/
def engine (build : Conduct (Except Abort Unit)) : Engine (List InvocationId) where
  build := build.map fun r => r.map fun _ => []
  wrap seen id source := .done (seen, .ok (program id source))
  evaluate := evaluate

end ScriptHost.Command
