import ScriptHost.Bridge.Moment
import Mathlib.Logic.Function.Basic
/-!
Bridges of one process.

Bridges share nothing but the counter that numbers their ids: the counter is lent to the bridge that
moves and taken back with what the bridge made of it. A run of a process is a list of `Deed`s, each a
move of one of its bridges, in whatever order the threads of all bridges come to act.
-/

namespace ScriptHost

variable {ι : Type} {σ : ι → Type}

/-- The bridges of a process, under names, and the number that the next id takes. -/
structure Process (σ : ι → Type) where
  number : Nat
  moment : (i : ι) → Moment (σ i)

/-- A move of one of the bridges. -/
structure Deed (σ : ι → Type) where
  doer : ι
  move : Move (σ doer)

/-- A moment whose bridge is lent the number of the next id. -/
def Moment.lend {σ : Type} (m : Moment σ) (number : Nat) : Moment σ := ⟨{ m.bridge with number }, m.work⟩

namespace Process

/-- The bridge under a name. -/
abbrev bridge (p : Process σ) (i : ι) : Bridge (σ i) := (p.moment i).bridge

/-- No bridge of the process has moved yet. -/
def start (config : ι → Config) (first : Nat) : Process σ := ⟨first, fun i => .start (config i) first⟩

variable [DecidableEq ι]

/-- One deed. -/
def step (e : (i : ι) → Engine (σ i)) (p : Process σ) (d : Deed σ) : Process σ :=
  let m := ((p.moment d.doer).lend p.number).step (e d.doer) d.move
  ⟨m.bridge.number, Function.update p.moment d.doer m⟩

/-- The process after a run. -/
def after (e : (i : ι) → Engine (σ i)) (p : Process σ) (ds : List (Deed σ)) : Process σ := ds.foldl (step e) p

end Process

/-- What one bridge does in a run. -/
def Deed.own [DecidableEq ι] (i : ι) (ds : List (Deed σ)) : List (Move (σ i)) :=
  ds.filterMap fun d => if h : d.doer = i then some (h ▸ d.move) else none

/-- Whether a move only says that ids were issued on other bridges. -/
def Move.isElsewhere {σ : Type} : Move σ → Bool
  | .elsewhere _ => true
  | _ => false

/-- A run without the moves that only say what was issued on other bridges. -/
def Move.here {σ : Type} (vs : List (Move σ)) : List (Move σ) := vs.filter (!·.isElsewhere)

end ScriptHost
