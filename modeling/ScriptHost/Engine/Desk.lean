import ScriptHost.Wire.Message
/-!
Handles under names.

A desk keeps the ids that callers wait for under names of their choice. It is shared: the host and
the engines of a session find each other's handles on it.
-/

namespace ScriptHost

/-- An id that is waited for: the bridge it belongs to, and the id. -/
structure Ticket where
  host : Nat
  id : InvocationId
deriving DecidableEq, Repr

/-- Tickets under names. -/
abbrev Desk := List (String × Ticket)

namespace Desk

/-- The ticket under a name. -/
def find? (d : Desk) (name : String) : Option Ticket := d.lookup name

/-- The desk without what is under a name. -/
def remove (d : Desk) (name : String) : Desk := d.filter fun t => t.1 ≠ name

/-- Puts a ticket under a name, in place of what is there. -/
def put (d : Desk) (name : String) (t : Ticket) : Desk := (name, t) :: d.remove name

/-- Whether a ticket is on the desk. -/
def has (d : Desk) (t : Ticket) : Bool := d.any fun u => u.2 = t

end Desk

end ScriptHost
