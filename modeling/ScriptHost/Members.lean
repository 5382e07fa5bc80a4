/-!
Members sorted by key.

Objects and maps list their members in the order of the keys' code points, each key once; what is put
in later replaces what was there.
-/

namespace ScriptHost.Members

variable {α β : Type}

/-- Puts a member into a list sorted by key, in place of one with the same key. -/
def put (k : String) (v : α) : List (String × α) → List (String × α)
  | [] => [(k, v)]
  | (l, w) :: ms =>
    if k < l then (k, v) :: (l, w) :: ms
    else if k = l then (k, v) :: ms
    else (l, w) :: put k v ms

/-- The members sorted by key; of members with one key the last is kept. -/
def sort (ms : List (String × α)) : List (String × α) :=
  ms.foldl (fun acc m => put m.1 m.2 acc) []

end ScriptHost.Members
