import ScriptHost.Bridge.State
/-!
What a bridge's journal says under each heading, oldest first.
-/

namespace ScriptHost

namespace Event

/-- The id that was issued. -/
@[simp] def issued? : Event → Option InvocationId
  | issued id => some id
  | _ => none

/-- The id that was completed, and the outcome that its waiter was given. -/
@[simp] def resolution? : Event → Option (InvocationId × Outcome)
  | resolved id o => some (id, o)
  | _ => none

/-- The id that left the table: it was completed or given up. -/
@[simp] def ended? : Event → Option InvocationId
  | resolved id _ | discarded id => some id
  | _ => none

/-- The id that its waiter let go. -/
@[simp] def released? : Event → Option InvocationId
  | released id => some id
  | _ => none

/-- The command that was sent. -/
@[simp] def sent? : Event → Option Command
  | sent c => some c
  | _ => none

/-- The command whose turn came. -/
@[simp] def taken? : Event → Option Command
  | taken c => some c
  | _ => none

/-- The command that the engine was given. -/
@[simp] def handed? : Event → Option Command
  | handedOver c => some c
  | _ => none

/-- The command that the engine wrapped without failing. -/
@[simp] def wrapped? : Event → Option Command
  | wrapped c => some c
  | _ => none

/-- The command whose program the engine evaluated without failing. -/
@[simp] def accepted? : Event → Option Command
  | returned c (.ok ()) => some c
  | _ => none

/-- The command that the engine is done with, however that ended. -/
@[simp] def finished? : Event → Option Command
  | returned c _ => some c
  | _ => none

/-- What the factory came to. -/
@[simp] def built? : Event → Option (Except Abort Unit)
  | built r => some r
  | _ => none

/-- Whether the engine thread records the event of its own work, as nobody else does. -/
def isWork : Event → Bool
  | taken _ | handedOver _ | wrapped _ | returned _ _ | built _ => true
  | _ => false

end Event

namespace Bridge

variable {σ α : Type}

/-- What the journal says under a heading. -/
def record (f : Event → Option α) (b : Bridge σ) : List α := (b.journal.filterMap f).reverse

/-- The ids issued. -/
abbrev issued (b : Bridge σ) : List InvocationId := b.record Event.issued?

/-- The ids completed, each with its outcome. -/
abbrev resolutions (b : Bridge σ) : List (InvocationId × Outcome) := b.record Event.resolution?

/-- The ids that left the table. -/
abbrev ended (b : Bridge σ) : List InvocationId := b.record Event.ended?

/-- The ids that their waiters let go. -/
abbrev released (b : Bridge σ) : List InvocationId := b.record Event.released?

/-- The commands sent. -/
abbrev sent (b : Bridge σ) : List Command := b.record Event.sent?

/-- The commands whose turn came. -/
abbrev taken (b : Bridge σ) : List Command := b.record Event.taken?

/-- The commands that the engine was given. -/
abbrev handed (b : Bridge σ) : List Command := b.record Event.handed?

/-- The commands that the engine wrapped without failing. -/
abbrev wrapped (b : Bridge σ) : List Command := b.record Event.wrapped?

/-- The commands whose programs the engine evaluated without failing. -/
abbrev accepted (b : Bridge σ) : List Command := b.record Event.accepted?

/-- The commands that the engine is done with. -/
abbrev finished (b : Bridge σ) : List Command := b.record Event.finished?

/-- What the factory came to, once it is done. -/
abbrev factory (b : Bridge σ) : List (Except Abort Unit) := b.record Event.built?

@[simp] theorem record_note (f : Event → Option α) (b : Bridge σ) (e : Event) :
    (b.note e).record f = b.record f ++ (f e).toList := by
  cases h : f e <;> simp [record, note, h]

theorem record_note_aside {f : Event → Option α} {e : Event} (h : f e = none) (b : Bridge σ) :
    (b.note e).record f = b.record f := by
  simp [h]

@[simp] theorem record_noteIf (f : Event → Option α) (b : Bridge σ) (p : Bool) (e : Event) :
    (b.noteIf p e).record f = b.record f ++ if p then (f e).toList else [] := by
  cases p
  · simp [record, noteIf]
  · exact (record_note f b e).trans (by simp)

/-! ## What the operations record -/

@[simp] theorem record_resolve (f : Event → Option α) (b : Bridge σ) (id : InvocationId) (o : Outcome) :
    (b.resolve id o).record f = b.record f ++ if b.table.isPending id then (f (.resolved id o)).toList else [] :=
  record_noteIf f _ _ _

@[simp] theorem record_openGate (f : Event → Option α) (b : Bridge σ) (r : Readiness) :
    (b.openGate r).2.record f = b.record f ++ if (b.gate.trigger r).2 then (f (.opened r)).toList else [] :=
  record_noteIf f _ _ _

@[simp] theorem record_enter (f : Event → Option α) (b : Bridge σ) (held : Bool) :
    (b.enter held).record f = b.record f ++ (f (.issued b.nextId)).toList :=
  record_note f _ _

@[simp] theorem record_push (f : Event → Option α) (b : Bridge σ) (c : Command) :
    (b.push c).record f = b.record f ++ (f (.sent c)).toList :=
  record_note f _ _

@[simp] theorem record_release (f : Event → Option α) (b : Bridge σ) (id : InvocationId) :
    (b.release id).record f = b.record f ++
      (if (b.table.waiter? id).isSome && b.table.isPending id then (f (.discarded id)).toList else []) ++
      if (b.table.waiter? id).isSome then (f (.released id)).toList else [] := by
  rw [release, record_noteIf, record_noteIf]
  rfl

end Bridge

end ScriptHost
