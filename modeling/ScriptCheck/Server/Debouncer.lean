import ScriptCheck.Table

/-! Tickets for work that should wait until things are quiet. A new ticket for a key takes
the place of the one before, and no ticket is given out twice. -/

namespace ScriptCheck.Server

structure Ticket where
  number : Nat
deriving DecidableEq, Repr

structure Debouncer (κ : Type) where
  current : Table κ Ticket
  issued : Nat

namespace Debouncer

variable {κ : Type} [DecidableEq κ]

def empty : Debouncer κ := ⟨.empty, 0⟩

def next (d : Debouncer κ) : Ticket := ⟨d.issued + 1⟩

def issue (d : Debouncer κ) (key : κ) : Debouncer κ where
  current := d.current.insert key d.next
  issued := d.issued + 1

def cancel (d : Debouncer κ) (key : κ) : Debouncer κ := { d with current := d.current.erase key }

def isCurrent (d : Debouncer κ) (key : κ) (ticket : Ticket) : Bool :=
  d.current.get? key = some ticket

theorem isCurrent_issue (d : Debouncer κ) (key k : κ) (ticket : Ticket) :
    (d.issue key).isCurrent k ticket =
      if k = key then decide (d.next = ticket) else d.isCurrent k ticket := by
  show decide ((d.current.insert key d.next).get? k = some ticket) = _
  rw [Table.get?_insert]
  by_cases h : k = key <;> simp [h, isCurrent]

theorem isCurrent_cancel (d : Debouncer κ) (key k : κ) (ticket : Ticket) :
    (d.cancel key).isCurrent k ticket = (decide (k ≠ key) && d.isCurrent k ticket) := by
  show decide ((d.current.erase key).get? k = some ticket) = _
  rw [Table.get?_erase]
  by_cases h : k = key <;> simp [h, isCurrent]

end Debouncer
end ScriptCheck.Server
