import PostfixCalc.Text.Basic

namespace PostfixCalc

/-- The lines submitted so far, and the walk through them that brings one back. -/
structure History where
  /-- The oldest entry first. -/
  entries : List Text
  /-- The entry that was brought back last, if a walk is under way. -/
  position : Option Nat
  /-- The line that a walk set out from. -/
  draft : Text
  deriving DecidableEq, Repr

namespace History

def empty : History := ⟨[], none, []⟩

/-- Adds an entry, unless it is blank or repeats the last one. A walk ends. -/
def push (h : History) (entry : Text) : History :=
  let keep := Text.trim entry ≠ [] ∧ h.entries.getLast? ≠ some entry
  { h with entries := if keep then h.entries ++ [entry] else h.entries, position := none }

/-- Steps back by one entry. The first step keeps `current` as the draft. -/
def previous (h : History) (current : Text) : Option Text × History :=
  match h.position with
  | none =>
    if h.entries = [] then (none, h)
    else
      let n := h.entries.length - 1
      (h.entries[n]?, { h with position := some n, draft := current })
  | some n => (h.entries[n - 1]?, { h with position := some (n - 1) })

/-- Steps forward by one entry, behind the newest one to the draft. -/
def next (h : History) : Option Text × History :=
  match h.position with
  | none => (none, h)
  | some n =>
    if n + 1 < h.entries.length then (h.entries[n + 1]?, { h with position := some (n + 1) })
    else (some h.draft, { h with position := none })

def rest (h : History) : History := { h with position := none }

end History

end PostfixCalc
