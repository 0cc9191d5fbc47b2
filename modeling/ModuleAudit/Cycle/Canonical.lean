import ModuleAudit.Text.Basic

/-!
# Canonical cycles

A cycle is listed as a closed path: its first module again at the end. Where the
list starts is an accident of discovery, so every cycle has a canonical form: the
open list of its members, rotated so that the smallest comes first. Two closed
paths are the same cycle when their canonical forms are equal.
-/

namespace ModuleAudit.Cycle

/-- The members of a cycle, without the closing one. -/
def members (cycle : List Text) : List Text :=
  if 1 < cycle.length ∧ cycle.head? = cycle.getLast? then cycle.dropLast else cycle

def smallest (first : Text) (rest : List Text) : Text :=
  rest.foldl (fun least x => if Text.before x least then x else least) first

/-- The members, from the first occurrence of the smallest one on. -/
def canonical (cycle : List Text) : List Text :=
  match members cycle with
  | [] => []
  | first :: rest =>
    let all := first :: rest
    let start := all.idxOf (smallest first rest)
    all.drop start ++ all.take start

/-- An open list with its first element again at the end. -/
def close (cycle : List Text) : List Text := cycle ++ cycle.head?.toList

/-- One closed canonical copy of every cycle, in the order of discovery. -/
def distinct (cycles : List (List Text)) : List (List Text) :=
  ((cycles.map canonical).filter fun c => c ≠ []).eraseDups.map close

end ModuleAudit.Cycle
