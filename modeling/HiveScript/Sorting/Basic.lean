import HiveScript.Sorting.Merging

/-!
# Sorting

Lists are sorted by a comparison that may fail, so that it matters which elements are compared, and
in which order. The list is cut into runs that are sorted already, or made so if they are short.
Runs wait on a stack, and are merged by their power: how deep the boundary behind a run would stand
in a tree that halves the list.

* `Sorting.nextRun`: the first run of a list.
* `Sorting.power`: the power of a boundary between runs.
* `sortBy`: sorts a list; equals keep their order.
-/

namespace HiveScript

namespace Sorting

variable {α ε : Type} (less : α → α → Except ε Bool)

/-! ## Runs -/

/-- Extends a run, last element first, as long as its elements go the same way. -/
def extendRun (down : Bool) (last : α) (run : List α) : List α → Except ε (List α × List α)
  | [] => .ok (run, [])
  | x :: xs => do
    if (← less x last) = down then extendRun down x (x :: run) xs else return (run, x :: xs)

/-- The elements at the front that go up, or that go strictly down, which are turned round. -/
def naturalRun : List α → Except ε (List α × List α)
  | a :: b :: xs => do
    let down ← less b a
    let (run, xs) ← extendRun less down b [b, a] xs
    return (if down then run else run.reverse, xs)
  | xs => .ok (xs, [])

/-- Inserts an element into a sorted list, after its equals. -/
def insertSorted (xs : List α) (pivot : α) : Except ε (List α) := do
  let i ← bisect .front (fun x => do return !(← less pivot x)) xs (xs.length + 1) 0 xs.length
  return xs.take i ++ pivot :: xs.drop i

/-- The first run, of at least `least` elements if there are as many. -/
def nextRun (least : Nat) (xs : List α) : Except ε (List α × List α) := do
  let (run, rest) ← naturalRun less xs
  let more := least - run.length
  return (← (rest.take more).foldlM (insertSorted less) run, rest.drop more)

/-- The least length of runs in a list of `n` elements: its first six binary digits, raised by one
if another digit is set. -/
def leastRun (n : Nat) : Nat :=
  if n < 64 then n
  else
    let unit := Nat.pow 2 (n.log2 - 5)
    (n + unit - 1) / unit

/-! ## The stack -/

/-- A run that waits, and the power of the boundary behind it. -/
structure Waiting (α : Type) where
  start : Nat
  run : List α
  power : Nat

/-- The number of binary digits after which two fractions of `n` differ. -/
def differAt (n : Nat) : Nat → Nat → Nat → Nat
  | 0, _, _ => 1
  | fuel + 1, a, b =>
    if n ≤ a then differAt n fuel (2 * (a - n)) (2 * (b - n)) + 1
    else if n ≤ b then 1
    else differAt n fuel (2 * a) (2 * b) + 1

/-- The power of the boundary between runs of `i` and `j` elements, where `start` elements of `n`
come before: where the middles of the runs part when the list is halved again and again. -/
def power (n start i j : Nat) : Nat :=
  let a := 2 * start + i
  differAt n (n.log2 + 2) a (a + i + j)

/-- Merges the runs on top of the stack as long as the boundary below has a greater power. -/
def collapse (power : Nat) : Nat → List (Waiting α) → Except ε (List (Waiting α) × Nat)
  | patience, b :: a :: below =>
    if power < a.power then do
      let (run, patience) ← mergeRuns less patience a.run b.run
      collapse power patience ({ a with run } :: below)
    else .ok (b :: a :: below, patience)
  | patience, stack => .ok (stack, patience)
termination_by _ stack => stack.length

/-- Merges all runs of a stack, the short ones first. -/
def finish : Nat → List (Waiting α) → Except ε (List α)
  | patience, c :: b :: a :: below =>
    if a.run.length < c.run.length then do
      let (run, patience) ← mergeRuns less patience a.run b.run
      finish patience (c :: { a with run } :: below)
    else do
      let (run, patience) ← mergeRuns less patience b.run c.run
      finish patience ({ b with run } :: a :: below)
  | patience, [b, a] => do return (← mergeRuns less patience a.run b.run).1
  | _, [a] => .ok a.run
  | _, [] => .ok []
termination_by _ stack => stack.length

/-- Cuts a list of `n` elements into runs, of which `start` are on the stack. -/
def gather (n start : Nat) : Nat → Nat → List (Waiting α) → List α →
    Except ε (List (Waiting α) × Nat)
  | 0, patience, stack, _ => .ok (stack, patience)
  | fuel + 1, patience, stack, xs => do
    if xs.isEmpty then return (stack, patience)
    else
      let (run, rest) ← nextRun less (leastRun n) xs
      let (stack, patience) ←
        match stack with
        | [] => pure ([], patience)
        | last :: _ =>
          let p := power n last.start last.run.length run.length
          let (stack, patience) ← collapse less p patience stack
          match stack with
          | [] => pure ([], patience)
          | last :: below => pure ({ last with power := p } :: below, patience)
      gather n (start + run.length) fuel patience (⟨start, run, 0⟩ :: stack) rest

end Sorting

/-- Sorts a list; equals keep their order. -/
def sortBy {α ε : Type} (less : α → α → Except ε Bool) (xs : List α) : Except ε (List α) := do
  let (stack, patience) ←
    Sorting.gather less xs.length 0 xs.length Sorting.leastWins [] xs
  Sorting.finish less patience stack

end HiveScript
