import HiveScript.Text.Basic

/-!
# Merging of runs

Two runs that follow each other are merged from the end at which the shorter one stands, so that
its elements are the ones set aside. As long as the runs take turns, single elements are compared.
When one of them wins often in a row, the merging gallops; how often is adapted on the way.

* `Sorting.gallop`: how many elements at one end of a list pass a test, where those that pass stand
  together.
* `Sorting.mergeRuns`: merges two runs, with the patience that merging needs from then on.
-/

namespace HiveScript.Sorting

/-! ## Galloping

The test may fail, and it is known which elements it is put to: the first one, then ones at
distances that double, and at last those that halve what is left between two of them. -/

/-- Elements are counted from the front or from the back of a run. -/
inductive Side where
  | front
  | back
  deriving DecidableEq

/-- The element in the middle of `n` ones; of two the one farther from the front of the run. -/
def Side.middle (side : Side) (n : Nat) : Nat :=
  match side with
  | front => n / 2
  | back => (n - 1) / 2

section

variable {α ε : Type} (side : Side) (test : α → Except ε Bool) (xs : List α)

/-- How many elements pass, if at least `low` and at most `high` do. -/
def bisect : Nat → Nat → Nat → Except ε Nat
  | 0, low, _ => .ok low
  | fuel + 1, low, high =>
    if low < high then
      let middle := low + side.middle (high - low)
      match xs[middle]? with
      | none => .ok low
      | some x => do
        if (← test x) then bisect fuel (middle + 1) high else bisect fuel low middle
    else .ok low

/-- How many elements pass, if the one at `last` does and the next one to test is at `next`. -/
def stride : Nat → Nat → Nat → Except ε Nat
  | 0, last, _ => .ok last
  | fuel + 1, last, next => do
    match xs[next]? with
    | none => bisect side test xs xs.length (last + 1) xs.length
    | some x =>
      if (← test x) then stride fuel next (2 * next + 1)
      else bisect side test xs xs.length (last + 1) next

/-- How many elements pass. -/
def gallop : Except ε Nat := do
  match xs with
  | [] => return 0
  | x :: _ => if (← test x) then stride side test xs xs.length 0 1 else return 0

end

/-! ## Runs -/

/-- How often a run wins in a row before the merging gallops, at the beginning. -/
def leastWins : Nat := 7

/-- A merging that is under way. Both runs begin with what comes next. -/
structure Merging (α : Type) where
  /-- What is merged, last one first. -/
  done : List α
  /-- The run that was set aside. -/
  short : List α
  long : List α
  /-- How often a run wins in a row before the merging gallops. -/
  patience : Nat

namespace Merging

variable {α ε : Type}

/-- Nothing is left to compare: the last element of the run set aside is known to come last. -/
def isDone (m : Merging α) : Bool := m.short.length ≤ 1 || m.long.isEmpty

/-- All elements, in the order in which the merging goes. -/
def result (m : Merging α) : List α := m.done.reverse ++ m.long ++ m.short

/-- Takes `n` elements of the run that was set aside. -/
def takeShort (n : Nat) (m : Merging α) : Merging α :=
  if m.isDone then m
  else { m with done := (m.short.take n).reverse ++ m.done, short := m.short.drop n }

/-- Takes `n` elements of the longer run. -/
def takeLong (n : Nat) (m : Merging α) : Merging α :=
  if m.isDone then m
  else { m with done := (m.long.take n).reverse ++ m.done, long := m.long.drop n }

section

variable (side : Side) (longFirst : α → α → Except ε Bool)

/-- How many elements of the run that was set aside come before the next one of the longer run. -/
def shortWins (m : Merging α) : Except ε Nat :=
  match m.isDone, m.long with
  | false, y :: _ => gallop side (fun x => do return !(← longFirst x y)) m.short
  | _, _ => .ok 0

/-- How many elements of the longer run come before the next one of the run that was set aside. -/
def longWins (m : Merging α) : Except ε Nat :=
  match m.isDone, m.short with
  | false, x :: _ => gallop side (longFirst x) m.long
  | _, _ => .ok 0

/-- One round of galloping in either run, with how often each of them won. -/
def round (m : Merging α) : Except ε (Nat × Nat × Merging α) := do
  match side with
  | .front =>
    let i ← m.shortWins side longFirst
    let m := (m.takeShort i).takeLong 1
    let j ← m.longWins side longFirst
    return (i, j, (m.takeLong j).takeShort 1)
  | .back =>
    let j ← m.longWins side longFirst
    let m := (m.takeLong j).takeShort 1
    let i ← m.shortWins side longFirst
    return (i, j, (m.takeShort i).takeLong 1)

/-- How the next elements are found. -/
inductive Pace where
  /-- One by one, after some wins in a row of either run. -/
  | single (short long : Nat)
  | galloping

/-- Merges until nothing is left to compare. -/
def run : Nat → Pace → Merging α → Except ε (Merging α)
  | 0, _, m => .ok m
  | fuel + 1, pace, m =>
    match m.isDone, pace, m.short, m.long with
    | false, .single i j, x :: _, y :: _ => do
      let long ← longFirst x y
      let (i, j) := if long then (0, j + 1) else (i + 1, 0)
      let m := if long then m.takeLong 1 else m.takeShort 1
      if m.patience ≤ max i j && !m.isDone then
        run fuel .galloping { m with patience := m.patience + 1 }
      else run fuel (.single i j) m
    | false, .galloping, _, _ => do
      let (i, j, m) ← round side longFirst { m with patience := max 1 (m.patience - 1) }
      if m.isDone then return m
      else if leastWins ≤ max i j then run fuel .galloping m
      else run fuel (.single 0 0) { m with patience := m.patience + 1 }
    | _, _, _, _ => .ok m

end

end Merging

section

variable {α ε : Type} (less : α → α → Except ε Bool)

/-- Merges what is left of two runs when the elements at their ends that are in place are taken off:
the first element of `ys` comes before all of `xs`, and the last one of `xs` after all of `ys`. -/
def mergeOverlap (patience : Nat) (xs ys : List α) : Except ε (List α × Nat) := do
  let fuel := xs.length + ys.length
  if xs.length ≤ ys.length then
    let m : Merging α := ⟨[], xs, ys, patience⟩
    let m ← (Merging.takeLong 1 m).run .front (fun x y => less y x) fuel (.single 0 0)
    return (m.result, m.patience)
  else
    let m : Merging α := ⟨[], ys.reverse, xs.reverse, patience⟩
    let m ← (Merging.takeLong 1 m).run .back less fuel (.single 0 0)
    return (m.result.reverse, m.patience)

/-- Merges two runs that follow each other; equals keep their order. -/
def mergeRuns (patience : Nat) (xs ys : List α) : Except ε (List α × Nat) := do
  match ys, xs.getLast? with
  | y :: _, some x =>
    let i ← gallop .front (fun a => do return !(← less y a)) xs
    if i = xs.length then return (xs ++ ys, patience)
    let j ← gallop .back (fun b => do return !(← less b x)) ys.reverse
    let j := ys.length - j
    if j = 0 then return (xs ++ ys, patience)
    let (zs, patience) ← mergeOverlap less patience (xs.drop i) (ys.take j)
    return (xs.take i ++ zs ++ ys.drop j, patience)
  | _, _ => return (xs ++ ys, patience)

end

end HiveScript.Sorting
