/-!
This module contains sorting by insertion. The start of a list that is in order stays together, and
every further item is inserted behind the items before it: its place is looked for by halving. For
an order in which some items are before each other in turn, the result depends on this.
-/

namespace QueryLinker.Insertion

variable {m : Type → Type} [Monad m] {α : Type}

/--
The items in front that go on in one direction behind `last`, and the others: each is before the one
in front of it if they are `descending`, and otherwise none is.
-/
def runFrom (before : α → α → m Bool) (descending : Bool) (last : α) :
    List α → m (List α × List α)
  | [] => return ([], [])
  | x :: xs => do
    if (← before x last) == descending then
      let (run, rest) ← runFrom before descending x xs
      return (x :: run, rest)
    return ([], x :: xs)

def firstRun (before : α → α → m Bool) : List α → m (List α × List α)
  | [] => return ([], [])
  | [x] => return ([x], [])
  | x :: y :: rest => do
    let descending ← before y x
    let (run, rest) ← runFrom before descending y rest
    let run := x :: y :: run
    return (if descending then run.reverse else run, rest)

def placeOf (isBefore : α → m Bool) (items : Array α) (low high : Nat) : m Nat := do
  if h : low < high then
    let middle := low + (high - low) / 2
    let first ←
      match items[middle]? with
      | some y => isBefore y
      | none => pure true
    if first then placeOf isBefore items low middle
    else placeOf isBefore items (middle + 1) high
  else return low
termination_by high - low

def insertAll (before : α → α → m Bool) (sorted : List α) : List α → m (List α)
  | [] => return sorted
  | x :: xs => do
    let place ← placeOf (before x) sorted.toArray 0 sorted.length
    insertAll before (sorted.take place ++ x :: sorted.drop place) xs

def sort (before : α → α → m Bool) (items : List α) : m (List α) := do
  let (run, rest) ← firstRun before items
  insertAll before run rest

end QueryLinker.Insertion
