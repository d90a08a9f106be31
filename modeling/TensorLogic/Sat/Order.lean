/-
Module: TensorLogic.Sat.Order
Purpose: The order in which a search decides variables: those first that took part in recent conflicts.
Main exports: Sat.Order, Sat.Order.create, Sat.Order.insert, Sat.Order.pop, Sat.Order.bump,
  Sat.Order.decay
-/

namespace TensorLogic.Sat

/-!
Every variable has a score, which grows with each conflict that the variable takes part in; recent conflicts
count more than old ones.  The variables that may have to be decided are kept in a heap, so that the one with
the highest score is at hand; of several the least one comes first.

The order is advice to the search.  Whatever it says, the search comes to the same answer in the end.
-/

/-- Variables in a heap, the place of each variable in it, counted from one, zero for those outside, the score
of each variable, and what a conflict adds to a score. -/
structure Order where
  heap : Array Nat
  places : Array Nat
  scores : Array Nat
  increment : Nat

namespace Order

/-- Whether a variable is to be decided before another one. -/
def isBefore (order : Order) (left right : Nat) : Bool :=
  let first := order.scores.getD left 0
  let second := order.scores.getD right 0
  second < first || (first == second && left < right)

/-- Put a variable at a place of the heap. -/
def put (order : Order) (place number : Nat) : Order :=
  { order with
    heap := order.heap.setIfInBounds place number
    places := order.places.setIfInBounds number (place + 1) }

/-- Move a variable from a place of the heap towards the top, as far as it belongs. -/
def rise (order : Order) (number : Nat) (place : Nat) : Order :=
  if isTop : place = 0 then order.put place number
  else
    let parent := (place - 1) / 2
    let other := order.heap.getD parent 0
    if order.isBefore number other then rise (order.put place other) number parent
    else order.put place number
termination_by place
decreasing_by omega

/-- Move a variable from a place of the heap away from the top, as far as it belongs, but not further than the
given number of steps. -/
def sink (order : Order) (number : Nat) (place : Nat) : (steps : Nat) → Order
  | 0 => order.put place number
  | steps + 1 =>
      let left := 2 * place + 1
      if left < order.heap.size then
        let first := order.heap.getD left 0
        let second := order.heap.getD (left + 1) first
        let isSecond := order.isBefore second first
        let other := if isSecond then second else first
        if order.isBefore other number then
          sink (order.put place other) number (if isSecond then left + 1 else left) steps
        else order.put place number
      else order.put place number

/-- No heap is as high as this. -/
def maxHeight : Nat := 64

/-- The order of so many variables, none of which is in the heap yet. -/
def create (count : Nat) : Order where
  heap := #[]
  places := Array.replicate count 0
  scores := Array.replicate count 0
  increment := 1024

/-- Put a variable into the heap, unless it is there. -/
def insert (order : Order) (number : Nat) : Order :=
  if order.places.getD number 0 = 0 then
    let place := order.heap.size
    rise { order with heap := order.heap.push number } number place
  else order

/-- Take the first variable out of the heap, if there is one. -/
def pop (order : Order) : Option Nat × Order :=
  match order.heap[0]?, order.heap.back? with
  | some first, some last =>
      let rest := { order with
        heap := order.heap.pop
        places := order.places.setIfInBounds first 0 }
      (some first, if first = last then rest else rest.sink last 0 maxHeight)
  | _, _ => (none, order)

/-- Scores are kept below this number. -/
def scoreLimit : Nat := 0x1000000000000

/-- Divide all scores, and what will be added to them, by the same number. -/
def rescale (order : Order) : Order :=
  { order with
    scores := order.scores.map (· >>> 30)
    increment := (order.increment >>> 30) + 1 }

/-- Raise the score of a variable that took part in a conflict. -/
def bump (order : Order) (number : Nat) : Order :=
  let raised := { order with
    scores := order.scores.modify number (· + order.increment) }
  let scaled := if raised.scores.getD number 0 < scoreLimit then raised else raised.rescale
  match scaled.places.getD number 0 with
  | 0 => scaled
  | place + 1 => scaled.rise number place

/-- After a conflict the next one counts for more. -/
def decay (order : Order) : Order :=
  { order with increment := order.increment + order.increment / 16 }

/-- The variable with the higher score comes first, and otherwise the least one. -/
example :
    let order := [2, 0, 1].foldl insert (create 3)
    (order.pop.1, (order.bump 1).pop.1) = (some 0, some 1) := by
  decide +kernel

end Order

end TensorLogic.Sat
