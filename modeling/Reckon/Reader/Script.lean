import Reckon.Reader.Parse

/-!
# Scripts for one reader

A reader can be asked for one phrase after the other, also after a fault.

* `Reader.Request`: what a reader can be asked for; an operator may be one of any list of them.
* `Reader.answer`: the answer to a request, and the reader after it.
* `Reader.answers`: the answers to a list of requests.
-/

namespace Reckon.Reader

/-- A request to a reader. -/
inductive Request
  | expression
  | term
  | factor
  | digit
  | parse
  /-- For the first of some operators that comes next. -/
  | anyOf (operators : List Operator)

/-- The request for an operator of a tier. -/
def Request.operator (tier : Tier) : Request := .anyOf tier.operators

/-- The answer to a request. -/
inductive Answer
  | reading (x : Reading)
  | result (x : Result)
  | operator (op : Option Operator)
  | fault (f : Fault)

/-- The answer that an outcome gives, and the reader after it. -/
def ofOutcome {α : Type} {n : Nat} (wrap : α → Answer) : Outcome α n → Answer × Reader
  | .answer a r _ => (wrap a, r)
  | .fault f r => (.fault f, r)

/-- The answer to one request, and the reader after it. -/
def answer (bound : Int) (r : Reader) : Request → Answer × Reader
  | .expression => ofOutcome .reading (chain bound .sum r)
  | .term => ofOutcome .reading (chain bound .product r)
  | .factor => ofOutcome .reading (factor bound r)
  | .digit => ofOutcome .reading r.digit
  | .parse => ofOutcome .result (r.parse bound)
  | .anyOf ops =>
    match r.cursor.takeOperator? ops with
    | some (op, c) => (.operator (some op), { r with cursor := c })
    -- blanks are skipped in the search for the first one, so not if there is none to search for
    | none => (.operator none, if ops.isEmpty then r else r.skip)

/-- The answers to requests made one after the other, each with the reader after it. -/
def answers (bound : Int) (r : Reader) : List Request → List (Answer × Reader)
  | [] => []
  | q :: qs => r.answer bound q :: answers bound (r.answer bound q).2 qs

end Reckon.Reader
