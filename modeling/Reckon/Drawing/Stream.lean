import Reckon.Drawing.Lines

/-!
# Streams of lines

The lines of a drawing, and the tokens of a tree bottom up, can be taken one at a time. Any number of
streams over one tree can be open at once.

* `Stream.next`: the next line, and the stream after it. A grid that cannot be drawn says so when its
  first line is asked for, and is finished then.
* `Stream.rest`: all that remains.
* `Stream.answers`: a script of requests over one tree.
-/

namespace Reckon.Drawing

/-- A stream of lines. -/
inductive Stream
  /-- A sideways drawing with an indent. -/
  | sideways (indent : Int) (walk : Walk)
  /-- A grid of which nothing was asked yet. -/
  | grid (tree : Tree)
  /-- The tokens bottom up. -/
  | bottomUp (walk : Walk)
  /-- Lines that are known already. -/
  | lines (rest : List String)

namespace Stream

/-- What a stream gives when it is asked for its next line. -/
inductive Step
  | line (s : String)
  | tooTall (t : TooTall)
  | finished

/-- The first of the lines that remain. -/
def nextLine : List String → Step × Stream
  | [] => (.finished, .lines [])
  | s :: rest => (.line s, .lines rest)

/-- The next line, and the stream after it. -/
def next : Stream → Step × Stream
  | sideways indent w =>
    match w.next? .rightToLeft with
    | none => (.finished, sideways indent w)
    | some (node, w') => (.line (sidewaysLine indent node), sideways indent w')
  | bottomUp w =>
    match w.next? .bottomUp with
    | none => (.finished, bottomUp w)
    | some (node, w') => (.line node.1.token, bottomUp w')
  | grid t =>
    match Drawing.grid t with
    | .error tall => (.tooTall tall, lines [])
    | .ok ls => nextLine ls
  | lines ls => nextLine ls

/-- All that remains; the stream is finished after it. -/
def rest : Stream → Except TooTall (List String)
  | sideways indent w => .ok (sidewaysLines indent w)
  | bottomUp w => .ok ((Walk.toList .bottomUp w).map fun node => node.1.token)
  | grid t => Drawing.grid t
  | lines ls => .ok ls

/-- A request to the streams over one tree, which are numbered from zero in the order in which they
were opened. -/
inductive Request
  | openSideways (indent : Int)
  | openGrid
  | openBottomUp
  | next (stream : Nat)
  | rest (stream : Nat)

/-- The answer to a request. -/
inductive Answer
  | opened (stream : Nat)
  | step (s : Step)
  | rest (ls : Except TooTall (List String))

/-- The answer to one request, and the streams after it. A number that no stream has is answered as a
finished stream. -/
def answer (t : Tree) (streams : List Stream) : Request → Answer × List Stream
  | .openSideways indent => (.opened streams.length, streams ++ [sideways indent t.walk])
  | .openGrid => (.opened streams.length, streams ++ [grid t])
  | .openBottomUp => (.opened streams.length, streams ++ [bottomUp t.walk])
  | .next i =>
    let (step, s) := (streams.getD i (lines [])).next
    (.step step, streams.set i s)
  | .rest i => (.rest (streams.getD i (lines [])).rest, streams.set i (lines []))

/-- The answers to requests made one after the other. -/
def answers (t : Tree) (streams : List Stream) : List Request → List Answer
  | [] => []
  | q :: qs =>
    let (a, streams') := answer t streams q
    a :: answers t streams' qs

end Stream

end Reckon.Drawing
