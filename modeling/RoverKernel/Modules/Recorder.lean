import RoverKernel.Queue
import RoverKernel.Payload

/-!
# The recorder module

A diagnostic module that remembers every request it serves.  It can be scripted: it writes a
fixed outcome (or leaves the outcome alone), and chain rules make it queue follow-up
entries when it serves a given service, which exercises entries pushed from inside a
callback.
-/

namespace RoverKernel

/-- when the recorder serves `onService`, it pushes the entry described by the rest -/
structure ChainRule where
  onService : Nat
  module : Nat
  service : Nat
  due : Millis := 0
  args : List UInt8 := []
deriving DecidableEq, Repr

/-- one request served -/
structure RecorderCall where
  service : Nat
  /-- length byte and payload as delivered -/
  raw : List UInt8
  outcomeBefore : ServiceOutcome
  /-- results of the chain pushes made, in rule order -/
  pushes : List PushResult
deriving DecidableEq, Repr

structure Recorder where
  /-- name reported by the registry -/
  name : String := "recorder"
  buffer : ServiceBuffer := ServiceBuffer.new argCapacity
  /-- outcome to write, or `none` to leave it alone -/
  outcome : Option ServiceOutcome := some .ok
  chain : List ChainRule := []
  /-- requests served, oldest first -/
  calls : List RecorderCall := []
deriving DecidableEq, Repr, Inhabited

namespace ChainRule

/-- builds the rule's entry and pushes it -/
def fire (rule : ChainRule) (q : TaskQueue) : PushResult × TaskQueue :=
  q.pushBuilt ((TaskEntry.scheduled rule.module rule.service rule.due).setArgs rule.args)

end ChainRule

namespace Recorder

/-- serves the request in the buffer: records it, fires the matching chain rules in order,
then writes the outcome -/
def invoke (r : Recorder) (q : TaskQueue) : Recorder × TaskQueue :=
  let rules := r.chain.filter (·.onService == r.buffer.service)
  let (pushes, q) := rules.foldl (fun (acc, q) rule =>
    let (res, q') := rule.fire q
    (acc ++ [res], q')) (([] : List PushResult), q)
  let call : RecorderCall :=
    { service := r.buffer.service, raw := r.buffer.raw, outcomeBefore := r.buffer.outcome, pushes }
  let buffer := match r.outcome with
    | some o => r.buffer.setOutcome o
    | none => r.buffer
  ({ r with calls := r.calls ++ [call], buffer }, q)

end Recorder

end RoverKernel
