/-
What a finished command leaves behind.

* `Command.Ending` — it exited with a code, or a signal ended it.
* `Command.Output` — how it ended and what it wrote, as far as that was kept.
* `Capture.read` — the first bytes of a stream are kept, up to a limit, and the
  rest is counted.
* `Command.Output.render` — the account that the model is given.
-/
import AgentWorkflow.Text.Basic
import AgentWorkflow.Text.Utf8

namespace AgentWorkflow

/-- Bytes that were kept of a stream, and the number of those that were not. -/
structure Capture where
  kept : List UInt8
  dropped : Nat
  deriving DecidableEq, Repr

namespace Capture

def start : Capture := ⟨[], 0⟩

/-- Takes a chunk of the stream. -/
def take (limit : Nat) (c : Capture) (chunk : List UInt8) : Capture :=
  let room := min chunk.length (limit - c.kept.length)
  ⟨c.kept ++ chunk.take room, c.dropped + (chunk.length - room)⟩

/-- Reads on, chunk by chunk.  A read that brings nothing is the end of the
stream. -/
def readOn (limit : Nat) (c : Capture) : List (List UInt8) → Capture
  | [] => c
  | chunk :: rest => if chunk.isEmpty then c else readOn limit (c.take limit chunk) rest

/-- Reads a stream that comes in chunks. -/
def read (limit : Nat) (chunks : List (List UInt8)) : Capture := readOn limit start chunks

end Capture

namespace Command

inductive Ending where
  | exited (code : UInt8)
  | signaled
  deriving DecidableEq, Repr

structure Output where
  ending : Ending
  output : Capture
  errors : Capture
  timedOut : Bool
  deriving DecidableEq, Repr

namespace Output

def code? (o : Output) : Option Nat :=
  match o.ending with
  | .exited code => some code.toNat
  | .signaled => none

def success (o : Output) : Bool := o.ending == .exited 0 && !o.timedOut

/-- How the command ended. -/
def headline (o : Output) : String :=
  if o.timedOut then "timed out\n"
  else
    match o.ending with
    | .exited code => "exit code " ++ toString code.toNat ++ "\n"
    | .signaled => "terminated by signal\n"

/-- A text that ends its last line. -/
def endLine (s : String) : String := if Text.finishesWith "\n" s then s else s ++ "\n"

/-- What was written to a stream; nothing is said of a stream that was not
used. -/
def renderStream (label : String) (c : Capture) : String :=
  if c.kept.isEmpty && c.dropped == 0 then ""
  else
    endLine ("=== " ++ label ++ " ===\n" ++ Text.decodeLossy c.kept) ++
      (if c.dropped > 0 then
        "[" ++ label ++ " truncated " ++ toString c.dropped ++ " bytes]\n"
      else "")

def render (o : Output) : String :=
  o.headline ++ renderStream "stdout" o.output ++ renderStream "stderr" o.errors

end Output

end Command

end AgentWorkflow
