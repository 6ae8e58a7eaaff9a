/-
Exchanges with a server.

* `Http.Request`, `Http.Response` — what is sent, and what comes back.
* `Wire` — a server at its address, if there is one: the answers that it will give, and
  the requests it was sent.
* `Wire.exchange` — one request takes one answer; a server with no answers left
  fails.
* `Http.Call` — a request as it is wished for; `Http.Call.reading` tells what becomes
  of it.
-/
import AgentWorkflow.Http.Status
import AgentWorkflow.Http.Target
import AgentWorkflow.Json.Basic

namespace AgentWorkflow

namespace Http

/-- What is sent.  The target is the path with the query. -/
structure Request where
  method : String
  target : String
  headers : List (String × String)
  body : Option Json

/-- What comes back, if anything does. -/
inductive Response where
  | answer (status : Nat) (body : String)
  | dropped

/-- A request as it is wished for. -/
structure Call where
  method : String
  address : String
  /-- What is put behind the query of the address. -/
  parameters : String
  headers : List (String × String)
  body : Option Json

/-- What becomes of a call. -/
inductive Reading where
  /-- The address cannot be understood. -/
  | badAddress
  /-- A header cannot be sent, or nothing is at the address. -/
  | undeliverable
  | request (r : Request)

/-- Whether a text can be sent as the value of a header. -/
def isHeaderValue (s : String) : Bool :=
  s.toList.all fun c => c = '\t' || (0x20 ≤ c.toNat && c.toNat ≠ 0x7F)

/-- The value of a header as it is received: blanks around it are lost. -/
def receivedValue (s : String) : String :=
  let blank (c : Char) : Bool := c = ' ' || c = '\t'
  String.ofList ((s.toList.dropWhile blank).reverse.dropWhile blank).reverse

/-- What becomes of a call when there is no other server than the given one. -/
def Call.reading (c : Call) (server : Option String) : Reading :=
  match server.bind fun address => Text.dropHead? address c.address with
  | none => .undeliverable
  | some rest =>
    match Target.ofAddress? rest c.parameters with
    | none => .badAddress
    | some target =>
      if c.headers.all fun h => isHeaderValue h.2 then
        .request ⟨c.method, target, c.headers.map fun h => (h.1, receivedValue h.2), c.body⟩
      else .undeliverable

end Http

/-- A server at its address, if there is one: the answers still to be given, and the
requests so far. -/
structure Wire where
  address : Option String
  responses : List Http.Response
  requests : List Http.Request
  deriving Inhabited

/-- The answer of a server that has no other. -/
def Wire.exhausted : Http.Response := .answer 500 "no response left"

def Wire.exchange (w : Wire) (r : Http.Request) : Http.Response × Wire :=
  match w.responses with
  | [] => (exhausted, { w with requests := w.requests ++ [r] })
  | response :: rest => (response, { w with responses := rest, requests := w.requests ++ [r] })

end AgentWorkflow
