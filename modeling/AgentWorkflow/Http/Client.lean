/-
Calls made at a site.

* `Http.Answer` — a status and a body.
* `Http.send` — makes a call; nothing may come back.
* `Http.Answer.json` — the body as a JSON value.
* `Http.posting`, `Http.getting`, `Http.bearer` — the calls that are made.
-/
import AgentWorkflow.Json.Source
import AgentWorkflow.Site

namespace AgentWorkflow.Http

structure Answer where
  status : Nat
  body : String

/-- Makes a call.  `none` when nothing comes back. -/
def send (c : Call) : Deed (Option Answer) := do
  let site ← get
  match c.reading site.wire.address with
  | .badAddress => pure none
  | .undeliverable => pure none
  | .request r =>
    let (response, wire) := site.wire.exchange r
    set { site with wire }
    match response with
    | .dropped => pure none
    | .answer status body => pure (some ⟨status, if Status.isBodiless status then "" else body⟩)

/-- Whether the address of a call can be understood. -/
def isWellFormed (c : Call) : Deed Bool := do
  match c.reading (← get).wire.address with
  | .badAddress => pure false
  | _ => pure true

namespace Answer

def isSuccess (a : Answer) : Bool := Status.isSuccess a.status

/-- The status as it is shown. -/
def line (a : Answer) : String := Status.line a.status

/-- The body as a JSON value. -/
def json (frame : String) (a : Answer) : Outcome Json :=
  match Json.parse a.body with
  | .ok j => .ok j
  | .error _ => .error ⟨[frame], .http⟩

end Answer

/-- The header that gives a token. -/
def bearer (token : String) : String × String := ("authorization", "Bearer " ++ token)

/-- The header that accepts every kind of answer. -/
def acceptAll : String × String := ("accept", "*/*")

/-- A call that sends a JSON value. -/
def posting (address : String) (headers : List (String × String)) (body : Json) : Call :=
  ⟨"POST", address, "", headers ++ [("content-type", "application/json")], some body⟩

/-- A call that sends nothing. -/
def getting (address parameters : String) (headers : List (String × String)) : Call :=
  ⟨"GET", address, parameters, headers, none⟩

/-- An address without slashes at its end. -/
def trimSlashes (address : String) : String :=
  String.ofList (address.toList.reverse.dropWhile (· = '/')).reverse

end AgentWorkflow.Http
