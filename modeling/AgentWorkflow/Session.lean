/-
Runs.

* `Session` — what is fixed for a run: flags, texts, the prompt, the tools and
  the other collaborators.
* `Event` — what a run asks of its collaborators, and what the model replies.
* `World` — the site, the store of the workflow, and the record of events.
* `Act`, `Step` — a computation on a world that may fail, and one that does not.
* `Session.request`, `Session.notifyAll`, `Session.invoke`, `Session.callTool` —
  the ways to a collaborator; each leaves its events in the record.
-/
import AgentWorkflow.Site
import AgentWorkflow.Store
import AgentWorkflow.Texts
import AgentWorkflow.Tool.Catalog

namespace AgentWorkflow

/-- A tool takes an object of arguments. -/
abbrev Tool := Table Json → Job Json

/-- The number and the title of an issue or a pull request. -/
structure Summary where
  number : Nat
  title : String
  deriving DecidableEq, Repr

/-- A host of repositories. -/
structure Forge where
  openIssues : Job (List Summary)
  openPullRequests : Job (List Summary)
  createBranch : String → String → Job Unit
  createPullRequest : PullRequest → Job Summary

/-- A place that notifications are sent to. -/
structure Channel where
  name : String
  send : String → Job Unit

/-- What the model is asked: the next turn of a conversation, with the tools it
may call. -/
structure Request where
  model : String
  messages : List Message
  specs : List Json

/-- What is asked to be true of a run. -/
structure Flags where
  /-- No tool that modifies the repository is run. -/
  dryRun : Bool
  /-- Nothing is asked before a tool is run. -/
  yolo : Bool
  /-- Loops are gone round once. -/
  once : Bool
  deriving DecidableEq, Repr, Inhabited

structure Session where
  flags : Flags
  model : String
  prompt : List Message
  specs : List Json
  tools : Table Tool
  policy : Tool.Policy
  texts : Texts
  roadmapPath : String
  forge : Option Forge
  channels : List Channel
  complete : Request → Job Message
  confirm : String → Table Json → Deed Bool

/-- What a run asks of its collaborators, and what the model replies. -/
inductive Event where
  | requested (request : Request)
  /-- What came of a request. -/
  | replied (reply : Outcome Message)
  | asked (tool : String) (arguments : Table Json)
  | invoked (tool : String) (arguments : Table Json)
  | delivered (channel message : String)
  /-- A plugin was called for a node. -/
  | called (plugin : String) (inputs : Inputs)

structure World where
  site : Site
  store : Store
  /-- The events so far, the first one first. -/
  record : List Event

/-- A computation on a world that may fail. -/
abbrev Act (α : Type) := ExceptT Failure (StateM World) α

/-- A computation on a world that does not fail. -/
abbrev Step (α : Type) := StateM World α

namespace Step

/-- Does something at the site. -/
def deed {α : Type} (d : Deed α) : Step α := fun w =>
  let (a, site) := d w.site
  (a, { w with site })

/-- Does a job at the site and answers what came of it. -/
def attempt {α : Type} (j : Job α) : Step (Outcome α) := deed j.run

def note (n : Note) : Step Unit := deed (Deed.note n)

def happen (e : Event) : Step Unit := modify fun w => { w with record := w.record ++ [e] }

end Step

namespace Act

variable {α : Type}

def ofOutcome : Outcome α → Act α
  | .ok a => pure a
  | .error f => throw f

/-- Does a job at the site. -/
def job (j : Job α) : Act α := ExceptT.mk (Step.attempt j)

/-- An act on its own: it starts from an empty store, and of what it leaves behind only
the site goes on. -/
def alone (a : Act α) : Job α := ExceptT.mk fun site =>
  let (outcome, w) := a.run ⟨site, Store.empty, []⟩
  (outcome, w.site)

/-- Names what was being done when an act fails. -/
def within (frame : String) (a : Act α) : Act α :=
  a.tryCatch fun f => throw (f.within frame)

def store : Act Store := do pure (← get).store

def setStore (s : Store) : Act Unit := modify fun w => { w with store := s }

end Act

namespace Session

/-- Puts a request to the model and answers what came of it. -/
def pose (s : Session) (r : Request) : Step (Outcome Message) := do
  Step.happen (.requested r)
  let reply ← Step.attempt (s.complete r)
  Step.happen (.replied reply)
  pure reply

/-- Asks the model for the next turn. -/
def request (s : Session) (messages : List Message) : Act Message :=
  Act.within "request completion" (ExceptT.mk (s.pose ⟨s.model, messages, s.specs⟩))

/-- Sends a message to one channel; answers whether it was delivered. -/
def notify (message : String) (c : Channel) : Step Bool := do
  Step.happen (.delivered c.name message)
  match ← Step.attempt (c.send message) with
  | .ok _ => pure true
  | .error f =>
    Step.note (.warning "notification failed" [("channel", c.name), ("err", f.message)])
    pure false

/-- Sends a message to channels one after the other; answers how many delivered
it. -/
def notifyEach (message : String) : List Channel → Step Nat
  | [] => pure 0
  | c :: rest => do
    let delivered ← notify message c
    let more ← notifyEach message rest
    pure (if delivered then more + 1 else more)

/-- Sends a message to every channel. -/
def notifyAll (s : Session) (message : String) : Step Nat := notifyEach message s.channels

/-- Asks whether a tool may be run. -/
def ask (s : Session) (name : String) (arguments : Table Json) : Step Bool := do
  Step.happen (.asked name arguments)
  Step.deed (s.confirm name arguments)

/-- Runs a tool. -/
def invoke (name : String) (tool : Tool) (arguments : Table Json) : Step (Outcome Json) := do
  Step.happen (.invoked name arguments)
  Step.attempt (tool arguments)

/-- Whether a tool is left out because it modifies the repository. -/
def withholds (s : Session) (name : String) : Bool :=
  s.flags.dryRun && s.policy.isModifying name

/-- Runs a tool by name.  A tool that is not there or is left out is told in the
answer. -/
def callTool (s : Session) (name : String) (arguments : Table Json) : Act Json :=
  match Table.get? s.tools name with
  | none => pure (.text (s.texts.format "tool_not_found" [("name", name)]))
  | some tool =>
    if s.withholds name then
      pure (.text (s.texts.format "tool_skipped_dry_run" [("name", name)]))
    else ExceptT.mk (invoke name tool arguments)

end Session

end AgentWorkflow
