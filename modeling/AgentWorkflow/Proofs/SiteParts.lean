/-
What is done at a site.

* `Deed.OnFiles` — what is done with files, one thing at a time.  The tools on files and commands,
  and what is done with the roadmap, are made of such things (`Tool.madeOf_builtinTool?`,
  `Roadmap.madeOf_write`, …).
* `Deed.OnWire` — what a service does, one thing at a time.  The model, the host and the channels
  are made of such things (`Completion.madeOf_persistent`, `GitHub.madeOf_send`, …).
* `Http.madeOf_asking` — a job that makes one call and decides on the answer.
* `Deed.OnFiles.goes`, `Deed.OnWire.goes` — where such things lead.

Design notes: a tool is about files or about a service, so there are two kinds of parts and not one.
`changes` and `calls` say more of them where more is asked for.
-/
import AgentWorkflow.Context
import AgentWorkflow.Proofs.Parts
import AgentWorkflow.Service.Channels
import AgentWorkflow.Service.Completion
import AgentWorkflow.Service.GitHub
import AgentWorkflow.Tool.Assembly

namespace AgentWorkflow

variable {α : Type}

/-! ### Files -/

/-- What is done with files, one thing at a time: they are looked at, notes are taken, and where
`changes` holds other files take their place. -/
inductive Deed.OnFiles (changes : Prop) : (α : Type) → Deed α → Prop
  | look : OnFiles changes (Outcome Disk) Job.disk.run
  | note (n : Note) : OnFiles changes Unit (Deed.note n)
  | replace (hchanges : changes) (d : Disk) : OnFiles changes (Outcome Unit) (Job.setDisk d).run

open Deed (OnFiles)

variable {changes : Prop}

/-- Where the notes and the changes lead, all that is done with files leads. -/
theorem Deed.OnFiles.goes {R : Site → Site → Prop} [Std.Refl R] {d : Deed α}
    (h : OnFiles changes α d) (hnote : ∀ n, Goes R (Deed.note n))
    (hreplace : changes → ∀ d, Goes R (Job.setDisk d).run) : Goes R d := by
  cases h with
  | look => exact Job.goes_disk
  | note n => exact hnote n
  | replace hchanges d => exact hreplace hchanges d

namespace Job

theorem madeOf_disk : MadeOf (OnFiles changes) disk.run := .part .look

theorem madeOf_setDisk (d : Disk) : MadeOf (OnFiles True) (setDisk d).run :=
  .part (.replace trivial d)

theorem madeOf_readText (frame path : String) :
    MadeOf (OnFiles changes) (readText frame path).run :=
  .run_bind madeOf_disk fun _ => madeOf_ofOutcome _

theorem madeOf_change (frame : String) (f : Disk → Except OsError Disk) :
    MadeOf (OnFiles True) (change frame f).run := by
  refine .run_bind madeOf_disk fun disk => ?_
  exact .run_bind (madeOf_ofOutcome _) fun d => madeOf_setDisk d

theorem madeOf_makeDirs (frame path : String) :
    MadeOf (OnFiles True) (makeDirs frame path).run := by
  refine .run_bind madeOf_disk fun disk => ?_
  exact .run_bind (madeOf_setDisk _) fun _ => madeOf_ofOutcome _

end Job

theorem Deed.madeOf_notes (notes : List Note) :
    MadeOf (OnFiles changes) (notes.forM fun n => (Deed.note n : Job Unit)).run := by
  induction notes with
  | nil => exact .run_pure ()
  | cons n rest ih => exact .run_bind (.run_lift (.part (.note n))) fun _ => ih

/-- What a program does is done with the files alone. -/
theorem Command.madeOf_run (limits : Limits) (i : Invocation) :
    MadeOf (OnFiles True) (run limits i).run := by
  refine .run_bind Job.madeOf_disk fun disk => ?_
  refine .run_bind (Job.madeOf_ofOutcome _) fun started => ?_
  refine .run_bind (Job.madeOf_setDisk _) fun _ => ?_
  exact .run_bind (Deed.madeOf_notes _) fun _ => .run_pure _

namespace Roadmap

theorem madeOf_read (path : String) : MadeOf (OnFiles changes) (read path).run := by
  refine .run_bind Job.madeOf_disk fun disk => ?_
  split
  · exact .run_pure _
  · exact .run_pure _
  · exact .run_throw _

theorem madeOf_milestoneReached (path : String) :
    MadeOf (OnFiles changes) (milestoneReached path) := by
  refine .bind (madeOf_read path) fun found => ?_
  split
  · exact .pure _
  · exact .pure _
  · exact .bind (.part (.note _)) fun _ => .pure _

theorem madeOf_write (path content : String) :
    MadeOf (OnFiles True) (write path content).run := by
  unfold write
  split
  · exact Job.madeOf_change _ _
  · exact Job.madeOf_change _ _
  · exact .run_bind (Job.madeOf_makeDirs _ _) fun _ => Job.madeOf_change _ _

end Roadmap

namespace Tool

variable {settings : Settings} {x : Table Json}

theorem madeOf_readFile (root : String) : MadeOf (OnFiles changes) (readFile root x).run := by
  refine .run_bind (Job.madeOf_ofOutcome _) fun path => ?_
  refine .run_bind (Job.madeOf_ofOutcome _) fun place => ?_
  exact .run_bind (Job.madeOf_readText _ _) fun _ => .run_pure _

theorem madeOf_writeFile (root : String) : MadeOf (OnFiles True) (writeFile root x).run := by
  refine .run_bind (Job.madeOf_ofOutcome _) fun path => ?_
  refine .run_bind (Job.madeOf_ofOutcome _) fun content => ?_
  refine .run_bind (Job.madeOf_ofOutcome _) fun place => ?_
  have hwrite : MadeOf (OnFiles True) (do
      Job.change ("write " ++ path) fun d => d.write place (Text.encode content)
      pure (.text ("Successfully wrote " ++ path)) : Job Json).run :=
    .run_bind (Job.madeOf_change _ _) fun _ => .run_pure _
  split
  · exact .run_bind (Job.madeOf_makeDirs _ _) fun _ => hwrite
  · exact hwrite

theorem madeOf_editFile (root : String) : MadeOf (OnFiles True) (editFile root x).run := by
  refine .run_bind (Job.madeOf_ofOutcome _) fun path => ?_
  refine .run_bind (Job.madeOf_ofOutcome _) fun search => ?_
  refine .run_bind (Job.madeOf_ofOutcome _) fun replacement => ?_
  refine .run_bind (Job.madeOf_ofOutcome _) fun place => ?_
  refine .run_bind (Job.madeOf_readText _ _) fun text => ?_
  split
  · exact .run_pure _
  · exact .run_bind (Job.madeOf_change _ _) fun _ => .run_pure _

theorem madeOf_listFiles (root : String) : MadeOf (OnFiles changes) (listFiles root x).run := by
  refine .run_bind (Job.madeOf_ofOutcome _) fun path => ?_
  refine .run_bind (Job.madeOf_ofOutcome _) fun directory => ?_
  refine .run_bind Job.madeOf_disk fun disk => ?_
  split
  · exact .run_throw _
  · exact .run_pure _
  · split
    · exact .run_throw _
    · exact .run_pure _

theorem madeOf_projectCommand (label : String) (command : List String) :
    MadeOf (OnFiles True) (projectCommand settings label command x).run := by
  unfold projectCommand
  rcases command with _ | ⟨program, arguments⟩
  · exact .run_throw _
  · refine .run_bind (Job.madeOf_ofOutcome _) fun path => ?_
    refine .run_bind (Job.madeOf_ofOutcome _) fun directory => ?_
    exact .run_bind (Command.madeOf_run _ _) fun _ => .run_pure _

theorem madeOf_containerTask : MadeOf (OnFiles True) (containerTask settings x).run := by
  refine .run_bind (Job.madeOf_ofOutcome _) fun image => ?_
  refine .run_bind (Job.madeOf_ofOutcome _) fun script => ?_
  refine .run_bind (Job.madeOf_ofOutcome _) fun directory => ?_
  refine .run_bind Job.madeOf_disk fun disk => ?_
  exact .run_bind (Command.madeOf_run _ _) fun _ => .run_pure _

theorem madeOf_ofManifest (root : String) (limits : Command.Limits) (m : Manifest) :
    MadeOf (OnFiles True) (ofManifest root limits m x).run := by
  unfold ofManifest
  split
  · exact .run_throw _
  · refine .run_bind (Command.madeOf_run _ _) fun output => ?_
    split
    · exact .run_pure _
    · exact .run_throw _

/-- The implementations that come with the program are about files alone. -/
theorem madeOf_builtinTool? {name : String} {t : Tool}
    (htool : builtinTool? settings name = some t) : MadeOf (OnFiles True) (t x).run := by
  unfold builtinTool? fileTool? commandTool? at htool
  split at htool
  · next h =>
    split at h
    · cases h; cases htool
      exact madeOf_readFile _
    · cases h; cases htool
      exact madeOf_writeFile _
    · cases h; cases htool
      exact madeOf_editFile _
    · cases h; cases htool
      exact madeOf_listFiles _
    · cases h
  · split at htool
    · cases htool
      exact madeOf_projectCommand _ _
    · cases htool
      exact madeOf_projectCommand _ _
    · cases htool
      exact madeOf_containerTask
    · cases htool

end Tool

/-! ### Services -/

/-- What a service does, one thing at a time: it makes calls, looks whether they can be understood,
takes notes and waits. -/
inductive Deed.OnWire (calls : Http.Call → Prop) : (α : Type) → Deed α → Prop
  | send {c : Http.Call} (hcall : calls c) : OnWire calls (Option Http.Answer) (Http.send c)
  | read {c : Http.Call} (hcall : calls c) : OnWire calls Bool (Http.isWellFormed c)
  | note (n : Note) : OnWire calls Unit (Deed.note n)
  | pause (ms : Nat) : OnWire calls Unit (Deed.pause ms)

open Deed (OnWire)

variable {calls : Http.Call → Prop}

/-- Where the calls, the notes and the pauses lead, all that services do leads. -/
theorem Deed.OnWire.goes {R : Site → Site → Prop} [Std.Refl R] {d : Deed α}
    (h : OnWire calls α d) (hnote : ∀ n, Goes R (Deed.note n))
    (hpause : ∀ ms, Goes R (Deed.pause ms)) (hsend : ∀ c, calls c → Goes R (Http.send c)) :
    Goes R d := by
  cases h with
  | send hcall => exact hsend _ hcall
  | @read c _ =>
    refine Goes.get_bind fun site => ?_
    rcases c.reading site.wire.address with _ | _ | r
    · exact refl_of R site
    · exact refl_of R site
    · exact refl_of R site
  | note n => exact hnote n
  | pause ms => exact hpause ms

/-- A job that makes one call: it fails when nothing comes back, or no success. -/
theorem Http.madeOf_asking {c : Call} (hcall : calls c) {missing : Failure}
    {accept : Answer → Job α} {refuse : Answer → Failure}
    (haccept : ∀ answer, MadeOf (OnWire calls) (accept answer).run) :
    MadeOf (OnWire calls) (do
      match ← send c with
      | none => Job.fail missing
      | some answer =>
        if answer.isSuccess then accept answer else Job.fail (refuse answer) : Job α).run := by
  refine .run_bind (.run_lift (.part (.send hcall))) fun answer => ?_
  rcases answer with _ | answer
  · exact .run_throw _
  · dsimp only
    split
    · exact haccept answer
    · exact .run_throw _

/-- Repeated attempts do what the attempts do, take notes and wait. -/
theorem Retry.madeOf_run {p : Policy} {message : String} {attempt : Deed (Attempt α)}
    (hattempt : MadeOf (OnWire calls) attempt) :
    MadeOf (OnWire calls) (run p message attempt) := by
  unfold run
  -- By induction on the attempts that are left, whatever number was made.
  generalize p.maxAttempts - 1 = left
  generalize 0 = made
  induction left generalizing made with
  | zero =>
    unfold attempts
    refine .bind hattempt fun result => ?_
    rcases result with a | ⟨f, final⟩
    · exact .pure _
    · exact .pure _
  | succ left ih =>
    unfold attempts
    refine .bind hattempt fun result => ?_
    rcases result with a | ⟨f, final⟩
    · exact .pure _
    · dsimp only
      split
      · exact .pure _
      · exact .bind (.part (.note _)) fun _ => .bind (.part (.pause _)) fun _ => ih _

namespace Completion

theorem madeOf_complete (e : Endpoint) (r : Request) :
    MadeOf (OnWire fun _ => True) (complete e r).run :=
  Http.madeOf_asking trivial fun _ =>
    .run_bind (Job.madeOf_ofOutcome _) fun _ => Job.madeOf_ofOutcome _

theorem madeOf_persistent {p : Retry.Policy} {ask : Request → Job Message} {r : Request}
    (hask : MadeOf (OnWire calls) (ask r).run) :
    MadeOf (OnWire calls) (persistent p ask r).run := by
  have hattempt : MadeOf (OnWire calls) (attempt (ask r)) := by
    refine .bind hask fun result => ?_
    rcases result with f | m
    · exact .pure _
    · exact .pure _
  refine .run_bind (.run_lift (Retry.madeOf_run hattempt)) fun result => ?_
  obtain ⟨made, f | m⟩ := result
  · exact .run_throw _
  · exact .run_pure _

end Completion

namespace GitHub

theorem madeOf_send (g : GitHub) (what : String) {c : Http.Call} (hcall : calls c) :
    MadeOf (OnWire calls) (g.send what c).run := by
  have hattempt : MadeOf (OnWire calls) (attempt what c) := by
    refine .bind (.part (.send hcall)) fun answer => ?_
    rcases answer with _ | answer
    · exact .pure _
    · dsimp only
      split
      · split
        · exact .pure _
        · exact .pure _
      · exact .pure _
  refine .run_bind (.run_lift (.part (.read hcall))) fun formed => ?_
  split
  · exact .run_bind (.run_lift (Retry.madeOf_run hattempt)) fun _ => Job.madeOf_ofOutcome _
  · exact .run_throw _

theorem madeOf_openItems (g : GitHub) (what path : String) :
    MadeOf (OnWire fun _ => True) (g.openItems what path).run := by
  refine .run_bind (madeOf_send g _ trivial) fun found => ?_
  split
  · exact .run_pure _
  · exact .run_throw _

theorem madeOf_openIssues (g : GitHub) : MadeOf (OnWire fun _ => True) g.openIssues.run :=
  .run_bind (madeOf_openItems g _ _) fun _ => Job.madeOf_ofOutcome _

theorem madeOf_openPullRequests (g : GitHub) :
    MadeOf (OnWire fun _ => True) g.openPullRequests.run :=
  .run_bind (madeOf_openItems g _ _) fun _ => Job.madeOf_ofOutcome _

theorem madeOf_createBranch (g : GitHub) (name base : String) :
    MadeOf (OnWire fun _ => True) (g.createBranch name base).run := by
  have hcommit : MadeOf (OnWire fun _ => True) (g.commitOf base).run := by
    refine .run_bind (madeOf_send g _ trivial) fun found => ?_
    split
    · exact .run_pure _
    · exact .run_throw _
  refine .run_bind hcommit fun commit => ?_
  exact .run_bind (madeOf_send g _ trivial) fun _ => .run_pure _

theorem madeOf_createPullRequest (g : GitHub) (draft : PullRequest) :
    MadeOf (OnWire fun _ => True) (g.createPullRequest draft).run :=
  .run_bind (madeOf_send g _ trivial) fun _ => Job.madeOf_ofOutcome _

/-- The tools on a host that is a service are about that service alone. -/
theorem madeOf_hostingTool? (g : GitHub) {name : String} {t : Tool} {x : Table Json}
    (htool : Tool.hostingTool? g.toForge name = some t) :
    MadeOf (OnWire fun _ => True) (t x).run := by
  unfold Tool.hostingTool? at htool
  split at htool
  · cases htool
    refine .run_bind (Job.madeOf_ofOutcome _) fun branch => ?_
    refine .run_bind (Job.madeOf_ofOutcome _) fun base => ?_
    exact .run_bind (madeOf_createBranch g _ _) fun _ => .run_pure _
  · cases htool
    refine .run_bind (Job.madeOf_ofOutcome _) fun draft => ?_
    exact .run_bind (madeOf_createPullRequest g _) fun _ => .run_pure _
  · cases htool
    exact .run_bind (madeOf_openIssues g) fun _ => .run_pure _
  · cases htool

end GitHub

namespace Channels

theorem madeOf_slack (address token channel message : String) :
    MadeOf (OnWire fun _ => True) ((slack address token channel).send message).run :=
  Http.madeOf_asking trivial fun _ =>
    .run_bind (Job.madeOf_ofOutcome _) fun _ => Job.madeOf_ofOutcome _

theorem madeOf_discord (address token channel message : String) :
    MadeOf (OnWire fun _ => True) ((discord address token channel).send message).run :=
  Http.madeOf_asking trivial fun _ => .run_pure _

end Channels

end AgentWorkflow
