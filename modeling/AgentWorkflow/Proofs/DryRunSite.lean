/-
What a dry run does to the site.

* `DryRun.Works` — what may change files: the commands that test and check a project, and the
  plugin that writes the roadmap.
* `DryRun.Touches` — what a dry run does at a site, one thing at a time; `DryRun.Leads`, any
  number of such things.
* `Tool.goes_of_not_modifying` — the tools that a dry run leaves in place do no more.
* `Session.Acts.goes` — nor does anything else that a session does.
* `Machine.Moves.leads`, `Workflow.leads_run` — so it is of every move of a run, and of runs.
* `DryRun.Leads.keeps` — with bystanders (`Session.Bystanders`), what that keeps of files.
* `Workflow.touches_of_dryRun` — what a dry run of any workflow may change.

Design notes: the gate of a dry run stands before tools, and the plugin that writes the roadmap
is no tool.  So files may be changed where a workflow has a node of that plugin, and the
statements carry along whether it has one.
-/
import AgentWorkflow.Proofs.Bystanders
import AgentWorkflow.Proofs.MachineRuns
import AgentWorkflow.Proofs.StaticCheck
import AgentWorkflow.Proofs.StoreContents

namespace AgentWorkflow

variable {α : Type}

/-! ### What a dry run does at a site -/

namespace DryRun

/-- What may change files in a dry run: the commands that test and check a project, and,
where `writes` holds, the roadmap being written. -/
inductive Works (settings : Tool.Settings) (roadmapPath : String) (writes : Prop) :
    Site → Site → Prop
  | commanded {program : String} {arguments : List String}
      (hcommand : program :: arguments = settings.commands.test ∨
        program :: arguments = settings.commands.lint) (directory : String) (site : Site) :
    Works settings roadmapPath writes site
      ((Command.run settings.limits ⟨program, arguments, directory, none⟩).run site).2
  | rewritten (hwrites : writes) (content : String) (site : Site) :
    Works settings roadmapPath writes site ((Roadmap.write roadmapPath content).run site).2

/-- What a dry run does at a site.  Of what a host offers it reads the lists alone. -/
inductive Touches (s : Session) (settings : Tool.Settings) (writes : Prop) : Site → Site → Prop
  | noted (n : Note) (site : Site) : Touches s settings writes site (Deed.note n site).2
  | completed (r : Request) (site : Site) :
    Touches s settings writes site ((s.complete r).run site).2
  | confirmed (name : String) (x : Table Json) (site : Site) :
    Touches s settings writes site (s.confirm name x site).2
  | delivered {c : Channel} (hchannel : c ∈ s.channels) (message : String) (site : Site) :
    Touches s settings writes site ((c.send message).run site).2
  | listedIssues {forge : Forge} (hforge : s.forge = some forge) (site : Site) :
    Touches s settings writes site (forge.openIssues.run site).2
  | listedPullRequests {forge : Forge} (hforge : s.forge = some forge) (site : Site) :
    Touches s settings writes site (forge.openPullRequests.run site).2
  | worked {site site' : Site} (hworks : Works settings s.roadmapPath writes site site') :
    Touches s settings writes site site'

/-- Any number of these things, one after the other. -/
abbrev Leads (s : Session) (settings : Tool.Settings) (writes : Prop) : Site → Site → Prop :=
  Relation.ReflTransGen (Touches s settings writes)

/-- The same of worlds. -/
abbrev LeadsOn (s : Session) (settings : Tool.Settings) (writes : Prop) : World → World → Prop :=
  Function.onFun (Leads s settings writes) World.site

variable {s : Session} {settings : Tool.Settings} {writes : Prop}

theorem goes_note (n : Note) : Goes (Leads s settings writes) (Deed.note n) :=
  fun site => .single (.noted n site)

/-- Nor does a dry run do more where files are looked at and left as they are. -/
theorem goes_watched {d : Deed α} (h : MadeOf (Deed.OnFiles False) d) :
    Goes (Leads s settings writes) d :=
  h.goes fun _ _ hpart => hpart.goes goes_note fun hchanges => hchanges.elim

/-- Taking notes is one of the things that a dry run does. -/
theorem leads_of_noted {a b : Site} (h : a.Noted b) : Leads s settings writes a b := by
  obtain ⟨notes, rfl⟩ := h
  induction notes generalizing a with
  | nil =>
    rw [List.append_nil]
  | cons n rest ih =>
    have hrest := ih (a := (Deed.note n a).2)
    rw [show (Deed.note n a).2.notes ++ rest = a.notes ++ n :: rest from
      List.append_assoc _ [n] rest] at hrest
    exact .head (.noted n a) hrest

end DryRun

open DryRun (Leads LeadsOn Touches Works)

variable {s : Session} {settings : Tool.Settings} {writes : Prop}

/-! ### Tools -/

namespace Tool

theorem goes_projectCommand (label : String) {command : List String}
    (hcommand : command = settings.commands.test ∨ command = settings.commands.lint)
    (x : Table Json) :
    Goes (Leads s settings writes) (projectCommand settings label command x).run := by
  unfold projectCommand
  rcases command with _ | ⟨program, arguments⟩
  · exact Goes.run_throw _
  · refine Goes.run_bind (Job.goes_ofOutcome _) fun path => ?_
    refine Goes.run_bind (Job.goes_ofOutcome _) fun directory => ?_
    refine Goes.run_bind (fun site => ?_) fun _ => Goes.run_pure _
    exact .single (.worked (.commanded hcommand directory site))

theorem goes_listOpenIssues {forge : Forge} (hforge : s.forge = some forge) (x : Table Json) :
    Goes (Leads s settings writes) (listOpenIssues forge x).run := by
  refine Goes.run_bind (fun site => ?_) fun _ => Goes.run_pure _
  exact .single (.listedIssues hforge site)

/-- The implementations that come with the program and are not listed by the standard policy
read files, or they run the commands that test and check a project. -/
theorem goes_builtinTool? {name : String} {t : Tool} (htool : builtinTool? settings name = some t)
    (hkept : standardPolicy.isModifying name = false) (x : Table Json) :
    Goes (Leads s settings writes) (t x).run := by
  unfold builtinTool? fileTool? commandTool? at htool
  split at htool
  · next h =>
    split at h
    · cases h; cases htool
      exact DryRun.goes_watched (madeOf_readFile _)
    · exact absurd hkept (by decide)
    · exact absurd hkept (by decide)
    · cases h; cases htool
      exact DryRun.goes_watched (madeOf_listFiles _)
    · cases h
  · split at htool
    · cases htool
      exact goes_projectCommand _ (.inl rfl) _
    · cases htool
      exact goes_projectCommand _ (.inr rfl) _
    · exact absurd hkept (by decide)
    · cases htool

/-- Of the implementations of a host, the standard policy lists all but the one that lists
issues. -/
theorem goes_hostingTool? {forge : Forge} (hforge : s.forge = some forge) {name : String}
    {t : Tool} (htool : hostingTool? forge name = some t)
    (hkept : standardPolicy.isModifying name = false) (x : Table Json) :
    Goes (Leads s settings writes) (t x).run := by
  unfold hostingTool? at htool
  split at htool
  · exact absurd hkept (by decide)
  · exact absurd hkept (by decide)
  · cases htool
    exact goes_listOpenIssues hforge _
  · cases htool

theorem goes_of_not_modifying {e : Entry} {t : Tool} (htool : e.tool? settings s.forge = some t)
    (hkept : standardPolicy.isModifying e.implementation = false) (x : Table Json) :
    Goes (Leads s settings writes) (t x).run := by
  unfold Entry.tool? entryTool at htool
  rcases hprovider : e.provider with _ | _
  · rw [hprovider] at htool
    exact goes_builtinTool? htool hkept x
  · rw [hprovider] at htool
    rcases hforge : s.forge with _ | forge
    · rw [hforge] at htool
      cases htool
    · rw [hforge] at htool
      exact goes_hostingTool? hforge htool hkept x

end Tool

/-- The tools that a session does not withhold do nothing but what a dry run does. -/
def DryRun.ToolsKept (s : Session) (settings : Tool.Settings) (writes : Prop) : Prop :=
  ∀ name tool, Table.get? s.tools name = some tool → s.withholds name = false →
    ∀ x, Goes (Leads s settings writes) (tool x).run

/-- In a dry run under the standard policy this is so of the tools of a catalog, if the policy
covers it. -/
theorem DryRun.toolsKept_of_covers {entries : List Tool.Entry} {site : Site}
    (hdry : s.flags.dryRun = true) (hpolicy : s.policy = Tool.standardPolicy)
    (htools : s.tools = (Tool.build settings s.forge entries site).1)
    (hcovers : Tool.Covers Tool.standardPolicy settings s.forge entries) :
    ToolsKept s settings writes := by
  intro name tool hget hkept x
  -- The gate goes by the name of the tool; the policy covers the catalog, so the implementation
  -- is not listed either.
  rw [htools, Tool.get?_build, Option.map_eq_some_iff] at hget
  obtain ⟨⟨e, t⟩, hsupply, rfl⟩ := hget
  obtain ⟨-, -, htool⟩ := Tool.mem_of_supply? hsupply
  rw [Session.withholds, hdry, hpolicy, Bool.true_and] at hkept
  have himplementation : Tool.standardPolicy.isModifying e.implementation = false := by
    rw [Bool.eq_false_iff]
    intro hmodifying
    rw [hcovers name e t hsupply hmodifying] at hkept
    cases hkept
  exact Tool.goes_of_not_modifying htool himplementation x

/-! ### Runs -/

namespace Session

/-- What a session does is what a dry run does, if the tools do no more. -/
theorem Does.goes (htools : DryRun.ToolsKept s settings writes) {d : Deed α}
    (h : s.Does writes α d) : Goes (Leads s settings writes) d := by
  cases h with
  | watched h => exact DryRun.goes_watched (.part h)
  | completed r => exact fun site => .single (.completed r site)
  | confirmed name x => exact fun site => .single (.confirmed name x site)
  | delivered hchannel message => exact fun site => .single (.delivered hchannel message site)
  | listedIssues hforge => exact fun site => .single (.listedIssues hforge site)
  | listedPullRequests hforge => exact fun site => .single (.listedPullRequests hforge site)
  | @invoked name tool htool hkept x => exact htools name tool htool hkept x
  | rewrote hwrites content =>
    exact fun site => .single (.worked (.rewritten hwrites content site))

theorem Acts.goes (htools : DryRun.ToolsKept s settings writes) {P : Event → Prop}
    {stores : Prop} {m : Step α} (h : s.Acts P writes stores α m) :
    Goes (LeadsOn s settings writes) m := by
  cases h with
  | happened => exact fun w => refl_of (Leads s settings writes) w.site
  | did h =>
    have hdeed := h.goes fun _ _ hpart => hpart.goes htools
    exact fun w => hdeed w.site
  | looked => exact fun w => refl_of (Leads s settings writes) w.site
  | stored => exact fun w => refl_of (Leads s settings writes) w.site

end Session

section Runs

open Machine (Moves State)

variable {names : Table String} {w : Workflow}

/-- A move of a run does nothing but what a dry run does, and writes the roadmap only in a
workflow that has a node for it. -/
theorem Machine.Moves.leads (htools : DryRun.ToolsKept s settings writes)
    (hwrites : w.Uses (Registry.roadmapTypes names) → writes) {st st' : State}
    (h : Moves s (Registry.ofNames names) st st') (hplaced : st.Placed w) :
    LeadsOn s settings writes st.world st'.world := by
  obtain ⟨v, hv, hnoted⟩ := h.site
  rcases hv with rfl | ⟨address, n, type, plugin, inputs, hnext, hkind, hget, rfl⟩
  · exact DryRun.leads_of_noted hnoted
  · obtain ⟨path, hwalk⟩ := Workflow.mem_walk_of_nodeAt? (hplaced.tasks _ hnext)
    have hparts : MadeOf (s.Acts (fun _ => True) writes True) (plugin s inputs).run :=
      Registry.madeOf_of_get?_ofNames hget (fun htype => hwrites
        ⟨_, hwalk, by rwa [NodeHead.type_of_kind hkind]⟩) inputs
    have hgoes := hparts.goes fun _ _ hpart => hpart.goes htools
    exact (hgoes (st.world.called type inputs)).trans (DryRun.leads_of_noted hnoted)

/-- So it is of a whole run. -/
theorem Workflow.leads_run (htools : DryRun.ToolsKept s settings writes)
    (hwrites : w.Uses (Registry.roadmapTypes names) → writes) (v : World) :
    LeadsOn s settings writes v ((run s (Registry.ofNames names) w).run v).2 := by
  obtain ⟨last, hreaches, -, hend⟩ := reaches_end s (Registry.ofNames names) w v
  rw [← hend]
  -- Along the moves: all that was done since the start is what a dry run does.
  refine hreaches.invariant (I := fun st => LeadsOn s settings writes v st.world) ?_ ?_
  · obtain ⟨notes, hnotes⟩ := noteIssues_noted (Registry.ofNames names) w
    unfold initial opened
    rw [hnotes]
    exact DryRun.leads_of_noted ⟨notes, rfl⟩
  · intro st st' hst hmove hled
    exact hled.trans (hmove.leads htools hwrites hst.placed)

end Runs

/-! ### The repository -/

namespace Site

/-- What was made on the host is the same. -/
def SameLedger (a b : Site) : Prop := b.ledger = a.ledger

instance : Std.Refl SameLedger := ⟨fun _ => rfl⟩

instance : IsTrans Site SameLedger := ⟨fun _ _ _ h h' => h'.trans h⟩

end Site

/-- Nothing is made on the host by what is done with files. -/
theorem Deed.OnFiles.sameLedger {changes : Prop} {d : Deed α} (h : OnFiles changes α d) :
    Goes Site.SameLedger d :=
  h.goes (fun _ _ => rfl) fun _ _ _ => rfl

namespace DryRun

variable {a b : Site} {roadmapPath : String}

theorem Works.sameLedger (h : Works settings roadmapPath writes a b) : a.SameLedger b := by
  cases h with
  | commanded _ directory => exact (Command.madeOf_run _ _).goes (fun _ _ hd => hd.sameLedger) a
  | rewritten _ content => exact (Roadmap.madeOf_write _ _).goes (fun _ _ hd => hd.sameLedger) a

/-- Of what a dry run does, nothing else changes files or the host. -/
theorem Touches.sameRepository_or_works (hs : s.Bystanders) (h : Touches s settings writes a b) :
    a.SameRepository b ∨ Works settings s.roadmapPath writes a b := by
  cases h with
  | noted => exact .inl ⟨rfl, rfl⟩
  | completed r => exact .inl (hs.complete r a)
  | confirmed name x => exact .inl (hs.confirm name x a)
  | delivered hchannel message => exact .inl (hs.send _ hchannel message a)
  | listedIssues hforge => exact .inl (hs.openIssues _ hforge a)
  | listedPullRequests hforge => exact .inl (hs.openPullRequests _ hforge a)
  | worked hworks => exact .inr hworks

/-- So nothing is made on the host, and what these works keep of the files is kept. -/
theorem Leads.keeps (hs : s.Bystanders) (h : Leads s settings writes a b) :
    b.ledger = a.ledger ∧ ∀ I : Disk → Prop,
      (∀ c d, Works settings s.roadmapPath writes c d → I c.disk → I d.disk) →
      I a.disk → I b.disk := by
  induction h with
  | refl => exact ⟨rfl, fun I _ ha => ha⟩
  | tail _ htouches ih =>
    obtain ⟨hledger, hkeeps⟩ := ih
    rcases htouches.sameRepository_or_works hs with ⟨hdisk, hsame⟩ | hworks
    · exact ⟨hsame.trans hledger, fun I hI ha => hdisk ▸ hkeeps I hI ha⟩
    · exact ⟨hworks.sameLedger.trans hledger, fun I hI ha => hI _ _ hworks (hkeeps I hI ha)⟩

end DryRun

/-- What a dry run of any workflow does, with the standard tools under the standard policy,
whatever the model replies: it takes notes, asks the model and the user, sends notices, lists
what is open on the host and runs the commands that test and check the project; and it writes
the roadmap, if the workflow has a node for that.  Nothing is made on the host, and of the files
it keeps what the commands keep, and the roadmap being written where it may be: so it is of
collaborators that leave both alone, and the session of a project has such. -/
theorem Workflow.touches_of_dryRun (s : Session) (settings : Tool.Settings) (built : Site)
    (hdry : s.flags.dryRun = true) (hpolicy : s.policy = Tool.standardPolicy)
    (htools : s.tools = (Tool.build settings s.forge Tool.standardEntries built).1)
    (names : Table String) (document : Json) (v : World) :
    let writes := ∃ w, ofJson document = .ok w ∧ w.Uses (Registry.roadmapTypes names)
    let after := ((runDocument s (Registry.ofNames names) document).run v).2.site
    Leads s settings writes v.site after ∧
      (s.Bystanders → after.ledger = v.site.ledger ∧ ∀ I : Disk → Prop,
        (∀ a b, Works settings s.roadmapPath writes a b → I a.disk → I b.disk) →
        I v.site.disk → I after.disk) ∧
      ∀ (p : Project) flags value? site site',
        (p.session flags value? Console.confirm).run site = (.ok s, site') → s.Bystanders := by
  intro writes after
  have hcovers : Tool.Covers Tool.standardPolicy settings s.forge Tool.standardEntries :=
    Tool.covers_of_callable_eq_none (by decide)
  have hkept : DryRun.ToolsKept s settings writes :=
    DryRun.toolsKept_of_covers hdry hpolicy htools hcovers
  have hleads : Leads s settings writes v.site after := by
    unfold after runDocument
    rcases hread : ofJson document with f | w
    · rw [Act.run_bind_error (Act.run_ofOutcome _ v)]
    · rw [Act.run_bind_ok (Act.run_ofOutcome _ v)]
      exact leads_run hkept (fun huses => ⟨w, hread, huses⟩) v
  exact ⟨hleads, fun hs => DryRun.Leads.keeps hs hleads, fun p flags value? site site' hsession =>
    Project.bystanders_session hsession Console.sameRepository_confirm⟩

/-- A command that cannot be started leaves the site as it is. -/
theorem Command.run_of_start_error {limits : Limits} {i : Invocation} {site : Site} {e : OsError}
    (h : start site.disk i = .error e) : ((run limits i).run site).2 = site := by
  show ((Job.ofOutcome (Outcome.ofOs "spawn command" (start site.disk i)) >>= _ : Job Output).run
    site).2 = site
  rw [h]
  rfl

/-- There is no program of the name `cargo`. -/
theorem Command.start_cargo (disk : Disk) (arguments : List String) (directory : String) :
    ∃ e, start disk ⟨"cargo", arguments, directory, none⟩ = .error e := by
  have hfind : ∀ d, find d "cargo" = .error .notFound := fun d => rfl
  unfold start
  split
  · exact ⟨_, rfl⟩
  · rcases enter disk directory with e | inside
    · exact ⟨e, rfl⟩
    · exact ⟨.notFound, by simp [bind, Except.bind, hfind inside]⟩

/-- A dry run of the standard workflow in which the model calls the tool that writes files: no
file is changed. -/
theorem Workflow.touches_of_dryRun_standard :
    let settings : Tool.Settings := ⟨"/", Command.Limits.standard, Tool.Commands.standard⟩
    let arguments := Json.object [("content", .text "x"), ("path", .text "out.txt")]
    let replies := [
      Reply.message (Message.requesting [ToolCall.new "1" "write_file" arguments.render]),
      Reply.message (Message.assistant "done")]
    let site : Site := { Site.ofDisk default with rehearsal := ⟨replies, [], 0⟩ }
    let s : Session := { Rehearsal.session ⟨true, true, false⟩ Tool.standardPolicy [] with
      tools := (Tool.build settings none Tool.standardEntries site).1 }
    let after := ((runDocument s (Registry.ofNames Registry.standardNames)
      standard.toJson).run ⟨site, Store.empty, []⟩).2.site
    after.disk = site.disk ∧ after.ledger = site.ledger := by
  intro settings arguments replies site s after
  have hbystanders : s.Bystanders := Session.bystanders_of_alone rfl rfl
    Rehearsal.sameRepository_complete Rehearsal.sameRepository_confirm
  obtain ⟨-, hkeeps, -⟩ := touches_of_dryRun s settings site rfl rfl rfl Registry.standardNames
    standard.toJson ⟨site, Store.empty, []⟩
  obtain ⟨hledger, hfiles⟩ := hkeeps hbystanders
  -- No work changes a file: the commands cannot be started, and no node writes the roadmap.
  refine ⟨hfiles (fun d => d = site.disk) (fun a b hworks ha => ?_) rfl, hledger⟩
  cases hworks with
  | @commanded program arguments hcommand directory =>
    have hcargo : program = "cargo" := by
      rcases hcommand with h | h
      · exact (List.cons.inj h).1
      · exact (List.cons.inj h).1
    subst hcargo
    obtain ⟨e, he⟩ := Command.start_cargo a.disk arguments directory
    rw [Command.run_of_start_error he]
    exact ha
  | rewritten hwrites =>
    obtain ⟨w, hread, huses⟩ := hwrites
    obtain rfl : standard = w := Except.ok.inj hread
    exact absurd huses (by decide)

/-- A workflow with a node that writes the roadmap: a dry run writes it. -/
theorem Workflow.dryRun_writesRoadmap :
    let settings : Tool.Settings := ⟨"/", Command.Limits.standard, Tool.Commands.standard⟩
    let site : Site := Site.ofDisk default
    let s : Session := { Rehearsal.session ⟨true, true, false⟩ Tool.standardPolicy [] with
      tools := (Tool.build settings none Tool.standardEntries site).1 }
    let document := Json.object [("nodes", .list [.object [
      ("inputs", .object [("content", .text "# New plan\n")]),
      ("type", .text "utils.update_roadmap")]])]
    let after := ((runDocument s (Registry.ofNames Registry.standardNames) document).run
      ⟨site, Store.empty, []⟩).2.site
    s.flags.dryRun = true ∧ s.policy = Tool.standardPolicy ∧
      (site.disk.readText s.roadmapPath).toOption = none ∧
      (after.disk.readText s.roadmapPath).toOption = some "# New plan\n" := by
  intro settings site s document after
  exact ⟨rfl, rfl, by decide +kernel, by decide +kernel⟩

end AgentWorkflow
