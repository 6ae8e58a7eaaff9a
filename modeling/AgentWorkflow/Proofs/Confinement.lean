/-
Tools that keep to a root.

* `Job.Touches` — the paths at which a job reads and writes files, makes directories and starts
  programs.
* `Job.FailsBySystem` — a job fails for what the system refuses alone;
  `Job.Touches.failsBySystem`.
* `Site.KeptOutside` — nothing outside of a root is changed; `Job.Touches.keepsOutside`, for jobs
  that start no program and touch only what lies along the root.
* `Tool.Gives` — the path that a call of a tool gives, when its other arguments are as they have
  to be.
* `Tool.reach`, `Tool.KeepsInside` — what a call may touch for its path, and that it is refused
  for the path or touches nothing else.
* `Tool.pathTools_keepInside` — so it is of every call of a tool that takes a path.

Design notes: a job is a function of the site, so the paths it touches cannot be read off a run.
`Job.Touches` follows the way the job is put together from its operations instead.  What a
program does that was started is its own affair, so nothing is said of the files then.
-/
import AgentWorkflow.Proofs.Following
import AgentWorkflow.Proofs.Jobs
import AgentWorkflow.Tool.Assembly

namespace AgentWorkflow

variable {α β : Type}

/-! ### What a job touches -/

/-- Paths, by what may be done there. -/
structure Reach where
  /-- Files that are read or written, and directories whose files are listed. -/
  opened : String → Prop
  /-- Directories that are made, with those above them. -/
  made : String → Prop
  /-- Directories that programs are started in. -/
  entered : String → Prop

/-- Lists the files below a directory, told as they were asked for. -/
def Job.listing (shown directory : String) : Job Json := do
  let disk ← Job.disk
  match disk.find directory with
  | .error e => Job.fail (Tool.cannotList shown directory e)
  | .ok (_, .file _) => pure (Json.texts [Tool.listedName shown []])
  | .ok (place, .directory) =>
    match Tool.tooDeep? disk directory place with
    | some deep => Job.fail (Tool.cannotList shown deep .nameTooLong)
    | none => pure (Json.texts ((disk.filesBelow place).map (Tool.listedName shown)))

/-- The job does nothing with files and programs but what the reach allows. -/
inductive Job.Touches (reach : Reach) : {α : Type} → Job α → Prop
  | pure {α : Type} (a : α) : Touches reach (pure a : Job α)
  | bind {α β : Type} {j : Job α} {f : α → Job β} (hj : Touches reach j)
      (hf : ∀ a, Touches reach (f a)) : Touches reach (j >>= f)
  | reads (frame : String) {path : String} (hpath : reach.opened path) :
      Touches reach (Job.readText frame path)
  | writes (frame : String) {path : String} (content : List UInt8) (hpath : reach.opened path) :
      Touches reach (Job.change frame fun d => d.write path content)
  | makes (frame : String) {path : String} (hpath : reach.made path) :
      Touches reach (Job.makeDirs frame path)
  | lists (shown : String) {path : String} (hpath : reach.opened path) :
      Touches reach (Job.listing shown path)
  | runs (limits : Command.Limits) (i : Command.Invocation) (hpath : reach.entered i.directory) :
      Touches reach (Command.run limits i)

/-! ### Runs and failures -/

namespace Job

theorem run_change (frame : String) (f : Disk → Except OsError Disk) (site : Site) :
    (change frame f).run site = match f site.disk with
      | .error e => (.error ⟨[frame], .os e⟩, site)
      | .ok d => (.ok (), { site with disk := d }) := by
  rw [show (change frame f).run site =
    (ofOutcome (Outcome.ofOs frame (f site.disk)) >>= setDisk).run site from rfl]
  rcases f site.disk with e | d
  · rfl
  · rfl

theorem run_makeDirs (frame path : String) (site : Site) :
    (makeDirs frame path).run site =
      (Outcome.ofOs frame (site.disk.makeAll path).1,
        { site with disk := (site.disk.makeAll path).2 }) := by
  rw [show (makeDirs frame path).run site =
    (ofOutcome (Outcome.ofOs frame (site.disk.makeAll path).1)).run
      { site with disk := (site.disk.makeAll path).2 } from rfl]
  rcases (site.disk.makeAll path).1 with e | _
  · rfl
  · rfl

/-- A job fails for what the system refuses alone. -/
def FailsBySystem (j : Job α) : Prop :=
  ∀ site f, (j.run site).1 = .error f → ∃ e, f.cause = .os e

theorem failsBySystem_pure (a : α) : FailsBySystem (pure a) := by
  intro site f h
  cases h

theorem failsBySystem_bind {j : Job α} {f : α → Job β} (hj : FailsBySystem j)
    (hf : ∀ a, FailsBySystem (f a)) : FailsBySystem (j >>= f) := by
  intro site failure h
  have hfirst := hj site
  rw [run_bind] at h
  rcases hrun : j.run site with ⟨e | a, site'⟩
  · rw [hrun] at h hfirst
    cases h
    exact hfirst _ rfl
  · rw [hrun] at h
    exact hf a site' failure h

theorem failsBySystem_disk : FailsBySystem disk := by
  intro site f h
  cases h

theorem failsBySystem_setDisk (d : Disk) : FailsBySystem (setDisk d) := by
  intro site f h
  cases h

theorem failsBySystem_lift (d : Deed α) : FailsBySystem (liftM d) := by
  intro site f h
  cases h

theorem failsBySystem_ofOs (frame : String) (o : Except OsError α) :
    FailsBySystem (ofOutcome (Outcome.ofOs frame o)) := by
  intro site f h
  rcases o with e | a
  · cases h
    exact ⟨e, rfl⟩
  · cases h

theorem failsBySystem_change (frame : String) (f : Disk → Except OsError Disk) :
    FailsBySystem (change frame f) :=
  failsBySystem_bind failsBySystem_disk fun _ =>
    failsBySystem_bind (failsBySystem_ofOs _ _) fun _ => failsBySystem_setDisk _

theorem failsBySystem_makeDirs (frame path : String) : FailsBySystem (makeDirs frame path) :=
  failsBySystem_bind failsBySystem_disk fun _ =>
    failsBySystem_bind (failsBySystem_setDisk _) fun _ => failsBySystem_ofOs _ _

theorem failsBySystem_readText (frame path : String) : FailsBySystem (readText frame path) :=
  failsBySystem_bind failsBySystem_disk fun _ => failsBySystem_ofOs _ _

theorem failsBySystem_cannotList (shown path : String) (e : OsError) :
    FailsBySystem (Job.fail (Tool.cannotList shown path e) : Job α) := by
  intro site f h
  cases h
  exact ⟨e, rfl⟩

theorem failsBySystem_listing (shown path : String) : FailsBySystem (listing shown path) := by
  refine failsBySystem_bind failsBySystem_disk fun d => ?_
  split
  · next e _ => exact failsBySystem_cannotList shown path e
  · exact failsBySystem_pure _
  · split
    · next deep _ => exact failsBySystem_cannotList shown deep .nameTooLong
    · exact failsBySystem_pure _

theorem failsBySystem_forM {γ : Type} (items : List γ) (f : γ → Job PUnit)
    (hf : ∀ c, FailsBySystem (f c)) : FailsBySystem (items.forM f) := by
  induction items with
  | nil => exact failsBySystem_pure _
  | cons c rest ih =>
    exact failsBySystem_bind (hf c) fun _ => ih

end Job

open Job in
theorem Command.failsBySystem_run (limits : Limits) (i : Invocation) :
    FailsBySystem (run limits i) := by
  refine failsBySystem_bind failsBySystem_disk fun d => ?_
  refine failsBySystem_bind (failsBySystem_ofOs _ _) fun started => ?_
  refine failsBySystem_bind (failsBySystem_setDisk _) fun _ => ?_
  refine failsBySystem_bind (failsBySystem_forM _ _ fun n => ?_) fun _ => failsBySystem_pure _
  exact failsBySystem_lift _

namespace Job.Touches

variable {reach : Reach} {j : Job α}

theorem failsBySystem (h : j.Touches reach) : FailsBySystem j := by
  induction h with
  | pure a => exact failsBySystem_pure a
  | bind _ _ hj hf => exact failsBySystem_bind hj hf
  | reads frame _ => exact failsBySystem_readText frame _
  | writes frame content _ => exact failsBySystem_change frame _
  | makes frame _ => exact failsBySystem_makeDirs frame _
  | lists shown _ => exact failsBySystem_listing shown _
  | runs limits i _ => exact Command.failsBySystem_run limits i

end Job.Touches

/-! ### What stays outside of a root -/

/-- If the root leads to a directory, nothing is changed but files and directories below it. -/
def Site.KeptOutside (root : String) (a b : Site) : Prop :=
  ∀ r, a.disk.LeadsTo root r → ∃ disk, b = { a with disk } ∧ a.disk.Keeps r disk

namespace Site.KeptOutside

variable {root : String}

instance : Std.Refl (KeptOutside root) := ⟨fun a r _ => ⟨a.disk, rfl, .refl r a.disk⟩⟩

instance : IsTrans Site (KeptOutside root) where
  trans a b c h h' r hroot := by
    obtain ⟨between, rfl, hbetween⟩ := h r hroot
    obtain ⟨last, rfl, hlast⟩ := h' r (hroot.keeps hbetween)
    exact ⟨last, rfl, hbetween.trans hlast⟩

theorem goes_change (frame : String) {f : Disk → Except OsError Disk}
    (hf : ∀ d d' r, d.LeadsTo root r → f d = .ok d' → d.Keeps r d') :
    Goes (KeptOutside root) (Job.change frame f).run := by
  intro site r hroot
  rw [Job.run_change]
  rcases hout : f site.disk with e | d
  · exact ⟨site.disk, rfl, .refl r site.disk⟩
  · exact ⟨d, rfl, hf site.disk d r hroot hout⟩

theorem goes_makeDirs (frame : String) {path : String} (hpath : Path.Along root path) :
    Goes (KeptOutside root) (Job.makeDirs frame path).run := by
  intro site r hroot
  rw [Job.run_makeDirs]
  exact ⟨_, rfl, .makeAll hroot hpath⟩

theorem goes_listing (shown path : String) :
    Goes (KeptOutside root) (Job.listing shown path).run := by
  refine Goes.run_bind Job.goes_disk fun d => ?_
  split
  · exact Goes.run_throw _
  · exact Goes.run_pure _
  · split
    · exact Goes.run_throw _
    · exact Goes.run_pure _

end Site.KeptOutside

/-- A job that starts no program and touches only what lies along a root leaves what is outside
as it is. -/
theorem Job.Touches.keepsOutside {root : String} {reach : Reach} {j : Job α}
    (h : j.Touches reach) (hopened : ∀ path, reach.opened path → Path.Confined root path)
    (hmade : ∀ path, reach.made path → Path.Along root path)
    (hentered : ∀ path, ¬reach.entered path) : Goes (Site.KeptOutside root) j.run := by
  induction h with
  | pure a => exact Goes.run_pure a
  | bind _ _ hj hf => exact Goes.run_bind hj hf
  | reads frame _ => exact goes_readText frame _
  | writes frame content hpath =>
    exact Site.KeptOutside.goes_change frame fun d d' r hroot hwrite =>
      .write hroot (hopened _ hpath) hwrite
  | makes frame hpath =>
    exact Site.KeptOutside.goes_makeDirs frame (hmade _ hpath)
  | lists shown _ => exact Site.KeptOutside.goes_listing shown _
  | runs limits i hpath => exact absurd hpath (hentered _)

/-! ### Calls that give a path -/

namespace Tool

/-- The tools that take a path, and those of them that work on files. -/
def fileTools : List String := ["read_file", "write_file", "edit_file", "list_files"]

def pathTools : List String := fileTools ++ ["run_tests", "run_lint"]

/-- A call of a tool gives a path, and its other arguments are as they have to be. -/
def Gives (s : Settings) (name : String) (x : Table Json) (path : String) : Prop :=
  match name with
  | "read_file" => argument x "path" = .ok path
  | "write_file" => argument x "path" = .ok path ∧ ∃ content, argument x "content" = .ok content
  | "edit_file" =>
    argument x "path" = .ok path ∧ (∃ search, argument x "search" = .ok search) ∧
      ∃ replacement, argument x "replace" = .ok replacement
  | "list_files" => argumentOr x "directory" "." = .ok path
  | "run_tests" => s.commands.test ≠ [] ∧ argumentOr x "path" "." = .ok path
  | "run_lint" => s.commands.lint ≠ [] ∧ argumentOr x "path" "." = .ok path
  | _ => False

/-- What a call of a tool may touch for its path: what goes down from the root.  Directories are
made on the way to a file; for a text that does not lead away from the root at all, these are
the ones above the root. -/
def reach (root path name : String) : Reach where
  opened := fun p => name ∈ fileTools ∧ Path.Confined root p
  made := fun up => name = "write_file" ∧ (Path.Confined root up ∨
    Path.steps path = [] ∧ Path.parent? (Path.join root path) = some up)
  entered := fun p => name ∉ fileTools ∧ Path.Confined root p

/-- A call is refused for a path from the root or one that leads up, before anything is done.
With any other path it keeps to its reach and does not fail for its path. -/
structure KeepsInside (root path name : String) (call : Job Json) : Prop where
  refused : (Path.isAbsolute path = true ∨ ".." ∈ Path.segments path) →
    call = Job.fail (Failure.of (.outside path))
  accepted : ¬(Path.isAbsolute path = true ∨ ".." ∈ Path.segments path) →
    call.Touches (reach root path name) ∧ call.FailsBySystem

theorem staysInside_iff_not {path : String} : Path.staysInside path = true ↔
    ¬(Path.isAbsolute path = true ∨ ".." ∈ Path.segments path) := by
  rw [Path.staysInside_iff, not_or, Bool.not_eq_true]

/-- What is to be done at a place below a root is begun for the right paths only. -/
theorem inside_bind (root path : String) (body : String → Job Json) :
    inside root path >>= body =
      if Path.staysInside path then body (Path.join root path)
      else Job.fail (Failure.of (.outside path)) := by
  unfold inside pathInside
  split
  · rfl
  · rfl

theorem keepsInside_inside {root path name : String} {body : String → Job Json}
    (hbody : Path.staysInside path = true →
      (body (Path.join root path)).Touches (reach root path name)) :
    KeepsInside root path name (inside root path >>= body) := by
  refine ⟨fun hout => ?_, fun hin => ?_⟩
  · rw [inside_bind, if_neg fun h => staysInside_iff_not.mp h hout]
  · have hpath := staysInside_iff_not.mpr hin
    rw [inside_bind, if_pos hpath]
    exact ⟨hbody hpath, (hbody hpath).failsBySystem⟩

/-- Calls of the tools on files keep what is outside. -/
theorem KeepsInside.keepsOutside {root path name : String} {call : Job Json}
    (h : KeepsInside root path name call) (hfile : name ∈ fileTools) :
    Goes (Site.KeptOutside root) call.run := by
  by_cases hout : Path.isAbsolute path = true ∨ ".." ∈ Path.segments path
  · rw [h.refused hout]
    exact Goes.run_throw _
  · have hinside := Path.confined_join root (staysInside_iff_not.mpr hout)
    refine (h.accepted hout).1.keepsOutside (fun p hp => hp.2) ?_ fun p hp => hp.1 hfile
    -- The directory above the root is on the way to it, so it is there when the root is.
    rintro up ⟨-, hconfined | ⟨-, hup⟩⟩
    · exact hconfined.along
    · exact hinside.along.parent? hup

/-! ### What the tools do below a root -/

def readAt (path place : String) : Job Json := do
  let text ← Job.readText ("read " ++ path) place
  pure (.text text)

def writeAt (path content place : String) : Job Json := do
  match Path.parent? place with
  | some up => Job.makeDirs ("create directory for " ++ path) up
  | none => pure ()
  Job.change ("write " ++ path) fun d => d.write place (Text.encode content)
  pure (.text ("Successfully wrote " ++ path))

def editAt (path search replacement place : String) : Job Json := do
  let text ← Job.readText ("read " ++ path) place
  if search.isEmpty || !Text.occurs search text then
    pure (.text ("Error: '" ++ search ++ "' not found in " ++ path))
  else
    Job.change ("write " ++ path) fun d =>
      d.write place (Text.encode (Text.replaceAll search replacement text))
    pure (.text ("Successfully edited " ++ path))

def runAt (limits : Command.Limits) (program : String) (arguments : List String)
    (place : String) : Job Json := do
  let output ← Command.run limits ⟨program, arguments, place, none⟩
  pure (.text output.render)

section Equations

variable {root path : String} {x : Table Json}

theorem readFile_eq (hpath : argument x "path" = .ok path) :
    readFile root x = inside root path >>= readAt path := by
  unfold readFile
  rw [hpath]
  rfl

theorem writeFile_eq {content : String} (hpath : argument x "path" = .ok path)
    (hcontent : argument x "content" = .ok content) :
    writeFile root x = inside root path >>= writeAt path content := by
  unfold writeFile
  rw [hpath, hcontent]
  rfl

theorem editFile_eq {search replacement : String} (hpath : argument x "path" = .ok path)
    (hsearch : argument x "search" = .ok search)
    (hreplacement : argument x "replace" = .ok replacement) :
    editFile root x = inside root path >>= editAt path search replacement := by
  unfold editFile
  rw [hpath, hsearch, hreplacement]
  rfl

theorem listFiles_eq (hpath : argumentOr x "directory" "." = .ok path) :
    listFiles root x = inside root path >>= Job.listing path := by
  unfold listFiles
  rw [hpath]
  rfl

theorem projectCommand_eq {s : Settings} {label program : String} {arguments : List String}
    (hpath : argumentOr x "path" "." = .ok path) :
    projectCommand s label (program :: arguments) x =
      inside s.root path >>= runAt s.limits program arguments := by
  unfold projectCommand
  dsimp only
  rw [hpath]
  rfl

end Equations

section Touches

variable {root path : String} (hpath : Path.staysInside path = true)

include hpath

theorem touches_readAt :
    (readAt path (Path.join root path)).Touches (reach root path "read_file") :=
  .bind (.reads _ ⟨by decide, Path.confined_join root hpath⟩) fun _ => .pure _

theorem touches_writeAt (content : String) :
    (writeAt path content (Path.join root path)).Touches (reach root path "write_file") := by
  have hwrite : (do
      Job.change ("write " ++ path) fun d => d.write (Path.join root path) (Text.encode content)
      pure (.text ("Successfully wrote " ++ path)) : Job Json).Touches
        (reach root path "write_file") :=
    .bind (.writes _ _ ⟨by decide, Path.confined_join root hpath⟩) fun _ => .pure _
  unfold writeAt
  rcases hup : Path.parent? (Path.join root path) with _ | up
  · exact hwrite
  · refine .bind (.makes _ ⟨rfl, ?_⟩) fun _ => hwrite
    rcases eq_or_ne (Path.steps path) [] with hnil | hne
    · exact .inr ⟨hnil, hup⟩
    · exact .inl (Path.confined_parent? hpath hne hup)

theorem touches_editAt (search replacement : String) :
    (editAt path search replacement (Path.join root path)).Touches
      (reach root path "edit_file") := by
  refine .bind (.reads _ ⟨by decide, Path.confined_join root hpath⟩) fun text => ?_
  split
  · exact .pure _
  · exact .bind (.writes _ _ ⟨by decide, Path.confined_join root hpath⟩) fun _ => .pure _

theorem touches_listing :
    (Job.listing path (Path.join root path)).Touches (reach root path "list_files") :=
  .lists _ ⟨by decide, Path.confined_join root hpath⟩

theorem touches_runAt {name : String} (hname : name ∉ fileTools) (limits : Command.Limits)
    (program : String) (arguments : List String) :
    (runAt limits program arguments (Path.join root path)).Touches (reach root path name) :=
  .bind (.runs _ _ ⟨hname, Path.confined_join root hpath⟩) fun _ => .pure _

end Touches

/-! ### Calls -/

section Calls

variable {s : Settings} {x : Table Json} {path : String}

theorem keepsInside_readFile (h : Gives s "read_file" x path) :
    KeepsInside s.root path "read_file" (readFile s.root x) := by
  rw [readFile_eq h]
  exact keepsInside_inside touches_readAt

theorem keepsInside_writeFile (h : Gives s "write_file" x path) :
    KeepsInside s.root path "write_file" (writeFile s.root x) := by
  obtain ⟨hpath, content, hcontent⟩ := h
  rw [writeFile_eq hpath hcontent]
  exact keepsInside_inside fun hinside => touches_writeAt hinside content

theorem keepsInside_editFile (h : Gives s "edit_file" x path) :
    KeepsInside s.root path "edit_file" (editFile s.root x) := by
  obtain ⟨hpath, ⟨search, hsearch⟩, replacement, hreplacement⟩ := h
  rw [editFile_eq hpath hsearch hreplacement]
  exact keepsInside_inside fun hinside => touches_editAt hinside search replacement

theorem keepsInside_listFiles (h : Gives s "list_files" x path) :
    KeepsInside s.root path "list_files" (listFiles s.root x) := by
  rw [listFiles_eq h]
  exact keepsInside_inside touches_listing

theorem keepsInside_projectCommand {name label : String} {command : List String}
    (hname : name ∉ fileTools) (hcommand : command ≠ [])
    (hpath : argumentOr x "path" "." = .ok path) :
    KeepsInside s.root path name (projectCommand s label command x) := by
  obtain ⟨program, arguments, rfl⟩ := List.exists_cons_of_ne_nil hcommand
  rw [projectCommand_eq hpath]
  exact keepsInside_inside fun hinside => touches_runAt hinside hname s.limits program arguments

/-- What waits for an argument fails with it. -/
theorem fails_bind {o : Outcome String} {body : String → Job Json}
    (h : ∀ a, o = .ok a → ∃ f, body a = Job.fail f) :
    ∃ f, (Job.ofOutcome o >>= body) = Job.fail f := by
  rcases o with f | a
  · exact ⟨f, rfl⟩
  · exact h a rfl

theorem fails_readFile (h : ∀ path, ¬Gives s "read_file" x path) :
    ∃ f, readFile s.root x = Job.fail f :=
  fails_bind fun path hpath => absurd hpath (h path)

theorem fails_writeFile (h : ∀ path, ¬Gives s "write_file" x path) :
    ∃ f, writeFile s.root x = Job.fail f :=
  fails_bind fun path hpath => fails_bind fun content hcontent =>
    absurd ⟨hpath, content, hcontent⟩ (h path)

theorem fails_editFile (h : ∀ path, ¬Gives s "edit_file" x path) :
    ∃ f, editFile s.root x = Job.fail f :=
  fails_bind fun path hpath => fails_bind fun search hsearch =>
    fails_bind fun replacement hreplacement =>
      absurd ⟨hpath, ⟨search, hsearch⟩, replacement, hreplacement⟩ (h path)

theorem fails_listFiles (h : ∀ path, ¬Gives s "list_files" x path) :
    ∃ f, listFiles s.root x = Job.fail f :=
  fails_bind fun path hpath => absurd hpath (h path)

theorem fails_projectCommand {label : String} {command : List String}
    (h : ∀ path, ¬(command ≠ [] ∧ argumentOr x "path" "." = .ok path)) :
    ∃ f, projectCommand s label command x = Job.fail f := by
  rcases command with _ | ⟨program, arguments⟩
  · exact ⟨_, rfl⟩
  · exact fails_bind fun path hpath => absurd ⟨List.cons_ne_nil _ _, hpath⟩ (h path)

end Calls

/-- Every call of a tool that takes a path.  It fails before anything is done when it gives no
path or its other arguments are wrong.  Otherwise it is refused for its path or keeps inside;
and when the root is a directory, a call of a tool on files changes nothing outside of it. -/
theorem pathTools_keepInside (s : Settings) {name : String} {tool : Tool}
    (hname : name ∈ pathTools) (htool : builtinTool? s name = some tool) (x : Table Json) :
    ((∀ path, ¬Gives s name x path) → ∃ f, tool x = Job.fail f) ∧
      (∀ path, Gives s name x path → KeepsInside s.root path name (tool x)) ∧
      (name ∈ fileTools → Goes (Site.KeptOutside s.root) (tool x).run) := by
  have hcalls : ((∀ path, ¬Gives s name x path) → ∃ f, tool x = Job.fail f) ∧
      ∀ path, Gives s name x path → KeepsInside s.root path name (tool x) := by
    unfold builtinTool? fileTool? commandTool? at htool
    split at htool
    · next h =>
      split at h
      · cases h; cases htool
        exact ⟨fails_readFile, fun _ => keepsInside_readFile⟩
      · cases h; cases htool
        exact ⟨fails_writeFile, fun _ => keepsInside_writeFile⟩
      · cases h; cases htool
        exact ⟨fails_editFile, fun _ => keepsInside_editFile⟩
      · cases h; cases htool
        exact ⟨fails_listFiles, fun _ => keepsInside_listFiles⟩
      · cases h
    · split at htool
      · cases htool
        exact ⟨fails_projectCommand, fun _ h => keepsInside_projectCommand (by decide) h.1 h.2⟩
      · cases htool
        exact ⟨fails_projectCommand, fun _ h => keepsInside_projectCommand (by decide) h.1 h.2⟩
      · exact absurd hname (by decide)
      · cases htool
  -- A call without a path is a failure and changes nothing either.
  refine ⟨hcalls.1, hcalls.2, fun hfile => ?_⟩
  by_cases hgives : ∃ path, Gives s name x path
  · obtain ⟨path, hpath⟩ := hgives
    exact (hcalls.2 path hpath).keepsOutside hfile
  · obtain ⟨f, hf⟩ := hcalls.1 fun path hpath => hgives ⟨path, hpath⟩
    rw [hf]
    exact Goes.run_throw f

/-- A project, with a file outside of it. -/
def besides : Site :=
  Site.ofDisk ⟨[], [(["proj"], .directory), (["secret"], .file [])]⟩

/-- A call that writes a file two levels down. -/
def noteCall : Table Json := [("content", .text "x"), ("path", .text "docs/./a.md")]

theorem pathTools_keepInside_write :
    KeepsInside "proj" "docs/./a.md" "write_file" (writeFile "proj" noteCall) ∧
      ∃ disk : Disk, ((writeFile "proj" noteCall).run besides).2 = { besides with disk } ∧
        disk.lookup? ["proj", "docs", "a.md"] = some (.file (Text.encode "x")) ∧
        disk.lookup? ["secret"] = some (.file []) := by
  have hroot : besides.disk.LeadsTo "proj" ["proj"] := Disk.leadsTo_of_find rfl
  obtain ⟨-, hkeeps, houtside⟩ := @pathTools_keepInside ⟨"proj", .standard, .standard⟩
    "write_file" _ (by decide) rfl noteCall
  obtain ⟨disk, hsite, hdisk⟩ := houtside (by decide) besides ["proj"] hroot
  refine ⟨hkeeps _ ⟨rfl, "x", rfl⟩, disk, hsite, ?_, ?_⟩
  · rw [show disk = _ from (congrArg Site.disk hsite).symm]
    decide +kernel
  · rw [hdisk.outside _ (by rintro ⟨names, -, h⟩; simp at h)]
    rfl

/-- A text that does not lead away from the root makes the directories above it, also where
there is no root: here one that does not go down from the root. -/
theorem writeFile_madeAbove :
    Path.staysInside "." = true ∧ ¬Path.Confined "a/b" "a" ∧
      ((writeFile "a/b" [("content", .text "x"), ("path", .text ".")]).run
        (Site.ofDisk ⟨[], []⟩)).2.disk.entries = [(["a"], .directory)] := by
  refine ⟨by decide +kernel, ?_, by decide +kernel⟩
  rintro ⟨-, names, -, h | ⟨h, -⟩⟩
  · rw [show Path.components "a" = ["a"] by decide +kernel,
      show Path.components "a/b" = ["a", "b"] by decide +kernel] at h
    cases h
  · exact absurd h (by decide)

end Tool

end AgentWorkflow
