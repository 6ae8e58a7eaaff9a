/-
Which tools a run has, and under which names.

* `Tool.Entry.tool?`, `Tool.Entry.isOffered` — the tool of an entry, and when there is one.
* `Tool.supply?`, `Tool.get?_build` — what stands under a name in the tools of a catalog: the
  tool of the last entry of the name that has one.
* `Tool.Covers`, `Tool.dispatch_harmless_iff` — a dry run calls no implementation that
  modifies the repository, under whatever names, just when a policy lists every name of one.
* `Tool.Kit.contains_addAll`, `Tool.Kit.mem_specs_addAll` — what manifests add.
* `Project.session_advertises` — which of the specifications that a session gives to the model
  name a tool of the session.

Design notes: a catalog renames implementations, and the gate of a dry run goes by the names
that the model sees.  The specifications come from a file of their own, and nothing is taken
out of them when a tool is left out for want of a host.
-/
import AgentWorkflow.Proofs.Decoding
import AgentWorkflow.Proofs.Dispatching
import AgentWorkflow.Proofs.Sessions
import AgentWorkflow.Rehearsal

namespace AgentWorkflow

open Step (Leaves)

namespace Tool

variable {settings : Settings} {forge : Option Forge}

/-! ### Entries -/

/-- The names of the implementations that work on files. -/
def fileNames : List String := ["read_file", "write_file", "edit_file", "list_files"]

/-- The names of the implementations that run commands. -/
def commandNames : List String := ["run_tests", "run_lint", "run_docker_task"]

/-- The names of the implementations that a host has. -/
def hostingNames : List String := ["create_branch", "create_pull_request", "list_open_issues"]

namespace Entry

/-- The tool of an entry, if its provider is there and has the implementation. -/
def tool? (settings : Settings) (forge : Option Forge) (e : Entry) : Option Tool :=
  (entryTool settings forge e).join

/-- There is an implementation of the name. -/
def isKnown (e : Entry) : Bool :=
  match e.provider with
  | .builtin => fileNames.contains e.implementation || commandNames.contains e.implementation
  | .forge => hostingNames.contains e.implementation

/-- There is an implementation of the name, and a host if it is one of a host. -/
def isOffered (hosted : Bool) (e : Entry) : Bool :=
  e.isKnown && (hosted || e.provider == .builtin)

end Entry

theorem isSome_fileTool? (root name : String) :
    (fileTool? root name).isSome = fileNames.contains name := by
  unfold fileTool? fileNames
  split <;> simp_all

theorem isSome_commandTool? (settings : Settings) (name : String) :
    (commandTool? settings name).isSome = commandNames.contains name := by
  unfold commandTool? commandNames
  split <;> simp_all

theorem isSome_builtinTool? (settings : Settings) (name : String) :
    (builtinTool? settings name).isSome =
      (fileNames.contains name || commandNames.contains name) := by
  rw [← isSome_fileTool? settings.root, ← isSome_commandTool? settings]
  unfold builtinTool?
  rcases fileTool? settings.root name with _ | t
  · rfl
  · rfl

theorem isSome_hostingTool? (forge : Forge) (name : String) :
    (hostingTool? forge name).isSome = hostingNames.contains name := by
  unfold hostingTool? hostingNames
  split <;> simp_all

theorem Entry.isSome_tool? (settings : Settings) (forge : Option Forge) (e : Entry) :
    (e.tool? settings forge).isSome = e.isOffered forge.isSome := by
  unfold tool? entryTool isOffered isKnown
  rcases hprovider : e.provider with _ | _
  · simp [isSome_builtinTool?]
  · rcases forge with _ | forge
    · simp
    · simp [isSome_hostingTool?]

/-! ### The tools of a catalog -/

/-- The entry of a name whose tool a catalog puts under it, with that tool: the last one that
has a tool. -/
def supply? (settings : Settings) (forge : Option Forge) (name : String) :
    List Entry → Option (Entry × Tool)
  | [] => none
  | e :: rest => (supply? settings forge name rest).or
      (if e.name = name then (e.tool? settings forge).map fun t => (e, t) else none)

theorem mem_of_supply? {name : String} {entries : List Entry} {e : Entry} {t : Tool}
    (h : supply? settings forge name entries = some (e, t)) :
    e ∈ entries ∧ e.name = name ∧ e.tool? settings forge = some t := by
  induction entries with
  | nil => cases h
  | cons e' rest ih =>
    rcases Option.or_eq_some_iff.mp h with hrest | ⟨-, hhead⟩
    · obtain ⟨hmem, hname⟩ := ih hrest
      exact ⟨List.mem_cons_of_mem _ hmem, hname⟩
    · obtain ⟨hname, hhead⟩ := Option.ite_none_right_eq_some.mp hhead
      obtain ⟨t', ht, heq⟩ := Option.map_eq_some_iff.mp hhead
      obtain ⟨rfl, rfl⟩ := Prod.mk.inj heq
      exact ⟨List.mem_cons_self, hname, ht⟩

theorem isSome_supply? (settings : Settings) (forge : Option Forge) (name : String)
    (entries : List Entry) :
    (supply? settings forge name entries).isSome = true ↔
      ∃ e ∈ entries, e.name = name ∧ e.isOffered forge.isSome = true := by
  induction entries with
  | nil => simp [supply?]
  | cons e rest ih =>
    have hhead : (if e.name = name then (e.tool? settings forge).map fun t => (e, t)
        else none).isSome = true ↔ e.name = name ∧ e.isOffered forge.isSome = true := by
      rw [← e.isSome_tool? settings]
      by_cases hname : e.name = name
      · simp [hname]
      · simp [hname]
    unfold supply?
    rw [Option.isSome_or, Bool.or_eq_true, ih, hhead, List.exists_mem_cons_iff, or_comm]

/-- A catalog puts the tools that it supplies over those that are there. -/
theorem get?_addEntries (tools : Table Tool) (entries : List Entry) (site : Site)
    (name : String) :
    Table.get? (addEntries settings forge tools entries site).1 name =
      ((supply? settings forge name entries).map Prod.snd).or (Table.get? tools name) := by
  induction entries generalizing tools site with
  | nil => rfl
  | cons e rest ih =>
    unfold addEntries supply?
    rw [Option.map_or, Option.or_assoc]
    -- An entry without a tool changes nothing, whether or not a note is taken of it.
    rcases htool : entryTool settings forge e with _ | _ | t
    · simp [Entry.tool?, htool, ih]
    · simp only [Entry.tool?, htool, Option.join_some, Option.map_none, ite_self, Option.none_or]
      exact ih tools _
    · dsimp only
      rw [ih, Table.get?_insert]
      by_cases hname : e.name = name
      · simp [Entry.tool?, htool, hname]
      · simp [hname, Ne.symm hname]

/-- What stands under a name in the tools of a catalog. -/
theorem get?_build (settings : Settings) (forge : Option Forge) (entries : List Entry)
    (site : Site) (name : String) :
    Table.get? (build settings forge entries site).1 name =
      (supply? settings forge name entries).map Prod.snd := by
  unfold build
  rw [get?_addEntries, Table.get?_nil, Option.or_none]

theorem contains_build (settings : Settings) (forge : Option Forge) (entries : List Entry)
    (site : Site) (name : String) :
    Table.contains (build settings forge entries site).1 name = true ↔
      ∃ e ∈ entries, e.name = name ∧ e.isOffered forge.isSome = true := by
  unfold Table.contains
  rw [get?_build, Option.isSome_map, isSome_supply?]

theorem goes_addEntries (settings : Settings) (forge : Option Forge) (tools : Table Tool)
    (entries : List Entry) : Goes Site.Noted (addEntries settings forge tools entries) := by
  induction entries generalizing tools with
  | nil => exact Goes.pure _
  | cons e rest ih =>
    unfold addEntries
    split
    · exact ih _
    · exact ih _
    · exact (Deed.goes_note _).bind fun _ => ih _

/-! ### Calls in a dry run -/

/-- Every name that a catalog gives to an implementation that a policy lists is listed too. -/
def Covers (policy : Policy) (settings : Settings) (forge : Option Forge)
    (entries : List Entry) : Prop :=
  ∀ name e t, supply? settings forge name entries = some (e, t) →
    policy.isModifying e.implementation = true → policy.isModifying name = true

/-- A policy covers a catalog that renames nothing. -/
theorem covers_of_callable_eq_none {policy : Policy} {entries : List Entry}
    (h : ∀ e ∈ entries, e.callable = none) : Covers policy settings forge entries := by
  intro name e t hsupply hmodifying
  obtain ⟨hmem, rfl, -⟩ := mem_of_supply? hsupply
  unfold Entry.implementation at hmodifying
  rw [h e hmem] at hmodifying
  exact hmodifying

/-- An event is not the call of an implementation that a policy lists, under whatever name. -/
def Harmless (policy : Policy) (settings : Settings) (forge : Option Forge)
    (entries : List Entry) : Event → Prop
  | .invoked name _ => ∀ e t, supply? settings forge name entries = some (e, t) →
      policy.isModifying e.implementation = false
  | _ => True

end Tool

/-- When nothing is to be asked, a call that is ready and not withheld is made. -/
theorem Dispatch.invoked_mem_run {s : Session} {call : ToolCall} {x : Table Json}
    (hready : Ready s call x) (hyolo : s.flags.yolo = true)
    (hkept : s.withholds call.name = false) (w : World) :
    .invoked call.name x ∈ (run s [call] w).2.record := by
  obtain ⟨a, after, rfl, hholds, hcall⟩ := exists_account s call w
  obtain ⟨left, hdecides, -⟩ := hholds.decides
  have hnot : ¬ (s.flags.dryRun = true ∧ s.policy.isModifying a.call.name = true) := by
    rw [← Bool.and_eq_true]
    exact Bool.eq_false_iff.mp hkept
  obtain ⟨r, hran⟩ := (hdecides.ran x).mpr ⟨hready, .inl hyolo, hnot⟩
  have hevents : .invoked a.call.name x ∈ a.events := by
    unfold Account.events
    rw [hran]
    exact List.mem_append_right _ List.mem_cons_self
  unfold run
  rw [Step.run_bind, hcall]
  exact List.mem_append_right _ hevents

namespace Tool

open Dispatch (Ready Spells)

/-- Whether a dry run under the standard policy may call an implementation that modifies the
repository is a matter of names alone: it never does, whatever is called and on either way to
the tools, just when the policy lists every name that the catalog gives to one.  A catalog that
renames nothing is such a catalog. -/
theorem dispatch_harmless_iff (settings : Settings) (forge : Option Forge)
    (entries : List Entry) (site : Site) :
    ((∀ s : Session, s.flags.dryRun = true → s.policy = standardPolicy →
        s.tools = (build settings forge entries site).1 →
        (∀ calls, Leaves (Harmless standardPolicy settings forge entries)
          (Dispatch.run s calls)) ∧
        ∀ name x, Leaves (Harmless standardPolicy settings forge entries)
          (s.callTool name x).run) ↔
      Covers standardPolicy settings forge entries) ∧
    ((∀ e ∈ entries, e.callable = none) → Covers standardPolicy settings forge entries) := by
  refine ⟨⟨fun h name e t hsupply hmodifying => ?_, fun h s hdry hpolicy _ => ?_⟩,
    covers_of_callable_eq_none⟩
  · -- A name that the policy does not list is called without arguments.
    by_contra hname
    let s : Session := { Rehearsal.session ⟨true, true, false⟩ standardPolicy [] with
      tools := (build settings forge entries site).1 }
    let call := ToolCall.new "1" name ""
    have htool : Table.get? s.tools name = some t := by
      rw [show s.tools = (build settings forge entries site).1 from rfl, get?_build, hsupply]
      rfl
    have hready : Ready s call [] := ⟨⟨t, htool⟩, .inl ⟨rfl, rfl⟩⟩
    have hkept : s.withholds call.name = false := Bool.eq_false_iff.mpr hname
    obtain ⟨events, hrecord, hharmless⟩ := (h s rfl rfl rfl).1 [call] ⟨site, Store.empty, []⟩
    have hcalled := Dispatch.invoked_mem_run hready rfl hkept ⟨site, Store.empty, []⟩
    rw [hrecord, List.nil_append] at hcalled
    rw [hharmless _ hcalled e t hsupply] at hmodifying
    cases hmodifying
  · have hinvoked : ∀ name x, s.withholds name = false →
        Harmless standardPolicy settings forge entries (.invoked name x) := by
      intro name x hkept e t hsupply
      rw [Session.withholds, hdry, hpolicy, Bool.true_and] at hkept
      rw [Bool.eq_false_iff]
      intro hmodifying
      rw [h name e t hsupply hmodifying] at hkept
      cases hkept
    exact ⟨fun calls =>
        (Dispatch.madeOf_run s (fun _ _ => trivial) hinvoked calls).leaves,
      fun name x => (Session.madeOf_callTool s hinvoked name x).leaves⟩

/-- A catalog that gives another name to the tool that writes files: a dry run writes a file. -/
theorem dispatch_harmful_renamed :
    let settings : Settings := ⟨"/", Command.Limits.standard, Commands.standard⟩
    let entries : List Entry := [⟨"save", .builtin, some "write_file"⟩]
    let site : Site := Site.ofDisk default
    let s : Session := { Rehearsal.session ⟨true, true, false⟩ standardPolicy [] with
      tools := (build settings none entries site).1 }
    let arguments := Json.object [("content", .text "x"), ("path", .text "out.txt")]
    let call := ToolCall.new "1" "save" arguments.render
    s.flags.dryRun = true ∧ s.policy = standardPolicy ∧
      ¬ Leaves (Harmless standardPolicy settings none entries) (Dispatch.run s [call]) ∧
      ((Dispatch.run s [call] ⟨site, Store.empty, []⟩).2.site.disk.readText "/out.txt").toOption =
        some "x" := by
  intro settings entries site s arguments call
  refine ⟨rfl, rfl, fun h => ?_, by decide +kernel⟩
  -- Which arguments the text spells does not matter, only that it spells some.
  have hread : (Dispatch.readArguments call.arguments).toOption.isSome = true := by
    decide +kernel
  rcases hspells : Dispatch.readArguments call.arguments with e | x
  · rw [hspells] at hread
    cases hread
  · have hready : Ready s call x :=
      ⟨⟨_, rfl⟩, Dispatch.readArguments_eq_ok.mp hspells⟩
    obtain ⟨events, hrecord, hharmless⟩ := h ⟨site, Store.empty, []⟩
    have hcalled := Dispatch.invoked_mem_run hready rfl rfl ⟨site, Store.empty, []⟩
    rw [hrecord, List.nil_append] at hcalled
    exact absurd (hharmless _ hcalled _ _ rfl) (by decide)

/-! ### Manifests -/

theorem Manifest.specName?_of_load {disk : Disk} {path : String} {m : Manifest}
    (h : Manifest.load disk path = .ok m) : specName? m.spec = some m.name := by
  unfold load at h
  obtain ⟨raw, -, h⟩ := Except.bind_eq_ok h
  obtain ⟨⟨spec, command, modifying⟩, -, h⟩ := Except.bind_eq_ok h
  dsimp only at h
  split at h
  · cases h
  · next name hname =>
    split at h
    · cases h
    · obtain rfl := Except.ok.inj h
      exact hname

/-- The manifests of a directory that can be used, in the order of their names. -/
def manifestsOf (disk : Disk) (directory : String) : List Manifest :=
  (manifestPaths disk directory).filterMap fun path => (Manifest.load disk path).toOption

theorem specName?_of_mem_manifestsOf {disk : Disk} {directory : String} {m : Manifest}
    (h : m ∈ manifestsOf disk directory) : specName? m.spec = some m.name := by
  obtain ⟨path, -, hload⟩ := List.mem_filterMap.mp h
  rcases hpath : Manifest.load disk path with f | m'
  · rw [hpath] at hload
    cases hload
  · rw [hpath] at hload
    obtain rfl := Option.some.inj hload
    exact Manifest.specName?_of_load hpath

theorem loadManifests_eq (disk : Disk) (paths : List String) (site : Site) :
    (loadManifests disk paths site).1 =
      paths.filterMap fun path => (Manifest.load disk path).toOption := by
  induction paths generalizing site with
  | nil => rfl
  | cons path rest ih =>
    unfold loadManifests
    rw [List.filterMap_cons]
    rcases Manifest.load disk path with f | m
    · exact ih _
    · exact congrArg (m :: ·) (ih site)

theorem scan_eq (directory : String) (site : Site) :
    (scan directory site).1 = manifestsOf site.disk directory :=
  loadManifests_eq _ _ _

namespace Kit

theorem addAll_eq (settings : Settings) (kit : Kit) (manifests : List Manifest) (site : Site) :
    (addAll settings kit manifests site).1 = manifests.foldl (put settings) kit := by
  induction manifests generalizing kit site with
  | nil => rfl
  | cons m rest ih =>
    have hadd : (add settings kit m site).1 = put settings kit m := by
      unfold add
      split
      · rfl
      · rfl
    show (addAll settings (add settings kit m site).1 rest _).1 = _
    rw [hadd]
    exact ih _ _

/-- Manifests add their names to the tools. -/
theorem contains_puts (settings : Settings) (kit : Kit) (manifests : List Manifest)
    (name : String) :
    Table.contains (manifests.foldl (put settings) kit).tools name = true ↔
      (∃ m ∈ manifests, m.name = name) ∨ Table.contains kit.tools name = true := by
  induction manifests generalizing kit with
  | nil => simp
  | cons m rest ih =>
    rw [List.foldl_cons, ih, List.exists_mem_cons_iff]
    have hput : Table.contains (put settings kit m).tools name = true ↔
        m.name = name ∨ Table.contains kit.tools name = true := by
      unfold Table.contains put
      rw [Table.get?_insert]
      by_cases hname : m.name = name
      · simp [hname]
      · simp [hname, Ne.symm hname]
    rw [hput, ← or_assoc]
    exact or_congr_left or_comm

theorem mem_replaceSpec {specs : List Json} {name : String} {spec other : Json} :
    other ∈ replaceSpec specs name spec ↔
      (other ∈ specs ∧ specName? other ≠ some name) ∨ other = spec := by
  simp [replaceSpec]

/-- A specification is that of a manifest, or one from before. -/
theorem mem_specs_of_mem_puts {settings : Settings} {kit : Kit} {manifests : List Manifest}
    {spec : Json} (h : spec ∈ (manifests.foldl (put settings) kit).specs) :
    (∃ m ∈ manifests, spec = m.spec) ∨ spec ∈ kit.specs := by
  induction manifests generalizing kit with
  | nil => exact .inr h
  | cons m rest ih =>
    rcases ih h with ⟨m', hm', hspec⟩ | hput
    · exact .inl ⟨m', List.mem_cons_of_mem _ hm', hspec⟩
    · rcases mem_replaceSpec.mp hput with ⟨hkit, -⟩ | hspec
      · exact .inr hkit
      · exact .inl ⟨m, List.mem_cons_self, hspec⟩

/-- A specification stays unless a manifest has its name. -/
theorem mem_specs_puts {settings : Settings} {kit : Kit} {manifests : List Manifest}
    {spec : Json} (h : spec ∈ kit.specs)
    (hother : ∀ m ∈ manifests, specName? spec ≠ some m.name) :
    spec ∈ (manifests.foldl (put settings) kit).specs := by
  induction manifests generalizing kit with
  | nil => exact h
  | cons m rest ih =>
    obtain ⟨hm, hrest⟩ := List.forall_mem_cons.mp hother
    exact ih (mem_replaceSpec.mpr (.inl ⟨h, hm⟩)) hrest

end Kit

/-- Specifications that are loaded have names. -/
theorem exists_specName_of_load {disk : Disk} {path : Option String} {specs : List Json}
    (h : specsOrStandard disk path = .ok specs) :
    ∀ spec ∈ specs, ∃ name, specName? spec = some name := by
  rcases path with _ | path
  · obtain rfl := Except.ok.inj h
    intro spec hspec
    rw [← Option.isSome_iff_exists]
    revert spec
    decide +kernel
  · unfold specsOrStandard loadSpecs at h
    obtain ⟨specs', -, h⟩ := Except.bind_eq_ok h
    obtain ⟨_, hcheck, h⟩ := Except.bind_eq_ok h
    obtain rfl := Except.ok.inj h
    unfold checkSpecs at hcheck
    split at hcheck
    · next hnone =>
      intro spec hspec
      have hname := List.findIdx?_eq_none_iff.mp hnone _ (List.mem_map_of_mem hspec)
      exact Option.isSome_iff_exists.mp (by simpa using hname)
    · cases hcheck

end Tool

/-! ### What the model is told -/

namespace Project

open Tool (Kit specName?)

/-- The manifests of a project. -/
def manifests (p : Project) (disk : Disk) : List Tool.Manifest :=
  Tool.manifestsOf disk (p.path p.config.pluginsDirectory)

/-- How tools and specifications are put together: the tools of a catalog and the loaded
specifications, and the manifests over both. -/
theorem kit_eq_ok {p : Project} {forge : Option Forge} {site site' : Site} {kit : Kit}
    (h : (p.kit forge).run site = (.ok kit, site')) :
    ∃ entries specs,
      Tool.entriesOrStandard site.disk (p.config.toolRegistryPath.map p.path) = .ok entries ∧
      Tool.specsOrStandard site.disk (p.config.toolSpecsPath.map p.path) = .ok specs ∧
      kit = (p.manifests site.disk).foldl (Kit.put p.settings)
        ⟨(Tool.build p.settings forge entries site).1, specs, p.policy⟩ := by
  unfold Project.kit at h
  obtain ⟨disk, site₁, hdisk, h₁⟩ := Job.eq_ok_of_bind h
  obtain ⟨rfl, rfl⟩ := Job.eq_ok_of_disk hdisk
  obtain ⟨entries, site₂, hread, h₂⟩ := Job.eq_ok_of_bind h₁
  obtain ⟨hentries, rfl⟩ := Job.eq_ok_of_ofOutcome hread
  obtain ⟨specs, site₃, hread', h₃⟩ := Job.eq_ok_of_bind h₂
  obtain ⟨hspecs, rfl⟩ := Job.eq_ok_of_ofOutcome hread'
  obtain ⟨tools, site₄, htools, h₄⟩ := Job.eq_ok_of_bind h₃
  obtain ⟨rfl, rfl⟩ := Job.eq_ok_of_lift htools
  obtain ⟨manifests, site₅, hmanifests, h₅⟩ := Job.eq_ok_of_bind h₄
  obtain ⟨rfl, rfl⟩ := Job.eq_ok_of_lift hmanifests
  obtain ⟨rfl, -⟩ := Job.eq_ok_of_lift h₅
  refine ⟨entries, specs, hentries, hspecs, ?_⟩
  -- Building the tools takes notes, so the manifests are those of the files found at first.
  rw [Kit.addAll_eq, Tool.scan_eq, Tool.build,
    (Tool.goes_addEntries p.settings forge [] entries _).disk_eq]
  rfl

/-- Of the specifications that a session gives to the model, all name a tool of the session
just when each of the catalog's specifications has the name of a manifest or of an entry that
is offered, and an entry of a host is offered only where there is one.  So all do where there
is a host, the specifications go with the entries by name and every entry has an
implementation. -/
theorem session_advertises {p : Project} {flags : Flags} {value? : String → Option String}
    {confirm : String → Table Json → Deed Bool} {site site' : Site} {s : Session}
    (h : (p.session flags value? confirm).run site = (.ok s, site')) :
    ∃ entries specs,
      Tool.entriesOrStandard site.disk (p.config.toolRegistryPath.map p.path) = .ok entries ∧
      Tool.specsOrStandard site.disk (p.config.toolSpecsPath.map p.path) = .ok specs ∧
      ((∀ spec ∈ s.specs, ∃ name, specName? spec = some name ∧
          Table.contains s.tools name = true) ↔
        ∀ spec ∈ specs, ∃ name, specName? spec = some name ∧
          ((∃ m ∈ p.manifests site.disk, m.name = name) ∨
            ∃ e ∈ entries, e.name = name ∧ e.isOffered s.forge.isSome = true)) ∧
      (s.forge.isSome = true → (∀ spec ∈ specs, ∃ e ∈ entries, specName? spec = some e.name) →
        (∀ e ∈ entries, e.isKnown = true) →
        ∀ spec ∈ s.specs, ∃ name, specName? spec = some name ∧
          Table.contains s.tools name = true) := by
  obtain ⟨kit, site₁, site₂, hkit, hdisk, htools, hspecs, -⟩ := (session_makes h).kit
  obtain ⟨entries, specs, hentries, hloaded, rfl⟩ := kit_eq_ok hkit
  rw [hdisk] at hentries hloaded htools hspecs
  have hcontains : ∀ name, Table.contains s.tools name = true ↔
      (∃ m ∈ p.manifests site.disk, m.name = name) ∨
        ∃ e ∈ entries, e.name = name ∧ e.isOffered s.forge.isSome = true := by
    intro name
    rw [htools, Kit.contains_puts, Tool.contains_build]
  have hiff : (∀ spec ∈ s.specs, ∃ name, specName? spec = some name ∧
        Table.contains s.tools name = true) ↔
      ∀ spec ∈ specs, ∃ name, specName? spec = some name ∧
        ((∃ m ∈ p.manifests site.disk, m.name = name) ∨
          ∃ e ∈ entries, e.name = name ∧ e.isOffered s.forge.isSome = true) := by
    constructor
    · intro hall spec hspec
      obtain ⟨name, hname⟩ := Tool.exists_specName_of_load hloaded spec hspec
      refine ⟨name, hname, ?_⟩
      -- A specification that no manifest takes the place of is given to the model.
      by_cases hmanifest : ∃ m ∈ p.manifests site.disk, m.name = name
      · exact .inl hmanifest
      · have hkept : spec ∈ s.specs := by
          rw [hspecs]
          refine Kit.mem_specs_puts hspec fun m hm heq => hmanifest ⟨m, hm, ?_⟩
          exact Option.some.inj (heq.symm.trans hname)
        obtain ⟨name', hname', htool⟩ := hall spec hkept
        obtain rfl := Option.some.inj (hname.symm.trans hname')
        exact (hcontains name).mp htool
    · intro hall spec hspec
      rw [hspecs] at hspec
      rcases Kit.mem_specs_of_mem_puts hspec with ⟨m, hm, rfl⟩ | hmem
      · exact ⟨m.name, Tool.specName?_of_mem_manifestsOf hm,
          (hcontains _).mpr (.inl ⟨m, hm, rfl⟩)⟩
      · obtain ⟨name, hname, hoffered⟩ := hall spec hmem
        exact ⟨name, hname, (hcontains name).mpr hoffered⟩
  refine ⟨entries, specs, hentries, hloaded, hiff, fun hforge hnames hknown => hiff.mpr ?_⟩
  intro spec hspec
  obtain ⟨e, he, hname⟩ := hnames spec hspec
  refine ⟨e.name, hname, .inr ⟨e, he, rfl, ?_⟩⟩
  rw [Tool.Entry.isOffered, hknown e he, hforge]
  rfl

/-- A project without settings, at a host. -/
theorem session_advertises_hosted :
    let p : Project := ⟨"/", Config.standard⟩
    let values : Table String := [("GITHUB_REPOSITORY", "owner/name"), ("GITHUB_TOKEN", "t")]
    ∃ s site', (p.session ⟨false, true, false⟩ (Table.get? values) Rehearsal.confirm).run
        (Site.ofDisk default) = (.ok s, site') ∧
      ∀ spec ∈ s.specs, ∃ name, specName? spec = some name ∧
        Table.contains s.tools name = true := by
  intro p values
  have hhosted : ((p.session ⟨false, true, false⟩ (Table.get? values) Rehearsal.confirm).run
      (Site.ofDisk default)).1.toOption.map (·.forge.isSome) = some true := by
    decide +kernel
  rcases hs : (p.session ⟨false, true, false⟩ (Table.get? values) Rehearsal.confirm).run
    (Site.ofDisk default) with ⟨f | s, site'⟩
  · rw [hs] at hhosted
    cases hhosted
  · rw [hs] at hhosted
    refine ⟨s, site', rfl, ?_⟩
    obtain ⟨entries, specs, hentries, hspecs, -, hall⟩ := session_advertises hs
    obtain rfl : Tool.standardEntries = entries := Except.ok.inj hentries
    obtain rfl : Tool.standardSpecs = specs := Except.ok.inj hspecs
    refine hall (Option.some.inj hhosted) ?_ ?_
    · decide +kernel
    · decide +kernel

/-- A project without settings and without a host: the model is told of a tool that makes
branches, and there is none. -/
theorem session_advertises_unhosted :
    let p : Project := ⟨"/", Config.standard⟩
    let values : Table String := [("GITHUB_TOKEN", "t")]
    (∀ spec ∈ Tool.standardSpecs, ∃ e ∈ Tool.standardEntries, specName? spec = some e.name) ∧
      ∃ s site', (p.session ⟨false, true, false⟩ (Table.get? values) Rehearsal.confirm).run
          (Site.ofDisk default) = (.ok s, site') ∧
        ∃ spec ∈ s.specs, specName? spec = some "create_branch" ∧
          Table.contains s.tools "create_branch" = false := by
  intro p values
  refine ⟨by decide +kernel, ?_⟩
  have htold : ((p.session ⟨false, true, false⟩ (Table.get? values) Rehearsal.confirm).run
      (Site.ofDisk default)).1.toOption.any (fun s =>
        s.specs.any (fun spec => specName? spec == some "create_branch") &&
          !Table.contains s.tools "create_branch") = true := by
    decide +kernel
  rcases hs : (p.session ⟨false, true, false⟩ (Table.get? values) Rehearsal.confirm).run
    (Site.ofDisk default) with ⟨f | s, site'⟩
  · rw [hs] at htold
    cases htold
  · rw [hs] at htold
    obtain ⟨hspec, htool⟩ := Bool.and_eq_true_iff.mp htold
    obtain ⟨spec, hmem, hname⟩ := List.any_eq_true.mp hspec
    exact ⟨s, site', rfl, spec, hmem, beq_iff_eq.mp hname, by simpa using htool⟩

end Project

end AgentWorkflow
