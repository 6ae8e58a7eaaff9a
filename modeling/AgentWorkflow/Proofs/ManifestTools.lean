/-
What manifests make of the tools of a catalog.

* `Tool.Manifest.last?`, `Tool.Manifest.lasts` — the last manifest of a name, and the manifests
  that are the last ones of their names.
* `Tool.Kit.get?_puts`, `Tool.Kit.specs_puts`, `Tool.Kit.isModifying_puts` — the tools, the
  specifications and the policy after any number of manifests.
* `Tool.Kit.shadowing`, `Tool.Kit.run_addAll` — the manifests that take the place of a tool, and
  the notes that are taken of them.
* `Project.kit_assembles` — so it is of the tools of a project.

Design notes: a manifest takes the place of earlier ones of its name in the tools and in the
specifications, where it moves to the end; so what is left is told by the last manifest of each
name.  A policy is not taken back, and there all manifests count.
-/
import AgentWorkflow.Proofs.ToolAssembly
import Mathlib.Data.List.Infix

namespace AgentWorkflow

/-! ### Policies -/

namespace Table

variable {α : Type}

theorem mem_keys_insert {t : Table α} {key name : String} {value : α} :
    name ∈ keys (insert t key value) ↔ name = key ∨ name ∈ keys t := by
  rw [mem_keys_iff, mem_keys_iff]
  by_cases h : name = key
  · simp [get?_insert, h]
  · simp [get?_insert, h]

theorem mem_keys_overlay {entries : List (String × α)} {t : Table α} {name : String} :
    name ∈ keys (overlay t entries) ↔ name ∈ entries.map Prod.fst ∨ name ∈ keys t := by
  induction entries generalizing t with
  | nil => simp [overlay]
  | cons entry rest ih =>
    rw [show overlay t (entry :: rest) = overlay (insert t entry.1 entry.2) rest from rfl, ih,
      mem_keys_insert, List.map_cons, List.mem_cons]
    tauto

end Table

namespace Tool

theorem Policy.isModifying_ofNames (names : List String) (name : String) :
    (ofNames names).isModifying name = true ↔ name ∈ names := by
  have hkeys : (ofNames names).modifying =
      Table.keys (Table.overlay [] (names.map fun n => (n, ()))) := rfl
  rw [isModifying, List.contains_iff_mem, hkeys, Table.mem_keys_overlay]
  simp [Table.keys]

/-- A policy with one more tool lists that tool and what it listed before. -/
theorem Policy.isModifying_add (policy : Policy) (added name : String) :
    (policy.add added).isModifying name = true ↔
      policy.isModifying name = true ∨ added = name := by
  rw [add, isModifying_ofNames, List.mem_append, List.mem_singleton, isModifying,
    List.contains_iff_mem, eq_comm (a := name)]

/-! ### The last manifests -/

namespace Manifest

/-- The last manifest of a name. -/
def last? (name : String) (manifests : List Manifest) : Option Manifest :=
  (manifests.filter fun m => m.name == name).getLast?

/-- The manifests that no later one has the name of, in their order. -/
def lasts : List Manifest → List Manifest
  | [] => []
  | m :: rest => if rest.any fun later => later.name == m.name then lasts rest else m :: lasts rest

theorem lasts_cons (m : Manifest) (rest : List Manifest) :
    lasts (m :: rest) =
      if rest.any fun later => later.name == m.name then lasts rest else m :: lasts rest := rfl

theorem mem_of_mem_lasts {m : Manifest} {manifests : List Manifest} (h : m ∈ lasts manifests) :
    m ∈ manifests := by
  induction manifests with
  | nil => exact h
  | cons first rest ih =>
    rw [lasts_cons] at h
    split at h
    · exact List.mem_cons_of_mem _ (ih h)
    · rcases List.mem_cons.mp h with rfl | hrest
      · exact List.mem_cons_self
      · exact List.mem_cons_of_mem _ (ih hrest)

theorem mem_of_last? {name : String} {manifests : List Manifest} {m : Manifest}
    (h : last? name manifests = some m) : m ∈ manifests ∧ m.name = name := by
  have hmem := List.mem_filter.mp (List.mem_of_getLast? h)
  exact ⟨hmem.1, beq_iff_eq.mp hmem.2⟩

theorem last?_cons (name : String) (m : Manifest) (rest : List Manifest) :
    last? name (m :: rest) = (last? name rest).or (if m.name = name then some m else none) := by
  unfold last?
  rw [List.filter_cons]
  by_cases hname : m.name = name
  · rw [if_pos (beq_iff_eq.mpr hname), if_pos hname, List.getLast?_cons]
    generalize (rest.filter fun m => m.name == name).getLast? = later
    cases later <;> rfl
  · rw [if_neg (by simpa using hname), if_neg hname, Option.or_none]

theorem last?_eq_none_iff {name : String} {manifests : List Manifest} :
    last? name manifests = none ↔ ∀ m ∈ manifests, m.name ≠ name := by
  unfold last?
  rw [List.getLast?_eq_none_iff, List.filter_eq_nil_iff]
  simp

/-- Of each name there is just the last manifest among the last ones. -/
theorem filter_lasts (name : String) (manifests : List Manifest) :
    (lasts manifests).filter (fun m => m.name == name) = (last? name manifests).toList := by
  induction manifests with
  | nil => rfl
  | cons m rest ih =>
    rw [lasts_cons, last?_cons]
    by_cases hname : m.name = name
    · by_cases hlater : rest.any (fun later => later.name == m.name) = true
      · -- A later manifest of the name is there, so the last one of the rest is the last one.
        have hsome : last? name rest ≠ none := by
          intro hnone
          obtain ⟨later, hmem, heq⟩ := List.any_eq_true.mp hlater
          exact last?_eq_none_iff.mp hnone later hmem ((beq_iff_eq.mp heq).trans hname)
        obtain ⟨last, hlast⟩ := Option.ne_none_iff_exists'.mp hsome
        rw [if_pos hlater, ih, hlast]
        rfl
      · have hnone : last? name rest = none := by
          refine last?_eq_none_iff.mpr fun later hmem heq => hlater ?_
          exact List.any_eq_true.mpr ⟨later, hmem, beq_iff_eq.mpr (heq.trans hname.symm)⟩
        rw [if_neg hlater, List.filter_cons, if_pos (beq_iff_eq.mpr hname), ih, hnone,
          if_pos hname]
        rfl
    · rw [if_neg hname, Option.or_none, ← ih]
      split
      · rfl
      · rw [List.filter_cons, if_neg (by simpa using hname)]

end Manifest

/-! ### What is put together -/

namespace Kit

open Manifest (last? lasts)

/-- The tool of a manifest. -/
def toolOf (settings : Settings) (m : Manifest) : Tool :=
  ofManifest settings.root settings.limits m

/-- A specification has the name of one of the manifests. -/
def isReplaced (manifests : List Manifest) (spec : Json) : Bool :=
  manifests.any fun m => specName? spec == some m.name

variable {settings : Settings} {manifests : List Manifest}

theorem get?_puts (kit : Kit) (name : String) :
    Table.get? (manifests.foldl (put settings) kit).tools name =
      ((last? name manifests).map (toolOf settings)).or (Table.get? kit.tools name) := by
  induction manifests generalizing kit with
  | nil => rfl
  | cons m rest ih =>
    rw [List.foldl_cons, ih, Manifest.last?_cons, Option.map_or, Option.or_assoc]
    have hput : Table.get? (put settings kit m).tools name =
        if name = m.name then some (toolOf settings m) else Table.get? kit.tools name :=
      Table.get?_insert ..
    rw [hput]
    by_cases hname : name = m.name
    · rw [if_pos hname, if_pos hname.symm]
      rfl
    · rw [if_neg hname, if_neg (Ne.symm hname)]
      rfl

/-- The specifications of other names stay; those of the last manifests come after them. -/
theorem specs_puts (kit : Kit) (hnames : ∀ m ∈ manifests, specName? m.spec = some m.name) :
    (manifests.foldl (put settings) kit).specs =
      (kit.specs.filter fun spec => !isReplaced manifests spec) ++
        (lasts manifests).map Manifest.spec := by
  induction manifests generalizing kit with
  | nil => simp [isReplaced, lasts]
  | cons m rest ih =>
    obtain ⟨hname, hrest⟩ := List.forall_mem_cons.mp hnames
    have hput : (put settings kit m).specs =
        (kit.specs.filter fun spec => specName? spec != some m.name) ++ [m.spec] := rfl
    have hfilter : (kit.specs.filter fun spec => specName? spec != some m.name).filter
        (fun spec => !isReplaced rest spec) =
          kit.specs.filter fun spec => !isReplaced (m :: rest) spec := by
      rw [List.filter_filter]
      refine List.filter_congr fun spec _ => ?_
      simp [isReplaced, bne, Bool.and_comm]
    have hspec : isReplaced rest m.spec = rest.any fun later => later.name == m.name := by
      unfold isReplaced
      rw [hname]
      exact congrArg rest.any (funext fun later => by simp [eq_comm])
    rw [List.foldl_cons, ih _ hrest, hput, List.filter_append, hfilter, List.append_assoc,
      List.filter_singleton, hspec]
    rw [Manifest.lasts_cons]
    rcases rest.any fun later => later.name == m.name with _ | _
    · rfl
    · rfl

/-- Of the specifications that are left, that of the last manifest alone has its name. -/
theorem filter_specs_puts (kit : Kit) (hnames : ∀ m ∈ manifests, specName? m.spec = some m.name)
    {name : String} {m : Manifest} (hlast : last? name manifests = some m) :
    (manifests.foldl (put settings) kit).specs.filter (fun spec => specName? spec == some name) =
      [m.spec] := by
  have hold : (kit.specs.filter fun spec => !isReplaced manifests spec).filter
      (fun spec => specName? spec == some name) = [] := by
    rw [List.filter_filter, List.filter_eq_nil_iff]
    intro spec _ hboth
    obtain ⟨hname, hkept⟩ := Bool.and_eq_true_iff.mp hboth
    obtain ⟨hmem, rfl⟩ := Manifest.mem_of_last? hlast
    rw [isReplaced, List.any_eq_true.mpr ⟨m, hmem, hname⟩] at hkept
    cases hkept
  have hnew : ((lasts manifests).map Manifest.spec).filter
      (fun spec => specName? spec == some name) = [m.spec] := by
    have hsame : (lasts manifests).filter (fun m => specName? m.spec == some name) =
        (lasts manifests).filter fun m => m.name == name := by
      refine List.filter_congr fun other hother => ?_
      rw [hnames other (Manifest.mem_of_mem_lasts hother), Option.some_beq_some]
    rw [List.filter_map, Function.comp_def, hsame, Manifest.filter_lasts, hlast]
    rfl
  rw [specs_puts kit hnames, List.filter_append, hold, hnew]
  rfl

/-- A policy lists what it listed before, and what any manifest says of its tool. -/
theorem isModifying_puts (kit : Kit) (name : String) :
    (manifests.foldl (put settings) kit).policy.isModifying name = true ↔
      kit.policy.isModifying name = true ∨
        ∃ m ∈ manifests, m.modifying = true ∧ m.name = name := by
  induction manifests generalizing kit with
  | nil => simp
  | cons m rest ih =>
    have hput : (put settings kit m).policy.isModifying name = true ↔
        kit.policy.isModifying name = true ∨ (m.modifying = true ∧ m.name = name) := by
      unfold put
      by_cases hm : m.modifying = true
      · simp [hm, Policy.isModifying_add]
      · simp [hm]
    rw [List.foldl_cons, ih, hput, List.exists_mem_cons_iff, or_assoc]

/-! ### Notes -/

/-- The note that a manifest takes the place of a tool. -/
def shadowNote (m : Manifest) : Note :=
  .warning "plugin tool shadows a registered tool" [("tool", m.name)]

/-- The manifests, each with those before it, whose name is that of a tool or of a manifest
before them. -/
def shadowing (tools : Table Tool) (manifests : List Manifest) : List Manifest :=
  ((manifests.zip manifests.inits).filter fun p =>
    Table.contains tools p.1.name || p.2.any fun earlier => earlier.name == p.1.name).map Prod.fst

theorem run_add (settings : Settings) (kit : Kit) (m : Manifest) (site : Site) :
    add settings kit m site = (put settings kit m,
      site.noting (if Table.contains kit.tools m.name then [shadowNote m] else [])) := by
  unfold add
  rcases hcontains : Table.contains kit.tools m.name with _ | _
  · exact congrArg (Prod.mk _) (Site.noting_nil site).symm
  · rfl

theorem contains_put (settings : Settings) (kit : Kit) (m : Manifest) (name : String) :
    Table.contains (put settings kit m).tools name =
      (Table.contains kit.tools name || m.name == name) := by
  have hput : Table.get? (put settings kit m).tools name =
      if name = m.name then some (toolOf settings m) else Table.get? kit.tools name :=
    Table.get?_insert ..
  unfold Table.contains
  rw [hput]
  by_cases hname : name = m.name
  · simp [hname]
  · simp [hname, Ne.symm hname]

theorem shadowing_cons (settings : Settings) (kit : Kit) (m : Manifest) (rest : List Manifest) :
    shadowing kit.tools (m :: rest) =
      (if Table.contains kit.tools m.name then [m] else []) ++
        shadowing (put settings kit m).tools rest := by
  unfold shadowing
  rw [List.inits_cons, List.zip_cons_cons, List.filter_cons, List.zip_map_right, List.filter_map]
  -- For a later manifest, the first one counts among those before it or among the tools.
  have hlater : (fun p : Manifest × List Manifest => Table.contains kit.tools p.1.name ||
        p.2.any fun earlier => earlier.name == p.1.name) ∘ Prod.map id (List.cons m) =
      fun p => Table.contains (put settings kit m).tools p.1.name ||
        p.2.any fun earlier => earlier.name == p.1.name := by
    funext p
    rw [contains_put, Bool.or_assoc]
    rfl
  rw [hlater, List.any_nil, Bool.or_false]
  split
  · rw [List.map_cons, List.map_map]
    rfl
  · rw [List.map_map]
    rfl

/-- Manifests are put among the tools one after the other, and of each that takes the place of
a tool a note is taken. -/
theorem run_addAll (settings : Settings) (kit : Kit) (manifests : List Manifest) (site : Site) :
    addAll settings kit manifests site = (manifests.foldl (put settings) kit,
      site.noting ((shadowing kit.tools manifests).map shadowNote)) := by
  induction manifests generalizing kit site with
  | nil => exact congrArg (Prod.mk _) (Site.noting_nil site).symm
  | cons m rest ih =>
    have hfirst : addAll settings kit (m :: rest) site =
        addAll settings (add settings kit m site).1 rest (add settings kit m site).2 := rfl
    rw [hfirst, run_add, ih, Site.noting_noting, shadowing_cons settings, List.map_append]
    rcases Table.contains kit.tools m.name with _ | _
    · rfl
    · rfl

/-- What manifests make of a kit. -/
structure Assembles (settings : Settings) (base : Kit) (manifests : List Manifest)
    (kit : Kit) : Prop where
  /-- Under a name stands the tool of the last manifest of that name, if there is one, and else
  the tool that stood there. -/
  tools : ∀ name, Table.get? kit.tools name =
    match last? name manifests with
    | some m => some (ofManifest settings.root settings.limits m)
    | none => Table.get? base.tools name
  /-- The specifications of other names stay as they are and in order, and after them come those
  of the manifests, in the order of the last manifests of each name. -/
  specs : kit.specs = (base.specs.filter fun spec => !isReplaced manifests spec) ++
    (lasts manifests).map Manifest.spec
  advertised : ∀ name m, last? name manifests = some m →
    kit.specs.filter (fun spec => specName? spec == some name) = [m.spec]
  policy : ∀ name, kit.policy.isModifying name = true ↔
    base.policy.isModifying name = true ∨ ∃ m ∈ manifests, m.modifying = true ∧ m.name = name

theorem assembles_puts (settings : Settings) (base : Kit) {manifests : List Manifest}
    (hnames : ∀ m ∈ manifests, specName? m.spec = some m.name) :
    Assembles settings base manifests (manifests.foldl (put settings) base) where
  tools name := by
    rw [get?_puts]
    rcases last? name manifests with _ | m
    · rfl
    · rfl
  specs := specs_puts base hnames
  advertised _ _ hlast := filter_specs_puts base hnames hlast
  policy := isModifying_puts base

end Kit

end Tool

/-! ### Other notes -/

namespace Site

/-- The second site is the first one with more notes, and none of them reads like this. -/
def NotedBut (message : String) (a b : Site) : Prop :=
  ∃ notes, (∀ n ∈ notes, n.message ≠ message) ∧ b = a.noting notes

variable {message : String}

instance : Std.Refl (NotedBut message) :=
  ⟨fun a => ⟨[], List.forall_mem_nil _, a.noting_nil.symm⟩⟩

instance : IsTrans Site (NotedBut message) where
  trans := by
    rintro a _ _ ⟨notes, hnotes, rfl⟩ ⟨more, hmore, rfl⟩
    exact ⟨notes ++ more, List.forall_mem_append.mpr ⟨hnotes, hmore⟩, a.noting_noting notes more⟩

end Site

theorem Deed.notedBut_note {message : String} {n : Note} (h : n.message ≠ message) :
    Goes (Site.NotedBut message) (note n) :=
  fun _ => ⟨[n], List.forall_mem_singleton.mpr h, rfl⟩

namespace Tool

theorem notedBut_addEntries {message : String}
    (h : "unknown tool implementation, skipping" ≠ message) (settings : Settings)
    (forge : Option Forge) (tools : Table Tool) (entries : List Entry) :
    Goes (Site.NotedBut message) (addEntries settings forge tools entries) := by
  induction entries generalizing tools with
  | nil => exact Goes.pure _
  | cons e rest ih =>
    unfold addEntries
    split
    · exact ih _
    · exact ih _
    · exact (Deed.notedBut_note h).bind fun _ => ih _

theorem notedBut_loadManifests {message : String} (h : "failed to load plugin tool" ≠ message)
    (disk : Disk) (paths : List String) :
    Goes (Site.NotedBut message) (loadManifests disk paths) := by
  induction paths with
  | nil => exact Goes.pure _
  | cons path rest ih =>
    unfold loadManifests
    split
    · exact ih.bind fun _ => Goes.pure _
    · exact (Deed.notedBut_note h).bind fun _ => ih

end Tool

namespace Project

open Tool (Kit)

/-- The tools of a project, when its catalog and its specifications can be read: the manifests
that can be used, in the order of their names, make the kit of the tools of the catalog, the
specifications and the policy.  The notes that a tool is shadowed are one for each manifest
whose name was already that of a tool, in order. -/
theorem kit_assembles {p : Project} {forge : Option Forge} {site : Site}
    {entries : List Tool.Entry} {specs : List Json}
    (hentries :
      Tool.entriesOrStandard site.disk (p.config.toolRegistryPath.map p.path) = .ok entries)
    (hspecs : Tool.specsOrStandard site.disk (p.config.toolSpecsPath.map p.path) = .ok specs) :
    let base : Kit := ⟨(Tool.build p.settings forge entries site).1, specs, p.policy⟩
    let manifests := p.manifests site.disk
    ∃ kit notes,
      (p.kit forge).run site = (.ok kit, site.noting
        (notes ++ (Kit.shadowing base.tools manifests).map Kit.shadowNote)) ∧
      (∀ n ∈ notes, n.message ≠ "plugin tool shadows a registered tool") ∧
      Kit.Assembles p.settings base manifests kit := by
  intro base manifests
  let built := Tool.build p.settings forge entries site
  let scanned := Tool.scan (p.path p.config.pluginsDirectory) built.2
  let added := Kit.addAll p.settings base scanned.1 scanned.2
  have hrun : (p.kit forge).run site = (.ok added.1, added.2) := by
    show (Job.ofOutcome (Tool.entriesOrStandard site.disk _) >>= _ : Job Kit).run site = _
    rw [hentries]
    show (Job.ofOutcome (Tool.specsOrStandard site.disk _) >>= _ : Job Kit).run site = _
    rw [hspecs]
    rfl
  -- Building the tools takes notes, so the manifests are those of the files found at first.
  obtain ⟨notes, hnotes, hbuilt⟩ :
      Site.NotedBut "plugin tool shadows a registered tool" site scanned.2 :=
    trans_of (Site.NotedBut _) (Tool.notedBut_addEntries (by decide) _ _ _ _ site)
      (Tool.notedBut_loadManifests (by decide) _ _ _)
  have hdisk : built.2.disk = site.disk :=
    (Tool.goes_addEntries p.settings forge [] entries site).disk_eq
  have hmanifests : scanned.1 = manifests := by
    rw [show scanned.1 = _ from Tool.scan_eq _ _, hdisk]
    rfl
  have hadded : added = (manifests.foldl (Kit.put p.settings) base,
      site.noting (notes ++ (Kit.shadowing base.tools manifests).map Kit.shadowNote)) := by
    rw [show added = _ from Kit.run_addAll .., hmanifests, hbuilt, Site.noting_noting]
  refine ⟨manifests.foldl (Kit.put p.settings) base, notes, ?_, hnotes,
    Kit.assembles_puts _ _ fun m hm => Tool.specName?_of_mem_manifestsOf hm⟩
  rw [hrun, hadded]

/-- Two manifests of the name of a tool of the catalog, of which the first one modifies the
repository: the tool is that of the second one, and it is still withheld in a dry run. -/
theorem kit_assembles_shadowed :
    let p : Project := ⟨"/", Config.standard⟩
    let spec := Json.object [("function", .object [("name", .text "read_file")])]
    let first := Json.object [("command", .list [.text "true"]), ("modifying", .bool true),
      ("tool", spec)]
    let second := Json.object [("command", .list [.text "cat"]), ("tool", spec)]
    let disk := ((Disk.put default ["plugins"] .directory).put ["plugins", "b.json"]
      (.file (Text.encode second.render))).put ["plugins", "a.json"]
      (.file (Text.encode first.render))
    ∃ kit site' m, (p.kit none).run (Site.ofDisk disk) = (.ok kit, site') ∧
      m.command = ["cat"] ∧
      Table.get? kit.tools "read_file" = some (Tool.ofManifest p.root p.config.limits m) ∧
      kit.specs.filter (fun s => Tool.specName? s == some "read_file") = [m.spec] ∧
      kit.policy.isModifying "read_file" = true ∧
      site'.notes.countP (fun n => n.message == "plugin tool shadows a registered tool") = 2 := by
  intro p spec first second disk
  have hnames : disk.names "/plugins" = .ok ["a.json", "b.json"] := by
    show Except.ok (disk.namesAt ["plugins"]) = _
    rw [Disk.namesAt, List.mergeSort_of_pairwise (by decide +kernel)]
    rfl
  have hpaths : Tool.manifestPaths disk "/plugins" = ["/plugins/a.json", "/plugins/b.json"] := by
    rw [Tool.manifestPaths, hnames]
    decide +kernel
  have hdirectory : p.path p.config.pluginsDirectory = "/plugins" := by decide +kernel
  have hloaded : (p.manifests (Site.ofDisk disk).disk).map
        (fun m => (m.name, m.command, m.modifying)) =
      [("read_file", ["true"], true), ("read_file", ["cat"], false)] := by
    rw [show (Site.ofDisk disk).disk = disk from rfl, manifests, Tool.manifestsOf, hdirectory,
      hpaths]
    decide +kernel
  obtain ⟨m, ms, hmanifests, hm, hms⟩ := List.map_eq_cons_iff.mp hloaded
  obtain ⟨m', ms', rfl, hm', hnil⟩ := List.map_eq_cons_iff.mp hms
  obtain rfl := List.map_eq_nil_iff.mp hnil
  obtain ⟨hname, -, hmodifying⟩ : m.name = "read_file" ∧ m.command = ["true"] ∧
    m.modifying = true := by simpa using hm
  obtain ⟨hname', hcommand', -⟩ : m'.name = "read_file" ∧ m'.command = ["cat"] ∧
    m'.modifying = false := by simpa using hm'
  have hlast : Tool.Manifest.last? "read_file" (p.manifests (Site.ofDisk disk).disk) = some m' := by
    simp [hmanifests, Tool.Manifest.last?, hname, hname']
  obtain ⟨kit, notes, hrun, hnotes, hassembles⟩ :=
    @kit_assembles p none (Site.ofDisk disk) _ _ rfl rfl
  have hcontains : Table.contains
      (Tool.build p.settings none Tool.standardEntries (Site.ofDisk disk)).1 "read_file" = true :=
    by decide +kernel
  have hshadowing : Kit.shadowing
      (Tool.build p.settings none Tool.standardEntries (Site.ofDisk disk)).1 [m, m'] = [m, m'] := by
    simp [Kit.shadowing, hname, hname', hcontains]
  have hother : notes.countP
      (fun n => n.message == "plugin tool shadows a registered tool") = 0 :=
    List.countP_eq_zero.mpr fun n hn heq => hnotes n hn (beq_iff_eq.mp heq)
  refine ⟨kit, _, m', hrun, hcommand', ?_, hassembles.advertised _ _ hlast, ?_, ?_⟩
  · rw [hassembles.tools, hlast]
    rfl
  · refine (hassembles.policy _).mpr (.inr ⟨m, ?_, hmodifying, hname⟩)
    rw [hmanifests]
    exact List.mem_cons_self
  · show List.countP _ ([] ++ _) = 2
    rw [hmanifests, hshadowing, List.nil_append, List.countP_append, hother]
    rfl

end Project

end AgentWorkflow
