/-
What the sessions of projects are made of.

* `Channels.exists_service_of_mem`, `Project.exists_gitHub_of_forge` — the channels and the host of
  a project are services.
* `Tool.madeOf_tool?` — the tools of its catalog are about files, or about that host.
* `Session.Serviced` — what the collaborators of a session do, the user apart, is done on the wire,
  and what its tools do there or with files.
* `Project.serviced_session` — so it is of the session of a project.

Design notes: how a project comes by its session is one thing (`Project.Makes`) and what the parts
of the session do is another.  Here the second is said of all of them at once, so that it need not
be asked again which services there are.
-/
import AgentWorkflow.Proofs.ManifestTools
import AgentWorkflow.Proofs.SiteParts

namespace AgentWorkflow

open Deed (OnFiles OnWire)

/-- What the collaborators of a session do, the user apart, is done on the wire, and what its tools
do is done there or with files. -/
structure Session.Serviced (s : Session) : Prop where
  complete : ∀ r, MadeOf (OnWire fun _ => True) (s.complete r).run
  send : ∀ c ∈ s.channels, ∀ message, MadeOf (OnWire fun _ => True) (c.send message).run
  openIssues : ∀ host, s.forge = some host →
    MadeOf (OnWire fun _ => True) host.openIssues.run
  openPullRequests : ∀ host, s.forge = some host →
    MadeOf (OnWire fun _ => True) host.openPullRequests.run
  tools : ∀ name tool, Table.get? s.tools name = some tool → ∀ x,
    MadeOf (OnFiles True) (tool x).run ∨ MadeOf (OnWire fun _ => True) (tool x).run

/-! ### Channels, hosts and tools -/

namespace Channels

/-- The channels of services are those that the services make. -/
theorem exists_service_of_mem {value? : String → Option String} {services : List Service}
    {site : Site} {c : Channel} (h : c ∈ (ofServices value? services site).1) :
    ∃ s ∈ services, ∃ token place, c = s.channel s.address token place := by
  induction services generalizing site with
  | nil => cases h
  | cons s rest ih =>
    have hrest : ∀ site, c ∈ (ofServices value? rest site).1 →
        ∃ s' ∈ s :: rest, ∃ token place, c = s'.channel s'.address token place := by
      intro site hmem
      obtain ⟨s', hs', hc⟩ := ih hmem
      exact ⟨s', List.mem_cons_of_mem _ hs', hc⟩
    unfold ofServices at h
    rcases htoken : value? s.token with _ | token
    · -- A service without its variables is noted, and the others follow.
      rw [htoken] at h
      exact hrest _ h
    · rcases hplace : value? s.place with _ | place
      · rw [htoken, hplace] at h
        exact hrest _ h
      · rw [htoken, hplace] at h
        rcases List.mem_cons.mp h with rfl | hmem
        · exact ⟨s, List.mem_cons_self, token, place, rfl⟩
        · exact hrest _ hmem

/-- The channels that variables make are services. -/
theorem madeOf_of_mem_ofVariables {value? : String → Option String} {site : Site} {c : Channel}
    (h : c ∈ (ofVariables value? site).1) (message : String) :
    MadeOf (OnWire fun _ => True) (c.send message).run := by
  obtain ⟨s, hs, token, place, rfl⟩ := exists_service_of_mem h
  unfold services at hs
  simp only [List.mem_cons, List.not_mem_nil, or_false] at hs
  rcases hs with rfl | rfl
  · exact madeOf_slack _ _ _ _
  · exact madeOf_discord _ _ _ _

end Channels

/-- The tool of an entry is about files, or about a host that is a service. -/
theorem Tool.madeOf_tool? {settings : Settings} {forge : Option Forge}
    (hhost : ∀ host, forge = some host → ∃ g : GitHub, host = g.toForge) {e : Entry} {t : Tool}
    (htool : e.tool? settings forge = some t) (x : Table Json) :
    MadeOf (OnFiles True) (t x).run ∨ MadeOf (OnWire fun _ => True) (t x).run := by
  unfold Entry.tool? entryTool at htool
  rcases hprovider : e.provider with _ | _
  · rw [hprovider] at htool
    exact .inl (madeOf_builtinTool? htool)
  · rw [hprovider] at htool
    rcases forge with _ | host
    · cases htool
    · obtain ⟨g, rfl⟩ := hhost host rfl
      exact .inr (g.madeOf_hostingTool? htool)

/-! ### Sessions -/

namespace Project

/-- The host of a project is a service. -/
theorem exists_gitHub_of_forge {repository : Option String} {token : String}
    {site : Site} {host : Forge} (h : (Project.forge repository token site).1 = some host) :
    ∃ g : GitHub, host = g.toForge := by
  unfold Project.forge at h
  rcases repository with _ | repository
  · cases h
  · dsimp only at h
    rcases hname : GitHub.ofName GitHub.standardAddress repository token GitHub.standardRetry
      with f | g
    · rw [hname] at h
      cases h
    · rw [hname] at h
      exact ⟨g, (Option.some.inj h).symm⟩

/-- The session of a project has services, and its tools are those of a catalog and of manifests. -/
theorem serviced_session {p : Project} {flags : Flags} {value? : String → Option String}
    {confirm : String → Table Json → Deed Bool} {site site' : Site} {s : Session}
    (h : (p.session flags value? confirm).run site = (.ok s, site')) : s.Serviced := by
  have hmakes := session_makes h
  obtain ⟨token, hforge⟩ := hmakes.forge
  obtain ⟨endpoint, hcomplete⟩ := hmakes.complete
  obtain ⟨site₁, hchannels⟩ := hmakes.channels
  have hhost : ∀ host, s.forge = some host → ∃ g : GitHub, host = g.toForge := fun host hhost =>
    exists_gitHub_of_forge (hforge.symm.trans hhost)
  refine ⟨fun r => ?_, fun c hc => ?_, fun host h => ?_, fun host h => ?_,
    fun name tool hget x => ?_⟩
  · rw [hcomplete]
    exact Completion.madeOf_persistent (Completion.madeOf_complete _ r)
  · rw [hchannels] at hc
    exact Channels.madeOf_of_mem_ofVariables hc
  · obtain ⟨g, rfl⟩ := hhost host h
    exact g.madeOf_openIssues
  · obtain ⟨g, rfl⟩ := hhost host h
    exact g.madeOf_openPullRequests
  · obtain ⟨kit, site₂, site₃, hkit, -, htools, -⟩ := hmakes.kit
    obtain ⟨entries, specs, -, -, rfl⟩ := kit_eq_ok hkit
    -- A tool of the name is that of the last manifest, or else of an entry of the catalog.
    rw [htools, Tool.Kit.get?_puts, Option.or_eq_some_iff, Tool.get?_build] at hget
    rcases hget with hmanifest | ⟨-, hentry⟩
    · obtain ⟨m, -, rfl⟩ := Option.map_eq_some_iff.mp hmanifest
      exact .inl (Tool.madeOf_ofManifest _ _ m)
    · obtain ⟨⟨e, t⟩, hsupply, rfl⟩ := Option.map_eq_some_iff.mp hentry
      obtain ⟨-, -, htool⟩ := Tool.mem_of_supply? hsupply
      exact Tool.madeOf_tool? hhost htool x

end Project

end AgentWorkflow
