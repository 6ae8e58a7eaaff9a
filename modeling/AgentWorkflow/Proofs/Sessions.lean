/-
How the session of a project comes about.

* `Project.Makes` — what the session is made of.
* `Project.session_makes` — a session that a project answers is made so.

Design notes: the parts of a session are found one after the other, and each may fail.  What is
found depends on the files, so it is said at which site each part was looked for, as far as
that matters later on.
-/
import AgentWorkflow.Project
import AgentWorkflow.Proofs.Jobs

namespace AgentWorkflow.Project

theorem goes_forge (repository : Option String) (token : String) :
    Goes Site.Noted (forge repository token) := by
  unfold forge
  split
  · exact (Deed.goes_note _).bind fun _ => Goes.pure _
  · split
    · exact Goes.pure _
    · exact (Deed.goes_note _).bind fun _ => Goes.pure _

/-- What the session of a project is made of.  The tools are put together from the files that
were there at first. -/
structure Makes (p : Project) (flags : Flags) (value? : String → Option String)
    (confirm : String → Table Json → Deed Bool) (site : Site) (s : Session) : Prop where
  flags : s.flags = flags
  roadmapPath : s.roadmapPath = p.roadmapPath
  forge : ∃ token, s.forge = (Project.forge (value? repositoryVariable) token site).1
  kit : ∃ kit site₁ site₂, (p.kit s.forge).run site₁ = (.ok kit, site₂) ∧
    site₁.disk = site.disk ∧ s.tools = kit.tools ∧ s.specs = kit.specs ∧ s.policy = kit.policy
  channels : ∃ site₁, s.channels = (Channels.ofVariables value? site₁).1
  complete : ∃ endpoint, s.complete =
    Completion.persistent p.config.retry.atLeastOnce (Completion.complete endpoint)
  confirm : s.confirm = confirm

theorem session_makes {p : Project} {flags : Flags} {value? : String → Option String}
    {confirm : String → Table Json → Deed Bool} {site site' : Site} {s : Session}
    (h : (p.session flags value? confirm).run site = (.ok s, site')) :
    p.Makes flags value? confirm site s := by
  unfold session at h
  split at h
  · cases h
  · obtain ⟨disk, site₁, hdisk, h₁⟩ := Job.eq_ok_of_bind h
    obtain ⟨rfl, rfl⟩ := Job.eq_ok_of_disk hdisk
    obtain ⟨prompt, site₂, hprompt, h₂⟩ := Job.eq_ok_of_bind h₁
    obtain ⟨-, rfl⟩ := Job.eq_ok_of_ofOutcome hprompt
    obtain ⟨host, site₃, hhost, h₃⟩ := Job.eq_ok_of_bind h₂
    obtain ⟨rfl, rfl⟩ := Job.eq_ok_of_lift hhost
    obtain ⟨kit, site₄, hkit, h₄⟩ := Job.eq_ok_of_bind h₃
    obtain ⟨disk', site₅, -, h₅⟩ := Job.eq_ok_of_bind h₄
    obtain ⟨texts, site₆, -, h₆⟩ := Job.eq_ok_of_bind h₅
    obtain ⟨channels, site₇, hchannels, h₇⟩ := Job.eq_ok_of_bind h₆
    obtain ⟨rfl, -⟩ := Job.eq_ok_of_lift hchannels
    cases h₇
    exact {
      flags := rfl
      roadmapPath := rfl
      forge := ⟨_, rfl⟩
      kit := ⟨kit, _, _, hkit, (goes_forge _ _ _).disk_eq, rfl, rfl, rfl⟩
      channels := ⟨_, rfl⟩
      complete := ⟨_, rfl⟩
      confirm := rfl }

end AgentWorkflow.Project
