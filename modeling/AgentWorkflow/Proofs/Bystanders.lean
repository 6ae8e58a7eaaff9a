/-
Collaborators that leave the files and the host alone.

* `Site.SameRepository` — the files, and what was made on the host, are the same.
* `Session.Bystanders` — so it is of what a session asks the model, the user and the channels,
  and of what it reads from the host.
* `Deed.goes_sameRepository` — what is done on the wire leaves them alone.
* `Project.bystanders_session` — the session of a project has such collaborators.

Design notes: the services reach the world on the wire alone, and between two attempts they
take notes and wait.  Tools are not among them: what a session does with those is a matter of
the tools.
-/
import AgentWorkflow.Console
import AgentWorkflow.Proofs.ProjectParts

namespace AgentWorkflow

open Deed (OnWire)

variable {α : Type}

namespace Site

/-- The files, and what was made on the host, are the same. -/
def SameRepository (a b : Site) : Prop := b.disk = a.disk ∧ b.ledger = a.ledger

instance : Std.Refl SameRepository := ⟨fun _ => ⟨rfl, rfl⟩⟩

instance : IsTrans Site SameRepository :=
  ⟨fun _ _ _ h h' => ⟨h'.1.trans h.1, h'.2.trans h.2⟩⟩

end Site

/-- What is asked of the other collaborators of a session, and of a host its lists, leaves the
files and the host alone. -/
structure Session.Bystanders (s : Session) : Prop where
  complete : ∀ r, Goes Site.SameRepository (s.complete r).run
  confirm : ∀ name x, Goes Site.SameRepository (s.confirm name x)
  send : ∀ c ∈ s.channels, ∀ message, Goes Site.SameRepository (c.send message).run
  openIssues : ∀ forge, s.forge = some forge → Goes Site.SameRepository forge.openIssues.run
  openPullRequests : ∀ forge, s.forge = some forge →
    Goes Site.SameRepository forge.openPullRequests.run

/-- Without channels and without a host, nobody else is asked than the model and the user. -/
theorem Session.bystanders_of_alone {s : Session} (hchannels : s.channels = [])
    (hforge : s.forge = none) (hcomplete : ∀ r, Goes Site.SameRepository (s.complete r).run)
    (hconfirm : ∀ name x, Goes Site.SameRepository (s.confirm name x)) : s.Bystanders where
  complete := hcomplete
  confirm := hconfirm
  send c hc := by
    rw [hchannels] at hc
    cases hc
  openIssues forge h := by
    rw [hforge] at h
    cases h
  openPullRequests forge h := by
    rw [hforge] at h
    cases h

/-! ### Prepared collaborators -/

theorem Rehearsal.sameRepository_complete (r : Request) :
    Goes Site.SameRepository (complete r).run := by
  rintro ⟨disk, ledger, ⟨replies, answers, requests⟩, wire, console, notes, pauses⟩
  rcases replies with _ | ⟨_ | _, rest⟩
  · exact ⟨rfl, rfl⟩
  · exact ⟨rfl, rfl⟩
  · exact ⟨rfl, rfl⟩

theorem Rehearsal.sameRepository_confirm (name : String) (x : Table Json) :
    Goes Site.SameRepository (confirm name x) := by
  rintro ⟨disk, ledger, ⟨replies, answers, requests⟩, wire, console, notes, pauses⟩
  rcases answers with _ | ⟨answer, _ | ⟨next, rest⟩⟩
  · exact ⟨rfl, rfl⟩
  · exact ⟨rfl, rfl⟩
  · exact ⟨rfl, rfl⟩

/-! ### Services -/

theorem Http.sameRepository_send (c : Call) : Goes Site.SameRepository (send c) := by
  refine Goes.get_bind fun site => ?_
  rcases c.reading site.wire.address with _ | _ | r
  · exact ⟨rfl, rfl⟩
  · exact ⟨rfl, rfl⟩
  · dsimp only
    rcases site.wire.exchange r with ⟨_ | _, wire⟩
    · exact ⟨rfl, rfl⟩
    · exact ⟨rfl, rfl⟩

/-- Whatever is done on the wire, the files and the host stay as they are. -/
theorem Deed.goes_sameRepository {calls : Http.Call → Prop} {d : Deed α}
    (h : MadeOf (OnWire calls) d) : Goes Site.SameRepository d :=
  h.goes fun _ _ hpart => hpart.goes (fun _ _ => ⟨rfl, rfl⟩) (fun _ _ => ⟨rfl, rfl⟩)
    fun c _ => Http.sameRepository_send c

/-! ### Sessions -/

theorem Console.sameRepository_confirm (tool : String) (x : Table Json) :
    Goes Site.SameRepository (confirm tool x) := by
  have hpass : ∀ u, Goes Site.SameRepository (pass u) := fun _ _ => ⟨rfl, rfl⟩
  have hread : Goes Site.SameRepository readLine :=
    (hpass _).bind fun _ _ => ⟨rfl, rfl⟩
  refine (hpass _).bind fun _ => hread.bind fun answer => ?_
  rcases answer with _ | answer
  · exact Goes.pure _
  · exact Goes.pure _

/-- The session of a project has collaborators that leave the files and the host alone, if the
user's answers do. -/
theorem Project.bystanders_session {p : Project} {flags : Flags}
    {value? : String → Option String} {confirm : String → Table Json → Deed Bool}
    {site site' : Site} {s : Session}
    (h : (p.session flags value? confirm).run site = (.ok s, site'))
    (hconfirm : ∀ name x, Goes Site.SameRepository (confirm name x)) : s.Bystanders := by
  have hs := serviced_session h
  refine ⟨fun r => ?_, fun name x => ?_, fun c hc message => ?_, fun host hhost => ?_,
    fun host hhost => ?_⟩
  · exact Deed.goes_sameRepository (hs.complete r)
  · rw [(session_makes h).confirm]
    exact hconfirm name x
  · exact Deed.goes_sameRepository (hs.send c hc message)
  · exact Deed.goes_sameRepository (hs.openIssues host hhost)
  · exact Deed.goes_sameRepository (hs.openPullRequests host hhost)

end AgentWorkflow
