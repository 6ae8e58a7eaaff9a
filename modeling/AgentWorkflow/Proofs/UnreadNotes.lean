/-
Notes that nothing reads.

* `World.ApartInNotes`, `Site.ApartInNotes` — worlds and sites that are the same but for the notes
  that were taken.
* `Plugin.IgnoresNotes`, `Session.IgnoresNotes` — a plugin, and what a session asks of others, gives
  one answer in such worlds and leads to such worlds.
* `Session.Acts.agrees` — all that a session does, when it asks others that do so.
* `Registry.ignoresNotes_ofNames` — the plugins that there are do nothing else.
* `Project.ignoresNotes_session` — the session of a project asks such others.

Design notes: that something does not read notes is said of two runs side by side.  Of those who
are asked it is known by what their answers are made of: files, or calls on the wire.
-/
import AgentWorkflow.Console
import AgentWorkflow.Proofs.BuiltinPlugins
import AgentWorkflow.Proofs.ProjectParts

namespace AgentWorkflow

open Deed (OnFiles OnWire)

variable {α : Type}

/-! ### Sites and worlds that differ in their notes -/

namespace Site

/-- Two sites that are the same but for the notes that were taken. -/
def ApartInNotes (a b : Site) : Prop := { a with notes := [] } = { b with notes := [] }

theorem ApartInNotes.exists_notes {a b : Site} (h : a.ApartInNotes b) :
    ∃ notes, b = { a with notes := notes } := by
  obtain ⟨disk, ledger, rehearsal, wire, console, notes, pauses⟩ := b
  cases h
  exact ⟨notes, rfl⟩

end Site

namespace World

/-- Two worlds that are the same but for the notes that were taken. -/
structure ApartInNotes (v w : World) : Prop where
  site : { v.site with notes := [] } = { w.site with notes := [] }
  store : v.store = w.store
  record : v.record = w.record

theorem ApartInNotes.noting {v w : World} (h : v.ApartInNotes w) (notes notes' : List Note)
    (store : Store) : ApartInNotes ⟨v.site.noting notes, store, v.record⟩
      ⟨w.site.noting notes', store, w.record⟩ :=
  ⟨h.site, rfl, h.record⟩

end World

/-- A plugin does not read the notes that were taken. -/
def Plugin.IgnoresNotes (session : Session) (p : Plugin) : Prop :=
  ∀ inputs v w, v.ApartInNotes w →
    ((p session inputs).run v).1 = ((p session inputs).run w).1 ∧
    ((p session inputs).run v).2.ApartInNotes ((p session inputs).run w).2

/-- The plugins of a registry do not read the notes that were taken. -/
def Registry.IgnoresNotes (session : Session) (registry : Registry) : Prop :=
  ∀ type plugin, Table.get? registry type = some plugin → plugin.IgnoresNotes session

/-- The collaborators of a session, and its tools, do not read the notes that were taken. -/
structure Session.IgnoresNotes (s : Session) : Prop where
  complete : ∀ r, Agrees Site.ApartInNotes (s.complete r).run
  confirm : ∀ name x, Agrees Site.ApartInNotes (s.confirm name x)
  send : ∀ c ∈ s.channels, ∀ message, Agrees Site.ApartInNotes (c.send message).run
  openIssues : ∀ host, s.forge = some host → Agrees Site.ApartInNotes host.openIssues.run
  openPullRequests : ∀ host, s.forge = some host →
    Agrees Site.ApartInNotes host.openPullRequests.run
  tools : ∀ name tool, Table.get? s.tools name = some tool → ∀ x,
    Agrees Site.ApartInNotes (tool x).run

/-! ### Files, the wire and the user -/

theorem Deed.OnFiles.agrees {changes : Prop} {d : Deed α} (h : OnFiles changes α d) :
    Agrees Site.ApartInNotes d := by
  intro a b hab
  obtain ⟨notes, rfl⟩ := hab.exists_notes
  cases h with
  | look => exact ⟨rfl, rfl⟩
  | note => exact ⟨rfl, rfl⟩
  | replace => exact ⟨rfl, rfl⟩

theorem Http.agrees_send (c : Call) : Agrees Site.ApartInNotes (send c) := by
  refine Agrees.get_bind fun a b hab => ?_
  obtain ⟨notes, rfl⟩ := hab.exists_notes
  dsimp only
  rcases c.reading a.wire.address with _ | _ | r
  · exact ⟨rfl, rfl⟩
  · exact ⟨rfl, rfl⟩
  · dsimp only
    rcases a.wire.exchange r with ⟨_ | _, wire⟩
    · exact ⟨rfl, rfl⟩
    · exact ⟨rfl, rfl⟩

theorem Http.agrees_isWellFormed (c : Call) : Agrees Site.ApartInNotes (isWellFormed c) := by
  refine Agrees.get_bind fun a b hab => ?_
  obtain ⟨notes, rfl⟩ := hab.exists_notes
  dsimp only
  rcases c.reading a.wire.address with _ | _ | r
  · exact ⟨rfl, rfl⟩
  · exact ⟨rfl, rfl⟩
  · exact ⟨rfl, rfl⟩

theorem Deed.OnWire.agrees {calls : Http.Call → Prop} {d : Deed α} (h : OnWire calls α d) :
    Agrees Site.ApartInNotes d := by
  intro a b hab
  obtain ⟨notes, rfl⟩ := hab.exists_notes
  cases h with
  | send => exact Http.agrees_send _ _ _ hab
  | read => exact Http.agrees_isWellFormed _ _ _ hab
  | note => exact ⟨rfl, rfl⟩
  | pause => exact ⟨rfl, rfl⟩

theorem Console.agrees_confirm (tool : String) (x : Table Json) :
    Agrees Site.ApartInNotes (confirm tool x) := by
  have hpass : ∀ u, Agrees Site.ApartInNotes (pass u) := by
    intro u a b hab
    obtain ⟨notes, rfl⟩ := hab.exists_notes
    exact ⟨rfl, rfl⟩
  have hread : Agrees Site.ApartInNotes readLine := by
    refine (hpass _).bind fun _ => Agrees.get_bind fun a b hab => ?_
    obtain ⟨notes, rfl⟩ := hab.exists_notes
    exact ⟨rfl, rfl⟩
  refine (hpass _).bind fun _ => hread.bind fun answer => ?_
  rcases answer with _ | answer
  · exact Agrees.pure _
  · exact Agrees.pure _

/-! ### Sessions -/

namespace Session

variable {s : Session} {P : Event → Prop} {writes stores : Prop}

theorem Does.agrees (hs : s.IgnoresNotes) {d : Deed α} (h : s.Does writes α d) :
    Agrees Site.ApartInNotes d := by
  cases h with
  | watched h => exact h.agrees
  | completed r => exact hs.complete r
  | confirmed name x => exact hs.confirm name x
  | delivered hchannel message => exact hs.send _ hchannel message
  | listedIssues hforge => exact hs.openIssues _ hforge
  | listedPullRequests hforge => exact hs.openPullRequests _ hforge
  | invoked htool _ x => exact hs.tools _ _ htool x
  | rewrote => exact (Roadmap.madeOf_write _ _).agrees fun _ _ hd => hd.agrees

/-- What is not read at the site is not read in the world. -/
theorem Acts.agrees (hs : s.IgnoresNotes) {m : Step α} (h : s.Acts P writes stores α m) :
    Agrees World.ApartInNotes m := by
  intro v w hvw
  cases h with
  | happened => exact ⟨rfl, hvw.site, hvw.store, congrArg (· ++ [_]) hvw.record⟩
  | did h =>
    have hdeed := h.agrees (R := Site.ApartInNotes) fun _ _ hd => hd.agrees hs
    obtain ⟨hanswer, hsites⟩ := hdeed v.site w.site hvw.site
    exact ⟨hanswer, hsites, hvw.store, hvw.record⟩
  | looked => exact ⟨congrArg Except.ok hvw.store, hvw⟩
  | stored => exact ⟨rfl, hvw.site, rfl, hvw.record⟩

end Session

/-- The plugins that there are do not read notes, under whatever names, if those that a session asks
do not. -/
theorem Registry.ignoresNotes_ofNames {s : Session} (hs : s.IgnoresNotes) (names : Table String) :
    (ofNames names).IgnoresNotes s := by
  intro type plugin hget inputs
  have hparts : MadeOf (s.Acts (fun _ => True) True True) (plugin s inputs).run :=
    madeOf_of_get?_ofNames hget (fun _ => trivial) inputs
  exact hparts.agrees fun _ _ hm => hm.agrees hs

/-- The session of a project asks services that do not read notes, and has tools that do not, if the
user's answers do not depend on them. -/
theorem Project.ignoresNotes_session {p : Project} {flags : Flags}
    {value? : String → Option String} {confirm : String → Table Json → Deed Bool}
    {site site' : Site} {s : Session}
    (h : (p.session flags value? confirm).run site = (.ok s, site'))
    (hconfirm : ∀ name x, Agrees Site.ApartInNotes (confirm name x)) : s.IgnoresNotes := by
  have hs := serviced_session h
  have hwire : ∀ {α : Type} {d : Deed α}, MadeOf (OnWire fun _ => True) d →
      Agrees Site.ApartInNotes d := fun hd => hd.agrees fun _ _ hpart => hpart.agrees
  refine ⟨fun r => ?_, fun name x => ?_, fun c hc message => ?_, fun host hhost => ?_,
    fun host hhost => ?_, fun name tool hget x => ?_⟩
  · exact hwire (hs.complete r)
  · rw [(session_makes h).confirm]
    exact hconfirm name x
  · exact hwire (hs.send c hc message)
  · exact hwire (hs.openIssues host hhost)
  · exact hwire (hs.openPullRequests host hhost)
  · rcases hs.tools name tool hget x with hfiles | hcalls
    · exact hfiles.agrees fun _ _ hpart => hpart.agrees
    · exact hwire hcalls

end AgentWorkflow
