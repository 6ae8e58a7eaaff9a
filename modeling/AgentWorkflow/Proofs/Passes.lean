/-
Which passes of a run are started, and the code that it ends with.

* `RunPlan.siteBefore`, `RunPlan.outcomeAt` — the site just before a pass, and what comes of the
  pass, when passes follow each other without end.
* `RunPlan.StopsAt` — a run that heeds the milestone finds it reached.
* `RunPlan.Ends`, `RunPlan.exists_ends` — how a run ends: the passes are used up, or the milestone
  is reached, or a pass failed.  Every run ends so.
* `RunPlan.Ends.starts_iff` — which passes are started.
* `RunPlan.outcomeAt_scripted` — passes may end with any results and leave any files behind.
* `Program.supervise`, `Program.run_supervised` — a run under a supervisor of its own, and its code.

Design notes: whether a pass is started depends on what the passes before it left behind.  So the
sites are those of passes that are made one after the other whatever comes of them, and a run is a
beginning of these.
-/
import AgentWorkflow.CommandLine.Program
import AgentWorkflow.Proofs.Jobs
import Mathlib.Logic.Function.Iterate

namespace AgentWorkflow

variable {α : Type}

/-! ### The milestone -/

/-- The milestone of the roadmap is reached.  A roadmap that is not there or cannot be read has
none. -/
def Site.ReachesMilestone (site : Site) (path : String) : Prop :=
  ∃ text, site.disk.readText path = .ok text ∧ Roadmap.mvpReached text = true

namespace Roadmap

theorem run_read (path : String) (site : Site) :
    (read path).run site = (match site.disk.readText path with
      | .ok text => .ok (some text)
      | .error .notFound => .ok none
      | .error e => .error ⟨["read roadmap " ++ path], .os e⟩, site) := by
  show ((match site.disk.readText path with
    | .ok text => pure (some text)
    | .error .notFound => pure none
    | .error e => Job.fail ⟨["read roadmap " ++ path], .os e⟩ : Job (Option String)).run site) = _
  rcases site.disk.readText path with e | text
  · cases e <;> rfl
  · rfl

theorem fst_milestoneReached (path : String) (site : Site) :
    (milestoneReached path site).1 = true ↔ site.ReachesMilestone path := by
  unfold milestoneReached Job.attempt Site.ReachesMilestone
  simp only [bind, StateT.bind, run_read]
  rcases site.disk.readText path with e | text
  · refine iff_of_false ?_ (by simp)
    cases e <;> exact Bool.false_ne_true
  · show mvpReached text = true ↔ _
    simp only [Except.ok.injEq, exists_eq_left']

theorem noted_milestoneReached (path : String) : Goes Site.Noted (milestoneReached path) := by
  unfold milestoneReached
  refine Goes.bind (fun site => ?_) fun outcome => ?_
  · unfold Job.attempt
    rw [run_read]
    exact .refl site
  · rcases outcome with f | _ | text
    · exact (Deed.goes_note _).bind fun _ => Goes.pure false
    · exact Goes.pure false
    · exact Goes.pure (mvpReached text)

end Roadmap

namespace RunPlan

/-- A run that heeds the milestone finds it reached. -/
def StopsAt (plan : RunPlan) (site : Site) : Prop :=
  plan.stopAtMilestone = true ∧ site.ReachesMilestone plan.roadmapPath

theorem fst_stopsEarly (plan : RunPlan) (site : Site) :
    (plan.stopsEarly site).1 = true ↔ plan.StopsAt site := by
  unfold stopsEarly StopsAt
  split
  · next h => rw [Roadmap.fst_milestoneReached, h, eq_self, true_and]
  · next h => exact iff_of_false Bool.false_ne_true fun hstops => h hstops.1

theorem noted_stopsEarly (plan : RunPlan) : Goes Site.Noted plan.stopsEarly := by
  unfold stopsEarly
  split
  · exact Roadmap.noted_milestoneReached _
  · exact Goes.pure false

/-! ### Passes that follow each other -/

section Passes

variable (plan : RunPlan) (pass : Job α) (start : Site)

/-- The milestone is looked for, and a pass is made whether it is reached or not. -/
def makePass (site : Site) : Outcome α × Site := pass.run (plan.stopsEarly site).2

/-- The site just before the pass after so many others. -/
def siteBefore (n : Nat) : Site := (fun site => (plan.makePass pass site).2)^[n] start

/-- What comes of the pass after so many others. -/
def outcomeAt (n : Nat) : Outcome α := (plan.makePass pass (plan.siteBefore pass start n)).1

/-- So many passes are made one after the other: the run is not stopped before any of them, and
none of them fails. -/
structure GoesOn (n : Nat) : Prop where
  goes : ∀ i < n, ¬plan.StopsAt (plan.siteBefore pass start i)
  succeeds : ∀ i < n, ∃ a, plan.outcomeAt pass start i = .ok a

/-- A run ends after so many passes, at a site. -/
inductive Ends : Nat → Site → Prop
  /-- All passes are made. -/
  | usedUp (h : plan.GoesOn pass start plan.mode.passes) :
    Ends plan.mode.passes (plan.siteBefore pass start plan.mode.passes)
  /-- The milestone is reached before the next pass. -/
  | stopped {n : Nat} (h : plan.GoesOn pass start n) (hleft : n < plan.mode.passes)
    (hstops : plan.StopsAt (plan.siteBefore pass start n)) :
    Ends n (plan.stopsEarly (plan.siteBefore pass start n)).2
  /-- The last pass fails, which is noted. -/
  | failed {n : Nat} {f : Failure} (h : plan.GoesOn pass start n) (hleft : n < plan.mode.passes)
    (hgoes : ¬plan.StopsAt (plan.siteBefore pass start n))
    (hfails : plan.outcomeAt pass start n = .error f) :
    Ends (n + 1) (noteFailure (n + 1) f (plan.siteBefore pass start (n + 1))).2

end Passes

variable {plan : RunPlan} {pass : Job α} {start last : Site} {n : Nat}

theorem siteBefore_succ (n : Nat) : plan.siteBefore pass start (n + 1) =
    (plan.makePass pass (plan.siteBefore pass start n)).2 :=
  Function.iterate_succ_apply' _ n start

theorem GoesOn.zero : plan.GoesOn pass start 0 :=
  ⟨fun _ h => absurd h (Nat.not_lt_zero _), fun _ h => absurd h (Nat.not_lt_zero _)⟩

theorem GoesOn.succ {a : α} (h : plan.GoesOn pass start n)
    (hgoes : ¬plan.StopsAt (plan.siteBefore pass start n))
    (hok : plan.outcomeAt pass start n = .ok a) : plan.GoesOn pass start (n + 1) :=
  ⟨Nat.forall_lt_succ_right.mpr ⟨h.goes, hgoes⟩,
    Nat.forall_lt_succ_right.mpr ⟨h.succeeds, a, hok⟩⟩

/-! ### Runs -/

/-- One step of a run: the milestone is looked for, and if it does not stop the run a pass is made,
which other passes follow when it succeeds. -/
theorem runFrom_succ (left number : Nat) (site : Site) :
    plan.runFrom pass (left + 1) number site =
      if (plan.stopsEarly site).1 = true then ([], (plan.stopsEarly site).2)
      else
        match plan.makePass pass site with
        | (.error f, after) => ([.error f], (noteFailure number f after).2)
        | (.ok a, after) =>
          (.ok a :: (plan.runFrom pass left (number + 1) after).1,
            (plan.runFrom pass left (number + 1) after).2) := by
  rw [runFrom]
  unfold makePass Job.attempt
  simp only [bind, StateT.bind]
  rcases plan.stopsEarly site with ⟨_ | _, looked⟩
  · rw [if_neg Bool.false_ne_true]
    dsimp only
    rw [if_neg Bool.false_ne_true]
    rcases hpass : pass.run looked with ⟨f | a, after⟩
    · simp only [StateT.bind, bind, hpass]
      rfl
    · simp only [StateT.bind, bind, hpass]
      rfl
  · rfl

theorem runFrom_of_stops {left number : Nat} {site : Site} (h : plan.StopsAt site) :
    plan.runFrom pass (left + 1) number site = ([], (plan.stopsEarly site).2) := by
  rw [runFrom_succ, if_pos ((plan.fst_stopsEarly site).mpr h)]

theorem runFrom_of_goes {left number : Nat} (hgoes : ¬plan.StopsAt (plan.siteBefore pass start n)) :
    plan.runFrom pass (left + 1) number (plan.siteBefore pass start n) =
      match plan.outcomeAt pass start n with
      | .error f => ([.error f], (noteFailure number f (plan.siteBefore pass start (n + 1))).2)
      | .ok a =>
        (.ok a :: (plan.runFrom pass left (number + 1) (plan.siteBefore pass start (n + 1))).1,
          (plan.runFrom pass left (number + 1) (plan.siteBefore pass start (n + 1))).2) := by
  rw [runFrom_succ, if_neg ((plan.fst_stopsEarly _).not.mpr hgoes), siteBefore_succ, outcomeAt]
  rcases plan.makePass pass (plan.siteBefore pass start n) with ⟨f | a, after⟩
  · rfl
  · rfl

/-- A run that went on for some passes ends with these or with more. -/
theorem exists_ends_from (left : Nat) (h : plan.GoesOn pass start n)
    (hleft : n + left = plan.mode.passes) :
    ∃ more last, plan.Ends pass start (n + more) last ∧
      plan.runFrom pass left (n + 1) (plan.siteBefore pass start n) =
        ((List.range' n more).map (plan.outcomeAt pass start), last) := by
  induction left generalizing n with
  | zero =>
    rw [Nat.add_zero] at hleft
    subst hleft
    exact ⟨0, _, .usedUp h, rfl⟩
  | succ left ih =>
    by_cases hstops : plan.StopsAt (plan.siteBefore pass start n)
    · exact ⟨0, _, .stopped h (by omega) hstops, runFrom_of_stops hstops⟩
    · rcases hpass : plan.outcomeAt pass start n with f | a
      · refine ⟨1, _, .failed h (by omega) hstops hpass, ?_⟩
        rw [runFrom_of_goes hstops, hpass, List.range'_one, List.map_singleton, hpass]
      · obtain ⟨more, last, hends, hrun⟩ := ih (h.succ hstops hpass) (by omega)
        refine ⟨more + 1, last, by rwa [Nat.add_right_comm] at hends, ?_⟩
        rw [runFrom_of_goes hstops, hpass, List.range'_succ, List.map_cons, hpass]
        dsimp only
        rw [hrun]

/-- Every run ends, with what came of the passes that were started. -/
theorem exists_ends (plan : RunPlan) (pass : Job α) (start : Site) :
    ∃ started last, plan.Ends pass start started last ∧
      plan.run pass start = ((List.range started).map (plan.outcomeAt pass start), last) := by
  obtain ⟨started, last, hends, hrun⟩ :=
    exists_ends_from plan.mode.passes (GoesOn.zero : plan.GoesOn pass start 0) (Nat.zero_add _)
  rw [Nat.zero_add] at hends
  rw [← List.range_eq_range'] at hrun
  exact ⟨started, last, hends, hrun⟩

namespace Ends

/-- A pass is started when the number of passes allows it, every pass before it succeeded, and the
milestone stops the run neither before it nor before one of these. -/
theorem starts_iff {started : Nat} (h : plan.Ends pass start started last) (i : Nat) :
    i < started ↔ i < plan.mode.passes ∧ (∀ j < i, ∃ a, plan.outcomeAt pass start j = .ok a) ∧
      ∀ j ≤ i, ¬plan.StopsAt (plan.siteBefore pass start j) := by
  cases h with
  | usedUp h =>
    refine ⟨fun hi => ⟨hi, fun j hj => h.succeeds j (by omega), fun j hj => h.goes j (by omega)⟩,
      And.left⟩
  | stopped h hleft hstops =>
    refine ⟨fun hi => ⟨by omega, fun j hj => h.succeeds j (by omega),
      fun j hj => h.goes j (by omega)⟩, fun ⟨_, _, hgoes⟩ => ?_⟩
    exact Nat.lt_of_not_le fun hle => hgoes _ hle hstops
  | @failed n f h hleft hgoes hfails =>
    constructor
    · intro hi
      refine ⟨by omega, fun j hj => h.succeeds j (by omega), fun j hj => ?_⟩
      rcases Nat.lt_or_eq_of_le (Nat.le_trans hj (Nat.le_of_lt_succ hi)) with hlt | rfl
      · exact h.goes j hlt
      · exact hgoes
    · rintro ⟨-, hsucceeds, -⟩
      refine Nat.lt_of_not_le fun hle => ?_
      obtain ⟨a, hok⟩ := hsucceeds n hle
      rw [hfails] at hok
      cases hok

/-- Only the last pass that is started may have failed. -/
theorem eq_of_fails {started i : Nat} {f : Failure} (h : plan.Ends pass start started last)
    (hi : i < started) (hfails : plan.outcomeAt pass start i = .error f) : started = i + 1 := by
  refine Nat.le_antisymm (Nat.le_of_not_lt fun hlt => ?_) hi
  obtain ⟨a, hok⟩ := ((h.starts_iff (i + 1)).mp hlt).2.1 i (Nat.lt_succ_self i)
  rw [hfails] at hok
  cases hok

end Ends

/-! ### Passes of any kind -/

/-- A pass that ends with the result that stands for it in a row, and leaves the files so.  It tells
its place in the row by the pauses made since the start. -/
def scripted (pauses : Nat) (results : Nat → Outcome α) (disks : Nat → Disk) : Job α :=
  fun site => (results (site.pauses.length - pauses),
    { site with
      disk := disks (site.pauses.length - pauses + 1)
      pauses := site.pauses ++ [0] })

/-- Passes may end with any results, and the files may be any before each of them. -/
theorem outcomeAt_scripted (plan : RunPlan) (start : Site) (results : Nat → Outcome α)
    (disks : Nat → Disk) (hstart : disks 0 = start.disk) (n : Nat) :
    let pass := scripted start.pauses.length results disks
    plan.outcomeAt pass start n = results n ∧ (plan.siteBefore pass start n).disk = disks n := by
  intro pass
  -- What the passes tell their place by is counted up along with the files.
  have hsite : (plan.siteBefore pass start n).disk = disks n ∧
      (plan.siteBefore pass start n).pauses.length = start.pauses.length + n := by
    induction n with
    | zero => exact ⟨hstart.symm, rfl⟩
    | succ n ih =>
      obtain ⟨notes, hnoted⟩ := plan.noted_stopsEarly (plan.siteBefore pass start n)
      rw [siteBefore_succ, makePass, hnoted]
      refine ⟨?_, ?_⟩
      · show disks ((plan.siteBefore pass start n).pauses.length - start.pauses.length + 1) = _
        rw [ih.2, Nat.add_sub_cancel_left]
      · show ((plan.siteBefore pass start n).pauses ++ [0]).length = _
        rw [List.length_append, ih.2]
        rfl
  refine ⟨?_, hsite.1⟩
  obtain ⟨notes, hnoted⟩ := plan.noted_stopsEarly (plan.siteBefore pass start n)
  rw [outcomeAt, makePass, hnoted]
  show results ((plan.siteBefore pass start n).pauses.length - start.pauses.length) = _
  rw [hsite.2, Nat.add_sub_cancel_left]

end RunPlan

/-! ### The code of a run -/

namespace CommandLine.Program

open RunPlan

/-- A run under a supervisor that has no other. -/
def supervise (plan : RunPlan) (pass : Job ExitCode) : Deed ExitCode :=
  match Supervisor.idle.start plan with
  | (none, _) => pure .busy
  | (some _, _) => do
    let passes ← plan.run pass
    pure (codeOf passes)

theorem supervise_eq (plan : RunPlan) (pass : Job ExitCode) (start : Site) :
    supervise plan pass start = (codeOf (plan.run pass start).1, (plan.run pass start).2) := rfl

/-- A project is run under a supervisor once its workflow is there. -/
theorem runProject_eq {p : Project} {o : RunOptions} {document : Json} {start : Site}
    (e : Environment) (hdocument : p.workflowDocument start.disk o.workflow = .ok document) :
    runProject p o e start = supervise (planOf p o)
      (runPass p (p.registry start).1 document o e) (p.registry start).2 := by
  unfold runProject
  simp only [bind, StateT.bind, get, getThe, MonadStateOf.get, StateT.get, pure, hdocument,
    orRefuse]
  rfl

/-- The code that so many passes with such results give. -/
structure Codes (started : Nat) (outcomes : Nat → Outcome ExitCode) (code : ExitCode) : Prop where
  /-- A pass that was started failed, or stopped without an answer. -/
  failed : ∀ i < started, ∀ f, outcomes i = .error f → code = .invalid
  /-- Otherwise the last pass that was started tells the code. -/
  last : ∀ i, started = i + 1 → ∀ c, outcomes i = .ok c → code = c
  none : started = 0 → code = .ok

theorem codes_of_ends {plan : RunPlan} {pass : Job ExitCode} {start last : Site} {started : Nat}
    (h : plan.Ends pass start started last) : Codes started (plan.outcomeAt pass start)
      (codeOf ((List.range started).map (plan.outcomeAt pass start))) := by
  have hcode : ∀ i, started = i + 1 →
      codeOf ((List.range started).map (plan.outcomeAt pass start)) =
        match plan.outcomeAt pass start i with
        | .ok code => code
        | .error _ => .invalid := by
    rintro i rfl
    unfold codeOf
    rw [List.range_succ, List.map_append, List.map_singleton, List.getLast?_concat]
    rcases plan.outcomeAt pass start i with f | code
    · rfl
    · rfl
  refine ⟨fun i hi f hfails => ?_, fun i hlast c hok => ?_, ?_⟩
  · rw [hcode i (h.eq_of_fails hi hfails), hfails]
  · rw [hcode i hlast, hok]
  · rintro rfl
    rfl

/-- A run starts its passes one after the other: one is started exactly when the number of passes
allows it, every pass before it succeeded, and, where the milestone is heeded, it was reached
neither just before it nor just before one of these.  What came of them gives the code of the run.
This holds of passes with any results, between which the files change in any way, and it is what
the program does once it has a workflow; without one it is refused before any pass. -/
theorem run_supervised :
    (∀ (plan : RunPlan) (pass : Job ExitCode) (start : Site), ∃ started last,
      plan.Ends pass start started last ∧
      plan.run pass start = ((List.range started).map (plan.outcomeAt pass start), last) ∧
      (∀ i, i < started ↔
        i < plan.mode.passes ∧ (∀ j < i, ∃ code, plan.outcomeAt pass start j = .ok code) ∧
          ∀ j ≤ i, ¬plan.StopsAt (plan.siteBefore pass start j)) ∧
      ∃ code, supervise plan pass start = (code, last) ∧
        Codes started (plan.outcomeAt pass start) code) ∧
    (∀ (plan : RunPlan) (start : Site) (results : Nat → Outcome ExitCode) (disks : Nat → Disk),
      disks 0 = start.disk → ∃ pass, ∀ i, plan.outcomeAt pass start i = results i ∧
        (plan.siteBefore pass start i).disk = disks i) ∧
    ∀ (p : Project) (o : RunOptions) (e : Environment) (start : Site),
      (∀ f, p.workflowDocument start.disk o.workflow = .error f →
        runProject p o e start = refuse f start) ∧
      ∀ document, p.workflowDocument start.disk o.workflow = .ok document →
        runProject p o e start = supervise (planOf p o)
          (runPass p (p.registry start).1 document o e) (p.registry start).2 := by
  refine ⟨fun plan pass start => ?_, fun plan start results disks hstart => ?_,
    fun p o e start => ⟨fun f hf => ?_, fun document => runProject_eq e⟩⟩
  · obtain ⟨started, last, hends, hrun⟩ := plan.exists_ends pass start
    refine ⟨started, last, hends, hrun, hends.starts_iff, _, ?_, codes_of_ends hends⟩
    rw [supervise_eq, hrun]
  · exact ⟨_, outcomeAt_scripted plan start results disks hstart⟩
  · unfold runProject
    simp only [bind, StateT.bind, get, getThe, MonadStateOf.get, StateT.get, pure, hf, orRefuse]

/-- A roadmap with one item, checked by such a mark. -/
def launchDisk (mark : String) : Disk :=
  ⟨[], [(["ROADMAP.md"], .file (Text.encode ("## Launch (MVP)\n- [" ++ mark ++ "] ship\n")))]⟩

/-- Of four passes two are started when the second one checks the last item, and the code is that of
the second one. -/
theorem run_supervised_launch :
    let plan : RunPlan := ⟨.iterations 4, true, true, "ROADMAP.md"⟩
    let start : Site := Site.ofDisk (launchDisk " ")
    ∃ pass, (∀ i, (plan.siteBefore pass start i).disk = launchDisk (if i < 2 then " " else "x")) ∧
      (plan.run pass start).1 = [.ok .ok, .ok .limit] ∧
      (supervise plan pass start).1 = .limit := by
  intro plan start
  have hopen : ∀ site : Site, site.disk = launchDisk " " → ¬plan.StopsAt site := by
    rintro site hdisk ⟨-, text, htext, hreached⟩
    rw [hdisk, show (launchDisk " ").readText "ROADMAP.md" =
      .ok "## Launch (MVP)\n- [ ] ship\n" from rfl] at htext
    cases htext
    exact absurd hreached (by decide)
  have hdone : ∀ site : Site, site.disk = launchDisk "x" → plan.StopsAt site := by
    intro site hdisk
    refine ⟨rfl, "## Launch (MVP)\n- [x] ship\n", ?_, by decide⟩
    rw [hdisk, show (launchDisk "x").readText "ROADMAP.md" =
      .ok "## Launch (MVP)\n- [x] ship\n" from rfl]
  obtain ⟨hruns, hany, -⟩ := run_supervised
  obtain ⟨pass, hpass⟩ := hany plan start (fun i => .ok (if i = 0 then .ok else .limit))
    (fun i => launchDisk (if i < 2 then " " else "x")) rfl
  obtain ⟨started, last, -, hrun, hstarts, code, hcode, hcodes⟩ := hruns plan pass start
  have hsecond : 1 < started := by
    refine (hstarts 1).mpr ⟨by decide, fun j _ => ⟨_, (hpass j).1⟩, fun j hj => hopen _ ?_⟩
    rw [(hpass j).2, if_pos (Nat.lt_succ_of_le hj)]
  have hthird : ¬2 < started := by
    intro h
    exact ((hstarts 2).mp h).2.2 2 (Nat.le_refl 2) (hdone _ (hpass 2).2)
  obtain rfl : started = 2 := by omega
  refine ⟨pass, fun i => (hpass i).2, ?_, ?_⟩
  · rw [hrun]
    show [plan.outcomeAt pass start 0, plan.outcomeAt pass start 1] = _
    rw [(hpass 0).1, (hpass 1).1]
    rfl
  · rw [hcode]
    exact hcodes.last 1 rfl _ (hpass 1).1

end CommandLine.Program

end AgentWorkflow
