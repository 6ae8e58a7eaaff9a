/-
What dispatching does with each call of a turn.

* `Dispatch.Spells` — a text spells the arguments of a call.
* `Dispatch.Ready`, `Dispatch.Agreed` — nothing keeps a call from being put to the user;
  the user agrees to it, or is not asked.
* `Dispatch.Account` — what became of one call: what the user was asked, what the tool was
  run with, what came of it.
* `Account.Holds` — an account is true of a site: what has to be the case for a question,
  for a run of the tool and for a warning, and which site is left.
* `Dispatch.exists_account` — every call has an account.
* `Dispatch.run_accounted` — so do the calls of a turn, one after the other, and a turn may
  be dispatched in parts.

Design notes: an account holds at the site that its call finds, and the next call finds the
site that it leaves.  Nothing is assumed of the tools or of the user's answers, and both may
depend on everything at the site.
-/
import AgentWorkflow.Proofs.Collaborators

namespace AgentWorkflow

theorem CallOutcome.severity_of_note? {tool : String} {outcome : CallOutcome} {n : Note}
    (h : outcome.note? tool = some n) : n.severity = .warning := by
  cases outcome <;> cases h <;> rfl

namespace Dispatch

/-! ### What stands before a call -/

/-- A text spells arguments: a blank one spells none, any other is an object in JSON. -/
def Spells (text : String) (arguments : Table Json) : Prop :=
  (Text.allBlank text = true ∧ arguments = []) ∨
    (Text.allBlank text = false ∧ Json.parse text = .ok (.object arguments))

theorem readArguments_eq_ok {text : String} {arguments : Table Json} :
    readArguments text = .ok arguments ↔ Spells text arguments := by
  unfold readArguments Spells
  by_cases hblank : Text.allBlank text = true
  · simp [hblank, eq_comm]
  · -- Of the values that a text may hold, an object is the only one that is accepted.
    rcases hparse : Json.parse text with e | value
    · simp [hblank]
    · cases value <;> simp [hblank]

/-- The name of a call is that of a tool, and its text spells arguments. -/
def Ready (s : Session) (call : ToolCall) (arguments : Table Json) : Prop :=
  (∃ tool, Table.get? s.tools call.name = some tool) ∧ Spells call.arguments arguments

theorem Ready.unique {s : Session} {call : ToolCall} {x y : Table Json}
    (hx : Ready s call x) (hy : Ready s call y) : x = y := by
  have hread := (readArguments_eq_ok.mpr hx.2).symm.trans (readArguments_eq_ok.mpr hy.2)
  exact Except.ok.inj hread

/-- Nothing is to be asked, or the user says yes. -/
def Agreed (s : Session) (site : Site) (call : ToolCall) (arguments : Table Json) : Prop :=
  s.flags.yolo = true ∨ (s.confirm call.name arguments site).1 = true

/-! ### Accounts -/

/-- The question about a call, if there is one. -/
def questions (name : String) (asked : Option (Table Json)) : List Event :=
  (asked.map fun x => Event.asked name x).toList

theorem questions_none (name : String) : questions name none = [] := rfl

/-- The site once the user has answered. -/
def answered (s : Session) (name : String) (asked : Option (Table Json)) (before : Site) : Site :=
  match asked with
  | none => before
  | some x => (s.confirm name x before).2

/-- What became of a call. -/
structure Account where
  call : ToolCall
  outcome : CallOutcome
  /-- The arguments that the user was asked about. -/
  asked : Option (Table Json)
  /-- The arguments that the tool was run with, and what came of it. -/
  ran : Option (Table Json × Outcome Json)

namespace Account

/-- The events of a call; the question comes before the run of the tool. -/
def events (a : Account) : List Event :=
  questions a.call.name a.asked ++ (a.ran.map fun r => Event.invoked a.call.name r.1).toList

theorem events_none (call : ToolCall) (outcome : CallOutcome) (asked : Option (Table Json)) :
    (⟨call, outcome, asked, none⟩ : Account).events = questions call.name asked :=
  List.append_nil _

theorem events_some (call : ToolCall) (outcome : CallOutcome) (asked : Option (Table Json))
    (x : Table Json) (r : Outcome Json) :
    (⟨call, outcome, asked, some (x, r)⟩ : Account).events =
      questions call.name asked ++ [.invoked call.name x] :=
  rfl

/-- The warnings about a call. -/
def warnings (a : Account) : List Note := (a.outcome.note? a.call.name).toList

/-- The turn that answers a call. -/
def answer (s : Session) (a : Account) : Message :=
  Message.toolResult a.call.id a.call.name (a.outcome.content s.texts a.call.name)

/-- The site that a tool leaves, if one is run. -/
def Moved (s : Session) (a : Account) (decided left : Site) : Prop :=
  match a.ran with
  | none => left = decided
  | some (x, r) => ∃ tool, Table.get? s.tools a.call.name = some tool ∧
      (tool x).run decided = (r, left)

/-- What an outcome says of a call. -/
def Came (s : Session) (before : Site) (a : Account) : Prop :=
  match a.outcome with
  | .notFound => Table.get? s.tools a.call.name = none
  | .badArguments _ =>
    (∃ tool, Table.get? s.tools a.call.name = some tool) ∧ ¬ ∃ x, Spells a.call.arguments x
  | .declined => ∃ x, Ready s a.call x ∧ ¬ Agreed s before a.call x
  | .withheld =>
    ∃ x, Ready s a.call x ∧ Agreed s before a.call x ∧ s.withholds a.call.name = true
  | .succeeded _ | .failed _ =>
    ∃ x r, a.ran = some (x, r) ∧ a.outcome = ofResult s.texts a.call.name r

/-- There is no such tool, the arguments cannot be read, or the tool failed. -/
def Troubled (s : Session) (a : Account) : Prop :=
  Table.get? s.tools a.call.name = none ∨ (¬ ∃ x, Spells a.call.arguments x) ∨
    ∃ x f, a.ran = some (x, .error f)

/-- An account tells how a call is decided that finds one site and leaves another. -/
structure Decides (s : Session) (before : Site) (a : Account) (left : Site) : Prop where
  /-- Unless nothing is to be asked, the user is asked about every call that is ready. -/
  asked : ∀ x, a.asked = some x ↔ s.flags.yolo = false ∧ Ready s a.call x
  /-- A tool is run when the call is ready and agreed on, and the tool is not left out
  because it modifies the repository. -/
  ran : ∀ x, (∃ r, a.ran = some (x, r)) ↔ Ready s a.call x ∧ Agreed s before a.call x ∧
    ¬ (s.flags.dryRun = true ∧ s.policy.isModifying a.call.name = true)
  came : a.Came s before
  /-- The tool finds the site that the user's answer leaves. -/
  moved : a.Moved s (answered s a.call.name a.asked before) left

/-- An account is true of a call that finds one site and leaves another. -/
structure Holds (s : Session) (before : Site) (a : Account) (after : Site) : Prop where
  /-- Nothing comes after the decision but the warnings. -/
  decides : ∃ left, a.Decides s before left ∧
    after = { left with notes := left.notes ++ a.warnings }
  /-- There is one warning about a call that has gone wrong. -/
  warned : a.Troubled s → ∃ n, n.severity = .warning ∧ a.warnings = [n]
  quiet : ¬ a.Troubled s → a.warnings = []

end Account

/-! ### How a call is decided -/

/-- What the user is asked about a call that is ready. -/
def asking (s : Session) (x : Table Json) : Option (Table Json) :=
  if s.flags.yolo then none else some x

theorem asking_iff {s : Session} {call : ToolCall} {x : Table Json} (hx : Ready s call x)
    (y : Table Json) : asking s x = some y ↔ s.flags.yolo = false ∧ Ready s call y := by
  unfold asking
  constructor
  · intro h
    split at h
    · cases h
    · next hyolo =>
      obtain rfl := Option.some.inj h
      exact ⟨Bool.eq_false_iff.mpr hyolo, hx⟩
  · rintro ⟨hyolo, hy⟩
    rw [hyolo, hx.unique hy]
    rfl

theorem exists_ofResult_error (texts : Texts) (name : String) (f : Failure) :
    ∃ e, ofResult texts name (.error f) = .failed e := by
  rcases f with ⟨_, kind⟩
  cases kind <;> exact ⟨_, rfl⟩

namespace Account

variable {s : Session} {a : Account} {before left : Site} {x : Table Json}

/-- What a tool answers is what comes of its call. -/
theorem came_of_ran {r : Outcome Json} (hran : a.ran = some (x, r))
    (hout : a.outcome = ofResult s.texts a.call.name r) : a.Came s before := by
  unfold Came
  rcases r with f | value
  · obtain ⟨e, he⟩ := exists_ofResult_error s.texts a.call.name f
    rw [hout.trans he]
    exact ⟨x, .error f, hran, he.symm⟩
  · rw [show a.outcome = .succeeded _ from hout]
    exact ⟨x, .ok value, hran, rfl⟩

/-- An outcome comes with a warning when the call has gone wrong. -/
theorem Decides.troubled_iff (h : a.Decides s before left) :
    a.Troubled s ↔ (a.outcome.note? a.call.name).isSome = true := by
  have hcame := h.came
  unfold Came at hcame
  -- A call that is ready has gone wrong only if its tool was run and failed.
  have hready : ∀ x, Ready s a.call x → (a.Troubled s ↔ ∃ f, a.ran = some (x, .error f)) := by
    intro x hx
    constructor
    · rintro (hnone | hspell | ⟨y, f, hran⟩)
      · obtain ⟨tool, htool⟩ := hx.1
        rw [hnone] at htool
        cases htool
      · exact absurd ⟨x, hx.2⟩ hspell
      · obtain ⟨hy, -⟩ := (h.ran y).mp ⟨_, hran⟩
        rw [hx.unique hy]
        exact ⟨f, hran⟩
    · rintro ⟨f, hran⟩
      exact .inr (.inr ⟨x, f, hran⟩)
  rcases hout : a.outcome with _ | e | _ | _ | output | e <;> rw [hout] at hcame
  case notFound => simp [Troubled, CallOutcome.note?, hcame]
  case badArguments => simp [Troubled, CallOutcome.note?, hcame]
  case declined =>
    obtain ⟨x, hx, hno⟩ := hcame
    simp only [hready x hx, CallOutcome.note?, Option.isSome_none, Bool.false_eq_true, iff_false]
    rintro ⟨f, hran⟩
    exact hno ((h.ran x).mp ⟨_, hran⟩).2.1
  case withheld =>
    obtain ⟨x, hx, -, hwithheld⟩ := hcame
    simp only [hready x hx, CallOutcome.note?, Option.isSome_none, Bool.false_eq_true, iff_false]
    rintro ⟨f, hran⟩
    exact ((h.ran x).mp ⟨_, hran⟩).2.2 (by simpa [Session.withholds] using hwithheld)
  case succeeded =>
    obtain ⟨x, r, hran, hr⟩ := hcame
    rw [hready x ((h.ran x).mp ⟨r, hran⟩).1, hran]
    rcases r with f | value
    · obtain ⟨e, he⟩ := exists_ofResult_error s.texts a.call.name f
      rw [he] at hr
      cases hr
    · simp [CallOutcome.note?]
  case failed =>
    obtain ⟨x, r, hran, hr⟩ := hcame
    rw [hready x ((h.ran x).mp ⟨r, hran⟩).1, hran]
    rcases r with f | value
    · simp [CallOutcome.note?]
    · cases hr

theorem Decides.holds (h : a.Decides s before left) :
    a.Holds s before { left with notes := left.notes ++ a.warnings } := by
  refine ⟨⟨left, h, rfl⟩, fun htrouble => ?_, fun hquiet => ?_⟩
  · obtain ⟨n, hn⟩ := Option.isSome_iff_exists.mp (h.troubled_iff.mp htrouble)
    refine ⟨n, CallOutcome.severity_of_note? hn, ?_⟩
    rw [warnings, hn, Option.toList_some]
  · have hnone : a.outcome.note? a.call.name = none := by
      rw [h.troubled_iff, Option.not_isSome_iff_eq_none] at hquiet
      exact hquiet
    rw [warnings, hnone, Option.toList_none]

/-- A call that is not ready is decided at once. -/
theorem decides_of_not_ready {call : ToolCall} {outcome : CallOutcome}
    (hnot : ∀ x, ¬ Ready s call x)
    (hcame : (⟨call, outcome, none, none⟩ : Account).Came s before) :
    (⟨call, outcome, none, none⟩ : Account).Decides s before before where
  asked x := ⟨nofun, fun h => absurd h.2 (hnot x)⟩
  ran x := ⟨nofun, fun h => absurd h.1 (hnot x)⟩
  came := hcame
  moved := rfl

/-- After the question a call may be stopped. -/
theorem decides_of_stopped {call : ToolCall} {outcome : CallOutcome} (hx : Ready s call x)
    (hstop : Agreed s before call x → s.withholds call.name = true)
    (hcame : (⟨call, outcome, asking s x, none⟩ : Account).Came s before) :
    (⟨call, outcome, asking s x, none⟩ : Account).Decides s before
      (answered s call.name (asking s x) before) where
  asked := asking_iff hx
  ran y := by
    constructor
    · rintro ⟨r, hr⟩
      cases hr
    · rintro ⟨hy, hagreed, hkept⟩
      rw [hy.unique hx] at hagreed
      exact absurd (Bool.and_eq_true_iff.mp (hstop hagreed)) hkept
  came := hcame
  moved := rfl

/-- Otherwise the tool is run. -/
theorem decides_of_run {call : ToolCall} {tool : Tool} {r : Outcome Json}
    (htool : Table.get? s.tools call.name = some tool) (hx : Ready s call x)
    (hagreed : Agreed s before call x) (hkept : s.withholds call.name = false)
    (hrun : (tool x).run (answered s call.name (asking s x) before) = (r, left)) :
    (⟨call, ofResult s.texts call.name r, asking s x, some (x, r)⟩ : Account).Decides s
      before left where
  asked := asking_iff hx
  ran y := by
    constructor
    · rintro ⟨r', hr⟩
      obtain ⟨rfl, -⟩ := Prod.ext_iff.mp (Option.some.inj hr)
      refine ⟨hx, hagreed, fun hboth => ?_⟩
      exact Bool.false_ne_true (hkept.symm.trans (Bool.and_eq_true_iff.mpr hboth))
    · rintro ⟨hy, -⟩
      exact ⟨r, by rw [hy.unique hx]⟩
  came := came_of_ran rfl rfl
  moved := ⟨tool, htool, hrun⟩

end Account

/-- Whatever becomes of a call that is ready, the user is asked first, unless nothing is to
be asked. -/
theorem run_confirmed (s : Session) (call : ToolCall) (x : Table Json) (w : World) :
    ∃ agreed,
      confirmed s call.name x w =
        (agreed, ⟨answered s call.name (asking s x) w.site, w.store,
          w.record ++ questions call.name (asking s x)⟩) ∧
      (agreed = true ↔ Agreed s w.site call x) := by
  unfold confirmed asking Agreed
  by_cases hyolo : s.flags.yolo = true
  · rw [if_pos hyolo, if_pos hyolo]
    refine ⟨true, ?_, iff_of_true rfl (.inl hyolo)⟩
    rw [questions_none, List.append_nil]
    rfl
  · rw [if_neg hyolo, if_neg hyolo]
    exact ⟨(s.confirm call.name x w.site).1, rfl, (or_iff_right hyolo).symm⟩

/-- Every decision has its account. -/
theorem exists_decides (s : Session) (call : ToolCall) (w : World) :
    ∃ (a : Account) (left : Site), a.call = call ∧ a.Decides s w.site left ∧
      decide s call.name call.arguments w =
        (a.outcome, ⟨left, w.store, w.record ++ a.events⟩) := by
  unfold decide
  -- One case for each way out of the decision, in the order in which it meets them.
  rcases htool : Table.get? s.tools call.name with _ | tool
  · refine ⟨⟨call, .notFound, none, none⟩, w.site, rfl, ?_, ?_⟩
    · refine Account.decides_of_not_ready (fun x hx => ?_) htool
      obtain ⟨_, hsome⟩ := hx.1
      rw [htool] at hsome
      cases hsome
    · rw [Account.events_none, questions_none, List.append_nil]
      rfl
  rcases hread : readArguments call.arguments with e | x
  · have hspell : ¬ ∃ x, Spells call.arguments x := by
      rintro ⟨x, hx⟩
      rw [readArguments_eq_ok.mpr hx] at hread
      cases hread
    refine ⟨⟨call, .badArguments e, none, none⟩, w.site, rfl, ?_, ?_⟩
    · exact Account.decides_of_not_ready (fun x hx => hspell ⟨x, hx.2⟩) ⟨⟨tool, htool⟩, hspell⟩
    · rw [Account.events_none, questions_none, List.append_nil]
      rfl
  have hx : Ready s call x := ⟨⟨tool, htool⟩, readArguments_eq_ok.mp hread⟩
  -- From here on the user has been asked, and the site is the one that the answer leaves.
  obtain ⟨agreed, hconfirmed, hagreed⟩ := run_confirmed s call x w
  let decided := answered s call.name (asking s x) w.site
  dsimp only
  rw [Step.run_bind, hconfirmed]
  rcases agreed with _ | _
  · have hno : ¬ Agreed s w.site call x := fun h => Bool.false_ne_true (hagreed.mpr h)
    refine ⟨⟨call, .declined, asking s x, none⟩, decided, rfl, ?_, ?_⟩
    · exact Account.decides_of_stopped hx (fun h => absurd h hno) ⟨x, hx, hno⟩
    · rw [Account.events_none]
      rfl
  have hyes : Agreed s w.site call x := hagreed.mp rfl
  by_cases hwithheld : s.withholds call.name = true
  · refine ⟨⟨call, .withheld, asking s x, none⟩, decided, rfl, ?_, ?_⟩
    · exact Account.decides_of_stopped hx (fun _ => hwithheld) ⟨x, hx, hyes, hwithheld⟩
    · rw [Account.events_none, if_pos rfl, if_pos hwithheld]
      rfl
  · let r := (tool x).run decided
    refine ⟨⟨call, ofResult s.texts call.name r.1, asking s x, some (x, r.1)⟩, r.2, rfl, ?_, ?_⟩
    · exact Account.decides_of_run htool hx hyes (Bool.eq_false_iff.mpr hwithheld) rfl
    · rw [Account.events_some, if_pos rfl, if_neg hwithheld, ← List.append_assoc]
      rfl

/-! ### The calls of a turn -/

theorem run_warn (tool : String) (outcome : CallOutcome) (w : World) :
    warn tool outcome w = ((), { w with
      site := { w.site with notes := w.site.notes ++ (outcome.note? tool).toList } }) := by
  unfold warn
  rcases outcome.note? tool with _ | n
  · rw [Option.toList_none, List.append_nil]
    rfl
  · rfl

/-- Every call has its account. -/
theorem exists_account (s : Session) (call : ToolCall) (w : World) :
    ∃ (a : Account) (after : Site), a.call = call ∧ a.Holds s w.site after ∧
      runCall s call w = (a.answer s, ⟨after, w.store, w.record ++ a.events⟩) := by
  obtain ⟨a, left, rfl, hdecides, hrun⟩ := exists_decides s call w
  refine ⟨a, { left with notes := left.notes ++ a.warnings }, rfl, hdecides.holds, ?_⟩
  unfold runCall
  rw [Step.run_bind, hrun, Step.run_bind, run_warn]
  rfl

/-- Accounts of calls that are dispatched one after the other. -/
inductive Accounts (s : Session) : World → List Account → World → Prop
  | nil (w : World) : Accounts s w [] w
  | cons {w w' : World} {a : Account} {after : Site} {rest : List Account} :
    a.Holds s w.site after →
    Accounts s ⟨after, w.store, w.record ++ a.events⟩ rest w' →
    Accounts s w (a :: rest) w'

namespace Accounts

variable {s : Session} {w w' : World} {accounts : List Account}

/-- Dispatching leaves no events but those of its calls. -/
theorem record_eq (h : Accounts s w accounts w') :
    w'.record = w.record ++ accounts.flatMap Account.events := by
  induction h with
  | nil w => exact (List.append_nil _).symm
  | cons _ _ ih => rw [ih, List.flatMap_cons, List.append_assoc]

theorem asked_eq_none (hyolo : s.flags.yolo = true) (h : Accounts s w accounts w') :
    ∀ a ∈ accounts, a.asked = none := by
  induction h with
  | nil => exact List.forall_mem_nil _
  | cons hfirst _ ih =>
    obtain ⟨left, hdecides, -⟩ := hfirst.decides
    refine List.forall_mem_cons.mpr ⟨?_, ih⟩
    rw [Option.eq_none_iff_forall_ne_some]
    intro x hasked
    rw [((hdecides.asked x).mp hasked).1] at hyolo
    cases hyolo

end Accounts

theorem exists_accounts (s : Session) (calls : List ToolCall) (w : World) :
    ∃ accounts, accounts.map Account.call = calls ∧
      (run s calls w).1 = accounts.map (Account.answer s) ∧
      Accounts s w accounts (run s calls w).2 := by
  induction calls generalizing w with
  | nil => exact ⟨[], rfl, rfl, .nil w⟩
  | cons call rest ih =>
    obtain ⟨a, after, rfl, hholds, hcall⟩ := exists_account s call w
    obtain ⟨accounts, rfl, hanswers, haccounts⟩ := ih ⟨after, w.store, w.record ++ a.events⟩
    refine ⟨a :: accounts, rfl, ?_, ?_⟩
    · unfold run
      rw [Step.run_bind, hcall, Step.run_bind]
      exact congrArg (a.answer s :: ·) hanswers
    · unfold run
      rw [Step.run_bind, hcall, Step.run_bind]
      exact .cons hholds haccounts

/-- A turn may be dispatched in parts. -/
theorem run_append (s : Session) (front back : List ToolCall) :
    run s (front ++ back) = (do
      let answers ← run s front
      let more ← run s back
      pure (answers ++ more)) := by
  induction front with
  | nil => simp [run]
  | cons call rest ih => simp [run, ih]

/-- The calls of a turn are answered one for one and in order.  Each has an account, at the
site that the calls before it leave: it tells when the user is asked and the tool is run,
and what is warned of.  Beside the events of these accounts there are none. -/
theorem run_accounted (s : Session) :
    (∀ calls w, ∃ accounts, accounts.map Account.call = calls ∧
      (run s calls w).1 = accounts.map (Account.answer s) ∧
      Accounts s w accounts (run s calls w).2 ∧
      (run s calls w).2.record = w.record ++ accounts.flatMap Account.events ∧
      (s.flags.yolo = true → ∀ a ∈ accounts, a.asked = none)) ∧
    ∀ front back, run s (front ++ back) = (do
      let answers ← run s front
      let more ← run s back
      pure (answers ++ more)) := by
  refine ⟨fun calls w => ?_, run_append s⟩
  obtain ⟨accounts, hcalls, hanswers, h⟩ := exists_accounts s calls w
  exact ⟨accounts, hcalls, hanswers, h, h.record_eq, fun hyolo => h.asked_eq_none hyolo⟩

end Dispatch

end AgentWorkflow
