/-
What a loop does, told by its body alone.

* `Workflow.Completes` — nodes lead from a world to another one without a failure.
* `Workflow.timesOver` — the body of a loop, so many times over.
* `Workflow.MetAfter` — after so many passes the condition of a loop is met.
* `Workflow.GoesRound` — how often a loop goes round: to the first pass that meets the
  condition or fails, and no more often than its limit says.
* `Workflow.run_loopNode_goesRound` — a loop does what its body does so many times over; the
  report counts the passes, and it is noted when they ran out.

Design notes: the number of passes is said without the interpreter of loops, by what the body
does when it is written down again and again.  The passes of the interpreter go on from reports
that count them, the bodies in a row do not, so the two are compared up to what the report was
before.
-/
import AgentWorkflow.Proofs.MachineRuns
import AgentWorkflow.Proofs.Reports
import AgentWorkflow.Rehearsal

namespace AgentWorkflow.Workflow

/-! ### Nodes in a row -/

section

variable (session : Session) (registry : Registry)

/-- Nodes lead from a world to another one, and none of them fails. -/
def Completes (nodes : List Node) (w v : World) : Prop :=
  ∃ report, (runNodes session registry nodes Report.start).run w = (.ok report, v)

/-- The body of a loop, so many times over. -/
def timesOver (k : Nat) (body : List Node) : List Node := (List.replicate k body).flatten

variable {session registry} {nodes nodes' : List Node} {w v v' : World} {report report' : Report}

theorem runNodes_append (nodes nodes' : List Node) (report : Report) :
    runNodes session registry (nodes ++ nodes') report =
      runNodes session registry nodes report >>= runNodes session registry nodes' := by
  induction nodes generalizing report with
  | nil => exact (pure_bind report _).symm
  | cons n rest ih =>
    have hrest : runNodes session registry (rest ++ nodes') =
        fun report => runNodes session registry rest report >>= runNodes session registry nodes' :=
      funext ih
    change runNode session registry n report >>= runNodes session registry (rest ++ nodes') =
      (runNode session registry n report >>= runNodes session registry rest) >>= _
    rw [hrest, bind_assoc]

theorem timesOver_succ (k : Nat) (body : List Node) :
    timesOver (k + 1) body = body ++ timesOver k body := rfl

theorem completes_iff (report : Report) :
    Completes session registry nodes w v ↔
      ∃ report', (runNodes session registry nodes report).run w = (.ok report', v) := by
  unfold Completes
  rw [run_runNodes_eq nodes report w]
  rcases (runNodes session registry nodes Report.start).run w with ⟨f | r, u⟩
  · simp [Except.map]
  · constructor
    · rintro ⟨report', hrun⟩
      cases hrun
      exact ⟨report ++ r, rfl⟩
    · rintro ⟨report', hrun⟩
      cases hrun
      exact ⟨r, rfl⟩

theorem completes_of_run
    (h : (runNodes session registry nodes report).run w = (.ok report', v)) :
    Completes session registry nodes w v :=
  (completes_iff report).mpr ⟨report', h⟩

theorem not_completes_of_run {f : Failure}
    (h : (runNodes session registry nodes report).run w = (.error f, v)) :
    ¬∃ v', Completes session registry nodes w v' := by
  rintro ⟨v', hcompletes⟩
  obtain ⟨report', hrun⟩ := (completes_iff report).mp hcompletes
  rw [h] at hrun
  cases hrun

theorem Completes.unique (h : Completes session registry nodes w v)
    (h' : Completes session registry nodes w v') : v = v' := by
  obtain ⟨report, hrun⟩ := h
  obtain ⟨report', hrun'⟩ := h'
  rw [hrun] at hrun'
  cases hrun'
  rfl

theorem completes_nil (w : World) : Completes session registry [] w w := ⟨Report.start, rfl⟩

/-- After nodes that do not fail the others go on where those led. -/
theorem completes_append (h : Completes session registry nodes w v) :
    Completes session registry (nodes ++ nodes') w v' ↔
      Completes session registry nodes' v v' := by
  obtain ⟨report, hrun⟩ := h
  have hrest : (runNodes session registry (nodes ++ nodes') Report.start).run w =
      (runNodes session registry nodes' report).run v := by
    rw [runNodes_append, Act.run_bind_ok hrun]
  have hiff : Completes session registry nodes' v v' ↔
      ∃ report', (runNodes session registry nodes' report).run v = (.ok report', v') :=
    completes_iff report
  rw [hiff, ← hrest]
  rfl

end

/-! ### The number of passes -/

section

variable (session : Session) (registry : Registry) (h : NodeHead) (body : List Node)
  (stopOn : Bool)

/-- After so many passes, starting from a world, the condition to stop has the value that the
loop stops on.  It is read in the store that the passes left. -/
def MetAfter (w : World) (i : Nat) : Prop :=
  ∃ v raw, Completes session registry (timesOver i body) w v ∧ h.stopWhenSetting = some raw ∧
    (settingValue v.store raw).toBool = stopOn

/-- A loop goes round so often: to the first pass that meets the condition or fails, and no more
often than its limit says. -/
structure GoesRound (limit : Nat) (w : World) (k : Nat) : Prop where
  le_limit : k ≤ limit
  completed : ∀ i < k, ∃ v, Completes session registry (timesOver i body) w v
  unmet : ∀ i < k, 1 ≤ i → ¬MetAfter session registry h body stopOn w i
  ended : k = limit ∨ (1 ≤ k ∧ MetAfter session registry h body stopOn w k) ∨
    ¬∃ v, Completes session registry (timesOver k body) w v

variable {session registry h body stopOn} {limit k : Nat} {w v : World}

theorem stopsHere_eq_true_iff {s : Store} :
    stopsHere h stopOn s = true ↔
      ∃ raw, h.stopWhenSetting = some raw ∧ (settingValue s raw).toBool = stopOn := by
  unfold stopsHere
  rcases h.stopWhenSetting with _ | raw
  · simp
  · simp

theorem metAfter_iff {i : Nat} (hi : Completes session registry (timesOver i body) w v) :
    MetAfter session registry h body stopOn w i ↔ stopsHere h stopOn v.store = true := by
  rw [stopsHere_eq_true_iff]
  constructor
  · rintro ⟨v', raw, hv', hraw, hstop⟩
    rw [hi.unique hv']
    exact ⟨raw, hraw, hstop⟩
  · rintro ⟨raw, hraw, hstop⟩
    exact ⟨v, raw, hi, hraw, hstop⟩

theorem completes_succ {v' : World} (hbody : Completes session registry body w v) (i : Nat) :
    Completes session registry (timesOver (i + 1) body) w v' ↔
      Completes session registry (timesOver i body) v v' :=
  completes_append hbody

theorem metAfter_succ (hbody : Completes session registry body w v) (i : Nat) :
    MetAfter session registry h body stopOn w (i + 1) ↔
      MetAfter session registry h body stopOn v i := by
  simp only [MetAfter, completes_succ hbody]

theorem completes_one :
    Completes session registry (timesOver 1 body) w v ↔ Completes session registry body w v := by
  have hone : timesOver 1 body = body := by simp [timesOver]
  rw [hone]

/-- A loop does not go round twice so often and once so often. -/
theorem GoesRound.unique {k' : Nat}
    (hk : GoesRound session registry h body stopOn limit w k)
    (hk' : GoesRound session registry h body stopOn limit w k') : k = k' := by
  have hle : ∀ {i j}, GoesRound session registry h body stopOn limit w i →
      GoesRound session registry h body stopOn limit w j → j ≤ i := by
    intro i j hi hj
    by_contra hlt
    rcases hi.ended with hlimit | ⟨hpos, hmet⟩ | hfails
    · have hj' := hj.le_limit
      omega
    · exact hj.unmet i (by omega) hpos hmet
    · exact hfails (hj.completed i (by omega))
  exact Nat.le_antisymm (hle hk' hk) (hle hk hk')

namespace GoesRound

theorem zero (w : World) : GoesRound session registry h body stopOn 0 w 0 where
  le_limit := Nat.le_refl 0
  completed i hi := absurd hi (Nat.not_lt_zero i)
  unmet i hi := absurd hi (Nat.not_lt_zero i)
  ended := .inl rfl

/-- The first pass is the last one when it meets the condition or fails. -/
theorem one (hended : MetAfter session registry h body stopOn w 1 ∨
      ¬∃ v, Completes session registry body w v) :
    GoesRound session registry h body stopOn (limit + 1) w 1 where
  le_limit := Nat.le_add_left 1 limit
  completed i hi := by
    obtain rfl : i = 0 := by omega
    exact ⟨w, completes_nil w⟩
  unmet i hi hpos := by omega
  ended := by
    rcases hended with hmet | hfails
    · exact .inr (.inl ⟨Nat.le_refl 1, hmet⟩)
    · refine .inr (.inr ?_)
      rintro ⟨v, hv⟩
      exact hfails ⟨v, completes_one.mp hv⟩

/-- After a first pass that does not meet the condition the others go on where it led. -/
theorem succ (hbody : Completes session registry body w v)
    (hunmet : ¬MetAfter session registry h body stopOn w 1)
    (hk : GoesRound session registry h body stopOn limit v k) :
    GoesRound session registry h body stopOn (limit + 1) w (k + 1) where
  le_limit := Nat.succ_le_succ hk.le_limit
  completed i hi := by
    rcases i with _ | i
    · exact ⟨w, completes_nil w⟩
    · obtain ⟨v', hv'⟩ := hk.completed i (by omega)
      exact ⟨v', (completes_succ hbody i).mpr hv'⟩
  unmet i hi hpos := by
    obtain ⟨j, rfl⟩ : ∃ j, i = j + 1 := ⟨i - 1, by omega⟩
    rcases Nat.eq_zero_or_pos j with rfl | hj
    · exact hunmet
    · rw [metAfter_succ hbody]
      exact hk.unmet j (by omega) hj
  ended := by
    rcases hk.ended with rfl | ⟨-, hmet⟩ | hfails
    · exact .inl rfl
    · exact .inr (.inl ⟨by omega, (metAfter_succ hbody k).mpr hmet⟩)
    · refine .inr (.inr ?_)
      rintro ⟨v', hv'⟩
      exact hfails ⟨v', (completes_succ hbody k).mp hv'⟩

end GoesRound

/-! ### The passes of the interpreter -/

variable (session registry h body stopOn)

/-- A loop runs out of passes: it has a condition, there are passes to make and they are not cut
down to one, and none of those made meets the condition. -/
structure RunsOut (limit : Nat) (w : World) (k : Nat) : Prop where
  isSome : h.stopWhenSetting.isSome = true
  pos : 0 < limit
  again : session.flags.once = false
  unmet : ∀ i, 1 ≤ i → i ≤ k → ¬MetAfter session registry h body stopOn w i

/-- The passes of a loop do what its body does so many times over, and count themselves.  They
answer whether the last one met the condition. -/
structure RunsBody (limit : Nat) (report : Report) (w : World) (k : Nat) : Prop where
  goesRound : GoesRound session registry h body stopOn limit w k
  run_error : ∀ f v, (runNodes session registry (timesOver k body) report).run w = (.error f, v) →
    (repeatPasses (runNodes session registry body) (stopsHere h stopOn) limit report).run w =
      (.error f, v)
  run_ok : ∀ r v, (runNodes session registry (timesOver k body) report).run w = (.ok r, v) →
    ∃ met, (repeatPasses (runNodes session registry body) (stopsHere h stopOn) limit
        report).run w = (.ok (met, Report.passes k ++ r), v) ∧
      (met = true ↔ 1 ≤ k ∧ MetAfter session registry h body stopOn w k)

variable {session registry h body stopOn} {report r₁ : Report} {w₁ : World}

theorem runNodes_timesOver_one (report : Report) :
    runNodes session registry (timesOver 1 body) report =
      runNodes session registry body report := by
  simp [timesOver]

namespace RunsBody

theorem zero (report : Report) (w : World) :
    RunsBody session registry h body stopOn 0 report w 0 where
  goesRound := GoesRound.zero w
  run_error f v hrun := by cases hrun
  run_ok r v hrun := by
    cases hrun
    refine ⟨false, ?_, by simp⟩
    rw [Report.passes_append]
    rfl

/-- The first pass fails. -/
theorem failed {f : Failure}
    (hbody : (runNodes session registry body report).run w = (.error f, w₁)) :
    RunsBody session registry h body stopOn (limit + 1) report w 1 where
  goesRound := GoesRound.one (.inr (not_completes_of_run hbody))
  run_error f' v hrun := by
    rw [runNodes_timesOver_one, hbody] at hrun
    cases hrun
    apply run_repeatPasses_error
    rw [Report.pass_eq]
    exact (adds_runNodes body).run_error hbody _
  run_ok r v hrun := by
    rw [runNodes_timesOver_one, hbody] at hrun
    cases hrun

/-- The first pass goes well, and the interpreter looks at the store that it leaves. -/
theorem run_first (hbody : (runNodes session registry body report).run w = (.ok r₁, w₁))
    (limit : Nat) :
    (repeatPasses (runNodes session registry body) (stopsHere h stopOn) (limit + 1) report).run w =
      if stopsHere h stopOn w₁.store then (.ok (true, Report.passes 1 ++ r₁), w₁)
      else (repeatPasses (runNodes session registry body) (stopsHere h stopOn) limit
        (Report.passes 1 ++ r₁)).run w₁ := by
  apply run_repeatPasses_ok
  rw [Report.pass_eq]
  exact (adds_runNodes body).run_ok hbody _

theorem metAfter_one (hbody : (runNodes session registry body report).run w = (.ok r₁, w₁)) :
    MetAfter session registry h body stopOn w 1 ↔ stopsHere h stopOn w₁.store = true :=
  metAfter_iff (completes_one.mpr (completes_of_run hbody))

/-- The first pass meets the condition. -/
theorem met (hbody : (runNodes session registry body report).run w = (.ok r₁, w₁))
    (hstops : stopsHere h stopOn w₁.store = true) :
    RunsBody session registry h body stopOn (limit + 1) report w 1 where
  goesRound := GoesRound.one (.inl ((metAfter_one hbody).mpr hstops))
  run_error f v hrun := by
    rw [runNodes_timesOver_one, hbody] at hrun
    cases hrun
  run_ok r v hrun := by
    rw [runNodes_timesOver_one, hbody] at hrun
    cases hrun
    refine ⟨true, ?_, ?_⟩
    · rw [run_first hbody, if_pos hstops]
    · simpa using (metAfter_one hbody).mpr hstops

/-- The first pass does not meet the condition, and the others follow.  They go on from a report
in which the first one is counted. -/
theorem again {k : Nat} (hbody : (runNodes session registry body report).run w = (.ok r₁, w₁))
    (hstops : stopsHere h stopOn w₁.store = false)
    (hrest : RunsBody session registry h body stopOn limit (Report.passes 1 ++ r₁) w₁ k) :
    RunsBody session registry h body stopOn (limit + 1) report w (k + 1) := by
  have hcompletes : Completes session registry body w w₁ := completes_of_run hbody
  have hunmet : ¬MetAfter session registry h body stopOn w 1 := by
    rw [metAfter_one hbody, hstops]
    exact Bool.false_ne_true
  have hfirst : (repeatPasses (runNodes session registry body) (stopsHere h stopOn) (limit + 1)
      report).run w = _ := run_first hbody limit
  rw [if_neg (by simp [hstops])] at hfirst
  have hrow : (runNodes session registry (timesOver (k + 1) body) report).run w =
      (runNodes session registry (timesOver k body) r₁).run w₁ := by
    rw [timesOver_succ, runNodes_append, Act.run_bind_ok hbody]
  refine ⟨hrest.goesRound.succ hcompletes hunmet, fun f v hrun => ?_, fun r v hrun => ?_⟩
  · rw [hrow] at hrun
    rw [hfirst]
    exact hrest.run_error f v ((adds_runNodes _).run_error hrun _)
  · rw [hrow] at hrun
    obtain ⟨met, hpasses, hmet⟩ := hrest.run_ok _ v ((adds_runNodes _).run_ok hrun _)
    refine ⟨met, ?_, ?_⟩
    · rw [hfirst, hpasses, ← Report.passes_succ_append]
    · rw [hmet, metAfter_succ hcompletes]
      constructor
      · rintro ⟨-, hk⟩
        exact ⟨by omega, hk⟩
      · rintro ⟨-, hk⟩
        refine ⟨Nat.pos_of_ne_zero ?_, hk⟩
        rintro rfl
        exact hunmet ((metAfter_succ hcompletes 0).mpr hk)

end RunsBody

/-- Whatever the limit, there is a number of passes that the interpreter makes. -/
theorem exists_runsBody (limit : Nat) (report : Report) (w : World) :
    ∃ k, RunsBody session registry h body stopOn limit report w k := by
  induction limit generalizing report w with
  | zero => exact ⟨0, RunsBody.zero report w⟩
  | succ limit ih =>
    rcases hbody : (runNodes session registry body report).run w with ⟨f | r₁, w₁⟩
    · exact ⟨1, RunsBody.failed hbody⟩
    · by_cases hstops : stopsHere h stopOn w₁.store = true
      · exact ⟨1, RunsBody.met hbody hstops⟩
      · obtain ⟨k, hk⟩ := ih (Report.passes 1 ++ r₁) w₁
        exact ⟨k + 1, RunsBody.again hbody (Bool.eq_false_iff.mpr hstops) hk⟩

/-- The interpreter finds that a loop ran out of passes when it did. -/
theorem runsOut_iff {k : Nat} {met : Bool}
    (hk : GoesRound session registry h body stopOn limit w k)
    (hmet : met = true ↔ 1 ≤ k ∧ MetAfter session registry h body stopOn w k) :
    RunsOut session registry h body stopOn limit w k ↔
      (!met && h.stopWhenSetting.isSome && decide (0 < limit) && !session.flags.once) = true := by
  have hnone : met = false ↔ ∀ i, 1 ≤ i → i ≤ k → ¬MetAfter session registry h body stopOn w i := by
    rw [← Bool.not_eq_true, hmet]
    constructor
    · intro hlast i hpos hle hi
      rcases Nat.lt_or_eq_of_le hle with hlt | rfl
      · exact hk.unmet i hlt hpos hi
      · exact hlast ⟨hpos, hi⟩
    · rintro hall ⟨hpos, hi⟩
      exact hall k hpos (Nat.le_refl k) hi
  simp only [Bool.and_eq_true, Bool.not_eq_true', decide_eq_true_eq]
  constructor
  · rintro ⟨hsome, hpos, hagain, hunmet⟩
    exact ⟨⟨⟨hnone.mpr hunmet, hsome⟩, hpos⟩, hagain⟩
  · rintro ⟨⟨⟨hmet, hsome⟩, hpos⟩, hagain⟩
    exact ⟨hsome, hpos, hagain, hnone.mp hmet⟩

/-- The loop that a node is: its passes from where it is entered, and its end. -/
theorem run_loopNode_admitted {n : Node} {own : Nat} {entered : World} (report : Report)
    (hkind : n.kind = .loop) (hadmitted : Machine.Admitted n w.store)
    (hown : loopLimit n.head w.store w = (own, entered)) :
    (runNode session registry n report).run w =
      (repeatPasses (runNodes session registry n.body)
        (stopsHere n.head (stopValue n.head w.store)) (Machine.capped session own)
        report.execute >>= fun met =>
          finishLoop session n.head (Machine.capped session own) met.1 met.2).run entered := by
  have hrun := run_runNode_admitted session registry report hadmitted.enabled hadmitted.met
  rw [hkind] at hrun
  exact hrun.trans (Machine.run_runLoop hown [] 0)

/-- A loop reads its limit and the value it stops on when it is entered, and it goes round a
certain number of times: to the first pass that meets the condition or fails, within its limit.
It does to the store, to the site and to the record what its body does so many times over, and it
fails as that fails.  The report counts the node and its passes besides, and when the loop runs
out of passes, it is counted as such and that is noted once. -/
theorem run_loopNode_goesRound (session : Session) (registry : Registry) (n : Node)
    (report : Report) (w : World) (hkind : n.kind = .loop)
    (hadmitted : Machine.Admitted n w.store) :
    let entered := (loopLimit n.head w.store w).2
    let limit := Machine.capped session (resolvedLimit n.head w.store)
    let stopOn := stopValue n.head w.store
    (entered.store = w.store ∧ entered.record = w.record ∧ w.site.Noted entered.site ∧
      ((∃ own, limitOf n.head w.store = .ok own) → entered = w)) ∧
    ∃ k, (∀ j, GoesRound session registry n.head n.body stopOn limit entered j ↔ j = k) ∧
      (∀ f v, (runNodes session registry (timesOver k n.body) report).run entered = (.error f, v) →
        (runNode session registry n report).run w = (.error f, v)) ∧
      (∀ r v, (runNodes session registry (timesOver k n.body) report).run entered = (.ok r, v) →
        let counted := { r with executed := r.executed + 1, loopPasses := r.loopPasses + k }
        (RunsOut session registry n.head n.body stopOn limit entered k →
          (runNode session registry n report).run w = (.ok counted.exhaust,
            (Step.note (.warning (Conversation.limitNotice session.texts limit)
              [("max_iterations", toString limit)]) v).2)) ∧
        (¬RunsOut session registry n.head n.body stopOn limit entered k →
          (runNode session registry n report).run w = (.ok counted, v))) := by
  obtain ⟨site, hown, hsame, hnoted⟩ := loopLimit_eq n.head w.store w
  intro entered limit stopOn
  have hentered : entered = ⟨site, w.store, w.record⟩ := congrArg Prod.snd hown
  have hrun : (runNode session registry n report).run w = _ :=
    run_loopNode_admitted report hkind hadmitted (hown.trans (congrArg (Prod.mk _) hentered.symm))
  obtain ⟨k, hk⟩ : ∃ k, RunsBody session registry n.head n.body stopOn limit report.execute
      entered k := exists_runsBody limit report.execute entered
  -- The node itself is counted before its passes.
  have hcounted : ∀ r : Report, Report.passes k ++ (Report.start.execute ++ r) =
      { r with executed := r.executed + 1, loopPasses := r.loopPasses + k } := by
    intro r
    rw [← Report.execute_eq, Report.passes_append]
    rfl
  refine ⟨⟨by rw [hentered], by rw [hentered], by rw [hentered]; exact hnoted, fun husable => ?_⟩,
    k, fun j => ⟨fun hj => hj.unique hk.goesRound, fun hj => hj ▸ hk.goesRound⟩,
    fun f v hbody => ?_, fun r v hbody => ?_⟩
  · rw [hentered, hsame husable]
  · have hfails := (adds_runNodes _).run_error hbody Report.start.execute
    rw [← Report.execute_eq] at hfails
    rw [hrun]
    exact Act.run_bind_error (hk.run_error f v hfails)
  · have hends := (adds_runNodes _).run_ok hbody Report.start.execute
    rw [← Report.execute_eq] at hends
    obtain ⟨met, hpasses, hmet⟩ := hk.run_ok _ v hends
    rw [hcounted] at hpasses
    rw [hrun, Act.run_bind_ok hpasses, runsOut_iff hk.goesRound hmet]
    unfold finishLoop
    constructor
    · intro hout
      rw [if_pos hout]
      rfl
    · intro hout
      rw [if_neg hout]
      rfl

end

/-! ### Counting the passes -/

section

variable {session : Session} {registry : Registry} {h : NodeHead} {body : List Node}
  {stopOn : Bool}

theorem exists_completes_iff {nodes : List Node} {w : World} :
    (∃ v, Completes session registry nodes w v) ↔
      ((runNodes session registry nodes Report.start).run w).1.toOption.isSome = true := by
  rcases hrun : (runNodes session registry nodes Report.start).run w with ⟨f | r, v⟩
  · exact iff_of_false (not_completes_of_run hrun) Bool.false_ne_true
  · exact iff_of_true ⟨v, completes_of_run hrun⟩ rfl

theorem metAfter_iff_run {w : World} {i : Nat} :
    MetAfter session registry h body stopOn w i ↔
      ((runNodes session registry (timesOver i body) Report.start).run w).1.toOption.isSome = true ∧
      stopsHere h stopOn
        ((runNodes session registry (timesOver i body) Report.start).run w).2.store = true := by
  rcases hrun : (runNodes session registry (timesOver i body) Report.start).run w with ⟨f | r, v⟩
  · refine iff_of_false ?_ fun hsome => Bool.false_ne_true hsome.1
    rintro ⟨v', raw, hv', -⟩
    exact not_completes_of_run hrun ⟨v', hv'⟩
  · rw [metAfter_iff (completes_of_run hrun)]
    exact ⟨fun hstops => ⟨rfl, hstops⟩, fun hstops => hstops.2⟩

instance (nodes : List Node) (w : World) :
    Decidable (∃ v, Completes session registry nodes w v) :=
  decidable_of_iff _ exists_completes_iff.symm

instance (w : World) (i : Nat) : Decidable (MetAfter session registry h body stopOn w i) :=
  decidable_of_iff _ metAfter_iff_run.symm

theorem goesRound_iff {limit k : Nat} {w : World} :
    GoesRound session registry h body stopOn limit w k ↔
      k ≤ limit ∧ (∀ i < k, ∃ v, Completes session registry (timesOver i body) w v) ∧
      (∀ i < k, 1 ≤ i → ¬MetAfter session registry h body stopOn w i) ∧
      (k = limit ∨ (1 ≤ k ∧ MetAfter session registry h body stopOn w k) ∨
        ¬∃ v, Completes session registry (timesOver k body) w v) := by
  constructor
  · rintro ⟨hle, hcompleted, hunmet, hended⟩
    exact ⟨hle, hcompleted, hunmet, hended⟩
  · rintro ⟨hle, hcompleted, hunmet, hended⟩
    exact ⟨hle, hcompleted, hunmet, hended⟩

instance (limit : Nat) (w : World) (k : Nat) :
    Decidable (GoesRound session registry h body stopOn limit w k) :=
  decidable_of_iff _ goesRound_iff.symm

end

/-- A loop whose body writes over the keys that its settings are bound to.  By the limit and the
value that the first pass leaves it would stop after that pass, but it goes round twice, to the
pass that meets the condition as it was set out. -/
theorem run_loopNode_goesRound_rewritten :
    let assign (key : String) (value : Json) : Node :=
      .mk { type := "var.set", inputs := [("key", .text key), ("value", value)] } [] [] []
    let body := [assign "done" (.text "$half"), assign "half" (.bool true),
      assign "limit" (Json.nat 1), assign "goal" (.bool false)]
    let settings : NodeHead := {
      type := "loop"
      maxIterations := some (.text "$limit")
      stopWhen := some (.text "$done")
      stopOn := some (.text "$goal") }
    let n : Node := .mk settings body [] []
    let s := Rehearsal.session ⟨false, false, false⟩ ⟨[]⟩ []
    let w : World := ⟨Site.ofDisk default, ⟨[("goal", .bool true), ("limit", Json.nat 3)], []⟩, []⟩
    n.kind = .loop ∧ Machine.Admitted n w.store ∧
      GoesRound s Registry.builtin settings body true 3 w 2 ∧
      ∃ r v, (runNodes s Registry.builtin (timesOver 2 body) Report.start).run w = (.ok r, v) ∧
        (runNode s Registry.builtin n Report.start).run w =
          (.ok { r with executed := r.executed + 1, loopPasses := r.loopPasses + 2 }, v) := by
  intro assign body settings n s w
  have hkind : n.kind = .loop := rfl
  have hadmitted : Machine.Admitted n w.store := ⟨rfl, rfl⟩
  have hround : GoesRound s Registry.builtin settings body true 3 w 2 := by decide +kernel
  have hmet : MetAfter s Registry.builtin settings body true w 2 := by decide +kernel
  obtain ⟨-, k, hall, -, hok⟩ :=
    run_loopNode_goesRound s Registry.builtin n Report.start w hkind hadmitted
  obtain rfl : 2 = k := (hall 2).mp hround
  obtain ⟨v, -, ⟨r, hbodies⟩, -⟩ := id hmet
  refine ⟨hkind, hadmitted, hround, r, v, hbodies, (hok r v hbodies).2 fun hout => ?_⟩
  exact hout.unmet 2 (by decide) (Nat.le_refl 2) hmet

end AgentWorkflow.Workflow
