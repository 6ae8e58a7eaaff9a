/-
Attempts that are repeated, and the pauses between them.

* `Retry.Policy.backoff_doubles_iff` — when a pause is twice the one before, cut at the longest one.
* `Retry.Course` — the attempts that failed and are repeated, one after the other.
* `Retry.Ends`, `Retry.exists_ends` — how such attempts end; every run is one that does.
* `Retry.Course.of_quiet` — the notes and the pauses between attempts that leave these alone.
* `GitHub.verdict`, `GitHub.Exchanged` — what an answer of the host makes of an attempt, and the
  exchanges of a call that is repeated.
* `Retry.repeated_calls` — how often a model and a host are asked, and what comes of it.

Design notes: an attempt is a function of the site, and what it does may depend on the notes and
the pauses before it.  So a course says where each attempt starts, and only for attempts that
leave notes and pauses alone these are counted up in the end.
-/
import AgentWorkflow.Proofs.Jobs
import AgentWorkflow.Service.Completion
import AgentWorkflow.Service.GitHub
import Mathlib.Algebra.GroupWithZero.Nat

namespace AgentWorkflow

variable {α : Type}

namespace Retry

/-! ### Pauses -/

theorem factor_succ (k : Nat) : factor (k + 1) = min (2 ^ k) maxFactor := by
  unfold factor
  split
  · next h =>
    have hpow : 2 ^ k ≤ 2 ^ 31 := Nat.pow_le_pow_right (by decide) (by omega)
    rw [Nat.add_sub_cancel, Nat.min_eq_left (Nat.le_trans hpow (by decide))]
    rfl
  · next h =>
    have hpow : 2 ^ 32 ≤ 2 ^ k := Nat.pow_le_pow_right (by decide) (by omega)
    exact (Nat.min_eq_right (Nat.le_trans (Nat.sub_le _ 1) hpow)).symm

namespace Policy

variable (p : Policy)

/-- The greatest factor does not show: there are no pauses, or it makes one that is as long as the
longest. -/
def Capped : Prop := p.initialMs = 0 ∨ p.maxMs ≤ p.initialMs * (2 ^ 32 - 1)

instance : Decidable p.Capped := inferInstanceAs (Decidable (_ ∨ _))

theorem backoff_succ (k : Nat) :
    p.backoff (k + 1) = min (min (p.initialMs * 2 ^ k) (p.initialMs * maxFactor)) p.maxMs := by
  rw [backoff, factor_succ, Nat.mul_min_mul_left]

theorem doubled_le_iff (k : Nat) :
    p.initialMs * 2 ^ k ≤ p.initialMs * maxFactor ↔ p.initialMs = 0 ∨ k < 32 := by
  rcases Nat.eq_zero_or_pos p.initialMs with hzero | hpos
  · simp [hzero]
  · rw [Nat.mul_le_mul_left_iff hpos, show maxFactor = 2 ^ 32 - 1 from rfl,
      Nat.le_sub_one_iff_lt (by decide), Nat.pow_lt_pow_iff_right (by decide),
      or_iff_right (Nat.ne_of_gt hpos)]

/-- The pause before a retry is the first one, doubled from one retry to the next and cut at the
longest one, exactly for the first 32 retries and where the greatest factor does not show.  So
long, too, each pause is twice the one before.  Otherwise it is as long as that factor makes it.
A product that is cut beyond the longest pause makes no difference. -/
theorem backoff_doubles_iff (k : Nat) :
    (p.backoff (k + 1) = min (p.initialMs * 2 ^ k) p.maxMs ↔ k < 32 ∨ p.Capped) ∧
      (p.backoff (k + 2) = min (2 * p.backoff (k + 1)) p.maxMs ↔ k < 31 ∨ p.Capped) ∧
      (¬(k < 32 ∨ p.Capped) → p.backoff (k + 1) = p.initialMs * (2 ^ 32 - 1)) ∧
      ∀ bound, p.maxMs ≤ bound →
        p.backoff (k + 1) = min (min (p.initialMs * factor (k + 1)) bound) p.maxMs := by
  have hzero : p.initialMs = 0 ↔ p.initialMs * maxFactor = 0 := by
    rw [Nat.mul_eq_zero, or_iff_left (by decide)]
  have hnext : p.initialMs * 2 ^ (k + 1) = 2 * (p.initialMs * 2 ^ k) := by
    rw [Nat.pow_succ, ← Nat.mul_assoc, Nat.mul_comm]
  have hthis := p.doubled_le_iff k
  have hthat := p.doubled_le_iff (k + 1)
  refine ⟨?_, ?_, ?_, fun bound hbound => ?_⟩
  · rw [backoff_succ, Capped, ← show maxFactor = 2 ^ 32 - 1 from rfl]
    rw [hzero] at hthis ⊢
    omega
  · rw [p.backoff_succ (k + 1), p.backoff_succ k, Capped, ← show maxFactor = 2 ^ 32 - 1 from rfl]
    rw [hzero] at hthis hthat ⊢
    rw [hnext] at hthat ⊢
    omega
  · rw [backoff_succ, Capped, ← show maxFactor = 2 ^ 32 - 1 from rfl]
    rw [hzero] at hthis ⊢
    omega
  · rw [backoff, Nat.min_assoc, Nat.min_eq_right hbound]

/-- The greatest factor shows at the 33rd retry, and not before. -/
theorem backoff_thirtyThird :
    (⟨40, 1, 5000000000⟩ : Policy).backoff 32 = min (1 * 2 ^ 31) 5000000000 ∧
      (⟨40, 1, 5000000000⟩ : Policy).backoff 33 = 1 * (2 ^ 32 - 1) :=
  ⟨(backoff_doubles_iff _ 31).1.mpr (by decide), (backoff_doubles_iff _ 32).2.2.1 (by decide)⟩

/-- A pause that begins with a millisecond is not doubled at the 33rd retry, though it may be
longer. -/
theorem backoff_staysShort :
    (⟨40, 1, 5000000000⟩ : Policy).backoff 33 = 4294967295 ∧
      (⟨40, 1, 5000000000⟩ : Policy).backoff 33 ≠ min (1 * 2 ^ (33 - 1)) 5000000000 := by decide

end Policy

/-! ### Attempts -/

/-- What came of an attempt, whether others may follow or not. -/
def Attempt.outcome : Attempt α → Outcome α
  | .success a => .ok a
  | .failure f _ => .error f

/-- No other attempt is made after one that succeeds or fails for good. -/
def Attempt.IsLast : Attempt α → Prop
  | .success _ => True
  | .failure _ final => final = true

/-- The notes on failures, the first one first. -/
def Policy.notes (p : Policy) (message : String) (failures : List Failure) : List Note :=
  failures.mapIdx fun i f => retryNote message p (i + 1) f

/-- The pauses before so many retries. -/
def Policy.pauses (p : Policy) (retries : Nat) : List Nat := (List.range' 1 retries).map p.backoff

theorem Policy.notes_concat (p : Policy) (message : String) (failures : List Failure)
    (f : Failure) : p.notes message (failures ++ [f]) =
      p.notes message failures ++ [retryNote message p (failures.length + 1) f] :=
  List.mapIdx_concat

theorem Policy.pauses_succ (p : Policy) (retries : Nat) :
    p.pauses (retries + 1) = p.pauses retries ++ [p.backoff (retries + 1)] := by
  unfold pauses
  rw [List.range'_1_concat, List.map_append, Nat.add_comm 1]
  rfl

/-- An attempt leaves notes and pauses as they are. -/
def Quiet (attempt : Deed (Attempt α)) : Prop :=
  ∀ site, (attempt site).2.notes = site.notes ∧ (attempt site).2.pauses = site.pauses

/-- A failure is noted, and the pause before the next attempt is made. -/
def Policy.rest (p : Policy) (message : String) (number : Nat) (f : Failure) (site : Site) :
    Site :=
  { site with
    notes := site.notes ++ [retryNote message p number f]
    pauses := site.pauses ++ [p.backoff number] }

/-- Attempts that failed and are repeated: their failures, and the site before the next one. -/
inductive Course (p : Policy) (message : String) (attempt : Deed (Attempt α)) (site : Site) :
    List Failure → Site → Prop
  | start : Course p message attempt site [] site
  | again {failures : List Failure} {before after : Site} {f : Failure}
      (hcourse : Course p message attempt site failures before)
      (hfails : attempt before = (.failure f false, after)) :
      Course p message attempt site (failures ++ [f])
        (p.rest message (failures.length + 1) f after)

/-- After attempts that failed and were repeated, the last one has a result. -/
structure Ends (p : Policy) (message : String) (attempt : Deed (Attempt α)) (site : Site)
    (failures : List Failure) (result : Attempt α) (after : Site) : Prop where
  last : ∃ before, Course p message attempt site failures before ∧ attempt before = (result, after)
  /-- The last attempt is made since the policy allows it, and so its number has 32 bits when the
  one of the policy has. -/
  allowed : failures.length + 1 ≤ max 1 p.maxAttempts
  counted : p.maxAttempts < 2 ^ 32 → failures.length + 1 < 2 ^ 32
  /-- It is the last one since none is to follow, or since the policy allows no other. -/
  stops : result.IsLast ∨ failures.length + 1 = max 1 p.maxAttempts
  /-- Each failure before it was noted and followed by its pause, and nothing else was. -/
  between : Quiet attempt →
    after.notes = site.notes ++ p.notes message failures ∧
      after.pauses = site.pauses ++ p.pauses failures.length

section Run

variable {p : Policy} {message : String} {attempt : Deed (Attempt α)} {site before after : Site}
  {left made : Nat} {f : Failure} {failures : List Failure}

/-- Between attempts that take no notes and make no pauses there are those on the failures. -/
theorem Course.of_quiet (hquiet : Quiet attempt)
    (h : Course p message attempt site failures before) :
    before.notes = site.notes ++ p.notes message failures ∧
      before.pauses = site.pauses ++ p.pauses failures.length := by
  induction h with
  | start => exact ⟨(List.append_nil _).symm, (List.append_nil _).symm⟩
  | @again failures before after f _ hfails ih =>
    obtain ⟨hnotes, hpauses⟩ := hquiet before
    rw [hfails] at hnotes hpauses
    rw [Policy.rest, hnotes, hpauses, ih.1, ih.2, Policy.notes_concat, List.length_append,
      List.length_singleton, Policy.pauses_succ]
    exact ⟨List.append_assoc _ _ _, List.append_assoc _ _ _⟩

theorem attempts_of_success {a : α} (h : attempt before = (.success a, after)) :
    attempts p message attempt left made before = ((made + 1, .ok a), after) := by
  unfold attempts
  simp only [bind, StateT.bind, h]
  rfl

theorem attempts_of_final (h : attempt before = (.failure f true, after)) :
    attempts p message attempt left made before = ((made + 1, .error f), after) := by
  unfold attempts
  simp only [bind, StateT.bind, h]
  cases left with
  | zero => rfl
  | succ left => rfl

theorem attempts_zero_of_failure {final : Bool} (h : attempt before = (.failure f final, after)) :
    attempts p message attempt 0 made before = ((made + 1, .error f), after) := by
  unfold attempts
  simp only [bind, StateT.bind, h]
  rfl

theorem attempts_succ_of_failure (h : attempt before = (.failure f false, after)) :
    attempts p message attempt (left + 1) made before =
      attempts p message attempt left (made + 1) (p.rest message (made + 1) f after) := by
  rw [attempts]
  simp only [bind, StateT.bind, h]
  rfl

/-- Attempts that go on end, when so many more are allowed. -/
theorem exists_last_attempts (left : Nat)
    (hcourse : Course p message attempt site failures before) :
    ∃ failures' result after, attempts p message attempt left failures.length before =
        ((failures'.length + 1, result.outcome), after) ∧
      (∃ before', Course p message attempt site failures' before' ∧
        attempt before' = (result, after)) ∧
      failures'.length ≤ failures.length + left ∧
      (result.IsLast ∨ failures'.length = failures.length + left) := by
  induction left generalizing failures before with
  | zero =>
    rcases hresult : attempt before with ⟨a | ⟨f, final⟩, after⟩
    · exact ⟨failures, .success a, after, attempts_of_success hresult,
        ⟨before, hcourse, hresult⟩, Nat.le_refl _, .inl trivial⟩
    · exact ⟨failures, .failure f final, after, attempts_zero_of_failure hresult,
        ⟨before, hcourse, hresult⟩, Nat.le_refl _, .inr rfl⟩
  | succ left ih =>
    rcases hresult : attempt before with ⟨a | ⟨f, _ | _⟩, after⟩
    · exact ⟨failures, .success a, after, attempts_of_success hresult,
        ⟨before, hcourse, hresult⟩, Nat.le_add_right _ _, .inl trivial⟩
    · -- The failure joins those before it, and one attempt less is left.
      rw [attempts_succ_of_failure hresult]
      obtain ⟨failures', result, last, hrun, hlast, hallowed, hstops⟩ :=
        ih (hcourse.again hresult)
      rw [List.length_append, List.length_singleton] at hrun hallowed hstops
      exact ⟨failures', result, last, hrun, hlast, by omega, hstops.imp_right (by omega)⟩
    · exact ⟨failures, .failure f true, after, attempts_of_final hresult,
        ⟨before, hcourse, hresult⟩, Nat.le_add_right _ _, .inl rfl⟩

/-- Every run ends. -/
theorem exists_ends (p : Policy) (message : String) (attempt : Deed (Attempt α)) (site : Site) :
    ∃ failures result after, Ends p message attempt site failures result after ∧
      run p message attempt site = ((failures.length + 1, result.outcome), after) := by
  have hstart : Course p message attempt site [] site := .start
  obtain ⟨failures, result, after, hrun, ⟨before, hcourse, hlast⟩, hallowed, hstops⟩ :=
    exists_last_attempts (p.maxAttempts - 1) hstart
  rw [List.length_nil] at hrun hallowed hstops
  refine ⟨failures, result, after, ⟨⟨before, hcourse, hlast⟩, by omega, by omega,
    hstops.imp_right (by omega), fun hquiet => ?_⟩, hrun⟩
  obtain ⟨hnotes, hpauses⟩ := hquiet before
  rw [hlast] at hnotes hpauses
  rw [hnotes, hpauses]
  exact hcourse.of_quiet hquiet

end Run

end Retry

/-! ### Answers of the host -/

namespace Http

/-- What a response tells: the answer, if there is one. -/
def Response.answer? : Response → Option Answer
  | .dropped => none
  | .answer status body => some ⟨status, if Status.isBodiless status then "" else body⟩

theorem send_of_request {c : Call} {site : Site} {r : Request}
    (h : c.reading site.wire.address = .request r) :
    send c site = ((site.wire.exchange r).1.answer?,
      { site with wire := (site.wire.exchange r).2 }) := by
  unfold send
  simp only [bind, StateT.bind, get, getThe, MonadStateOf.get, StateT.get, pure]
  rw [h]
  dsimp only
  rcases site.wire.exchange r with ⟨_ | _, wire⟩
  · rfl
  · rfl

theorem quiet_send (c : Call) (site : Site) :
    (send c site).2.notes = site.notes ∧ (send c site).2.pauses = site.pauses := by
  unfold send
  simp only [bind, StateT.bind, get, getThe, MonadStateOf.get, StateT.get, pure]
  rcases c.reading site.wire.address with _ | _ | r
  · exact ⟨rfl, rfl⟩
  · exact ⟨rfl, rfl⟩
  · dsimp only
    rcases site.wire.exchange r with ⟨_ | _, wire⟩
    · exact ⟨rfl, rfl⟩
    · exact ⟨rfl, rfl⟩

theorem isWellFormed_of_bad {c : Call} {site : Site}
    (h : c.reading site.wire.address = .badAddress) : isWellFormed c site = (false, site) := by
  unfold isWellFormed
  simp only [bind, StateT.bind, get, getThe, MonadStateOf.get, StateT.get, pure]
  rw [h]
  rfl

theorem isWellFormed_of_ne {c : Call} {site : Site}
    (h : c.reading site.wire.address ≠ .badAddress) : isWellFormed c site = (true, site) := by
  unfold isWellFormed
  simp only [bind, StateT.bind, get, getThe, MonadStateOf.get, StateT.get, pure]
  rcases hreading : c.reading site.wire.address with _ | _ | r
  · exact absurd hreading h
  · rfl
  · rfl

end Http

namespace Wire

/-- The response to the request after so many others. -/
def nth (w : Wire) (n : Nat) : Http.Response := w.responses.getD n exhausted

/-- The wire after the same request was sent so many times. -/
def repeated (w : Wire) (r : Http.Request) (n : Nat) : Wire :=
  { w with responses := w.responses.drop n, requests := w.requests ++ List.replicate n r }

theorem repeated_zero (w : Wire) (r : Http.Request) : w.repeated r 0 = w := by
  unfold repeated
  rw [List.drop_zero, List.replicate_zero, List.append_nil]

theorem exchange_repeated (w : Wire) (r : Http.Request) (n : Nat) :
    (w.repeated r n).exchange r = (w.nth n, w.repeated r (n + 1)) := by
  have hnth : w.nth n = (w.responses.drop n).head?.getD exhausted := by
    rw [nth, List.getD_eq_getElem?_getD, List.head?_drop]
  have hrequests : w.requests ++ List.replicate n r ++ [r] =
      w.requests ++ List.replicate (n + 1) r := by
    rw [List.append_assoc, List.replicate_succ']
  unfold repeated
  rw [hnth, ← hrequests, ← List.tail_drop, exchange]
  rcases w.responses.drop n with _ | ⟨response, rest⟩
  · rfl
  · rfl

end Wire

namespace GitHub

open Retry (Attempt Course Ends Quiet)

/-- What an answer makes of an attempt, if there is one. -/
def verdict (what : String) : Option Http.Answer → Attempt Json
  | none => .failure ⟨["GitHub " ++ what], .http⟩ false
  | some answer =>
    if answer.isSuccess then
      match answer.json ("decode GitHub " ++ what ++ " response") with
      | .ok j => .success j
      | .error f => .failure f true
    else
      .failure (Failure.stated
        ("GitHub " ++ what ++ " returned " ++ answer.line ++ ": " ++ answer.body))
        (!isPassing answer.status)

theorem attempt_eq (what : String) (c : Http.Call) (site : Site) :
    attempt what c site = (verdict what (Http.send c site).1, (Http.send c site).2) := by
  unfold attempt
  simp only [bind, StateT.bind]
  rcases Http.send c site with ⟨_ | answer, after⟩
  · rfl
  · dsimp only [verdict]
    split
    · rcases answer.json ("decode GitHub " ++ what ++ " response") with f | j
      · rfl
      · rfl
    · rfl

theorem quiet_attempt (what : String) (c : Http.Call) : Quiet (attempt what c) := by
  intro site
  rw [attempt_eq]
  exact Http.quiet_send c site

theorem isPassing_iff {status : Nat} :
    isPassing status = true ↔ status = 429 ∨ 500 ≤ status ∧ status < 600 := by
  simp [isPassing, Http.Status.isServerError, Http.Status.tooManyRequests, or_comm]

/-- An attempt is the last one when an answer has come with a status that is not one for which
the host may be asked again: no failure of the server, and not that of too many requests. -/
theorem isLast_verdict_iff (what : String) (answer : Option Http.Answer) :
    (verdict what answer).IsLast ↔
      ∃ a, answer = some a ∧ ¬(a.status = 429 ∨ 500 ≤ a.status ∧ a.status < 600) := by
  rcases answer with _ | a
  · simp [verdict, Attempt.IsLast]
  · rw [verdict]
    split
    · next hsuccess =>
      have hstatus : 200 ≤ a.status ∧ a.status < 300 := by
        simpa [Http.Answer.isSuccess, Http.Status.isSuccess] using hsuccess
      refine iff_of_true ?_ ⟨a, rfl, by omega⟩
      split
      · exact trivial
      · exact rfl
    · simp [Attempt.IsLast, ← isPassing_iff]

theorem verdict_eq_success_iff {what : String} {answer : Option Http.Answer} {j : Json} :
    verdict what answer = .success j ↔
      ∃ a, answer = some a ∧ (200 ≤ a.status ∧ a.status < 300) ∧ Json.parse a.body = .ok j := by
  rcases answer with _ | a
  · simp [verdict]
  · have hsuccess : a.isSuccess = true ↔ 200 ≤ a.status ∧ a.status < 300 := by
      simp [Http.Answer.isSuccess, Http.Status.isSuccess]
    simp only [verdict, Http.Answer.json, Option.some.injEq, exists_eq_left', ← hsuccess]
    split
    · next h =>
      rcases Json.parse a.body with e | j'
      · simp [h]
      · simp [h]
    · next h => simp [h]

/-! ### Calls of the host -/

/-- A site after a request was sent so many times, and after more notes and pauses. -/
def afterRequests (site : Site) (r : Http.Request) (n : Nat) (notes : List Note)
    (pauses : List Nat) : Site :=
  { site with
    wire := site.wire.repeated r n
    notes := site.notes ++ notes
    pauses := site.pauses ++ pauses }

theorem afterRequests_zero (site : Site) (r : Http.Request) :
    afterRequests site r 0 [] [] = site := by
  unfold afterRequests
  rw [Wire.repeated_zero, List.append_nil, List.append_nil]

theorem rest_afterRequests (p : Retry.Policy) (message : String) (number : Nat) (f : Failure)
    (site : Site) (r : Http.Request) (n : Nat) (notes : List Note) (pauses : List Nat) :
    p.rest message number f (afterRequests site r n notes pauses) =
      afterRequests site r n (notes ++ [Retry.retryNote message p number f])
        (pauses ++ [p.backoff number]) := by
  unfold Retry.Policy.rest afterRequests
  rw [← List.append_assoc, ← List.append_assoc]

/-- The exchanges of a call that is repeated: each response makes an attempt what it is, and the
same request is sent each time.  Nothing else is done but that failures are noted and pauses are
made before the retries. -/
structure Exchanged (p : Retry.Policy) (what : String) (r : Http.Request) (site : Site)
    (failures : List Failure) (result : Attempt Json) (after : Site) : Prop where
  failed : ∀ i f, failures[i]? = some f →
    verdict what (site.wire.nth i).answer? = .failure f false
  result_eq : result = verdict what (site.wire.nth failures.length).answer?
  after_eq : after = afterRequests site r (failures.length + 1)
    (p.notes "GitHub request failed, retrying" failures) (p.pauses failures.length)

section Exchanges

variable {p : Retry.Policy} {what : String} {c : Http.Call} {r : Http.Request}
  {site before after : Site} {failures : List Failure} {result : Attempt Json}

theorem attempt_afterRequests {n : Nat} {notes : List Note} {pauses : List Nat}
    (hreading : c.reading site.wire.address = .request r) :
    attempt what c (afterRequests site r n notes pauses) =
      (verdict what (site.wire.nth n).answer?,
        afterRequests site r (n + 1) notes pauses) := by
  have hsend := @Http.send_of_request c (afterRequests site r n notes pauses) r hreading
  rw [show (afterRequests site r n notes pauses).wire = site.wire.repeated r n from rfl,
    Wire.exchange_repeated] at hsend
  rw [attempt_eq, hsend]
  rfl

theorem course_exchanged (hreading : c.reading site.wire.address = .request r)
    (h : Course p "GitHub request failed, retrying" (attempt what c) site failures before) :
    before = afterRequests site r failures.length
        (p.notes "GitHub request failed, retrying" failures) (p.pauses failures.length) ∧
      ∀ i f, failures[i]? = some f →
        verdict what (site.wire.nth i).answer? = .failure f false := by
  induction h with
  | start => exact ⟨(afterRequests_zero site r).symm, fun i f h => absurd h (by simp)⟩
  | @again failures before after f _ hfails ih =>
    obtain ⟨rfl, hfailed⟩ := ih
    rw [attempt_afterRequests hreading] at hfails
    obtain ⟨hverdict, rfl⟩ := Prod.mk.inj hfails
    refine ⟨?_, fun i f' h => ?_⟩
    · rw [rest_afterRequests, Retry.Policy.notes_concat, List.length_append,
        List.length_singleton, Retry.Policy.pauses_succ]
    · rcases Nat.lt_or_ge i failures.length with hlt | hge
      · rw [List.getElem?_append_left hlt] at h
        exact hfailed i f' h
      · -- The last failure is that of the response after those of the others.
        rw [List.getElem?_append_right hge, List.getElem?_singleton] at h
        split at h
        · next hi =>
          cases h
          rwa [show i = failures.length by omega]
        · cases h

theorem exchanged_of_ends (hreading : c.reading site.wire.address = .request r)
    (h : Ends p "GitHub request failed, retrying" (attempt what c) site failures result after) :
    Exchanged p what r site failures result after := by
  obtain ⟨before, hcourse, hresult⟩ := h.last
  obtain ⟨rfl, hfailed⟩ := course_exchanged hreading hcourse
  rw [attempt_afterRequests hreading] at hresult
  obtain ⟨rfl, rfl⟩ := Prod.mk.inj hresult
  exact ⟨hfailed, rfl, rfl⟩

end Exchanges

/-- A call that cannot be understood is not made at all. -/
theorem run_send_of_bad {g : GitHub} {what : String} {c : Http.Call} {site : Site}
    (h : c.reading site.wire.address = .badAddress) :
    (g.send what c).run site =
      (.error (Failure.stated ("GitHub " ++ what ++ " request cannot be sent")), site) := by
  unfold send
  rw [Job.run_lift_bind, Http.isWellFormed_of_bad h]
  rfl

theorem run_send_of_ne {g : GitHub} {what : String} {c : Http.Call} {site after : Site}
    {n : Nat} {outcome : Outcome Json} (h : c.reading site.wire.address ≠ .badAddress)
    (hrun : Retry.run g.retry "GitHub request failed, retrying" (attempt what c) site =
      ((n, outcome), after)) : (g.send what c).run site = (outcome, after) := by
  unfold send
  rw [Job.run_lift_bind, Http.isWellFormed_of_ne h]
  dsimp only
  rw [if_pos rfl, Job.run_lift_bind, hrun]
  rcases outcome with f | j
  · rfl
  · rfl

end GitHub

namespace Completion

theorem attempt_eq (j : Job α) (site : Site) :
    attempt j site = (match (j.run site).1 with
      | .ok a => .success a
      | .error f => .failure f false, (j.run site).2) := by
  unfold attempt Job.attempt
  simp only [bind, StateT.bind]
  rcases j.run site with ⟨f | a, after⟩
  · rfl
  · rfl

/-- To ask again may always help. -/
theorem isLast_iff {j : Job α} {site after : Site} {result : Retry.Attempt α}
    (h : attempt j site = (result, after)) : result.IsLast ↔ ∃ a, result = .success a := by
  rw [attempt_eq] at h
  obtain ⟨rfl, -⟩ := Prod.mk.inj h
  rcases (j.run site).1 with f | a
  · simp [Retry.Attempt.IsLast]
  · simp [Retry.Attempt.IsLast]

theorem run_persistent {p : Retry.Policy} {ask : Request → Job Message} {r : Request}
    {site after : Site} {n : Nat} {outcome : Outcome Message}
    (hrun : Retry.run p "completion failed, retrying" (attempt (ask r)) site =
      ((n, outcome), after)) :
    (persistent p ask r).run site =
      (outcome.within ("completion failed after " ++ toString n ++ " attempt(s)"), after) := by
  unfold persistent
  rw [Job.run_lift_bind, hrun]
  rcases outcome with f | m
  · rfl
  · rfl

end Completion

namespace Retry

/-- A model is asked, and a call of the host is made, once and then again after each failure that
may pass, until one attempt is the last or as many were made as the policy allows.  Each failure
but the last one is noted and followed by the pause of the policy.

An attempt to ask the model is the last one when it succeeds.  What it gives is the answer; if no
attempt succeeds, the last failure is told with the number of attempts.  An attempt at a call of
the host is the last one when an answer has come that is neither "too many requests" nor a failure
of the server; it succeeds when the answer is a success that can be read.  What it gives and how
it fails is handed on as it is. -/
theorem repeated_calls (site : Site) :
    (∀ (p : Policy) (ask : Request → Job Message) (r : Request),
      ∃ failures result after,
        Ends p "completion failed, retrying" (Completion.attempt (ask r)) site
          failures result after ∧
        (result.IsLast ↔ ∃ m, result = .success m) ∧
        (Completion.persistent p ask r).run site =
          (Outcome.within ("completion failed after " ++
            toString (failures.length + 1) ++ " attempt(s)") result.outcome, after)) ∧
      (∀ (g : GitHub) (what : String) (c : Http.Call),
        (c.reading site.wire.address = .badAddress → (g.send what c).run site =
          (.error (Failure.stated ("GitHub " ++ what ++ " request cannot be sent")), site)) ∧
        (c.reading site.wire.address ≠ .badAddress →
          ∃ failures result after,
            Ends g.retry "GitHub request failed, retrying" (GitHub.attempt what c) site
              failures result after ∧
            Quiet (GitHub.attempt what c) ∧
            (∀ r, c.reading site.wire.address = .request r →
              GitHub.Exchanged g.retry what r site failures result after) ∧
            (g.send what c).run site = (result.outcome, after))) ∧
      ∀ what answer,
        ((GitHub.verdict what answer).IsLast ↔
          ∃ a, answer = some a ∧ ¬(a.status = 429 ∨ 500 ≤ a.status ∧ a.status < 600)) ∧
        ∀ j, GitHub.verdict what answer = .success j ↔
          ∃ a, answer = some a ∧ (200 ≤ a.status ∧ a.status < 300) ∧
            Json.parse a.body = .ok j := by
  refine ⟨fun p ask r => ?_, fun g what c => ⟨GitHub.run_send_of_bad, fun hne => ?_⟩,
    fun what answer => ⟨GitHub.isLast_verdict_iff what answer,
      fun j => GitHub.verdict_eq_success_iff⟩⟩
  · obtain ⟨failures, result, after, hends, hrun⟩ :=
      exists_ends p "completion failed, retrying" (Completion.attempt (ask r)) site
    obtain ⟨before, -, hlast⟩ := hends.last
    exact ⟨failures, result, after, hends, Completion.isLast_iff hlast,
      Completion.run_persistent hrun⟩
  · obtain ⟨failures, result, after, hends, hrun⟩ :=
      exists_ends g.retry "GitHub request failed, retrying" (GitHub.attempt what c) site
    exact ⟨failures, result, after, hends, GitHub.quiet_attempt what c,
      fun r hreading => GitHub.exchanged_of_ends hreading hends, GitHub.run_send_of_ne hne hrun⟩

/-- A host that is down at first. -/
def busyHost : Site :=
  { Site.ofDisk ⟨[], []⟩ with
    wire := ⟨some "http://host", [.answer 502 "", .answer 201 "\x7b\x7d"], []⟩ }

def busyCall : Http.Call := Http.posting "http://host/repos/a/b/pulls" [] .null

/-- It is asked twice, with a pause in between. -/
theorem repeated_calls_busyHost :
    ∃ r failures result after,
      busyCall.reading busyHost.wire.address = .request r ∧ failures.length = 1 ∧
        GitHub.Exchanged ⟨3, 2000, 10000⟩ "create pull request" r busyHost failures result after ∧
        after.wire.requests = [r, r] ∧ after.pauses = [2000] := by
  have hreading : busyCall.reading busyHost.wire.address = .request
      ⟨"POST", "/repos/a/b/pulls", [("content-type", "application/json")], some .null⟩ := rfl
  obtain ⟨-, hhost, -⟩ := repeated_calls busyHost
  obtain ⟨failures, result, after, hends, hquiet, hexchanged, hrun⟩ :=
    (hhost ⟨"http://host", "a/b", "t", ⟨3, 2000, 10000⟩⟩ "create pull request" busyCall).2
      (by rw [hreading]; exact Http.Reading.noConfusion)
  have hexchanged := hexchanged _ hreading
  -- The first answer lets the call be repeated, the second one does not.
  have hfirst : ¬(GitHub.verdict "create pull request" (some ⟨502, ""⟩)).IsLast := by
    rw [GitHub.isLast_verdict_iff]
    rintro ⟨a, h, hstatus⟩
    cases h
    exact hstatus (by decide)
  have hsecond : (GitHub.verdict "create pull request" (some ⟨201, "\x7b\x7d"⟩)).IsLast :=
    (GitHub.isLast_verdict_iff _ _).mpr ⟨_, rfl, by decide⟩
  have hlength : failures.length = 1 := by
    rcases failures with _ | ⟨f, _ | ⟨f', rest⟩⟩
    · rcases hends.stops with h | h
      · exact absurd (hexchanged.result_eq ▸ h) hfirst
      · exact absurd h (by decide)
    · rfl
    · rw [show some ⟨201, "\x7b\x7d"⟩ = (busyHost.wire.nth 1).answer? from rfl,
        hexchanged.failed 1 f' rfl] at hsecond
      cases hsecond
  refine ⟨_, failures, result, after, hreading, hlength, hexchanged, ?_⟩
  rw [hexchanged.after_eq, hlength]
  exact ⟨rfl, rfl⟩

end Retry

end AgentWorkflow
