/-
Where the requests for a repository go.

* `GitHub.Ask` — what is asked of the host for a repository, one after the other.
* `GitHub.Operation` — what can be done in a repository, and what is asked for it.
* `GitHub.Operation.goes_after` — an operation sends requests of its own kinds and no others.
* `GitHub.requests_below_iff` — when they are sent as they are written, and when they stay below the
  address of the repository.

Design notes: the branch that another one starts from is the only text from outside that comes into
an address.  The name of the repository comes into all of them, and neither is escaped there.
-/
import AgentWorkflow.Proofs.RequestTargets
import AgentWorkflow.Proofs.Retries
import AgentWorkflow.Proofs.SiteParts

namespace AgentWorkflow

variable {α β : Type}

namespace Http

/-- A request that is sent is the call, at a server whose address the call begins with. -/
theorem Call.eq_of_reading {c : Call} {server : Option String} {r : Request}
    (h : c.reading server = .request r) :
    ∃ address rest, server = some address ∧ Text.dropHead? address c.address = some rest ∧
      Target.ofAddress? rest c.parameters = some r.target ∧ r.method = c.method := by
  unfold Call.reading at h
  rcases server with _ | address
  · cases h
  · rw [Option.bind_some] at h
    rcases hrest : Text.dropHead? address c.address with _ | rest
    · rw [hrest] at h
      cases h
    · rw [hrest] at h
      dsimp only at h
      split at h
      · cases h
      · next target htarget =>
        split at h
        · cases h
          exact ⟨address, rest, rfl, hrest, htarget, rfl⟩
        · cases h

theorem send_of_no_request {c : Call} {site : Site}
    (h : ∀ r, c.reading site.wire.address ≠ .request r) : send c site = (none, site) := by
  unfold send
  simp only [bind, StateT.bind, get, getThe, MonadStateOf.get, StateT.get, pure]
  rcases hreading : c.reading site.wire.address with _ | _ | r
  · rfl
  · rfl
  · exact absurd hreading (h r)

end Http

theorem Wire.exchange_requests (w : Wire) (r : Http.Request) :
    (w.exchange r).2.address = w.address ∧ (w.exchange r).2.requests = w.requests ++ [r] := by
  unfold exchange
  split
  · exact ⟨rfl, rfl⟩
  · exact ⟨rfl, rfl⟩

theorem Text.dropHead?_append (head s : String) : dropHead? head (head ++ s) = some s := by
  have hbegins : beginsWith head (head ++ s) = true := by
    rw [beginsWith, String.toList_append, List.isPrefixOf_iff_prefix]
    exact List.prefix_append _ _
  rw [dropHead?, if_pos hbegins, String.toList_append, ← String.length_toList, List.drop_left,
    String.ofList_toList]

namespace GitHub

/-! ### What is asked -/

/-- What is asked of the host for a repository. -/
inductive Ask where
  | issues
  | pullRequests
  /-- At which commit a branch is. -/
  | commit (branch : String)
  | newBranch
  | newPullRequest

namespace Ask

def method : Ask → String
  | issues | pullRequests | commit _ => "GET"
  | newBranch | newPullRequest => "POST"

/-- What follows the address of the repository. -/
def path : Ask → String
  | issues => "issues"
  | pullRequests | newPullRequest => "pulls"
  | commit branch => "git/ref/heads/" ++ branch
  | newBranch => "git/refs"

def parameters : Ask → String
  | issues | pullRequests => "state=open&per_page=30"
  | _ => ""

end Ask

/-- What can be done in a repository. -/
inductive Operation where
  | openIssues
  | openPullRequests
  | createBranch (name base : String)
  | createPullRequest (draft : PullRequest)

namespace Operation

/-- The site after an operation. -/
def after (g : GitHub) : Operation → Site → Site
  | openIssues, site => (g.openIssues.run site).2
  | openPullRequests, site => (g.openPullRequests.run site).2
  | createBranch name base, site => ((g.createBranch name base).run site).2
  | createPullRequest draft, site => ((g.createPullRequest draft).run site).2

/-- What is asked for an operation, the first thing first. -/
def asks : Operation → List Ask
  | openIssues => [.issues]
  | openPullRequests => [.pullRequests]
  | createBranch _ base => [.commit base, .newBranch]
  | createPullRequest _ => [.newPullRequest]

end Operation

/-! ### What is sent -/

/-- A request asks the server at an address for something in the repository. -/
def Asked (g : GitHub) (ask : Ask) (server : String) (r : Http.Request) : Prop :=
  r.method = ask.method ∧ ∃ rest, Text.dropHead? server (g.addressOf ask.path) = some rest ∧
    Http.Target.ofAddress? rest ask.parameters = some r.target

/-- From the first site to the second, requests of the given kinds are sent and no others. -/
def Asking (g : GitHub) (asks : List Ask) (a b : Site) : Prop :=
  b.wire.address = a.wire.address ∧ ∃ sent, b.wire.requests = a.wire.requests ++ sent ∧
    ∀ r ∈ sent, ∃ ask ∈ asks, ∃ server, a.wire.address = some server ∧ g.Asked ask server r

variable {g : GitHub} {asks : List Ask}

instance : Std.Refl (Asking g asks) := ⟨fun _ => ⟨rfl, [], (List.append_nil _).symm, by simp⟩⟩

instance : IsTrans Site (Asking g asks) where
  trans := by
    rintro a b c ⟨haddress, sent, hsent, hasked⟩ ⟨haddress', more, hmore, hasked'⟩
    refine ⟨haddress'.trans haddress, sent ++ more, ?_, fun r hr => ?_⟩
    · rw [hmore, hsent, List.append_assoc]
    · rcases List.mem_append.mp hr with hr | hr
      · exact hasked r hr
      · exact haddress ▸ hasked' r hr

theorem goes_note (n : Note) : Goes (Asking g asks) (Deed.note n) :=
  fun _ => ⟨rfl, [], (List.append_nil _).symm, by simp⟩

theorem goes_pause (ms : Nat) : Goes (Asking g asks) (Deed.pause ms) :=
  fun _ => ⟨rfl, [], (List.append_nil _).symm, by simp⟩

/-- A call is made for the thing it is made for. -/
theorem goes_call {ask : Ask} (hask : ask ∈ asks) {c : Http.Call} (hmethod : c.method = ask.method)
    (haddress : c.address = g.addressOf ask.path) (hparameters : c.parameters = ask.parameters) :
    Goes (Asking g asks) (Http.send c) := by
  intro site
  by_cases hnone : ∀ r, c.reading site.wire.address ≠ .request r
  · rw [Http.send_of_no_request hnone]
    exact refl_of (Asking g asks) site
  · obtain ⟨r, hreading⟩ := not_forall_not.mp hnone
    obtain ⟨server, rest, hserver, hrest, htarget, hsame⟩ := Http.Call.eq_of_reading hreading
    obtain ⟨hwire, hrequests⟩ := site.wire.exchange_requests r
    rw [Http.send_of_request hreading]
    refine ⟨hwire, [r], hrequests, fun r' hr' => ?_⟩
    rw [List.mem_singleton.mp hr']
    exact ⟨ask, hask, server, hserver, hsame.trans hmethod, rest, haddress ▸ hrest,
      hparameters ▸ htarget⟩

/-- A call is made for something in the repository. -/
structure Ask.IsCall (g : GitHub) (ask : Ask) (c : Http.Call) : Prop where
  method_eq : c.method = ask.method
  address_eq : c.address = g.addressOf ask.path
  parameters_eq : c.parameters = ask.parameters
  /-- The token is all that may keep it from being sent. -/
  headers_ok : Http.isHeaderValue ("Bearer " ++ g.token) = true →
    (c.headers.all fun h => Http.isHeaderValue h.2) = true

theorem headers_ok (h : Http.isHeaderValue ("Bearer " ++ g.token) = true) :
    (g.headers.all fun h => Http.isHeaderValue h.2) = true := by
  have haccept : Http.isHeaderValue "application/vnd.github+json" = true := by decide
  have hagent : Http.isHeaderValue "autopilot/0.1.0" = true := by decide
  rw [headers, Http.bearer]
  simp only [List.all_cons, List.all_nil, Bool.and_true, haccept, hagent, h]

theorem isCall_getting {ask : Ask} (hmethod : ask.method = "GET") :
    ask.IsCall g (Http.getting (g.addressOf ask.path) ask.parameters g.headers) :=
  ⟨hmethod.symm, rfl, rfl, headers_ok⟩

theorem isCall_posting {ask : Ask} (hmethod : ask.method = "POST")
    (hparameters : ask.parameters = "") (body : Json) :
    ask.IsCall g (Http.posting (g.addressOf ask.path) g.headers body) := by
  refine ⟨hmethod.symm, rfl, hparameters.symm, fun h => ?_⟩
  have hcontent : Http.isHeaderValue "application/json" = true := by decide
  rw [Http.posting, List.all_append, headers_ok h]
  simp only [List.all_cons, List.all_nil, hcontent, Bool.and_true]

/-- The host of the repository is a server at the site, or what is below a path there. -/
structure IsAt (g : GitHub) (site : Site) (server base : String) : Prop where
  server_eq : site.wire.address = some server
  address_eq : g.address = server ++ base
  base_slash : ∀ c ∈ base.toList.head?, c = '/'

/-- A job sends requests of the given kinds and no others.  When the token can be sent and the host
is there, it sends one at least. -/
structure Asks (g : GitHub) (asks : List Ask) (j : Job α) : Prop where
  goes : Goes (Asking g asks) j.run
  sends : ∀ site server base, g.IsAt site server base →
    Http.isHeaderValue ("Bearer " ++ g.token) = true →
      site.wire.requests.length < (j.run site).2.wire.requests.length

theorem Asks.bind {j : Job α} {f : α → Job β} (hj : Asks g asks j)
    (hf : ∀ a, Goes (Asking g asks) (f a).run) : Asks g asks (j >>= f) where
  goes := Goes.run_bind hj.goes hf
  sends site server base hat htoken := by
    have hfirst := hj.sends site server base hat htoken
    rw [Job.run_bind]
    rcases hrun : j.run site with ⟨e | a, site'⟩
    · rw [hrun] at hfirst
      exact hfirst
    · rw [hrun] at hfirst
      obtain ⟨-, sent, hsent, -⟩ := hf a site'
      change site.wire.requests.length < ((f a).run site').2.wire.requests.length
      rw [hsent, List.length_append]
      exact Nat.lt_add_right _ hfirst

theorem toList_below (root path : String) :
    (root ++ "/" ++ path).toList = root.toList ++ '/' :: path.toList := by
  have hslash : "/".toList = ['/'] := by decide
  rw [String.toList_append, String.toList_append, hslash, List.append_assoc, List.singleton_append]

theorem toList_root (base repository : String) : (base ++ "/repos/" ++ repository).toList =
    base.toList ++ '/' :: ("repos".toList ++ '/' :: repository.toList) := by
  have hrepos : "/repos/".toList = '/' :: ("repos".toList ++ ['/']) := by decide
  rw [String.toList_append, String.toList_append, hrepos]
  simp only [List.append_assoc, List.cons_append, List.nil_append]

theorem IsAt.head?_root {site : Site} {server base : String} (hat : g.IsAt site server base)
    (repository : String) : (base ++ "/repos/" ++ repository).toList.head? = some '/' := by
  rw [toList_root, List.head?_append]
  rcases hhead : base.toList.head? with _ | c
  · rfl
  · rw [hat.base_slash c hhead]
    rfl

/-- What follows the address of the server begins with a slash. -/
theorem IsAt.dropHead? {site : Site} {server base : String} (hat : g.IsAt site server base)
    (path : String) : ∃ cs,
      Text.dropHead? server (g.addressOf path) =
        some (base ++ "/repos/" ++ g.repository ++ "/" ++ path) ∧
      (base ++ "/repos/" ++ g.repository ++ "/" ++ path).toList = '/' :: cs := by
  have haddress : g.addressOf path =
      server ++ (base ++ "/repos/" ++ g.repository ++ "/" ++ path) := by
    simp only [addressOf, hat.address_eq, String.append_assoc]
  obtain ⟨more, hroot⟩ := Http.Target.exists_of_head? (hat.head?_root g.repository)
  exact ⟨_, by rw [haddress, Text.dropHead?_append], by rw [toList_below, hroot, List.cons_append]⟩

theorem asks_send {ask : Ask} (hask : ask ∈ asks) {c : Http.Call} (hcall : ask.IsCall g c)
    (what : String) : Asks g asks (g.send what c) where
  goes := by
    have hparts : MadeOf (Deed.OnWire (· = c)) (g.send what c).run := g.madeOf_send what rfl
    refine hparts.goes fun _ _ hpart => hpart.goes goes_note goes_pause fun c' hsent => ?_
    rw [hsent]
    exact goes_call hask hcall.method_eq hcall.address_eq hcall.parameters_eq
  sends site server base hat htoken := by
    obtain ⟨cs, hdrop, hcs⟩ := hat.dropHead? ask.path
    have hreading : ∃ r, c.reading site.wire.address = .request r := by
      unfold Http.Call.reading
      rw [hat.server_eq, Option.bind_some, hcall.address_eq, hdrop]
      dsimp only
      rw [Http.Target.ofAddress?_eq c.parameters hcs]
      dsimp only
      rw [if_pos (hcall.headers_ok htoken)]
      exact ⟨_, rfl⟩
    obtain ⟨r, hreading⟩ := hreading
    obtain ⟨failures, result, after, hends, hrun⟩ := Retry.exists_ends g.retry
      "GitHub request failed, retrying" (attempt what c) site
    have hne : c.reading site.wire.address ≠ .badAddress := by
      rw [hreading]
      exact Http.Reading.noConfusion
    rw [run_send_of_ne hne hrun, (exchanged_of_ends hreading hends).after_eq]
    simp [afterRequests, Wire.repeated]

theorem asks_openItems {ask : Ask} (hask : ask ∈ asks) (hmethod : ask.method = "GET")
    (hparameters : ask.parameters = "state=open&per_page=30") (what : String) :
    Asks g asks (g.openItems what ask.path) := by
  have hread : Asks g asks (g.read what ask.path ask.parameters) :=
    asks_send hask (isCall_getting hmethod) what
  rw [hparameters] at hread
  refine hread.bind fun found => ?_
  split
  · exact Goes.run_pure _
  · exact Goes.run_throw _

theorem asks_commitOf (g : GitHub) (branch : String) :
    Asks g [.commit branch, .newBranch] (g.commitOf branch) := by
  have hread : Asks g [.commit branch, .newBranch]
      (g.read "read base branch" ("git/ref/heads/" ++ branch) "") :=
    asks_send List.mem_cons_self (isCall_getting rfl) "read base branch"
  refine hread.bind fun found => ?_
  split
  · exact Goes.run_pure _
  · exact Goes.run_throw _

/-- The host is asked for what an operation takes, and for nothing else. -/
theorem asks_operation (g : GitHub) :
    Asks g [.issues] g.openIssues ∧ Asks g [.pullRequests] g.openPullRequests ∧
      (∀ name base, Asks g [.commit base, .newBranch] (g.createBranch name base)) ∧
      ∀ draft, Asks g [.newPullRequest] (g.createPullRequest draft) := by
  have hissues : Asks g [.issues] (g.openItems "list issues" Ask.issues.path) :=
    asks_openItems List.mem_cons_self rfl rfl "list issues"
  have hpulls : Asks g [.pullRequests] (g.openItems "list pull requests" Ask.pullRequests.path) :=
    asks_openItems List.mem_cons_self rfl rfl "list pull requests"
  refine ⟨hissues.bind fun _ => Job.goes_ofOutcome _, hpulls.bind fun _ => Job.goes_ofOutcome _,
    fun name base => ?_, fun draft => ?_⟩
  · refine (asks_commitOf g base).bind fun commit => ?_
    have hnew : ∀ body, Asks g [.commit base, .newBranch]
        (g.create "create branch" "git/refs" body) := fun body =>
      asks_send (List.mem_cons_of_mem _ List.mem_cons_self) (isCall_posting rfl rfl body)
        "create branch"
    exact Goes.run_bind (hnew _).goes fun _ => Goes.run_pure ()
  · have hnew : ∀ body, Asks g [.newPullRequest] (g.create "create pull request" "pulls" body) :=
      fun body => asks_send List.mem_cons_self (isCall_posting rfl rfl body) "create pull request"
    exact (hnew _).bind fun _ => Job.goes_ofOutcome _

/-! ### Where it is sent -/

open Http.Target (IsPlain EndsPlain NeverLeaves literal escape escapedInPath isDots isTwoDots
  pathPart slashed)

/-- The text that comes into the address, if there is one, is plain and does not end in blanks. -/
def Ask.IsPlain : Ask → Prop
  | commit branch => Http.Target.IsPlain branch.toList ∧ EndsPlain branch.toList
  | _ => True

/-- The steps of that text never lead above the repository: the text stands three steps below it. -/
def Ask.StaysBelow : Ask → Prop
  | commit branch => NeverLeaves 3 (Text.cutAt '/' (slashed (pathPart branch.toList)))
  | _ => True

theorem Ask.toList_commit (branch : String) :
    (commit branch).path.toList = "git/ref/heads".toList ++ '/' :: branch.toList := by
  have hheads : "git/ref/heads/".toList = "git/ref/heads".toList ++ ['/'] := by decide
  rw [path, String.toList_append, hheads, List.append_assoc, List.singleton_append]

theorem Ask.isPlain_path_iff (ask : Ask) :
    Http.Target.IsPlain ask.path.toList ∧ EndsPlain ask.path.toList ↔ ask.IsPlain := by
  cases ask with
  | commit branch =>
    have hfront : Http.Target.IsPlain "git/ref/heads".toList := by decide
    rw [toList_commit, Http.Target.isPlain_append_iff, Http.Target.endsPlain_append_iff, and_assoc,
      and_iff_right hfront]
    exact Iff.rfl
  | issues => exact iff_of_true (by decide) trivial
  | pullRequests => exact iff_of_true (by decide) trivial
  | newBranch => exact iff_of_true (by decide) trivial
  | newPullRequest => exact iff_of_true (by decide) trivial

theorem Ask.StaysBelow.neverLeaves {ask : Ask} (h : ask.StaysBelow) :
    NeverLeaves 0 (Text.cutAt '/' (slashed (pathPart ask.path.toList))) := by
  cases ask with
  | commit branch =>
    have hslash : slashed ('/' :: pathPart branch.toList) =
        '/' :: slashed (pathPart branch.toList) := rfl
    have hheads : Http.Target.IsPlain "git/ref/heads".toList := by decide
    have hfront : Text.cutAt '/' (slashed "git/ref/heads".toList) =
        ["git".toList, "ref".toList, "heads".toList] := by decide
    rw [toList_commit, Http.Target.pathPart_append hheads.chars, Http.Target.slashed_append, hslash,
      Text.cutAt_append, hfront, List.cons_append, List.cons_append, List.cons_append,
      List.nil_append]
    exact .cons_name (by decide) (.cons_name (by decide)
      (.cons_name (by decide) h))
  | issues => decide
  | pullRequests => decide
  | newBranch => decide
  | newPullRequest => decide

theorem eq_of_ofName {address repository token : String} {retry : Retry.Policy}
    (h : ofName address repository token retry = .ok g) :
    g.repository = repository ∧ g.token = token := by
  unfold ofName at h
  split at h
  · cases h
    exact ⟨rfl, rfl⟩
  · cases h

/-- The requests that are sent for an operation, kind by kind. -/
theorem Operation.exists_sent {site : Site} {server base : String} (hat : g.IsAt site server base)
    (op : Operation) :
    ∃ sent, (op.after g site).wire.requests = site.wire.requests ++ sent ∧
      (Http.isHeaderValue ("Bearer " ++ g.token) = true → sent ≠ []) ∧
      ∀ r ∈ sent, ∃ ask ∈ op.asks, r.method = ask.method ∧
        Http.Target.ofAddress? (base ++ "/repos/" ++ g.repository ++ "/" ++ ask.path)
          ask.parameters = some r.target := by
  have hasks : Asking g op.asks site (op.after g site) ∧
      (Http.isHeaderValue ("Bearer " ++ g.token) = true →
        site.wire.requests.length < (op.after g site).wire.requests.length) := by
    obtain ⟨hissues, hpulls, hbranch, hrequest⟩ := g.asks_operation
    cases op with
    | openIssues => exact ⟨hissues.goes site, hissues.sends site server base hat⟩
    | openPullRequests => exact ⟨hpulls.goes site, hpulls.sends site server base hat⟩
    | createBranch name branch =>
      exact ⟨(hbranch name _).goes site, (hbranch name _).sends site server base hat⟩
    | createPullRequest draft =>
      exact ⟨(hrequest draft).goes site, (hrequest draft).sends site server base hat⟩
  obtain ⟨⟨-, sent, hsent, hasked⟩, hsends⟩ := hasks
  refine ⟨sent, hsent, fun htoken hnil => ?_, fun r hr => ?_⟩
  · have hlonger := hsends htoken
    rw [hsent, hnil, List.append_nil] at hlonger
    exact absurd hlonger (Nat.lt_irrefl _)
  · obtain ⟨ask, hask, server', hserver, hmethod, rest, hrest, htarget⟩ := hasked r hr
    obtain rfl := Option.some.inj (hat.server_eq.symm.trans hserver)
    obtain ⟨cs, hdrop, -⟩ := hat.dropHead? ask.path
    rw [hdrop] at hrest
    exact ⟨ask, hask, hmethod, Option.some.inj hrest ▸ htarget⟩

/-- The address of a repository is as plain as the name of the repository. -/
theorem isPlain_root_iff {base : String} (hbase : Http.Target.IsPlain base.toList)
    (repository : String) : Http.Target.IsPlain (base ++ "/repos/" ++ repository).toList ↔
      Http.Target.IsPlain repository.toList := by
  have hrepos : Http.Target.IsPlain "repos".toList := by decide
  rw [toList_root, Http.Target.isPlain_append_iff, Http.Target.isPlain_append_iff,
    and_iff_right hbase, and_iff_right hrepos]

/-- What is done in a repository sends requests for the things it takes and for no others, and one
at least when the token can be sent.  The target of a request is what it asks for, below the
address of the repository and escaped, exactly when the name of the repository is plain, and so is
the branch that a new one starts from, which ends in no blank.  With a plain name the target is
below that address when the steps of that branch never climb above the repository, as they do not
for all that else is asked. -/
theorem requests_below_iff {address repository token server base : String} {retry : Retry.Policy}
    {g : GitHub} {site : Site} (hopen : ofName address repository token retry = .ok g)
    (hat : g.IsAt site server base) (hbase : Http.Target.IsPlain base.toList) (op : Operation) :
    ∃ sent, (op.after g site).wire.requests = site.wire.requests ++ sent ∧
      (Http.isHeaderValue ("Bearer " ++ token) = true → sent ≠ []) ∧
      ∀ r ∈ sent, ∃ ask ∈ op.asks, r.method = ask.method ∧
        (r.target = literal (base ++ "/repos/" ++ repository ++ "/" ++ ask.path) ask.parameters ↔
          Http.Target.IsPlain repository.toList ∧ ask.IsPlain) ∧
        (Http.Target.IsPlain repository.toList → ask.StaysBelow → ∃ more, r.target.toList =
          escape escapedInPath (base ++ "/repos/" ++ repository).toList ++ '/' :: more) := by
  obtain ⟨rfl, rfl⟩ := eq_of_ofName hopen
  obtain ⟨sent, hsent, hsends, htargets⟩ := op.exists_sent hat
  refine ⟨sent, hsent, hsends, fun r hr => ?_⟩
  obtain ⟨ask, hask, hmethod, htarget⟩ := htargets r hr
  obtain ⟨cs, -, hcs⟩ := hat.dropHead? ask.path
  refine ⟨ask, hask, hmethod, ?_, fun hplain hstays => ?_⟩
  · have hliteral := Http.Target.ofAddress?_eq_literal_iff ask.parameters (by rw [hcs]; rfl)
    rwa [htarget, Option.some.injEq, toList_below, Http.Target.isPlain_append_iff,
      Http.Target.endsPlain_append_iff, and_assoc, isPlain_root_iff hbase,
      ask.isPlain_path_iff] at hliteral
  · obtain ⟨target, more, hbelow, htext⟩ := Http.Target.exists_below ask.parameters rfl
      (hat.head?_root _) ((isPlain_root_iff hbase _).mpr hplain) hstays.neverLeaves
    rw [htarget] at hbelow
    exact ⟨more, Option.some.inj hbelow ▸ htext⟩

/-- A host with one answer. -/
def missingHost : Site :=
  { Site.ofDisk ⟨[], []⟩ with wire := ⟨some "http://host", [.answer 404 ""], []⟩ }

/-- A repository of that host, below a path. -/
def widgets : GitHub := ⟨"http://host/v3", "acme/widgets", "t", ⟨1, 0, 0⟩⟩

theorem requests_below_iff_widgets :
    ∃ sent, ((Operation.createBranch "topic" "main").after widgets missingHost).wire.requests =
        [] ++ sent ∧ sent ≠ [] ∧
      ∀ r ∈ sent, ∃ ask ∈ (Operation.createBranch "topic" "main").asks,
        r.target = literal ("/v3/repos/acme/widgets/" ++ ask.path) ask.parameters := by
  have hopen : ofName "http://host/v3/" "acme/widgets" "t" ⟨1, 0, 0⟩ = .ok widgets := rfl
  have hslash : "/v3".toList.head? = some '/' := by decide
  have hat : widgets.IsAt missingHost "http://host" "/v3" :=
    ⟨rfl, rfl, fun c hc => (Option.some.inj (hslash.symm.trans hc)).symm⟩
  obtain ⟨sent, hsent, hsends, hasked⟩ :=
    requests_below_iff hopen hat (by decide) (.createBranch "topic" "main")
  refine ⟨sent, hsent, hsends (by decide), fun r hr => ?_⟩
  obtain ⟨ask, hask, -, hliteral, -⟩ := hasked r hr
  have hplain : ask.IsPlain := by
    rcases List.mem_pair.mp hask with rfl | rfl
    · exact ⟨by decide, by decide⟩
    · exact trivial
  exact ⟨ask, hask, hliteral.mpr ⟨by decide, hplain⟩⟩

/-- A branch whose steps climb out of the repository: another repository is asked. -/
theorem createBranch_leaves :
    (((Operation.createBranch "topic" "../../../../../other/repo/git/ref/heads/main").after widgets
        missingHost).wire.requests.map fun r => r.target) =
      ["/v3/repos/other/repo/git/ref/heads/main"] ∧
    ¬"/v3/repos/acme/widgets/".toList <+: "/v3/repos/other/repo/git/ref/heads/main".toList := by
  refine ⟨?_, by decide⟩
  decide +kernel

end GitHub

end AgentWorkflow
