/-
Files that are written, read back and edited.

* `Path.Same` — two spellings of a path; `Path.same_dotted`, any number of dots before it.
* `Disk.endsIdle_of_approach`, `Disk.find_put_iff` — no path that ends in a slash or a dot leads
  to a file, and every other spelling leads to the file that was written.
* `Disk.Writes` — a file has a content, and nothing else is changed but that directories are new.
* `Tool.readFile_eq_ok_iff`, `Tool.exists_written`, `Tool.Edits.run`, `Tool.editFile_of_not` — what
  the tools do.
* `Tool.files_written` — what is written is read again, and what is edited is replaced.

Design notes: the place of a file is where its path leads when the directories above it have been
made, and another spelling leads there as it is followed by the same steps.  So neither a tree nor
a root that is there is asked for.
-/
import AgentWorkflow.Proofs.MadeDirectories
import AgentWorkflow.Proofs.Replacements

namespace AgentWorkflow

/-! ### Spellings -/

namespace Path

/-- Two texts spell the same path: both start at the root or neither does, and they have the same
steps. -/
def Same (path text : String) : Prop :=
  isAbsolute text = isAbsolute path ∧ steps text = steps path

theorem Same.join {path text : String} (h : Same path text) (hpath : isAbsolute path = false)
    (root : String) : Same (join root path) (join root text) := by
  have htext := h.1.trans hpath
  exact ⟨by rw [isAbsolute_join root htext, isAbsolute_join root hpath],
    by rw [steps_join root htext, steps_join root hpath, h.2]⟩

theorem Same.staysInside {path text : String} (h : Same path text)
    (hpath : staysInside path = true) : staysInside text = true := by
  rw [staysInside_iff, ← mem_steps_up] at hpath ⊢
  rwa [h.1, h.2]

/-- A path after so many dots. -/
def dotted (n : Nat) (path : String) : String := String.join (List.replicate n "./") ++ path

theorem dotted_succ (n : Nat) (path : String) :
    dotted (n + 1) path = "." ++ "/" ++ dotted n path := by
  unfold dotted
  rw [List.replicate_succ, String.join_cons, String.append_assoc]
  rfl

theorem segments_dotted (n : Nat) (path : String) :
    segments (dotted n path) = List.replicate n "." ++ segments path := by
  induction n with
  | zero =>
    rw [dotted, List.replicate_zero, String.join_nil, String.empty_append]
    rfl
  | succ n ih =>
    rw [dotted_succ, segments_append, ih, show segments "." = ["."] by decide,
      List.replicate_succ]
    rfl

theorem steps_dotted (n : Nat) (path : String) : steps (dotted n path) = steps path := by
  have hdots : (List.replicate n ".").filter (fun s => s != "" && s != ".") = [] := by
    rw [List.filter_replicate_of_neg (by decide)]
  rw [steps_eq, segments_dotted, List.filter_append, hdots, List.nil_append, steps_eq]

theorem same_dotted (n : Nat) {path : String} (hpath : isAbsolute path = false) :
    Same path (dotted n path) := by
  refine ⟨?_, steps_dotted n path⟩
  rw [hpath]
  rcases n with _ | n
  · rwa [dotted, List.replicate_zero, String.join_nil, String.empty_append]
  · rw [dotted_succ, String.append_assoc, isAbsolute_append (by decide)]
    decide

theorem utf8ByteSize_dotted (n : Nat) (path : String) :
    (dotted n path).utf8ByteSize = 2 * n + path.utf8ByteSize := by
  induction n with
  | zero => rw [dotted, List.replicate_zero, String.join_nil, String.empty_append, Nat.mul_zero,
      Nat.zero_add]
  | succ n ih =>
    rw [dotted_succ, String.utf8ByteSize_append, ih,
      show ("." ++ "/").utf8ByteSize = 2 by decide]
    omega

theorem utf8ByteSize_le_join (root path : String) :
    path.utf8ByteSize ≤ (join root path).utf8ByteSize := by
  unfold join
  split
  · exact Nat.le_refl _
  · split
    · rw [String.utf8ByteSize_append]
      exact Nat.le_add_left _ _
    · rw [String.utf8ByteSize_append]
      exact Nat.le_add_left _ _

/-- The characters of a path but slashes and dots are those of its steps. -/
theorem mem_iff_steps {path : String} {c : Char} (hslash : c ≠ '/') (hdot : c ≠ '.') :
    c ∈ path.toList ↔ ∃ step ∈ steps path, c ∈ step.toList := by
  rw [mem_iff_segments hslash]
  constructor
  · rintro ⟨piece, hpiece, hmem⟩
    refine ⟨piece, ?_, hmem⟩
    rw [steps_eq, List.mem_filter, not_isIdle, Bool.not_eq_true']
    refine ⟨hpiece, Bool.eq_false_iff.mpr fun hidle => ?_⟩
    rcases isIdle_iff.mp hidle with rfl | rfl
    · cases hmem
    · rw [show ".".toList = ['.'] by decide] at hmem
      exact hdot (List.mem_singleton.mp hmem)
  · rintro ⟨piece, hpiece, hmem⟩
    rw [steps_eq] at hpiece
    exact ⟨piece, List.mem_of_mem_filter hpiece, hmem⟩

theorem steps_ne_nil {path : String} (h : endsIdle path = false) : steps path ≠ [] := by
  obtain ⟨front, last, hnames, hlast⟩ := exists_names_of_not_endsIdle h
  rw [steps, hnames, List.filter_append, List.filter_singleton, show (last != ".") = true by simpa]
  simp

end Path

namespace Disk

open AgentWorkflow.Path (steps endsIdle Same Towards)

variable {d d' : Disk} {place p : Place} {t : Target} {root path text : String}
  {content old : List UInt8}

theorem checkPath_same (hcheck : checkPath path = .ok ()) (hidle : endsIdle path = false)
    (hsame : Same path text) : checkPath text = .ok () ↔ text.utf8ByteSize ≤ pathLimit := by
  have hnul : '\x00' ∉ text.toList := by
    rw [Path.mem_iff_steps (by decide) (by decide), hsame.2,
      ← Path.mem_iff_steps (by decide) (by decide)]
    exact (checkPath_iff.mp hcheck).1
  have hempty : text ≠ "" := by
    rintro rfl
    have hsteps := hsame.2
    rw [show steps "" = [] by decide] at hsteps
    exact Path.steps_ne_nil hidle hsteps.symm
  rw [checkPath_iff]
  exact ⟨fun h => h.2.2, fun h => ⟨hnul, hempty, h⟩⟩

/-- A path that does not end in a slash as it is approached ends in a dot only where it leads to a
directory. -/
theorem endsIdle_of_approach (h : d.approach path = .ok (t, false))
    (ht : ∀ q, t ≠ .found q .directory) : endsIdle path = false := by
  obtain ⟨hcheck, hfollow, hslash⟩ := of_approach h
  rw [Bool.eq_false_iff]
  intro hidle
  rcases Path.of_endsIdle (checkPath_iff.mp hcheck).2.1 hidle with hends | ⟨front, hnames⟩
  · rw [hends] at hslash
    cases hslash
  · rw [hnames] at hfollow
    obtain ⟨q, -, hdot⟩ := exists_of_follow_append (List.cons_ne_nil _ _) hfollow
    rw [follow_singleton] at hdot
    obtain ⟨hplace, -⟩ := step_cases hdot
    rw [step_dot hplace] at hdot
    exact ht q (Except.ok.inj hdot).symm

theorem approach_of_find_file (h : d.find path = .ok (p, .file content)) :
    d.approach path = .ok (.found p (.file content), false) := by
  obtain ⟨slash, happroach⟩ := of_find h
  rcases slash with _ | _
  · exact happroach
  · unfold find locate at h
    rw [happroach] at h
    cases h

/-! ### Files that are written -/

/-- A target where a file is or nothing, at a place. -/
def TakesFile (p : Place) (t : Target) : Prop :=
  t = .vacant p ∨ ∃ old, t = .found p (.file old)

theorem TakesFile.ne_directory (h : TakesFile p t) (q : Place) : t ≠ .found q .directory := by
  rintro rfl
  rcases h with heq | ⟨_, heq⟩
  · cases heq
  · cases heq

theorem TakesFile.lookup (h : TakesFile p t) {names : List String}
    (hfollow : d.follow place names = .ok t) : d.lookup? p ≠ some .directory := by
  have hagrees := agrees_of_follow hfollow
  rcases h with rfl | ⟨old, rfl⟩
  · rw [show d.lookup? p = none from hagrees]
    exact nofun
  · rw [show d.lookup? p = some (.file old) from hagrees]
    exact nofun

/-- A directory is never where a file is put, so every directory stays. -/
theorem keeps_put_file (hfree : d.lookup? p ≠ some .directory) (entry : Entry) :
    p ≠ [] ∧ Keeps [] d (d.put p entry) := by
  have hp : p ≠ [] := by
    rintro rfl
    exact hfree rfl
  exact ⟨hp, .put ⟨p, hp, rfl⟩ hfree entry⟩

/-- Names that lead to a file, or to nothing, lead to the file that is put there. -/
theorem follow_put {names : List String} (h : d.follow place names = .ok t)
    (ht : TakesFile p t) (content : List UInt8) :
    (d.put p (.file content)).follow place names = .ok (.found p (.file content)) := by
  obtain ⟨hp, hkeeps⟩ := keeps_put_file (ht.lookup h) (.file content)
  have hself := @lookup?_put_self d p hp (.file content)
  induction names generalizing place with
  | nil =>
    obtain ⟨entry, -, rfl⟩ := follow_nil h
    rcases ht with heq | ⟨_, heq⟩
    · cases heq
    · obtain ⟨rfl, -⟩ := Target.found.inj heq
      rw [follow, hself]
  | cons name rest ih =>
    rcases eq_or_ne rest [] with rfl | hne
    · rw [follow_singleton] at h ⊢
      obtain ⟨hplace, ⟨-, rfl⟩ | ⟨-, rfl⟩ | ⟨hname, hdown⟩⟩ := step_cases h
      · exact absurd rfl (ht.ne_directory _)
      · exact absurd rfl (ht.ne_directory _)
      · have hthere : p = place ++ [name] := by
          rcases hdown with ⟨entry, -, rfl⟩ | ⟨-, rfl⟩
          · rcases ht with heq | ⟨_, heq⟩
            · cases heq
            · exact (Target.found.inj heq).1.symm
          · rcases ht with heq | ⟨_, heq⟩
            · exact (Target.vacant.inj heq).symm
            · cases heq
        subst hthere
        exact step_down (hkeeps.directories _ hplace) hname hself
    · obtain ⟨q, entry, hstep, hrest⟩ := exists_of_follow_cons hne h
      rw [eq_of_step hstep (lookup_of_follow hne hrest)] at hstep
      rw [follow_cons_of_found (hkeeps.step hstep) hne]
      exact ih hrest

theorem of_write_takesFile (h : d.write path content = .ok d') :
    ∃ p t, TakesFile p t ∧ d.approach path = .ok (t, false) ∧ d' = d.put p (.file content) := by
  obtain ⟨p, rfl, ⟨old, happroach⟩ | happroach⟩ := of_write h
  · exact ⟨p, _, .inr ⟨old, rfl⟩, happroach, rfl⟩
  · exact ⟨p, _, .inl rfl, happroach, rfl⟩

/-- Of the spellings of a path at which a file was written, all lead to it but those that end in a
slash or a dot and those that are too long; these lead to no file. -/
theorem find_put_iff (ht : TakesFile p t) (happroach : d.approach path = .ok (t, false))
    (hsame : Same path text) (content : List UInt8) {q : Place} :
    (d.put p (.file content)).find text = .ok (q, .file old) ↔
      (q = p ∧ old = content) ∧ endsIdle text = false ∧ text.utf8ByteSize ≤ pathLimit := by
  have hidle := endsIdle_of_approach happroach ht.ne_directory
  have hcheck := checkPath_same (of_approach happroach).1 hidle hsame
  have hfind (h : endsIdle text = false ∧ text.utf8ByteSize ≤ pathLimit) :
      (d.put p (.file content)).find text = .ok (p, .file content) := by
    have hfollow := follow_put (follow_steps happroach) ht content
    unfold find locate
    rw [approach_of_endsIdle (hcheck.mpr h.2) h.1, hsame.2, origin_congr hsame.1,
      show (d.put p (.file content)).origin path = d.origin path from rfl, hfollow]
    rfl
  constructor
  · intro h
    have htext := approach_of_find_file h
    have hboth := And.intro (endsIdle_of_approach htext (by rintro q ⟨⟩))
      (hcheck.mp (of_approach htext).1)
    rw [hfind hboth] at h
    cases h
    exact ⟨⟨rfl, rfl⟩, hboth⟩
  · rintro ⟨⟨rfl, rfl⟩, h⟩
    exact hfind h

theorem write_of_takesFile (ht : TakesFile p t) (happroach : d.approach path = .ok (t, false))
    (content : List UInt8) : d.write path content = .ok (d.put p (.file content)) := by
  unfold write
  rw [happroach]
  rcases ht with rfl | ⟨old, rfl⟩
  · rfl
  · rfl

theorem write_of_find (h : d.find path = .ok (p, .file old)) (content : List UInt8) :
    d.write path content = .ok (d.put p (.file content)) :=
  write_of_takesFile (.inr ⟨old, rfl⟩) (approach_of_find_file h) content

/-- A text is read from a file whose bytes spell it. -/
theorem readText_eq_ok_iff {s : String} : d.readText path = .ok s ↔
    ∃ p bytes, d.find path = .ok (p, .file bytes) ∧ Text.decode? bytes = some s := by
  constructor
  · intro h
    rcases hfind : d.find path with e | ⟨q, _ | bytes⟩
    · unfold readText read at h
      rw [hfind] at h
      cases h
    · unfold readText read at h
      rw [hfind] at h
      cases h
    · rw [readText_of_find hfind] at h
      rcases hdecode : Text.decode? bytes with _ | s'
      · rw [hdecode] at h
        cases h
      · rw [hdecode] at h
        cases h
        exact ⟨q, bytes, rfl, hdecode⟩
  · rintro ⟨p, bytes, hfind, hdecode⟩
    rw [readText_of_find hfind, hdecode]

/-- A file has a content, and every other place is as before or has a directory that is new. -/
structure Writes (new : Place → Prop) (p : Place) (content : List UInt8) (d d' : Disk) : Prop where
  workingDirectory : d'.workingDirectory = d.workingDirectory
  file : d'.lookup? p = some (.file content)
  other : ∀ q, q ≠ p → d'.lookup? q = d.lookup? q ∨
    new q ∧ d.lookup? q = none ∧ d'.lookup? q = some .directory

theorem Adds.writes {new : Place → Prop} (h : Adds new d d')
    (hfree : d'.lookup? p ≠ some .directory) (content : List UInt8) :
    Writes new p content d (d'.put p (.file content)) where
  workingDirectory := h.workingDirectory
  file := lookup?_put_self (keeps_put_file hfree (.file content)).1 _
  other := fun q hq => by
    rw [lookup?_put_of_ne hq]
    exact h.places q

/-- The directories above a path are made, if there can be any. -/
def makeAbove (d : Disk) (path : String) : Except OsError Unit × Disk :=
  match Path.parent? path with
  | some up => d.makeAll up
  | none => (.ok (), d)

/-- The directories above a path that was joined to a root are new on the way to it. -/
theorem adds_makeAbove (hinside : Path.staysInside path = true) :
    Adds (OnWay d root (steps path).dropLast) d (d.makeAbove (Path.join root path)).2 := by
  unfold makeAbove
  rcases hup : Path.parent? (Path.join root path) with _ | up
  · exact .refl _ d
  · have htowards := Path.towards_parent? (Path.staysInside_iff.mp hinside).1 hup
    exact .makeAll (fun name hname =>
      Path.isName_of_mem_steps hinside (List.dropLast_subset _ hname)) htowards

/-- What is written below a root is at the place of its steps, if the root leads to a directory. -/
theorem LeadsTo.eq_of_takesFile {r : Place} {slash : Bool} (hroot : d.LeadsTo root r)
    (hinside : Path.staysInside path = true) (ht : TakesFile p t)
    (h : d.approach (Path.join root path) = .ok (t, slash)) : p = r ++ steps path := by
  have hfollow := follow_join (Path.staysInside_iff.mp hinside).1 h
  rcases eq_or_ne (steps path) [] with hnil | hne
  · rw [hnil, List.append_nil, hroot] at hfollow
    exact absurd (Except.ok.inj hfollow).symm (ht.ne_directory r)
  · rw [follow_append hroot hne] at hfollow
    rcases follow_names (fun name => Path.isName_of_mem_steps hinside) hfollow with
      ⟨_, -, rfl⟩ | ⟨-, -, rfl⟩
    · rcases ht with heq | ⟨_, heq⟩
      · cases heq
      · exact (Target.found.inj heq).1.symm
    · rcases ht with heq | ⟨_, heq⟩
      · exact (Target.vacant.inj heq).symm
      · cases heq

end Disk

/-! ### The tools -/

namespace Tool

open AgentWorkflow.Path (steps staysInside endsIdle Same)

variable {site site' : Site} {root path text content search replacement : String}
  {x y : Table Json} {p : Place}

/-- A text means a file that spells a text. -/
def Spells (d : Disk) (root path : String) (p : Place) (s : String) : Prop :=
  ∃ bytes, d.Means root path p bytes ∧ Text.decode? bytes = some s

theorem spells_iff_readText {s : String} : (∃ p, Spells site.disk root path p s) ↔
    staysInside path = true ∧ site.disk.readText (Path.join root path) = .ok s := by
  rw [Disk.readText_eq_ok_iff]
  constructor
  · rintro ⟨p, bytes, ⟨hinside, hfind⟩, hdecode⟩
    exact ⟨hinside, p, bytes, hfind, hdecode⟩
  · rintro ⟨hinside, p, bytes, hfind, hdecode⟩
    exact ⟨p, bytes, ⟨hinside, hfind⟩, hdecode⟩

/-- A file is read when the text means one whose bytes are text, and nothing is changed. -/
theorem readFile_eq_ok_iff (htext : argument y "path" = .ok text) {answer : Json} :
    (readFile root y).run site = (.ok answer, site') ↔
      site' = site ∧ ∃ p s, Spells site.disk root text p s ∧ answer = .text s := by
  rw [readFile_eq htext, inside_bind]
  constructor
  · intro h
    split at h
    · next hinside =>
      rw [readAt, Job.run_bind, Job.run_readText] at h
      rcases hread : site.disk.readText (Path.join root text) with e | s
      · rw [hread] at h
        cases h
      · rw [hread] at h
        cases h
        obtain ⟨p, hspells⟩ := spells_iff_readText.mpr ⟨hinside, hread⟩
        exact ⟨rfl, p, s, hspells, rfl⟩
    · cases h
  · rintro ⟨rfl, p, s, hspells, rfl⟩
    obtain ⟨hinside, hread⟩ := spells_iff_readText.mp ⟨p, hspells⟩
    rw [if_pos hinside, readAt, Job.run_bind, Job.run_readText, hread]
    rfl

theorem run_writeAt (place : String) : (writeAt path content place).run site =
    match site.disk.makeAbove place with
    | (.error e, disk) => (.error ⟨["create directory for " ++ path], .os e⟩, { site with disk })
    | (.ok _, disk) =>
      match disk.write place (Text.encode content) with
      | .error e => (.error ⟨["write " ++ path], .os e⟩, { site with disk })
      | .ok disk => (.ok (.text ("Successfully wrote " ++ path)), { site with disk }) := by
  have hwrite (site : Site) : (do
      Job.change ("write " ++ path) fun d => d.write place (Text.encode content)
      pure (.text ("Successfully wrote " ++ path)) : Job Json).run site =
        match site.disk.write place (Text.encode content) with
        | .error e => (.error ⟨["write " ++ path], .os e⟩, site)
        | .ok disk => (.ok (.text ("Successfully wrote " ++ path)), { site with disk }) := by
    rw [Job.run_bind, Job.run_change]
    rcases site.disk.write place (Text.encode content) with e | d
    · rfl
    · rfl
  unfold writeAt Disk.makeAbove
  rcases Path.parent? place with _ | up
  · exact hwrite site
  · dsimp only
    rw [Job.run_bind, Job.run_makeDirs]
    rcases site.disk.makeAll up with ⟨e | _, disk⟩
    · rfl
    · exact hwrite { site with disk }

/-- What a call that writes a file has as arguments when it does not fail for them. -/
theorem writeFile_cases (root : String) (x : Table Json) :
    (∃ f, writeFile root x = Job.fail f) ∨ ∃ path content, argument x "path" = .ok path ∧
      argument x "content" = .ok content ∧ staysInside path = true ∧
      writeFile root x = writeAt path content (Path.join root path) := by
  rcases hpath : argument x "path" with f | path
  · refine .inl ⟨f, ?_⟩
    unfold writeFile
    rw [hpath]
    rfl
  rcases hcontent : argument x "content" with f | content
  · refine .inl ⟨f, ?_⟩
    unfold writeFile
    rw [hpath, hcontent]
    rfl
  rw [writeFile_eq hpath hcontent, inside_bind]
  split
  · next hinside => exact .inr ⟨path, content, rfl, rfl, hinside, rfl⟩
  · exact .inl ⟨_, rfl⟩

theorem writeAt_ok {place : String} {answer : Json}
    (h : (writeAt path content place).run site = (.ok answer, site')) :
    answer = .text ("Successfully wrote " ++ path) ∧ ∃ between disk,
      site.disk.makeAbove place = (.ok (), between) ∧
      between.write place (Text.encode content) = .ok disk ∧ site' = { site with disk } := by
  rw [run_writeAt] at h
  rcases hmade : site.disk.makeAbove place with ⟨e | _, between⟩
  · rw [hmade] at h
    cases h
  rw [hmade] at h
  dsimp only at h
  rcases hwritten : between.write place (Text.encode content) with e | disk
  · rw [hwritten] at h
    cases h
  · rw [hwritten] at h
    cases h
    exact ⟨rfl, between, disk, rfl, hwritten, rfl⟩

/-- Directories that were made stay when a file cannot be written. -/
theorem writeAt_error {place : String} {f : Failure}
    (h : (writeAt path content place).run site = (.error f, site')) :
    site' = { site with disk := (site.disk.makeAbove place).2 } := by
  rw [run_writeAt] at h
  rcases hmade : site.disk.makeAbove place with ⟨e | _, between⟩
  · rw [hmade] at h
    cases h
    rfl
  · rw [hmade] at h
    dsimp only at h
    rcases hwritten : between.write place (Text.encode content) with e | disk
    · rw [hwritten] at h
      cases h
      rfl
    · rw [hwritten] at h
      cases h

/-- A file that is written is there, whatever was, and each spelling of its path leads to it that
does not end in a slash or a dot and is not too long. -/
theorem exists_written {answer : Json} (h : (writeFile root x).run site = (.ok answer, site')) :
    ∃ path content p disk, (argument x "path" = .ok path ∧ argument x "content" = .ok content ∧
        staysInside path = true) ∧
      answer = .text ("Successfully wrote " ++ path) ∧ site' = { site with disk } ∧
      site.disk.Writes (site.disk.OnWay root (steps path).dropLast) p (Text.encode content) disk ∧
      (∀ r, site.disk.LeadsTo root r → p = r ++ steps path) ∧
      ∀ text q bytes, Same path text →
        (disk.find (Path.join root text) = .ok (q, .file bytes) ↔
          (q = p ∧ bytes = Text.encode content) ∧ endsIdle text = false ∧
            (Path.join root text).utf8ByteSize ≤ Disk.pathLimit) := by
  obtain ⟨f, hfail⟩ | ⟨path, content, hpath, hcontent, hinside, hwrite⟩ := writeFile_cases root x
  · rw [hfail] at h
    cases h
  have hrelative := (Path.staysInside_iff.mp hinside).1
  have hadds := @Disk.adds_makeAbove site.disk root path hinside
  rw [hwrite] at h
  obtain ⟨rfl, between, disk, hmade, hwritten, rfl⟩ := writeAt_ok h
  rw [hmade] at hadds
  obtain ⟨p, t, ht, happroach, rfl⟩ := Disk.of_write_takesFile hwritten
  refine ⟨path, content, p, _, ⟨hpath, hcontent, hinside⟩, rfl, rfl,
    hadds.writes (ht.lookup (Disk.of_approach happroach).2.1) _, fun r hroot => ?_,
    fun text q bytes hsame => ?_⟩
  · exact (hroot.keeps hadds.keeps).eq_of_takesFile hinside ht happroach
  · rw [Disk.find_put_iff ht happroach (hsame.join hrelative root),
      Path.endsIdle_join root (hsame.1.trans hrelative)]

/-- A call edits a file: its path means one that spells a text, and what it searches is in this
text and is not empty. -/
structure Edits (d : Disk) (root : String) (x : Table Json) (path search replacement : String)
    (p : Place) (s : String) : Prop where
  path_eq : argument x "path" = .ok path
  search_eq : argument x "search" = .ok search
  replacement_eq : argument x "replace" = .ok replacement
  spells : Spells d root path p s
  ne_empty : search ≠ ""
  occurs : search.toList <:+: s.toList

theorem run_editFile (hpath : argument x "path" = .ok path)
    (hsearch : argument x "search" = .ok search)
    (hreplacement : argument x "replace" = .ok replacement) {s : String}
    (hspells : Spells site.disk root path p s) : (editFile root x).run site =
      if search.isEmpty || !Text.occurs search s then
        (.ok (.text ("Error: '" ++ search ++ "' not found in " ++ path)), site)
      else (.ok (.text ("Successfully edited " ++ path)),
        { site with
          disk := site.disk.put p
            (.file (Text.encode (Text.replaceAll search replacement s))) }) := by
  obtain ⟨hinside, hread⟩ := spells_iff_readText.mp ⟨p, hspells⟩
  obtain ⟨bytes, ⟨-, hfind⟩, -⟩ := hspells
  rw [editFile_eq hpath hsearch hreplacement, inside_bind, if_pos hinside, editAt, Job.run_bind,
    Job.run_readText, hread]
  change ((if search.isEmpty || !Text.occurs search s then _ else _ : Job Json).run site) = _
  split
  · rfl
  · rw [Job.run_bind, Job.run_change, Disk.write_of_find hfind]
    rfl

/-- The first occurrence and each one behind it are replaced, and nothing else is changed. -/
theorem Edits.run {s : String} (h : Edits site.disk root x path search replacement p s) :
    ∃ new disk, Text.Replaced search.toList replacement.toList s.toList new.toList ∧
      site.disk.Writes (fun _ => False) p (Text.encode new) disk ∧
      (editFile root x).run site =
        (.ok (.text ("Successfully edited " ++ path)), { site with disk }) := by
  obtain ⟨bytes, ⟨-, hfind⟩, -⟩ := h.spells
  have hfile := Disk.approach_of_find_file hfind
  have hfree := Disk.TakesFile.lookup (.inr ⟨bytes, rfl⟩) (Disk.of_approach hfile).2.1
  refine ⟨_, _, (Text.replaced_iff h.ne_empty).mpr rfl, (Disk.Adds.refl _ site.disk).writes hfree _,
    ?_⟩
  have hsearch : ¬(search.isEmpty || !Text.occurs search s) = true := by
    rw [Text.occurs_iff.mpr h.occurs]
    simpa using h.ne_empty
  rw [run_editFile h.path_eq h.search_eq h.replacement_eq h.spells, if_neg hsearch]

theorem editFile_cases (site : Site) (root : String) (x : Table Json) :
    (∃ f, (editFile root x).run site = (.error f, site)) ∨ ∃ path search replacement p s,
      (argument x "path" = .ok path ∧ argument x "search" = .ok search ∧
        argument x "replace" = .ok replacement) ∧ Spells site.disk root path p s := by
  rcases hpath : argument x "path" with f | path
  · refine .inl ⟨f, ?_⟩
    unfold editFile
    rw [hpath]
    rfl
  rcases hsearch : argument x "search" with f | search
  · refine .inl ⟨f, ?_⟩
    unfold editFile
    rw [hpath, hsearch]
    rfl
  rcases hreplacement : argument x "replace" with f | replacement
  · refine .inl ⟨f, ?_⟩
    unfold editFile
    rw [hpath, hsearch, hreplacement]
    rfl
  rw [editFile_eq hpath hsearch hreplacement, inside_bind]
  split
  · next hinside =>
    rcases hread : site.disk.readText (Path.join root path) with e | s
    · rw [editAt, Job.run_bind, Job.run_readText, hread]
      exact .inl ⟨_, rfl⟩
    · obtain ⟨p, hspells⟩ := spells_iff_readText.mpr ⟨hinside, hread⟩
      exact .inr ⟨path, search, replacement, p, s, ⟨rfl, rfl, rfl⟩, hspells⟩
  · exact .inl ⟨_, rfl⟩

/-- Any other call changes nothing, and does not report that it does. -/
theorem editFile_of_not (h : ∀ path search replacement p s,
    ¬Edits site.disk root x path search replacement p s) :
    ((editFile root x).run site).2 = site ∧
      ∀ path, ((editFile root x).run site).1 ≠ .ok (.text ("Successfully edited " ++ path)) := by
  obtain ⟨f, hrun⟩ | ⟨path, search, replacement, p, s, ⟨hpath, hsearch, hreplacement⟩, hspells⟩ :=
    editFile_cases site root x
  · rw [hrun]
    exact ⟨rfl, fun _ => nofun⟩
  · rw [run_editFile hpath hsearch hreplacement hspells]
    split
    · refine ⟨rfl, fun path' heq => ?_⟩
      simp [← String.toList_inj] at heq
    · next hfound =>
      rw [Bool.or_eq_true, not_or, Bool.not_eq_true', Bool.not_eq_false, Text.occurs_iff] at hfound
      exact absurd ⟨hpath, hsearch, hreplacement, hspells, by simpa using hfound.1, hfound.2⟩
        (h path search replacement p s)

/-- What a call wrote is read again at every spelling of its path that does not end in a slash or a
dot and is not too long, and at no other one; no other file is changed, and only directories on the
way are new.

A call reports that it edited a file exactly when it has arguments and a path that means a file of
text in which what it searches occurs, and this is not empty.  Then every occurrence in the file is
replaced, from left to right and without overlap, and nothing else is changed.  Any other call
changes nothing at all. -/
theorem files_written (site : Site) (root : String) (x : Table Json) :
    (∀ answer site', (writeFile root x).run site = (.ok answer, site') →
      ∃ path content p disk, (argument x "path" = .ok path ∧
          argument x "content" = .ok content ∧ staysInside path = true) ∧
        site' = { site with disk } ∧
        site.disk.Writes (site.disk.OnWay root (steps path).dropLast) p (Text.encode content)
          disk ∧
        (∀ r, site.disk.LeadsTo root r → p = r ++ steps path) ∧
        ∀ y text, argument y "path" = .ok text → Same path text →
          ∀ answer, (readFile root y).run site' = (.ok answer, site') ↔
            answer = .text content ∧ endsIdle text = false ∧
              (Path.join root text).utf8ByteSize ≤ Disk.pathLimit) ∧
      ((∃ path site', (editFile root x).run site =
            (.ok (.text ("Successfully edited " ++ path)), site')) ↔
          ∃ path search replacement p s, Edits site.disk root x path search replacement p s) ∧
      (∀ path search replacement p s, Edits site.disk root x path search replacement p s →
        ∃ new disk, Text.Replaced search.toList replacement.toList s.toList new.toList ∧
          site.disk.Writes (fun _ => False) p (Text.encode new) disk ∧
          (editFile root x).run site =
            (.ok (.text ("Successfully edited " ++ path)), { site with disk })) ∧
      ((∀ path search replacement p s, ¬Edits site.disk root x path search replacement p s) →
        ((editFile root x).run site).2 = site) := by
  refine ⟨fun answer site' h => ?_, ⟨?_, ?_⟩, fun path search replacement p s => Edits.run,
    fun h => (editFile_of_not h).1⟩
  · obtain ⟨path, content, p, disk, hgives, -, rfl, hwrites, hplace, hfind⟩ := exists_written h
    refine ⟨path, content, p, disk, hgives, rfl, hwrites, hplace,
      fun y text htext hsame answer => ?_⟩
    rw [readFile_eq_ok_iff htext]
    constructor
    · rintro ⟨-, q, s, ⟨bytes, ⟨-, hmeans⟩, hdecode⟩, rfl⟩
      obtain ⟨⟨-, rfl⟩, hends⟩ := (hfind text q bytes hsame).mp hmeans
      rw [Text.decode?_encode] at hdecode
      exact ⟨by rw [Option.some.inj hdecode], hends⟩
    · rintro ⟨rfl, hends⟩
      have hmeans := (hfind text p _ hsame).mpr ⟨⟨rfl, rfl⟩, hends⟩
      exact ⟨rfl, p, content, ⟨_, ⟨hsame.staysInside hgives.2.2, hmeans⟩,
        Text.decode?_encode content⟩, rfl⟩
  · rintro ⟨path, site', h⟩
    by_contra hnot
    have hnone : ∀ path search replacement p s,
        ¬Edits site.disk root x path search replacement p s :=
      fun path search replacement p s hedits => hnot ⟨path, search, replacement, p, s, hedits⟩
    exact (editFile_of_not hnone).2 path (congrArg Prod.fst h)
  · rintro ⟨path, search, replacement, p, s, hedits⟩
    obtain ⟨new, disk, -, -, hrun⟩ := hedits.run
    exact ⟨path, _, hrun⟩

/-- A project with a file in it. -/
def draft : Site :=
  Site.ofDisk ⟨[], [(["proj"], .directory), (["proj", "b"], .file (Text.encode "aaaaa"))]⟩

/-- A file in a directory that is not there yet is read at another spelling; and of occurrences
that overlap the first one is replaced, and what comes for it is not searched again. -/
theorem files_written_draft :
    (∃ p disk, draft.disk.Writes (draft.disk.OnWay "proj" ["docs"]) p (Text.encode "x") disk ∧
      p = ["proj", "docs", "a"] ∧
      (readFile "proj" [("path", .text "./docs//a")]).run { draft with disk } =
        (.ok (.text "x"), { draft with disk })) ∧
      ∃ disk, draft.disk.Writes (fun _ => False) ["proj", "b"] (Text.encode "aabaaba") disk ∧
        (editFile "proj" [("path", .text "b"), ("replace", .text "aab"),
          ("search", .text "aa")]).run draft =
            (.ok (.text "Successfully edited b"), { draft with disk }) := by
  have hroot : draft.disk.LeadsTo "proj" ["proj"] := Disk.leadsTo_of_find rfl
  constructor
  · obtain ⟨hwrite, -⟩ := files_written draft "proj"
      [("content", .text "x"), ("path", .text "docs/./a")]
    have hok : ((writeFile "proj" [("content", .text "x"), ("path", .text "docs/./a")]).run
        draft).1.isOk = true := by decide +kernel
    rcases hrun : (writeFile "proj" [("content", .text "x"), ("path", .text "docs/./a")]).run
      draft with ⟨f | answer, site'⟩
    · rw [hrun] at hok
      cases hok
    · obtain ⟨path, content, p, disk, ⟨hpath, hcontent, -⟩, rfl, hwrites, hplace, hread⟩ :=
        hwrite answer site' hrun
      cases hpath
      cases hcontent
      have hsteps : steps "docs/./a" = ["docs", "a"] := by decide +kernel
      rw [hsteps] at hwrites hplace
      refine ⟨p, disk, hwrites, hplace _ hroot, (hread _ "./docs//a" rfl ?_ _).mpr ⟨rfl, ?_, ?_⟩⟩
      · exact ⟨by decide +kernel, by decide +kernel⟩
      · decide +kernel
      · decide +kernel
  · obtain ⟨-, -, hedit, -⟩ := files_written draft "proj"
      [("path", .text "b"), ("replace", .text "aab"), ("search", .text "aa")]
    have hmeans : draft.disk.Means "proj" "b" ["proj", "b"] (Text.encode "aaaaa") :=
      ⟨by decide +kernel, rfl⟩
    obtain ⟨new, disk, hreplaced, hwrites, hrun⟩ := hedit "b" "aa" "aab" ["proj", "b"] "aaaaa"
      ⟨rfl, rfl, rfl, ⟨_, hmeans, Text.decode?_encode _⟩, by decide,
        Text.occurs_iff.mp (by decide +kernel)⟩
    have hnew : new = "aabaaba" :=
      ((Text.replaced_iff (by decide)).mp hreplaced).trans (by decide +kernel)
    subst hnew
    exact ⟨disk, hwrites, hrun⟩

/-- A path that ends in a slash or a dot, or is too long, has the steps of the file that was
written and does not lead to it. -/
theorem files_written_unread : ∃ site', (writeFile "proj"
      [("content", .text "x"), ("path", .text "a")]).run draft =
        (.ok (.text "Successfully wrote a"), site') ∧
      ∀ text ∈ ["a/", "a/.", Path.dotted 2048 "a"], Same "a" text ∧
        (readFile "proj" [("path", .text text)]).run site' ≠ (.ok (.text "x"), site') := by
  have hok : ((writeFile "proj" [("content", .text "x"), ("path", .text "a")]).run
      draft).1.isOk = true := by decide +kernel
  rcases hrun : (writeFile "proj" [("content", .text "x"), ("path", .text "a")]).run
    draft with ⟨f | answer, site'⟩
  · rw [hrun] at hok
    cases hok
  obtain ⟨path, content, p, disk, ⟨hpath, -, -⟩, rfl, rfl, -, -, hfind⟩ := exists_written hrun
  cases hpath
  refine ⟨_, rfl, fun text htext => ?_⟩
  -- Each is a spelling, and one at which nothing is found.
  obtain ⟨hsame, hnot⟩ : Same "a" text ∧ ¬(endsIdle text = false ∧
      (Path.join "proj" text).utf8ByteSize ≤ Disk.pathLimit) := by
    simp only [List.mem_cons, List.not_mem_nil, or_false] at htext
    rcases htext with rfl | rfl | rfl
    · exact ⟨⟨by decide +kernel, by decide +kernel⟩, by decide +kernel⟩
    · exact ⟨⟨by decide +kernel, by decide +kernel⟩, by decide +kernel⟩
    · refine ⟨Path.same_dotted 2048 (by decide +kernel), fun h => ?_⟩
      have hsize := Nat.le_trans (Path.utf8ByteSize_le_join "proj" (Path.dotted 2048 "a")) h.2
      rw [Path.utf8ByteSize_dotted] at hsize
      exact absurd hsize (by decide +kernel)
  refine ⟨hsame, fun hread => ?_⟩
  obtain ⟨-, q, s, ⟨bytes, ⟨-, hmeans⟩, -⟩, -⟩ := (readFile_eq_ok_iff rfl).mp hread
  exact hnot ((hfind text q bytes hsame).mp hmeans).2

end Tool

end AgentWorkflow
