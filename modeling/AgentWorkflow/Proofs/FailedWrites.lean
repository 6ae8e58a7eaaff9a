/-
What a write that fails leaves behind.

* `Path.CanBeFile` — the text of a path could name a file below a root.
  `Disk.canBeFile_of_write`: no file is written at any other.
* `Disk.makeAbove_cases` — no directory is made above such a path, or a file can then be written.
* `Tool.run_writeFile_of_not` — at any other text a write fails, and what was made stays.
* `Tool.failed_write` — a write that fails changes nothing, or the text could name no file and
  directories on the way are new.

Design notes: directories are made before the file is written, and they stay when the write fails.
It fails then for the text of the path alone, as whatever is in the way on the disk shows before
anything is made: a file above the path keeps the directories from being made, and where a
directory is, those above it are there already.
-/
import AgentWorkflow.Proofs.FileChanges

namespace AgentWorkflow

/-- The text of a path could name a file below a root: it does not end in a slash or a dot, has no
NUL, and neither a name in it nor the whole path is too long. -/
structure Path.CanBeFile (root path : String) : Prop where
  endsIdle_eq : endsIdle path = false
  noNul : '\x00' ∉ path.toList
  short : ∀ name ∈ steps path, name.utf8ByteSize ≤ Disk.nameLimit
  fits : (join root path).utf8ByteSize ≤ Disk.pathLimit

theorem Path.CanBeFile.isLegal {root path : String} (h : CanBeFile root path)
    (hinside : staysInside path = true) : ∀ name ∈ steps path, IsLegal name := fun name hname =>
  { isName_of_mem_steps hinside hname with
    noNul := fun hnul =>
      h.noNul ((mem_iff_steps (by decide) (by decide)).mpr ⟨name, hname, hnul⟩)
    short := h.short name hname }

namespace Disk

open AgentWorkflow.Path (steps staysInside CanBeFile IsLegal)

variable {d : Disk} {place r : Place} {root path : String}

/-- What holds of every name that a step is taken by holds of those that lead to something. -/
theorem forall_of_follow {P : String → Prop}
    (hstep : ∀ {place name q entry}, d.step place name = .ok (.found q entry) → P name)
    {names : List String} {p : Place} {entry : Entry}
    (h : d.follow place names = .ok (.found p entry)) : ∀ name ∈ names, P name := by
  induction names generalizing place with
  | nil => exact fun _ hname => absurd hname List.not_mem_nil
  | cons name rest ih =>
    rcases eq_or_ne rest [] with rfl | hne
    · rw [follow_singleton] at h
      exact fun _ hname => List.mem_singleton.mp hname ▸ hstep h
    · obtain ⟨_, _, hfirst, hrest⟩ := exists_of_follow_cons hne h
      exact List.forall_mem_cons.mpr ⟨hstep hfirst, ih hrest⟩

theorem noNul_of_step (htree : d.IsTree) {name : String} {q : Place} {entry : Entry}
    (h : d.step place name = .ok (.found q entry)) : '\x00' ∉ name.toList := by
  obtain ⟨-, ⟨rfl, -⟩ | ⟨rfl, -⟩ | ⟨-, ⟨_, hdown, -⟩ | ⟨-, heq⟩⟩⟩ := step_cases h
  · decide
  · decide
  · exact (htree.isLegal_of_lookup (by rw [hdown]; exact Option.some_ne_none _) name
      List.mem_cons_self).noNul
  · cases heq

theorem short_of_step {name : String} {t : Target} (h : d.step place name = .ok t) :
    name.utf8ByteSize ≤ nameLimit := by
  obtain ⟨-, ⟨rfl, -⟩ | ⟨rfl, -⟩ | ⟨hname, -⟩⟩ := step_cases h
  · decide
  · decide
  · exact hname.2.2

theorem noNul_of_leadsTo (htree : d.IsTree) (hroot : d.LeadsTo root r) :
    '\x00' ∉ root.toList := by
  rw [Path.mem_iff_steps (by decide) (by decide)]
  rintro ⟨name, hname, hnul⟩
  exact forall_of_follow (noNul_of_step htree) hroot name hname hnul

/-- Only such a text is ever written at. -/
theorem canBeFile_of_write (hinside : staysInside path = true) {content : List UInt8} {d' : Disk}
    (h : d.write (Path.join root path) content = .ok d') : CanBeFile root path := by
  have hrelative := (Path.staysInside_iff.mp hinside).1
  obtain ⟨_, _, ht, happroach, -⟩ := of_write_takesFile h
  obtain ⟨hnul, -, hfits⟩ := checkPath_iff.mp (of_approach happroach).1
  refine ⟨?_, fun hmem => hnul ((Path.mem_join hrelative (by decide)).mpr (.inr hmem)),
    fun name hname => ?_, hfits⟩
  · rw [← Path.endsIdle_join root hrelative]
    exact endsIdle_of_approach happroach ht.ne_directory
  · exact forall_of_follow short_of_step (follow_put (follow_join hrelative happroach) ht content)
      name (List.mem_append_right _ hname)

section Above

variable (htree : d.IsTree) (hroot : d.LeadsTo root r) (hinside : staysInside path = true)
  (hfile : CanBeFile root path)

include htree hroot hinside hfile

/-- The path that such a text is joined to leads down from the root. -/
theorem descends_join : Descends root (steps path) (Path.join root path) := by
  have hrelative := (Path.staysInside_iff.mp hinside).1
  refine ⟨Path.isAbsolute_join root hrelative, Path.steps_join root hrelative,
    fun hne => checkPath_iff.mpr ⟨?_, hne, hfile.fits⟩, fun _ => ?_⟩
  · rw [Path.mem_join hrelative (by decide), not_or]
    exact ⟨noNul_of_leadsTo htree hroot, hfile.noNul⟩
  · rw [Path.endsIdle_join root hrelative]
    exact hfile.endsIdle_eq

/-- No directory is made, or all above the path are there then and a file can be written. -/
theorem makeAbove_cases (content : List UInt8) :
    (d.makeAbove (Path.join root path)).2 = d ∨
      ∃ d' d'', d.makeAbove (Path.join root path) = (.ok (), d') ∧
        d'.write (Path.join root path) content = .ok d'' := by
  have hdescends := descends_join htree hroot hinside hfile
  have hlegal := hfile.isLegal hinside
  obtain ⟨front, last, hsteps⟩ :=
    (List.eq_nil_or_concat' (steps path)).resolve_left (Path.steps_ne_nil hfile.endsIdle_eq)
  rw [hsteps] at hdescends hlegal
  have hfront : ∀ name ∈ front, IsLegal name := fun name hname =>
    hlegal name (List.mem_append_left _ hname)
  obtain ⟨up, hup, hpath⟩ := hdescends.parent?
  have hmakes : d.makeAbove (Path.join root path) = d.makeAllFrom up (above up.length up) := by
    unfold makeAbove
    rw [hup]
    rfl
  rw [hmakes]
  by_cases hblocked : ∃ part, part <+: front ∧
      ∃ content, d.lookup? (r ++ part) = some (.file content)
  · obtain ⟨part, hpart, content, hthere⟩ := hblocked
    obtain ⟨e, hfails⟩ := makeAllFrom_blocked htree hroot hpath hpart hthere
      (above up.length up)
    exact .inl (congrArg Prod.snd hfails)
  have hfree : ∀ part, part <+: front → ∀ content, d.lookup? (r ++ part) ≠ some (.file content) :=
    fun part hpart content hthere => hblocked ⟨part, hpart, content, hthere⟩
  have hfuel : front.length ≤ up.length := by
    have h := Path.length_steps_le up
    rw [hpath.steps_eq, List.length_append] at h
    exact Nat.le_trans (Nat.le_add_left _ _) h
  obtain ⟨d', hmade, hdirectories⟩ := makeAllFrom_ok htree hroot hfront hfree hpath hfuel
  have hadds := Adds.of_makeAllFrom (fun name hname => (hfront name hname).toIsName)
    hpath.towards hmade
  have happroach := hdescends.approach_last (hroot.keeps hadds.keeps) hlegal hdirectories
  rcases hthere : d'.lookup? (r ++ (front ++ [last])) with _ | _ | old
  · rw [hthere] at happroach
    exact .inr ⟨d', _, hmade, write_of_takesFile (.inl rfl) happroach content⟩
  · -- No directory is made at the path itself, so it was there, with those above it.
    rw [hadds.lookup?_last hroot] at hthere
    have hdirectory := directories_above htree hthere (List.prefix_append _ _)
    exact .inl (congrArg Prod.snd (makeAllFrom_there htree hroot hpath hdirectory _))
  · rw [hthere] at happroach
    exact .inr ⟨d', _, hmade, write_of_takesFile (.inr ⟨old, rfl⟩) happroach content⟩

end Above

end Disk

namespace Tool

open AgentWorkflow.Path (steps staysInside CanBeFile)

variable {root : String} {x : Table Json} {r : Place} {f : Failure} {site' : Site}

/-- A write at a text that could name no file always fails, and directories that were made on the
way stay. -/
theorem run_writeFile_of_not {path content : String} (hpath : argument x "path" = .ok path)
    (hcontent : argument x "content" = .ok content) (hinside : staysInside path = true)
    (hnot : ¬CanBeFile root path) (site : Site) : ∃ f, (writeFile root x).run site =
      (.error f, { site with disk := (site.disk.makeAbove (Path.join root path)).2 }) := by
  rw [writeFile_eq hpath hcontent, inside_bind, if_pos hinside]
  rcases hrun : (writeAt path content (Path.join root path)).run site with ⟨f | answer, site'⟩
  · rw [writeAt_error hrun]
    exact ⟨f, rfl⟩
  · obtain ⟨-, _, _, -, hwritten, -⟩ := writeAt_ok hrun
    exact absurd (Disk.canBeFile_of_write hinside hwritten) hnot

/-- A write that fails changes nothing; or the text could name no file, and then nothing is changed
but that directories on the way to it are new. -/
theorem failed_write (site : Site) (htree : site.disk.IsTree) (hroot : site.disk.LeadsTo root r)
    (h : (writeFile root x).run site = (.error f, site')) :
    site' = site ∨ ∃ path content disk, argument x "path" = .ok path ∧
      argument x "content" = .ok content ∧ staysInside path = true ∧ ¬CanBeFile root path ∧
      site' = { site with disk } ∧
      site.disk.Adds (site.disk.OnWay root (steps path).dropLast) disk := by
  obtain ⟨f', hfail⟩ | ⟨path, content, hpath, hcontent, hinside, hwrite⟩ := writeFile_cases root x
  · rw [hfail] at h
    cases h
    exact .inl rfl
  rw [hwrite] at h
  by_cases hfile : CanBeFile root path
  · left
    obtain hnothing | ⟨d', d'', hmade, hwritten⟩ :=
      Disk.makeAbove_cases htree hroot hinside hfile (Text.encode content)
    · rw [writeAt_error h, hnothing]
    · rw [run_writeAt, hmade] at h
      dsimp only at h
      rw [hwritten] at h
      cases h
  · exact .inr ⟨path, content, _, hpath, hcontent, hinside, hfile, writeAt_error h,
      Disk.adds_makeAbove hinside⟩

/-- A file is in the way, and nothing is made. -/
theorem failed_write_draft : ∃ f, (writeFile "proj"
    [("content", .text "x"), ("path", .text "b/c")]).run draft = (.error f, draft) := by
  have hok : ((writeFile "proj" [("content", .text "x"), ("path", .text "b/c")]).run
      draft).1.isOk = false := by decide +kernel
  rcases hrun : (writeFile "proj" [("content", .text "x"), ("path", .text "b/c")]).run
    draft with ⟨f | answer, site'⟩
  · have htree : draft.disk.IsTree := by decide +kernel
    rcases failed_write draft htree (Disk.leadsTo_of_find rfl) hrun with
      rfl | ⟨path, content, disk, hpath, -, -, hnot, -⟩
    · exact ⟨f, rfl⟩
    · cases hpath
      exact absurd ⟨by decide +kernel, by decide +kernel, by decide +kernel, by decide +kernel⟩ hnot
  · rw [hrun] at hok
    cases hok

/-! ### Directories that are made for nothing -/

/-- A write at a text fails, and a directory is new. -/
def LeavesNew (text : String) : Prop :=
  draft.disk.lookup? ["proj", "new"] = none ∧
    ∃ f site', (writeFile "proj" [("content", .text "x"), ("path", .text text)]).run draft =
      (.error f, site') ∧ site'.disk.lookup? ["proj", "new"] = some .directory

theorem leavesNew {text : String} (hinside : staysInside text = true)
    (hparent : Path.parent? (Path.join "proj" text) = some "proj/new")
    (hnot : ¬CanBeFile "proj" text) : LeavesNew text := by
  obtain ⟨f, hrun⟩ := @run_writeFile_of_not "proj" [("content", .text "x"), ("path", .text text)]
    text "x" rfl rfl hinside hnot draft
  refine ⟨by decide, f, _, hrun, ?_⟩
  rw [Disk.makeAbove, hparent]
  decide

section Piece

variable {piece last : String} {n : Nat}
  (hsegments : Path.segments piece = List.replicate n "." ++ [last])
  (hlast : Path.isIdle last = false)

theorem isAbsolute_new (piece : String) : Path.isAbsolute ("new/" ++ piece) = false := by
  rw [Path.isAbsolute_append (by decide)]
  decide

theorem rdropWhile_dots (n : Nat) :
    ("new" :: List.replicate n ".").rdropWhile Path.isIdle = ["new"] := by
  induction n with
  | zero => decide
  | succ n ih =>
    rw [List.replicate_succ', ← List.cons_append, List.rdropWhile_concat_pos _ _ _ (by decide)]
    exact ih

include hsegments

theorem segments_new : Path.segments ("new/" ++ piece) =
    "new" :: List.replicate n "." ++ [last] := by
  rw [show "new/" = "new" ++ "/" by decide, Path.segments_append, hsegments,
    show Path.segments "new" = ["new"] by decide]
  rfl

include hlast

/-- Dots before a name say nothing of the directory that it is in. -/
theorem parent?_new : Path.parent? (Path.join "proj" ("new/" ++ piece)) = some "proj/new" := by
  have hjoined : Path.segments (Path.join "proj" ("new/" ++ piece)) =
      "proj" :: ("new" :: List.replicate n "." ++ [last]) := by
    obtain ⟨before, hjoin, hbefore⟩ := Path.exists_segments_join "proj" (isAbsolute_new piece)
    rw [show Path.segments "proj" = [] ++ ["proj"] by decide] at hbefore
    rcases hbefore with rfl | hbefore
    · rw [hjoin, segments_new hsegments]
      rfl
    · exact absurd (List.append_inj_right' hbefore rfl) (by decide)
  have hcomponents :
      (Path.components (Path.join "proj" ("new/" ++ piece))).isEmpty = false := by
    rw [Path.components, hjoined, Path.stepsOf_cons]
    rfl
  rw [Path.parent?, hcomponents, hjoined, Path.dropIdle_cons,
    List.rdropWhile_concat_neg _ _ _ (by rw [hlast]; exact Bool.false_ne_true),
    ← List.cons_append, List.dropLast_concat, Path.dropIdle_cons, rdropWhile_dots,
    if_neg Bool.false_ne_true]
  exact congrArg some (by decide)

theorem leavesNew_piece (hup : last ≠ "..") (hnot : ¬CanBeFile "proj" ("new/" ++ piece)) :
    LeavesNew ("new/" ++ piece) := by
  refine leavesNew (Path.staysInside_iff.mpr ⟨isAbsolute_new piece, ?_⟩)
    (parent?_new hsegments hlast) hnot
  rw [segments_new hsegments]
  simp [List.mem_replicate, hup.symm]

end Piece

/-- A name of 256 bytes. -/
def longName : String := String.ofList (List.replicate 256 'x')

theorem slash_not_mem_longName : '/' ∉ longName.toList := by
  unfold longName
  rw [String.toList_ofList]
  exact fun h => absurd (List.eq_of_mem_replicate h) (by decide)

theorem segments_longName : Path.segments longName = List.replicate 0 "." ++ [longName] :=
  Path.segments_of_not_mem slash_not_mem_longName

theorem isIdle_longName : Path.isIdle longName = false := by decide +kernel

theorem not_canBeFile_longName : ¬CanBeFile "proj" ("new/" ++ longName) := fun h => by
  have hmem : longName ∈ steps ("new/" ++ longName) := by
    rw [Path.steps_eq, segments_new segments_longName]
    exact List.mem_filter.mpr ⟨List.mem_append_right _ List.mem_cons_self,
      (Path.not_isIdle longName).trans (congrArg not isIdle_longName)⟩
  exact absurd (h.short _ hmem) (by decide +kernel)

theorem not_canBeFile_dotted : ¬CanBeFile "proj" ("new/" ++ Path.dotted 2048 "a") := fun h => by
  have hsize := h.fits
  have hlong := Path.utf8ByteSize_le_join "proj" ("new/" ++ Path.dotted 2048 "a")
  rw [String.utf8ByteSize_append, Path.utf8ByteSize_dotted] at hlong
  rw [Disk.pathLimit] at hsize
  omega

/-- Texts that could name no file, in a directory that is not there. -/
theorem failed_write_makes :
    LeavesNew "new/a/" ∧ LeavesNew "new/a/." ∧ LeavesNew "new/\x00" ∧
      LeavesNew ("new/" ++ longName) ∧ LeavesNew ("new/" ++ Path.dotted 2048 "a") := by
  refine ⟨?_, ?_, ?_, ?_, ?_⟩
  · exact leavesNew (by decide +kernel) (by decide +kernel)
      fun h => absurd h.endsIdle_eq (by decide +kernel)
  · exact leavesNew (by decide +kernel) (by decide +kernel)
      fun h => absurd h.endsIdle_eq (by decide +kernel)
  · exact leavesNew (by decide +kernel) (by decide +kernel) fun h => h.noNul (by decide +kernel)
  · exact leavesNew_piece segments_longName isIdle_longName (by decide +kernel)
      not_canBeFile_longName
  · exact leavesNew_piece (Path.segments_dotted 2048 "a") (by decide +kernel) (by decide)
      not_canBeFile_dotted

end Tool

end AgentWorkflow
