/-
Directories that are made on the way to a path.

* `Path.join_segments`, `Path.exists_append_of_parent?` — a path begins with the text of the path
  above it.
* `Path.endsIdle` — a path ends in a slash or a dot.  `Disk.approach_of_endsIdle`: one that does
  not is followed by its steps.
* `Disk.Adds`, `Disk.OnWay` — nothing is changed but that directories are new, and the places on a
  way down from a root; `Disk.Adds.makeAll`.
* `Disk.Descends` — a path that leads from a root down along a way.
* `Disk.makeAllFrom_blocked`, `Disk.makeAllFrom_ok` — in a tree, directories are made along a way
  exactly when no file is on it.

Design notes: what is new after directories were made is said of any disk, also of one where the
root is missing.  That they can be made needs a tree and a root that is there, and names that
are not too long.  The paths above a path are texts too, so each has to be one that the system
takes when the path is.
-/
import AgentWorkflow.Proofs.FileLists

namespace AgentWorkflow

/-! ### Texts of paths -/

namespace Text

variable {sep : Char}

/-- There are no more pieces that are not empty than characters. -/
theorem length_filter_cutAt_le (cs : List Char) :
    ((cutAt sep cs).filter (· ≠ [])).length ≤ cs.length := by
  induction cs with
  | nil => exact Nat.le_refl 0
  | cons c rest ih =>
    obtain ⟨piece, more, h⟩ := List.exists_cons_of_ne_nil (cutAt_ne_nil sep rest)
    by_cases hc : c = sep
    · subst hc
      rw [cutAt_cons_self]
      exact Nat.le_succ_of_le ih
    · rw [h] at ih
      rw [cutAt_cons hc h]
      refine Nat.succ_le_succ (Nat.le_trans ?_ ih)
      rw [List.filter_cons]
      split
      · exact Nat.le_succ _
      · exact Nat.le_refl _

end Text

namespace Path

/-- The pieces of a path, put together again. -/
theorem join_segments (path : String) : Text.join "/" (segments path) = path := by
  suffices ∀ cs : List Char,
      Text.join "/" ((Text.cutAt '/' cs).map String.ofList) = String.ofList cs by
    rw [segments, Text.splitAt, this, String.ofList_toList]
  intro cs
  unfold Text.join
  induction cs with
  | nil => rfl
  | cons c rest ih =>
    obtain ⟨piece, more, h⟩ := List.exists_cons_of_ne_nil (Text.cutAt_ne_nil '/' rest)
    by_cases hc : c = '/'
    · subst hc
      rw [Text.cutAt_cons_self, List.map_cons, String.intercalate_cons_of_ne_nil (by simp [h]), ih,
        ← String.toList_inj]
      simp
    · rw [h, List.map_cons] at ih
      have hfirst : String.ofList (c :: piece) = String.ofList [c] ++ String.ofList piece := by
        rw [← String.ofList_append]
        rfl
      rw [Text.cutAt_cons hc h, List.map_cons, hfirst, String.intercalate_cons_append, ih,
        ← String.ofList_append]
      rfl

/-- There are no more steps than characters. -/
theorem length_steps_le (path : String) : (steps path).length ≤ path.length := by
  have hcut := @Text.length_filter_cutAt_le '/' path.toList
  refine Nat.le_trans ?_ hcut
  rw [steps_eq, segments, Text.splitAt, ← List.countP_eq_length_filter,
    ← List.countP_eq_length_filter, List.countP_map]
  refine List.countP_mono_left fun piece _ h => decide_eq_true fun hnil => ?_
  subst hnil
  exact absurd h (by decide)

/-- The last piece of a path says nothing: the path is empty or ends in a slash, or the piece is
a dot. -/
def endsIdle (path : String) : Bool := (segments path).getLast?.any isIdle

theorem endsIdle_join (root : String) {path : String} (hpath : isAbsolute path = false) :
    endsIdle (join root path) = endsIdle path := by
  unfold endsIdle
  rw [getLast?_segments_join root hpath]

theorem endsIdle_of_finishesWith {path : String} (h : Text.finishesWith "/" path = true) :
    endsIdle path = true := by
  obtain ⟨front, rfl⟩ := exists_of_finishesWith h
  unfold endsIdle
  rw [segments_slash, List.getLast?_concat]
  rfl

theorem finishesWith_slash (front : String) : Text.finishesWith "/" (front ++ "/") = true := by
  simp [Text.finishesWith]

/-- A path that is not empty and ends so, ends in a slash, or its last name is a dot. -/
theorem of_endsIdle {path : String} (hne : path ≠ "") (h : endsIdle path = true) :
    Text.finishesWith "/" path = true ∨ ∃ front, names path = front ++ ["."] := by
  obtain ⟨front, last, hsegments⟩ :=
    (List.eq_nil_or_concat' (segments path)).resolve_left (segments_ne_nil path)
  unfold endsIdle at h
  rw [hsegments, List.getLast?_concat] at h
  rcases isIdle_iff.mp h with rfl | rfl
  · refine .inl ?_
    rcases eq_or_ne front [] with rfl | hfront
    · have hpath := join_segments path
      rw [hsegments] at hpath
      exact absurd hpath.symm hne
    · rw [← join_segments path, hsegments, Text.join,
        String.intercalate_append_of_ne_nil hfront (List.cons_ne_nil _ _),
        String.intercalate_singleton, String.append_empty]
      exact finishesWith_slash _
  · refine .inr ⟨front.filter (· ≠ ""), ?_⟩
    rw [names, hsegments, List.filter_append]
    rfl

theorem exists_names_of_not_endsIdle {path : String} (h : endsIdle path = false) :
    ∃ front last, names path = front ++ [last] ∧ last ≠ "." := by
  obtain ⟨front, last, hsegments⟩ :=
    (List.eq_nil_or_concat' (segments path)).resolve_left (segments_ne_nil path)
  unfold endsIdle at h
  rw [hsegments, List.getLast?_concat] at h
  have hlast : ¬(last = "" ∨ last = ".") := fun hidle => by
    rw [Option.any_some, isIdle_iff.mpr hidle] at h
    cases h
  obtain ⟨hempty, hdot⟩ := not_or.mp hlast
  refine ⟨front.filter (· ≠ ""), last, ?_, hdot⟩
  rw [names, hsegments, List.filter_append, List.filter_singleton]
  simp [hempty]

/-! ### The path above another -/

theorem dropIdle_head (pieces : List String) : dropIdle pieces <+: pieces := by
  rcases pieces with _ | ⟨first, rest⟩
  · exact List.prefix_rfl
  · rw [dropIdle_cons, List.prefix_cons_inj]
    exact rest.rdropWhile_prefix isIdle

theorem exists_parent? {path : String} (h : steps path ≠ []) : ∃ up, parent? path = some up := by
  have hcomponents : (components path).isEmpty = false := by
    rw [components_eq]
    simp [h]
  unfold parent?
  rw [hcomponents, if_neg Bool.false_ne_true]
  dsimp only
  split
  · exact ⟨_, rfl⟩
  · exact ⟨_, rfl⟩

/-- A path begins with the text of the one above it. -/
theorem exists_append_of_parent? {path up : String} (h : parent? path = some up) :
    ∃ rest, path = up ++ rest := by
  obtain ⟨-, ⟨-, rfl⟩ | ⟨-, rfl⟩⟩ := parent?_eq h
  · split
    · next habsolute =>
      rw [isAbsolute_eq] at habsolute
      obtain ⟨cs, hcs⟩ : ∃ cs, path.toList = '/' :: cs := by
        rcases hlist : path.toList with _ | ⟨c, cs⟩
        · rw [hlist] at habsolute
          cases habsolute
        · rw [hlist] at habsolute
          exact ⟨cs, by simpa using habsolute⟩
      exact ⟨String.ofList cs, by rw [← String.toList_inj, hcs]; simp⟩
    · exact ⟨path, by simp⟩
  · obtain ⟨more, hmore⟩ := (dropIdle_head (dropIdle (segments path)).dropLast).trans
      ((List.dropLast_prefix _).trans (dropIdle_head _))
    have hpath := join_segments path
    rw [← hmore] at hpath
    generalize dropIdle (dropIdle (segments path)).dropLast = kept at hpath ⊢
    rcases eq_or_ne kept [] with rfl | hkept
    · exact ⟨path, by simp [Text.join]⟩
    · rcases eq_or_ne more [] with rfl | hmore
      · rw [List.append_nil] at hpath
        exact ⟨"", by rw [hpath]; simp⟩
      · rw [Text.join, String.intercalate_append_of_ne_nil hkept hmore,
          String.append_assoc] at hpath
        exact ⟨_, hpath.symm⟩

theorem getLast?_dropIdle {pieces : List String}
    (h : ((dropIdle pieces).filter fun s => s != "" && s != ".") ≠ []) :
    (dropIdle pieces).getLast?.any isIdle = false := by
  rcases pieces with _ | ⟨first, rest⟩
  · exact absurd rfl h
  · rw [dropIdle_cons] at h ⊢
    rcases List.eq_nil_or_concat' (rest.rdropWhile isIdle) with hnil | ⟨front, last, hlast⟩
    · -- Only the first piece is kept though it may say nothing.
      rw [hnil, List.filter_singleton, not_isIdle] at h
      rw [hnil]
      rcases hfirst : isIdle first with _ | _
      · exact hfirst
      · rw [hfirst] at h
        exact absurd rfl h
    · have hidle := List.rdropWhile_last_not isIdle rest (by simp [hlast])
      rw [hlast, ← List.cons_append, List.getLast?_concat]
      simpa [hlast] using hidle

/-- A path above another one says something in the end, if it has steps. -/
theorem endsIdle_parent? {path up : String} (h : parent? path = some up)
    (hsteps : steps up ≠ []) : endsIdle up = false := by
  obtain ⟨-, ⟨-, rfl⟩ | ⟨-, rfl⟩⟩ := parent?_eq h
  · split at hsteps
    · exact absurd (by decide) hsteps
    · exact absurd (by decide) hsteps
  · have hslash : ∀ piece ∈ dropIdle (dropIdle (segments path)).dropLast, '/' ∉ piece.toList :=
      fun piece hpiece => not_mem_of_mem_segments
        (mem_of_mem_dropIdle (List.dropLast_subset _ (mem_of_mem_dropIdle hpiece)))
    have hne : dropIdle (dropIdle (segments path)).dropLast ≠ [] := fun hnil => by
      rw [hnil] at hsteps
      exact absurd (by decide) hsteps
    rw [steps_eq, segments_join hne hslash] at hsteps
    rw [endsIdle, segments_join hne hslash]
    exact getLast?_dropIdle hsteps

/-- A path is on the way from a root down, or above the root. -/
def Towards (root : String) (way : List String) (path : String) : Prop :=
  isAbsolute path = isAbsolute root ∧ steps path <+: steps root ++ way

theorem Towards.parent? {root path up : String} {way : List String} (h : Towards root way path)
    (hup : parent? path = some up) : Towards root way up := by
  refine ⟨(components_parent? hup).1.trans h.1, ?_⟩
  rw [steps_parent? hup]
  exact (List.dropLast_prefix _).trans h.2

/-- The path above one that was joined to a root is on the way to it. -/
theorem towards_parent? {root path up : String} (hpath : isAbsolute path = false)
    (hup : parent? (join root path) = some up) : Towards root (steps path).dropLast up := by
  refine ⟨(components_parent? hup).1.trans (isAbsolute_join root hpath), ?_⟩
  rw [steps_parent? hup, steps_join root hpath]
  rcases eq_or_ne (steps path) [] with hnil | hne
  · rw [hnil, List.append_nil, List.dropLast_nil, List.append_nil]
    exact List.dropLast_prefix _
  · exact (List.dropLast_append_of_ne_nil hne).symm ▸ List.prefix_rfl

end Path

namespace Disk

open AgentWorkflow.Path (steps endsIdle IsLegal Towards)

variable {d d' d₀ : Disk} {place p r : Place} {t : Target} {root path : String}
  {way : List String}

/-! ### Paths and their steps -/

theorem checkPath_parent? {up : String} (hup : Path.parent? path = some up) (hne : up ≠ "")
    (h : checkPath path = .ok ()) : checkPath up = .ok () := by
  obtain ⟨rest, rfl⟩ := Path.exists_append_of_parent? hup
  obtain ⟨hnul, -, hsize⟩ := checkPath_iff.mp h
  rw [String.toList_append, List.mem_append, not_or] at hnul
  rw [String.utf8ByteSize_append] at hsize
  exact checkPath_iff.mpr ⟨hnul.1, hne, Nat.le_trans (Nat.le_add_right _ _) hsize⟩

theorem step_of_none (h : d.lookup? place = none) (name : String) :
    d.step place name = .error .notFound := by
  unfold step
  rw [h]

theorem step_of_file {content : List UInt8} (h : d.lookup? place = some (.file content))
    (name : String) : d.step place name = .error .notDirectory := by
  unfold step
  rw [h]

theorem follow_cons_of_error {name : String} {rest : List String} {e : OsError}
    (h : d.step place name = .error e) : d.follow place (name :: rest) = .error e := by
  rcases eq_or_ne rest [] with rfl | hne
  · rw [follow_singleton, h]
  · rw [follow, h]
    · rfl
    · exact fun heq => hne heq

/-- A dot before other names may be left out. -/
theorem follow_dot_cons {rest : List String} (hne : rest ≠ []) :
    d.follow place ("." :: rest) = d.follow place rest := by
  obtain ⟨name, more, rfl⟩ := List.exists_cons_of_ne_nil hne
  rcases hplace : d.lookup? place with _ | _ | content
  · rw [follow_cons_of_error (step_of_none hplace _), follow_cons_of_error (step_of_none hplace _)]
  · exact follow_cons_of_found (step_dot hplace) hne
  · rw [follow_cons_of_error (step_of_file hplace _), follow_cons_of_error (step_of_file hplace _)]

/-- Names of which the last one is no dot lead where they do without their dots. -/
theorem follow_filter_dots (front : List String) {last : String} (hlast : last ≠ ".") :
    d.follow place ((front ++ [last]).filter (· != ".")) = d.follow place (front ++ [last]) := by
  have hkept : [last].filter (· != ".") = [last] := List.filter_eq_self.mpr (by simpa using hlast)
  induction front generalizing place with
  | nil => rw [List.nil_append, hkept]
  | cons name rest ih =>
    have hne : rest ++ [last] ≠ [] := by simp
    have hne' : (rest ++ [last]).filter (· != ".") ≠ [] := by
      rw [List.filter_append, hkept]
      simp
    rw [List.cons_append, List.filter_cons]
    by_cases hdot : name = "."
    · subst hdot
      rw [follow_dot_cons hne]
      exact ih
    · rw [if_pos (by simpa using hdot)]
      rcases hstep : d.step place name with e | ⟨q, entry⟩ | q
      · rw [follow_cons_of_error hstep, follow_cons_of_error hstep]
      · rw [follow_cons_of_found hstep hne, follow_cons_of_found hstep hne']
        exact ih
      · rw [follow_cons_of_vacant hstep hne, follow_cons_of_vacant hstep hne']

/-- A path that says something in the end is followed by its steps. -/
theorem approach_of_endsIdle (hcheck : checkPath path = .ok ()) (hidle : endsIdle path = false) :
    d.approach path = (d.follow (d.origin path) (steps path)).map fun t => (t, false) := by
  obtain ⟨front, last, hnames, hlast⟩ := Path.exists_names_of_not_endsIdle hidle
  have hslash : Text.finishesWith "/" path = false := Bool.eq_false_iff.mpr fun h => by
    rw [Path.endsIdle_of_finishesWith h] at hidle
    cases hidle
  rw [approach_eq, hcheck, hslash, steps, hnames, follow_filter_dots front hlast]
  rcases d.follow (d.origin path) (front ++ [last]) with e | t
  · rfl
  · rfl

/-- Dots among names that lead to a directory make no difference. -/
theorem follow_of_filter_dots (htree : d.IsTree) {names : List String}
    (h : d.follow place (names.filter (· != ".")) = .ok (.found p .directory)) :
    d.follow place names = .ok (.found p .directory) := by
  induction names generalizing place with
  | nil => exact h
  | cons name rest ih =>
    rw [List.filter_cons] at h
    by_cases hdot : name = "."
    · subst hdot
      have hrest := ih h
      rcases eq_or_ne rest [] with rfl | hne
      · obtain ⟨_, hplace, heq⟩ := follow_nil hrest
        obtain ⟨rfl, rfl⟩ := Target.found.inj heq
        rw [follow_singleton, step_dot hplace]
      · rw [follow_dot_cons hne, hrest]
    · rw [if_pos (by simpa using hdot)] at h
      rcases eq_or_ne rest [] with rfl | hne
      · exact h
      rcases eq_or_ne (rest.filter (· != ".")) [] with hnil | hkept
      · -- Only dots follow, and they stay where the first name leads.
        rw [hnil, follow_singleton] at h
        have hdirectory := htree.lookup?_of_step h
        rw [follow_cons_of_found h hne]
        refine ih ?_
        rw [hnil, follow, hdirectory]
      · obtain ⟨q, entry, hstep, hfollow⟩ := exists_of_follow_cons hkept h
        rw [follow_cons_of_found hstep hne]
        exact ih hfollow

/-- A path whose steps lead to a directory leads there. -/
theorem find_of_leadsTo (htree : d.IsTree) (hcheck : checkPath path = .ok ())
    (h : d.LeadsTo path p) : d.find path = .ok (p, .directory) := by
  have hfollow : d.follow (d.origin path) (Path.names path) = .ok (.found p .directory) :=
    follow_of_filter_dots htree h
  unfold find locate
  rw [approach_eq, hcheck, hfollow]
  rfl

/-- A path leads from a root down along a way, and the system takes it, unless it is empty. -/
structure Descends (root : String) (way : List String) (path : String) : Prop where
  isAbsolute_eq : Path.isAbsolute path = Path.isAbsolute root
  steps_eq : steps path = steps root ++ way
  check : path ≠ "" → checkPath path = .ok ()
  endsIdle_eq : way ≠ [] → endsIdle path = false

namespace Descends

theorem towards (h : Descends root way path) : Towards root way path :=
  ⟨h.isAbsolute_eq, h.steps_eq ▸ List.prefix_rfl⟩

theorem ne_empty (h : Descends root way path) (hne : way ≠ []) : path ≠ "" := by
  rintro rfl
  have hsteps := h.steps_eq
  rw [show steps "" = [] by decide, eq_comm, List.append_eq_nil_iff] at hsteps
  exact hne hsteps.2

/-- The path is followed from where the root leads. -/
theorem approach (h : Descends root way path) (hroot : d.LeadsTo root r) (hne : way ≠ []) :
    d.approach path = (d.follow r way).map fun t => (t, false) := by
  rw [approach_of_endsIdle (h.check (h.ne_empty hne)) (h.endsIdle_eq hne),
    origin_congr h.isAbsolute_eq, h.steps_eq, follow_append hroot hne]

theorem parent? {front : List String} {last : String} (h : Descends root (front ++ [last]) path) :
    ∃ up, Path.parent? path = some up ∧ Descends root front up := by
  obtain ⟨up, hup⟩ := @Path.exists_parent? path (by simp [h.steps_eq])
  have hsteps : steps up = steps root ++ front := by
    rw [Path.steps_parent? hup, h.steps_eq, ← List.append_assoc, List.dropLast_concat]
  exact ⟨up, hup, (Path.components_parent? hup).1.trans h.isAbsolute_eq, hsteps,
    fun hne => checkPath_parent? hup hne (h.check (h.ne_empty (by simp))),
    fun hne => Path.endsIdle_parent? hup (by simp [hsteps, hne])⟩

end Descends

/-! ### What is at a place -/

/-- The list of entries agrees that there is a file, or nothing. -/
def Agrees (d : Disk) : Target → Prop
  | .found _ .directory => True
  | .found p (.file content) => d.lookup? p = some (.file content)
  | .vacant p => d.lookup? p = none

theorem agrees_of_step {name : String} (h : d.step place name = .ok t) : d.Agrees t := by
  obtain ⟨-, ⟨-, rfl⟩ | ⟨-, rfl⟩ | ⟨-, ⟨entry, hdown, rfl⟩ | ⟨hnone, rfl⟩⟩⟩ := step_cases h
  · trivial
  · trivial
  · rcases entry with _ | content
    · trivial
    · exact hdown
  · exact hnone

theorem agrees_of_follow {names : List String} (h : d.follow place names = .ok t) :
    d.Agrees t := by
  induction names generalizing place with
  | nil =>
    obtain ⟨entry, hplace, rfl⟩ := follow_nil h
    rcases entry with _ | content
    · trivial
    · exact hplace
  | cons name rest ih =>
    rcases eq_or_ne rest [] with rfl | hne
    · rw [follow_singleton] at h
      exact agrees_of_step h
    · obtain ⟨_, _, -, hrest⟩ := exists_of_follow_cons hne h
      exact ih hrest

/-! ### Directories that are new -/

/-- Directories are new at some places where nothing was, and every other place is as before. -/
structure Adds (new : Place → Prop) (d d' : Disk) : Prop where
  workingDirectory : d'.workingDirectory = d.workingDirectory
  places : ∀ q, d'.lookup? q = d.lookup? q ∨
    new q ∧ d.lookup? q = none ∧ d'.lookup? q = some .directory

namespace Adds

variable {new : Place → Prop}

theorem refl (new : Place → Prop) (d : Disk) : Adds new d d := ⟨rfl, fun _ => .inl rfl⟩

theorem trans {d'' : Disk} (h : Adds new d d') (h' : Adds new d' d'') : Adds new d d'' := by
  refine ⟨h'.workingDirectory.trans h.workingDirectory, fun q => ?_⟩
  rcases h'.places q with hsame' | ⟨hnew, hnone, hmade⟩
  · rw [hsame']
    exact h.places q
  · rcases h.places q with hsame | ⟨_, _, hmade'⟩
    · exact .inr ⟨hnew, hsame ▸ hnone, hmade⟩
    · rw [hmade'] at hnone
      cases hnone

theorem put (hnew : new p) (hnone : d.lookup? p = none) : Adds new d (d.put p .directory) := by
  refine ⟨rfl, fun q => ?_⟩
  rcases eq_or_ne q p with rfl | hne
  · refine .inr ⟨hnew, hnone, lookup?_put_self ?_ _⟩
    rintro rfl
    cases hnone
  · exact .inl (lookup?_put_of_ne hne _)

theorem keeps (h : Adds new d d') : Keeps [] d d' where
  workingDirectory := h.workingDirectory
  directories := fun q hq => by
    rcases h.places q with hsame | ⟨_, _, hmade⟩
    · rw [hsame, hq]
    · exact hmade
  outside := fun q hq => by
    rcases eq_or_ne q [] with rfl | hne
    · rfl
    · exact absurd ⟨q, hne, rfl⟩ hq

end Adds

/-- A place is on a way down from where a root leads to; if it leads to no directory, any place
is. -/
def OnWay (d : Disk) (root : String) (way : List String) (q : Place) : Prop :=
  ∀ r, d.LeadsTo root r → ∃ names, names ≠ [] ∧ names <+: way ∧ q = r ++ names

theorem LeadsTo.eq_of_vacant (hroot : d.LeadsTo root r)
    (hway : ∀ name ∈ way, Path.IsName name) (hpath : Towards root way path)
    (h : d.follow (d.origin path) (steps path) = .ok (.vacant p)) :
    ∃ names, names ≠ [] ∧ names <+: way ∧ p = r ++ names := by
  have horigin : d.origin path = d.origin root := origin_congr hpath.1
  rcases List.prefix_or_prefix_of_prefix hpath.2 (List.prefix_append _ _) with habove | hdown
  · exact absurd h (hroot.not_vacant horigin habove)
  · obtain ⟨names, hnames⟩ := hdown
    have hstart : names <+: way := by
      have hsteps := hpath.2
      rwa [← hnames, List.prefix_append_right_inj] at hsteps
    rw [horigin, ← hnames] at h
    rcases eq_or_ne names [] with rfl | hne
    · rw [List.append_nil, hroot] at h
      cases h
    · rw [follow_append hroot hne] at h
      rcases follow_names (fun name hname => hway name (hstart.subset hname)) h with
        ⟨_, -, heq⟩ | ⟨-, -, heq⟩
      · cases heq
      · exact ⟨names, hne, hstart, Target.vacant.inj heq⟩

theorem Adds.makeDir (hadds : Adds (OnWay d₀ root way) d₀ d)
    (hway : ∀ name ∈ way, Path.IsName name) (hpath : Towards root way path)
    (h : d.makeDir path = .ok d') : Adds (OnWay d₀ root way) d₀ d' := by
  obtain ⟨p, _, happroach, rfl⟩ := of_makeDir h
  have hfollow := follow_steps happroach
  refine hadds.trans (put (fun r hroot => ?_) (agrees_of_follow hfollow))
  exact (hroot.keeps hadds.keeps).eq_of_vacant hway hpath hfollow

/-- Directories that are made on the way from a root down, and above it, are the ones that are
new. -/
theorem Adds.makeAllFrom (hway : ∀ name ∈ way, Path.IsName name) (hpath : Towards root way path)
    (fuel : Nat) :
    Adds (OnWay d root way) d (d.makeAllFrom path (above fuel path)).2 :=
  makeAllFrom_invariant (fun hadds hpath hmade => hadds.makeDir hway hpath hmade) (refl _ d) hpath
    (forall_above (fun hpath hup => hpath.parent? hup) hpath fuel)

theorem Adds.makeAll (hway : ∀ name ∈ way, Path.IsName name) (hpath : Towards root way path) :
    Adds (OnWay d root way) d (d.makeAll path).2 :=
  makeAllFrom hway hpath _

theorem Adds.of_makeAllFrom (hway : ∀ name ∈ way, Path.IsName name)
    (hpath : Towards root way path) {fuel : Nat} {result : Except OsError Unit}
    (h : d.makeAllFrom path (above fuel path) = (result, d')) : Adds (OnWay d root way) d d' := by
  have hadds := @Adds.makeAllFrom d root path way hway hpath fuel
  rwa [h] at hadds

/-- Nothing is new behind the end of a way. -/
theorem Adds.lookup?_last {last : String} (h : Adds (OnWay d root way) d d')
    (hroot : d.LeadsTo root r) :
    d'.lookup? (r ++ (way ++ [last])) = d.lookup? (r ++ (way ++ [last])) := by
  rcases h.places (r ++ (way ++ [last])) with hsame | ⟨hnew, -, -⟩
  · exact hsame
  · obtain ⟨names, -, hnames, heq⟩ := hnew r hroot
    rw [← List.append_cancel_left heq] at hnames
    have hlength := hnames.length_le
    rw [List.length_append, List.length_singleton] at hlength
    omega

/-! ### When directories can be made -/

theorem isDirectory_of_find (h : d.find path = .ok (p, .directory)) :
    d.isDirectory path = true := by
  unfold isDirectory
  rw [h]

theorem makeDir_of_find {entry : Entry} (h : d.find path = .ok (p, entry)) :
    d.makeDir path = .error .fileExists := by
  obtain ⟨slash, happroach⟩ := of_find h
  unfold makeDir
  rw [happroach]
  rfl

/-- A directory that is there already is made at once. -/
theorem makeAllFrom_of_directory (h : d.find path = .ok (p, .directory)) (ups : List String) :
    d.makeAllFrom path ups = (.ok (), d) := by
  rcases ups with _ | ⟨up, more⟩
  · rw [makeAllFrom, makeDirOnce, makeDir_of_find h, isDirectory_of_find h]
    split
    · rfl
    · rfl
  · rw [makeAllFrom, makeDir_of_find h, isDirectory_of_find h]
    split
    · rfl
    · rfl

/-- Nothing is made where it fails for anything but what is missing above. -/
theorem makeAllFrom_of_error {e : OsError} (hne : path ≠ "") (h : d.makeDir path = .error e)
    (hfound : e ≠ .notFound) (hdirectory : d.isDirectory path = false) (ups : List String) :
    d.makeAllFrom path ups = (.error e, d) := by
  have hempty : ¬path.isEmpty = true := by simpa using hne
  rcases ups with _ | ⟨up, more⟩
  · rw [makeAllFrom, makeDirOnce, h, hdirectory, if_neg hempty]
    rfl
  · rw [makeAllFrom, h, hdirectory, if_neg hempty]
    rcases e
    case notFound => exact absurd rfl hfound
    all_goals rfl

theorem makeAllFrom_of_refused {e : OsError} (hne : path ≠ "") (h : d.approach path = .error e)
    (hfound : e ≠ .notFound) (ups : List String) : d.makeAllFrom path ups = (.error e, d) := by
  refine makeAllFrom_of_error hne ?_ hfound ?_ ups
  · unfold makeDir
    rw [h]
    rfl
  · unfold isDirectory find locate
    rw [h]
    rfl

theorem makeAllFrom_of_file {slash : Bool} {content : List UInt8} (hne : path ≠ "")
    (h : d.approach path = .ok (.found p (.file content), slash)) (ups : List String) :
    d.makeAllFrom path ups = (.error .fileExists, d) := by
  refine makeAllFrom_of_error hne ?_ (by decide) ?_ ups
  · unfold makeDir
    rw [h]
    rfl
  · unfold isDirectory find locate
    rw [h]
    cases slash
    · rfl
    · rfl

theorem makeAllFrom_cons_of_made {up : String} {more : List String} (hne : path ≠ "")
    (h : d.makeDir path = .ok d') : d.makeAllFrom path (up :: more) = (.ok (), d') := by
  rw [makeAllFrom, h, if_neg (by simpa using hne)]

theorem makeAllFrom_cons_of_missing {up : String} {more : List String} {d'' : Disk}
    (hne : path ≠ "") (h : d.makeDir path = .error .notFound)
    (habove : d.makeAllFrom up more = (.ok (), d')) (hmade : d'.makeDir path = .ok d'') :
    d.makeAllFrom path (up :: more) = (.ok (), d'') := by
  rw [makeAllFrom, h, if_neg (by simpa using hne), habove]
  dsimp only
  rw [makeDirOnce, hmade]
  rfl

/-- A legal name leads down from a directory to what is there or is not. -/
theorem step_of_legal {name : String} (hplace : d.lookup? place = some .directory)
    (hname : IsLegal name) : d.step place name = .ok (match d.lookup? (place ++ [name]) with
      | some entry => .found (place ++ [name]) entry
      | none => .vacant (place ++ [name])) := by
  unfold step
  rw [hplace]
  dsimp only
  rw [if_neg hname.ne_dot, if_neg hname.ne_up, if_neg (Nat.not_lt_of_le hname.short)]
  rcases d.lookup? (place ++ [name]) with _ | entry
  · rfl
  · rfl

/-- Directories at all places on a way lead down. -/
theorem follow_directories (hlegal : ∀ name ∈ way, IsLegal name)
    (h : ∀ part, part <+: way → d.lookup? (r ++ part) = some .directory) :
    d.follow r way = .ok (.found (r ++ way) .directory) := by
  induction way generalizing r with
  | nil =>
    have hr := h [] List.prefix_rfl
    rw [List.append_nil] at hr ⊢
    rw [follow, hr]
  | cons name rest ih =>
    obtain ⟨hname, hrest⟩ := List.forall_mem_cons.mp hlegal
    have hr := h [] List.nil_prefix
    have hnext := h [name] ((List.prefix_cons_inj name).mpr List.nil_prefix)
    rw [List.append_nil] at hr
    have hstep := step_of_legal hr hname
    rw [hnext] at hstep
    rw [List.append_cons]
    rcases eq_or_ne rest [] with rfl | hne
    · rw [follow_singleton, hstep, List.append_nil]
    · rw [follow_cons_of_found hstep hne]
      refine ih hrest fun part hpart => ?_
      rw [List.append_assoc]
      exact h _ ((List.prefix_cons_inj name).mpr hpart)

/-- Nothing is found behind a place on the way where nothing is, if no file is before it. -/
theorem follow_missing {behind : List String} (hbehind : behind ≠ [])
    (hlegal : ∀ name ∈ way, IsLegal name) (hr : d.lookup? r = some .directory)
    (hfree : ∀ part, part <+: way → ∀ content, d.lookup? (r ++ part) ≠ some (.file content))
    (hnone : d.lookup? (r ++ way) = none) : d.follow r (way ++ behind) = .error .notFound := by
  induction way generalizing r with
  | nil =>
    rw [List.append_nil, hr] at hnone
    cases hnone
  | cons name rest ih =>
    obtain ⟨hname, hrest⟩ := List.forall_mem_cons.mp hlegal
    have hne : rest ++ behind ≠ [] := fun h => hbehind (List.append_eq_nil_iff.mp h).2
    have hstep := step_of_legal hr hname
    rw [List.cons_append]
    rcases hnext : d.lookup? (r ++ [name]) with _ | _ | content
    · rw [hnext] at hstep
      exact follow_cons_of_vacant hstep hne
    · rw [hnext] at hstep
      rw [follow_cons_of_found hstep hne]
      rw [List.append_cons] at hnone
      refine ih hrest hnext (fun part hpart content => ?_) hnone
      rw [List.append_assoc]
      exact hfree _ ((List.prefix_cons_inj name).mpr hpart) content
    · exact absurd hnext (hfree [name] ((List.prefix_cons_inj name).mpr List.nil_prefix) content)

/-- What is behind directories on a way is there or is not. -/
theorem Descends.approach_last {front : List String} {last : String}
    (h : Descends root (front ++ [last]) path) (hroot : d.LeadsTo root r)
    (hlegal : ∀ name ∈ front ++ [last], IsLegal name)
    (hfront : ∀ part, part <+: front → d.lookup? (r ++ part) = some .directory) :
    d.approach path = .ok (match d.lookup? (r ++ (front ++ [last])) with
      | some entry => .found (r ++ (front ++ [last])) entry
      | none => .vacant (r ++ (front ++ [last])), false) := by
  have hdown := follow_directories
    (fun name hname => hlegal name (List.mem_append_left _ hname)) hfront
  have hlast := hlegal last (List.mem_append_right _ List.mem_cons_self)
  rw [h.approach hroot (by simp), follow_append hdown (List.cons_ne_nil _ _), follow_singleton,
    step_of_legal (hfront front List.prefix_rfl) hlast, List.append_assoc]
  rfl

/-- A directory is made at once in one that is there. -/
theorem Descends.makeDir_last {front : List String} {last : String}
    (h : Descends root (front ++ [last]) path) (hroot : d.LeadsTo root r)
    (hlegal : ∀ name ∈ front ++ [last], IsLegal name)
    (hfront : ∀ part, part <+: front → d.lookup? (r ++ part) = some .directory)
    (hnone : d.lookup? (r ++ (front ++ [last])) = none) :
    d.makeDir path = .ok (d.put (r ++ (front ++ [last])) .directory) := by
  unfold makeDir
  rw [h.approach_last hroot hlegal hfront, hnone]
  rfl

theorem directories_put {front : List String} {last : String}
    (hfront : ∀ part, part <+: front → d.lookup? (r ++ part) = some .directory)
    (hnone : d.lookup? (r ++ (front ++ [last])) = none) :
    ∀ part, part <+: front ++ [last] →
      (d.put (r ++ (front ++ [last])) .directory).lookup? (r ++ part) = some .directory := by
  intro part hpart
  rcases List.prefix_concat_iff.mp hpart with rfl | hpart
  · exact lookup?_put_self (by simp) _
  · have hthere := hfront part hpart
    rw [lookup?_put_of_ne (by rintro heq; rw [heq, hnone] at hthere; cases hthere), hthere]

section Way

variable (htree : d.IsTree) (hroot : d.LeadsTo root r)

include htree

/-- Where a directory is there, so are those on the way to it. -/
theorem directories_above (hthere : d.lookup? (r ++ way) = some .directory) {part : List String}
    (hpart : part <+: way) : d.lookup? (r ++ part) = some .directory := by
  obtain ⟨rest, rfl⟩ := hpart
  rcases eq_or_ne rest [] with rfl | hrest
  · rwa [List.append_nil] at hthere
  · rw [← List.append_assoc] at hthere
    exact htree.directory_above hrest (by rw [hthere]; exact Option.some_ne_none _)

include hroot

/-- A directory cannot be made where a file is on the way, and nothing is made then. -/
theorem makeAllFrom_blocked (hpath : Descends root way path) {part : List String}
    (hpart : part <+: way) {content : List UInt8}
    (hfile : d.lookup? (r ++ part) = some (.file content)) (ups : List String) :
    ∃ e, d.makeAllFrom path ups = (.error e, d) := by
  have hne : part ≠ [] := by
    rintro rfl
    rw [List.append_nil, htree.lookup?_of_follow hroot] at hfile
    cases hfile
  obtain ⟨behind, rfl⟩ := hpart
  have happroach := hpath.approach hroot (by simp [hne])
  have hempty := hpath.ne_empty (by simp [hne])
  have hdown := htree.follow_down hne hfile
  rcases eq_or_ne behind [] with rfl | hbehind
  · rw [List.append_nil, hdown] at happroach
    exact ⟨.fileExists, makeAllFrom_of_file hempty happroach ups⟩
  · obtain ⟨name, more, rfl⟩ := List.exists_cons_of_ne_nil hbehind
    rw [follow_append hdown hbehind, follow_cons_of_error (step_of_file hfile name)] at happroach
    exact ⟨.notDirectory, makeAllFrom_of_refused hempty happroach (by decide) ups⟩

/-- Nothing is made where a directory is at the end of the way. -/
theorem makeAllFrom_there (hpath : Descends root way path)
    (hthere : d.lookup? (r ++ way) = some .directory) (ups : List String) :
    d.makeAllFrom path ups = (.ok (), d) := by
  have hleads : d.LeadsTo path (r ++ way) := by
    rw [LeadsTo, origin_congr hpath.isAbsolute_eq, hpath.steps_eq]
    rcases eq_or_ne way [] with rfl | hne
    · rw [List.append_nil, List.append_nil]
      exact hroot
    · rw [follow_append hroot hne, htree.follow_down hne hthere]
  rcases eq_or_ne path "" with rfl | hne
  · rcases ups with _ | ⟨up, more⟩
    · rfl
    · rfl
  · exact makeAllFrom_of_directory (find_of_leadsTo htree (hpath.check hne) hleads) ups

/-- Directories are made along a way of legal names on which no file is. -/
theorem makeAllFrom_ok (hlegal : ∀ name ∈ way, IsLegal name)
    (hfree : ∀ part, part <+: way → ∀ content, d.lookup? (r ++ part) ≠ some (.file content))
    (hpath : Descends root way path) {fuel : Nat} (hfuel : way.length ≤ fuel) :
    ∃ d', d.makeAllFrom path (above fuel path) = (.ok (), d') ∧
      ∀ part, part <+: way → d'.lookup? (r ++ part) = some .directory := by
  have hr := htree.lookup?_of_follow hroot
  induction way using List.reverseRecOn generalizing path fuel with
  | nil =>
    refine ⟨d, makeAllFrom_there htree hroot hpath ?_ _, fun part hpart => ?_⟩
    · rwa [List.append_nil]
    · rwa [List.prefix_nil.mp hpart, List.append_nil]
  | append_singleton front last ih =>
    have hempty := hpath.ne_empty (by simp)
    obtain ⟨up, hup, habove⟩ := hpath.parent?
    rw [List.length_append, List.length_singleton] at hfuel
    obtain ⟨fuel, rfl⟩ : ∃ k, fuel = k + 1 := Nat.exists_eq_add_one.mpr (by omega)
    have hfront : ∀ name ∈ front, IsLegal name := fun name hname =>
      hlegal name (List.mem_append_left _ hname)
    have hfree' : ∀ part, part <+: front → ∀ content,
        d.lookup? (r ++ part) ≠ some (.file content) := fun part hpart =>
      hfree part (hpart.trans (List.prefix_append _ _))
    rcases hthere : d.lookup? (r ++ (front ++ [last])) with _ | _ | content
    · rw [above, hup]
      rcases hfrontthere : d.lookup? (r ++ front) with _ | _ | content
      · -- It is made after those above it, which leave its place as it was.
        have hmissing : d.makeDir path = .error .notFound := by
          unfold makeDir
          rw [hpath.approach hroot (by simp),
            follow_missing (List.cons_ne_nil _ _) hfront hr hfree' hfrontthere]
          rfl
        obtain ⟨d', hmade, hdirectories⟩ := @ih up hfront hfree' habove fuel (by omega)
        have hadds := Adds.of_makeAllFrom (fun name hname => (hfront name hname).toIsName)
          habove.towards hmade
        have hnone := (hadds.lookup?_last hroot).trans hthere
        exact ⟨_, makeAllFrom_cons_of_missing hempty hmissing hmade
          (hpath.makeDir_last (hroot.keeps hadds.keeps) hlegal hdirectories hnone),
          directories_put hdirectories hnone⟩
      · have hdirectories := fun part => @directories_above d r front htree hfrontthere part
        exact ⟨_, makeAllFrom_cons_of_made hempty
          (hpath.makeDir_last hroot hlegal hdirectories hthere),
          directories_put hdirectories hthere⟩
      · exact absurd hfrontthere (hfree' front List.prefix_rfl content)
    · exact ⟨d, makeAllFrom_there htree hroot hpath hthere _,
        fun part => directories_above htree hthere⟩
    · exact absurd hthere (hfree _ List.prefix_rfl content)

end Way

end Disk

end AgentWorkflow
