/-
Lists of files, and what their texts mean.

* `Disk.IsTree` — every place is there once, its names are ones that a file can have, and there
  is a directory above it.
* `Disk.follow_down` — in a tree, names lead down to what is there.
* `Disk.Lists`, `Disk.mem_filesBelow`, `Disk.nodup_filesBelow` — the files that are listed, each
  of them once; `Disk.Walks`, the directories that are opened to find them.
* `Tool.steps_plainName`, `Tool.listedName_of_plain` — the text of a listed file leads by the
  steps of the directory and then down the way, unless a name has a backslash.
* `Disk.Means`, `Disk.means_listedName_iff` — a text means a file below a root.
* `Tool.Listing`, `Tool.listFiles_lists` — what is listed, and which of the texts mean their
  files.

Design notes: backslashes are written as slashes, also those in names.  So a text means its file
if no name in it has a backslash; the root is not part of the text, and its names do not matter.
-/
import AgentWorkflow.Proofs.Confinement

namespace AgentWorkflow

/-- No name has a backslash. -/
def Path.Plain (names : List String) : Prop := ∀ name ∈ names, '\\' ∉ name.toList

instance (names : List String) : Decidable (Path.Plain names) :=
  inferInstanceAs (Decidable (∀ name ∈ names, _))

/-- A name that a file can have. -/
structure Path.IsLegal (name : String) : Prop extends Path.IsName name where
  noNul : '\x00' ∉ name.toList
  short : name.utf8ByteSize ≤ Disk.nameLimit

theorem Path.isLegal_iff {name : String} : IsLegal name ↔
    (name ≠ "" ∧ name ≠ "." ∧ name ≠ ".." ∧ '/' ∉ name.toList) ∧
      '\x00' ∉ name.toList ∧ name.utf8ByteSize ≤ Disk.nameLimit :=
  ⟨fun h => ⟨⟨h.ne_empty, h.ne_dot, h.ne_up, h.noSlash⟩, h.noNul, h.short⟩,
    fun ⟨⟨hempty, hdot, hup, hslash⟩, hnul, hshort⟩ =>
      ⟨⟨hempty, hdot, hup, hslash⟩, hnul, hshort⟩⟩

instance (name : String) : Decidable (Path.IsLegal name) := decidable_of_iff _ Path.isLegal_iff.symm

namespace Disk

variable {d : Disk} {place : Place}

/-! ### Trees -/

theorem lookup_eq_some_iff {entries : List (Place × Entry)}
    (hplaces : entries.Pairwise fun a b => a.1 ≠ b.1) {p : Place} {entry : Entry} :
    entries.lookup p = some entry ↔ (p, entry) ∈ entries := by
  induction entries with
  | nil => simp
  | cons e rest ih =>
    obtain ⟨q, found⟩ := e
    obtain ⟨hfirst, hrest⟩ := List.pairwise_cons.mp hplaces
    rw [List.lookup_cons, List.mem_cons]
    by_cases hq : p = q
    · subst hq
      have hother : (p, entry) ∉ rest := fun hmem => hfirst _ hmem rfl
      simp [hother, eq_comm]
    · have hne : (p == q) = false := by simpa using hq
      rw [hne]
      simp [hq, ih hrest]

/-- Every place is there once, has names, and these are legal; and above it is a directory. -/
structure IsTree (d : Disk) : Prop where
  places : d.entries.Pairwise fun a b => a.1 ≠ b.1
  legal : ∀ e ∈ d.entries, e.1 ≠ [] ∧ ∀ name ∈ e.1, Path.IsLegal name
  above : ∀ e ∈ d.entries, d.lookup? e.1.dropLast = some .directory

theorem isTree_iff : d.IsTree ↔ (d.entries.Pairwise fun a b => a.1 ≠ b.1) ∧
    (∀ e ∈ d.entries, e.1 ≠ [] ∧ ∀ name ∈ e.1, Path.IsLegal name) ∧
      ∀ e ∈ d.entries, d.lookup? e.1.dropLast = some .directory :=
  ⟨fun h => ⟨h.places, h.legal, h.above⟩, fun ⟨hplaces, hlegal, habove⟩ =>
    ⟨hplaces, hlegal, habove⟩⟩

instance (d : Disk) : Decidable d.IsTree := decidable_of_iff _ isTree_iff.symm

namespace IsTree

variable (htree : d.IsTree)

include htree

/-- An entry is found at its place. -/
theorem lookup?_eq_some_iff {p : Place} (hp : p ≠ []) {entry : Entry} :
    d.lookup? p = some entry ↔ (p, entry) ∈ d.entries := by
  rw [lookup?, if_neg hp, lookup_eq_some_iff htree.places]

theorem file_iff {p : Place} {content : List UInt8} :
    d.lookup? p = some (.file content) ↔ (p, .file content) ∈ d.entries := by
  rcases eq_or_ne p [] with rfl | hp
  · refine iff_of_false ?_ fun h => (htree.legal _ h).1 rfl
    rintro ⟨⟩
  · exact htree.lookup?_eq_some_iff hp

theorem isLegal_of_lookup {names : List String} (h : d.lookup? (place ++ names) ≠ none) :
    ∀ name ∈ names, Path.IsLegal name := by
  intro name hname
  have hne : place ++ names ≠ [] := fun hnil =>
    List.ne_nil_of_mem hname (List.append_eq_nil_iff.mp hnil).2
  obtain ⟨entry, hentry⟩ := Option.ne_none_iff_exists'.mp h
  exact (htree.legal _ ((htree.lookup?_eq_some_iff hne).mp hentry)).2 name
    (List.mem_append_right _ hname)

theorem directory_of_lookup {name : String} (h : d.lookup? (place ++ [name]) ≠ none) :
    d.lookup? place = some .directory := by
  obtain ⟨entry, hentry⟩ := Option.ne_none_iff_exists'.mp h
  have habove := htree.above _ ((htree.lookup?_eq_some_iff (by simp)).mp hentry)
  rwa [List.dropLast_concat] at habove

theorem directory_above {names : List String} (hne : names ≠ [])
    (h : d.lookup? (place ++ names) ≠ none) : d.lookup? place = some .directory := by
  induction names using List.reverseRecOn with
  | nil => exact absurd rfl hne
  | append_singleton front last ih =>
    have hfront := @directory_of_lookup d (place ++ front) htree last (by rwa [List.append_assoc])
    rcases eq_or_ne front [] with rfl | hfront'
    · rwa [List.append_nil] at hfront
    · exact ih hfront' (by simp [hfront])

/-- Names lead down to what is there. -/
theorem follow_down {names : List String} (hne : names ≠ []) {entry : Entry}
    (h : d.lookup? (place ++ names) = some entry) :
    d.follow place names = .ok (.found (place ++ names) entry) := by
  induction names generalizing place with
  | nil => exact absurd rfl hne
  | cons name rest ih =>
    have hsome : d.lookup? (place ++ name :: rest) ≠ none := by simp [h]
    have hplace := htree.directory_above (List.cons_ne_nil name rest) hsome
    have hlegal := htree.isLegal_of_lookup hsome name List.mem_cons_self
    have hname : name ≠ "." ∧ name ≠ ".." ∧ name.utf8ByteSize ≤ nameLimit :=
      ⟨hlegal.ne_dot, hlegal.ne_up, hlegal.short⟩
    rcases eq_or_ne rest [] with rfl | hrest
    · rw [follow_singleton]
      exact step_down hplace hname h
    · rw [List.append_cons] at h hsome ⊢
      have hnext := htree.directory_above hrest hsome
      rw [follow_cons_of_found (step_down hplace hname hnext) hrest]
      exact ih hrest h

theorem lookup?_of_step {name : String} {p : Place} {entry : Entry}
    (h : d.step place name = .ok (.found p entry)) : d.lookup? p = some entry := by
  obtain ⟨hplace, ⟨-, heq⟩ | ⟨-, heq⟩ | ⟨-, ⟨_, hdown, heq⟩ | ⟨-, heq⟩⟩⟩ := step_cases h
  · obtain ⟨rfl, rfl⟩ := Target.found.inj heq
    exact hplace
  · obtain ⟨rfl, rfl⟩ := Target.found.inj heq
    -- The step goes up, to the root or to what is above an entry.
    rcases List.eq_nil_or_concat' place with rfl | ⟨above, last, rfl⟩
    · rfl
    · rw [List.dropLast_concat]
      exact htree.directory_of_lookup (by rw [hplace]; exact Option.some_ne_none _)
  · obtain ⟨rfl, rfl⟩ := Target.found.inj heq
    exact hdown
  · cases heq

/-- What names lead to is there. -/
theorem lookup?_of_follow {names : List String} {p : Place} {entry : Entry}
    (h : d.follow place names = .ok (.found p entry)) : d.lookup? p = some entry := by
  induction names generalizing place with
  | nil =>
    obtain ⟨_, hplace, heq⟩ := follow_nil h
    obtain ⟨rfl, rfl⟩ := Target.found.inj heq
    exact hplace
  | cons name rest ih =>
    rcases eq_or_ne rest [] with rfl | hne
    · rw [follow_singleton] at h
      exact htree.lookup?_of_step h
    · obtain ⟨_, _, -, hrest⟩ := exists_of_follow_cons hne h
      exact ih hrest

end IsTree

/-! ### The files below a place -/

/-- A file is listed when no directory between the place and the file is left out. -/
def Lists (d : Disk) (place way : Place) : Prop :=
  (∃ content, d.lookup? (place ++ way) = some (.file content)) ∧
    ∀ name ∈ way.dropLast, name ∉ skippedNames

theorem below?_eq_some_iff {p way : Place} : below? place p = some way ↔ p = place ++ way := by
  unfold below?
  split
  · next h =>
    obtain ⟨rest, rfl⟩ := List.isPrefixOf_iff_prefix.mp h
    simp [eq_comm]
  · next h =>
    refine iff_of_false (by simp) ?_
    rintro rfl
    exact h (List.isPrefixOf_iff_prefix.mpr (List.prefix_append _ _))

theorem isListed_iff {way : Place} :
    isListed way = true ↔ ∀ name ∈ way.dropLast, name ∉ skippedNames := by
  simp [isListed]

/-- A directory is walked through when neither it nor one above it is left out. -/
def Walks (d : Disk) (place way : Place) : Prop :=
  way ≠ [] ∧ d.lookup? (place ++ way) = some .directory ∧ ∀ name ∈ way, name ∉ skippedNames

/-- The way down to an entry, if it is a file that is listed. -/
def listedWay? (place : Place) (e : Place × Entry) : Option Place :=
  match e.2 with
  | .directory => none
  | .file _ => (below? place e.1).filter isListed

/-- The way down to an entry, if it is a directory that is walked through. -/
def walkedWay? (place : Place) (e : Place × Entry) : Option Place :=
  match e.2 with
  | .file _ => none
  | .directory => (below? place e.1).filter fun below =>
      !below.isEmpty && below.all fun name => !skippedNames.contains name

theorem listedWay?_eq_some_iff {e : Place × Entry} {way : Place} :
    listedWay? place e = some way ↔
      (∃ content, e = (place ++ way, .file content)) ∧
        ∀ name ∈ way.dropLast, name ∉ skippedNames := by
  obtain ⟨p, _ | content⟩ := e
  · simp [listedWay?]
  · simp only [listedWay?, Option.filter_eq_some_iff, below?_eq_some_iff, isListed_iff]
    simp

theorem walkedWay?_eq_some_iff {e : Place × Entry} {way : Place} :
    walkedWay? place e = some way ↔
      e = (place ++ way, .directory) ∧ way ≠ [] ∧ ∀ name ∈ way, name ∉ skippedNames := by
  obtain ⟨p, _ | content⟩ := e
  · simp only [walkedWay?, Option.filter_eq_some_iff, below?_eq_some_iff]
    simp
  · simp [walkedWay?]

theorem filesBelow_eq (d : Disk) (place : Place) :
    d.filesBelow place = (d.entries.filterMap (listedWay? place)).mergeSort Place.notAfter := rfl

theorem walkedBelow_eq (d : Disk) (place : Place) :
    d.walkedBelow place = (d.entries.filterMap (walkedWay? place)).mergeSort Place.notAfter := rfl

theorem mem_filesBelow (htree : d.IsTree) {way : Place} :
    way ∈ d.filesBelow place ↔ d.Lists place way := by
  rw [filesBelow_eq, List.mem_mergeSort, List.mem_filterMap]
  constructor
  · rintro ⟨e, hmem, hway⟩
    obtain ⟨⟨content, rfl⟩, hlisted⟩ := listedWay?_eq_some_iff.mp hway
    exact ⟨⟨content, htree.file_iff.mpr hmem⟩, hlisted⟩
  · rintro ⟨⟨content, hfile⟩, hlisted⟩
    exact ⟨_, htree.file_iff.mp hfile, listedWay?_eq_some_iff.mpr ⟨⟨content, rfl⟩, hlisted⟩⟩

theorem mem_walkedBelow (htree : d.IsTree) {way : Place} :
    way ∈ d.walkedBelow place ↔ d.Walks place way := by
  rw [walkedBelow_eq, List.mem_mergeSort, List.mem_filterMap]
  constructor
  · rintro ⟨e, hmem, hway⟩
    obtain ⟨rfl, hne, hwalked⟩ := walkedWay?_eq_some_iff.mp hway
    exact ⟨hne, (htree.lookup?_eq_some_iff (by simp [hne])).mpr hmem, hwalked⟩
  · rintro ⟨hne, hdirectory, hwalked⟩
    exact ⟨_, (htree.lookup?_eq_some_iff (by simp [hne])).mp hdirectory,
      walkedWay?_eq_some_iff.mpr ⟨rfl, hne, hwalked⟩⟩

/-- No file is listed twice. -/
theorem nodup_filesBelow (htree : d.IsTree) : (d.filesBelow place).Nodup := by
  rw [filesBelow_eq, (List.mergeSort_perm _ _).nodup_iff]
  refine htree.places.filterMap _ ?_
  intro a b hne way hway way' hway' heq
  obtain ⟨⟨_, rfl⟩, -⟩ := listedWay?_eq_some_iff.mp hway
  obtain ⟨⟨_, rfl⟩, -⟩ := listedWay?_eq_some_iff.mp hway'
  exact hne (by rw [heq])

end Disk

/-! ### Texts of files -/

namespace Text

/-- One character is replaced by another one wherever it stands. -/
theorem replaceFrom_singleton (a b : Char) (cs : List Char) :
    replaceFrom [a] [b] 0 cs = cs.map fun c => if c = a then b else c := by
  induction cs with
  | nil => rfl
  | cons c rest ih =>
    rw [replaceFrom, List.map_cons]
    by_cases hc : c = a
    · subst hc
      simp [ih]
    · have hother : (a == c) = false := beq_eq_false_iff_ne.mpr (Ne.symm hc)
      simp [List.isPrefixOf, hother, hc, ih]

theorem replaceAll_backslash (s : String) :
    replaceAll "\\" "/" s = String.ofList (s.toList.map fun c => if c = '\\' then '/' else c) :=
  congrArg String.ofList (replaceFrom_singleton _ _ _)

theorem replaceAll_of_noBackslash {s : String} (h : '\\' ∉ s.toList) :
    replaceAll "\\" "/" s = s := by
  rw [replaceAll_backslash, List.map_congr_left (g := id), List.map_id, String.ofList_toList]
  intro c hc
  exact if_neg fun heq : c = '\\' => h (heq ▸ hc)

theorem noBackslash_replaceAll (s : String) : '\\' ∉ (replaceAll "\\" "/" s).toList := by
  rw [replaceAll_backslash, String.toList_ofList]
  intro h
  obtain ⟨c, -, hc⟩ := List.mem_map.mp h
  split at hc
  · exact absurd hc (by decide)
  · next hne => exact hne hc

end Text

namespace Tool

open AgentWorkflow.Path (names steps segments isIdle IsName staysInside)

/-- The text of a way down from a directory, before backslashes are replaced. -/
def plainName (directory : String) (below : Place) : String :=
  Text.join "/" ((segments (if below.isEmpty then directory
    else Path.join directory (Text.join "/" below))).dropWhile isIdle)

theorem listedName_eq (directory : String) (below : Place) :
    listedName directory below = Text.replaceAll "\\" "/" (plainName directory below) := rfl

theorem segments_way {way : Place} (hne : way ≠ []) (hnames : ∀ name ∈ way, IsName name) :
    segments (Text.join "/" way) = way ∧ Path.isAbsolute (Text.join "/" way) = false := by
  have hsegments := Path.segments_join hne fun name hname => (hnames name hname).noSlash
  obtain ⟨first, rest, rfl⟩ := List.exists_cons_of_ne_nil hne
  exact ⟨hsegments, Bool.eq_false_iff.mpr fun h =>
    (hnames first List.mem_cons_self).ne_empty ((Path.isAbsolute_iff hsegments).mp h).1⟩

theorem dropWhile_isIdle_append (before : List String) {way : Place} (hne : way ≠ [])
    (hnames : ∀ name ∈ way, IsName name) :
    (before ++ way).dropWhile isIdle = before.dropWhile isIdle ++ way := by
  obtain ⟨first, rest, rfl⟩ := List.exists_cons_of_ne_nil hne
  have hfirst := hnames first List.mem_cons_self
  have hidle : isIdle first = false := by simp [isIdle, hfirst.ne_empty, hfirst.ne_dot]
  rw [List.dropWhile_append]
  split
  · next hnil =>
    rw [List.isEmpty_iff.mp hnil, List.dropWhile_cons_of_neg (by simp [hidle]), List.nil_append]
  · rfl

/-- The text of a file has the pieces of the directory, without the idle ones at the start, and
then the names of the way down. -/
theorem exists_segments_plainName (directory : String) {way : Place} (hne : way ≠ [])
    (hnames : ∀ name ∈ way, IsName name) :
    ∃ dots kept : List String, segments (plainName directory way) = kept ++ way ∧
      names directory = dots ++ kept.filter (· ≠ "") ∧ (∀ dot ∈ dots, dot = ".") ∧
      (∀ piece ∈ kept, piece ∈ segments directory) ∧
      Path.isAbsolute (plainName directory way) = false := by
  obtain ⟨hway, hrelative⟩ := segments_way hne hnames
  obtain ⟨before, hjoin, hdirectory⟩ := Path.exists_segments_join directory hrelative
  have hpieces : (segments (Path.join directory (Text.join "/" way))).dropWhile isIdle =
      before.dropWhile isIdle ++ way := by
    rw [hjoin, hway, dropWhile_isIdle_append before hne hnames]
  have hnoSlash : ∀ piece ∈ before.dropWhile isIdle ++ way, '/' ∉ piece.toList := by
    rw [← hpieces]
    exact fun piece hpiece =>
      Path.not_mem_of_mem_segments ((List.dropWhile_suffix _).subset hpiece)
  have hsegments : segments (plainName directory way) = before.dropWhile isIdle ++ way := by
    have hempty : way.isEmpty = false := by simpa using hne
    rw [plainName, hempty, if_neg Bool.false_ne_true, hpieces,
      Path.segments_join (by simp [hne]) hnoSlash]
  refine ⟨(before.takeWhile isIdle).filter (· ≠ ""), before.dropWhile isIdle, hsegments, ?_, ?_,
    ?_, ?_⟩
  · rw [← List.filter_append, List.takeWhile_append_dropWhile,
      Path.names_eq_of_segments hdirectory]
  · intro dot hdot
    obtain ⟨hidle, hne⟩ := List.mem_filter.mp hdot
    have hidle := List.mem_takeWhile_imp hidle
    simp only [isIdle, Bool.or_eq_true, beq_iff_eq] at hidle
    exact hidle.resolve_left (by simpa using hne)
  · intro piece hpiece
    have hbefore := (List.dropWhile_suffix _).subset hpiece
    rcases hdirectory with h | h
    · rwa [h]
    · rw [h]
      exact List.mem_append_left _ hbefore
  · -- The first piece that is kept is not idle, so it is not empty.
    rw [Bool.eq_false_iff]
    intro habsolute
    obtain ⟨first, rest, hcons⟩ :=
      List.exists_cons_of_ne_nil (Path.segments_ne_nil (plainName directory way))
    have hfirst := List.head?_dropWhile_not isIdle
      (segments (Path.join directory (Text.join "/" way)))
    rw [hpieces, ← hsegments, hcons, ((Path.isAbsolute_iff hcons).mp habsolute).1] at hfirst
    cases hfirst

section PlainName

variable {directory : String} {way : Place} (hne : way ≠ []) (hnames : ∀ name ∈ way, IsName name)

include hne hnames

/-- The names of the text are those of the directory, without the dots at the start, and then
those of the way down. -/
theorem exists_names_plainName : ∃ dots kept : List String, (∀ dot ∈ dots, dot = ".") ∧
    names directory = dots ++ kept ∧ names (plainName directory way) = kept ++ way := by
  obtain ⟨dots, kept, hsegments, hdirectory, hdots, -⟩ :=
    exists_segments_plainName directory hne hnames
  have hway : way.filter (· ≠ "") = way :=
    List.filter_eq_self.mpr fun name hname => by simpa using (hnames name hname).ne_empty
  exact ⟨dots, kept.filter (· ≠ ""), hdots, hdirectory,
    by rw [names, hsegments, List.filter_append, hway]⟩

theorem steps_plainName : steps (plainName directory way) = steps directory ++ way := by
  obtain ⟨dots, kept, hdots, hdirectory, htext⟩ := @exists_names_plainName directory way hne hnames
  have hdots : dots.filter (· != ".") = [] :=
    List.filter_eq_nil_iff.mpr fun dot hdot => by simp [hdots dot hdot]
  have hway : way.filter (· != ".") = way :=
    List.filter_eq_self.mpr fun name hname => by simpa using (hnames name hname).ne_dot
  rw [steps, htext, steps, hdirectory, List.filter_append, List.filter_append, hdots, hway,
    List.nil_append]

theorem staysInside_plainName (hdirectory : staysInside directory = true) :
    staysInside (plainName directory way) = true := by
  obtain ⟨_, kept, hsegments, -, -, hkept, hrelative⟩ :=
    exists_segments_plainName directory hne hnames
  refine Path.staysInside_iff.mpr ⟨hrelative, fun hup => ?_⟩
  rw [hsegments] at hup
  rcases List.mem_append.mp hup with hup | hup
  · exact (Path.staysInside_iff.mp hdirectory).2 (hkept _ hup)
  · exact (hnames _ hup).ne_up rfl

/-- A character of the text, unless it is a slash, is one of the directory or of the way. -/
theorem mem_plainName {c : Char} (hc : c ≠ '/') (h : c ∈ (plainName directory way).toList) :
    (∃ piece ∈ segments directory, c ∈ piece.toList) ∨ ∃ name ∈ way, c ∈ name.toList := by
  obtain ⟨_, kept, hsegments, -, -, hkept, -⟩ := exists_segments_plainName directory hne hnames
  obtain ⟨piece, hpiece, hmem⟩ := (Path.mem_iff_segments hc).mp h
  rw [hsegments] at hpiece
  rcases List.mem_append.mp hpiece with hpiece | hpiece
  · exact .inl ⟨piece, hkept piece hpiece, hmem⟩
  · exact .inr ⟨piece, hpiece, hmem⟩

/-- Where no name has a backslash, the text is left as it is. -/
theorem listedName_of_plain (hplain : Path.Plain (steps directory ++ way)) :
    listedName directory way = plainName directory way := by
  rw [listedName_eq]
  refine Text.replaceAll_of_noBackslash fun hbackslash => ?_
  rcases mem_plainName hne hnames (by decide) hbackslash with
    ⟨piece, hpiece, hbackslash⟩ | ⟨name, hname, hbackslash⟩
  · have hidle : isIdle piece = false := by
      rw [Bool.eq_false_iff]
      intro hidle
      rcases Path.isIdle_iff.mp hidle with rfl | rfl
      · simp at hbackslash
      · simp at hbackslash
    have hsteps : piece ∈ steps directory := by
      rw [Path.steps_eq, List.mem_filter, Path.not_isIdle, hidle]
      exact ⟨hpiece, rfl⟩
    exact hplain piece (List.mem_append_left _ hsteps) hbackslash
  · exact hplain name (List.mem_append_right _ hname) hbackslash

theorem finishesWith_plainName (root : String) (hdirectory : staysInside directory = true) :
    Text.finishesWith "/" (Path.join root (plainName directory way)) = false := by
  obtain ⟨_, kept, hsegments, -⟩ := exists_segments_plainName directory hne hnames
  have hrelative := (Path.staysInside_iff.mp (staysInside_plainName hne hnames hdirectory)).1
  rw [Bool.eq_false_iff]
  intro hslash
  obtain ⟨front, hfront⟩ := Path.exists_of_finishesWith hslash
  have hlast := Path.getLast?_segments_join root hrelative
  rw [hfront, Path.segments_slash, List.getLast?_concat, hsegments,
    List.getLast?_append_of_ne_nil _ hne] at hlast
  exact (hnames _ (List.mem_of_getLast? hlast.symm)).ne_empty rfl

end PlainName

end Tool

/-! ### What texts mean -/

namespace Disk

open AgentWorkflow.Path (steps staysInside IsLegal)

variable {d : Disk} {root path text : String} {place way p : Place}

/-- A text that is given as a path below a root means a file with its place. -/
def Means (d : Disk) (root text : String) (p : Place) (content : List UInt8) : Prop :=
  staysInside text = true ∧ d.find (Path.join root text) = .ok (p, .file content)

/-- What is found below a root is where the steps of the text lead. -/
theorem LeadsTo.eq_of_find {r : Place} {entry : Entry} (hroot : d.LeadsTo root r)
    (hinside : staysInside text = true) (h : d.find (Path.join root text) = .ok (p, entry)) :
    p = r ++ steps text := by
  obtain ⟨slash, happroach⟩ := of_find h
  have hfollow := follow_join (Path.staysInside_iff.mp hinside).1 happroach
  rcases eq_or_ne (steps text) [] with hnil | hne
  · rw [hnil, List.append_nil, hroot] at hfollow
    rw [hnil, List.append_nil]
    exact (Target.found.inj (Except.ok.inj hfollow)).1.symm
  · rw [follow_append hroot hne] at hfollow
    rcases follow_names (fun name => Path.isName_of_mem_steps hinside) hfollow with
      ⟨_, -, heq⟩ | ⟨-, -, heq⟩
    · exact (Target.found.inj heq).1
    · cases heq

/-- If a directory is found below a root, the root leads to one, too. -/
theorem exists_leadsTo_of_find (hinside : staysInside path = true)
    (h : d.find (Path.join root path) = .ok (place, .directory)) : ∃ r, d.LeadsTo root r := by
  obtain ⟨slash, happroach⟩ := of_find h
  have hfollow := follow_join (Path.staysInside_iff.mp hinside).1 happroach
  rcases eq_or_ne (steps path) [] with hnil | hne
  · rw [hnil, List.append_nil] at hfollow
    exact ⟨place, hfollow⟩
  · obtain ⟨r, hroot, -⟩ := exists_of_follow_append hne hfollow
    exact ⟨r, hroot⟩

section Listed

variable (htree : d.IsTree) (hinside : staysInside path = true)
  (hdirectory : d.find (Path.join root path) = .ok (place, .directory))
  {content : List UInt8} (hfile : d.lookup? (place ++ way) = some (.file content))

include htree hdirectory hfile

theorem listed_way : way ≠ [] ∧ ∀ name ∈ way, IsLegal name := by
  refine ⟨?_, htree.isLegal_of_lookup (Option.ne_none_iff_exists'.mpr ⟨_, hfile⟩)⟩
  rintro rfl
  obtain ⟨slash, happroach⟩ := of_find hdirectory
  rw [List.append_nil, htree.lookup?_of_follow (of_approach happroach).2.1] at hfile
  cases hfile

include hinside

theorem checkPath_plainName
    (hsize : (Path.join root (Tool.plainName path way)).utf8ByteSize ≤ pathLimit) :
    checkPath (Path.join root (Tool.plainName path way)) = .ok () := by
  obtain ⟨hne, hlegal⟩ := listed_way htree hdirectory hfile
  have hnames := fun name hname => (hlegal name hname).toIsName
  have htext := Tool.staysInside_plainName hne hnames hinside
  obtain ⟨_, happroach⟩ := of_find hdirectory
  have hcheck := (checkPath_iff.mp (of_approach happroach).1).1
  rw [Path.mem_join (Path.staysInside_iff.mp hinside).1 (by decide), not_or] at hcheck
  -- A NUL would stand in the root, in the text of the directory or in a name on the way.
  refine checkPath_iff.mpr ⟨fun hnul => ?_, fun hempty => ?_, hsize⟩
  · rcases (Path.mem_join (Path.staysInside_iff.mp htext).1 (by decide)).mp hnul with hnul | hnul
    · exact hcheck.1 hnul
    · rcases Tool.mem_plainName hne hnames (by decide) hnul with hpiece | ⟨name, hname, hnul⟩
      · exact hcheck.2 ((Path.mem_iff_segments (by decide)).mpr hpiece)
      · exact (hlegal name hname).noNul hnul
  · have hsteps := Path.steps_join root (Path.staysInside_iff.mp htext).1
    rw [hempty, Tool.steps_plainName hne hnames] at hsteps
    simp [Path.steps, Path.names, Path.segments_empty, hne] at hsteps

/-- The text of a file in a directory, with its backslashes, leads to the file. -/
theorem find_plainName
    (hsize : (Path.join root (Tool.plainName path way)).utf8ByteSize ≤ pathLimit) :
    d.find (Path.join root (Tool.plainName path way)) = .ok (place ++ way, .file content) := by
  obtain ⟨hne, hlegal⟩ := listed_way htree hdirectory hfile
  have hnames := fun name hname => (hlegal name hname).toIsName
  have htext := Tool.staysInside_plainName hne hnames hinside
  have hrelative := (Path.staysInside_iff.mp hinside).1
  have hrelative' := (Path.staysInside_iff.mp htext).1
  obtain ⟨dots, kept, hdots, hpath, hplain⟩ := @Tool.exists_names_plainName path way hne hnames
  obtain ⟨_, happroach⟩ := of_find hdirectory
  have hfollow := (of_approach happroach).2.1
  rw [Path.names_join root hrelative, hpath,
    origin_congr (Path.isAbsolute_join root hrelative)] at hfollow
  -- The way is followed from the directory, and then the dots before it are left out.
  have hdown := htree.follow_down hne hfile
  rw [← follow_append hfollow hne, List.append_assoc, List.append_assoc] at hdown
  have hdown := follow_of_dots_between hdots hdown
  refine find_of_follow (checkPath_plainName htree hinside hdirectory hfile hsize) ?_
    (Tool.finishesWith_plainName hne hnames root hinside)
  rw [Path.names_join root hrelative', hplain, origin_congr (Path.isAbsolute_join root hrelative')]
  exact hdown

/-- The text of a listed file means the file, unless a name in it has a backslash or the path is
longer than paths can be. -/
theorem means_listedName_iff :
    d.Means root (Tool.listedName path way) (place ++ way) content ↔
      Path.Plain (steps path ++ way) ∧
        (Path.join root (Tool.listedName path way)).utf8ByteSize ≤ pathLimit := by
  obtain ⟨hne, hlegal⟩ := listed_way htree hdirectory hfile
  have hnames := fun name hname => (hlegal name hname).toIsName
  constructor
  · rintro ⟨htext, hfind⟩
    obtain ⟨_, happroach⟩ := of_find hfind
    refine ⟨?_, (checkPath_iff.mp (of_approach happroach).1).2.2⟩
    -- The steps of the text are those of the directory and the way, and it has no backslash.
    obtain ⟨r, hroot⟩ := exists_leadsTo_of_find hinside hdirectory
    have hplace := hroot.eq_of_find hinside hdirectory
    have hsteps := hroot.eq_of_find htext hfind
    rw [hplace, List.append_assoc, List.append_cancel_left_eq] at hsteps
    intro name hname hbackslash
    rw [hsteps, Path.steps_eq] at hname
    exact Text.noBackslash_replaceAll _
      ((Path.mem_iff_segments (by decide)).mpr ⟨name, List.mem_of_mem_filter hname, hbackslash⟩)
  · rintro ⟨hplain, hsize⟩
    rw [Tool.listedName_of_plain hne hnames hplain] at hsize ⊢
    exact ⟨Tool.staysInside_plainName hne hnames hinside,
      find_plainName htree hinside hdirectory hfile hsize⟩

end Listed

theorem readText_of_find {content : List UInt8} (h : d.find path = .ok (p, .file content)) :
    d.readText path = match Text.decode? content with
      | some text => .ok text
      | none => .error .notText := by
  unfold readText read
  rw [h]
  rfl

end Disk

/-! ### Listing and reading -/

theorem Job.run_readText (frame path : String) (site : Site) :
    (readText frame path).run site = (Outcome.ofOs frame (site.disk.readText path), site) := by
  rw [show (readText frame path).run site =
    (ofOutcome (Outcome.ofOs frame (site.disk.readText path))).run site from rfl]
  rcases Outcome.ofOs frame (site.disk.readText path) with f | text
  · rfl
  · rfl

namespace Tool

open AgentWorkflow.Path (steps staysInside)

variable {site : Site} {root path text : String} {x y : Table Json} {place way p : Place}
  {content : List UInt8}

/-- What comes of reading a file: its text, if it is one. -/
def answerOf (path : String) (content : List UInt8) : Outcome Json :=
  match Text.decode? content with
  | some text => .ok (.text text)
  | none => .error ⟨["read " ++ path], .os .notText⟩

/-- A text that means a file is read as this file, and nothing is changed. -/
theorem readFile_of_means (hmeans : site.disk.Means root text p content)
    (htext : argument y "path" = .ok text) :
    (readFile root y).run site = (answerOf text content, site) := by
  obtain ⟨hinside, hfind⟩ := hmeans
  rw [readFile_eq htext, inside_bind, if_pos hinside, readAt, Job.run_bind, Job.run_readText,
    Disk.readText_of_find hfind, answerOf]
  rcases Text.decode? content with _ | s
  · rfl
  · rfl

/-- The directories on a walk can be opened, as their paths are not too long. -/
def Walkable (d : Disk) (directory : String) (place : Place) : Prop :=
  ∀ way, d.Walks place way →
    (Path.join directory (Text.join "/" way)).utf8ByteSize ≤ Disk.pathLimit

theorem tooDeep?_eq_none_iff {d : Disk} (htree : d.IsTree) {directory : String} :
    tooDeep? d directory place = none ↔ Walkable d directory place := by
  unfold tooDeep? Walkable
  simp only [List.find?_eq_none, List.forall_mem_map, Disk.mem_walkedBelow htree,
    decide_eq_true_eq, Nat.not_lt]

section Run

variable (hpath : argumentOr x "directory" "." = .ok path) (hinside : staysInside path = true)
  (hdirectory : site.disk.find (Path.join root path) = .ok (place, .directory))

include hpath hinside hdirectory

theorem run_listFiles (hnone : tooDeep? site.disk (Path.join root path) place = none) :
    (listFiles root x).run site =
      (.ok (Json.texts ((site.disk.filesBelow place).map (listedName path))), site) := by
  rw [listFiles_eq hpath, inside_bind, if_pos hinside, Job.listing, Job.run_bind,
    show Job.disk.run site = (.ok site.disk, site) from rfl]
  dsimp only [ExceptT.bindCont]
  rw [hdirectory]
  dsimp only
  rw [hnone]
  rfl

theorem run_listFiles_tooDeep {deep : String}
    (hdeep : tooDeep? site.disk (Path.join root path) place = some deep) :
    (listFiles root x).run site = (.error (cannotList path deep .nameTooLong), site) := by
  rw [listFiles_eq hpath, inside_bind, if_pos hinside, Job.listing, Job.run_bind,
    show Job.disk.run site = (.ok site.disk, site) from rfl]
  dsimp only [ExceptT.bindCont]
  rw [hdirectory]
  dsimp only
  rw [hdeep]
  rfl

end Run

/-- The ways to the files of a directory, as their texts tell them. -/
structure Listing (d : Disk) (root path : String) (place : Place) (ways : List Place) : Prop where
  /-- No file is listed twice. -/
  nodup : ways.Nodup
  /-- Every file that is to be listed is, and nothing else. -/
  mem_iff : ∀ way, way ∈ ways ↔ d.Lists place way
  /-- The text of a file means this file, exactly if no name in it has a backslash and the path
  is not too long. -/
  means_iff : ∀ way content, d.lookup? (place ++ way) = some (.file content) →
    (d.Means root (listedName path way) (place ++ way) content ↔
      Path.Plain (steps path ++ way) ∧
        (Path.join root (listedName path way)).utf8ByteSize ≤ Disk.pathLimit)
  /-- Files whose names have no backslash have different texts. -/
  unique : ∀ way ∈ ways, ∀ way' ∈ ways, Path.Plain (steps path ++ way) →
    Path.Plain (steps path ++ way') → listedName path way = listedName path way' → way = way'

theorem listing_filesBelow {d : Disk} (htree : d.IsTree) (hinside : staysInside path = true)
    (hdirectory : d.find (Path.join root path) = .ok (place, .directory)) :
    Listing d root path place (d.filesBelow place) := by
  have hlisted : ∀ way ∈ d.filesBelow place, way ≠ [] ∧ ∀ name ∈ way, Path.IsName name := by
    intro way hway
    obtain ⟨⟨content, hfile⟩, -⟩ := (Disk.mem_filesBelow htree).mp hway
    obtain ⟨hne, hlegal⟩ := Disk.listed_way htree hdirectory hfile
    exact ⟨hne, fun name hname => (hlegal name hname).toIsName⟩
  refine ⟨Disk.nodup_filesBelow htree, fun way => Disk.mem_filesBelow htree,
    fun way content hfile => Disk.means_listedName_iff htree hinside hdirectory hfile, ?_⟩
  intro way hway way' hway' hplain hplain' heq
  obtain ⟨hne, hnames⟩ := hlisted way hway
  obtain ⟨hne', hnames'⟩ := hlisted way' hway'
  -- Texts that are equal have the same steps, and behind those of the directory are the ways.
  rw [listedName_of_plain hne hnames hplain, listedName_of_plain hne' hnames' hplain'] at heq
  have hsteps := congrArg steps heq
  rwa [steps_plainName hne hnames, steps_plainName hne' hnames',
    List.append_cancel_left_eq] at hsteps

/-- Listing a directory of a tree: if the directories below can be opened, every file that is to
be listed is, once, and nothing else; if one of them lies too deep, this is the failure.  The
text of a file, given as a path, is read as this file exactly if no name in it has a backslash
and the path is not too long. -/
theorem listFiles_lists (htree : site.disk.IsTree)
    (hpath : argumentOr x "directory" "." = .ok path) (hinside : staysInside path = true)
    (hdirectory : site.disk.find (Path.join root path) = .ok (place, .directory)) :
    (Walkable site.disk (Path.join root path) place →
      ∃ ways, (listFiles root x).run site =
          (.ok (Json.texts (ways.map (listedName path))), site) ∧
        Listing site.disk root path place ways) ∧
      (¬Walkable site.disk (Path.join root path) place →
        ∃ deep, (listFiles root x).run site =
          (.error (cannotList path deep .nameTooLong), site)) ∧
      ∀ text p content, site.disk.Means root text p content →
        ∀ y, argument y "path" = .ok text →
          (readFile root y).run site = (answerOf text content, site) := by
  rw [← tooDeep?_eq_none_iff htree]
  refine ⟨fun hnone => ?_, fun hsome => ?_, fun text p content hmeans y htext =>
    readFile_of_means hmeans htext⟩
  · exact ⟨_, run_listFiles hpath hinside hdirectory hnone,
      listing_filesBelow htree hinside hdirectory⟩
  · obtain ⟨deep, hdeep⟩ := Option.ne_none_iff_exists'.mp hsome
    exact ⟨deep, run_listFiles_tooDeep hpath hinside hdirectory hdeep⟩

/-- A project with a file, and one that is left out. -/
def smallProject : Site :=
  Site.ofDisk ⟨[], [(["proj"], .directory), (["proj", "src"], .directory),
    (["proj", "src", "a.md"], .file []), (["proj", "target"], .directory),
    (["proj", "target", "b"], .file [])]⟩

theorem listFiles_lists_small : ∃ ways : List Place,
    (listFiles "proj" []).run smallProject =
        (.ok (Json.texts (ways.map (listedName "."))), smallProject) ∧
      ["src", "a.md"] ∈ ways ∧ ["target", "b"] ∉ ways ∧
      smallProject.disk.Means "proj" (listedName "." ["src", "a.md"])
        ["proj", "src", "a.md"] [] := by
  have htree : smallProject.disk.IsTree := by decide +kernel
  obtain ⟨hlists, -, -⟩ := @listFiles_lists smallProject "proj" "." [] ["proj"]
    htree rfl (by decide +kernel) rfl
  have hwalked : smallProject.disk.walkedBelow ["proj"] = [["src"]] := by
    rw [Disk.walkedBelow_eq]
    exact List.mergeSort_singleton _
  have hopen : Walkable smallProject.disk (Path.join "proj" ".") ["proj"] := by
    rw [← tooDeep?_eq_none_iff htree, tooDeep?, hwalked]
    decide +kernel
  obtain ⟨ways, hrun, hlisting⟩ := hlists hopen
  refine ⟨ways, hrun, (hlisting.mem_iff _).mpr ⟨⟨[], rfl⟩, by decide⟩, fun h => ?_, ?_⟩
  · exact ((hlisting.mem_iff _).mp h).2 "target" (by decide) (by decide)
  · exact (hlisting.means_iff ["src", "a.md"] [] rfl).mpr ⟨by decide +kernel, by decide +kernel⟩

/-- A project with a file whose name has a backslash. -/
def oddProject : Site :=
  Site.ofDisk ⟨[], [(["proj"], .directory), (["proj", "a\\b.txt"], .file [120])]⟩

/-- It is listed by a text that means no file. -/
theorem listFiles_misnames :
    oddProject.disk.IsTree ∧
      oddProject.disk.lookup? ["proj", "a\\b.txt"] = some (.file [120]) ∧
      (listFiles "proj" []).run oddProject = (.ok (Json.texts ["a/b.txt"]), oddProject) ∧
      (readFile "proj" [("path", .text "a/b.txt")]).run oddProject =
        (.error ⟨["read a/b.txt"], .os .notFound⟩, oddProject) := by
  refine ⟨by decide +kernel, rfl, ?_, ?_⟩
  · have hways : oddProject.disk.filesBelow ["proj"] = [["a\\b.txt"]] := by
      rw [Disk.filesBelow_eq]
      exact List.mergeSort_singleton _
    have hnone : tooDeep? oddProject.disk (Path.join "proj" ".") ["proj"] = none := by
      rw [tooDeep?, Disk.walkedBelow_eq]
      exact congrArg _ (congrArg _ List.mergeSort_nil)
    have htext : listedName "." ["a\\b.txt"] = "a/b.txt" := by decide +kernel
    rw [@run_listFiles oddProject "proj" "." [] ["proj"] rfl (by decide +kernel) rfl hnone, hways,
      List.map_singleton, htext]
  · rw [@readFile_eq "proj" "a/b.txt" _ rfl, inside_bind, if_pos (by decide +kernel)]
    rfl

end Tool

end AgentWorkflow
