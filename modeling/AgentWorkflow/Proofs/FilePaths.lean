/-
Paths of files and their names.

* `Text.cutAt_append`, `Text.splitAt_join`, `Path.segments_join` — cutting a text at a character,
  a slash above all, and putting the pieces together again.
* `Path.names`, `Path.steps` — the pieces of a path that are not empty, and those of them that
  are no dots; `Path.steps_join`, those of two paths that are joined.
* `Path.components_eq` — the components are the steps, after a dot at the very start.
* `Path.staysInside_iff` — the texts that are accepted for a path below a root.
* `Path.IsName`, `Path.Confined` — an ordinary name, and a path that goes down from a root by
  such names; `Path.confined_join`, a text that stays inside, joined to the root.
* `Path.components_parent?`, `Path.confined_parent?` — the path above another one has its
  components but the last.
* `Path.Along` — a path that goes down from a root or is on the way to it.

Design notes: what a path means depends on its names alone, and on whether it starts at the
root.  So the laws of joining and of going up are stated of names and of components, and only
here are they derived from the texts.
-/
import AgentWorkflow.Files.Disk
import Mathlib.Data.List.Basic
import Mathlib.Data.List.DropRight

namespace AgentWorkflow

/-! ### Cutting texts -/

namespace Text

variable {sep : Char}

theorem cutAt_ne_nil (sep : Char) (cs : List Char) : cutAt sep cs ≠ [] := by
  cases cs with
  | nil => exact List.cons_ne_nil _ _
  | cons c rest =>
    unfold cutAt
    split
    · exact List.cons_ne_nil _ _
    · split
      · exact List.cons_ne_nil _ _
      · exact List.cons_ne_nil _ _

theorem cutAt_cons_self (cs : List Char) : cutAt sep (sep :: cs) = [] :: cutAt sep cs :=
  if_pos rfl

/-- A character that is no separator belongs to the first piece. -/
theorem cutAt_cons {c : Char} (hc : c ≠ sep) {cs piece : List Char} {more : List (List Char)}
    (h : cutAt sep cs = piece :: more) : cutAt sep (c :: cs) = (c :: piece) :: more := by
  unfold cutAt
  rw [if_neg hc, h]

/-- A separator cuts a text in two, whatever stands before and after it. -/
theorem cutAt_append (a b : List Char) :
    cutAt sep (a ++ sep :: b) = cutAt sep a ++ cutAt sep b := by
  induction a with
  | nil => exact cutAt_cons_self b
  | cons c rest ih =>
    rw [List.cons_append]
    by_cases hc : c = sep
    · subst hc
      rw [cutAt_cons_self, cutAt_cons_self, ih, List.cons_append]
    · obtain ⟨piece, more, h⟩ := List.exists_cons_of_ne_nil (cutAt_ne_nil sep rest)
      rw [h, List.cons_append] at ih
      rw [cutAt_cons hc h, cutAt_cons hc ih, List.cons_append]

theorem cutAt_of_not_mem {cs : List Char} (h : sep ∉ cs) : cutAt sep cs = [cs] := by
  induction cs with
  | nil => rfl
  | cons c rest ih =>
    obtain ⟨hc, hrest⟩ := not_or.mp (List.mem_cons.not.mp h)
    exact cutAt_cons (Ne.symm hc) (ih hrest)

/-- The characters of the pieces are those of the text but the separators. -/
theorem mem_of_mem_cutAt {cs piece : List Char} {c : Char} (hpiece : piece ∈ cutAt sep cs)
    (hc : c ∈ piece) : c ∈ cs ∧ c ≠ sep := by
  induction cs generalizing piece with
  | nil =>
    rw [List.mem_singleton.mp hpiece] at hc
    cases hc
  | cons first rest ih =>
    by_cases hfirst : first = sep
    · subst hfirst
      rw [cutAt_cons_self] at hpiece
      rcases List.mem_cons.mp hpiece with rfl | hmore
      · cases hc
      · exact (ih hmore hc).imp_left (List.mem_cons_of_mem _)
    · obtain ⟨head, more, h⟩ := List.exists_cons_of_ne_nil (cutAt_ne_nil sep rest)
      rw [cutAt_cons hfirst h] at hpiece
      rw [h] at ih
      rcases List.mem_cons.mp hpiece with rfl | hmore
      · rcases List.mem_cons.mp hc with rfl | hhead
        · exact ⟨List.mem_cons_self, hfirst⟩
        · exact (ih List.mem_cons_self hhead).imp_left (List.mem_cons_of_mem _)
      · exact (ih (List.mem_cons_of_mem _ hmore) hc).imp_left (List.mem_cons_of_mem _)

theorem exists_piece_of_mem {cs : List Char} {c : Char} (hc : c ∈ cs) (hsep : c ≠ sep) :
    ∃ piece ∈ cutAt sep cs, c ∈ piece := by
  induction cs with
  | nil => cases hc
  | cons first rest ih =>
    obtain ⟨head, more, h⟩ := List.exists_cons_of_ne_nil (cutAt_ne_nil sep rest)
    by_cases hfirst : first = sep
    · subst hfirst
      rw [cutAt_cons_self]
      obtain ⟨piece, hpiece, hmem⟩ := ih ((List.mem_cons.mp hc).resolve_left hsep)
      exact ⟨piece, List.mem_cons_of_mem _ hpiece, hmem⟩
    · rw [cutAt_cons hfirst h]
      rcases List.mem_cons.mp hc with rfl | hrest
      · exact ⟨_, List.mem_cons_self, List.mem_cons_self⟩
      · obtain ⟨piece, hpiece, hmem⟩ := ih hrest
        rw [h] at hpiece
        rcases List.mem_cons.mp hpiece with rfl | hmore
        · exact ⟨_, List.mem_cons_self, List.mem_cons_of_mem _ hmem⟩
        · exact ⟨piece, List.mem_cons_of_mem _ hmore, hmem⟩

/-- The pieces of a text with the separator before each of them make up the text behind a
separator. -/
theorem flatMap_cutAt (sep : Char) (cs : List Char) :
    ((cutAt sep cs).flatMap fun piece => sep :: piece) = sep :: cs := by
  induction cs with
  | nil => rfl
  | cons c rest ih =>
    obtain ⟨piece, more, h⟩ := List.exists_cons_of_ne_nil (cutAt_ne_nil sep rest)
    by_cases hc : c = sep
    · subst hc
      rw [cutAt_cons_self, List.flatMap_cons, ih]
      rfl
    · rw [h, List.flatMap_cons] at ih
      rw [cutAt_cons hc h, List.flatMap_cons]
      exact congrArg (sep :: c :: ·) (List.cons.inj ih).2

theorem not_mem_of_mem_cutAt {cs piece : List Char} (h : piece ∈ cutAt sep cs) : sep ∉ piece :=
  fun hmem => (mem_of_mem_cutAt h hmem).2 rfl

/-- What stands in front of the first separator is known by the text. -/
theorem eq_of_append_cons {front front' cs cs' : List Char} (h : sep ∉ front) (h' : sep ∉ front')
    (heq : front ++ sep :: cs = front' ++ sep :: cs') : front = front' := by
  induction front generalizing front' with
  | nil =>
    rcases front' with _ | ⟨c, front'⟩
    · rfl
    · exact absurd (List.mem_cons.mpr (.inl (List.cons.inj heq).1)) h'
  | cons c front ih =>
    rcases front' with _ | ⟨c', front'⟩
    · exact absurd (List.mem_cons.mpr (.inl (List.cons.inj heq).1.symm)) h
    · obtain ⟨rfl, hrest⟩ := List.cons.inj heq
      rw [ih (fun hmem => h (List.mem_cons_of_mem _ hmem))
        (fun hmem => h' (List.mem_cons_of_mem _ hmem)) hrest]

/-! ### Pieces that are put together -/

/-- A separator cuts a text in two. -/
theorem splitAt_append {mark : String} (hmark : mark.toList = [sep]) (a b : String) :
    splitAt sep (a ++ mark ++ b) = splitAt sep a ++ splitAt sep b := by
  have hlist : (a ++ mark ++ b).toList = a.toList ++ sep :: b.toList := by simp [hmark]
  rw [splitAt, hlist, cutAt_append, List.map_append]
  rfl

theorem splitAt_of_not_mem {piece : String} (h : sep ∉ piece.toList) :
    splitAt sep piece = [piece] := by
  rw [splitAt, cutAt_of_not_mem h, List.map_singleton, String.ofList_toList]

/-- Pieces that are put together are the pieces of the text. -/
theorem splitAt_join {mark : String} (hmark : mark.toList = [sep]) {pieces : List String}
    (hne : pieces ≠ []) (hsep : ∀ piece ∈ pieces, sep ∉ piece.toList) :
    splitAt sep (join mark pieces) = pieces := by
  induction pieces with
  | nil => exact absurd rfl hne
  | cons piece rest ih =>
    obtain ⟨hpiece, hrest⟩ := List.forall_mem_cons.mp hsep
    rcases rest with _ | ⟨next, more⟩
    · exact (congrArg (splitAt sep) String.intercalate_singleton).trans (splitAt_of_not_mem hpiece)
    · have hjoin : join mark (piece :: next :: more) =
          piece ++ mark ++ join mark (next :: more) := String.intercalate_cons_cons
      rw [hjoin, splitAt_append hmark, ih (List.cons_ne_nil _ _) hrest, splitAt_of_not_mem hpiece]
      rfl

end Text

namespace Path

/-! ### Pieces -/

theorem segments_ne_nil (path : String) : segments path ≠ [] :=
  List.map_eq_nil_iff.not.mpr (Text.cutAt_ne_nil _ _)

/-- A slash cuts a path in two. -/
theorem segments_append (a b : String) : segments (a ++ "/" ++ b) = segments a ++ segments b :=
  Text.splitAt_append rfl a b

theorem segments_of_not_mem {piece : String} (h : '/' ∉ piece.toList) :
    segments piece = [piece] :=
  Text.splitAt_of_not_mem h

theorem segments_empty : segments "" = [""] := segments_of_not_mem (by simp)

/-- The characters of a path but the slashes are those of its pieces. -/
theorem mem_iff_segments {path : String} {c : Char} (hc : c ≠ '/') :
    c ∈ path.toList ↔ ∃ piece ∈ segments path, c ∈ piece.toList := by
  constructor
  · intro hmem
    obtain ⟨piece, hpiece, hmem⟩ := Text.exists_piece_of_mem hmem hc
    exact ⟨String.ofList piece, List.mem_map_of_mem hpiece, by rwa [String.toList_ofList]⟩
  · rintro ⟨piece, hpiece, hmem⟩
    obtain ⟨cs, hcs, rfl⟩ := List.mem_map.mp hpiece
    rw [String.toList_ofList] at hmem
    exact (Text.mem_of_mem_cutAt hcs hmem).1

theorem not_mem_of_mem_segments {path piece : String} (h : piece ∈ segments path) :
    '/' ∉ piece.toList := by
  intro hslash
  obtain ⟨cs, hcs, rfl⟩ := List.mem_map.mp h
  rw [String.toList_ofList] at hslash
  exact (Text.mem_of_mem_cutAt hcs hslash).2 rfl

/-- Pieces that are put together are the pieces of the path. -/
theorem segments_join {pieces : List String} (hne : pieces ≠ [])
    (hslash : ∀ piece ∈ pieces, '/' ∉ piece.toList) : segments (Text.join "/" pieces) = pieces :=
  Text.splitAt_join rfl hne hslash

/-! ### Paths from the root -/

theorem isAbsolute_eq (path : String) : isAbsolute path = (path.toList.head? == some '/') := by
  unfold isAbsolute Text.beginsWith
  rcases path.toList with _ | ⟨c, rest⟩
  · rfl
  · simp [List.isPrefixOf, eq_comm]

theorem isAbsolute_append {a : String} (ha : a ≠ "") (b : String) :
    isAbsolute (a ++ b) = isAbsolute a := by
  obtain ⟨c, rest, h⟩ := List.exists_cons_of_ne_nil (String.toList_eq_nil_iff.not.mpr ha)
  rw [isAbsolute_eq, isAbsolute_eq, String.toList_append, h]
  rfl

/-- A path from the root begins with an empty piece, and has more. -/
theorem isAbsolute_iff {path first : String} {rest : List String}
    (h : segments path = first :: rest) : isAbsolute path = true ↔ first = "" ∧ rest ≠ [] := by
  unfold segments Text.splitAt at h
  rw [isAbsolute_eq]
  rcases hlist : path.toList with _ | ⟨c, chars⟩
  · rw [hlist] at h
    obtain ⟨-, rfl⟩ := List.cons.inj h
    simp
  · rw [hlist] at h
    obtain ⟨piece, more, hcut⟩ := List.exists_cons_of_ne_nil (Text.cutAt_ne_nil '/' chars)
    by_cases hc : c = '/'
    · subst hc
      rw [Text.cutAt_cons_self, hcut] at h
      obtain ⟨rfl, rfl⟩ := List.cons.inj h
      simp
    · rw [Text.cutAt_cons hc hcut] at h
      obtain ⟨rfl, -⟩ := List.cons.inj h
      simp [hc]

/-! ### Names -/

/-- The pieces of a path that are not empty. -/
def names (path : String) : List String := (segments path).filter (· ≠ "")

/-- The names of a path that lead away from where they are followed. -/
def steps (path : String) : List String := (names path).filter (· != ".")

/-- The dot that a path begins with. -/
def lead (path : String) : List String :=
  if (segments path).head? = some "." then ["."] else []

/-- A name that is neither a dot nor leads up. -/
structure IsName (name : String) : Prop where
  ne_empty : name ≠ ""
  ne_dot : name ≠ "."
  ne_up : name ≠ ".."
  noSlash : '/' ∉ name.toList

theorem stepsOf_cons (first : String) (rest : List String) :
    stepsOf (first :: rest) =
      (if first = "" then [] else [first]) ++ rest.filter fun s => s != "" && s != "." := by
  by_cases hdot : first = "."
  · subst hdot
    rfl
  · rw [stepsOf, List.filter_cons]
    · by_cases hempty : first = ""
      · simp [hempty]
      · simp [hempty, hdot]
    · exact List.cons_ne_nil _ _
    · exact fun _ heq => hdot (List.cons.inj heq).1

theorem steps_eq (path : String) :
    steps path = (segments path).filter fun s => s != "" && s != "." := by
  unfold steps names
  rw [List.filter_filter]
  exact List.filter_congr fun s _ => by by_cases hempty : s = "" <;> simp [hempty]

theorem components_eq (path : String) : components path = lead path ++ steps path := by
  obtain ⟨first, rest, hsegments⟩ := List.exists_cons_of_ne_nil (segments_ne_nil path)
  rw [steps_eq, components, lead, hsegments, stepsOf_cons, List.filter_cons, List.head?_cons]
  by_cases hempty : first = ""
  · simp [hempty]
  · by_cases hdot : first = "."
    · simp [hdot]
    · simp [hempty, hdot]

theorem ne_of_mem_steps {path name : String} (h : name ∈ steps path) : name ≠ "" ∧ name ≠ "." := by
  rw [steps_eq] at h
  simpa using (List.mem_filter.mp h).2

/-- The names that lead away are the components but the dot at the start. -/
theorem steps_eq_components (path : String) :
    steps path = (components path).filter (· != ".") := by
  have hlead : (lead path).filter (· != ".") = [] := by
    unfold lead
    split
    · rfl
    · rfl
  have hsteps : (steps path).filter (· != ".") = steps path :=
    List.filter_eq_self.mpr fun name hname => by simpa using (ne_of_mem_steps hname).2
  rw [components_eq, List.filter_append, hlead, hsteps, List.nil_append]

theorem mem_steps_up {path : String} : ".." ∈ steps path ↔ ".." ∈ segments path := by
  rw [steps_eq, List.mem_filter]
  exact and_iff_left (by decide)

/-- The texts that are accepted: they do not start at the root, and nothing in them leads up. -/
theorem staysInside_iff {path : String} :
    staysInside path = true ↔ isAbsolute path = false ∧ ".." ∉ segments path := by
  have hlead : ".." ∉ lead path := by
    unfold lead
    split
    · decide
    · exact List.not_mem_nil
  unfold staysInside
  rw [components_eq]
  simp [hlead, mem_steps_up]

theorem isName_of_mem_steps {path name : String} (hpath : staysInside path = true)
    (h : name ∈ steps path) : IsName name where
  ne_empty := (ne_of_mem_steps h).1
  ne_dot := (ne_of_mem_steps h).2
  ne_up := fun hup => (staysInside_iff.mp hpath).2 (mem_steps_up.mp (hup ▸ h))
  noSlash := by
    rw [steps_eq] at h
    exact not_mem_of_mem_segments (List.mem_of_mem_filter h)

/-! ### Paths that are joined -/

theorem exists_of_finishesWith {path : String} (h : Text.finishesWith "/" path = true) :
    ∃ front, path = front ++ "/" := by
  obtain ⟨rest, hrest⟩ := List.isPrefixOf_iff_prefix.mp h
  refine ⟨String.ofList rest.reverse, ?_⟩
  rw [← String.toList_inj, ← List.reverse_inj]
  simpa using hrest.symm

theorem segments_slash (path : String) : segments (path ++ "/") = segments path ++ [""] := by
  have h := segments_append path ""
  rwa [String.append_empty, segments_empty] at h

/-- A relative path that is joined stands after a slash. -/
theorem exists_join {base path : String} (hbase : base ≠ "") (hpath : isAbsolute path = false) :
    ∃ front, join base path = front ++ "/" ++ path ∧ (base = front ∨ base = front ++ "/") := by
  have hempty : base.isEmpty = false := by simpa using hbase
  unfold join
  rw [hpath, hempty, Bool.or_self, if_neg Bool.false_ne_true]
  by_cases hslash : Text.finishesWith "/" base = true
  · rw [if_pos hslash]
    obtain ⟨front, hfront⟩ := exists_of_finishesWith hslash
    exact ⟨front, congrArg (· ++ path) hfront, .inr hfront⟩
  · rw [if_neg hslash]
    exact ⟨base, rfl, .inl rfl⟩

theorem join_empty (path : String) : join "" path = path := by
  unfold join
  rw [show "".isEmpty = true from rfl, Bool.or_true, if_pos rfl]

/-- The pieces of a relative path follow those of what it is joined to, where an empty piece at
the end may be missing. -/
theorem exists_segments_join (base : String) {path : String} (hpath : isAbsolute path = false) :
    ∃ before, segments (join base path) = before ++ segments path ∧
      (segments base = before ∨ segments base = before ++ [""]) := by
  by_cases hbase : base = ""
  · subst hbase
    exact ⟨[], by rw [join_empty, List.nil_append], .inr segments_empty⟩
  · obtain ⟨front, hjoin, hfront⟩ := exists_join hbase hpath
    refine ⟨segments front, by rw [hjoin, segments_append], ?_⟩
    rcases hfront with rfl | rfl
    · exact .inl rfl
    · exact .inr (segments_slash front)

theorem names_eq_of_segments {path : String} {before : List String}
    (h : segments path = before ∨ segments path = before ++ [""]) :
    names path = before.filter (· ≠ "") := by
  unfold names
  rcases h with h | h
  · rw [h]
  · rw [h, List.filter_append]
    exact List.append_nil _

/-- The names of a relative path follow those of what it is joined to. -/
theorem names_join (base : String) {path : String} (hpath : isAbsolute path = false) :
    names (join base path) = names base ++ names path := by
  obtain ⟨before, hjoin, hbase⟩ := exists_segments_join base hpath
  rw [names_eq_of_segments hbase, names, hjoin, List.filter_append, names]

theorem getLast?_segments_join (base : String) {path : String} (hpath : isAbsolute path = false) :
    (segments (join base path)).getLast? = (segments path).getLast? := by
  obtain ⟨before, hjoin, -⟩ := exists_segments_join base hpath
  rw [hjoin, List.getLast?_append_of_ne_nil _ (segments_ne_nil path)]

/-- The characters of two paths that are joined, but the slashes. -/
theorem mem_join {base path : String} (hpath : isAbsolute path = false) {c : Char} (hc : c ≠ '/') :
    c ∈ (join base path).toList ↔ c ∈ base.toList ∨ c ∈ path.toList := by
  obtain ⟨before, hjoin, hbase⟩ := exists_segments_join base hpath
  have hbefore : c ∈ base.toList ↔ ∃ piece ∈ before, c ∈ piece.toList := by
    rw [mem_iff_segments hc]
    rcases hbase with h | h
    · rw [h]
    · simp [h, or_and_right, exists_or]
  rw [mem_iff_segments hc, hjoin, hbefore, mem_iff_segments hc]
  simp [or_and_right, exists_or]

theorem steps_join (base : String) {path : String} (hpath : isAbsolute path = false) :
    steps (join base path) = steps base ++ steps path := by
  unfold steps
  rw [names_join base hpath, List.filter_append]

theorem isAbsolute_join (base : String) {path : String} (hpath : isAbsolute path = false) :
    isAbsolute (join base path) = isAbsolute base := by
  by_cases hbase : base = ""
  · subst hbase
    rw [join_empty, hpath]
    rfl
  · obtain ⟨front, hjoin, hfront⟩ := exists_join hbase hpath
    rw [hjoin]
    by_cases hempty : front = ""
    · have hslash : base = "/" := by
        rcases hfront with rfl | rfl
        · exact absurd hempty hbase
        · rw [hempty]
          rfl
      rw [hempty, hslash, isAbsolute_append (by decide)]
      rfl
    · rcases hfront with rfl | rfl
      · rw [String.append_assoc, isAbsolute_append hempty]
      · rw [String.append_assoc, isAbsolute_append hempty, isAbsolute_append hempty]

theorem lead_append (a b : String) : lead (a ++ "/" ++ b) = lead a := by
  obtain ⟨first, rest, hsegments⟩ := List.exists_cons_of_ne_nil (segments_ne_nil a)
  unfold lead
  rw [segments_append, hsegments, List.cons_append, List.head?_cons, List.head?_cons]

theorem lead_join {base path : String} (hbase : base ≠ "") (hpath : isAbsolute path = false) :
    lead (join base path) = lead base := by
  obtain ⟨front, hjoin, hfront⟩ := exists_join hbase hpath
  rw [hjoin, lead_append]
  rcases hfront with rfl | rfl
  · rfl
  · have h := lead_append front ""
    rw [String.append_empty] at h
    exact h.symm

/-! ### Paths that go down from a root -/

/-- A path goes down from a root by ordinary names.  The empty root has no components, and a
path below it may begin with a dot of its own. -/
def Confined (root path : String) : Prop :=
  isAbsolute path = isAbsolute root ∧ ∃ names : List String, (∀ name ∈ names, IsName name) ∧
    (components path = components root ++ names ∨ root = "" ∧ components path = "." :: names)

/-- A path that stays inside goes down from the root that it is joined to. -/
theorem confined_join (root : String) {path : String} (hpath : staysInside path = true) :
    Confined root (join root path) := by
  have hrelative := (staysInside_iff.mp hpath).1
  refine ⟨isAbsolute_join root hrelative, steps path,
    fun name hname => isName_of_mem_steps hpath hname, ?_⟩
  by_cases hroot : root = ""
  · subst hroot
    rw [join_empty, components_eq]
    unfold lead
    split
    · exact .inr ⟨rfl, rfl⟩
    · exact .inl rfl
  · rw [components_eq, components_eq root, lead_join hroot hrelative, steps_join root hrelative,
      List.append_assoc]
    exact .inl rfl

theorem Confined.exists_steps {root path : String} (h : Confined root path) :
    ∃ names, (∀ name ∈ names, IsName name) ∧ steps path = steps root ++ names := by
  obtain ⟨-, names, hnames, heq⟩ := h
  have hkept : names.filter (· != ".") = names :=
    List.filter_eq_self.mpr fun name hname => by simpa using (hnames name hname).ne_dot
  refine ⟨names, hnames, ?_⟩
  rcases heq with heq | ⟨rfl, heq⟩
  · rw [steps_eq_components, heq, List.filter_append, hkept, steps_eq_components]
  · rw [steps_eq_components, heq, List.filter_cons, if_neg (by decide), hkept]
    rfl

/-! ### The path above another -/

/-- A piece that says nothing, except at the start of a path. -/
def isIdle (piece : String) : Bool := piece == "" || piece == "."

theorem isIdle_iff {piece : String} : isIdle piece = true ↔ piece = "" ∨ piece = "." := by
  simp only [isIdle, Bool.or_eq_true, beq_iff_eq]

theorem not_isIdle (piece : String) : (piece != "" && piece != ".") = !isIdle piece :=
  (Bool.not_or _ _).symm

theorem dropIdle_cons (first : String) (rest : List String) :
    dropIdle (first :: rest) = first :: rest.rdropWhile isIdle := rfl

theorem filter_rdropWhile_isIdle (pieces : List String) :
    ((pieces.rdropWhile isIdle).filter fun s => s != "" && s != ".") =
      pieces.filter fun s => s != "" && s != "." := by
  induction pieces using List.reverseRecOn with
  | nil => rfl
  | append_singleton front last ih =>
    by_cases hidle : isIdle last = true
    · have hlast : (last != "" && last != ".") = false := by rw [not_isIdle, hidle, Bool.not_true]
      rw [List.rdropWhile_concat_pos _ _ _ hidle, ih, List.filter_append,
        List.filter_singleton, hlast]
      exact (List.append_nil _).symm
    · rw [List.rdropWhile_concat_neg _ _ _ hidle]

theorem stepsOf_dropIdle (pieces : List String) : stepsOf (dropIdle pieces) = stepsOf pieces := by
  rcases pieces with _ | ⟨first, rest⟩
  · rfl
  · rw [dropIdle_cons, stepsOf_cons, stepsOf_cons, filter_rdropWhile_isIdle]

theorem mem_of_mem_dropIdle {pieces : List String} {piece : String} (h : piece ∈ dropIdle pieces) :
    piece ∈ pieces := by
  rcases pieces with _ | ⟨first, rest⟩
  · exact h
  · rw [dropIdle_cons] at h
    rcases List.mem_cons.mp h with rfl | hrest
    · exact List.mem_cons_self
    · exact List.mem_cons_of_mem _ ((rest.rdropWhile_prefix isIdle).subset hrest)

/-- Behind the first piece, a piece that says something is the last step. -/
theorem dropLast_stepsOf (first : String) (front : List String) {last : String}
    (hlast : isIdle last = false) :
    (stepsOf (first :: (front ++ [last]))).dropLast = stepsOf (first :: front) := by
  rw [stepsOf_cons, stepsOf_cons, List.filter_append, List.filter_singleton, not_isIdle, hlast,
    Bool.not_false, cond_true, ← List.append_assoc, List.dropLast_concat]

/-- The pieces of the path above another: idle pieces at the end are dropped, then the last
step, then the idle pieces before it.  The root alone has to be written as a slash. -/
theorem parent?_eq {path up : String} (h : parent? path = some up) :
    components path ≠ [] ∧
      (dropIdle (dropIdle (segments path)).dropLast = [""] ∧
          up = (if isAbsolute path then "/" else "") ∨
        dropIdle (dropIdle (segments path)).dropLast ≠ [""] ∧
          up = Text.join "/" (dropIdle (dropIdle (segments path)).dropLast)) := by
  unfold parent? at h
  split at h
  · cases h
  · next hsteps =>
    refine ⟨by simpa using hsteps, ?_⟩
    dsimp only at h
    split at h
    · next hkept => exact .inl ⟨hkept, (Option.some.inj h).symm⟩
    · next hkept => exact .inr ⟨hkept, (Option.some.inj h).symm⟩

/-- The path above another has its components but the last. -/
theorem components_parent? {path up : String} (h : parent? path = some up) :
    isAbsolute up = isAbsolute path ∧ components up = (components path).dropLast := by
  obtain ⟨hne, hup⟩ := parent?_eq h
  have hslash : ∀ piece ∈ dropIdle (dropIdle (segments path)).dropLast, '/' ∉ piece.toList :=
    fun piece hpiece => not_mem_of_mem_segments
      (mem_of_mem_dropIdle (List.dropLast_subset _ (mem_of_mem_dropIdle hpiece)))
  obtain ⟨first, rest, hsegments⟩ := List.exists_cons_of_ne_nil (segments_ne_nil path)
  have habsolute : isAbsolute path = true ↔ first = "" ∧ rest ≠ [] := isAbsolute_iff hsegments
  have hkept : components path = stepsOf (first :: rest.rdropWhile isIdle) := by
    rw [components, ← stepsOf_dropIdle, hsegments, dropIdle_cons]
  rw [hsegments, dropIdle_cons] at hup hslash
  rcases List.eq_nil_or_concat' (rest.rdropWhile isIdle) with hnil | ⟨front, last, hlast⟩
  · -- The first piece is the only step.
    rw [hnil] at hup hkept
    have hup : up = "" := by
      rcases hup with ⟨heq, -⟩ | ⟨-, hup⟩
      · cases heq
      · exact hup
    have hfirst : first ≠ "" := by
      intro hempty
      rw [hkept, hempty] at hne
      exact hne rfl
    have hrelative : isAbsolute path = false :=
      Bool.eq_false_iff.mpr fun h => hfirst (habsolute.mp h).1
    rw [hup, hrelative, hkept, stepsOf_cons, if_neg hfirst]
    exact ⟨rfl, rfl⟩
  · have hidle : isIdle last = false := by
      have hnot := List.rdropWhile_last_not isIdle rest (by simp [hlast])
      simpa [hlast] using hnot
    have hmore : rest ≠ [] := by
      rintro rfl
      simp at hlast
    rw [hlast, ← List.cons_append, List.dropLast_concat, dropIdle_cons] at hup hslash
    rw [hkept, hlast, dropLast_stepsOf first front hidle, ← stepsOf_dropIdle, dropIdle_cons]
    rcases hup with ⟨hroot, hup⟩ | ⟨hpieces, hup⟩
    · -- Nothing is left but the root.
      obtain ⟨rfl, hroot⟩ := List.cons.inj hroot
      have habsolute := habsolute.mpr ⟨rfl, hmore⟩
      rw [hup, hroot, if_pos habsolute, habsolute]
      exact ⟨rfl, rfl⟩
    · have hsegments : segments up = first :: front.rdropWhile isIdle := by
        rw [hup, segments_join (List.cons_ne_nil _ _) hslash]
      refine ⟨Bool.eq_iff_iff.mpr ?_, by rw [components, hsegments]⟩
      rw [habsolute, isAbsolute_iff hsegments, and_iff_left hmore, and_iff_left_iff_imp]
      rintro rfl hnil
      exact hpieces (by rw [hnil])

theorem steps_parent? {path up : String} (h : parent? path = some up) :
    steps up = (steps path).dropLast := by
  have hkept : (steps path).dropLast.filter (· != ".") = (steps path).dropLast :=
    List.filter_eq_self.mpr fun name hname => by
      simpa using (ne_of_mem_steps (List.dropLast_subset _ hname)).2
  rw [steps_eq_components, (components_parent? h).2, components_eq]
  rcases eq_or_ne (steps path) [] with hnil | hne
  · rw [hnil]
    unfold lead
    split
    · rfl
    · rfl
  · rw [List.dropLast_append_of_ne_nil hne, List.filter_append, hkept]
    unfold lead
    split
    · rfl
    · rfl

/-- The path above one that was joined to a root is confined to the root, too, if the joined
text leads away from the root at all. -/
theorem confined_parent? {root path up : String} (hpath : staysInside path = true)
    (hsteps : steps path ≠ []) (hup : parent? (join root path) = some up) : Confined root up := by
  obtain ⟨habsolute, hup⟩ := components_parent? hup
  have hrelative := (staysInside_iff.mp hpath).1
  refine ⟨habsolute.trans (isAbsolute_join root hrelative), (steps path).dropLast,
    fun name hname => isName_of_mem_steps hpath (List.dropLast_subset _ hname), ?_⟩
  rw [hup, components_eq, steps_join root hrelative]
  by_cases hroot : root = ""
  · subst hroot
    rw [join_empty]
    unfold lead
    split
    · exact .inr ⟨rfl, by rw [← List.dropLast_cons_of_ne_nil hsteps]; rfl⟩
    · exact .inl rfl
  · rw [components_eq root, lead_join hroot hrelative, ← List.append_assoc,
      List.dropLast_append_of_ne_nil hsteps]
    exact .inl rfl

example : parent? (join "a/b" "./c/.") = some "a/b" := by decide +kernel

/-- A text without names leaves the root itself, and the path above that is not confined. -/
example : parent? (join "a/b" ".") = some "a" := by decide +kernel

/-- A path leads down from a root, or is on the way to it. -/
def Along (root path : String) : Prop :=
  isAbsolute path = isAbsolute root ∧
    ((∃ names, (∀ name ∈ names, IsName name) ∧ steps path = steps root ++ names) ∨
      steps path <+: steps root)

theorem Confined.along {root path : String} (h : Confined root path) : Along root path :=
  ⟨h.1, .inl h.exists_steps⟩

theorem Along.parent? {root path up : String} (h : Along root path)
    (hup : parent? path = some up) : Along root up := by
  refine ⟨(components_parent? hup).1.trans h.1, ?_⟩
  rw [steps_parent? hup]
  rcases h.2 with ⟨names, hnames, heq⟩ | hprefix
  · rw [heq]
    rcases eq_or_ne names [] with rfl | hne
    · rw [List.append_nil]
      exact .inr (List.dropLast_prefix _)
    · exact .inl ⟨names.dropLast, fun name hname => hnames name (List.dropLast_subset _ hname),
        List.dropLast_append_of_ne_nil hne⟩
  · exact .inr ((List.dropLast_prefix _).trans hprefix)

end Path

end AgentWorkflow
