/-
Where paths lead.

* `Disk.step_cases` — what one step can do.
* `Disk.follow_append` — names are followed one part after the other.
* `Disk.follow_of_dots` — the dots among the names may be left out.
* `Disk.follow_names` — ordinary names lead straight down.
* `Disk.origin`, `Disk.LeadsTo` — where a path starts, and that it leads to a directory.
* `Disk.LeadsTo.follow_confined` — a path confined to a root leads to the root's directory or
  below it.
* `Disk.Keeps` — nothing is changed but what lies below a place, and directories stay.
* `Disk.makeAll_invariant` — what stays so when one directory is made, stays so when many are.
* `Disk.Keeps.write`, `Disk.Keeps.makeAll` — so it is of files that are written and directories
  that are made along a root.

Design notes: a disk is a list of entries, and nothing here asks that it is a tree.  A step away
from a place is refused unless there is a directory, and this is all that is needed.  Paths are
followed by their steps and not by their components, which may begin with a dot.
-/
import AgentWorkflow.Proofs.FilePaths

namespace AgentWorkflow

/-- A place is below another one, and is not the same. -/
def Place.Below (r p : Place) : Prop := ∃ names, names ≠ [] ∧ p = r ++ names

namespace Disk

variable {d d' : Disk} {place r : Place} {t : Target}

/-! ### Steps -/

/-- What one step can do: it stays, it goes up, or it goes down to what is there or is not. -/
theorem step_cases {name : String} (h : d.step place name = .ok t) :
    d.lookup? place = some .directory ∧
      (name = "." ∧ t = .found place .directory ∨
        name = ".." ∧ t = .found place.dropLast .directory ∨
        (name ≠ "." ∧ name ≠ ".." ∧ name.utf8ByteSize ≤ nameLimit) ∧
          ((∃ entry, d.lookup? (place ++ [name]) = some entry ∧
              t = .found (place ++ [name]) entry) ∨
            d.lookup? (place ++ [name]) = none ∧ t = .vacant (place ++ [name]))) := by
  unfold step at h
  rcases hplace : d.lookup? place with _ | _ | content
  · rw [hplace] at h
    cases h
  · rw [hplace] at h
    refine ⟨rfl, ?_⟩
    dsimp only at h
    by_cases hdot : name = "."
    · rw [if_pos hdot] at h
      exact .inl ⟨hdot, (Except.ok.inj h).symm⟩
    by_cases hup : name = ".."
    · rw [if_neg hdot, if_pos hup] at h
      exact .inr (.inl ⟨hup, (Except.ok.inj h).symm⟩)
    rw [if_neg hdot, if_neg hup] at h
    split at h
    · cases h
    · next hsize =>
      refine .inr (.inr ⟨⟨hdot, hup, Nat.le_of_not_gt hsize⟩, ?_⟩)
      rcases hdown : d.lookup? (place ++ [name]) with _ | entry
      · rw [hdown] at h
        exact .inr ⟨rfl, (Except.ok.inj h).symm⟩
      · rw [hdown] at h
        exact .inl ⟨entry, rfl, (Except.ok.inj h).symm⟩
  · rw [hplace] at h
    cases h

theorem step_dot (h : d.lookup? place = some .directory) :
    d.step place "." = .ok (.found place .directory) := by
  unfold step
  rw [h]
  exact if_pos rfl

theorem step_up (h : d.lookup? place = some .directory) :
    d.step place ".." = .ok (.found place.dropLast .directory) := by
  unfold step
  rw [h]
  rfl

theorem step_down {name : String} {entry : Entry} (h : d.lookup? place = some .directory)
    (hname : name ≠ "." ∧ name ≠ ".." ∧ name.utf8ByteSize ≤ nameLimit)
    (hdown : d.lookup? (place ++ [name]) = some entry) :
    d.step place name = .ok (.found (place ++ [name]) entry) := by
  unfold step
  rw [h]
  dsimp only
  rw [if_neg hname.1, if_neg hname.2.1, if_neg (Nat.not_lt_of_le hname.2.2), hdown]

/-- What a step finds where a directory is, is the directory. -/
theorem eq_of_step {name : String} {p : Place} {entry : Entry}
    (h : d.step place name = .ok (.found p entry)) (hp : d.lookup? p = some .directory) :
    entry = .directory := by
  obtain ⟨-, ⟨-, heq⟩ | ⟨-, heq⟩ | ⟨-, ⟨_, hdown, heq⟩ | ⟨-, heq⟩⟩⟩ := step_cases h
  · exact (Target.found.inj heq).2
  · exact (Target.found.inj heq).2
  · obtain ⟨rfl, rfl⟩ := Target.found.inj heq
    exact Option.some.inj (hdown.symm.trans hp)
  · cases heq

/-! ### Names one after the other -/

theorem follow_nil (h : d.follow place [] = .ok t) :
    ∃ entry, d.lookup? place = some entry ∧ t = .found place entry := by
  unfold follow at h
  rcases hplace : d.lookup? place with _ | entry
  · rw [hplace] at h
    cases h
  · rw [hplace] at h
    exact ⟨entry, rfl, (Except.ok.inj h).symm⟩

theorem follow_singleton (d : Disk) (place : Place) (name : String) :
    d.follow place [name] = d.step place name := by
  rw [follow]

theorem follow_cons_of_found {name : String} {rest : List String} {p : Place} {entry : Entry}
    (h : d.step place name = .ok (.found p entry)) (hne : rest ≠ []) :
    d.follow place (name :: rest) = d.follow p rest := by
  rw [follow, h]
  · rfl
  · exact fun heq => hne heq

theorem follow_cons_of_vacant {name : String} {rest : List String} {p : Place}
    (h : d.step place name = .ok (.vacant p)) (hne : rest ≠ []) :
    d.follow place (name :: rest) = .error .notFound := by
  rw [follow, h]
  · rfl
  · exact fun heq => hne heq

theorem exists_of_follow_cons {name : String} {rest : List String} (hne : rest ≠ [])
    (h : d.follow place (name :: rest) = .ok t) :
    ∃ p entry, d.step place name = .ok (.found p entry) ∧ d.follow p rest = .ok t := by
  rcases hstep : d.step place name with e | ⟨p, entry⟩ | p
  · rw [follow, hstep] at h
    · cases h
    · exact fun heq => hne heq
  · exact ⟨p, entry, rfl, follow_cons_of_found hstep hne ▸ h⟩
  · rw [follow_cons_of_vacant hstep hne] at h
    cases h

theorem lookup_of_follow {names : List String} (hne : names ≠ [])
    (h : d.follow place names = .ok t) : d.lookup? place = some .directory := by
  obtain ⟨name, rest, rfl⟩ := List.exists_cons_of_ne_nil hne
  rcases eq_or_ne rest [] with rfl | hrest
  · rw [follow_singleton] at h
    exact (step_cases h).1
  · obtain ⟨_, _, hstep, -⟩ := exists_of_follow_cons hrest h
    exact (step_cases hstep).1

/-- Names that are followed after others are followed from where those lead. -/
theorem follow_append {a b : List String} {entry : Entry}
    (ha : d.follow place a = .ok (.found r entry)) (hb : b ≠ []) :
    d.follow place (a ++ b) = d.follow r b := by
  induction a generalizing place with
  | nil =>
    obtain ⟨_, -, heq⟩ := follow_nil ha
    rw [(Target.found.inj heq).1, List.nil_append]
  | cons name rest ih =>
    have hne : rest ++ b ≠ [] := fun h => hb (List.append_eq_nil_iff.mp h).2
    rw [List.cons_append]
    rcases eq_or_ne rest [] with rfl | hrest
    · rw [follow_singleton] at ha
      exact follow_cons_of_found ha hb
    · obtain ⟨p, _, hstep, hfollow⟩ := exists_of_follow_cons hrest ha
      rw [follow_cons_of_found hstep hne, ih hfollow]

/-- What is followed behind other names is behind a directory. -/
theorem exists_of_follow_append {a b : List String} (hb : b ≠ [])
    (h : d.follow place (a ++ b) = .ok t) :
    ∃ r, d.follow place a = .ok (.found r .directory) ∧ d.follow r b = .ok t := by
  induction a generalizing place with
  | nil =>
    refine ⟨place, ?_, h⟩
    rw [follow, lookup_of_follow hb h]
  | cons name rest ih =>
    have hne : rest ++ b ≠ [] := fun h => hb (List.append_eq_nil_iff.mp h).2
    obtain ⟨p, entry, hstep, hfollow⟩ := exists_of_follow_cons hne h
    obtain ⟨r, hrest, hb'⟩ := ih hfollow
    rcases eq_or_ne rest [] with rfl | hrest'
    · rw [List.nil_append] at hfollow
      refine ⟨p, ?_, hfollow⟩
      rw [follow_singleton, hstep, eq_of_step hstep (lookup_of_follow hb hfollow)]
    · exact ⟨r, (follow_cons_of_found hstep hrest').trans hrest, hb'⟩

/-- Nothing is found behind a place where nothing is. -/
theorem follow_append_of_vacant {a b : List String} {p : Place}
    (ha : d.follow place a = .ok (.vacant p)) (hb : b ≠ []) :
    d.follow place (a ++ b) = .error .notFound := by
  induction a generalizing place with
  | nil =>
    obtain ⟨_, -, heq⟩ := follow_nil ha
    cases heq
  | cons name rest ih =>
    have hne : rest ++ b ≠ [] := fun h => hb (List.append_eq_nil_iff.mp h).2
    rw [List.cons_append]
    rcases eq_or_ne rest [] with rfl | hrest
    · rw [follow_singleton] at ha
      exact follow_cons_of_vacant ha hb
    · obtain ⟨q, _, hstep, hfollow⟩ := exists_of_follow_cons hrest ha
      rw [follow_cons_of_found hstep hne, ih hfollow]

/-! ### Dots -/

theorem follow_of_dot {a b : List String} (h : d.follow place (a ++ "." :: b) = .ok t) :
    d.follow place (a ++ b) = .ok t := by
  induction a generalizing place with
  | nil =>
    -- A dot is followed from a directory alone, and stays there.
    rw [List.nil_append] at h ⊢
    rcases eq_or_ne b [] with rfl | hb
    · rw [follow_singleton] at h
      obtain ⟨hplace, -⟩ := step_cases h
      rw [step_dot hplace] at h
      rw [follow, hplace]
      exact h
    · obtain ⟨p, _, hstep, hfollow⟩ := exists_of_follow_cons hb h
      obtain ⟨hplace, -⟩ := step_cases hstep
      rw [step_dot hplace] at hstep
      obtain ⟨rfl, -⟩ := Target.found.inj (Except.ok.inj hstep)
      exact hfollow
  | cons name rest ih =>
    obtain ⟨p, entry, hstep, hfollow⟩ := exists_of_follow_cons (by simp) h
    have hrest := ih hfollow
    rcases eq_or_ne (rest ++ b) [] with hnil | hne
    · -- The dot is the last name, and the name before it leads to a directory.
      obtain ⟨rfl, rfl⟩ := List.append_eq_nil_iff.mp hnil
      replace hfollow : d.follow p ["."] = .ok t := hfollow
      rw [follow_singleton] at hfollow
      obtain ⟨hp, -⟩ := step_cases hfollow
      rw [step_dot hp] at hfollow
      rw [List.append_nil, follow_singleton, hstep, eq_of_step hstep hp]
      exact hfollow
    · rw [List.cons_append, follow_cons_of_found hstep hne]
      exact hrest

theorem follow_of_dots_between {a dots b : List String} (hdots : ∀ dot ∈ dots, dot = ".")
    (h : d.follow place (a ++ (dots ++ b)) = .ok t) : d.follow place (a ++ b) = .ok t := by
  induction dots with
  | nil => exact h
  | cons dot rest ih =>
    obtain ⟨rfl, hrest⟩ := List.forall_mem_cons.mp hdots
    exact ih hrest (follow_of_dot h)

/-- The dots among names may be left out. -/
theorem follow_of_dots {names : List String} (h : d.follow place names = .ok t) :
    d.follow place (names.filter (· != ".")) = .ok t := by
  -- The names before those that are looked at have lost their dots already.
  suffices ∀ front, d.follow place (front ++ names) = .ok t →
      d.follow place (front ++ names.filter (· != ".")) = .ok t from this [] h
  clear h
  induction names with
  | nil => exact fun front h => h
  | cons name rest ih =>
    intro front h
    by_cases hdot : name = "."
    · subst hdot
      exact ih front (follow_of_dot h)
    · rw [List.filter_cons, if_pos (by simpa using hdot), List.append_cons]
      exact ih _ (by rwa [List.append_cons] at h)

/-! ### Ordinary names -/

/-- Ordinary names lead straight down, to what is there or is not. -/
theorem follow_names {names : List String} (hnames : ∀ name ∈ names, Path.IsName name)
    (h : d.follow place names = .ok t) :
    (∃ entry, d.lookup? (place ++ names) = some entry ∧ t = .found (place ++ names) entry) ∨
      names ≠ [] ∧ d.lookup? (place ++ names) = none ∧ t = .vacant (place ++ names) := by
  induction names generalizing place with
  | nil =>
    rw [List.append_nil]
    exact .inl (follow_nil h)
  | cons name rest ih =>
    obtain ⟨hname, hrest⟩ := List.forall_mem_cons.mp hnames
    rcases eq_or_ne rest [] with rfl | hne
    · rw [follow_singleton] at h
      obtain ⟨-, ⟨hdot, -⟩ | ⟨hup, -⟩ | ⟨-, hdown⟩⟩ := step_cases h
      · exact absurd hdot hname.ne_dot
      · exact absurd hup hname.ne_up
      · exact hdown.imp_right fun hvacant => ⟨List.cons_ne_nil _ _, hvacant⟩
    · obtain ⟨p, entry, hstep, hfollow⟩ := exists_of_follow_cons hne h
      obtain ⟨-, ⟨hdot, -⟩ | ⟨hup, -⟩ | ⟨-, ⟨_, -, heq⟩ | ⟨-, heq⟩⟩⟩ := step_cases hstep
      · exact absurd hdot hname.ne_dot
      · exact absurd hup hname.ne_up
      · rw [(Target.found.inj heq).1] at hfollow
        rw [List.append_cons]
        exact (ih hrest hfollow).imp_right fun h => ⟨List.cons_ne_nil _ _, h.2⟩
      · cases heq

/-! ### Where a path leads -/

/-- Where a path is followed from. -/
def origin (d : Disk) (path : String) : Place :=
  if Path.isAbsolute path then [] else d.workingDirectory

theorem origin_congr {path path' : String} (h : Path.isAbsolute path = Path.isAbsolute path') :
    d.origin path = d.origin path' := by
  unfold origin
  rw [h]

theorem approach_eq (d : Disk) (path : String) :
    d.approach path = (do
      checkPath path
      let target ← d.follow (d.origin path) (Path.names path)
      pure (target, Text.finishesWith "/" path)) := rfl

theorem of_approach {path : String} {slash : Bool} (h : d.approach path = .ok (t, slash)) :
    checkPath path = .ok () ∧ d.follow (d.origin path) (Path.names path) = .ok t ∧
      slash = Text.finishesWith "/" path := by
  rw [approach_eq] at h
  rcases hcheck : checkPath path with e | _
  · rw [hcheck] at h
    cases h
  · rcases hfollow : d.follow (d.origin path) (Path.names path) with e | t'
    · rw [hcheck, hfollow] at h
      cases h
    · rw [hcheck, hfollow] at h
      cases h
      exact ⟨rfl, rfl, rfl⟩

theorem of_find {path : String} {p : Place} {entry : Entry} (h : d.find path = .ok (p, entry)) :
    ∃ slash, d.approach path = .ok (.found p entry, slash) := by
  unfold find locate at h
  rcases happroach : d.approach path with e | ⟨target, slash⟩
  · rw [happroach] at h
    cases h
  · rw [happroach] at h
    rcases target with ⟨p', _ | content⟩ | p'
    · cases h
      exact ⟨slash, rfl⟩
    · cases slash with
      | true => cases h
      | false =>
        cases h
        exact ⟨false, rfl⟩
    · cases h

/-- The names of a path that lead away lead where the path does. -/
theorem follow_steps {path : String} {slash : Bool} (h : d.approach path = .ok (t, slash)) :
    d.follow (d.origin path) (Path.steps path) = .ok t :=
  follow_of_dots (of_approach h).2.1

/-- A relative path is followed from where the one leads that it is joined to. -/
theorem follow_join {root path : String} (hpath : Path.isAbsolute path = false) {slash : Bool}
    (h : d.approach (Path.join root path) = .ok (t, slash)) :
    d.follow (d.origin root) (Path.steps root ++ Path.steps path) = .ok t := by
  rw [← Path.steps_join root hpath, ← origin_congr (Path.isAbsolute_join root hpath)]
  exact follow_steps h

/-- A path leads to the directory at a place. -/
def LeadsTo (d : Disk) (path : String) (r : Place) : Prop :=
  d.follow (d.origin path) (Path.steps path) = .ok (.found r .directory)

theorem checkPath_iff {path : String} : checkPath path = .ok () ↔
    '\x00' ∉ path.toList ∧ path ≠ "" ∧ path.utf8ByteSize ≤ pathLimit := by
  unfold checkPath
  split
  · next h => exact iff_of_false nofun fun hok => hok.1 (by simpa using h)
  · split
    · next h => exact iff_of_false nofun fun hok => hok.2.1 (by simpa using h)
    · split
      · next h => exact iff_of_false nofun fun hok => Nat.not_le_of_gt h hok.2.2
      · next hnul hempty hsize =>
        exact iff_of_true rfl ⟨by simpa using hnul, by simpa using hempty, Nat.le_of_not_gt hsize⟩

theorem find_of_follow {path : String} {p : Place} {entry : Entry}
    (hcheck : checkPath path = .ok ())
    (hfollow : d.follow (d.origin path) (Path.names path) = .ok (.found p entry))
    (hslash : Text.finishesWith "/" path = false) : d.find path = .ok (p, entry) := by
  have happroach : d.approach path = .ok (.found p entry, false) := by
    rw [approach_eq, hcheck, hfollow, hslash]
    rfl
  unfold find locate
  rw [happroach]
  rcases entry with _ | content
  · rfl
  · rfl

theorem leadsTo_of_find {path : String} (h : d.find path = .ok (r, .directory)) :
    d.LeadsTo path r :=
  follow_steps (of_find h).choose_spec

/-- A path that goes down from one that leads to a directory leads to this directory or below
it. -/
theorem LeadsTo.follow_confined {root path : String} (hroot : d.LeadsTo root r)
    (hpath : Path.Confined root path) (h : d.follow (d.origin path) (Path.steps path) = .ok t) :
    t = .found r .directory ∨ ∃ p, Place.Below r p ∧
      ((∃ entry, d.lookup? p = some entry ∧ t = .found p entry) ∨
        d.lookup? p = none ∧ t = .vacant p) := by
  obtain ⟨names, hnames, hsteps⟩ := hpath.exists_steps
  have horigin : d.origin path = d.origin root := origin_congr hpath.1
  rw [horigin, hsteps] at h
  rcases eq_or_ne names [] with rfl | hne
  · rw [List.append_nil] at h
    exact .inl (Except.ok.inj (h.symm.trans hroot))
  · rw [follow_append hroot hne] at h
    exact .inr ⟨r ++ names, ⟨names, hne, rfl⟩,
      (follow_names hnames h).imp_right fun hvacant => hvacant.2⟩

/-- What is on the way to the root is there. -/
theorem LeadsTo.not_vacant {root path : String} {p : Place} (hroot : d.LeadsTo root r)
    (horigin : d.origin path = d.origin root) (hsteps : Path.steps path <+: Path.steps root) :
    d.follow (d.origin path) (Path.steps path) ≠ .ok (.vacant p) := by
  intro h
  obtain ⟨more, hsteps⟩ := hsteps
  rw [LeadsTo, ← horigin, ← hsteps] at hroot
  rcases eq_or_ne more [] with rfl | hne
  · rw [List.append_nil, h] at hroot
    cases hroot
  · rw [follow_append_of_vacant h hne] at hroot
    cases hroot

/-- Something can only be missing below that directory. -/
theorem LeadsTo.below_of_vacant {root path : String} {p : Place} (hroot : d.LeadsTo root r)
    (hpath : Path.Along root path)
    (h : d.follow (d.origin path) (Path.steps path) = .ok (.vacant p)) :
    Place.Below r p ∧ d.lookup? p = none := by
  have horigin : d.origin path = d.origin root := origin_congr hpath.1
  rcases hpath.2 with ⟨names, hnames, hsteps⟩ | hsteps
  · rw [horigin, hsteps] at h
    rcases eq_or_ne names [] with rfl | hne
    · rw [List.append_nil, hroot] at h
      cases h
    · rw [follow_append hroot hne] at h
      rcases follow_names hnames h with ⟨_, -, heq⟩ | ⟨-, hnone, heq⟩
      · cases heq
      · cases heq
        exact ⟨⟨names, hne, rfl⟩, hnone⟩
  · exact absurd h (hroot.not_vacant horigin hsteps)

/-! ### What is kept -/

theorem lookup?_put_self {p : Place} (hp : p ≠ []) (entry : Entry) :
    (d.put p entry).lookup? p = some entry := by
  rw [lookup?_put _ _ _ _ hp, if_pos rfl]

theorem lookup?_put_of_ne {p q : Place} (hq : q ≠ p) (entry : Entry) :
    (d.put p entry).lookup? q = d.lookup? q := by
  rcases eq_or_ne q [] with rfl | hne
  · rfl
  · rw [lookup?_put _ _ _ _ hne, if_neg hq]

/-- Nothing is changed but what lies below a place, and directories stay. -/
structure Keeps (r : Place) (d d' : Disk) : Prop where
  workingDirectory : d'.workingDirectory = d.workingDirectory
  directories : ∀ p, d.lookup? p = some .directory → d'.lookup? p = some .directory
  outside : ∀ p, ¬Place.Below r p → d'.lookup? p = d.lookup? p

namespace Keeps

theorem refl (r : Place) (d : Disk) : Keeps r d d := ⟨rfl, fun _ h => h, fun _ _ => rfl⟩

theorem trans {d'' : Disk} (h : Keeps r d d') (h' : Keeps r d' d'') : Keeps r d d'' where
  workingDirectory := h'.workingDirectory.trans h.workingDirectory
  directories := fun p hp => h'.directories p (h.directories p hp)
  outside := fun p hp => (h'.outside p hp).trans (h.outside p hp)

/-- What is put below a place, in no directory's stead, keeps what lies outside. -/
theorem put {p : Place} (hbelow : Place.Below r p) (hfree : d.lookup? p ≠ some .directory)
    (entry : Entry) : Keeps r d (d.put p entry) := by
  refine ⟨rfl, fun q hq => ?_, fun q hq =>
    lookup?_put_of_ne (by rintro rfl; exact hq hbelow) entry⟩
  rw [lookup?_put_of_ne (by rintro rfl; exact hfree hq) entry]
  exact hq

theorem step (h : Keeps r d d') {name : String} {p : Place}
    (hstep : d.step place name = .ok (.found p .directory)) :
    d'.step place name = .ok (.found p .directory) := by
  obtain ⟨hplace, ⟨rfl, heq⟩ | ⟨rfl, heq⟩ | ⟨hname, ⟨_, hdown, heq⟩ | ⟨-, heq⟩⟩⟩ := step_cases hstep
  · rw [(Target.found.inj heq).1]
    exact step_dot (h.directories _ hplace)
  · rw [(Target.found.inj heq).1]
    exact step_up (h.directories _ hplace)
  · obtain ⟨rfl, rfl⟩ := Target.found.inj heq
    exact step_down (h.directories _ hplace) hname (h.directories _ hdown)
  · cases heq

theorem follow (h : Keeps r d d') {names : List String} {p : Place}
    (hfollow : d.follow place names = .ok (.found p .directory)) :
    d'.follow place names = .ok (.found p .directory) := by
  induction names generalizing place with
  | nil =>
    obtain ⟨_, hplace, heq⟩ := follow_nil hfollow
    obtain ⟨rfl, rfl⟩ := Target.found.inj heq
    rw [Disk.follow, h.directories _ hplace]
  | cons name rest ih =>
    rcases eq_or_ne rest [] with rfl | hne
    · rw [follow_singleton] at hfollow ⊢
      exact h.step hfollow
    · obtain ⟨q, entry, hstep, hrest⟩ := exists_of_follow_cons hne hfollow
      rw [eq_of_step hstep (lookup_of_follow hne hrest)] at hstep
      rw [follow_cons_of_found (h.step hstep) hne]
      exact ih hrest

end Keeps

/-- What leads to a directory still does when what lies below a place is changed. -/
theorem LeadsTo.keeps {root : String} {r' : Place} (hroot : d.LeadsTo root r')
    (h : Keeps r d d') : d'.LeadsTo root r' := by
  have horigin : d'.origin root = d.origin root := by
    unfold origin
    rw [h.workingDirectory]
  rw [LeadsTo, horigin]
  exact h.follow hroot

/-! ### Changes along a root -/

theorem of_write {path : String} {content : List UInt8} (h : d.write path content = .ok d') :
    ∃ p, d' = d.put p (.file content) ∧
      ((∃ old, d.approach path = .ok (.found p (.file old), false)) ∨
        d.approach path = .ok (.vacant p, false)) := by
  unfold write at h
  rcases happroach : d.approach path with e | ⟨⟨p, _ | old⟩ | p, _ | _⟩
  · rw [happroach] at h
    cases h
  · rw [happroach] at h
    cases h
  · rw [happroach] at h
    cases h
  · rw [happroach] at h
    cases h
    exact ⟨p, rfl, .inl ⟨old, rfl⟩⟩
  · rw [happroach] at h
    cases h
  · rw [happroach] at h
    cases h
    exact ⟨p, rfl, .inr rfl⟩
  · rw [happroach] at h
    cases h

theorem of_makeDir {path : String} (h : d.makeDir path = .ok d') :
    ∃ p slash, d.approach path = .ok (.vacant p, slash) ∧ d' = d.put p .directory := by
  unfold makeDir at h
  rcases happroach : d.approach path with e | ⟨⟨p, entry⟩ | p, slash⟩
  · rw [happroach] at h
    cases h
  · rw [happroach] at h
    cases h
  · rw [happroach] at h
    cases h
    exact ⟨p, slash, rfl, rfl⟩

/-- A file that is written at a path down from a root is put below it. -/
theorem Keeps.write {root path : String} {content : List UInt8} (hroot : d.LeadsTo root r)
    (hpath : Path.Confined root path) (h : d.write path content = .ok d') : Keeps r d d' := by
  obtain ⟨p, rfl, ⟨old, happroach⟩ | happroach⟩ := of_write h
  · rcases hroot.follow_confined hpath (follow_steps happroach) with
      heq | ⟨_, hbelow, ⟨_, hold, heq⟩ | ⟨-, heq⟩⟩
    · cases heq
    · obtain ⟨rfl, rfl⟩ := Target.found.inj heq
      exact put hbelow (by simp [hold]) _
    · cases heq
  · obtain ⟨hbelow, hnone⟩ := hroot.below_of_vacant hpath.along (follow_steps happroach)
    exact put hbelow (by simp [hnone]) _

/-! ### Directories that are made one after the other -/

section MakeAll

variable {I : Disk → Prop} {G : String → Prop} {path : String}

theorem forall_above (hup : ∀ {path up}, G path → Path.parent? path = some up → G up)
    (hpath : G path) (fuel : Nat) : ∀ up ∈ above fuel path, G up := by
  induction fuel generalizing path with
  | zero => exact fun _ hmem => absurd hmem List.not_mem_nil
  | succ fuel ih =>
    intro up hmem
    rw [above] at hmem
    rcases hparent : Path.parent? path with _ | next
    · rw [hparent] at hmem
      cases hmem
    · rw [hparent] at hmem
      have hnext := hup hpath hparent
      rcases List.mem_cons.mp hmem with rfl | hmem
      · exact hnext
      · exact ih hnext up hmem

theorem settle_invariant {ε : Type} {o : Except ε Disk} (hd : I d)
    (h : ∀ d', o = .ok d' → I d') : I (d.settle o).2 := by
  rcases o with e | d'
  · exact hd
  · exact h d' rfl

variable (hmake : ∀ {d d' path}, I d → G path → d.makeDir path = .ok d' → I d')

include hmake

theorem makeDirOnce_invariant (hd : I d) (hpath : G path) (h : d.makeDirOnce path = .ok d') :
    I d' := by
  unfold makeDirOnce at h
  split at h
  · next hmade =>
    cases h
    exact hmake hd hpath hmade
  · split at h
    · cases h
      exact hd
    · cases h

/-- What stays so when one directory is made, stays so when a directory and those above it are,
also where not all of them can be. -/
theorem makeAllFrom_invariant {ups : List String} (hd : I d) (hpath : G path)
    (hups : ∀ up ∈ ups, G up) : I (d.makeAllFrom path ups).2 := by
  induction ups generalizing path with
  | nil =>
    unfold makeAllFrom
    split
    · exact hd
    · exact settle_invariant hd fun d' => makeDirOnce_invariant hmake hd hpath
  | cons up more ih =>
    obtain ⟨hup, hmore⟩ := List.forall_mem_cons.mp hups
    have habove := ih hup hmore
    unfold makeAllFrom
    split
    · exact hd
    · split
      · next hmade => exact hmake hd hpath hmade
      · split
        · next hmade =>
          rw [hmade] at habove
          exact settle_invariant habove fun d' => makeDirOnce_invariant hmake habove hpath
        · next hmade =>
          rw [hmade] at habove
          exact habove
      · exact hd

theorem makeAll_invariant (hup : ∀ {path up}, G path → Path.parent? path = some up → G up)
    (hd : I d) (hpath : G path) : I (d.makeAll path).2 :=
  makeAllFrom_invariant hmake hd hpath (forall_above hup hpath _)

end MakeAll

theorem Keeps.makeDir {root path : String} (hroot : d.LeadsTo root r)
    (hpath : Path.Along root path) (h : d.makeDir path = .ok d') : Keeps r d d' := by
  obtain ⟨p, _, happroach, rfl⟩ := of_makeDir h
  obtain ⟨hbelow, hnone⟩ := hroot.below_of_vacant hpath (follow_steps happroach)
  exact put hbelow (by simp [hnone]) _

/-- Directories that are made at a path along a root, and above it, are put below the root. -/
theorem Keeps.makeAll {root path : String} (hroot : d.LeadsTo root r)
    (hpath : Path.Along root path) : Keeps r d (d.makeAll path).2 :=
  -- The root still leads to its directory when some directories have been made.
  makeAll_invariant (fun hkept hpath hmade => hkept.trans (makeDir (hroot.keeps hkept) hpath hmade))
    (fun hpath hup => hpath.parent? hup) (refl r d) hpath

end Disk

end AgentWorkflow
