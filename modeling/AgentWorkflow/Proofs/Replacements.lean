/-
Texts that are replaced in others.

* `Text.occurs_iff` — whether a text occurs in another one.
* `Text.IsFirst`, `Text.exists_isFirst` — what stands before an occurrence when it is the first.
* `Text.Replaced` — every occurrence is replaced, from left to right and without overlap, and
  nothing else is.
* `Text.replaced_iff` — the text that is so replaced is there, and is the one that is computed.

Design notes: what was replaced is not looked at again, neither the pattern that goes nor the text
that comes.  So a replacement may hold the pattern, and a pattern may overlap itself.
-/
import AgentWorkflow.Text.Basic
import Mathlib.Data.List.Infix

namespace AgentWorkflow.Text

variable {pattern replacement gap rest cs cs' : List Char}

/-! ### Occurrences -/

theorem occursIn_iff : occursIn pattern cs = true ↔ pattern <:+: cs := by
  induction cs with
  | nil => rw [occursIn, List.isEmpty_iff, List.infix_nil]
  | cons c rest ih =>
    rw [occursIn, Bool.or_eq_true, List.isPrefixOf_iff_prefix, ih, List.infix_cons_iff]

theorem occurs_iff {search s : String} : occurs search s = true ↔ search.toList <:+: s.toList :=
  occursIn_iff

/-- No occurrence begins before the one that stands between these. -/
def IsFirst (pattern gap rest : List Char) : Prop :=
  ∀ before after, gap ++ pattern ++ rest = before ++ pattern ++ after →
    gap.length ≤ before.length

theorem isFirst_nil (pattern rest : List Char) : IsFirst pattern [] rest :=
  fun _ _ _ => Nat.zero_le _

theorem isFirst_cons_iff {c : Char} : IsFirst pattern (c :: gap) rest ↔
    ¬pattern <+: c :: (gap ++ pattern ++ rest) ∧ IsFirst pattern gap rest := by
  constructor
  · refine fun h => ⟨?_, fun before after heq => ?_⟩
    · rintro ⟨after, heq⟩
      exact absurd (h [] after heq.symm) (Nat.not_succ_le_zero _)
    · exact Nat.le_of_succ_le_succ (h (c :: before) after (congrArg (c :: ·) heq))
  · rintro ⟨hnot, h⟩ before after heq
    rcases before with _ | ⟨b, before⟩
    · exact absurd ⟨after, heq.symm⟩ hnot
    · exact Nat.succ_le_succ (h before after (List.cons.inj heq).2)

/-- What occurs has a first occurrence. -/
theorem exists_isFirst (h : pattern <:+: cs) :
    ∃ gap rest, cs = gap ++ pattern ++ rest ∧ IsFirst pattern gap rest := by
  induction cs with
  | nil =>
    rw [List.infix_nil] at h
    subst h
    exact ⟨[], [], rfl, isFirst_nil _ _⟩
  | cons c cs ih =>
    by_cases hbegins : pattern <+: c :: cs
    · obtain ⟨rest, hrest⟩ := hbegins
      exact ⟨[], rest, hrest.symm, isFirst_nil _ _⟩
    · obtain ⟨gap, rest, rfl, hfirst⟩ := ih ((List.infix_cons_iff.mp h).resolve_left hbegins)
      exact ⟨c :: gap, rest, rfl, isFirst_cons_iff.mpr ⟨hbegins, hfirst⟩⟩

/-- What stands behind a pattern that is not empty is shorter than the whole text. -/
theorem length_lt_append (hne : pattern ≠ []) (gap rest : List Char) :
    rest.length < (gap ++ pattern ++ rest).length := by
  have hpos := List.length_pos_of_ne_nil hne
  simp only [List.length_append]
  omega

/-! ### Replacing -/

/-- Every occurrence is replaced, from left to right and without overlap: what stands before the
first one is kept, and behind it the same is done.  A text without an occurrence is kept. -/
inductive Replaced (pattern replacement : List Char) : List Char → List Char → Prop
  | rest {cs : List Char} (hnone : ¬pattern <:+: cs) : Replaced pattern replacement cs cs
  | next {gap cs cs' : List Char} (hfirst : IsFirst pattern gap cs)
      (h : Replaced pattern replacement cs cs') :
      Replaced pattern replacement (gap ++ pattern ++ cs) (gap ++ replacement ++ cs')

theorem replaceFrom_of_skip (skip : Nat) (cs : List Char) :
    replaceFrom pattern replacement skip cs =
      replaceFrom pattern replacement 0 (cs.drop skip) := by
  induction skip generalizing cs with
  | zero => rfl
  | succ skip ih =>
    rcases cs with _ | ⟨c, rest⟩
    · rfl
    · exact ih rest

theorem replaceFrom_cons_of_not {c : Char} (h : ¬pattern <+: c :: cs) :
    replaceFrom pattern replacement 0 (c :: cs) = c :: replaceFrom pattern replacement 0 cs := by
  rw [replaceFrom, if_neg fun hbegins => h (List.isPrefixOf_iff_prefix.mp hbegins)]

theorem replaceFrom_append (hne : pattern ≠ []) (cs : List Char) :
    replaceFrom pattern replacement 0 (pattern ++ cs) =
      replacement ++ replaceFrom pattern replacement 0 cs := by
  obtain ⟨c, tail, rfl⟩ := List.exists_cons_of_ne_nil hne
  have hbegins : (c :: tail).isPrefixOf (c :: (tail ++ cs)) = true :=
    List.isPrefixOf_iff_prefix.mpr ⟨cs, rfl⟩
  rw [List.cons_append, replaceFrom, if_pos hbegins, replaceFrom_of_skip, List.length_cons,
    Nat.add_sub_cancel, List.drop_left]

theorem replaceFrom_of_not_occurring (h : ¬pattern <:+: cs) :
    replaceFrom pattern replacement 0 cs = cs := by
  induction cs with
  | nil => rfl
  | cons c cs ih =>
    rw [List.infix_cons_iff, not_or] at h
    rw [replaceFrom_cons_of_not h.1, ih h.2]

theorem replaceFrom_of_isFirst (hne : pattern ≠ []) (h : IsFirst pattern gap cs) :
    replaceFrom pattern replacement 0 (gap ++ pattern ++ cs) =
      gap ++ replacement ++ replaceFrom pattern replacement 0 cs := by
  induction gap with
  | nil => exact replaceFrom_append hne cs
  | cons c gap ih =>
    obtain ⟨hnot, h⟩ := isFirst_cons_iff.mp h
    rw [List.cons_append, List.cons_append, replaceFrom_cons_of_not hnot, ih h]
    rfl

theorem Replaced.eq (hne : pattern ≠ []) (h : Replaced pattern replacement cs cs') :
    cs' = replaceFrom pattern replacement 0 cs := by
  induction h with
  | rest hnone => exact (replaceFrom_of_not_occurring hnone).symm
  | next hfirst _ ih => rw [replaceFrom_of_isFirst hne hfirst, ← ih]

theorem replaced_replaceFrom (hne : pattern ≠ []) (cs : List Char) :
    Replaced pattern replacement cs (replaceFrom pattern replacement 0 cs) := by
  by_cases hoccurs : pattern <:+: cs
  · obtain ⟨gap, rest, rfl, hfirst⟩ := exists_isFirst hoccurs
    have hshorter := length_lt_append hne gap rest
    rw [replaceFrom_of_isFirst hne hfirst]
    exact .next hfirst (replaced_replaceFrom hne rest)
  · rw [replaceFrom_of_not_occurring hoccurs]
    exact .rest hoccurs
termination_by cs.length

/-- There is one text in which every occurrence is replaced, and it is the one computed. -/
theorem replaced_iff {search replacement s t : String} (hne : search ≠ "") :
    Replaced search.toList replacement.toList s.toList t.toList ↔
      t = replaceAll search replacement s := by
  have hne : search.toList ≠ [] := String.toList_eq_nil_iff.not.mpr hne
  constructor
  · intro h
    rw [replaceAll, ← h.eq hne, String.ofList_toList]
  · rintro rfl
    rw [replaceAll, String.toList_ofList]
    exact replaced_replaceFrom hne s.toList

/-- Occurrences that overlap, and a replacement that holds the pattern. -/
example : replaceAll "aa" "aab" "aaaaa" = "aabaaba" := by decide +kernel

end AgentWorkflow.Text
