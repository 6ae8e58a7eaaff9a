/-
Templates whose placeholders give way to values all at once.

* `Text.Unbordered` — a text that cannot overlap itself.
* `Text.occurrences` — at how many places of a text another one begins.
* `Text.Exchanged` — some occurrences of a pattern have given way to a replacement.
* `Text.Exchanged.replaceFrom_eq_iff` — replacing gives the same when there were no others.
* `Texts.Substituted` — the placeholders that stand in a template have given way to their values,
  and the values are as they were.
* `Texts.format_substituted_iff` — replacing one name after the other comes to the same exactly when
  no value brings in a placeholder that is still to be replaced.

Design notes: an argument that is still to come finds its placeholder in the template, where it
should be replaced, and possibly in what the arguments before it have brought, alone or together
with what stands beside them.  Both are replaced, so everything is a matter of counting.
-/
import AgentWorkflow.Dispatch
import AgentWorkflow.Proofs.FilePaths
import AgentWorkflow.Proofs.Replacements
import Mathlib.Data.List.Nodup
import Mathlib.Tactic.LinearCombination

namespace AgentWorkflow

/-! ### Texts that do not overlap themselves -/

namespace Text

variable {pattern replacement gap part cs cs' : List Char} {n : Nat}

/-- Only the empty text and the whole text are both its beginning and its end. -/
def Unbordered (pattern : List Char) : Prop :=
  ∀ border, border <+: pattern → border <:+ pattern → border = [] ∨ border = pattern

/-- What begins in front of an occurrence ends in front of it. -/
theorem Unbordered.prefix_append_iff (h : Unbordered pattern) (hgap : gap ≠ []) (cs : List Char) :
    pattern <+: gap ++ pattern ++ cs ↔ pattern <+: gap := by
  rw [List.append_assoc]
  refine ⟨fun hbegins => ?_, fun hbegins => hbegins.trans (List.prefix_append _ _)⟩
  rcases List.prefix_or_prefix_of_prefix hbegins (List.prefix_append _ _) with hshort | hlong
  · exact hshort
  · obtain ⟨border, hborder⟩ := hlong
    have hbehind : border <+: pattern ++ cs :=
      (List.prefix_append_right_inj gap).mp (hborder ▸ hbegins)
    have hprefix : border <+: pattern :=
      List.prefix_of_prefix_length_le hbehind (List.prefix_append _ _) (hborder ▸ by simp)
    rcases h border hprefix ⟨gap, hborder⟩ with rfl | rfl
    · rw [List.append_nil] at hborder
      exact hborder ▸ List.prefix_rfl
    · exact absurd (List.append_left_eq_self.mp hborder) hgap

/-- What ends an occurrence does not begin another one. -/
theorem Unbordered.not_prefix_append (h : Unbordered pattern) (hpart : part <:+ pattern)
    (hne : part ≠ []) (hproper : part ≠ pattern) (cs : List Char) : ¬pattern <+: part ++ cs := by
  intro hbegins
  have hprefix : part <+: pattern :=
    List.prefix_of_prefix_length_le (List.prefix_append _ _) hbegins hpart.length_le
  rcases h part hprefix hpart with hnil | hwhole
  · exact hne hnil
  · exact hproper hwhole

theorem Unbordered.isFirst_iff (h : Unbordered pattern) (hne : pattern ≠ []) (cs : List Char) :
    IsFirst pattern gap cs ↔ ¬pattern <:+: gap := by
  induction gap with
  | nil => exact iff_of_true (isFirst_nil _ _) fun hinfix => hne (List.infix_nil.mp hinfix)
  | cons c gap ih =>
    rw [isFirst_cons_iff, ih, List.infix_cons_iff, not_or, ← List.cons_append, ← List.cons_append,
      h.prefix_append_iff (List.cons_ne_nil c gap)]

/-- Replacing can be done on both sides of an occurrence. -/
theorem Unbordered.replaceFrom_append (h : Unbordered pattern) (hne : pattern ≠ [])
    (gap cs : List Char) :
    replaceFrom pattern replacement 0 (gap ++ pattern ++ cs) =
      replaceFrom pattern replacement 0 gap ++ replacement ++
        replaceFrom pattern replacement 0 cs := by
  by_cases hoccurs : pattern <:+: gap
  · obtain ⟨before, after, rfl, hfirst⟩ := exists_isFirst hoccurs
    have hshorter := length_lt_append hne before after
    have hfirst' : IsFirst pattern before (after ++ pattern ++ cs) :=
      (h.isFirst_iff hne _).mpr ((h.isFirst_iff hne _).mp hfirst)
    have hsplit : before ++ pattern ++ after ++ pattern ++ cs =
        before ++ pattern ++ (after ++ pattern ++ cs) := by simp only [List.append_assoc]
    rw [hsplit, replaceFrom_of_isFirst hne hfirst', replaceFrom_of_isFirst hne hfirst,
      h.replaceFrom_append hne after cs]
    simp only [List.append_assoc]
  · rw [replaceFrom_of_isFirst hne ((h.isFirst_iff hne _).mpr hoccurs),
      replaceFrom_of_not_occurring hoccurs]
termination_by gap.length

/-! ### Counting occurrences -/

/-- At how many places of a text the pattern begins. -/
def occurrences (pattern cs : List Char) : Nat := cs.tails.countP fun tail => pattern <+: tail

theorem occurrences_cons (pattern cs : List Char) (c : Char) :
    occurrences pattern (c :: cs) =
      occurrences pattern cs + if pattern <+: c :: cs then 1 else 0 := by
  simp only [occurrences, List.tails_cons, List.countP_cons, decide_eq_true_eq]

theorem occurrences_cons_of_not {c : Char} (h : ¬pattern <+: c :: cs) :
    occurrences pattern (c :: cs) = occurrences pattern cs := by
  rw [occurrences_cons, if_neg h, Nat.add_zero]

theorem occurrences_eq_zero_iff : occurrences pattern cs = 0 ↔ ¬pattern <:+: cs := by
  simp only [occurrences, List.countP_eq_zero, List.mem_tails, decide_eq_true_eq,
    List.infix_iff_prefix_suffix, not_exists, not_and, imp_not_comm]

theorem occurrences_nil (hne : pattern ≠ []) : occurrences pattern [] = 0 :=
  occurrences_eq_zero_iff.mpr fun hinfix => hne (List.infix_nil.mp hinfix)

/-- The end of an occurrence holds no beginning. -/
theorem Unbordered.occurrences_part (h : Unbordered pattern) (hpart : part <:+ pattern)
    (hproper : part ≠ pattern) (cs : List Char) :
    occurrences pattern (part ++ cs) = occurrences pattern cs := by
  induction part with
  | nil => rfl
  | cons c part ih =>
    have hnone : ¬pattern <+: c :: (part ++ cs) :=
      h.not_prefix_append hpart (List.cons_ne_nil c part) hproper cs
    have hshorter : part.length < pattern.length := hpart.length_le
    rw [List.cons_append, occurrences_cons_of_not hnone,
      ih ((List.suffix_cons c part).trans hpart) fun heq => by simp [heq] at hshorter]

theorem Unbordered.occurrences_self_append (h : Unbordered pattern) (hne : pattern ≠ [])
    (cs : List Char) : occurrences pattern (pattern ++ cs) = occurrences pattern cs + 1 := by
  obtain ⟨c, part, rfl⟩ := List.exists_cons_of_ne_nil hne
  have hpart := h.occurrences_part (List.suffix_cons c part) (by simp) cs
  have hbegins : c :: part <+: c :: (part ++ cs) := List.prefix_append (c :: part) cs
  rw [List.cons_append, occurrences_cons, hpart, if_pos hbegins]

theorem Unbordered.occurrences_append (h : Unbordered pattern) (hne : pattern ≠ [])
    (gap cs : List Char) : occurrences pattern (gap ++ pattern ++ cs) =
      occurrences pattern gap + 1 + occurrences pattern cs := by
  induction gap with
  | nil =>
    rw [List.nil_append, h.occurrences_self_append hne, occurrences_nil hne]
    omega
  | cons c gap ih =>
    have hbegins := h.prefix_append_iff (List.cons_ne_nil c gap) cs
    simp only [List.cons_append] at hbegins ⊢
    rw [occurrences_cons, ih, occurrences_cons, if_congr hbegins rfl rfl]
    omega

/-- How long the text becomes. -/
theorem Unbordered.length_replaceFrom (h : Unbordered pattern) (hne : pattern ≠ [])
    (replacement cs : List Char) :
    (replaceFrom pattern replacement 0 cs).length + occurrences pattern cs * pattern.length =
      cs.length + occurrences pattern cs * replacement.length := by
  by_cases hoccurs : pattern <:+: cs
  · obtain ⟨gap, rest, rfl, hfirst⟩ := exists_isFirst hoccurs
    have hshorter := length_lt_append hne gap rest
    have ih := h.length_replaceFrom hne replacement rest
    have hgap := occurrences_eq_zero_iff.mpr ((h.isFirst_iff hne rest).mp hfirst)
    rw [replaceFrom_of_isFirst hne hfirst, h.occurrences_append hne, hgap]
    simp only [List.length_append]
    linear_combination ih
  · rw [replaceFrom_of_not_occurring hoccurs, occurrences_eq_zero_iff.mpr hoccurs]
    omega
termination_by cs.length

/-! ### Some occurrences or all of them -/

/-- As many occurrences of the pattern have given way to the replacement, and the rest of the text
is as it was. -/
inductive Exchanged (pattern replacement : List Char) : Nat → List Char → List Char → Prop
  | rest (cs : List Char) : Exchanged pattern replacement 0 cs cs
  | next {n : Nat} {cs cs' : List Char} (gap : List Char)
      (h : Exchanged pattern replacement n cs cs') :
      Exchanged pattern replacement (n + 1) (gap ++ pattern ++ cs) (gap ++ replacement ++ cs')

namespace Exchanged

theorem append (front : List Char) (h : Exchanged pattern replacement n cs cs') :
    Exchanged pattern replacement n (front ++ cs) (front ++ cs') := by
  cases h with
  | rest => exact .rest _
  | next gap h =>
    simp only [← List.append_assoc]
    exact .next (front ++ gap) h

theorem self (h : Exchanged pattern pattern n cs cs') : cs' = cs := by
  induction h with
  | rest => rfl
  | next gap _ ih => rw [ih]

theorem length_eq (h : Exchanged pattern replacement n cs cs') :
    cs'.length + n * pattern.length = cs.length + n * replacement.length := by
  induction h with
  | rest => rw [Nat.zero_mul, Nat.zero_mul]
  | next gap _ ih =>
    simp only [List.length_append]
    linear_combination ih

theorem le_occurrences (hp : Unbordered pattern) (hne : pattern ≠ [])
    (h : Exchanged pattern replacement n cs cs') : n ≤ occurrences pattern cs := by
  induction h with
  | rest => exact Nat.zero_le _
  | next gap _ ih =>
    rw [hp.occurrences_append hne]
    omega

end Exchanged

theorem replaceFrom_self (hne : pattern ≠ []) (cs : List Char) :
    replaceFrom pattern pattern 0 cs = cs := by
  have h : Replaced pattern pattern cs (replaceFrom pattern pattern 0 cs) :=
    replaced_replaceFrom hne cs
  generalize replaceFrom pattern pattern 0 cs = cs' at h
  induction h with
  | rest => rfl
  | next _ _ ih => rw [ih]

/-- A replacement as long as its pattern shows, unless it is the pattern. -/
theorem of_replaceFrom_eq_self (hne : pattern ≠ []) (hlength : replacement.length = pattern.length)
    (h : replaceFrom pattern replacement 0 cs = cs) :
    replacement = pattern ∨ occurrences pattern cs = 0 := by
  by_cases hoccurs : pattern <:+: cs
  · obtain ⟨gap, rest, rfl, hfirst⟩ := exists_isFirst hoccurs
    rw [replaceFrom_of_isFirst hne hfirst, List.append_assoc, List.append_assoc] at h
    exact .inl (List.append_inj (List.append_cancel_left h) hlength).1
  · exact .inr (occurrences_eq_zero_iff.mpr hoccurs)

namespace Exchanged

/-- A replacement of another length tells how often it was put in. -/
theorem occurrences_eq_of_length_ne (hp : Unbordered pattern) (hne : pattern ≠ [])
    (hlength : replacement.length ≠ pattern.length)
    (h : Exchanged pattern replacement n cs (replaceFrom pattern replacement 0 cs)) :
    occurrences pattern cs = n := by
  obtain ⟨more, hmore⟩ := Nat.exists_eq_add_of_le (h.le_occurrences hp hne)
  have hsome := h.length_eq
  have hall := hp.length_replaceFrom hne replacement cs
  rw [hmore, Nat.add_mul, Nat.add_mul] at hall
  have hnone : more * pattern.length = more * replacement.length := by omega
  rcases mul_eq_mul_left_iff.mp hnone with heqLength | rfl
  · exact absurd heqLength.symm hlength
  · exact hmore

/-- When the replacement is as long as the pattern, so is every piece of the text, and the pieces
are equal one by one. -/
theorem occurrences_eq_of_length_eq (hp : Unbordered pattern) (hne : pattern ≠ [])
    (hlength : replacement.length = pattern.length)
    (h : Exchanged pattern replacement n cs cs')
    (heq : replaceFrom pattern replacement 0 cs = cs') :
    replacement = pattern ∨ occurrences pattern cs = n := by
  induction h with
  | rest => exact of_replaceFrom_eq_self hne hlength heq
  | @next n cs cs' gap _ ih =>
    have hgap := hp.length_replaceFrom hne replacement gap
    rw [hlength, Nat.add_right_cancel_iff] at hgap
    rw [hp.replaceFrom_append hne, List.append_assoc, List.append_assoc] at heq
    obtain ⟨heqGap, heqRest⟩ := List.append_inj heq hgap
    rcases of_replaceFrom_eq_self hne hlength heqGap with hself | hnone
    · exact .inl hself
    · refine (ih (List.append_cancel_left heqRest)).imp_right fun hcount => ?_
      rw [hp.occurrences_append hne, hnone, hcount, Nat.zero_add, Nat.add_comm]

/-- When every occurrence was exchanged, none is left in the gaps. -/
theorem replaceFrom_of_occurrences_eq (hp : Unbordered pattern) (hne : pattern ≠ [])
    (h : Exchanged pattern replacement n cs cs') (hcount : occurrences pattern cs = n) :
    replaceFrom pattern replacement 0 cs = cs' := by
  induction h with
  | rest => exact replaceFrom_of_not_occurring (occurrences_eq_zero_iff.mp hcount)
  | next gap h ih =>
    rw [hp.occurrences_append hne] at hcount
    have hle := h.le_occurrences hp hne
    have hgap : ¬pattern <:+: gap := occurrences_eq_zero_iff.mp (by omega)
    rw [hp.replaceFrom_append hne, replaceFrom_of_not_occurring hgap, ih (by omega)]

/-- Replacing comes to what was exchanged when nothing was left to replace, or when it replaces by
the pattern itself. -/
theorem replaceFrom_eq_iff (hp : Unbordered pattern) (hne : pattern ≠ [])
    (h : Exchanged pattern replacement n cs cs') :
    replaceFrom pattern replacement 0 cs = cs' ↔
      replacement = pattern ∨ occurrences pattern cs = n := by
  constructor
  · intro heq
    by_cases hlength : replacement.length = pattern.length
    · exact h.occurrences_eq_of_length_eq hp hne hlength heq
    · exact .inr (occurrences_eq_of_length_ne hp hne hlength (heq ▸ h))
  · rintro (rfl | hcount)
    · rw [h.self, replaceFrom_self hne]
    · exact h.replaceFrom_of_occurrences_eq hp hne hcount

end Exchanged

end Text

/-! ### Templates -/

namespace Texts

open Text (Unbordered Exchanged occurrences)

variable {name : String} {arg : String × String} {args : List (String × String)}
  {part cs cs' : List Char} {c : Char}

/-- A name that a placeholder can hold: it has no braces itself. -/
def IsName (name : String) : Prop := '\x7b' ∉ name.toList ∧ '\x7d' ∉ name.toList

instance (name : String) : Decidable (IsName name) := inferInstanceAs (Decidable (_ ∧ _))

/-- The placeholders that stand in the template have given way to the values of their arguments.
The values are as they were, and so is the rest of the template. -/
inductive Substituted (args : List (String × String)) : List Char → List Char → Prop
  | nil : Substituted args [] []
  | argument {arg : String × String} {cs cs' : List Char} (harg : arg ∈ args)
      (h : Substituted args cs cs') :
      Substituted args ((placeholder arg.1).toList ++ cs) (arg.2.toList ++ cs')
  | char {c : Char} {cs cs' : List Char}
      (hnone : ∀ arg ∈ args, ¬(placeholder arg.1).toList <+: c :: cs)
      (h : Substituted args cs cs') : Substituted args (c :: cs) (c :: cs')

theorem toList_placeholder (name : String) :
    (placeholder name).toList = '\x7b' :: (name.toList ++ ['\x7d']) := by
  simp only [placeholder, String.toList_append]
  rfl

theorem placeholder_ne_nil (name : String) : (placeholder name).toList ≠ [] := by
  rw [toList_placeholder]
  exact List.cons_ne_nil _ _

/-- Behind its first character a placeholder has no opening brace. -/
theorem openBrace_not_mem (hname : IsName name) : '\x7b' ∉ name.toList ++ ['\x7d'] := by
  rw [List.mem_append, not_or]
  exact ⟨hname.1, by decide⟩

theorem IsName.unbordered (hname : IsName name) : Unbordered (placeholder name).toList := by
  rw [toList_placeholder]
  intro border hprefix hsuffix
  rcases border with _ | ⟨c, border⟩
  · exact .inl rfl
  · rcases List.suffix_cons_iff.mp hsuffix with hwhole | hproper
    · exact .inr hwhole
    · have hc : c = '\x7b' := (List.cons_prefix_cons.mp hprefix).1
      exact absurd (hproper.subset (hc ▸ List.mem_cons_self)) (openBrace_not_mem hname)

/-- At a place of a text one placeholder begins at most. -/
theorem IsName.eq_of_begins {name' : String} (hname : IsName name) (hname' : IsName name')
    (h : (placeholder name').toList <+: (placeholder name).toList ++ cs) : name' = name := by
  obtain ⟨rest, hrest⟩ := h
  simp only [toList_placeholder, List.cons_append, List.append_assoc, List.cons.injEq,
    true_and, List.nil_append] at hrest
  exact String.toList_inj.mp (Text.eq_of_append_cons hname'.2 hname.2 hrest)

theorem not_placeholder_prefix_cons (hc : c ≠ '\x7b') (name : String) (cs : List Char) :
    ¬(placeholder name).toList <+: c :: cs := by
  rw [toList_placeholder]
  exact fun h => hc (List.cons_prefix_cons.mp h).1.symm

theorem occurrences_append_of_not_mem (h : '\x7b' ∉ part) (name : String) (cs : List Char) :
    occurrences (placeholder name).toList (part ++ cs) =
      occurrences (placeholder name).toList cs := by
  induction part with
  | nil => rfl
  | cons c part ih =>
    obtain ⟨hc, hpart⟩ := not_or.mp (List.mem_cons.not.mp h)
    rw [List.cons_append,
      Text.occurrences_cons_of_not (not_placeholder_prefix_cons (Ne.symm hc) _ _), ih hpart]

/-- Another placeholder in front makes no difference. -/
theorem IsName.occurrences_placeholder_append {name' : String} (hname : IsName name)
    (hname' : IsName name') (hne : name' ≠ name) (cs : List Char) :
    occurrences (placeholder name').toList ((placeholder name).toList ++ cs) =
      occurrences (placeholder name').toList cs := by
  have hbegins : ¬(placeholder name').toList <+: (placeholder name).toList ++ cs :=
    fun h => hne (hname.eq_of_begins hname' h)
  rw [toList_placeholder name, List.cons_append] at hbegins ⊢
  rw [Text.occurrences_cons_of_not hbegins, occurrences_append_of_not_mem (openBrace_not_mem hname)]

namespace Substituted

/-- Where no opening brace stands, nothing is replaced. -/
theorem of_append_of_not_mem (hpart : '\x7b' ∉ part) (h : Substituted args (part ++ cs) cs') :
    ∃ rest, cs' = part ++ rest ∧ Substituted args cs rest := by
  induction part generalizing cs' with
  | nil => exact ⟨cs', rfl, h⟩
  | cons c part ih =>
    obtain ⟨hc, hpart⟩ := not_or.mp (List.mem_cons.not.mp hpart)
    rw [List.cons_append] at h
    generalize hwhole : c :: (part ++ cs) = whole at h
    cases h with
    | nil => cases hwhole
    | argument harg h =>
      exact absurd (hwhole ▸ List.prefix_append _ _)
        (not_placeholder_prefix_cons (Ne.symm hc) _ _)
    | char hnone h =>
      obtain ⟨rfl, rfl⟩ := List.cons.inj hwhole
      obtain ⟨rest, rfl, hrest⟩ := ih hpart h
      exact ⟨rest, rfl, hrest⟩

/-- The placeholder of another name is kept. -/
theorem of_placeholder_append (hnames : ∀ arg ∈ args, IsName arg.1) (hname : IsName name)
    (hnew : ∀ arg ∈ args, arg.1 ≠ name)
    (h : Substituted args ((placeholder name).toList ++ cs) cs') :
    ∃ rest, cs' = (placeholder name).toList ++ rest ∧ Substituted args cs rest := by
  generalize hwhole : (placeholder name).toList ++ cs = whole at h
  cases h with
  | nil => exact absurd (List.append_eq_nil_iff.mp hwhole).1 (placeholder_ne_nil name)
  | argument harg h =>
    have hprefix := hwhole.symm ▸ List.prefix_append _ _
    exact absurd (hname.eq_of_begins (hnames _ harg) hprefix) (hnew _ harg)
  | char hnone h =>
    rw [toList_placeholder, List.cons_append] at hwhole
    obtain ⟨rfl, rfl⟩ := List.cons.inj hwhole
    obtain ⟨rest, rfl, hrest⟩ := h.of_append_of_not_mem (openBrace_not_mem hname)
    exact ⟨rest, by rw [toList_placeholder, List.cons_append], hrest⟩

/-- There is one way to replace the placeholders. -/
theorem unique (hnames : ∀ arg ∈ args, IsName arg.1) (hdistinct : (args.map Prod.fst).Nodup)
    {cs'' : List Char} (h : Substituted args cs cs') (h' : Substituted args cs cs'') :
    cs' = cs'' := by
  induction h generalizing cs'' with
  | nil =>
    generalize hwhole : [] = whole at h'
    cases h' with
    | nil => rfl
    | argument =>
      exact absurd (List.append_eq_nil_iff.mp hwhole.symm).1 (placeholder_ne_nil _)
    | char => cases hwhole
  | @argument arg cs cs' harg _ ih =>
    generalize hwhole : (placeholder arg.1).toList ++ cs = whole at h'
    cases h' with
    | nil => exact absurd (List.append_eq_nil_iff.mp hwhole).1 (placeholder_ne_nil _)
    | @argument arg' rest _ harg' h' =>
      have hprefix : (placeholder arg'.1).toList <+: (placeholder arg.1).toList ++ cs :=
        hwhole.symm ▸ List.prefix_append _ _
      have hsame := (hnames arg harg).eq_of_begins (hnames arg' harg') hprefix
      obtain rfl := List.inj_on_of_nodup_map hdistinct harg' harg hsame
      obtain rfl := List.append_cancel_left hwhole
      rw [ih h']
    | char hnone => exact absurd (hwhole ▸ List.prefix_append _ _) (hnone arg harg)
  | @char c cs cs' hnone _ ih =>
    generalize hwhole : c :: cs = whole at h'
    cases h' with
    | nil => cases hwhole
    | argument harg' => exact absurd (hwhole ▸ List.prefix_append _ _) (hnone _ harg')
    | char _ h' =>
      obtain ⟨rfl, rfl⟩ := List.cons.inj hwhole
      rw [ih h']

theorem self (cs : List Char) : Substituted [] cs cs := by
  induction cs with
  | nil => exact .nil
  | cons c cs ih => exact .char (by simp) ih

/-- With one argument more, the placeholders of this one give way as well: those that stand in the
template. -/
theorem extend (hnames : ∀ arg ∈ args, IsName arg.1) (hname : IsName arg.1)
    (hnew : ∀ old ∈ args, old.1 ≠ arg.1) (h : Substituted args cs cs') :
    ∃ cs'', Substituted (args ++ [arg]) cs cs'' ∧
      Exchanged (placeholder arg.1).toList arg.2.toList
        (occurrences (placeholder arg.1).toList cs) cs' cs'' := by
  -- A placeholder is passed over as a whole, so the induction is on the length.
  induction hlength : cs.length using Nat.strong_induction_on generalizing cs cs' with
  | _ n ih =>
    subst hlength
    cases h with
    | nil =>
      refine ⟨[], .nil, ?_⟩
      rw [Text.occurrences_nil (placeholder_ne_nil arg.1)]
      exact .rest []
    | @argument old cs cs' hold h =>
      have hshorter := Text.length_lt_append (placeholder_ne_nil old.1) [] cs
      obtain ⟨cs'', hall, hexchanged⟩ := ih _ hshorter h rfl
      refine ⟨old.2.toList ++ cs'', .argument (List.mem_append_left _ hold) hall, ?_⟩
      rw [(hnames old hold).occurrences_placeholder_append hname (Ne.symm (hnew old hold))]
      exact hexchanged.append old.2.toList
    | @char c cs cs' hnone h =>
      by_cases hbegins : (placeholder arg.1).toList <+: c :: cs
      · obtain ⟨rest, hrest⟩ := hbegins
        have hshorter := Text.length_lt_append (placeholder_ne_nil arg.1) [] rest
        rw [List.nil_append, hrest] at hshorter
        have hwhole : Substituted args ((placeholder arg.1).toList ++ rest) (c :: cs') :=
          hrest ▸ .char hnone h
        obtain ⟨rest', hrest', h⟩ := of_placeholder_append hnames hname hnew hwhole
        obtain ⟨rest'', hall, hexchanged⟩ := ih _ hshorter h rfl
        refine ⟨arg.2.toList ++ rest'', ?_, ?_⟩
        · exact hrest ▸ .argument (List.mem_append_right _ (List.mem_singleton.mpr rfl)) hall
        · have hcount := hname.unbordered.occurrences_self_append (placeholder_ne_nil arg.1) rest
          rw [← hrest, hcount, hrest']
          exact .next [] hexchanged
      · have hshorter : cs.length < (c :: cs).length := Nat.lt_succ_self _
        obtain ⟨cs'', hall, hexchanged⟩ := ih _ hshorter h rfl
        refine ⟨c :: cs'', .char ?_ hall, ?_⟩
        · intro old hold
          rcases List.mem_append.mp hold with hold | hold
          · exact hnone old hold
          · exact List.mem_singleton.mp hold ▸ hbegins
        · rw [Text.occurrences_cons_of_not hbegins]
          exact hexchanged.append [c]

end Substituted

theorem format_concat (texts : Texts) (key : String) (args : List (String × String))
    (arg : String × String) : texts.format key (args ++ [arg]) =
      Text.replaceAll (placeholder arg.1) arg.2 (texts.format key args) := by
  simp only [format, fill, List.foldl_append, List.foldl_cons, List.foldl_nil]

/-- Whether one more argument gives what it should. -/
theorem Substituted.format_concat_iff {texts : Texts} {key : String}
    (hnames : ∀ old ∈ args ++ [arg], IsName old.1)
    (hdistinct : ((args ++ [arg]).map Prod.fst).Nodup)
    (h : Substituted args (texts.get key).toList (texts.format key args).toList) :
    Substituted (args ++ [arg]) (texts.get key).toList (texts.format key (args ++ [arg])).toList ↔
      arg.2 = placeholder arg.1 ∨
        occurrences (placeholder arg.1).toList (texts.format key args).toList =
          occurrences (placeholder arg.1).toList (texts.get key).toList := by
  have hname : IsName arg.1 := hnames arg (List.mem_append_right _ (List.mem_singleton.mpr rfl))
  have hold : ∀ old ∈ args, IsName old.1 := fun old hmem => hnames old (List.mem_append_left _ hmem)
  have hnew : ∀ old ∈ args, old.1 ≠ arg.1 := by
    rw [List.map_append, List.nodup_append] at hdistinct
    exact fun old hmem => hdistinct.2.2 _ (List.mem_map_of_mem hmem) _ (by simp)
  obtain ⟨cs, hall, hexchanged⟩ := h.extend hold hname hnew
  have hsame := hexchanged.replaceFrom_eq_iff hname.unbordered (placeholder_ne_nil arg.1)
  rw [String.toList_inj] at hsame
  rw [← hsame, format_concat, Text.replaceAll, String.toList_ofList]
  exact ⟨fun hfilled => hfilled.unique hnames hdistinct hall, fun heq => heq ▸ hall⟩

/-! ### Names and errors that are quoted -/

/-- A placeholder ends with its closing brace, so it does not end where there is none. -/
theorem infix_append_iff (hpart : '\x7d' ∉ part) (name : String) (cs : List Char) :
    (placeholder name).toList <:+: cs ++ part ↔ (placeholder name).toList <:+: cs := by
  refine ⟨?_, fun h => h.trans (List.prefix_append cs part).isInfix⟩
  rintro ⟨before, after, heq⟩
  rcases List.append_eq_append_iff.mp heq with ⟨more, rfl, -⟩ | ⟨more, hmore, rfl⟩
  · exact List.infix_append _ _ _
  · rcases List.eq_nil_or_concat more with rfl | ⟨most, c, rfl⟩
    · rw [List.append_nil] at hmore
      exact ⟨before, [], by rw [List.append_nil, hmore]⟩
    · rw [toList_placeholder, ← List.cons_append, ← List.append_assoc, List.concat_eq_append,
        ← List.append_assoc] at hmore
      have hlast : '\x7d' = c := List.singleton_inj.mp (List.append_inj' hmore rfl).2
      exact absurd (by simp [← hlast]) hpart

theorem replaceFrom_append_left (hpart : '\x7b' ∉ part) (name : String)
    (value cs : List Char) : Text.replaceFrom (placeholder name).toList value 0 (part ++ cs) =
      part ++ Text.replaceFrom (placeholder name).toList value 0 cs := by
  induction part with
  | nil => rfl
  | cons c part ih =>
    obtain ⟨hc, hpart⟩ := not_or.mp (List.mem_cons.not.mp hpart)
    rw [List.cons_append,
      Text.replaceFrom_cons_of_not (not_placeholder_prefix_cons (Ne.symm hc) _ _), ih hpart]
    rfl

theorem IsName.replaceFrom_append_right (hname : IsName name) (hpart : '\x7d' ∉ part)
    (value cs : List Char) : Text.replaceFrom (placeholder name).toList value 0 (cs ++ part) =
      Text.replaceFrom (placeholder name).toList value 0 cs ++ part := by
  have hne := placeholder_ne_nil name
  by_cases hoccurs : (placeholder name).toList <:+: cs
  · obtain ⟨gap, rest, rfl⟩ := hoccurs
    have hshorter := Text.length_lt_append hne gap rest
    rw [List.append_assoc, hname.unbordered.replaceFrom_append hne,
      hname.unbordered.replaceFrom_append hne, hname.replaceFrom_append_right hpart value rest,
      List.append_assoc, List.append_assoc, List.append_assoc]
  · rw [Text.replaceFrom_of_not_occurring hoccurs,
      Text.replaceFrom_of_not_occurring ((infix_append_iff hpart name cs).not.mpr hoccurs)]
termination_by cs.length

/-- A text that quotes a tool and an error quotes the error as it is, and the tool with the
placeholder of the error replaced. -/
theorem fill_quoting {front middle : String} (hfront : IsName front) (hmiddle : IsName middle)
    (tool error : String) :
    fill (front ++ placeholder "name" ++ middle ++ placeholder "error")
      [("name", tool), ("error", error)] =
        front ++ Text.replaceAll (placeholder "error") error tool ++ middle ++ error := by
  have hname : IsName "name" := by decide
  have herror : IsName "error" := by decide
  have hother : ¬(placeholder "name").toList <:+: (placeholder "error").toList := by decide
  have hfirst : Text.replaceFrom (placeholder "name").toList tool.toList 0
      (front ++ placeholder "name" ++ middle ++ placeholder "error").toList =
        front.toList ++ (tool.toList ++ (middle.toList ++ (placeholder "error").toList)) := by
    simp only [String.toList_append, List.append_assoc]
    rw [replaceFrom_append_left hfront.1, Text.replaceFrom_append (placeholder_ne_nil _),
      replaceFrom_append_left hmiddle.1, Text.replaceFrom_of_not_occurring hother]
  have hsecond : Text.replaceFrom (placeholder "error").toList error.toList 0
      (front.toList ++ (tool.toList ++ (middle.toList ++ (placeholder "error").toList))) =
        front.toList ++ (Text.replaceFrom (placeholder "error").toList error.toList 0 tool.toList ++
          (middle.toList ++ error.toList)) := by
    have hsplit : tool.toList ++ (middle.toList ++ (placeholder "error").toList) =
        tool.toList ++ middle.toList ++ (placeholder "error").toList ++ [] := by
      simp only [List.append_assoc, List.append_nil]
    rw [replaceFrom_append_left hfront.1, hsplit,
      herror.unbordered.replaceFrom_append (placeholder_ne_nil _),
      herror.replaceFrom_append_right hmiddle.2]
    simp only [Text.replaceFrom, List.append_assoc, List.append_nil]
  rw [← String.toList_inj]
  simp only [fill, List.foldl_cons, List.foldl_nil, Text.replaceAll, String.toList_ofList,
    String.toList_append, List.append_assoc]
  simp only [String.toList_append, List.append_assoc] at hfirst
  rw [hfirst, hsecond]

/-- How the standard texts tell of a call that failed and of arguments that could not be read. -/
theorem content_standard (tool error : String) :
    (CallOutcome.failed error).content standard tool = "Error executing " ++
        Text.replaceAll (placeholder "error") error tool ++ ": " ++ error ∧
      (CallOutcome.badArguments error).content standard tool =
        "Error: invalid arguments for tool '" ++
          Text.replaceAll (placeholder "error") error tool ++ "': " ++ error := by
  have hfailed : standard.get "tool_error" =
      "Error executing " ++ placeholder "name" ++ ": " ++ placeholder "error" := by decide
  have hbad : standard.get "tool_invalid_arguments" = "Error: invalid arguments for tool '" ++
      placeholder "name" ++ "': " ++ placeholder "error" := by decide
  constructor
  · rw [CallOutcome.content, format, hfailed]
    exact fill_quoting (by decide) (by decide) tool error
  · rw [CallOutcome.content, format, hbad]
    exact fill_quoting (by decide) (by decide) tool error

/-- When a replaced text is as it was. -/
theorem replaceAll_placeholder_eq_iff (hname : IsName name) (value s : String) :
    Text.replaceAll (placeholder name) value s = s ↔
      value = placeholder name ∨ Text.occurs (placeholder name) s = false := by
  have hrest : Exchanged (placeholder name).toList value.toList 0 s.toList s.toList := .rest _
  have h := hrest.replaceFrom_eq_iff hname.unbordered (placeholder_ne_nil name)
  rw [String.toList_inj, Text.occurrences_eq_zero_iff, ← Text.occurs_iff,
    Bool.not_eq_true] at h
  rw [← h, ← String.toList_inj, Text.replaceAll, String.toList_ofList]

/-- Without arguments the template is as it was. -/
theorem substituted_nil (texts : Texts) (key : String) :
    Substituted [] (texts.get key).toList (texts.format key []).toList :=
  .self _

/-- With two arguments only what the first one brings in can be taken for a placeholder. -/
theorem substituted_pair_iff (texts : Texts) (key tool error : String) :
    Substituted [("name", tool), ("error", error)] (texts.get key).toList
        (texts.format key [("name", tool), ("error", error)]).toList ↔
      error = placeholder "error" ∨
        occurrences (placeholder "error").toList (texts.format key [("name", tool)]).toList =
          occurrences (placeholder "error").toList (texts.get key).toList := by
  have hname : IsName "name" := by decide
  have herror : IsName "error" := by decide
  have hone : Substituted [("name", tool)] (texts.get key).toList
      (texts.format key [("name", tool)]).toList :=
    (@Substituted.format_concat_iff ("name", tool) [] texts key (by simpa using hname) (by simp)
      (substituted_nil texts key)).mpr (.inr rfl)
  exact @Substituted.format_concat_iff ("error", error) [("name", tool)] texts key
    (by simpa using ⟨hname, herror⟩) (by simp) hone

/-- Replacing the placeholders one name after the other comes to replacing them at once, for the
arguments and for those that are there after each of them, exactly when each argument finds its
placeholder as often as the template has it, or has this placeholder for its value.  The tool and
the error of a call that failed, or whose arguments could not be read, are quoted so that the error
is as it was.  The tool is so exactly when the placeholder of the error does not occur in it, or the
error is that placeholder. -/
theorem format_substituted_iff (texts : Texts) :
    (∀ (key : String) (args : List (String × String)),
      (args.map Prod.fst).Nodup → (∀ arg ∈ args, IsName arg.1) →
        ((∀ front, front <+: args →
            Substituted front (texts.get key).toList (texts.format key front).toList) ↔
          ∀ front arg, front ++ [arg] <+: args → arg.2 = placeholder arg.1 ∨
            occurrences (placeholder arg.1).toList (texts.format key front).toList =
              occurrences (placeholder arg.1).toList (texts.get key).toList)) ∧
    (∀ tool error : String,
      (Substituted [("name", tool), ("error", error)] (texts.get "tool_error").toList
          ((CallOutcome.failed error).content texts tool).toList ↔
        error = placeholder "error" ∨
          occurrences (placeholder "error").toList
              (texts.format "tool_error" [("name", tool)]).toList =
            occurrences (placeholder "error").toList (texts.get "tool_error").toList) ∧
      (Substituted [("name", tool), ("error", error)] (texts.get "tool_invalid_arguments").toList
          ((CallOutcome.badArguments error).content texts tool).toList ↔
        error = placeholder "error" ∨
          occurrences (placeholder "error").toList
              (texts.format "tool_invalid_arguments" [("name", tool)]).toList =
            occurrences (placeholder "error").toList
              (texts.get "tool_invalid_arguments").toList)) ∧
    ∀ tool error : String, ∃ quoted,
      (quoted = tool ↔
        error = placeholder "error" ∨ Text.occurs (placeholder "error") tool = false) ∧
      (CallOutcome.failed error).content standard tool =
        "Error executing " ++ quoted ++ ": " ++ error ∧
      (CallOutcome.badArguments error).content standard tool =
        "Error: invalid arguments for tool '" ++ quoted ++ "': " ++ error := by
  refine ⟨fun key args hdistinct hnames => ?_, fun tool error =>
    ⟨substituted_pair_iff texts _ tool error, substituted_pair_iff texts _ tool error⟩,
    fun tool error => ?_⟩
  · have hstep : ∀ front arg, front ++ [arg] <+: args →
        Substituted front (texts.get key).toList (texts.format key front).toList →
          (Substituted (front ++ [arg]) (texts.get key).toList
            (texts.format key (front ++ [arg])).toList ↔ _) := fun front arg hfront h =>
      h.format_concat_iff (fun old hold => hnames old (hfront.subset hold))
        ((hfront.sublist.map Prod.fst).nodup hdistinct)
    constructor
    · intro h front arg hfront
      exact (hstep front arg hfront (h front ((List.prefix_append _ _).trans hfront))).mp
        (h _ hfront)
    · intro h front
      induction front using List.reverseRecOn with
      | nil => exact fun _ => substituted_nil texts key
      | append_singleton front arg ih =>
        exact fun hfront => (hstep front arg hfront
          (ih ((List.prefix_append _ _).trans hfront))).mpr (h front arg hfront)
  · obtain ⟨hfailed, hbad⟩ := content_standard tool error
    exact ⟨_, replaceAll_placeholder_eq_iff (by decide) error tool, hfailed, hbad⟩

/-- A value that looks like a placeholder does no harm when it comes last. -/
theorem format_substituted_iff_braces :
    Substituted [("name", "ls"), ("error", placeholder "name")] (standard.get "tool_error").toList
      (standard.format "tool_error" [("name", "ls"), ("error", placeholder "name")]).toList := by
  refine ((format_substituted_iff standard).1 "tool_error"
    [("name", "ls"), ("error", placeholder "name")] (by decide)
    (by decide)).mpr ?_ _ List.prefix_rfl
  rintro front arg ⟨back, hback⟩
  rcases front with _ | ⟨first, _ | ⟨second, more⟩⟩
  · obtain ⟨rfl, -⟩ := List.cons.inj hback
    exact .inr rfl
  · simp only [List.cons_append, List.nil_append, List.cons.injEq] at hback
    obtain ⟨rfl, rfl, -⟩ := hback
    exact .inr (by decide)
  · simp at hback

/-- A tool whose name is the placeholder of the error. -/
theorem content_not_substituted :
    (CallOutcome.failed "boom").content standard (placeholder "error") =
        "Error executing boom: boom" ∧
      ¬Substituted [("name", placeholder "error"), ("error", "boom")]
        (standard.get "tool_error").toList
        ((CallOutcome.failed "boom").content standard (placeholder "error")).toList := by
  refine ⟨by decide, fun h => ?_⟩
  have hcount := (substituted_pair_iff standard "tool_error" (placeholder "error") "boom").mp h
  revert hcount
  decide

end Texts

end AgentWorkflow
