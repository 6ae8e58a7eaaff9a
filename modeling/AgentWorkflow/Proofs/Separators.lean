/-
Separators as they are typed in a document.

* `Text.unescape` — one scan over a text that turns `\n` into a line feed, `\t` into a tab, and
  copies everything else.
* `Text.replaceFrom_replaceFrom_eq` — replacing the one sequence and then the other comes to this
  scan.
* `Text.not_escape_infix_unescape` — what a scan leaves holds neither sequence.
* `Json.separator_scanned` — so a separator is read in one scan, and reading it again changes
  nothing.

Design notes: a backslash is never what an occurrence ends with, and never what is put in its
place.  So a backslash and the letter after it stand side by side in the result only when they did
so in the text, and there they would have been replaced.
-/
import AgentWorkflow.Json.Coercion
import AgentWorkflow.Proofs.Replacements

namespace AgentWorkflow

namespace Text

variable {pattern replacement cs rest : List Char} {c letter : Char}

/-! ### One scan -/

/-- Reads a text from left to right: a backslash with an `n` is a line feed, a backslash with a `t`
is a tab, and any other character stands for itself. -/
def unescape : List Char → List Char
  | [] => []
  | '\\' :: 'n' :: rest => '\n' :: unescape rest
  | '\\' :: 't' :: rest => '\t' :: unescape rest
  | c :: rest => c :: unescape rest

/-- The letters that mean something behind a backslash. -/
def escapeLetters : List Char := ['n', 't']

/-- A backslash and a letter behind it. -/
def escape (letter : Char) : List Char := ['\\', letter]

/-- What is copied is no backslash that one of the letters stands behind. -/
def Copied (c : Char) (rest : List Char) : Prop :=
  ∀ letter ∈ escapeLetters, ¬escape letter <+: c :: rest

theorem escape_ne_nil (letter : Char) : escape letter ≠ [] := List.cons_ne_nil _ _

theorem escape_prefix_cons_iff :
    escape letter <+: c :: rest ↔ c = '\\' ∧ rest.head? = some letter := by
  rw [escape, List.cons_prefix_cons, List.singleton_prefix_iff_head?_eq_some, eq_comm]

theorem copied_of_not (hfeed : ∀ more, c = '\\' → rest = 'n' :: more → False)
    (htab : ∀ more, c = '\\' → rest = 't' :: more → False) : Copied c rest := by
  intro letter hletter hbegins
  obtain ⟨hc, hhead⟩ := escape_prefix_cons_iff.mp hbegins
  obtain ⟨more, hmore⟩ := List.head?_eq_some_iff.mp hhead
  simp only [escapeLetters, List.mem_cons, List.not_mem_nil, or_false] at hletter
  rcases hletter with rfl | rfl
  · exact hfeed more hc hmore
  · exact htab more hc hmore

/-- A scan puts no letter in front that was not there. -/
theorem head?_unescape (hletter : letter ∈ escapeLetters)
    (h : (unescape cs).head? = some letter) : cs.head? = some letter := by
  have hother : '\n' ∉ escapeLetters ∧ '\t' ∉ escapeLetters := by decide
  fun_cases unescape cs with
  | case1 => exact h
  | case2 rest =>
    rw [unescape, List.head?_cons, Option.some.injEq] at h
    exact absurd (h ▸ hletter) hother.1
  | case3 rest =>
    rw [unescape, List.head?_cons, Option.some.injEq] at h
    exact absurd (h ▸ hletter) hother.2
  | case4 c rest hfeed htab =>
    rw [unescape] at h
    · exact h
    · exact hfeed
    · exact htab

/-- A scan leaves no backslash with one of the letters behind it. -/
theorem not_escape_infix_unescape (hletter : letter ∈ escapeLetters) (cs : List Char) :
    ¬escape letter <:+: unescape cs := by
  fun_induction unescape cs with
  | case1 => exact fun h => escape_ne_nil letter (List.infix_nil.mp h)
  | case2 rest ih | case3 rest ih =>
    rw [List.infix_cons_iff, escape_prefix_cons_iff, not_or]
    exact ⟨fun h => absurd h.1 (by decide), ih⟩
  | case4 c rest hfeed htab ih =>
    rw [List.infix_cons_iff, escape_prefix_cons_iff, not_or]
    refine ⟨fun h => ?_, ih⟩
    exact copied_of_not hfeed htab letter hletter
      (escape_prefix_cons_iff.mpr ⟨h.1, head?_unescape hletter h.2⟩)

/-! ### Two replacements -/

/-- A replaced text begins as the replacement does or as it did before. -/
theorem head?_replaceFrom (hne : replacement ≠ []) (cs : List Char) :
    (replaceFrom pattern replacement 0 cs).head? = replacement.head? ∨
      (replaceFrom pattern replacement 0 cs).head? = cs.head? := by
  rcases cs with _ | ⟨c, rest⟩
  · exact .inr rfl
  rw [replaceFrom]
  split
  · exact .inl (List.head?_append_of_ne_nil _ hne)
  · exact .inr rfl

/-- Replacing the one sequence and then the other comes to one scan. -/
theorem replaceFrom_replaceFrom_eq (cs : List Char) :
    replaceFrom (escape 't') ['\t'] 0 (replaceFrom (escape 'n') ['\n'] 0 cs) = unescape cs := by
  fun_induction unescape cs with
  | case1 => rfl
  | case2 rest ih =>
    -- The feed that comes in is no backslash.
    have hfeed : replaceFrom (escape 'n') ['\n'] 0 ('\\' :: 'n' :: rest) =
        '\n' :: replaceFrom (escape 'n') ['\n'] 0 rest :=
      replaceFrom_append (escape_ne_nil 'n') rest
    have hother : ¬escape 't' <+: '\n' :: replaceFrom (escape 'n') ['\n'] 0 rest := fun h =>
      absurd (escape_prefix_cons_iff.mp h).1 (by decide)
    rw [hfeed, replaceFrom_cons_of_not hother, ih]
  | case3 rest ih =>
    have hbackslash : ¬escape 'n' <+: '\\' :: 't' :: rest := fun h =>
      absurd (escape_prefix_cons_iff.mp h).2 (by simp)
    have hletter : ¬escape 'n' <+: 't' :: rest := fun h =>
      absurd (escape_prefix_cons_iff.mp h).1 (by decide)
    rw [replaceFrom_cons_of_not hbackslash, replaceFrom_cons_of_not hletter, ← ih]
    exact replaceFrom_append (escape_ne_nil 't') _
  | case4 c rest hfeed htab ih =>
    have hcopied := copied_of_not hfeed htab
    have hfirst : ¬escape 'n' <+: c :: rest := hcopied 'n' (by decide)
    have hsecond : ¬escape 't' <+: c :: replaceFrom (escape 'n') ['\n'] 0 rest := by
      rw [escape_prefix_cons_iff]
      rintro ⟨hc, hhead⟩
      -- The letter behind the backslash was put there, or stood there before.
      rcases head?_replaceFrom (List.cons_ne_nil '\n' []) rest with hnew | hold
      · rw [hnew] at hhead
        exact absurd hhead (by decide)
      · rw [hold] at hhead
        exact hcopied 't' (by decide) (escape_prefix_cons_iff.mpr ⟨hc, hhead⟩)
    rw [replaceFrom_cons_of_not hfirst, replaceFrom_cons_of_not hsecond, ih]

end Text

namespace Json

open Text (unescape escape)

theorem unescapeSeparator_eq (s : String) :
    unescapeSeparator s = String.ofList (unescape s.toList) := by
  simp only [unescapeSeparator, Text.replaceAll, String.toList_ofList]
  exact congrArg String.ofList (Text.replaceFrom_replaceFrom_eq s.toList)

/-- A text with neither sequence is a separator as it stands. -/
theorem unescapeSeparator_of_not {s : String} (hfeed : Text.occurs "\\n" s = false)
    (htab : Text.occurs "\\t" s = false) : unescapeSeparator s = s := by
  have hfeed : ¬escape 'n' <:+: s.toList := fun h =>
    Bool.false_ne_true (hfeed.symm.trans (Text.occurs_iff.mpr h))
  have htab : ¬escape 't' <:+: s.toList := fun h =>
    Bool.false_ne_true (htab.symm.trans (Text.occurs_iff.mpr h))
  have hsame : Text.replaceAll "\\n" "\n" s = s :=
    (congrArg String.ofList (Text.replaceFrom_of_not_occurring hfeed)).trans String.ofList_toList
  rw [unescapeSeparator, hsame]
  exact (congrArg String.ofList (Text.replaceFrom_of_not_occurring htab)).trans String.ofList_toList

/-- A separator that is a text is read in one scan from left to right.  What is read holds none of
the sequences that a scan looks for, so that reading it again changes nothing. -/
theorem separator_scanned (s : String) :
    separator (some (.text s)) = String.ofList (unescape s.toList) ∧
    Text.occurs "\\n" (separator (some (.text s))) = false ∧
    Text.occurs "\\t" (separator (some (.text s))) = false ∧
    separator (some (.text (separator (some (.text s))))) = separator (some (.text s)) := by
  have hscan : separator (some (.text s)) = String.ofList (unescape s.toList) :=
    unescapeSeparator_eq s
  have hnone : ∀ letter ∈ Text.escapeLetters,
      ¬escape letter <:+: (separator (some (.text s))).toList := by
    intro letter hletter
    rw [hscan, String.toList_ofList]
    exact Text.not_escape_infix_unescape hletter s.toList
  have hfeed : Text.occurs "\\n" (separator (some (.text s))) = false :=
    Bool.eq_false_iff.mpr fun h => hnone 'n' (by decide) (Text.occurs_iff.mp h)
  have htab : Text.occurs "\\t" (separator (some (.text s))) = false :=
    Bool.eq_false_iff.mpr fun h => hnone 't' (by decide) (Text.occurs_iff.mp h)
  exact ⟨hscan, hfeed, htab, unescapeSeparator_of_not hfeed htab⟩

/-- Runs of backslashes, and letters that come to stand behind a backslash. -/
example : separator (some (.text "\\\\n\\\\\\tt\\n\\")) = "\\\n\\\\\tt\n\\" := by decide +kernel

end Json

end AgentWorkflow
