/-
What a pattern matches.

* `Pattern.Matches` — a pattern matches a part of a text, with the character before it and the text
  behind it.  There is a law for each way to build a pattern.
* `Pattern.First` — the match of a pattern in a text that begins first.
* `Pattern.First.cons_iff` — where no match begins at the head of a text, the first one is that in
  the rest.
* `Pattern.Until` — what stands before the first match.

Design notes: whether a repetition takes as much or as little as it can is a choice between matches
that begin at the same place, and nothing is said about it here.
-/
import AgentWorkflow.Pattern.Basic
import Mathlib.Data.List.Basic

namespace AgentWorkflow.Pattern

open Text (CharSet)

/-- The character before what follows a text, which has such a character before it. -/
def lastOf (before : Option Char) (cs : List Char) : Option Char := cs.getLast?.or before

theorem lastOf_cons (before : Option Char) (c : Char) (cs : List Char) :
    lastOf before (c :: cs) = lastOf (some c) cs := by
  unfold lastOf
  rw [List.getLast?_cons]
  rcases cs.getLast? with _ | last
  · rfl
  · rfl

/-- A pattern matches a text that stands behind a character, if there is one, and before another
text. -/
inductive Matches : Pattern → Option Char → List Char → List Char → Prop
  | empty {before : Option Char} {rest : List Char} : Matches .empty before [] rest
  | chars {set : CharSet} {before : Option Char} {c : Char} {rest : List Char}
    (h : set.contains c = true) : Matches (.chars set) before [c] rest
  | assert {a : Assertion} {before : Option Char} {rest : List Char}
    (h : a.holds ⟨before, rest.head?⟩ = true) : Matches (.assert a) before [] rest
  | seq {p q : Pattern} {before : Option Char} {found more rest : List Char}
    (h : Matches p before found (more ++ rest)) (h' : Matches q (lastOf before found) more rest) :
    Matches (.seq p q) before (found ++ more) rest
  | altFirst {p q : Pattern} {before : Option Char} {found rest : List Char}
    (h : Matches p before found rest) : Matches (.alt p q) before found rest
  | altSecond {p q : Pattern} {before : Option Char} {found rest : List Char}
    (h : Matches q before found rest) : Matches (.alt p q) before found rest
  | starNone {p : Pattern} {before : Option Char} {rest : List Char} :
    Matches (.star p) before [] rest
  | starMore {p : Pattern} {before : Option Char} {found more rest : List Char}
    (h : Matches p before found (more ++ rest))
    (h' : Matches (.star p) (lastOf before found) more rest) :
    Matches (.star p) before (found ++ more) rest

section Laws

variable {p q : Pattern} {set : CharSet} {a : Assertion} {before : Option Char}
  {found rest : List Char}

theorem matches_chars_iff :
    Matches (.chars set) before found rest ↔ ∃ c, found = [c] ∧ set.contains c = true := by
  constructor
  · rintro (_ | ⟨h⟩)
    exact ⟨_, rfl, h⟩
  · rintro ⟨c, rfl, h⟩
    exact .chars h

theorem matches_assert_iff :
    Matches (.assert a) before found rest ↔ found = [] ∧ a.holds ⟨before, rest.head?⟩ = true := by
  constructor
  · rintro (_ | _ | ⟨h⟩)
    exact ⟨rfl, h⟩
  · rintro ⟨rfl, h⟩
    exact .assert h

theorem matches_seq_iff :
    Matches (.seq p q) before found rest ↔ ∃ front back, found = front ++ back ∧
      Matches p before front (back ++ rest) ∧ Matches q (lastOf before front) back rest := by
  constructor
  · rintro (_ | _ | _ | ⟨h, h'⟩)
    exact ⟨_, _, rfl, h, h'⟩
  · rintro ⟨front, back, rfl, h, h'⟩
    exact .seq h h'

/-- A character of a set, and then the rest of a sequence. -/
theorem matches_chars_seq_iff :
    Matches (.seq (.chars set) q) before found rest ↔
      ∃ c back, found = c :: back ∧ set.contains c = true ∧ Matches q (some c) back rest := by
  rw [matches_seq_iff]
  constructor
  · rintro ⟨front, back, rfl, hfront, hback⟩
    obtain ⟨c, rfl, hc⟩ := matches_chars_iff.mp hfront
    exact ⟨c, back, rfl, hc, hback⟩
  · rintro ⟨c, back, rfl, hc, hback⟩
    exact ⟨[c], back, rfl, .chars hc, hback⟩

/-- An assertion, and then the rest of a sequence. -/
theorem matches_assert_seq_iff :
    Matches (.seq (.assert a) q) before found rest ↔
      a.holds ⟨before, (found ++ rest).head?⟩ = true ∧ Matches q before found rest := by
  rw [matches_seq_iff]
  constructor
  · rintro ⟨front, back, rfl, hfront, hback⟩
    obtain ⟨rfl, ha⟩ := matches_assert_iff.mp hfront
    exact ⟨ha, hback⟩
  · rintro ⟨ha, hback⟩
    exact ⟨[], found, rfl, .assert ha, hback⟩

/-- Characters of a set, any number of them. -/
theorem matches_star_chars_iff :
    Matches (.star (.chars set)) before found rest ↔ ∀ c ∈ found, set.contains c = true := by
  constructor
  · intro h
    generalize hp : Pattern.star (.chars set) = p at h
    induction h with
    | empty => cases hp
    | chars => cases hp
    | assert => cases hp
    | seq => cases hp
    | altFirst => cases hp
    | altSecond => cases hp
    | starNone => exact fun c hc => absurd hc List.not_mem_nil
    | starMore h h' ih ih' =>
      cases hp
      obtain ⟨c, rfl, hc⟩ := matches_chars_iff.mp h
      exact List.forall_mem_cons.mpr ⟨hc, ih' rfl⟩
  · intro h
    induction found generalizing before with
    | nil => exact .starNone
    | cons c found ih =>
      obtain ⟨hc, hfound⟩ := List.forall_mem_cons.mp h
      have hone : Matches (.chars set) before [c] (found ++ rest) := .chars hc
      exact hone.starMore (ih hfound)

end Laws

/-! ### The first match -/

/-- A match of a pattern in a text, with what stands before it, that begins before all others. -/
structure First (p : Pattern) (before : Option Char) (cs gap found rest : List Char) : Prop where
  split : cs = gap ++ (found ++ rest)
  holds : Matches p (lastOf before gap) found rest
  first : ∀ gap' found' rest', cs = gap' ++ (found' ++ rest') →
    Matches p (lastOf before gap') found' rest' → gap.length ≤ gap'.length

/-- A pattern matches no part of a text. -/
def Absent (p : Pattern) (before : Option Char) (cs : List Char) : Prop :=
  ∀ gap found rest, cs = gap ++ (found ++ rest) → ¬Matches p (lastOf before gap) found rest

variable {p : Pattern} {before : Option Char} {c : Char} {cs gap found rest : List Char}

/-- A match at the head of a text is the first one. -/
theorem First.of_head (h : Matches p before found rest) :
    First p before (found ++ rest) [] found rest :=
  ⟨rfl, h, fun _ _ _ _ _ => Nat.zero_le _⟩

/-- Where a match begins at the head of a text, the first one does so. -/
theorem First.gap_eq_nil (hhead : ∃ found rest, cs = found ++ rest ∧ Matches p before found rest)
    (h : First p before cs gap found rest) : gap = [] := by
  obtain ⟨found', rest', hsplit, hmatches⟩ := hhead
  exact List.length_eq_zero_iff.mp (Nat.le_zero.mp (h.first [] found' rest' hsplit hmatches))

theorem First.cons_iff
    (hhead : ∀ found rest, c :: cs = found ++ rest → ¬Matches p before found rest) :
    First p before (c :: cs) gap found rest ↔
      ∃ more, gap = c :: more ∧ First p (some c) cs more found rest := by
  constructor
  · intro h
    rcases gap with _ | ⟨g, more⟩
    · exact absurd h.holds (hhead found rest h.split)
    · obtain ⟨rfl, hsplit⟩ := List.cons.inj h.split
      refine ⟨more, rfl, hsplit, lastOf_cons before c more ▸ h.holds,
        fun gap' found' rest' heq hm => ?_⟩
      have hle := h.first (c :: gap') found' rest' (congrArg (c :: ·) heq)
        (lastOf_cons before c gap' ▸ hm)
      exact Nat.le_of_succ_le_succ hle
  · rintro ⟨more, rfl, h⟩
    refine ⟨congrArg (c :: ·) h.split, (lastOf_cons before c more).symm ▸ h.holds,
      fun gap' found' rest' heq hm => ?_⟩
    rcases gap' with _ | ⟨g, gap'⟩
    · exact absurd hm (hhead found' rest' heq)
    · obtain ⟨rfl, hsplit⟩ := List.cons.inj heq
      exact Nat.succ_le_succ (h.first gap' found' rest' hsplit (lastOf_cons before c gap' ▸ hm))

theorem Absent.cons_iff :
    Absent p before (c :: cs) ↔
      (∀ found rest, c :: cs = found ++ rest → ¬Matches p before found rest) ∧
        Absent p (some c) cs := by
  constructor
  · refine fun h => ⟨h [], fun gap found rest heq hm => ?_⟩
    exact h (c :: gap) found rest (congrArg (c :: ·) heq) ((lastOf_cons before c gap).symm ▸ hm)
  · rintro ⟨hhead, h⟩ gap found rest heq hm
    rcases gap with _ | ⟨g, gap⟩
    · exact hhead found rest heq hm
    · obtain ⟨rfl, hsplit⟩ := List.cons.inj heq
      exact h gap found rest hsplit (lastOf_cons before c gap ▸ hm)

/-- Where no match begins at the head of a text, what follows the first one follows that in the
rest. -/
theorem exists_first_cons_iff
    (hhead : ∀ found rest, c :: cs = found ++ rest → ¬Matches p before found rest) :
    (∃ gap found, First p before (c :: cs) gap found rest) ↔
      ∃ gap found, First p (some c) cs gap found rest := by
  constructor
  · rintro ⟨gap, found, h⟩
    obtain ⟨more, -, h⟩ := (First.cons_iff hhead).mp h
    exact ⟨more, found, h⟩
  · rintro ⟨gap, found, h⟩
    exact ⟨c :: gap, found, (First.cons_iff hhead).mpr ⟨gap, rfl, h⟩⟩

/-- What stands before the first match of a pattern in a text, and all of it when there is no
match. -/
def Until (p : Pattern) (before : Option Char) (cs body : List Char) : Prop :=
  (∃ found rest, First p before cs body found rest) ∨ Absent p before cs ∧ body = cs

/-- Nothing stands before a match at the head. -/
theorem until_head_iff {body : List Char}
    (hhead : ∃ found rest, cs = found ++ rest ∧ Matches p before found rest) :
    Until p before cs body ↔ body = [] := by
  constructor
  · rintro (⟨found, rest, h⟩ | ⟨habsent, -⟩)
    · exact h.gap_eq_nil hhead
    · obtain ⟨found, rest, hsplit, hmatches⟩ := hhead
      exact absurd hmatches (habsent [] found rest hsplit)
  · rintro rfl
    obtain ⟨found, rest, rfl, hmatches⟩ := hhead
    exact .inl ⟨found, rest, .of_head hmatches⟩

theorem until_cons_iff {body : List Char}
    (hhead : ∀ found rest, c :: cs = found ++ rest → ¬Matches p before found rest) :
    Until p before (c :: cs) body ↔ ∃ more, body = c :: more ∧ Until p (some c) cs more := by
  unfold Until
  simp only [First.cons_iff hhead, Absent.cons_iff, and_iff_right hhead]
  constructor
  · rintro (⟨found, rest, more, rfl, h⟩ | ⟨habsent, rfl⟩)
    · exact ⟨more, rfl, .inl ⟨found, rest, h⟩⟩
    · exact ⟨cs, rfl, .inr ⟨habsent, rfl⟩⟩
  · rintro ⟨more, rfl, ⟨found, rest, h⟩ | ⟨habsent, rfl⟩⟩
    · exact .inl ⟨found, rest, more, rfl, h⟩
    · exact .inr ⟨habsent, rfl⟩

end AgentWorkflow.Pattern
