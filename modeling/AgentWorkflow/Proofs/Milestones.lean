/-
The milestone of a roadmap, line by line.

* `Text.infix_line_iff` — what holds no line feed occurs in a text when it occurs in a line.
* `Roadmap.NamesMilestone`, `Roadmap.IsHeading` — the lines that a section begins with and ends
  before.
* `Roadmap.HasSection` — how lines divide into those before the heading of the milestone, the
  heading, those of its section and those from the next heading on.
* `Roadmap.section?_eq` — the section that is found is that of the lines.
* `Roadmap.mvpReached_iff` — the milestone is reached exactly when the lines of its section say so.

Design notes: the search goes by characters and knows where a line starts, so its laws are stated
of texts that begin with a line feed and are the lines with a feed before each of them.
-/
import AgentWorkflow.Proofs.FilePaths
import AgentWorkflow.Proofs.PatternMatches
import AgentWorkflow.Proofs.Replacements
import AgentWorkflow.Roadmap.Milestone

namespace AgentWorkflow

/-! ### Lines -/

namespace Text

variable {pattern cs tail : List Char}

/-- What follows a line: nothing, or a line feed. -/
def EndsLine (tail : List Char) : Prop := ∀ c ∈ tail.head?, c = '\n'

theorem endsLine_flatMap (lines : List (List Char)) :
    EndsLine (lines.flatMap fun line => '\n' :: line) := by
  rcases lines with _ | ⟨line, more⟩
  · exact fun _ h => absurd h (by simp)
  · exact fun c h => (Option.some.inj h).symm

/-- What holds no line feed begins a text when it begins its first line. -/
theorem prefix_line_iff (hpattern : '\n' ∉ pattern) (htail : EndsLine tail) :
    pattern <+: cs ++ tail ↔ pattern <+: cs := by
  induction pattern generalizing cs with
  | nil => exact iff_of_true List.nil_prefix List.nil_prefix
  | cons p pattern ih =>
    obtain ⟨hp, hpattern⟩ := not_or.mp (List.mem_cons.not.mp hpattern)
    rcases cs with _ | ⟨c, cs⟩
    · rcases tail with _ | ⟨t, tail⟩
      · exact Iff.rfl
      · refine iff_of_false (fun h => ?_) (by simp)
        exact hp ((List.cons_prefix_cons.mp h).1.trans (htail t rfl)).symm
    · rw [List.cons_append, List.cons_prefix_cons, List.cons_prefix_cons, ih hpattern]

/-- What holds no line feed occurs in a text when it occurs in its first line or behind it. -/
theorem infix_line_append_iff (hpattern : '\n' ∉ pattern) (htail : EndsLine tail) :
    pattern <:+: cs ++ tail ↔ pattern <:+: cs ∨ pattern <:+: tail := by
  induction cs with
  | nil =>
    refine ⟨.inr, fun h => h.elim (fun hnil => ?_) id⟩
    rw [List.infix_nil] at hnil
    exact hnil ▸ List.nil_infix
  | cons c cs ih =>
    rw [List.cons_append, List.infix_cons_iff, ih, List.infix_cons_iff, ← List.cons_append,
      prefix_line_iff hpattern htail, or_assoc]

/-- What holds no line feed, and is not empty, occurs in a text when it occurs in one of its
lines. -/
theorem infix_line_iff (hpattern : '\n' ∉ pattern) (hne : pattern ≠ []) (lines : List (List Char)) :
    pattern <:+: (lines.flatMap fun line => '\n' :: line) ↔ ∃ line ∈ lines, pattern <:+: line := by
  induction lines with
  | nil => simpa using hne
  | cons line more ih =>
    have hnot : ¬pattern <+: '\n' :: (line ++ more.flatMap fun line => '\n' :: line) := by
      rcases pattern with _ | ⟨p, pattern⟩
      · exact absurd rfl hne
      · exact fun h => hpattern ((List.cons_prefix_cons.mp h).1 ▸ List.mem_cons_self)
    rw [List.flatMap_cons, List.cons_append, List.infix_cons_iff, or_iff_right hnot,
      infix_line_append_iff hpattern (endsLine_flatMap more), ih, List.exists_mem_cons_iff]

end Text

/-! ### Headings -/

namespace Roadmap

open Text (EndsLine endsLine_flatMap)

variable {line tail body : List Char} {lines : List (List Char)}

/-- A heading of level two. -/
def IsHeading (line : List Char) : Prop := headingMark <+: line

instance (line : List Char) : Decidable (IsHeading line) :=
  inferInstanceAs (Decidable (headingMark <+: line))

/-- A heading of level two that names the milestone behind its mark, in letters of any case. -/
def NamesMilestone (line : List Char) : Prop :=
  ∃ before name after, line = headingMark ++ (before ++ name ++ after) ∧
    name.map Char.toLower = milestoneName

theorem NamesMilestone.isHeading (h : NamesMilestone line) : IsHeading line := by
  obtain ⟨before, name, after, rfl, -⟩ := h
  exact List.prefix_append _ _

/-- The name of the milestone occurs in letters of any case. -/
theorem infix_map_toLower_iff {title : List Char} :
    milestoneName <:+: title.map Char.toLower ↔
      ∃ before name after, title = before ++ name ++ after ∧
        name.map Char.toLower = milestoneName := by
  constructor
  · rintro ⟨before, after, h⟩
    obtain ⟨front, after', rfl, hfront, rfl⟩ := List.map_eq_append_iff.mp h.symm
    obtain ⟨before', name, rfl, rfl, hname⟩ := List.map_eq_append_iff.mp hfront
    exact ⟨before', name, after', rfl, hname⟩
  · rintro ⟨before, name, after, rfl, hname⟩
    rw [List.map_append, List.map_append, hname]
    exact List.infix_append _ _ _

theorem lineRest_append (hline : '\n' ∉ line) (htail : EndsLine tail) :
    lineRest (line ++ tail) = line := by
  have hall : ∀ c ∈ line, decide (c ≠ '\n') = true := fun c hc =>
    decide_eq_true fun heq => hline (heq ▸ hc)
  unfold lineRest
  rw [List.takeWhile_append_of_pos hall]
  rcases tail with _ | ⟨t, tail⟩
  · exact List.append_nil line
  · rw [htail t rfl]
    exact List.append_nil line

/-- What is looked at where a line starts does not go beyond that line. -/
theorem isMilestoneHeading_append (hline : '\n' ∉ line) (htail : EndsLine tail) :
    isMilestoneHeading (line ++ tail) = true ↔ NamesMilestone line := by
  have htitle : ∀ title, line = headingMark ++ title →
      lineRest ((line ++ tail).drop headingMark.length) = title := by
    rintro title rfl
    rw [List.append_assoc, List.drop_left]
    exact lineRest_append (fun h => hline (List.mem_append_right _ h)) htail
  unfold isMilestoneHeading
  rw [Bool.and_eq_true, List.isPrefixOf_iff_prefix, Text.prefix_line_iff (by decide) htail,
    Text.occursIn_iff, infix_map_toLower_iff]
  constructor
  · rintro ⟨⟨title, rfl⟩, before, name, after, hsplit, hname⟩
    rw [htitle title rfl] at hsplit
    exact ⟨before, name, after, by rw [hsplit], hname⟩
  · rintro ⟨before, name, after, rfl, hname⟩
    exact ⟨List.prefix_append _ _, before, name, after, htitle _ rfl, hname⟩

/-! ### The section -/

/-- Where the heading of the milestone does not start, the search goes on to the next line. -/
theorem afterHeading_skip (hline : '\n' ∉ line) (tail : List Char) :
    afterHeading false (line ++ tail) = afterHeading false tail := by
  induction line with
  | nil => rfl
  | cons c line ih =>
    obtain ⟨hc, hline⟩ := not_or.mp (List.mem_cons.not.mp hline)
    have hfeed : decide (c = '\n') = false := decide_eq_false (Ne.symm hc)
    rw [List.cons_append, afterHeading, Bool.false_and, if_neg Bool.false_ne_true, hfeed, ih hline]

theorem upToHeading_skip (hline : '\n' ∉ line) (tail : List Char) :
    upToHeading false (line ++ tail) = line ++ upToHeading false tail := by
  induction line with
  | nil => rfl
  | cons c line ih =>
    obtain ⟨hc, hline⟩ := not_or.mp (List.mem_cons.not.mp hline)
    have hfeed : decide (c = '\n') = false := decide_eq_false (Ne.symm hc)
    rw [List.cons_append, upToHeading, Bool.false_and, if_neg Bool.false_ne_true, hfeed, ih hline]
    rfl

/-- Before a line feed it makes no difference whether a line starts. -/
theorem afterHeading_of_endsLine (lineStart : Bool) (htail : EndsLine tail) :
    afterHeading lineStart tail = afterHeading false tail := by
  rcases tail with _ | ⟨t, tail⟩
  · cases lineStart <;> rfl
  · rw [htail t rfl, afterHeading, afterHeading, show isMilestoneHeading ('\n' :: tail) = false
      from rfl, Bool.and_false, Bool.and_false]

theorem upToHeading_of_endsLine (lineStart : Bool) (htail : EndsLine tail) :
    upToHeading lineStart tail = upToHeading false tail := by
  rcases tail with _ | ⟨t, tail⟩
  · cases lineStart <;> rfl
  · rw [htail t rfl, upToHeading, upToHeading, show headingMark.isPrefixOf ('\n' :: tail) = false
      from rfl, Bool.and_false, Bool.and_false]

theorem dropWhile_line (hline : '\n' ∉ line) (htail : EndsLine tail) :
    (line ++ tail).dropWhile (· ≠ '\n') = tail := by
  have hall : ∀ c ∈ line, decide (c ≠ '\n') = true := fun c hc =>
    decide_eq_true fun heq => hline (heq ▸ hc)
  rw [List.dropWhile_append_of_pos hall]
  rcases tail with _ | ⟨t, tail⟩
  · rfl
  · rw [htail t rfl]
    rfl

/-- The search for the heading of the milestone ends at the first line that names it. -/
theorem afterHeading_of_names (hline : '\n' ∉ line) (htail : EndsLine tail)
    (hnames : NamesMilestone line) : afterHeading true (line ++ tail) = some tail := by
  have hheading := (isMilestoneHeading_append hline htail).mpr hnames
  have hdrop := dropWhile_line hline htail
  obtain ⟨before, name, after, rfl, -⟩ := hnames
  rw [show headingMark ++ (before ++ name ++ after) ++ tail =
    '#' :: ('#' :: ' ' :: (before ++ name ++ after) ++ tail) from rfl] at hheading hdrop ⊢
  rw [afterHeading, hheading, if_pos (by rfl), hdrop]

theorem afterHeading_of_not_names (hline : '\n' ∉ line) (htail : EndsLine tail)
    (hnames : ¬NamesMilestone line) :
    afterHeading true (line ++ tail) = afterHeading false tail := by
  rcases line with _ | ⟨c, line⟩
  · exact afterHeading_of_endsLine true htail
  · have hheading := (isMilestoneHeading_append hline htail).not.mpr hnames
    obtain ⟨hc, hrest⟩ := not_or.mp (List.mem_cons.not.mp hline)
    rw [List.cons_append] at hheading ⊢
    rw [afterHeading, Bool.eq_false_iff.mpr hheading, Bool.and_false, if_neg Bool.false_ne_true,
      decide_eq_false (Ne.symm hc), afterHeading_skip hrest]

theorem upToHeading_of_heading (hheading : IsHeading line) :
    upToHeading true (line ++ tail) = [] := by
  obtain ⟨title, rfl⟩ := hheading
  rfl

theorem upToHeading_of_not_heading (hline : '\n' ∉ line) (htail : EndsLine tail)
    (hheading : ¬IsHeading line) :
    upToHeading true (line ++ tail) = line ++ upToHeading false tail := by
  rcases line with _ | ⟨c, line⟩
  · exact upToHeading_of_endsLine true htail
  · have hmark : ¬headingMark <+: c :: line ++ tail :=
      (Text.prefix_line_iff (by decide) htail).not.mpr hheading
    obtain ⟨hc, hrest⟩ := not_or.mp (List.mem_cons.not.mp hline)
    rw [List.cons_append] at hmark ⊢
    rw [upToHeading, Bool.true_and, if_neg (List.isPrefixOf_iff_prefix.not.mpr hmark),
      decide_eq_false (Ne.symm hc), upToHeading_skip hrest]
    rfl

/-- The lines of a roadmap, each behind a line feed. -/
def feed (lines : List (List Char)) : List Char := lines.flatMap fun line => '\n' :: line

theorem feed_cons (line : List Char) (lines : List (List Char)) :
    feed (line :: lines) = '\n' :: (line ++ feed lines) := rfl

theorem endsLine_feed (lines : List (List Char)) : EndsLine (feed lines) := endsLine_flatMap lines

theorem afterHeading_feed (lineStart : Bool) (cs : List Char) :
    afterHeading lineStart ('\n' :: cs) = afterHeading true cs := by
  rw [afterHeading, show isMilestoneHeading ('\n' :: cs) = false from rfl, Bool.and_false,
    if_neg Bool.false_ne_true]
  rfl

theorem upToHeading_feed (lineStart : Bool) (cs : List Char) :
    upToHeading lineStart ('\n' :: cs) = '\n' :: upToHeading true cs := by
  rw [upToHeading, show headingMark.isPrefixOf ('\n' :: cs) = false from rfl, Bool.and_false,
    if_neg Bool.false_ne_true]
  rfl

/-- How the lines of a roadmap divide when one of them names the milestone: the first that does so
is the heading, and the section goes on to the next heading or to the end. -/
structure HasSection (lines before : List (List Char)) (heading : List Char)
    (inner rest : List (List Char)) : Prop where
  lines_eq : lines = before ++ heading :: (inner ++ rest)
  first : ∀ line ∈ before, ¬NamesMilestone line
  names : NamesMilestone heading
  inside : ∀ line ∈ inner, ¬IsHeading line
  next : ∀ line ∈ rest.head?, IsHeading line

/-- Lines are divided before the first one of a kind, if there is one. -/
theorem exists_first (p : List Char → Prop) (lines : List (List Char)) :
    ∃ before rest, lines = before ++ rest ∧ (∀ line ∈ before, ¬p line) ∧
      ∀ line ∈ rest.head?, p line := by
  induction lines with
  | nil => exact ⟨[], [], rfl, by simp, by simp⟩
  | cons line more ih =>
    by_cases hp : p line
    · exact ⟨[], line :: more, rfl, by simp, by simpa using hp⟩
    · obtain ⟨before, rest, rfl, hbefore, hrest⟩ := ih
      exact ⟨line :: before, rest, rfl, List.forall_mem_cons.mpr ⟨hp, hbefore⟩, hrest⟩

theorem exists_hasSection {line : List Char} (hline : line ∈ lines) (hnames : NamesMilestone line) :
    ∃ before heading inner rest, HasSection lines before heading inner rest := by
  obtain ⟨before, found, rfl, hbefore, hfound⟩ := exists_first NamesMilestone lines
  rcases found with _ | ⟨heading, more⟩
  · rw [List.append_nil] at hline
    exact absurd hnames (hbefore line hline)
  · obtain ⟨inner, rest, rfl, hinner, hrest⟩ := exists_first IsHeading more
    exact ⟨before, heading, inner, rest, rfl, hbefore, hfound heading rfl, hinner, hrest⟩

theorem afterHeading_lines {before : List (List Char)} (hbefore : ∀ line ∈ before, '\n' ∉ line)
    (hfirst : ∀ line ∈ before, ¬NamesMilestone line) (lineStart : Bool)
    (rest : List (List Char)) :
    afterHeading lineStart (feed (before ++ rest)) = afterHeading false (feed rest) := by
  induction before generalizing lineStart with
  | nil => exact afterHeading_of_endsLine lineStart (endsLine_feed rest)
  | cons line before ih =>
    obtain ⟨hline, hbefore⟩ := List.forall_mem_cons.mp hbefore
    obtain ⟨hnames, hfirst⟩ := List.forall_mem_cons.mp hfirst
    rw [List.cons_append, feed_cons, afterHeading_feed,
      afterHeading_of_not_names hline (endsLine_feed _) hnames, ih hbefore hfirst]

/-- A section is made up of its lines, and of the feed before the heading that follows, if one
does. -/
theorem upToHeading_lines {inner rest : List (List Char)} (hlines : ∀ line ∈ inner, '\n' ∉ line)
    (hinside : ∀ line ∈ inner, ¬IsHeading line) (hnext : ∀ line ∈ rest.head?, IsHeading line)
    (lineStart : Bool) :
    upToHeading lineStart (feed (inner ++ rest)) =
      feed (inner ++ if rest.isEmpty then [] else [[]]) := by
  induction inner generalizing lineStart with
  | nil =>
    rcases rest with _ | ⟨heading, rest⟩
    · cases lineStart <;> rfl
    · rw [List.nil_append, feed_cons, upToHeading_feed,
        upToHeading_of_heading (hnext heading rfl)]
      rfl
  | cons line inner ih =>
    obtain ⟨hline, hlines⟩ := List.forall_mem_cons.mp hlines
    obtain ⟨hheading, hinside⟩ := List.forall_mem_cons.mp hinside
    rw [List.cons_append, feed_cons, upToHeading_feed,
      upToHeading_of_not_heading hline (endsLine_feed _) hheading, ih hlines hinside]
    rfl

theorem section?_eq_none {cs : List Char}
    (h : ∀ line ∈ Text.cutAt '\n' cs, ¬NamesMilestone line) : section? cs = none := by
  have hsearch := afterHeading_lines (fun _ => Text.not_mem_of_mem_cutAt) h false []
  rw [List.append_nil, feed, Text.flatMap_cutAt, afterHeading_feed] at hsearch
  rw [section?, hsearch]
  rfl

theorem HasSection.section?_eq {cs heading : List Char} {before inner rest : List (List Char)}
    (h : HasSection (Text.cutAt '\n' cs) before heading inner rest) : section? cs =
      some (feed (inner ++ if rest.isEmpty then [] else [[]])) := by
  have hfree : ∀ line ∈ before ++ heading :: (inner ++ rest), '\n' ∉ line := by
    rw [← h.lines_eq]
    exact fun _ => Text.not_mem_of_mem_cutAt
  have hsearch := afterHeading_lines (fun l hl => hfree l (List.mem_append_left _ hl)) h.first false
    (heading :: (inner ++ rest))
  rw [← h.lines_eq, feed, Text.flatMap_cutAt, afterHeading_feed, feed_cons, afterHeading_feed,
    afterHeading_of_names (hfree heading (by simp)) (endsLine_feed _) h.names] at hsearch
  rw [section?, hsearch, Option.map_some,
    upToHeading_lines (fun l hl => hfree l (by simp [hl])) h.inside h.next]

/-! ### Items -/

/-- What is marked in the lines of a section. -/
theorem occursIn_feed {mark : List Char} (hmark : '\n' ∉ mark) (hne : mark ≠ [])
    (inner : List (List Char)) (more : Bool) :
    Text.occursIn mark (feed (inner ++ if more then [] else [[]])) = true ↔
      ∃ line ∈ inner, mark <:+: line := by
  rw [Text.occursIn_iff, feed, Text.infix_line_iff hmark hne]
  cases more
  · simp [hne]
  · simp

/-- The lines of a section say that the milestone is reached: an item is checked, and none is
unchecked. -/
def Reached (inner : List (List Char)) : Prop :=
  (∃ line ∈ inner, ['[', 'x', ']'] <:+: line ∨ ['[', 'X', ']'] <:+: line) ∧
    ∀ line ∈ inner, ¬['[', ' ', ']'] <:+: line

theorem HasSection.reached_iff {roadmap : String} {heading : List Char}
    {before inner rest : List (List Char)}
    (h : HasSection (Text.cutAt '\n' roadmap.toList) before heading inner rest) :
    mvpReached roadmap = true ↔ Reached inner := by
  rw [mvpReached, h.section?_eq]
  simp only [Bool.and_eq_true, Bool.not_eq_true', checkedMarks, List.any_cons, List.any_nil,
    Bool.or_false, Bool.or_eq_true]
  rw [occursIn_feed (by decide) (by decide), occursIn_feed (by decide) (by decide),
    ← Bool.not_eq_true, occursIn_feed (by decide) (by decide), and_comm, Reached]
  refine and_congr ?_ ?_
  · rw [← exists_or]
    simp only [← and_or_left]
  · simp only [not_exists, not_and]
    rfl

/-! ### The patterns -/

/-- Any characters of a line. -/
def ofLine : Pattern := .star (.chars (Text.CharSet.complement (Text.CharSet.single '\n')))

/-- A letter in both cases. -/
def bothCases (upper lower : Char) : Pattern :=
  .chars [(upper.toNat, upper.toNat), (lower.toNat, lower.toNat)]

/-- The heading of the milestone, written "(?mi)^## .*?\(MVP\).*?$". -/
def headingPattern : Pattern :=
  .seqAll [.assert .lineStart, .char '#', .char '#', .char ' ', ofLine, .char '(',
    bothCases 'M' 'm', bothCases 'V' 'v', bothCases 'P' 'p', .char ')', ofLine, .assert .lineEnd]

/-- The heading after that, written "(?m)^## ". -/
def nextPattern : Pattern :=
  .seqAll [.assert .lineStart, .char '#', .char '#', .char ' ']

/-- A line starts behind a character, or where there is none. -/
def StartsLine (before : Option Char) : Prop := before = none ∨ before = some '\n'

theorem holds_lineStart {before after : Option Char} :
    Pattern.Assertion.holds ⟨before, after⟩ .lineStart = true ↔ StartsLine before := by
  simp [Pattern.Assertion.holds, StartsLine]

theorem holds_lineEnd {before : Option Char} {rest : List Char} :
    Pattern.Assertion.holds ⟨before, rest.head?⟩ .lineEnd = true ↔ EndsLine rest := by
  rcases rest with _ | ⟨c, rest⟩
  · simp [Pattern.Assertion.holds, EndsLine]
  · simp [Pattern.Assertion.holds, EndsLine]

theorem contains_single_iff {c d : Char} :
    (Text.CharSet.single d).contains c = true ↔ c = d := by
  rw [← Char.toNat_inj]
  simp only [Text.CharSet.contains, Text.CharSet.has, Text.CharSet.single, List.any_cons,
    List.any_nil, Bool.or_false, Bool.and_eq_true, decide_eq_true_eq]
  omega

theorem contains_ofLine_iff {c : Char} :
    (Text.CharSet.complement (Text.CharSet.single '\n')).contains c = true ↔ c ≠ '\n' := by
  have hset : Text.CharSet.complement (Text.CharSet.single '\n') = [(0, 9), (11, 0x10FFFF)] := by
    decide
  have hvalid : c.toNat ≤ 0x10FFFF := by
    have hnat : c.val.toNat < 0xD800 ∨ 0xDFFF < c.val.toNat ∧ c.val.toNat < 0x110000 := c.valid
    have heq : c.val.toNat = c.toNat := rfl
    omega
  rw [hset, ne_eq, ← Char.toNat_inj, show '\n'.toNat = 10 from rfl]
  simp only [Text.CharSet.contains, Text.CharSet.has, List.any_cons, List.any_nil, Bool.or_false,
    Bool.or_eq_true, Bool.and_eq_true, decide_eq_true_eq]
  omega

theorem toNat_toLower (c : Char) :
    c.toLower.toNat = if 65 ≤ c.toNat ∧ c.toNat ≤ 90 then c.toNat + 32 else c.toNat := by
  have hiff : (c.val ≥ 'A'.val ∧ c.val ≤ 'Z'.val) ↔ 65 ≤ c.toNat ∧ c.toNat ≤ 90 := Iff.rfl
  unfold Char.toLower
  split
  · next h =>
    rw [if_pos (hiff.mp h)]
    show (c.val + 32).toNat = c.val.toNat + 32
    have hle : c.val.toNat ≤ 90 := (hiff.mp h).2
    rw [UInt32.toNat_add]
    exact Nat.mod_eq_of_lt (by show c.val.toNat + 32 < 2 ^ 32; omega)
  · next h => rw [if_neg (hiff.not.mp h)]

/-- A letter in both cases is one that is the lower one when it is lowered. -/
theorem contains_bothCases_iff (upper lower c : Char) (hupper : upper.toNat + 32 = lower.toNat)
    (hletter : 65 ≤ upper.toNat ∧ upper.toNat ≤ 90) :
    Text.CharSet.contains [(upper.toNat, upper.toNat), (lower.toNat, lower.toNat)] c = true ↔
      c.toLower = lower := by
  rw [← Char.toNat_inj, toNat_toLower]
  simp only [Text.CharSet.contains, Text.CharSet.has, List.any_cons, List.any_nil, Bool.or_false,
    Bool.or_eq_true, Bool.and_eq_true, decide_eq_true_eq]
  split
  · omega
  · omega

/-- What comes before the letters is no letter that is lowered. -/
theorem eq_iff_toLower_eq {c d : Char} (hd : d.toNat < 65) : c = d ↔ c.toLower = d := by
  rw [← Char.toNat_inj, ← Char.toNat_inj, toNat_toLower]
  split
  · omega
  · omega

/-- The name of the milestone in letters of any case, character by character. -/
theorem map_toLower_eq_name_iff {name : List Char} :
    name.map Char.toLower = milestoneName ↔
      ∃ m v p : Char, name = ['(', m, v, p, ')'] ∧ m.toLower = 'm' ∧ v.toLower = 'v' ∧
        p.toLower = 'p' := by
  constructor
  · intro h
    rcases name with _ | ⟨a, _ | ⟨m, _ | ⟨v, _ | ⟨p, _ | ⟨b, _ | ⟨c, more⟩⟩⟩⟩⟩⟩ <;>
      simp only [List.map_cons, List.map_nil, milestoneName, List.cons.injEq, reduceCtorEq,
        and_false, and_true] at h
    obtain ⟨ha, hm, hv, hp, hb⟩ := h
    rw [← eq_iff_toLower_eq (by decide)] at ha hb
    exact ⟨m, v, p, by rw [ha, hb], hm, hv, hp⟩
  · rintro ⟨m, v, p, rfl, hm, hv, hp⟩
    simp only [List.map_cons, List.map_nil, hm, hv, hp]
    rfl

variable {before : Option Char} {found rest : List Char}

theorem matches_ofLine_iff : Pattern.Matches ofLine before found rest ↔ '\n' ∉ found := by
  rw [ofLine, Pattern.matches_star_chars_iff]
  simp only [contains_ofLine_iff]
  exact ⟨fun h hmem => h _ hmem rfl, fun h c hc heq => h (heq ▸ hc)⟩

theorem matches_mark_iff {q : Pattern} :
    Pattern.Matches (.seq (.char '#') (.seq (.char '#') (.seq (.char ' ') q))) before found rest ↔
      ∃ title, found = headingMark ++ title ∧ Pattern.Matches q (some ' ') title rest := by
  simp only [Pattern.char, Pattern.matches_chars_seq_iff, contains_single_iff]
  constructor
  · rintro ⟨_, _, rfl, rfl, _, _, rfl, rfl, _, title, rfl, rfl, h⟩
    exact ⟨title, rfl, h⟩
  · rintro ⟨title, rfl, h⟩
    exact ⟨_, _, rfl, rfl, _, _, rfl, rfl, _, title, rfl, rfl, h⟩

theorem matches_name_iff {q : Pattern} :
    Pattern.Matches (.seq (.char '(') (.seq (bothCases 'M' 'm') (.seq (bothCases 'V' 'v')
      (.seq (bothCases 'P' 'p') (.seq (.char ')') q))))) before found rest ↔
      ∃ name back, found = name ++ back ∧ name.map Char.toLower = milestoneName ∧
        Pattern.Matches q (some ')') back rest := by
  have hm := fun c => contains_bothCases_iff 'M' 'm' c rfl (by decide)
  have hv := fun c => contains_bothCases_iff 'V' 'v' c rfl (by decide)
  have hp := fun c => contains_bothCases_iff 'P' 'p' c rfl (by decide)
  simp only [Pattern.char, bothCases, Pattern.matches_chars_seq_iff, contains_single_iff, hm, hv,
    hp, map_toLower_eq_name_iff]
  constructor
  · rintro ⟨_, _, rfl, rfl, m, _, rfl, hm, v, _, rfl, hv, p, _, rfl, hp, _, back, rfl, rfl, h⟩
    exact ⟨_, back, rfl, ⟨m, v, p, rfl, hm, hv, hp⟩, h⟩
  · rintro ⟨_, back, rfl, ⟨m, v, p, rfl, hm, hv, hp⟩, h⟩
    exact ⟨_, _, rfl, rfl, m, _, rfl, hm, v, _, rfl, hv, p, _, rfl, hp, _, back, rfl, rfl, h⟩

theorem matches_lineEnd_iff :
    Pattern.Matches (.seq ofLine (.assert .lineEnd)) before found rest ↔
      '\n' ∉ found ∧ EndsLine rest := by
  rw [Pattern.matches_seq_iff]
  constructor
  · rintro ⟨front, back, rfl, hfront, hback⟩
    obtain ⟨rfl, hend⟩ := Pattern.matches_assert_iff.mp hback
    rw [List.append_nil]
    exact ⟨matches_ofLine_iff.mp hfront, holds_lineEnd.mp hend⟩
  · rintro ⟨hfound, hend⟩
    exact ⟨found, [], (List.append_nil found).symm, matches_ofLine_iff.mpr hfound,
      .assert (holds_lineEnd.mpr hend)⟩

/-- The heading of the milestone is a whole line. -/
theorem matches_headingPattern_iff :
    Pattern.Matches headingPattern before found rest ↔
      StartsLine before ∧ '\n' ∉ found ∧ EndsLine rest ∧ NamesMilestone found := by
  show Pattern.Matches (.seq (.assert .lineStart) (.seq (.char '#') (.seq (.char '#')
    (.seq (.char ' ') (.seq ofLine (.seq (.char '(') (.seq (bothCases 'M' 'm')
      (.seq (bothCases 'V' 'v') (.seq (bothCases 'P' 'p') (.seq (.char ')')
        (.seq ofLine (.assert .lineEnd)))))))))))) before found rest ↔ _
  rw [Pattern.matches_assert_seq_iff, holds_lineStart, matches_mark_iff]
  refine and_congr_right fun _ => ?_
  constructor
  · rintro ⟨title, rfl, h⟩
    obtain ⟨front, _, rfl, hfront, h⟩ := Pattern.matches_seq_iff.mp h
    obtain ⟨name, back, rfl, hname, h⟩ := matches_name_iff.mp h
    obtain ⟨hback, hend⟩ := matches_lineEnd_iff.mp h
    have hfree : '\n' ∉ name := by
      intro hmem
      have hfeed : '\n'.toLower ∈ milestoneName := hname ▸ List.mem_map_of_mem hmem
      exact absurd hfeed (by decide)
    refine ⟨?_, hend, front, name, back, by rw [List.append_assoc], hname⟩
    simp only [List.mem_append, not_or]
    exact ⟨by decide, matches_ofLine_iff.mp hfront, hfree, hback⟩
  · rintro ⟨hfree, hend, front, name, back, rfl, hname⟩
    simp only [List.mem_append, not_or] at hfree
    obtain ⟨-, ⟨hfront, -⟩, hback⟩ := hfree
    refine ⟨_, rfl, Pattern.matches_seq_iff.mpr ⟨front, name ++ back, List.append_assoc _ _ _,
      matches_ofLine_iff.mpr hfront, matches_name_iff.mpr ⟨name, back, rfl, hname,
        matches_lineEnd_iff.mpr ⟨hback, hend⟩⟩⟩⟩

theorem matches_nextPattern_iff :
    Pattern.Matches nextPattern before found rest ↔ StartsLine before ∧ found = headingMark := by
  show Pattern.Matches (.seq (.assert .lineStart) (.seq (.char '#') (.seq (.char '#')
    (.char ' ')))) before found rest ↔ _
  rw [Pattern.matches_assert_seq_iff, holds_lineStart]
  refine and_congr_right fun _ => ?_
  simp only [Pattern.char, Pattern.matches_chars_seq_iff, Pattern.matches_chars_iff,
    contains_single_iff]
  constructor
  · rintro ⟨_, _, rfl, rfl, _, _, rfl, rfl, _, rfl, rfl⟩
    rfl
  · rintro rfl
    exact ⟨_, _, rfl, rfl, _, _, rfl, rfl, _, rfl, rfl⟩

/-- A text divides into its first line and what ends the line. -/
theorem exists_line (cs : List Char) :
    ∃ line tail, cs = line ++ tail ∧ '\n' ∉ line ∧ EndsLine tail := by
  obtain ⟨line, more, h⟩ := List.exists_cons_of_ne_nil (Text.cutAt_ne_nil '\n' cs)
  have hfeed := Text.flatMap_cutAt '\n' cs
  rw [h, List.flatMap_cons] at hfeed
  exact ⟨line, _, (List.cons.inj hfeed).2.symm, Text.not_mem_of_mem_cutAt (h ▸ List.mem_cons_self),
    endsLine_flatMap more⟩

/-- A heading of the milestone is matched as a whole, and is the first match in what it begins. -/
theorem exists_first_heading_iff {before : Option Char} (hbefore : StartsLine before)
    {line tail after : List Char} (hfree : '\n' ∉ line) (hend : EndsLine tail)
    (hnames : NamesMilestone line) :
    (∃ gap found, Pattern.First headingPattern before (line ++ tail) gap found after) ↔
      tail = after := by
  have hmatches : Pattern.Matches headingPattern before line tail :=
    matches_headingPattern_iff.mpr ⟨hbefore, hfree, hend, hnames⟩
  constructor
  · rintro ⟨gap, found, h⟩
    obtain rfl := h.gap_eq_nil ⟨line, tail, rfl, hmatches⟩
    obtain ⟨-, hfound, hafter, -⟩ := matches_headingPattern_iff.mp h.holds
    rw [← dropWhile_line hfree hend, ← dropWhile_line hfound hafter]
    exact congrArg _ h.split
  · rintro rfl
    exact ⟨[], line, .of_head hmatches⟩

/-- The search finds what follows the first match of the heading. -/
theorem afterHeading_eq_some_iff {lineStart : Bool} {before : Option Char}
    (hstart : lineStart = true ↔ StartsLine before) {cs after : List Char} :
    afterHeading lineStart cs = some after ↔
      ∃ gap found, Pattern.First headingPattern before cs gap found after := by
  induction cs generalizing lineStart before with
  | nil =>
    refine iff_of_false (by simp [afterHeading]) ?_
    rintro ⟨gap, found, h⟩
    obtain ⟨-, -, -, _, _, _, rfl, -⟩ := matches_headingPattern_iff.mp h.holds
    exact absurd h.split (by simp [headingMark])
  | cons c cs ih =>
    obtain ⟨line, tail, hline, hfree, hend⟩ := exists_line (c :: cs)
    have hheading := isMilestoneHeading_append hfree hend
    by_cases hhere : StartsLine before ∧ NamesMilestone line
    · obtain ⟨hbefore, hnames⟩ := hhere
      rw [afterHeading, hstart.mpr hbefore, hline, hheading.mpr hnames, if_pos (by rfl),
        dropWhile_line hfree hend, Option.some.injEq,
        exists_first_heading_iff hbefore hfree hend hnames]
    · have hnone : ∀ found rest, c :: cs = found ++ rest →
          ¬Pattern.Matches headingPattern before found rest := by
        intro found rest hsplit hm
        obtain ⟨hbefore, hfound, hrest, hnames⟩ := matches_headingPattern_iff.mp hm
        refine hhere ⟨hbefore, hheading.mp ?_⟩
        rw [← hline, hsplit]
        exact (isMilestoneHeading_append hfound hrest).mpr hnames
      have hfalse : (lineStart && isMilestoneHeading (c :: cs)) = false := by
        rw [Bool.eq_false_iff, ne_eq, Bool.and_eq_true, hstart, hline, hheading]
        exact hhere
      rw [afterHeading, hfalse, if_neg Bool.false_ne_true, Pattern.exists_first_cons_iff hnone,
        @ih (decide (c = '\n')) (some c) (by simp [StartsLine])]

/-- The section ends before the first match of a heading, or with the text. -/
theorem upToHeading_eq_iff {lineStart : Bool} {before : Option Char}
    (hstart : lineStart = true ↔ StartsLine before) {cs body : List Char} :
    upToHeading lineStart cs = body ↔ Pattern.Until nextPattern before cs body := by
  induction cs generalizing lineStart before body with
  | nil =>
    have habsent : Pattern.Absent nextPattern before [] := by
      intro gap found rest hsplit hm
      obtain ⟨-, rfl⟩ := matches_nextPattern_iff.mp hm
      exact absurd hsplit (by simp [headingMark])
    rw [upToHeading]
    constructor
    · rintro rfl
      exact .inr ⟨habsent, rfl⟩
    · rintro (⟨found, after, h⟩ | ⟨-, rfl⟩)
      · exact absurd h.holds (habsent _ _ _ h.split)
      · rfl
  | cons c cs ih =>
    by_cases hhere : StartsLine before ∧ headingMark <+: c :: cs
    · obtain ⟨hbefore, after, hsplit⟩ := hhere
      have hmatches : Pattern.Matches nextPattern before headingMark after :=
        matches_nextPattern_iff.mpr ⟨hbefore, rfl⟩
      have hmark : headingMark.isPrefixOf (c :: cs) = true :=
        List.isPrefixOf_iff_prefix.mpr ⟨after, hsplit⟩
      rw [upToHeading, hstart.mpr hbefore, hmark, if_pos (by rfl),
        Pattern.until_head_iff ⟨headingMark, after, hsplit.symm, hmatches⟩, eq_comm]
    · have hnone : ∀ found rest, c :: cs = found ++ rest →
          ¬Pattern.Matches nextPattern before found rest := by
        intro found rest hsplit hm
        obtain ⟨hbefore, rfl⟩ := matches_nextPattern_iff.mp hm
        exact hhere ⟨hbefore, rest, hsplit.symm⟩
      have hfalse : (lineStart && headingMark.isPrefixOf (c :: cs)) = false := by
        rw [Bool.eq_false_iff, ne_eq, Bool.and_eq_true, hstart, List.isPrefixOf_iff_prefix]
        exact hhere
      have hrest := @ih (decide (c = '\n')) (some c)
      rw [upToHeading, hfalse, if_neg Bool.false_ne_true, Pattern.until_cons_iff hnone]
      constructor
      · rintro rfl
        exact ⟨_, rfl, (hrest (by simp [StartsLine])).mp rfl⟩
      · rintro ⟨more, rfl, h⟩
        rw [(hrest (by simp [StartsLine])).mpr h]

/-- The section that the two patterns cut out of a text: from the end of the first match of the
heading to the first match of another one in what follows, or to the end. -/
theorem section?_eq_some_iff {cs body : List Char} : section? cs = some body ↔
    ∃ gap found after,
      Pattern.First headingPattern none cs gap found after ∧
        Pattern.Until nextPattern none after body := by
  have hstart : true = true ↔ StartsLine none := iff_of_true rfl (.inl rfl)
  rw [section?, Option.map_eq_some_iff]
  simp only [afterHeading_eq_some_iff hstart, upToHeading_eq_iff hstart]
  constructor
  · rintro ⟨after, ⟨gap, found, h⟩, hbody⟩
    exact ⟨gap, found, after, h, hbody⟩
  · rintro ⟨gap, found, after, h, hbody⟩
    exact ⟨after, ⟨gap, found, h⟩, hbody⟩

/-- The milestone is reached exactly when the lines of the text, cut at line feeds, have a first one
that names it in a heading, and of the lines after it up to the next heading or the end some has a
checked item and none an unchecked one.  So nothing before that heading makes a difference, nor
does anything from the next heading on.  The section looked at is the one that the two patterns cut
out. -/
theorem mvpReached_iff :
    (∀ roadmap : String, mvpReached roadmap = true ↔ ∃ before heading inner rest,
      HasSection (Text.cutAt '\n' roadmap.toList) before heading inner rest ∧ Reached inner) ∧
    (∀ (roadmap roadmap' : String) (before before' inner rest rest' : List (List Char))
        (heading heading' : List Char),
      HasSection (Text.cutAt '\n' roadmap.toList) before heading inner rest →
      HasSection (Text.cutAt '\n' roadmap'.toList) before' heading' inner rest' →
        mvpReached roadmap = mvpReached roadmap') ∧
    ∀ cs body : List Char, section? cs = some body ↔ ∃ gap found after,
      Pattern.First headingPattern none cs gap found after ∧
        Pattern.Until nextPattern none after body := by
  refine ⟨fun roadmap => ⟨fun h => ?_, ?_⟩, ?_, fun cs body => section?_eq_some_iff⟩
  · by_cases hnamed : ∃ line ∈ Text.cutAt '\n' roadmap.toList, NamesMilestone line
    · obtain ⟨line, hline, hnames⟩ := hnamed
      obtain ⟨before, heading, inner, rest, hsection⟩ := exists_hasSection hline hnames
      exact ⟨before, heading, inner, rest, hsection, hsection.reached_iff.mp h⟩
    · rw [mvpReached, section?_eq_none fun line hline hnames => hnamed ⟨line, hline, hnames⟩] at h
      cases h
  · rintro ⟨before, heading, inner, rest, hsection, hreached⟩
    exact hsection.reached_iff.mpr hreached
  · intro roadmap roadmap' before before' inner rest rest' heading heading' h h'
    rw [Bool.eq_iff_iff, h.reached_iff, h'.reached_iff]

/-- What is open before the heading and behind the section makes no difference. -/
theorem mvpReached_iff_phases :
    mvpReached "- [ ] a\n## Phase 1 (mvp)\r\n- [X] b\n## Phase 2\n- [ ] c" = true ∧
      mvpReached "## Phase 1 (mvp)\r\n- [X] b" = true := by
  obtain ⟨hreached, hsame, -⟩ := mvpReached_iff
  let heading := "## Phase 1 (mvp)\r".toList
  have hnames : NamesMilestone heading :=
    ⟨"Phase 1 ".toList, "(mvp)".toList, ['\r'], by decide, by decide⟩
  have hlong : HasSection
      (Text.cutAt '\n' "- [ ] a\n## Phase 1 (mvp)\r\n- [X] b\n## Phase 2\n- [ ] c".toList)
      ["- [ ] a".toList] heading ["- [X] b".toList] ["## Phase 2".toList, "- [ ] c".toList] := by
    refine ⟨by decide, fun line hline hname => ?_, hnames, by decide, ?_⟩
    · rw [List.mem_singleton.mp hline] at hname
      exact absurd hname.isHeading (by decide)
    · decide
  have hshort : HasSection (Text.cutAt '\n' "## Phase 1 (mvp)\r\n- [X] b".toList) [] heading
      ["- [X] b".toList] [] :=
    ⟨by decide, by simp, hnames, by decide, by simp⟩
  have hlongReached := (hreached _).mpr ⟨_, _, _, _, hlong, by decide, by decide⟩
  exact ⟨hlongReached, hsame _ _ _ _ _ _ _ _ _ hlong hshort ▸ hlongReached⟩

end Roadmap

end AgentWorkflow
