/-
Which targets are sent for an address.

* `Http.Target.pathPart` — the path of an address as it is written.
* `Http.Target.IsPlain` — a text in which nothing is read in another way than it is written.
* `Http.Target.ofAddress?_eq_literal_iff` — the target is the address, escaped, exactly when the
  address is plain and does not end in blanks.
* `Http.Target.NeverLeaves` — steps that never climb above the place where they start.
* `Http.Target.exists_below` — with such steps behind a plain address the target is below it.

Design notes: to follow dots makes a path shorter, and so does to cut off the end of an address,
while to escape makes nothing shorter.  So a target that is as long as the whole address escaped
has lost nothing.
-/
import AgentWorkflow.Http.Target
import AgentWorkflow.Proofs.FilePaths
import Mathlib.Data.List.Infix

namespace AgentWorkflow.Http.Target

variable {c : Char} {cs cs' front tail step : List Char} {steps done up : List (List Char)}

/-! ### Escaping -/

theorem escape_append (set : Char → Bool) (cs cs' : List Char) :
    escape set (cs ++ cs') = escape set cs ++ escape set cs' :=
  List.flatMap_append

theorem escape_cons (set : Char → Bool) (c : Char) (cs : List Char) :
    escape set (c :: cs) = escape set [c] ++ escape set cs :=
  escape_append set [c] cs

theorem encode_ne_nil (c : Char) : Text.encode c.toString ≠ [] := by
  intro h
  have hdecode := Text.decode?_encode c.toString
  rw [h] at hdecode
  have hempty : c.toString = "" := (Option.some.inj hdecode).symm
  simpa using congrArg String.length hempty

/-- What becomes of a character: it is kept, or its bytes are escaped. -/
theorem escape_single (set : Char → Bool) (c : Char) :
    set c = false ∧ escape set [c] = [c] ∨
      escape set [c] = (Text.encode c.toString).flatMap escapeByte := by
  unfold escape
  rw [List.flatMap_singleton]
  split
  · next h =>
    rw [Bool.and_eq_true, Bool.not_eq_true'] at h
    exact .inl ⟨h.2, rfl⟩
  · exact .inr rfl

/-- To escape makes no text shorter. -/
theorem length_le_escape (set : Char → Bool) (cs : List Char) :
    cs.length ≤ (escape set cs).length := by
  induction cs with
  | nil => exact Nat.zero_le _
  | cons c cs ih =>
    have hsingle : 1 ≤ (escape set [c]).length := by
      rcases escape_single set c with ⟨-, h⟩ | h
      · rw [h, List.length_singleton]
      · obtain ⟨b, more, hbytes⟩ := List.exists_cons_of_ne_nil (encode_ne_nil c)
        rw [h, hbytes]
        exact Nat.succ_le_succ (Nat.zero_le _)
    rw [escape_cons, List.length_append, List.length_cons]
    omega

/-- What is left out of a text makes it shorter, escaped or not. -/
theorem length_escape_of_sublist (set : Char → Bool) (h : cs'.Sublist cs) :
    (escape set cs').length + cs.length ≤ (escape set cs).length + cs'.length := by
  induction h with
  | slnil => exact Nat.le_refl _
  | cons c _ ih =>
    have hsingle : 1 ≤ (escape set [c]).length := length_le_escape set [c]
    rw [escape_cons set c, List.length_append, List.length_cons]
    omega
  | @cons_cons l l' c _ ih =>
    rw [escape_cons set c l, escape_cons set c l', List.length_append, List.length_append,
      List.length_cons, List.length_cons]
    omega

theorem exists_digit_of_mem_toDigits {n : Nat} (h : c ∈ Nat.toDigits 16 n) :
    ∃ digit < 16, c = Nat.digitChar digit := by
  induction n using Nat.strongRecOn with
  | ind n ih =>
    rw [Nat.toDigits_eq_if (by decide)] at h
    split at h
    · next hsmall => exact ⟨n, hsmall, List.mem_singleton.mp h⟩
    · next hlarge =>
      rcases List.mem_append.mp h with h | h
      · exact ih (n / 16) (Nat.div_lt_self (by omega) (by decide)) h
      · exact ⟨n % 16, Nat.mod_lt n (by decide), List.mem_singleton.mp h⟩

theorem question_not_mem_escapeByte (b : UInt8) : '?' ∉ escapeByte b := by
  have hdigits : ∀ digit < 16, (Nat.digitChar digit).toUpper ≠ '?' := by decide
  rw [escapeByte, List.mem_cons, not_or]
  refine ⟨by decide, fun h => ?_⟩
  obtain ⟨c, hc, hupper⟩ := List.mem_map.mp h
  rw [Text.hex, String.toList_ofList] at hc
  rcases List.mem_append.mp hc with hc | hc
  · rw [List.eq_of_mem_replicate hc] at hupper
    exact absurd hupper (by decide)
  · obtain ⟨digit, hdigit, rfl⟩ := exists_digit_of_mem_toDigits hc
    exact hdigits digit hdigit hupper

/-- No question mark stands in an escaped path. -/
theorem question_not_mem_escape (cs : List Char) : '?' ∉ escape escapedInPath cs := by
  induction cs with
  | nil => exact List.not_mem_nil
  | cons c cs ih =>
    rw [escape_cons, List.mem_append, not_or]
    refine ⟨?_, ih⟩
    rcases escape_single escapedInPath c with ⟨hkept, h⟩ | h
    · rw [h, List.mem_singleton]
      rintro rfl
      exact absurd hkept (by decide)
    · rw [h]
      simp only [List.mem_flatMap, not_exists, not_and]
      exact fun b _ => question_not_mem_escapeByte b

/-! ### Steps -/

/-- A backslash separates like a slash. -/
def slashed (cs : List Char) : List Char := cs.map fun c => if c = '\\' then '/' else c

/-- A step of a path as it is sent. -/
def sentStep (step : List Char) : List Char := '/' :: escape escapedInPath step

/-- The step is no name: it says nothing, or it climbs. -/
def isDots (step : List Char) : Bool := isTwoDots step || isOneDot step

theorem path_cons (cs : List Char) : path ('/' :: cs) =
    (followDots [] (Text.cutAt '/' (slashed cs))).reverse.flatMap sentStep := rfl

/-- A path without dots is sent as its escaped text. -/
theorem escape_slash_cons (cs : List Char) :
    escape escapedInPath ('/' :: cs) = (Text.cutAt '/' cs).flatMap sentStep := by
  rw [← Text.flatMap_cutAt '/' cs]
  induction Text.cutAt '/' cs with
  | nil => rfl
  | cons step steps ih =>
    rw [List.flatMap_cons, escape_append, ih, List.flatMap_cons]
    rfl

section FollowDots

variable (done : List (List Char))

theorem followDots_name (hname : isDots step = false) (rest : List (List Char)) :
    followDots done (step :: rest) = followDots (step :: done) rest := by
  obtain ⟨htwo, hone⟩ := Bool.or_eq_false_iff.mp hname
  rw [followDots, htwo, hone, if_neg Bool.false_ne_true, if_neg Bool.false_ne_true, Bool.or_false,
    Bool.and_false, if_neg Bool.false_ne_true]

theorem followDots_dots (hdots : isDots step = true) {rest : List (List Char)} (hrest : rest ≠ []) :
    followDots done (step :: rest) =
      followDots (if isTwoDots step then done.tail else done) rest := by
  have hmore : rest.isEmpty = false := by simpa using hrest
  rw [followDots, hmore, Bool.false_and, if_neg Bool.false_ne_true]
  rcases Bool.or_eq_true_iff.mp hdots with htwo | hone
  · rw [if_pos htwo, if_pos htwo]
  · rw [if_pos hone]

theorem followDots_last (hdots : isDots step = true) :
    followDots done [step] = [] :: if isTwoDots step then done.tail else done := by
  rw [followDots, List.isEmpty_nil, Bool.true_and, ← isDots.eq_def, if_pos hdots]
  rcases Bool.or_eq_true_iff.mp hdots with htwo | hone
  · rw [if_pos htwo, if_pos htwo]
  · rw [if_pos hone]

/-- Names are taken over. -/
theorem followDots_append (hplain : ∀ step ∈ steps, isDots step = false)
    (more : List (List Char)) :
    followDots done (steps ++ more) = followDots (steps.reverse ++ done) more := by
  induction steps generalizing done with
  | nil => rfl
  | cons step steps ih =>
    rw [List.cons_append, followDots_name done (hplain step List.mem_cons_self),
      ih (step :: done) fun step h => hplain step (List.mem_cons_of_mem _ h), List.reverse_cons,
      List.append_assoc, List.singleton_append]

/-- Dots make a path shorter, each step of them by a character at least. -/
theorem length_followDots (steps : List (List Char)) :
    ((followDots done steps).flatMap sentStep).length + steps.countP isDots ≤
      (done.flatMap sentStep).length + (steps.flatMap sentStep).length := by
  induction steps generalizing done with
  | nil => exact Nat.le_refl _
  | cons step rest ih =>
    by_cases hdots : isDots step = true
    · have hstep : 2 ≤ (sentStep step).length := by
        have hne : step ≠ [] := fun h => absurd (h ▸ hdots) (by decide)
        have hlong := length_le_escape escapedInPath step
        have := List.length_pos_of_ne_nil hne
        rw [sentStep, List.length_cons]
        omega
      have hclimb : ((if isTwoDots step then done.tail else done).flatMap sentStep).length ≤
          (done.flatMap sentStep).length := by
        split
        · rcases done with _ | ⟨last, done⟩
          · exact Nat.le_refl _
          · exact (List.sublist_append_right _ _).length_le
        · exact Nat.le_refl _
      rw [List.countP_cons_of_pos hdots, List.flatMap_cons, List.length_append]
      rcases rest with _ | ⟨next, rest⟩
      · have hempty : (sentStep []).length = 1 := rfl
        rw [followDots_last done hdots, List.flatMap_cons, List.length_append, hempty,
          List.countP_nil, List.flatMap_nil, List.length_nil]
        omega
      · rw [followDots_dots done hdots (List.cons_ne_nil _ _)]
        have := ih (if isTwoDots step then done.tail else done)
        omega
    · rw [List.countP_cons_of_neg hdots, followDots_name done (Bool.eq_false_iff.mpr hdots)]
      have := ih (step :: done)
      simp only [List.flatMap_cons, List.length_append] at this ⊢
      omega

/-- From a place so many steps below another one, the steps never lead above that one. -/
def NeverLeaves (level : Nat) (steps : List (List Char)) : Prop :=
  ∀ front, front <+: steps →
    front.countP isTwoDots ≤ level + front.countP fun step => !isDots step

instance (level : Nat) (steps : List (List Char)) : Decidable (NeverLeaves level steps) :=
  decidable_of_iff (∀ front ∈ steps.inits,
      front.countP isTwoDots ≤ level + front.countP fun step => !isDots step)
    (by simp only [List.mem_inits, NeverLeaves])

/-- A name leads away from the place. -/
theorem NeverLeaves.cons_name {level : Nat} (hname : isDots step = false)
    (h : NeverLeaves (level + 1) steps) : NeverLeaves level (step :: steps) := by
  intro front hfront
  rcases List.prefix_cons_iff.mp hfront with rfl | ⟨more, rfl, hmore⟩
  · exact Nat.zero_le _
  · have hcount := h more hmore
    have htwo := (Bool.or_eq_false_iff.mp hname).1
    rw [List.countP_cons_of_neg (by simp [htwo]), List.countP_cons_of_pos (by simp [hname])]
    omega

/-- A step leads away from a place or nearer to it, so there is another level for what follows. -/
theorem NeverLeaves.of_cons {level level' : Nat} (h : NeverLeaves level (step :: steps))
    (hlevel : level + (if isDots step then 0 else 1) = level' + if isTwoDots step then 1 else 0) :
    NeverLeaves level' steps := by
  intro front hfront
  have hcount := h (step :: front) ((List.prefix_cons_inj step).mpr hfront)
  simp only [List.countP_cons, Bool.not_eq_true', ← Bool.not_eq_true] at hcount
  rw [ite_not] at hcount
  omega

/-- What is below a place when the dots are followed that never lead above it. -/
theorem exists_followDots (hne : steps ≠ []) (h : NeverLeaves up.length steps) :
    ∃ up', up' ≠ [] ∧ followDots (up ++ done) steps = up' ++ done := by
  induction steps generalizing up with
  | nil => exact absurd rfl hne
  | cons step rest ih =>
    by_cases hdots : isDots step = true
    · -- Steps of dots leave something of what is below the place, or all of it.
      have hclimb : ∃ up',
          (if isTwoDots step then (up ++ done).tail else up ++ done) = up' ++ done ∧
            NeverLeaves up'.length rest := by
        by_cases htwo : isTwoDots step = true
        · have hfirst := h [step] (List.prefix_append [step] rest)
          rcases up with _ | ⟨last, up⟩
          · simp [htwo, hdots] at hfirst
          · rw [if_pos htwo]
            exact ⟨up, rfl, h.of_cons (by simp [htwo, hdots])⟩
        · rw [if_neg htwo]
          exact ⟨up, rfl, h.of_cons (by simp [htwo, hdots])⟩
      obtain ⟨up', hup', h⟩ := hclimb
      rcases rest with _ | ⟨next, rest⟩
      · refine ⟨[] :: up', List.cons_ne_nil _ _, ?_⟩
        rw [followDots_last _ hdots, hup', List.cons_append]
      · rw [followDots_dots _ hdots (List.cons_ne_nil _ _), hup']
        exact ih (List.cons_ne_nil _ _) h
    · have hname := Bool.eq_false_iff.mpr hdots
      have htwo := (Bool.or_eq_false_iff.mp hname).1
      rw [followDots_name _ hname, ← List.cons_append]
      rcases rest with _ | ⟨next, rest⟩
      · exact ⟨step :: up, List.cons_ne_nil _ _, rfl⟩
      · exact ih (List.cons_ne_nil _ _) (h.of_cons (by simp [hname, htwo]))

end FollowDots

/-! ### The parts of an address -/

/-- The path of an address as it is written. -/
def pathPart (cs : List Char) : List Char := (cutOff '?' (cutOff '#' (strip cs)).1).1

/-- What stands behind the path, with parameters put behind it. -/
def queryPart (cs : List Char) (parameters : String) : List Char :=
  match addParameters ((cutOff '?' (cutOff '#' (strip cs)).1).2.map (escape escapedInQuery))
    parameters with
  | none => []
  | some q => '?' :: q

/-- A blank at the end of an address. -/
def isBlankEnd (c : Char) : Bool := decide (c.toNat ≤ 0x20)

/-- A character that is no part of an address. -/
def isDropped (c : Char) : Bool := c = '\t' || c = '\n' || c = '\r'

theorem strip_eq (cs : List Char) :
    strip cs = (cs.filter fun c => !isDropped c).rdropWhile isBlankEnd := by
  unfold strip List.rdropWhile isBlankEnd isDropped
  congr 4
  funext c
  simp only [Bool.not_or, decide_not, ne_eq]

theorem cutOff_fst (sep : Char) (cs : List Char) :
    (cutOff sep cs).1 = cs.takeWhile (· ≠ sep) := by
  unfold cutOff
  dsimp only
  split
  · next h => exact ((List.takeWhile_prefix _).eq_of_length h).symm
  · rfl

theorem cutOff_append {sep : Char} (h : sep ∉ front) (tail : List Char) :
    cutOff sep (front ++ tail) = (front ++ (cutOff sep tail).1, (cutOff sep tail).2) := by
  have hall : ∀ c ∈ front, decide (c ≠ sep) = true := fun c hc =>
    decide_eq_true fun heq => h (heq ▸ hc)
  have hlength : (front ++ tail.takeWhile (· ≠ sep)).length = (front ++ tail).length ↔
      (tail.takeWhile (· ≠ sep)).length = tail.length := by
    simp only [List.length_append, Nat.add_left_cancel_iff]
  unfold cutOff
  dsimp only
  rw [List.takeWhile_append_of_pos hall]
  by_cases hwhole : (tail.takeWhile (· ≠ sep)).length = tail.length
  · rw [if_pos hwhole, if_pos (hlength.mpr hwhole)]
  · rw [if_neg hwhole, if_neg (hlength.not.mpr hwhole), List.length_append, Nat.add_assoc,
      List.drop_append, List.drop_eq_nil_of_le (Nat.le_add_right _ _), Nat.add_sub_cancel_left,
      List.nil_append]

/-- The characters that do not stand for themselves in an address. -/
def marks : List Char := ['?', '#', '\\', '\t', '\n', '\r']

theorem strip_append (hfront : ∀ c ∈ front, c ∉ marks) (tail : List Char) :
    strip (front ++ '/' :: tail) = front ++ '/' :: strip tail := by
  have hkept : (front.filter fun c => !isDropped c) = front := by
    refine List.filter_eq_self.mpr fun c hc => ?_
    have hmark := hfront c hc
    simp only [marks, List.mem_cons, not_or] at hmark
    simp [isDropped, hmark]
  have hslash : (('/' :: tail).filter fun c => !isDropped c) =
      '/' :: tail.filter fun c => !isDropped c := rfl
  rw [strip_eq, strip_eq, List.filter_append, hkept, hslash]
  unfold List.rdropWhile
  rw [List.reverse_append, List.reverse_cons, List.append_assoc, List.dropWhile_append]
  split
  · next h =>
    rw [List.isEmpty_iff.mp h]
    simp [isBlankEnd]
  · simp

theorem pathPart_append (hfront : ∀ c ∈ front, c ∉ marks) (tail : List Char) :
    pathPart (front ++ '/' :: tail) = front ++ '/' :: pathPart tail := by
  have hnumber : '#' ∉ front ++ ['/'] := by
    rw [List.mem_append, not_or]
    exact ⟨fun h => hfront _ h (by decide), by decide⟩
  have hquestion : '?' ∉ front ++ ['/'] := by
    rw [List.mem_append, not_or]
    exact ⟨fun h => hfront _ h (by decide), by decide⟩
  unfold pathPart
  rw [strip_append hfront, List.append_cons, cutOff_append hnumber, cutOff_append hquestion,
    List.append_assoc, List.singleton_append]

/-- An address that begins with a slash has a target. -/
theorem ofAddress?_eq (parameters : String) {address : String} (h : address.toList = '/' :: cs) :
    ofAddress? address parameters = some (String.ofList
      (path ('/' :: pathPart cs) ++ queryPart address.toList parameters)) := by
  have hpath : pathPart address.toList = '/' :: pathPart cs := by
    rw [h]
    exact @pathPart_append [] (by simp) cs
  unfold ofAddress?
  dsimp only
  rw [show (cutOff '?' (cutOff '#' (strip address.toList)).1).1 = '/' :: pathPart cs from hpath]
  rfl

theorem strip_sublist (cs : List Char) : (strip cs).Sublist cs := by
  rw [strip_eq]
  exact (List.rdropWhile_prefix isBlankEnd _).sublist.trans List.filter_sublist

theorem prefix_cutOff (sep : Char) (cs : List Char) : (cutOff sep cs).1 <+: cs := by
  rw [cutOff_fst]
  exact List.takeWhile_prefix _

theorem pathPart_prefix_strip (cs : List Char) : pathPart cs <+: strip cs :=
  (prefix_cutOff '?' _).trans (prefix_cutOff '#' _)

theorem pathPart_sublist (cs : List Char) : (pathPart cs).Sublist cs :=
  (pathPart_prefix_strip cs).sublist.trans (strip_sublist cs)

theorem cutOff_eq_self_iff {sep : Char} : (cutOff sep cs).1 = cs ↔ sep ∉ cs := by
  rw [cutOff_fst, List.takeWhile_eq_self_iff]
  simp only [decide_eq_true_eq, ne_eq]
  exact ⟨fun h hsep => h sep hsep rfl, fun h c hc heq => h (heq ▸ hc)⟩

/-- No blank stands at the end. -/
def EndsPlain (cs : List Char) : Prop := ∀ c ∈ cs.getLast?, isBlankEnd c = false

instance (cs : List Char) : Decidable (EndsPlain cs) :=
  decidable_of_iff ((cs.getLast?.all fun c => !isBlankEnd c) = true) (by
    rw [EndsPlain]
    rcases cs.getLast? with _ | c
    · simp
    · simp)

theorem strip_eq_self_iff :
    strip cs = cs ↔ (∀ c ∈ cs, isDropped c = false) ∧ EndsPlain cs := by
  have hfilter : (cs.filter fun c => !isDropped c) = cs ↔ ∀ c ∈ cs, isDropped c = false := by
    simp [List.filter_eq_self]
  have hend : cs.rdropWhile isBlankEnd = cs ↔ EndsPlain cs := by
    rw [List.rdropWhile_eq_self_iff, EndsPlain]
    rcases List.eq_nil_or_concat cs with rfl | ⟨front, c, rfl⟩
    · simp
    · simp
  rw [strip_eq, ← hend, ← hfilter]
  constructor
  · intro h
    have hlong := congrArg List.length h
    have hdropped := (List.rdropWhile_prefix isBlankEnd
      (cs.filter fun c => !isDropped c)).length_le
    have hkept : (cs.filter fun c => !isDropped c) = cs :=
      List.filter_sublist.eq_of_length_le (by omega)
    rw [hkept] at h
    exact ⟨hkept, h⟩
  · rintro ⟨hkept, h⟩
    rw [hkept, h]

/-- The whole address is its path exactly when it has no query and no fragment, no character is
dropped and no blank stands at its end. -/
theorem pathPart_eq_self_iff : pathPart cs = cs ↔
    '?' ∉ cs ∧ '#' ∉ cs ∧ (∀ c ∈ cs, isDropped c = false) ∧ EndsPlain cs := by
  rw [← strip_eq_self_iff]
  constructor
  · intro h
    have hlong := (pathPart_prefix_strip cs).length_le
    have hstrip : strip cs = cs := (strip_sublist cs).eq_of_length_le (by rw [h] at hlong; omega)
    rw [pathPart, hstrip] at h
    have hnumber : (cutOff '#' cs).1 = cs := by
      refine (prefix_cutOff '#' cs).eq_of_length_le ?_
      exact (congrArg List.length h).symm.le.trans (prefix_cutOff '?' _).length_le
    rw [hnumber] at h
    exact ⟨cutOff_eq_self_iff.mp h, cutOff_eq_self_iff.mp hnumber, hstrip⟩
  · rintro ⟨hquestion, hnumber, hstrip⟩
    rw [pathPart, hstrip, cutOff_eq_self_iff.mpr hnumber, cutOff_eq_self_iff.mpr hquestion]

/-! ### Plain texts -/

/-- Each character stands for itself, and each step is a name. -/
structure IsPlain (cs : List Char) : Prop where
  chars : ∀ c ∈ cs, c ∉ marks
  steps : ∀ step ∈ Text.cutAt '/' cs, isDots step = false

instance (cs : List Char) : Decidable (IsPlain cs) :=
  decidable_of_iff ((cs.all fun c => !marks.contains c) = true ∧
      ((Text.cutAt '/' cs).all fun step => !isDots step) = true) (by
    simp only [List.all_eq_true, Bool.not_eq_true', List.contains_eq_mem, decide_eq_false_iff_not]
    exact ⟨fun h => ⟨h.1, h.2⟩, fun h => ⟨h.chars, h.steps⟩⟩)

theorem isPlain_append_iff :
    IsPlain (cs ++ '/' :: cs') ↔ IsPlain cs ∧ IsPlain cs' := by
  constructor
  · rintro ⟨hchars, hsteps⟩
    rw [Text.cutAt_append] at hsteps
    exact ⟨⟨fun c hc => hchars c (List.mem_append_left _ hc),
        fun step h => hsteps step (List.mem_append_left _ h)⟩,
      ⟨fun c hc => hchars c (List.mem_append_right _ (List.mem_cons_of_mem _ hc)),
        fun step h => hsteps step (List.mem_append_right _ h)⟩⟩
  · rintro ⟨h, h'⟩
    refine ⟨fun c hc => ?_, fun step hstep => ?_⟩
    · rcases List.mem_append.mp hc with hc | hc
      · exact h.chars c hc
      · rcases List.mem_cons.mp hc with rfl | hc
        · decide
        · exact h'.chars c hc
    · rw [Text.cutAt_append] at hstep
      rcases List.mem_append.mp hstep with hstep | hstep
      · exact h.steps step hstep
      · exact h'.steps step hstep

theorem isPlain_slash_cons_iff : IsPlain ('/' :: cs) ↔ IsPlain cs :=
  (@isPlain_append_iff [] cs).trans (and_iff_right (by decide))

theorem endsPlain_append_iff : EndsPlain (cs ++ '/' :: cs') ↔ EndsPlain cs' := by
  rw [EndsPlain, List.getLast?_append_of_ne_nil _ (List.cons_ne_nil '/' cs')]
  rcases List.eq_nil_or_concat cs' with rfl | ⟨front, c, rfl⟩
  · exact iff_of_true (fun c hc => Option.some.inj hc ▸ rfl) fun c hc => absurd hc (by simp)
  · rw [EndsPlain, List.concat_eq_append, ← List.cons_append,
      List.getLast?_append_of_ne_nil _ (List.cons_ne_nil c []),
      List.getLast?_append_of_ne_nil _ (List.cons_ne_nil c [])]

theorem endsPlain_slash_cons_iff : EndsPlain ('/' :: cs) ↔ EndsPlain cs :=
  @endsPlain_append_iff [] cs

theorem slashed_of_not_mem (h : '\\' ∉ cs) : slashed cs = cs := by
  unfold slashed
  refine (List.map_congr_left fun c hc => if_neg fun heq => ?_).trans (List.map_id' cs)
  exact h (heq ▸ hc)

theorem slashed_append (cs cs' : List Char) : slashed (cs ++ cs') = slashed cs ++ slashed cs' :=
  List.map_append

/-- A backslash is as long as the slash that is sent for it, and is not that slash. -/
theorem escape_slashed (cs : List Char) :
    (escape escapedInPath (slashed cs)).length = (escape escapedInPath cs).length ∧
      (escape escapedInPath (slashed cs) = escape escapedInPath cs → '\\' ∉ cs) := by
  induction cs with
  | nil => exact ⟨rfl, fun _ => List.not_mem_nil⟩
  | cons c cs ih =>
    have hslashed : slashed (c :: cs) = (if c = '\\' then '/' else c) :: slashed cs := rfl
    rw [hslashed, escape_cons, escape_cons escapedInPath c]
    by_cases hc : c = '\\'
    · subst hc
      rw [if_pos rfl, List.length_append, List.length_append, ih.1]
      exact ⟨rfl, fun h => absurd (List.cons.inj h).1 (by decide)⟩
    · rw [if_neg hc, List.length_append, List.length_append, ih.1]
      refine ⟨rfl, fun h => ?_⟩
      rw [List.mem_cons, not_or]
      exact ⟨Ne.symm hc, ih.2 (List.append_cancel_left h)⟩

/-- What it takes that a text is sent as it is written: it is all path, and no step is dots. -/
theorem isPlain_and_endsPlain_iff : IsPlain cs ∧ EndsPlain cs ↔
    pathPart cs = cs ∧ '\\' ∉ cs ∧ ∀ step ∈ Text.cutAt '/' cs, isDots step = false := by
  rw [pathPart_eq_self_iff]
  constructor
  · rintro ⟨hplain, hend⟩
    have hmark : ∀ c ∈ marks, c ∉ cs := fun c hmark hc => hplain.chars c hc hmark
    have hdropped : ∀ c ∈ cs, isDropped c = false := fun c hc => by
      have hchar := hplain.chars c hc
      simp only [marks, List.mem_cons, not_or] at hchar
      simp [isDropped, hchar]
    exact ⟨⟨hmark _ (by decide), hmark _ (by decide), hdropped, hend⟩, hmark _ (by decide),
      hplain.steps⟩
  · rintro ⟨⟨hquestion, hnumber, hdropped, hend⟩, hback, hsteps⟩
    refine ⟨⟨fun c hc hmark => ?_, hsteps⟩, hend⟩
    have hkept := hdropped c hc
    simp only [marks, List.mem_cons, List.not_mem_nil, or_false] at hmark
    rcases hmark with rfl | rfl | rfl | rfl | rfl | rfl
    · exact hquestion hc
    · exact hnumber hc
    · exact hback hc
    · exact absurd hkept (by decide)
    · exact absurd hkept (by decide)
    · exact absurd hkept (by decide)

/-! ### Targets -/

/-- The target that is an address, escaped, with parameters. -/
def literal (address parameters : String) : String :=
  String.ofList (escape escapedInPath address.toList ++
    if parameters.isEmpty then [] else '?' :: parameters.toList)

theorem exists_of_head? (h : cs.head? = some c) : ∃ rest, cs = c :: rest := by
  rcases cs with _ | ⟨first, rest⟩
  · cases h
  · exact ⟨rest, by rw [Option.some.inj h]⟩

theorem question_not_mem_path (cs : List Char) : '?' ∉ path ('/' :: cs) := by
  rw [path_cons, List.mem_flatMap]
  rintro ⟨step, -, hmem⟩
  rcases List.mem_cons.mp hmem with hslash | hmem
  · exact absurd hslash (by decide)
  · exact question_not_mem_escape step hmem

/-- What stands in front of the query. -/
theorem cutOff_question {query : List Char} (h : '?' ∉ cs) (hquery : ∀ c ∈ query.head?, c = '?') :
    (cutOff '?' (cs ++ query)).1 = cs := by
  rw [cutOff_append h, cutOff_fst]
  rcases query with _ | ⟨c, query⟩
  · exact List.append_nil cs
  · rw [hquery c rfl]
    exact List.append_nil cs

theorem head?_queryPart (cs : List Char) (parameters : String) :
    ∀ c ∈ (queryPart cs parameters).head?, c = '?' := by
  unfold queryPart
  split
  · simp
  · simp

theorem queryPart_of_pathPart_eq (h : pathPart cs = cs) (parameters : String) :
    queryPart cs parameters = if parameters.isEmpty then [] else '?' :: parameters.toList := by
  obtain ⟨hquestion, hnumber, hstrip⟩ := pathPart_eq_self_iff.mp h
  have hwhole : ∀ sep, sep ∉ cs → cutOff sep cs = (cs, none) := fun sep hsep => by
    have hcut := cutOff_append hsep []
    rwa [List.append_nil, show cutOff sep [] = ([], none) from rfl, List.append_nil] at hcut
  rw [queryPart, strip_eq_self_iff.mpr hstrip, hwhole '#' hnumber, hwhole '?' hquestion,
    Option.map_none, addParameters]
  split
  · next hnone =>
    split at hnone
    · next hempty => rw [if_pos hempty]
    · cases hnone
  · next hsome =>
    split at hsome
    · cases hsome
    · next hempty =>
      rw [if_neg hempty, ← Option.some.inj hsome]

/-- A path without dots is sent as its text, escaped. -/
theorem path_of_plain (hback : '\\' ∉ cs)
    (hplain : ∀ step ∈ Text.cutAt '/' cs, isDots step = false) :
    path ('/' :: cs) = escape escapedInPath ('/' :: cs) := by
  rw [path_cons, slashed_of_not_mem hback, ← List.append_nil (Text.cutAt '/' cs),
    followDots_append [] hplain, followDots, List.append_nil, List.reverse_reverse,
    escape_slash_cons]

/-- A path is as long as its text only when no step is dots and no part of the text was left
out. -/
theorem eq_of_path_eq (h : path ('/' :: pathPart cs) = escape escapedInPath ('/' :: cs)) :
    pathPart cs = cs ∧ '\\' ∉ cs ∧ ∀ step ∈ Text.cutAt '/' cs, isDots step = false := by
  have hpath := congrArg List.length h
  have hdots := length_followDots [] (Text.cutAt '/' (slashed (pathPart cs)))
  rw [path_cons] at hpath h
  have hreverse : ((followDots [] (Text.cutAt '/' (slashed (pathPart cs)))).reverse.flatMap
      sentStep).length =
        ((followDots [] (Text.cutAt '/' (slashed (pathPart cs)))).flatMap sentStep).length :=
    (List.Perm.flatMap_right sentStep (List.reverse_perm _)).length_eq
  rw [← escape_slash_cons, escape_cons, List.length_append, (escape_slashed _).1,
    List.flatMap_nil, List.length_nil, Nat.zero_add] at hdots
  rw [hreverse, escape_cons, List.length_append] at hpath
  have hpart := length_escape_of_sublist escapedInPath (pathPart_sublist cs)
  have hshort := (pathPart_sublist cs).length_le
  have hwhole : pathPart cs = cs := (pathPart_sublist cs).eq_of_length_le (by omega)
  have hnone : (Text.cutAt '/' (slashed cs)).countP isDots = 0 := by
    rw [hwhole] at hdots hpath
    omega
  have hplain : ∀ step ∈ Text.cutAt '/' (slashed cs), isDots step = false := fun step hstep =>
    Bool.eq_false_iff.mpr (List.countP_eq_zero.mp hnone step hstep)
  rw [hwhole, ← List.append_nil (Text.cutAt '/' (slashed cs)), followDots_append [] hplain,
    followDots, List.append_nil, List.reverse_reverse, ← escape_slash_cons, escape_cons,
    escape_cons escapedInPath '/' cs] at h
  have hback := (escape_slashed cs).2 (List.append_cancel_left h)
  rw [slashed_of_not_mem hback] at hplain
  exact ⟨hwhole, hback, hplain⟩

/-- An address is sent as it is, escaped, exactly when it is plain and no blank stands at its
end. -/
theorem ofAddress?_eq_literal_iff {address : String} (parameters : String)
    (h : address.toList.head? = some '/') :
    ofAddress? address parameters = some (literal address parameters) ↔
      IsPlain address.toList ∧ EndsPlain address.toList := by
  obtain ⟨cs, hcs⟩ := exists_of_head? h
  rw [ofAddress?_eq parameters hcs, literal, hcs, Option.some.injEq, String.ofList_inj,
    isPlain_slash_cons_iff, endsPlain_slash_cons_iff]
  rw [isPlain_and_endsPlain_iff]
  constructor
  · intro heq
    have hfront := congrArg (fun target => (cutOff '?' target).1) heq
    have hbehind : ∀ c ∈ (if parameters.isEmpty = true then []
        else '?' :: parameters.toList).head?, c = '?' := by
      split
      · simp
      · simp
    rw [cutOff_question (question_not_mem_path _) (head?_queryPart _ _),
      cutOff_question (question_not_mem_escape _) hbehind] at hfront
    exact eq_of_path_eq hfront
  · rintro ⟨hwhole, hback, hsteps⟩
    have hslash : pathPart ('/' :: cs) = '/' :: cs := by
      rw [show '/' :: cs = [] ++ '/' :: cs from rfl, pathPart_append (by simp), hwhole]
    rw [hwhole, queryPart_of_pathPart_eq hslash, path_of_plain hback hsteps]

/-- Behind a plain address, what never leads above it is sent to a place below it. -/
theorem exists_below {address front tail : String} (parameters : String)
    (haddress : address = front ++ "/" ++ tail) (hslash : front.toList.head? = some '/')
    (hplain : IsPlain front.toList)
    (htail : NeverLeaves 0 (Text.cutAt '/' (slashed (pathPart tail.toList)))) :
    ∃ target more, ofAddress? address parameters = some target ∧
      target.toList = escape escapedInPath front.toList ++ '/' :: more := by
  obtain ⟨cs, hcs⟩ := exists_of_head? hslash
  have htext : address.toList = '/' :: (cs ++ '/' :: tail.toList) := by
    rw [haddress, String.toList_append, String.toList_append, hcs]
    simp
  rw [hcs, isPlain_slash_cons_iff] at hplain
  have hback : '\\' ∉ cs := fun hc => hplain.chars _ hc (by decide)
  have hstart : NeverLeaves ([] : List (List Char)).length
      (Text.cutAt '/' (slashed (pathPart tail.toList))) := htail
  obtain ⟨up, hup, hfollow⟩ :=
    exists_followDots ((Text.cutAt '/' cs).reverse ++ []) (Text.cutAt_ne_nil _ _) hstart
  obtain ⟨step, more, hmore⟩ := List.exists_cons_of_ne_nil (List.reverse_ne_nil_iff.mpr hup)
  have hpath : path ('/' :: pathPart (cs ++ '/' :: tail.toList)) =
      escape escapedInPath ('/' :: cs) ++ (sentStep step ++ more.flatMap sentStep) := by
    rw [pathPart_append hplain.chars, path_cons, slashed_append, slashed_of_not_mem hback,
      show slashed ('/' :: pathPart tail.toList) = '/' :: slashed (pathPart tail.toList) from rfl,
      Text.cutAt_append, followDots_append [] hplain.steps]
    rw [List.nil_append] at hfollow
    rw [hfollow, List.append_nil, List.reverse_append, List.reverse_reverse, hmore,
      List.flatMap_append, List.flatMap_cons, escape_slash_cons]
  refine ⟨_, escape escapedInPath step ++ (more.flatMap sentStep ++
    queryPart address.toList parameters), ofAddress?_eq parameters htext, ?_⟩
  rw [String.toList_ofList, hpath, hcs, sentStep, List.append_assoc, List.append_assoc,
    List.cons_append]

end AgentWorkflow.Http.Target
