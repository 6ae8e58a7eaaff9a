/-
How the written forms of values begin.

* `Text.Opens` — a text begins with a character of a kind.
* `Json.opens_toString`, `Json.opens_placePoint` — numerals begin with a digit.
* `Json.opensValue`, `Json.opens_display` — what a value begins with that is no text and not null.
* `BranchMode.ofName?_of_opensValue` — no name of a mode begins so.

Design notes: of a numeral no more than its first character is needed, so the shortest digits of a
floating-point number stay closed here.
-/
import AgentWorkflow.Condition

namespace AgentWorkflow

/-- A text begins with a character of a kind. -/
def Text.Opens (p : Char → Bool) (s : String) : Prop :=
  ∃ c rest, s.toList = c :: rest ∧ p c = true

namespace Text.Opens

variable {p q : Char → Bool} {s : String}

theorem append (h : Opens p s) (t : String) : Opens p (s ++ t) := by
  obtain ⟨c, rest, hs, hc⟩ := h
  exact ⟨c, rest ++ t.toList, by rw [String.toList_append, hs, List.cons_append], hc⟩

theorem mono (h : Opens p s) (hpq : ∀ c, p c = true → q c = true) : Opens q s := by
  obtain ⟨c, rest, hs, hc⟩ := h
  exact ⟨c, rest, hs, hpq c hc⟩

theorem ofList {c : Char} {rest : List Char} (hc : p c = true) :
    Opens p (String.ofList (c :: rest)) := ⟨c, rest, String.toList_ofList, hc⟩

theorem ne_empty (h : Opens p s) : s.isEmpty = false := by
  obtain ⟨c, rest, hs, -⟩ := h
  rw [String.isEmpty_eq_false_iff]
  rintro rfl
  cases hs

end Text.Opens

namespace Json

open Text (Opens)

/-- A numeral begins with a digit. -/
theorem opens_toString (n : Nat) : Opens Char.isDigit (toString n) := by
  rcases hdigits : (toString n).toList with _ | ⟨c, rest⟩
  · rw [Nat.toString_eq_repr, Nat.toList_repr] at hdigits
    exact absurd hdigits Nat.toDigits_ne_nil
  · refine ⟨c, rest, hdigits, ?_⟩
    rw [Nat.toString_eq_repr, Nat.toList_repr] at hdigits
    have hmem : c ∈ Nat.toDigits 10 n := by
      rw [hdigits]
      exact List.mem_cons_self
    exact Nat.isDigit_of_mem_toDigits (by decide) (by decide) hmem

/-- A point among digits, or an exponent after them, leaves the first digit where it is, or puts a
zero before it. -/
theorem opens_placePoint {c : Char} (hc : c.isDigit = true) (rest : List Char) (point : Int) :
    Opens Char.isDigit (placePoint (c :: rest) point) := by
  unfold placePoint
  dsimp only
  split
  · split
    · exact Opens.ofList rfl
    · split
      · exact Opens.ofList hc
      · have htake : (c :: rest).take point.toNat = c :: rest.take (point.toNat - 1) := by
          rw [List.take_cons (by omega)]
        rw [htake]
        exact Opens.ofList hc
  · refine Opens.append (Opens.append ?_ _) _
    rcases rest with _ | ⟨d, rest⟩
    · exact Opens.ofList hc
    · exact Opens.ofList hc

/-- The characters that the written form of a value begins with, if the value is no text and not
null. -/
def opensValue (c : Char) : Bool := c.isDigit || ['-', '[', '\x7b', 't', 'f'].contains c

theorem opensValue_of_isDigit (c : Char) (hc : c.isDigit = true) : opensValue c = true := by
  unfold opensValue
  rw [hc, Bool.true_or]

theorem opens_renderFloat (x : Binary64) : Opens opensValue (renderFloat x) := by
  unfold renderFloat
  have hbody : Opens Char.isDigit (if x.isZero then "0.0" else
      placePoint (toString x.shortest.digits).toList
        (x.shortest.exponent + (toString x.shortest.digits).toList.length)) := by
    split
    · exact ⟨'0', _, rfl, rfl⟩
    · obtain ⟨c, rest, hdigits, hc⟩ := opens_toString x.shortest.digits
      rw [hdigits]
      exact opens_placePoint hc rest _
  dsimp only
  split
  · exact Opens.append ⟨'-', [], rfl, rfl⟩ _
  · exact hbody.mono opensValue_of_isDigit

theorem opens_number (n : Number) : Opens opensValue n.render := by
  cases n with
  | whole i =>
    cases i with
    | ofNat n => exact (opens_toString n).mono opensValue_of_isDigit
    | negSucc n => exact Opens.append (s := "-") ⟨'-', [], rfl, rfl⟩ _
  | float x => exact opens_renderFloat x

/-- What the display of a value that is no text and not null begins with. -/
theorem opens_display {j : Json} (hnull : j ≠ .null) (htext : j.text? = none) :
    Opens opensValue j.display := by
  cases j with
  | null => exact absurd rfl hnull
  | text s => cases htext
  | bool b => cases b <;> exact ⟨_, _, rfl, rfl⟩
  | number n => exact opens_number n
  | list items => exact Opens.append (Opens.append ⟨'[', [], rfl, rfl⟩ _) _
  | object members => exact Opens.append (Opens.append ⟨'\x7b', [], rfl, rfl⟩ _) _

end Json

namespace BranchMode

theorem ofName?_eq_none {s : String} (h : ∀ m : BranchMode, m.name ≠ s) : ofName? s = none :=
  List.find?_eq_none.mpr fun m _ hm => h m (of_decide_eq_true hm)

/-- No name of a mode begins as a value does which is no text and not null. -/
theorem ofName?_of_opensValue {s : String} (h : Text.Opens Json.opensValue s) :
    ofName? s = none := by
  obtain ⟨c, rest, hs, hc⟩ := h
  refine ofName?_eq_none fun m hname => ?_
  rw [← hname] at hs
  cases m <;> cases hs <;> cases hc

end BranchMode

end AgentWorkflow
