/-
What it takes for a decoder to succeed.

* `Except.bind_eq_ok` — two steps one after the other succeed when both do.
* `Json.Decode.items_map`, `Json.Decode.members_mapValues` — a list of values, and a table of
  texts, are read back as they were written.
* `Json.Decode.ne_null_of_nullable` — null is never what is read; it stands for no value.
-/
import AgentWorkflow.Json.Decode

namespace AgentWorkflow

theorem Except.bind_eq_ok {ε α β : Type} {x : Except ε α} {f : α → Except ε β} {b : β}
    (h : x >>= f = .ok b) : ∃ a, x = .ok a ∧ f a = .ok b := by
  rcases x with e | a
  · cases h
  · exact ⟨a, rfl, h⟩

namespace Json.Decode

variable {α : Type}

/-- Written values are read back when each of them is. -/
theorem items_map_of_mem {encode : α → Json} {decode : Decoder α} {as : List α}
    (h : ∀ a ∈ as, decode (encode a) = .ok a) : items decode (as.map encode) = .ok as := by
  induction as with
  | nil => rfl
  | cons a rest ih =>
    obtain ⟨ha, hrest⟩ := List.forall_mem_cons.mp h
    rw [List.map_cons]
    unfold items
    rw [ha, ih hrest]
    rfl

/-- A list of written values is read back when each value is. -/
theorem items_map {encode : α → Json} {decode : Decoder α}
    (h : ∀ a, decode (encode a) = .ok a) (as : List α) :
    items decode (as.map encode) = .ok as :=
  items_map_of_mem fun a _ => h a

/-- A table of texts is read back as it was written. -/
theorem members_mapValues (t : Table String) :
    members string (Table.mapValues .text t) = .ok t := by
  induction t with
  | nil => rfl
  | cons entry rest ih =>
    rw [show Table.mapValues Json.text (entry :: rest) =
      (entry.1, .text entry.2) :: Table.mapValues Json.text rest from rfl]
    unfold members
    rw [ih]
    rfl

/-- Where any value may stand, null stands for none. -/
theorem ne_null_of_nullable {j : Json} {value : Option Json}
    (h : nullable Except.ok j = .ok value) : value ≠ some .null := by
  cases j with
  | null =>
    obtain rfl := Except.ok.inj h
    exact nofun
  | bool | number | text | list | object =>
    obtain rfl := Except.ok.inj h
    exact nofun

theorem exists_nullable (j : Json) : ∃ value, nullable Except.ok j = .ok value := by
  cases j with
  | null | bool | number | text | list | object => exact ⟨_, rfl⟩

/-- A value that is not null is read as it is. -/
theorem nullable_of_ne_null {j : Json} (h : j ≠ .null) : nullable Except.ok j = .ok (some j) := by
  cases j with
  | null => exact absurd rfl h
  | bool | number | text | list | object => rfl

/-- A field that has to be there is a member, and is decoded. -/
theorem required_field?_eq_ok {m : Table Json} {name : String} {d : Decoder α} {found : Option α}
    {a : α} (hfield : field? m name d = .ok found) (hrequired : required name found = .ok a) :
    ∃ j, Table.get? m name = some j ∧ d j = .ok a := by
  rcases found with _ | a'
  · cases hrequired
  rw [← Except.ok.inj hrequired]
  unfold field? at hfield
  split at hfield
  · cases hfield
  · next j hget =>
    rcases hd : d j with e | a''
    · rw [hd] at hfield
      cases hfield
    · rw [hd] at hfield
      cases hfield
      exact ⟨j, hget, hd⟩

end Json.Decode

end AgentWorkflow
