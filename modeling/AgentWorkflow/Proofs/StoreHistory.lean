/-
What a store remembers of its changes.

* `Store.Change` — a change of a store: a value put by nobody in particular, a value put on behalf
  of a node, or the removal of a key.
* `Store.replay` — a store after some changes, one after the other.
* `Store.latest?` — the latest change of a key, and `Store.latest?_eq_some_iff`, that no change of
  the key comes after it.
* `Store.get?_replay`, `Store.writer?_replay` — the value and the writer of a key are those of its
  latest change.
* `Store.replay_remembers` — so writers are known of stored keys alone, and who writes over what
  another node wrote is told so just in case nothing else has happened to the key since.

Design notes: a store keeps its values and its writers in two tables.  Both are read off one row
of changes here, and that they stay in step is seen from the changes.
-/
import AgentWorkflow.Store
import Mathlib.Data.List.Induction

namespace AgentWorkflow.Store

/-! ### Changes -/

/-- A change of a store. -/
inductive Change where
  | insert (key : String) (value : Json)
  | insertFrom (writer key : String) (value : Json)
  | erase (key : String)

namespace Change

def key : Change → String
  | insert key _ => key
  | insertFrom _ key _ => key
  | erase key => key

/-- The value that the key has then. -/
def value? : Change → Option Json
  | insert _ value => some value
  | insertFrom _ _ value => some value
  | erase _ => none

/-- The node that the value was put on behalf of. -/
def writer? : Change → Option String
  | insert _ _ => none
  | insertFrom writer _ _ => some writer
  | erase _ => none

theorem writer?_eq_some_iff {c : Change} {writer : String} :
    c.writer? = some writer ↔ ∃ value, c = insertFrom writer c.key value := by
  cases c with
  | insert key value => simp [writer?]
  | insertFrom writer' key' value' => simp [writer?, key]
  | erase key => simp [writer?]

/-- What has a writer has a value. -/
theorem value?_of_writer? {c : Change} {writer : String} (h : c.writer? = some writer) :
    ∃ value, c.value? = some value := by
  obtain ⟨value, hc⟩ := writer?_eq_some_iff.mp h
  exact ⟨value, by rw [hc]; rfl⟩

end Change

/-- A store after a change. -/
def apply (s : Store) : Change → Store
  | .insert key value => s.insert key value
  | .insertFrom writer key value => (s.insertFrom writer key value).2
  | .erase key => s.erase key

/-- A store after some changes, the first one first. -/
def replay (s : Store) (changes : List Change) : Store := changes.foldl apply s

theorem get?_apply (s : Store) (c : Change) (key : String) :
    (s.apply c).get? key = if c.key = key then c.value? else s.get? key := by
  cases c with
  | insert k value => exact (s.get?_insert k value key).trans (by simp only [eq_comm]; rfl)
  | insertFrom writer k value =>
    exact (s.get?_insertFrom writer k value key).trans (by simp only [eq_comm]; rfl)
  | erase k => exact (s.get?_erase k key).trans (by simp only [eq_comm]; rfl)

theorem writer?_apply (s : Store) (c : Change) (key : String) :
    (s.apply c).writer? key = if c.key = key then c.writer? else s.writer? key := by
  cases c with
  | insert k value => exact (s.writer?_insert k value key).trans (by simp only [eq_comm]; rfl)
  | insertFrom writer k value =>
    exact (s.writer?_insertFrom writer k value key).trans (by simp only [eq_comm]; rfl)
  | erase k => exact (s.writer?_erase k key).trans (by simp only [eq_comm]; rfl)

theorem replay_append (s : Store) (changes more : List Change) :
    s.replay (changes ++ more) = (s.replay changes).replay more :=
  List.foldl_append

/-! ### The latest change of a key -/

/-- The latest change of a key. -/
def latest? (key : String) (changes : List Change) : Option Change :=
  (changes.filter fun c => c.key = key).getLast?

/-- A change is the last one of its key. -/
def Change.IsLatest (c : Change) (changes : List Change) : Prop :=
  ∃ before after, changes = before ++ c :: after ∧ ∀ d ∈ after, d.key ≠ c.key

theorem latest?_concat (key : String) (changes : List Change) (c : Change) :
    latest? key (changes ++ [c]) = if c.key = key then some c else latest? key changes := by
  unfold latest?
  rw [List.filter_append]
  by_cases hkey : c.key = key
  · simp [hkey]
  · simp [hkey]

/-- A change that comes last is the latest one of its key, and it leaves the other keys alone. -/
theorem Change.isLatest_concat {changes : List Change} {c d : Change} :
    d.IsLatest (changes ++ [c]) ↔ d = c ∨ (c.key ≠ d.key ∧ d.IsLatest changes) := by
  constructor
  · rintro ⟨before, after, hsplit, hafter⟩
    rcases List.eq_nil_or_concat after with rfl | ⟨after', last, rfl⟩
    · exact .inl (List.singleton_inj.mp (List.append_inj' hsplit rfl).2).symm
    · rw [List.concat_eq_append] at hsplit hafter
      rw [← List.cons_append, ← List.append_assoc] at hsplit
      obtain ⟨hbefore, hlast⟩ := List.append_inj' hsplit rfl
      obtain rfl : c = last := List.singleton_inj.mp hlast
      exact .inr ⟨hafter c (by simp), before, after', hbefore,
        fun e he => hafter e (List.mem_append_left _ he)⟩
  · rintro (rfl | ⟨hne, before, after, rfl, hafter⟩)
    · exact ⟨changes, [], rfl, fun _ h => absurd h List.not_mem_nil⟩
    · refine ⟨before, after ++ [c], by simp, fun e he => ?_⟩
      rcases List.mem_append.mp he with he | he
      · exact hafter e he
      · rw [List.mem_singleton.mp he]
        exact hne

theorem latest?_eq_some_iff {key : String} {changes : List Change} {c : Change} :
    latest? key changes = some c ↔ c.key = key ∧ c.IsLatest changes := by
  induction changes using List.reverseRecOn with
  | nil => simp [latest?, Change.IsLatest]
  | append_singleton changes d ih =>
    rw [latest?_concat, Change.isLatest_concat]
    by_cases hkey : d.key = key
    · rw [if_pos hkey, Option.some.injEq]
      constructor
      · rintro rfl
        exact ⟨hkey, .inl rfl⟩
      · rintro ⟨hc, rfl | ⟨hne, -⟩⟩
        · rfl
        · exact absurd (hkey.trans hc.symm) hne
    · rw [if_neg hkey, ih]
      constructor
      · rintro ⟨rfl, hlatest⟩
        exact ⟨rfl, .inr ⟨hkey, hlatest⟩⟩
      · rintro ⟨rfl, rfl | ⟨-, hlatest⟩⟩
        · exact absurd rfl hkey
        · exact ⟨rfl, hlatest⟩

/-! ### What is found after changes -/

/-- A key has the value of its latest change, or the one that it had before them all. -/
theorem get?_replay (s : Store) (changes : List Change) (key : String) :
    (s.replay changes).get? key =
      match latest? key changes with
      | some c => c.value?
      | none => s.get? key := by
  induction changes using List.reverseRecOn with
  | nil => rfl
  | append_singleton changes c ih =>
    rw [replay_append, latest?_concat]
    show ((s.replay changes).apply c).get? key = _
    rw [get?_apply, ih]
    split <;> rfl

/-- A key has the writer of its latest change, or the one that it had before them all. -/
theorem writer?_replay (s : Store) (changes : List Change) (key : String) :
    (s.replay changes).writer? key =
      match latest? key changes with
      | some c => c.writer?
      | none => s.writer? key := by
  induction changes using List.reverseRecOn with
  | nil => rfl
  | append_singleton changes c ih =>
    rw [replay_append, latest?_concat]
    show ((s.replay changes).apply c).writer? key = _
    rw [writer?_apply, ih]
    split <;> rfl

theorem get?_replay_empty (changes : List Change) (key : String) :
    (empty.replay changes).get? key = (latest? key changes).bind Change.value? := by
  rw [get?_replay]
  rcases latest? key changes with _ | c <;> rfl

theorem writer?_replay_empty (changes : List Change) (key : String) :
    (empty.replay changes).writer? key = (latest? key changes).bind Change.writer? := by
  rw [writer?_replay]
  rcases latest? key changes with _ | c <;> rfl

/-- A store that was empty knows writers of stored keys alone.  A key holds what its latest change
has put there, and nothing when that was its removal.  Who puts a value on behalf of a node is told
of another one just in case the latest change of the key was made on behalf of that one. -/
theorem replay_remembers (changes : List Change) :
    let s := empty.replay changes
    (∀ key ∈ Table.keys s.writers, key ∈ s.keys) ∧
    (∀ key value, s.get? key = some value ↔
      ∃ c : Change, c.IsLatest changes ∧ c.key = key ∧ c.value? = some value) ∧
    (∀ writer key value before, (s.insertFrom writer key value).1 = some before ↔
      before ≠ writer ∧ ∃ value', (Change.insertFrom before key value').IsLatest changes) := by
  intro s
  have hget : ∀ key, s.get? key = (latest? key changes).bind Change.value? :=
    get?_replay_empty changes
  have hwriter : ∀ key, s.writer? key = (latest? key changes).bind Change.writer? :=
    writer?_replay_empty changes
  refine ⟨fun key hkey => ?_, fun key value => ?_, fun writer key value before => ?_⟩
  · obtain ⟨writer, hfound⟩ := Table.mem_keys_iff.mp hkey
    obtain ⟨c, hc, hcwriter⟩ := Option.bind_eq_some_iff.mp ((hwriter key).symm.trans hfound)
    obtain ⟨value, hvalue⟩ := c.value?_of_writer? hcwriter
    exact Table.mem_keys_iff.mpr
      ⟨value, (hget key).trans (Option.bind_eq_some_iff.mpr ⟨c, hc, hvalue⟩)⟩
  · rw [hget, Option.bind_eq_some_iff]
    constructor
    · rintro ⟨c, hc, hvalue⟩
      obtain ⟨hkey, hlatest⟩ := latest?_eq_some_iff.mp hc
      exact ⟨c, hlatest, hkey, hvalue⟩
    · rintro ⟨c, hlatest, hkey, hvalue⟩
      exact ⟨c, latest?_eq_some_iff.mpr ⟨hkey, hlatest⟩, hvalue⟩
  · show s.otherWriter writer key = some before ↔ _
    unfold otherWriter
    rw [Option.filter_eq_some_iff, hwriter, Option.bind_eq_some_iff, bne_iff_ne]
    constructor
    · rintro ⟨⟨c, hc, hcwriter⟩, hne⟩
      obtain ⟨rfl, hlatest⟩ := latest?_eq_some_iff.mp hc
      obtain ⟨value', hc'⟩ := Change.writer?_eq_some_iff.mp hcwriter
      exact ⟨hne, value', hc' ▸ hlatest⟩
    · rintro ⟨hne, value', hlatest⟩
      exact ⟨⟨_, latest?_eq_some_iff.mpr ⟨rfl, hlatest⟩, rfl⟩, hne⟩

/-- A value that was put by nobody in particular makes a store forget the writer. -/
example : ((empty.replay [.insertFrom "a" "k" .null, .insert "k" .null]).insertFrom "b" "k"
    .null).1 = none := rfl

end AgentWorkflow.Store
