/-
Tables: values listed under text keys, in the order of the keys.

* `Table.get?`, `Table.insert`, `Table.erase` — look-up, and the two updates.
* `get?_insert`, `get?_erase` — what each update does to every look-up.
* `mem_of_get?`, `mem_of_get?_ofList` — what is found is an entry.
* `insert_comm` — it does not matter in which order values are put under two keys.

Design notes: keys are ordered by code point.  The laws of look-up and of updates
need no order, so a table is a plain list; the order only fixes how it is listed.
-/

namespace AgentWorkflow

abbrev Table (α : Type) := List (String × α)

namespace Table

variable {α β : Type}

/-- The value under a key. -/
def get? (t : Table α) (key : String) : Option α :=
  match t with
  | [] => none
  | (k, v) :: rest => if key = k then some v else get? rest key

def contains (t : Table α) (key : String) : Bool :=
  (get? t key).isSome

/-- Puts a value under a key, in place of the one that is there. -/
def insert (t : Table α) (key : String) (value : α) : Table α :=
  match t with
  | [] => [(key, value)]
  | (k, v) :: rest =>
    if key = k then (key, value) :: rest
    else if key < k then (key, value) :: (k, v) :: rest
    else (k, v) :: insert rest key value

/-- Drops what is under a key. -/
def erase (t : Table α) (key : String) : Table α :=
  match t with
  | [] => []
  | (k, v) :: rest => if key = k then erase rest key else (k, v) :: erase rest key

def keys (t : Table α) : List String :=
  t.map Prod.fst

/-- The table of a list of entries; a later entry wins over an earlier one. -/
def ofList (entries : List (String × α)) : Table α :=
  entries.foldl (fun t entry => insert t entry.1 entry.2) []

/-- The first table with the entries of the second put over it. -/
def overlay (t upper : Table α) : Table α :=
  upper.foldl (fun t entry => insert t entry.1 entry.2) t

def mapValues (f : α → β) (t : Table α) : Table β :=
  t.map fun entry => (entry.1, f entry.2)

@[simp] theorem get?_nil (key : String) : get? ([] : Table α) key = none := rfl

theorem get?_cons (k : String) (v : α) (t : Table α) (key : String) :
    get? ((k, v) :: t) key = if key = k then some v else get? t key := rfl

theorem get?_insert (t : Table α) (key : String) (value : α) (k : String) :
    get? (insert t key value) k = if k = key then some value else get? t k := by
  induction t with
  | nil => rfl
  | cons entry rest ih =>
    obtain ⟨k', v'⟩ := entry
    unfold insert
    split
    · subst_vars
      by_cases h : k = k' <;> simp [get?_cons, h]
    · split
      · rfl
      · simp only [get?_cons, ih]
        by_cases h : k = k'
        · subst h
          by_cases h' : k = key
          · exact absurd h'.symm (by assumption)
          · simp [h']
        · simp [h]

theorem get?_erase (t : Table α) (key k : String) :
    get? (erase t key) k = if k = key then none else get? t k := by
  induction t with
  | nil => simp [erase]
  | cons entry rest ih =>
    obtain ⟨k', v'⟩ := entry
    unfold erase
    split
    · subst_vars
      rw [ih, get?_cons]
      by_cases h : k = k' <;> simp [h]
    · simp only [get?_cons, ih]
      by_cases h : k = k'
      · subst h
        by_cases h' : k = key
        · exact absurd h'.symm (by assumption)
        · simp [h']
      · simp [h]

theorem get?_append (t t' : Table α) (key : String) :
    get? (t ++ t') key = (get? t key).or (get? t' key) := by
  induction t with
  | nil => rfl
  | cons entry rest ih =>
    obtain ⟨k, v⟩ := entry
    rw [List.cons_append, get?_cons, get?_cons, ih]
    by_cases h : key = k
    · rw [if_pos h, if_pos h]
      rfl
    · rw [if_neg h, if_neg h]

theorem get?_map (f : String → α → β) (t : Table α) (key : String) :
    get? (t.map fun entry => (entry.1, f entry.1 entry.2)) key = (get? t key).map (f key) := by
  induction t with
  | nil => rfl
  | cons entry rest ih =>
    obtain ⟨k, v⟩ := entry
    rw [List.map_cons, get?_cons, get?_cons, ih]
    by_cases h : key = k
    · rw [if_pos h, if_pos h, h]
      rfl
    · rw [if_neg h, if_neg h]

theorem mem_of_get? {t : Table α} {key : String} {value : α} (h : get? t key = some value) :
    (key, value) ∈ t := by
  induction t with
  | nil => exact absurd h (by simp)
  | cons entry rest ih =>
    obtain ⟨k, v⟩ := entry
    rw [get?_cons] at h
    by_cases hk : key = k
    · rw [if_pos hk, Option.some.injEq] at h
      rw [hk, h]
      exact List.mem_cons_self
    · rw [if_neg hk] at h
      exact List.mem_cons_of_mem _ (ih h)

theorem mem_keys_iff {t : Table α} {key : String} :
    key ∈ keys t ↔ ∃ value, get? t key = some value := by
  induction t with
  | nil => simp [keys]
  | cons entry rest ih =>
    obtain ⟨k, v⟩ := entry
    have hkeys : keys ((k, v) :: rest) = k :: keys rest := rfl
    rw [hkeys, List.mem_cons, ih, get?_cons]
    by_cases hk : key = k
    · simp [hk]
    · simp [hk]

/-- An entry is found under its key when no key is there twice. -/
theorem get?_of_mem {t : Table α} (hkeys : (keys t).Nodup) {key : String} {value : α}
    (h : (key, value) ∈ t) : get? t key = some value := by
  induction t with
  | nil => exact absurd h List.not_mem_nil
  | cons entry rest ih =>
    obtain ⟨k, v⟩ := entry
    obtain ⟨hnew, hrest⟩ := List.nodup_cons.mp hkeys
    rw [get?_cons]
    rcases List.mem_cons.mp h with heq | hmem
    · obtain ⟨rfl, rfl⟩ := Prod.mk.inj heq
      exact if_pos rfl
    · have hne : key ≠ k := fun hk => hnew (hk ▸ List.mem_map.mpr ⟨(key, value), hmem, rfl⟩)
      rw [if_neg hne]
      exact ih hrest hmem

theorem mem_of_get?_overlay {entries : List (String × α)} {t : Table α} {key : String}
    {value : α} (h : get? (overlay t entries) key = some value) :
    (key, value) ∈ entries ∨ get? t key = some value := by
  induction entries generalizing t with
  | nil => exact .inr h
  | cons entry rest ih =>
    obtain ⟨k, v⟩ := entry
    rcases ih (t := insert t k v) h with hmem | hget
    · exact .inl (List.mem_cons_of_mem _ hmem)
    · rw [get?_insert] at hget
      by_cases hk : key = k
      · rw [if_pos hk, Option.some.injEq] at hget
        rw [hk, hget]
        exact .inl List.mem_cons_self
      · rw [if_neg hk] at hget
        exact .inr hget

theorem mem_of_get?_ofList {entries : List (String × α)} {key : String} {value : α}
    (h : get? (ofList entries) key = some value) : (key, value) ∈ entries := by
  rcases mem_of_get?_overlay (t := []) h with hmem | hget
  · exact hmem
  · exact absurd hget (by simp)

/-! ### Two updates -/

theorem insert_cons (k : String) (v : α) (t : Table α) (key : String) (value : α) :
    insert ((k, v) :: t) key value =
      if key = k then (key, value) :: t
      else if key < k then (key, value) :: (k, v) :: t
      else (k, v) :: insert t key value := rfl

theorem insert_comm_of_lt (t : Table α) {a b : String} (hab : a < b) (x y : α) :
    insert (insert t a x) b y = insert (insert t b y) a x := by
  have hne : a ≠ b := fun h => String.lt_irrefl b (h ▸ hab)
  have hba : ¬b < a := String.lt_asymm hab
  induction t with
  | nil => simp [insert, hne, hne.symm, hab, hba]
  | cons entry rest ih =>
    obtain ⟨k, v⟩ := entry
    rw [insert_cons, insert_cons]
    by_cases hak : a = k
    · subst hak
      simp [insert_cons, hne.symm, hba]
    by_cases hlt : a < k
    · -- The smaller key stands before this entry, and there the greater one goes past it.
      have hpast : insert ((a, x) :: (k, v) :: rest) b y =
          (a, x) :: insert ((k, v) :: rest) b y := by
        rw [insert_cons, if_neg hne.symm, if_neg hba]
      rw [if_neg hak, if_pos hlt, hpast, insert_cons]
      split
      · rw [insert_cons, if_neg hne, if_pos hab]
      · split
        · rw [insert_cons, if_neg hne, if_pos hab]
        · rw [insert_cons, if_neg hak, if_pos hlt]
    · have hbk : b ≠ k := fun h => hlt (h ▸ hab)
      have hbk' : ¬b < k := fun h => hlt (String.lt_trans hab h)
      simp only [if_neg hak, if_neg hlt, if_neg hbk, if_neg hbk', insert_cons, ih]

/-- Whatever the order of a table, values that are put under two keys find the same places in
whichever order they are put there. -/
theorem insert_comm (t : Table α) {a b : String} (hne : a ≠ b) (x y : α) :
    insert (insert t a x) b y = insert (insert t b y) a x := by
  by_cases hab : a < b
  · exact insert_comm_of_lt t hab x y
  · have hba : b < a := String.not_le.mp fun hle =>
      hne (String.le_antisymm hle (String.not_lt.mp hab))
    exact (insert_comm_of_lt t hba y x).symm

end Table

end AgentWorkflow
