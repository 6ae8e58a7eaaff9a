/-
Lists that are joined to a text, line by line, and read back.

* `Text.lines_append`, `Text.lines_join` — the lines of a text, and of texts that are joined.
* `Text.not_mem_of_mem_lines` — no line holds a line feed.
* `Json.itemLines_join_iff` — which lists of texts are read back from their lines.
* `Plugin.ReadAlike` — no plugin on lists tells two values apart, and neither does a branch on
  emptiness.
* `Plugin.reduceList_readsBack` — a list of lines is read back from the text it is reduced to, and
  the items of a text from the text they are reduced to.

Design notes: a line feed cuts a text, and takes a carriage return before it along.  So what is
lost is a carriage return at the end of an item that another one follows, and nothing else.  The
last item has no feed behind it and keeps its own.
-/
import AgentWorkflow.Plugin.Lists
import Mathlib.Data.List.Infix

namespace AgentWorkflow

namespace Text

variable {cs rest : List Char} {line s : String} {items : List String}

/-! ### Lines -/

theorem cutLines_append (h : '\n' ∉ cs) (rest : List Char) :
    cutLines (cs ++ '\n' :: rest) = (cs, true) :: cutLines rest := by
  induction cs with
  | nil => exact if_pos rfl
  | cons c cs ih =>
    obtain ⟨hc, hcs⟩ := not_or.mp (List.mem_cons.not.mp h)
    rw [List.cons_append, cutLines, if_neg (Ne.symm hc), ih hcs]

theorem cutLines_of_not_mem (hne : cs ≠ []) (h : '\n' ∉ cs) : cutLines cs = [(cs, false)] := by
  induction cs with
  | nil => exact absurd rfl hne
  | cons c cs ih =>
    obtain ⟨hc, hcs⟩ := not_or.mp (List.mem_cons.not.mp h)
    rw [cutLines, if_neg (Ne.symm hc)]
    by_cases hnil : cs = []
    · rw [hnil, cutLines]
    · rw [ih hnil hcs]

theorem not_mem_of_mem_cutLines {cut : List Char × Bool} (h : cut ∈ cutLines cs) :
    '\n' ∉ cut.1 := by
  induction cs generalizing cut with
  | nil => exact absurd h List.not_mem_nil
  | cons c cs ih =>
    rw [cutLines] at h
    split at h
    · rcases List.mem_cons.mp h with rfl | hmore
      · exact List.not_mem_nil
      · exact ih hmore
    · next hc =>
      rcases hcut : cutLines cs with _ | ⟨⟨first, ended⟩, more⟩
      · rw [hcut] at h
        rw [List.mem_singleton.mp h, List.mem_singleton]
        exact Ne.symm hc
      · rw [hcut] at h ih
        rcases List.mem_cons.mp h with rfl | hmore
        · exact List.not_mem_cons_of_ne_of_not_mem (Ne.symm hc) (ih List.mem_cons_self)
        · exact ih (List.mem_cons_of_mem _ hmore)

/-- A text ends in a carriage return. -/
def EndsInReturn (s : String) : Prop := s.toList.getLast? = some '\r'

instance (s : String) : Decidable (EndsInReturn s) := inferInstanceAs (Decidable (_ = _))

/-- A text without a carriage return at its end. -/
def withoutReturn (s : String) : String := String.ofList (dropReturn s.toList)

theorem withoutReturn_of_not (h : ¬EndsInReturn s) : withoutReturn s = s := by
  have hdrop : dropReturn s.toList = s.toList := if_neg h
  rw [withoutReturn, hdrop, String.ofList_toList]

theorem EndsInReturn.toList_eq (h : EndsInReturn s) :
    s.toList = (withoutReturn s).toList ++ ['\r'] := by
  have hdrop : dropReturn s.toList = s.toList.dropLast := if_pos h
  rw [withoutReturn, hdrop, String.toList_ofList, List.dropLast_append_getLast? _ h]

theorem withoutReturn_eq_iff : withoutReturn s = s ↔ ¬EndsInReturn s := by
  refine ⟨fun heq hends => ?_, withoutReturn_of_not⟩
  have hlist := hends.toList_eq
  rw [heq] at hlist
  exact List.cons_ne_nil _ _ (List.self_eq_append_right.mp hlist)

/-- A carriage return is blank itself. -/
theorem allBlank_withoutReturn (s : String) : allBlank (withoutReturn s) = allBlank s := by
  by_cases h : EndsInReturn s
  · have hreturn : ['\r'].all isBlank = true := by decide
    rw [allBlank, allBlank, h.toList_eq, List.all_append, hreturn, Bool.and_true]
  · rw [withoutReturn_of_not h]

theorem mem_of_mem_dropReturn {c : Char} (h : c ∈ dropReturn cs) : c ∈ cs := by
  rw [dropReturn] at h
  split at h
  · exact List.mem_of_mem_dropLast h
  · exact h

theorem not_mem_of_mem_lines (h : line ∈ lines s) : '\n' ∉ line.toList := by
  obtain ⟨cs, hcs, rfl⟩ := List.mem_map.mp h
  obtain ⟨cut, hcut, rfl⟩ := List.mem_map.mp hcs
  rw [String.toList_ofList]
  split
  · exact fun hmem => not_mem_of_mem_cutLines hcut (mem_of_mem_dropReturn hmem)
  · exact not_mem_of_mem_cutLines hcut

theorem lines_of_not_mem (hne : s ≠ "") (h : '\n' ∉ s.toList) : lines s = [s] := by
  have hne : s.toList ≠ [] := String.toList_eq_nil_iff.not.mpr hne
  rw [lines, lineChars, cutLines_of_not_mem hne h]
  exact congrArg (· :: []) String.ofList_toList

/-- The first line feed ends the first line. -/
theorem lines_append (h : '\n' ∉ line.toList) (s : String) :
    lines (line ++ "\n" ++ s) = withoutReturn line :: lines s := by
  have hlist : (line ++ "\n" ++ s).toList = line.toList ++ '\n' :: s.toList := by simp
  rw [lines, lineChars, hlist, cutLines_append h]
  rfl

/-- Each text is a line of its own, and those that another one follows lose a carriage return. -/
theorem lines_join (hne : ∀ s ∈ items, s ≠ "") (hfeed : ∀ s ∈ items, '\n' ∉ s.toList) :
    lines (join "\n" items) = items.dropLast.map withoutReturn ++ items.getLast?.toList := by
  induction items with
  | nil => rfl
  | cons s more ih =>
    obtain ⟨hs, hmore⟩ := List.forall_mem_cons.mp hne
    obtain ⟨hsFeed, hmoreFeed⟩ := List.forall_mem_cons.mp hfeed
    rcases more with _ | ⟨next, more⟩
    · exact (congrArg lines String.intercalate_singleton).trans (lines_of_not_mem hs hsFeed)
    · -- The feed that joins the first two texts is the first one of all.
      have hjoin : join "\n" (s :: next :: more) = s ++ "\n" ++ join "\n" (next :: more) :=
        String.intercalate_cons_cons
      rw [hjoin, lines_append hsFeed, ih hmore hmoreFeed, List.dropLast_cons_cons, List.map_cons,
        List.getLast?_cons_cons, List.cons_append]

end Text

namespace Json

open Text (EndsInReturn withoutReturn allBlank)

variable {items : List String} {s : String}

/-! ### Lists of texts -/

/-- The items of a text are those of its lines that are not blank. -/
def itemLines (s : String) : List String := (Text.lines s).filter fun line => !allBlank line

theorem toItems_text (s : String) : (text s).toItems = (itemLines s).map text := rfl

theorem mem_itemLines {line : String} :
    line ∈ itemLines s ↔ line ∈ Text.lines s ∧ allBlank line = false := by
  rw [itemLines, List.mem_filter, Bool.not_eq_true']

theorem ne_empty_of_not_blank (h : allBlank s = false) : s ≠ "" := by
  rintro rfl
  exact absurd h (by decide)

/-- The items that are read back from a text of lines. -/
theorem itemLines_join (hblank : ∀ s ∈ items, allBlank s = false)
    (hfeed : ∀ s ∈ items, '\n' ∉ s.toList) :
    itemLines (Text.join "\n" items) =
      items.dropLast.map withoutReturn ++ items.getLast?.toList := by
  have hlines := Text.lines_join (fun s hs => ne_empty_of_not_blank (hblank s hs)) hfeed
  rw [itemLines, hlines, List.filter_eq_self]
  intro line hline
  rw [Bool.not_eq_true']
  rcases List.mem_append.mp hline with hfront | hlast
  · obtain ⟨s, hs, rfl⟩ := List.mem_map.mp hfront
    rw [Text.allBlank_withoutReturn]
    exact hblank s (List.mem_of_mem_dropLast hs)
  · rw [Option.mem_toList] at hlast
    exact hblank line (List.mem_of_getLast? hlast)

/-- What is taken off the items but the last is nothing when none of them ends in a carriage
return. -/
theorem map_withoutReturn_eq_iff (items : List String) :
    items.dropLast.map withoutReturn ++ items.getLast?.toList = items ↔
      ∀ s ∈ items.dropLast, ¬EndsInReturn s := by
  rcases List.eq_nil_or_concat items with rfl | ⟨front, last, rfl⟩
  · simp
  · rw [List.concat_eq_append, List.dropLast_concat, List.getLast?_concat, Option.toList_some,
      List.append_left_inj, ← List.map_id front, List.map_map, List.map_eq_map_iff]
    simp only [List.map_id, Function.comp_id, id_eq, Text.withoutReturn_eq_iff]

/-- Items are read back from the text that they are joined to when they are lines that are not
blank, and none but the last ends in a carriage return. -/
theorem itemLines_join_iff : itemLines (Text.join "\n" items) = items ↔
    (∀ s ∈ items, allBlank s = false ∧ '\n' ∉ s.toList) ∧
      ∀ s ∈ items.dropLast, ¬EndsInReturn s := by
  constructor
  · intro h
    have hitems : ∀ s ∈ items, allBlank s = false ∧ '\n' ∉ s.toList := by
      intro s hs
      rw [← h] at hs
      obtain ⟨hline, hblank⟩ := mem_itemLines.mp hs
      exact ⟨hblank, Text.not_mem_of_mem_lines hline⟩
    rw [itemLines_join (fun s hs => (hitems s hs).1) fun s hs => (hitems s hs).2] at h
    exact ⟨hitems, (map_withoutReturn_eq_iff items).mp h⟩
  · rintro ⟨hitems, hreturn⟩
    rw [itemLines_join (fun s hs => (hitems s hs).1) fun s hs => (hitems s hs).2]
    exact (map_withoutReturn_eq_iff items).mpr hreturn

end Json

namespace Plugin

open Text (EndsInReturn allBlank)

/-! ### Plugins on lists -/

/-- No plugin on lists gives another result for the one value than for the other, and neither does a
branch on emptiness. -/
structure ReadAlike (j j' : Json) : Prop where
  filterList : ∀ inputs : Inputs,
    filterList (Table.insert inputs "items" j) = filterList (Table.insert inputs "items" j')
  mapList : ∀ inputs : Inputs,
    mapList (Table.insert inputs "items" j) = mapList (Table.insert inputs "items" j')
  reduceList : ∀ inputs : Inputs,
    reduceList (Table.insert inputs "items" j) = reduceList (Table.insert inputs "items" j')
  isEmpty : ∀ compare : String,
    BranchMode.isEmpty.test j compare = BranchMode.isEmpty.test j' compare

section

variable {inputs : Inputs} {name key : String}

theorem input_insert_of_ne (hne : name ≠ key) (j : Json) :
    input (Table.insert inputs key j) name = input inputs name := by
  rw [input, Table.get?_insert, if_neg hne, input]

theorem words?_insert_of_ne (hne : name ≠ key) (j : Json) :
    words? (Table.insert inputs key j) name = words? inputs name := by
  rw [words?, Table.get?_insert, if_neg hne, words?]

theorem itemsOf_insert (inputs : Inputs) (j : Json) :
    itemsOf (Table.insert inputs "items" j) = j.toItems := by
  rw [itemsOf, input, Table.get?_insert, if_pos rfl, Option.getD_some]

end

/-- The items are all that plugins on lists know of a value. -/
theorem ReadAlike.of_toItems {j j' : Json} (h : j.toItems = j'.toItems) : ReadAlike j j' where
  filterList inputs := by
    have hmode : ∀ j, filterMode (Table.insert inputs "items" j) = filterMode inputs := fun j => by
      rw [filterMode, words?_insert_of_ne (by decide), filterMode]
    simp only [Plugin.filterList, hmode, itemsOf_insert, h, ne_eq, String.reduceEq,
      not_false_eq_true, input_insert_of_ne]
  mapList inputs := by
    simp only [Plugin.mapList, itemsOf_insert, h, ne_eq, String.reduceEq, not_false_eq_true,
      words?_insert_of_ne]
  reduceList inputs := by
    have hseparator : ∀ j, Table.get? (Table.insert inputs "items" j) "separator" =
        Table.get? inputs "separator" := fun j => by
      rw [Table.get?_insert, if_neg (by decide)]
    simp only [Plugin.reduceList, itemsOf_insert, h, hseparator]
  isEmpty compare := by rw [BranchMode.test, BranchMode.test, h]

/-- What texts are reduced to, one on each line, reads as they do when they can be told apart
there. -/
theorem exists_text_readAlike {inputs : Inputs} {j : Json} {items : List String}
    (hseparator : Table.get? inputs "separator" = some (.text "\\n"))
    (hinput : Table.get? inputs "items" = some j) (hj : j.toItems = items.map .text)
    (hread : Json.itemLines (Text.join "\n" items) = items) :
    ∃ t, Plugin.reduceList inputs = .ok (result "result" (.text t)) ∧
      (Json.text t).toItems = j.toItems ∧ ReadAlike (.text t) j := by
  have hback : (Json.text (Text.join "\n" items)).toItems = j.toItems := by
    rw [Json.toItems_text, hread, hj]
  have hitems : itemsOf inputs = items.map .text := by
    rw [itemsOf, input, hinput, Option.getD_some, hj]
  have hdisplay : (items.map Json.text).map Json.display = items := by
    rw [List.map_map]
    exact List.map_id items
  have hfeed : Json.separator (some (.text "\\n")) = "\n" := by decide
  have hreduce : Plugin.reduceList inputs =
      .ok (result "result" (.text (Text.join "\n" items))) := by
    rw [Plugin.reduceList, hitems, hseparator, hdisplay, hfeed]
  exact ⟨_, hreduce, hback, .of_toItems hback⟩

/-- A list of texts that are not blank, hold no line feed and do not end in a carriage return is
read back from the text that it is reduced to with `\n` between the items.  The items of a text of
which no line ends in a carriage return are those of the text that they are so reduced to. -/
theorem reduceList_readsBack (inputs : Inputs)
    (hseparator : Table.get? inputs "separator" = some (.text "\\n")) :
    (∀ items : List String, Table.get? inputs "items" = some (Json.texts items) →
      (∀ s ∈ items, allBlank s = false ∧ '\n' ∉ s.toList ∧ ¬EndsInReturn s) →
        ∃ t, Plugin.reduceList inputs = .ok (result "result" (.text t)) ∧
          (Json.text t).toItems = items.map .text ∧ ReadAlike (.text t) (Json.texts items)) ∧
    ∀ s : String, Table.get? inputs "items" = some (.text s) →
      (∀ line ∈ Text.lines s, ¬EndsInReturn line) →
        ∃ t, Plugin.reduceList inputs = .ok (result "result" (.text t)) ∧
          (Json.text t).toItems = (Json.text s).toItems ∧ ReadAlike (.text t) (.text s) := by
  constructor
  · intro items hinput hitems
    exact exists_text_readAlike hseparator hinput rfl (Json.itemLines_join_iff.mpr
      ⟨fun s hs => ⟨(hitems s hs).1, (hitems s hs).2.1⟩,
        fun s hs => (hitems s (List.mem_of_mem_dropLast hs)).2.2⟩)
  · intro s hinput hlines
    refine exists_text_readAlike hseparator hinput (Json.toItems_text s)
      (Json.itemLines_join_iff.mpr ⟨fun line hline => ?_, fun line hline => ?_⟩)
    · obtain ⟨hmem, hblank⟩ := Json.mem_itemLines.mp hline
      exact ⟨hblank, Text.not_mem_of_mem_lines hmem⟩
    · exact hlines line (Json.mem_itemLines.mp (List.mem_of_mem_dropLast hline)).1

/-- Items with blanks around them and a carriage return inside, and a text with lines of both
kinds, a blank one among them. -/
theorem reduceList_readsBack_lines :
    (∃ t, Plugin.reduceList [("items", Json.texts [" a", "b\rc "]), ("separator", .text "\\n")] =
        .ok (result "result" (.text t)) ∧
      (Json.text t).toItems = [.text " a", .text "b\rc "] ∧
        ReadAlike (.text t) (Json.texts [" a", "b\rc "])) ∧
    ∃ t, Plugin.reduceList [("items", .text "a\r\n \t\nb\n\nc"), ("separator", .text "\\n")] =
        .ok (result "result" (.text t)) ∧
      (Json.text t).toItems = (Json.text "a\r\n \t\nb\n\nc").toItems ∧
        ReadAlike (.text t) (.text "a\r\n \t\nb\n\nc") :=
  ⟨(reduceList_readsBack [("items", Json.texts [" a", "b\rc "]), ("separator", .text "\\n")]
      rfl).1 [" a", "b\rc "] rfl (by decide),
    (reduceList_readsBack [("items", .text "a\r\n \t\nb\n\nc"), ("separator", .text "\\n")]
      rfl).2 "a\r\n \t\nb\n\nc" rfl (by decide)⟩

end Plugin

end AgentWorkflow
