/-
Streams of which the first bytes are kept.

* `Capture.ofSeen` — what is kept of the bytes seen so far, and the number of the others.
* `Capture.take_ofSeen` — a chunk more is that many bytes more.
* `Capture.readOn_ofSeen` — so reading goes on to the first chunk that is empty.
* `Capture.ComesIn` — a stream comes in chunks.
* `Capture.read_cutoff` — the first bytes are kept up to the limit, and the rest is counted, however
  the stream is cut into chunks.

Design notes: what is kept is a front part of what was seen, so a chunk is cut where the limit lies,
or not at all.  Bytes are kept only as long as all of those before them are.
-/
import AgentWorkflow.Command.Output
import Mathlib.Data.List.Basic

namespace AgentWorkflow.Capture

variable {limit : Nat} {seen stream : List UInt8} {chunks later : List (List UInt8)}

/-- What is to be known of the bytes that were seen: the first of them, and how many there are
more. -/
def ofSeen (limit : Nat) (seen : List UInt8) : Capture :=
  ⟨seen.take limit, (seen.drop limit).length⟩

theorem start_eq_ofSeen (limit : Nat) : start = ofSeen limit [] := by
  rw [start, ofSeen, List.take_nil, List.drop_nil, List.length_nil]

/-! ### One chunk -/

theorem take_ofSeen (limit : Nat) (seen chunk : List UInt8) :
    (ofSeen limit seen).take limit chunk = ofSeen limit (seen ++ chunk) := by
  -- Once a byte was dropped there is no room, so nothing is kept behind a gap.
  have hroom : limit - (seen.take limit).length = limit - seen.length := by
    rw [List.length_take]
    omega
  have hpart : chunk.take (min chunk.length (limit - seen.length)) =
      chunk.take (limit - seen.length) := List.take_eq_take_iff.mpr (by omega)
  have hkept : seen.take limit ++ chunk.take (limit - seen.length) = (seen ++ chunk).take limit :=
    List.take_append.symm
  have hdropped : (seen.drop limit).length +
      (chunk.length - min chunk.length (limit - seen.length)) =
        ((seen ++ chunk).drop limit).length := by
    rw [List.length_drop, List.length_drop, List.length_append]
    omega
  rw [take, ofSeen, ofSeen, hroom, hpart, hkept, hdropped]

/-! ### The whole stream -/

/-- Reading stops at the end of the stream. -/
theorem readOn_of_ended (c : Capture) (hend : ∀ chunk ∈ later.head?, chunk = []) :
    readOn limit c later = c := by
  rcases later with _ | ⟨chunk, more⟩
  · rfl
  · rw [hend chunk rfl]
    rfl

theorem readOn_ofSeen (hnonempty : [] ∉ chunks) (hend : ∀ chunk ∈ later.head?, chunk = [])
    (seen : List UInt8) :
    readOn limit (ofSeen limit seen) (chunks ++ later) = ofSeen limit (seen ++ chunks.flatten) := by
  -- On the chunks, whatever was seen before them: what is known stays that of all bytes seen.
  induction chunks generalizing seen with
  | nil => rw [List.nil_append, readOn_of_ended _ hend, List.flatten_nil, List.append_nil]
  | cons chunk rest ih =>
    obtain ⟨hchunk, hrest⟩ := not_or.mp (List.mem_cons.not.mp hnonempty)
    have hmore : ¬chunk.isEmpty = true := fun h => hchunk (List.isEmpty_iff.mp h).symm
    rw [List.cons_append, readOn, if_neg hmore, take_ofSeen, ih hrest, List.flatten_cons,
      List.append_assoc]

/-- A stream comes in chunks: none of them is empty, and one after the other they are the stream. -/
structure ComesIn (stream : List UInt8) (chunks : List (List UInt8)) : Prop where
  nonempty : [] ∉ chunks
  flatten_eq : chunks.flatten = stream

theorem ComesIn.read_eq (h : ComesIn stream chunks) (limit : Nat)
    (hend : ∀ chunk ∈ later.head?, chunk = []) :
    read limit (chunks ++ later) = ofSeen limit stream := by
  rw [read, start_eq_ofSeen limit, readOn_ofSeen h.nonempty hend, h.flatten_eq, List.nil_append]

/-- Of a stream that comes in chunks, up to where it ends, the first bytes are kept as they are, as
many as the limit allows, and all others are counted.  Kept and counted, they are as many as the
stream has, and chunks that are cut otherwise give the same. -/
theorem read_cutoff (h : ComesIn stream chunks) (limit : Nat)
    (hend : ∀ chunk ∈ later.head?, chunk = []) :
    (read limit (chunks ++ later)).kept = stream.take limit ∧
    (read limit (chunks ++ later)).kept.length = min limit stream.length ∧
    (read limit (chunks ++ later)).dropped = (stream.drop limit).length ∧
    (read limit (chunks ++ later)).kept.length + (read limit (chunks ++ later)).dropped =
      stream.length ∧
    ∀ chunks' later', ComesIn stream chunks' → (∀ chunk ∈ later'.head?, chunk = []) →
      read limit (chunks' ++ later') = read limit (chunks ++ later) := by
  rw [h.read_eq limit hend]
  refine ⟨rfl, List.length_take, rfl, ?_, fun chunks' later' h' hend' => h'.read_eq limit hend'⟩
  rw [ofSeen, ← List.length_append, List.take_append_drop]

/-- A chunk that lies across the limit, and one behind it. -/
theorem read_cutoff_across :
    ComesIn [1, 2, 3, 4, 5] [[1, 2, 3], [4], [5]] ∧
      (read 2 ([[1, 2, 3], [4], [5]] ++ [[], [6]])).kept = [1, 2] ∧
      (read 2 ([[1, 2, 3], [4], [5]] ++ [[], [6]])).dropped = 3 := by
  have h : ComesIn [1, 2, 3, 4, 5] [[1, 2, 3], [4], [5]] := ⟨by decide, rfl⟩
  have hend : ∀ chunk ∈ [[], [(6 : UInt8)]].head?, chunk = [] := by simp
  obtain ⟨hkept, -, hdropped, -⟩ := read_cutoff h 2 hend
  exact ⟨h, hkept, hdropped⟩

end AgentWorkflow.Capture
