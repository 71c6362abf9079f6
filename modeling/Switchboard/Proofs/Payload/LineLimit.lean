import Switchboard.Proofs.Payload.Framing

/-!
The limit on lines, said of places in a stream. A line is lost when a chunk ends inside it behind as many
bytes as the limit allows; a longer line that is not cut there becomes a message like any other.
-/

namespace Switchboard

/-- The place in a stream at which a line begins. -/
def lineStart (stream : List UInt8) (line : Nat) : Nat :=
  (((splitLines stream).1.take line).flatMap (· ++ [lineEnd])).length

/-- The place in the stream at which the first `n` chunks end. -/
def chunkEnd (chunks : List (List UInt8)) (n : Nat) : Nat :=
  (chunks.take n).flatten.length

/-- A chunk ends inside a line, and more than `limit` bytes of the line stand before that place. -/
def CutBeyond (limit : Nat) (chunks : List (List UInt8)) (line : Nat) : Prop :=
  ∃ n < chunks.length + 1, lineStart chunks.flatten line + limit < chunkEnd chunks n ∧
    chunkEnd chunks n < lineStart chunks.flatten (line + 1)

instance (limit : Nat) (chunks : List (List UInt8)) (line : Nat) :
    Decidable (CutBeyond limit chunks line) :=
  inferInstanceAs (Decidable (∃ n < chunks.length + 1, _ ∧ _))

/-- The lines that have ended and are not cut beyond the limit. -/
def keptLines (limit : Nat) (chunks : List (List UInt8)) : List (List UInt8) :=
  ((splitLines chunks.flatten).1.zipIdx.filter fun (_, line) => !CutBeyond limit chunks line).map
    Prod.fst

section places

variable {stream : List UInt8} {line : Nat} {bytes : List UInt8}

theorem lineStart_succ (found : (splitLines stream).1[line]? = some bytes) :
    lineStart stream (line + 1) = lineStart stream line + bytes.length + 1 := by
  rw [lineStart, lineStart, List.take_add_one, found]
  simp [Nat.add_assoc]

/-- The stream up to a place inside a line. -/
theorem take_lineStart (found : (splitLines stream).1[line]? = some bytes) {k : Nat}
    (inside : k ≤ bytes.length) :
    stream.take (lineStart stream line + k) =
      ((splitLines stream).1.take line).flatMap (· ++ [lineEnd]) ++ bytes.take k := by
  obtain ⟨bound, rfl⟩ := List.getElem?_eq_some_iff.mp found
  have whole := flatten_splitLines stream
  rw [← List.take_append_drop line (splitLines stream).1, List.drop_eq_getElem_cons bound,
    List.flatMap_append, List.flatMap_cons, List.append_assoc, List.append_assoc, List.append_assoc]
    at whole
  generalize hrest : [lineEnd] ++ _ = rest at whole
  have split := congrArg (List.take (lineStart stream line + k)) whole
  rw [lineStart, List.take_length_add_append, List.take_append_of_le_length inside] at split
  exact split.symm

/-- Up to a place inside a line the stream holds the lines before it and the beginning of that line. -/
theorem splitLines_take (found : (splitLines stream).1[line]? = some bytes) {k : Nat}
    (inside : k ≤ bytes.length) :
    splitLines (stream.take (lineStart stream line + k)) =
      ((splitLines stream).1.take line, bytes.take k) := by
  have unbroken := (lineEnd_notMem_splitLines stream).1
  rw [take_lineStart found inside]
  refine splitLines_lines (fun l mem => unbroken l (List.mem_of_mem_take mem)) ?_
  exact fun mem => unbroken bytes (List.mem_of_getElem? found) (List.mem_of_mem_take mem)

theorem lineStart_le (stream : List UInt8) (line : Nat) : lineStart stream line ≤ stream.length := by
  have whole := congrArg List.length (flatten_splitLines stream)
  rw [← List.take_append_drop line (splitLines stream).1, List.flatMap_append, List.length_append,
    List.length_append] at whole
  rw [lineStart]
  omega

end places

section chunks

variable {limit : Nat} {chunks : List (List UInt8)} {line : Nat} {bytes : List UInt8}

theorem flatten_take (chunks : List (List UInt8)) (n : Nat) :
    (chunks.take n).flatten = chunks.flatten.take (chunkEnd chunks n) := by
  have split := congrArg List.flatten (List.take_append_drop n chunks)
  rw [List.flatten_append] at split
  rw [← split, chunkEnd, List.take_left]

theorem chunkEnd_succ_le {size : Nat} (small : ∀ chunk ∈ chunks, chunk.length ≤ size) (n : Nat) :
    chunkEnd chunks (n + 1) ≤ chunkEnd chunks n + size := by
  rw [chunkEnd, chunkEnd, List.take_add_one, List.flatten_append, List.length_append]
  refine Nat.add_le_add_left ?_ _
  cases found : chunks[n]? with
  | none => exact Nat.zero_le size
  | some chunk => simpa using small chunk (List.mem_of_getElem? found)

/-- The lines that have ended with the first chunks are the first lines of the stream. -/
theorem cutAfter_lines (chunks : List (List UInt8)) (n : Nat) :
    (cutAfter chunks n).1 <+: (splitLines chunks.flatten).1 := by
  have whole : splitLines chunks.flatten =
      continueCut (cutAfter chunks n) (splitLines (chunks.drop n).flatten) := by
    rw [cutAfter, ← splitLines_append, ← List.flatten_append, List.take_append_drop]
  rw [whole, continueCut]
  split
  · exact List.prefix_refl _
  · exact List.prefix_append _ _

/-- The first chunks end as far behind the beginning of the unfinished line as bytes of it are there. -/
theorem chunkEnd_eq (chunks : List (List UInt8)) (n : Nat) :
    chunkEnd chunks n =
      lineStart chunks.flatten (cutAfter chunks n).1.length + (cutAfter chunks n).2.length := by
  rw [lineStart, ← List.prefix_iff_eq_take.mp (cutAfter_lines chunks n), ← List.length_append, cutAfter,
    flatten_splitLines, chunkEnd]

/-- A line was too long at the end of a chunk exactly when the chunk ends there, beyond the limit. -/
theorem overlong_iff (found : (splitLines chunks.flatten).1[line]? = some bytes) :
    Overlong limit chunks line ↔ CutBeyond limit chunks line := by
  constructor
  · rintro ⟨n, inside, rfl, long⟩
    obtain ⟨whole, there, start⟩ := cutAfter_prefix chunks (n + 1)
    have bound := (List.getElem?_eq_some_iff.mp found).1
    rw [List.getElem?_append_left bound, found, Option.some.injEq] at there
    have short := start.length_le
    rw [← there] at short
    have place := chunkEnd_eq chunks (n + 1)
    refine ⟨n + 1, Nat.succ_lt_succ inside, ?_, ?_⟩
    · omega
    · rw [lineStart_succ found]
      omega
  · rintro ⟨n, inside, beyond, before⟩
    rw [lineStart_succ found] at before
    obtain ⟨k, place⟩ := Nat.exists_eq_add_of_le (Nat.le_of_add_right_le (Nat.le_of_lt beyond))
    have fits : k ≤ bytes.length := by omega
    have cut : cutAfter chunks n = ((splitLines chunks.flatten).1.take line, bytes.take k) := by
      rw [cutAfter, flatten_take, place, splitLines_take found fits]
    cases n with
    | zero => exact absurd beyond (Nat.not_lt_zero _)
    | succ n =>
        refine ⟨n, Nat.lt_of_succ_lt_succ inside, ?_, ?_⟩
        · rw [cut]
          exact List.length_take_of_le (Nat.le_of_lt (List.getElem?_eq_some_iff.mp found).1)
        · rw [cut, List.length_take_of_le fits]
          omega

theorem acceptedLines_eq_keptLines (limit : Nat) (chunks : List (List UInt8)) :
    acceptedLines limit chunks = keptLines limit chunks := by
  have each : ∀ entry ∈ (splitLines chunks.flatten).1.zipIdx,
      (!decide (Overlong limit chunks entry.2)) = !decide (CutBeyond limit chunks entry.2) := by
    intro entry member
    simp only [overlong_iff (List.mem_zipIdx_iff_getElem?.mp member)]
  rw [acceptedLines, acceptedFrom, List.filter_congr each, keptLines]

theorem not_cutBeyond_of_le (found : (splitLines chunks.flatten).1[line]? = some bytes)
    (short : bytes.length ≤ limit) : ¬CutBeyond limit chunks line := by
  rintro ⟨n, -, beyond, before⟩
  rw [lineStart_succ found] at before
  omega

/-- A line that comes in one piece with its end is kept. -/
theorem not_cutBeyond_whole (limit : Nat) (stream : List UInt8) (line : Nat) :
    ¬CutBeyond limit [stream] line := by
  rintro ⟨n, inside, beyond, before⟩
  cases n with
  | zero => exact absurd beyond (Nat.not_lt_zero _)
  | succ n =>
      obtain rfl : n = 0 := Nat.lt_one_iff.mp (Nat.lt_of_succ_lt_succ inside)
      rw [chunkEnd, List.take_succ_cons, List.take_nil, List.flatten_singleton] at before
      exact absurd (lineStart_le _ _) (Nat.not_le_of_lt (by simpa using before))

/-- A line that is longer than the limit is lost when a chunk ends just before its end. -/
theorem cutBeyond_halves {stream : List UInt8} (found : (splitLines stream).1[line]? = some bytes)
    (long : limit < bytes.length) :
    CutBeyond limit [stream.take (lineStart stream line + bytes.length),
      stream.drop (lineStart stream line + bytes.length)] line := by
  have bound := lineStart_le stream (line + 1)
  have next := lineStart_succ found
  have halves : [stream.take (lineStart stream line + bytes.length),
      stream.drop (lineStart stream line + bytes.length)].flatten = stream := by
    simp
  refine ⟨1, Nat.lt_of_sub_eq_succ rfl, ?_⟩
  rw [halves, chunkEnd, List.take_succ_cons, List.take_zero, List.flatten_singleton, List.length_take]
  omega

/-- A line that is kept is longer than the limit by less than a chunk. -/
theorem length_lt_of_kept {size : Nat} (small : ∀ chunk ∈ chunks, chunk.length ≤ size)
    (found : (splitLines chunks.flatten).1[line]? = some bytes)
    (kept : ¬CutBeyond limit chunks line) : bytes.length < limit + size := by
  have next := lineStart_succ found
  by_contra long
  -- No chunk can reach over all the places at which the line would be lost.
  have short : ∀ n ≤ chunks.length, chunkEnd chunks n < lineStart chunks.flatten (line + 1) := by
    intro n bound
    induction n with
    | zero =>
        rw [next]
        exact Nat.succ_pos _
    | succ n ih =>
        have earlier := ih (Nat.le_of_succ_le bound)
        have within : ¬lineStart chunks.flatten line + limit < chunkEnd chunks n :=
          fun beyond => kept ⟨n, by omega, beyond, earlier⟩
        have grown := chunkEnd_succ_le small n
        omega
  have all := short chunks.length (Nat.le_refl _)
  rw [chunkEnd, List.take_length] at all
  exact absurd (lineStart_le _ _) (Nat.not_le_of_lt all)

end chunks

section kept

variable {limit : Nat} {chunks : List (List UInt8)}

theorem keptLines_eq_self
    (kept : ∀ (line : Nat) bytes, (splitLines chunks.flatten).1[line]? = some bytes →
      ¬CutBeyond limit chunks line) :
    keptLines limit chunks = (splitLines chunks.flatten).1 := by
  have each : ∀ entry ∈ (splitLines chunks.flatten).1.zipIdx,
      (!decide (CutBeyond limit chunks entry.2)) = true := by
    intro entry member
    simp [kept entry.2 entry.1 (List.mem_zipIdx_iff_getElem?.mp member)]
  rw [keptLines, List.filter_eq_self.mpr each, List.zipIdx_map_fst]

theorem length_keptLines_lt {line : Nat} {bytes : List UInt8}
    (found : (splitLines chunks.flatten).1[line]? = some bytes) (lost : CutBeyond limit chunks line) :
    (keptLines limit chunks).length < (splitLines chunks.flatten).1.length := by
  have numbered : (bytes, line) ∈ (splitLines chunks.flatten).1.zipIdx :=
    List.mem_zipIdx_iff_getElem?.mpr found
  have fewer := List.length_filter_lt_length_iff_exists
    (p := fun entry : List UInt8 × Nat => !decide (CutBeyond limit chunks entry.2)) |>.mpr
    ⟨(bytes, line), numbered, by simpa using lost⟩
  rw [List.length_zipIdx] at fewer
  rw [keptLines, List.length_map]
  exact fewer

end kept

/-- The messages that calls give when all that is left is taken at the end. -/
def messagesOf (limit : Nat) (calls : List FramerCall) : List Payload :=
  (FramerRun.after limit (calls ++ [.drain])).taken

theorem messagesOf_eq (limit : Nat) (calls : List FramerCall) :
    messagesOf limit calls = (keptLines limit (chunksOf calls)).map .ofLine := by
  rw [messagesOf, FramerRun.after_concat, ← acceptedLines_eq_keptLines,
    ← (Framed.after limit calls).taken_eq]
  rfl

/-- What the limit means for the lines of a stream, for a limit and a run of calls. -/
structure LineLimitLaw (limit : Nat) (calls : List FramerCall) : Prop where
  /-- The messages are those of the lines that are not cut beyond the limit. -/
  messages : messagesOf limit calls = (keptLines limit (chunksOf calls)).map .ofLine
  /-- A line within the limit is kept, however the stream is cut. -/
  short : ∀ (line : Nat) bytes, (splitLines (chunksOf calls).flatten).1[line]? = some bytes →
    bytes.length ≤ limit → ¬CutBeyond limit (chunksOf calls) line
  /-- A longer one is kept or lost, as the stream is cut. -/
  long : ∀ (line : Nat) bytes, (splitLines (chunksOf calls).flatten).1[line]? = some bytes →
    limit < bytes.length →
      ¬CutBeyond limit [(chunksOf calls).flatten] line ∧
        ∃ place, CutBeyond limit
          [(chunksOf calls).flatten.take place, (chunksOf calls).flatten.drop place] line
  /-- While chunks are small, what is kept is not much longer than the limit. -/
  bounded : ∀ size, (∀ chunk ∈ chunksOf calls, chunk.length ≤ size) → ∀ (line : Nat) bytes,
    (splitLines (chunksOf calls).flatten).1[line]? = some bytes →
      ¬CutBeyond limit (chunksOf calls) line → bytes.length < limit + size
  /-- How the stream is cut makes no difference exactly when every line is within the limit. -/
  chunking : (∀ others, (chunksOf others).flatten = (chunksOf calls).flatten →
      messagesOf limit others = messagesOf limit calls) ↔
    ∀ bytes ∈ (splitLines (chunksOf calls).flatten).1, bytes.length ≤ limit

theorem messagesOf_whole {limit : Nat} {chunks : List (List UInt8)}
    (kept : ∀ (line : Nat) bytes, (splitLines chunks.flatten).1[line]? = some bytes →
      ¬CutBeyond limit chunks line) {calls : List FramerCall} (feeds : chunksOf calls = chunks) :
    messagesOf limit calls = (splitLines chunks.flatten).1.map .ofLine := by
  rw [messagesOf_eq, feeds, keptLines_eq_self kept]

theorem chunksOf_map_feed (chunks : List (List UInt8)) : chunksOf (chunks.map .feed) = chunks := by
  rw [chunksOf, List.filterMap_map]
  exact List.filterMap_some

theorem line_limit_law (limit : Nat) (calls : List FramerCall) : LineLimitLaw limit calls := by
  refine ⟨messagesOf_eq limit calls, fun _ _ found => not_cutBeyond_of_le found, ?_, ?_, ?_, ?_⟩
  · intro line bytes found long
    exact ⟨not_cutBeyond_whole _ _ _, _, cutBeyond_halves found long⟩
  · exact fun size small line bytes found => length_lt_of_kept small found
  · intro alike bytes member
    by_contra long
    obtain ⟨line, found⟩ := List.getElem?_of_mem member
    -- In one piece the stream gives a message for each line, and cut inside the long line it gives fewer.
    generalize (chunksOf calls).flatten = stream at alike found
    have halves := cutBeyond_halves found (Nat.lt_of_not_le long)
    generalize place : lineStart stream line + bytes.length = n at halves
    have joined : [stream.take n, stream.drop n].flatten = stream := by simp
    have whole := messagesOf_whole (fun line _ _ => not_cutBeyond_whole limit stream line)
      (chunksOf_map_feed [stream])
    rw [List.flatten_singleton] at whole
    have same := (alike _ (by rw [chunksOf_map_feed, joined])).trans
      (alike _ (by rw [chunksOf_map_feed, List.flatten_singleton])).symm
    rw [whole, messagesOf_eq, chunksOf_map_feed] at same
    have fewer := length_keptLines_lt (joined.symm ▸ found) halves
    rw [joined] at fewer
    have lengths := congrArg List.length same
    rw [List.length_map, List.length_map] at lengths
    omega
  · intro short others same
    have kept {chunks : List (List UInt8)} (stream : chunks.flatten = (chunksOf calls).flatten)
        (line : Nat) (bytes : List UInt8)
        (found : (splitLines chunks.flatten).1[line]? = some bytes) : ¬CutBeyond limit chunks line :=
      not_cutBeyond_of_le found (short bytes (stream ▸ List.mem_of_getElem? found))
    rw [messagesOf_whole (kept same) rfl, messagesOf_whole (kept rfl) rfl, same]

/-- A line of nine bytes becomes a message under a limit of eight when it comes with its end, and none when
its end comes later. -/
theorem kept_beyond_limit :
    let line := "[\"\",\"On\"]".toUTF8.toList
    line.length = 9 ∧ messagesOf 8 [.feed (line ++ [lineEnd])] = [.request "On"] ∧
      messagesOf 8 [.feed line, .feed [lineEnd]] = [] := by
  decide +kernel

end Switchboard
