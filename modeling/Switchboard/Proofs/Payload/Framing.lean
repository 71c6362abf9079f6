import Mathlib.Data.List.Induction
import Mathlib.Data.Nat.Find
import Switchboard.Proofs.Payload.Lines

/-!
The framing law. A run feeds chunks to a framer and takes messages in between. Which lines are reported
is said of the chunks alone: a line is too long when, at the end of a chunk before its own end, more
bytes of it are there than the limit. All other lines become messages, in order.
-/

namespace Switchboard

/-- One call on a framer. -/
inductive FramerCall
  | feed (chunk : List UInt8)
  | next
  | drain

/-- The bytes that a call brings. -/
def FramerCall.chunk? : FramerCall → Option (List UInt8)
  | feed chunk => some chunk
  | _ => none

/-- The chunks that calls bring, in order. -/
def chunksOf (calls : List FramerCall) : List (List UInt8) :=
  calls.filterMap FramerCall.chunk?

/-- A framer and what its calls have given so far. -/
structure FramerRun where
  framer : Framer
  /-- For each feed the size of the line it reported, if it did. -/
  reports : List (Option Nat) := []
  /-- The messages taken, the oldest first. -/
  taken : List Payload := []

/-- Makes one call. -/
def FramerRun.call (r : FramerRun) : FramerCall → FramerRun
  | .feed chunk =>
    let (framer, report) := r.framer.feed chunk
    { r with framer, reports := r.reports ++ [report] }
  | .next =>
    match r.framer.next? with
    | none => r
    | some (p, framer) => { r with framer, taken := r.taken ++ [p] }
  | .drain =>
    let (messages, framer) := r.framer.drain
    { r with framer, taken := r.taken ++ messages }

/-- What calls make of a new framer. -/
def FramerRun.after (limit : Nat) (calls : List FramerCall) : FramerRun :=
  calls.foldl call { framer := { limit } }

theorem chunksOf_concat (calls : List FramerCall) (call : FramerCall) :
    chunksOf (calls ++ [call]) = chunksOf calls ++ call.chunk?.toList := by
  cases call <;> simp [chunksOf, FramerCall.chunk?]

theorem FramerRun.after_concat (limit : Nat) (calls : List FramerCall) (call : FramerCall) :
    after limit (calls ++ [call]) = (after limit calls).call call := by
  simp [after]

/-- The cut of the first `n` chunks: the lines that have ended and the bytes of the next one. -/
def cutAfter (chunks : List (List UInt8)) (n : Nat) : List (List UInt8) × List UInt8 :=
  splitLines (chunks.take n).flatten

/-- At the end of a chunk a line has not ended, and more than `limit` bytes of it are there. -/
def OverlongAt (limit : Nat) (chunks : List (List UInt8)) (line chunk : Nat) : Prop :=
  (cutAfter chunks (chunk + 1)).1.length = line ∧ limit < (cutAfter chunks (chunk + 1)).2.length

instance (limit : Nat) (chunks : List (List UInt8)) (line chunk : Nat) :
    Decidable (OverlongAt limit chunks line chunk) :=
  inferInstanceAs (Decidable (_ ∧ _))

/-- At the end of some chunk a line is too long. -/
def Overlong (limit : Nat) (chunks : List (List UInt8)) (line : Nat) : Prop :=
  ∃ chunk < chunks.length, OverlongAt limit chunks line chunk

instance (limit : Nat) (chunks : List (List UInt8)) (line : Nat) :
    Decidable (Overlong limit chunks line) :=
  inferInstanceAs (Decidable (∃ chunk < chunks.length, OverlongAt limit chunks line chunk))

/-- The lines, numbered from `first` on, that were at no end of a chunk too long. -/
def acceptedFrom (limit : Nat) (chunks lines : List (List UInt8)) (first : Nat) :
    List (List UInt8) :=
  ((lines.zipIdx first).filter fun (_, line) => !Overlong limit chunks line).map Prod.fst

/-- The lines that have ended and were at no end of a chunk too long. -/
def acceptedLines (limit : Nat) (chunks : List (List UInt8)) : List (List UInt8) :=
  acceptedFrom limit chunks (splitLines chunks.flatten).1 0

/-- What a feed reports: the size of a line that is too long with its chunk for the first time. -/
def reportAt (limit : Nat) (chunks : List (List UInt8)) (chunk : Nat) : Option Nat :=
  if OverlongAt limit chunks (cutAfter chunks (chunk + 1)).1.length chunk ∧
      ¬Overlong limit (chunks.take chunk) (cutAfter chunks (chunk + 1)).1.length then
    some (cutAfter chunks (chunk + 1)).2.length
  else none

section chunks

variable {limit : Nat} {chunks : List (List UInt8)}

theorem cutAfter_length : cutAfter chunks chunks.length = splitLines chunks.flatten := by
  simp [cutAfter]

theorem cutAfter_append {n : Nat} (h : n ≤ chunks.length) (more : List (List UInt8)) :
    cutAfter (chunks ++ more) n = cutAfter chunks n := by
  rw [cutAfter, List.take_append_of_le_length h, cutAfter]

theorem splitLines_concat (chunks : List (List UInt8)) (chunk : List UInt8) :
    splitLines (chunks ++ [chunk]).flatten =
      continueCut (splitLines chunks.flatten) (splitLines chunk) := by
  simp [splitLines_append]

theorem overlongAt_append {line n : Nat} (h : n < chunks.length) (more : List (List UInt8)) :
    OverlongAt limit (chunks ++ more) line n ↔ OverlongAt limit chunks line n := by
  rw [OverlongAt, cutAfter_append (by omega), OverlongAt]

theorem overlongAt_last {line : Nat} (chunk : List UInt8) :
    OverlongAt limit (chunks ++ [chunk]) line chunks.length ↔
      (splitLines (chunks ++ [chunk]).flatten).1.length = line ∧
        limit < (splitLines (chunks ++ [chunk]).flatten).2.length := by
  have whole : cutAfter (chunks ++ [chunk]) (chunks.length + 1) =
      splitLines (chunks ++ [chunk]).flatten := by
    rw [← cutAfter_length, List.length_append, List.length_singleton]
  rw [OverlongAt, whole]

theorem overlong_concat {line : Nat} (chunk : List UInt8) :
    Overlong limit (chunks ++ [chunk]) line ↔
      Overlong limit chunks line ∨ OverlongAt limit (chunks ++ [chunk]) line chunks.length := by
  constructor
  · rintro ⟨n, hn, at'⟩
    rw [List.length_append, List.length_singleton] at hn
    by_cases last : n = chunks.length
    · exact .inr (last ▸ at')
    · have hn : n < chunks.length := by omega
      exact .inl ⟨n, hn, (overlongAt_append hn _).mp at'⟩
  · rintro (⟨n, hn, at'⟩ | at')
    · exact ⟨n, by simp; omega, (overlongAt_append hn _).mpr at'⟩
    · exact ⟨chunks.length, by simp, at'⟩

theorem length_splitLines_le (chunk : List UInt8) :
    (splitLines chunks.flatten).1.length ≤ (splitLines (chunks ++ [chunk]).flatten).1.length := by
  rw [splitLines_concat, continueCut]
  split
  · exact Nat.le_refl _
  · simp

/-- No line after the unfinished one has been too long. -/
theorem Overlong.le {line : Nat} (h : Overlong limit chunks line) :
    line ≤ (splitLines chunks.flatten).1.length := by
  induction chunks using List.reverseRecOn with
  | nil =>
      obtain ⟨n, hn, -⟩ := h
      exact absurd hn (Nat.not_lt_zero n)
  | append_singleton chunks chunk ih =>
      rcases (overlong_concat chunk).mp h with earlier | last
      · exact Nat.le_trans (ih earlier) (length_splitLines_le chunk)
      · exact Nat.le_of_eq ((overlongAt_last chunk).mp last).1.symm

/-- Whether a line was too long is settled once it has ended. -/
theorem overlong_concat_of_lt {line : Nat} (chunk : List UInt8)
    (h : line < (splitLines (chunks ++ [chunk]).flatten).1.length) :
    Overlong limit (chunks ++ [chunk]) line ↔ Overlong limit chunks line := by
  rw [overlong_concat, overlongAt_last]
  constructor
  · rintro (earlier | ⟨same, -⟩)
    · exact earlier
    · omega
  · exact .inl

theorem acceptedFrom_congr {more lines : List (List UInt8)} {first : Nat}
    (same : ∀ line, first ≤ line → line < first + lines.length →
      (Overlong limit chunks line ↔ Overlong limit more line)) :
    acceptedFrom limit chunks lines first = acceptedFrom limit more lines first := by
  have each : ∀ entry ∈ lines.zipIdx first,
      (!decide (Overlong limit chunks entry.2)) = !decide (Overlong limit more entry.2) := by
    intro entry member
    have bounds := List.le_snd_of_mem_zipIdx member
    have := List.snd_lt_add_of_mem_zipIdx member
    simp only [same entry.2 bounds (by omega)]
  rw [acceptedFrom, List.filter_congr each, acceptedFrom]

theorem acceptedFrom_eq_self {lines : List (List UInt8)} {first : Nat}
    (short : ∀ line, first ≤ line → ¬Overlong limit chunks line) :
    acceptedFrom limit chunks lines first = lines := by
  have each : ∀ entry ∈ lines.zipIdx first, (!decide (Overlong limit chunks entry.2)) = true := by
    intro entry member
    simp [short entry.2 (List.le_snd_of_mem_zipIdx member)]
  rw [acceptedFrom, List.filter_eq_self.mpr each, List.zipIdx_map_fst]

theorem acceptedLines_concat (limit : Nat) (chunks : List (List UInt8)) (chunk : List UInt8) :
    acceptedLines limit (chunks ++ [chunk]) =
      acceptedLines limit chunks ++
        match (splitLines chunk).1 with
        | [] => []
        | line :: more =>
          if Overlong limit chunks (splitLines chunks.flatten).1.length then more
          else ((splitLines chunks.flatten).2 ++ line) :: more := by
  rw [acceptedLines, acceptedFrom_congr fun line _ h => overlong_concat_of_lt chunk (by omega),
    splitLines_concat]
  cases hc : (splitLines chunk).1 with
  | nil => simp [acceptedLines, continueCut, hc]
  | cons line more =>
      have beyond : ∀ number, (splitLines chunks.flatten).1.length + 1 ≤ number →
          ¬Overlong limit chunks number := fun number later long => by
        have := long.le
        omega
      have rest : acceptedFrom limit chunks more _ = more := acceptedFrom_eq_self beyond
      simp only [acceptedLines, acceptedFrom, continueCut, hc, List.zipIdx_append, List.zipIdx_cons,
        List.filter_append, List.map_append, Nat.zero_add, List.filter_cons] at rest ⊢
      by_cases long : Overlong limit chunks (splitLines chunks.flatten).1.length
      · simp [long, rest]
      · simp [long, rest]

theorem reportAt_append {n : Nat} (h : n < chunks.length) (more : List (List UInt8)) :
    reportAt limit (chunks ++ more) n = reportAt limit chunks n := by
  rw [reportAt, cutAfter_append (by omega), List.take_append_of_le_length (by omega), reportAt]
  simp only [overlongAt_append h]

theorem reportAt_last (chunk : List UInt8) :
    reportAt limit (chunks ++ [chunk]) chunks.length =
      if limit < (splitLines (chunks ++ [chunk]).flatten).2.length ∧
          ¬Overlong limit chunks (splitLines (chunks ++ [chunk]).flatten).1.length then
        some (splitLines (chunks ++ [chunk]).flatten).2.length
      else none := by
  have whole : cutAfter (chunks ++ [chunk]) (chunks.length + 1) =
      splitLines (chunks ++ [chunk]).flatten := by
    rw [← cutAfter_length, List.length_append, List.length_singleton]
  rw [reportAt, whole, List.take_left]
  simp only [overlongAt_last, true_and]

end chunks

/-- A framer that holds the given cut; a tail that is too long is dropped and its size given. -/
def Framer.holding (f : Framer) (cut : List (List UInt8) × List UInt8) : Framer × Option Nat :=
  if f.limit < cut.2.length then
    ({ f with lines := cut.1, tail := [], discarding := true }, some cut.2.length)
  else ({ f with lines := cut.1, tail := cut.2, discarding := false }, none)

theorem Framer.accept_eq (f : Framer) (bytes : List UInt8) :
    f.accept bytes = f.holding (continueCut (f.lines, f.tail) (splitLines bytes)) := by
  unfold accept holding continueCut
  obtain ⟨ended, rest⟩ := splitLines bytes
  cases ended <;> rfl

/-- What the calls so far have made of a new framer, in terms of the chunks alone. -/
structure Framed (limit : Nat) (chunks : List (List UInt8)) (r : FramerRun) : Prop where
  limit_eq : r.framer.limit = limit
  discarding_iff : r.framer.discarding = true ↔
    Overlong limit chunks (splitLines chunks.flatten).1.length
  /-- While the rest of a line is passed over, nothing of it is held. -/
  tail_eq : r.framer.tail = if r.framer.discarding then [] else (splitLines chunks.flatten).2
  tail_le : r.framer.tail.length ≤ limit
  reports_eq : r.reports = (List.range chunks.length).map (reportAt limit chunks)
  taken_eq : r.taken ++ r.framer.lines.map .ofLine = (acceptedLines limit chunks).map .ofLine

namespace Framed

variable {limit : Nat} {chunks : List (List UInt8)} {r : FramerRun}

theorem start (limit : Nat) : Framed limit [] { framer := { limit } } where
  limit_eq := rfl
  discarding_iff := by simp [Overlong]
  tail_eq := rfl
  tail_le := Nat.zero_le _
  reports_eq := rfl
  taken_eq := rfl

theorem reports_concat (h : Framed limit chunks r) (chunk : List UInt8) :
    r.reports ++ [reportAt limit (chunks ++ [chunk]) chunks.length] =
      (List.range (chunks ++ [chunk]).length).map (reportAt limit (chunks ++ [chunk])) := by
  have earlier : ∀ n ∈ List.range chunks.length,
      reportAt limit chunks n = reportAt limit (chunks ++ [chunk]) n :=
    fun n hn => (reportAt_append (List.mem_range.mp hn) _).symm
  rw [h.reports_eq, List.map_congr_left earlier]
  simp [List.range_succ]

/-- The step of a feed after which nothing of the unfinished line is being passed over yet. -/
theorem holding (h : Framed limit chunks r) {chunk : List UInt8}
    {cut : List (List UInt8) × List UInt8}
    (fresh : ¬Overlong limit chunks (splitLines (chunks ++ [chunk]).flatten).1.length)
    (tail : cut.2 = (splitLines (chunks ++ [chunk]).flatten).2)
    (taken : r.taken ++ cut.1.map .ofLine = (acceptedLines limit (chunks ++ [chunk])).map .ofLine) :
    Framed limit (chunks ++ [chunk])
      { r with
        framer := (r.framer.holding cut).1
        reports := r.reports ++ [(r.framer.holding cut).2] } := by
  have long : Overlong limit (chunks ++ [chunk]) (splitLines (chunks ++ [chunk]).flatten).1.length ↔
      limit < cut.2.length := by
    rw [overlong_concat, overlongAt_last, tail, or_iff_right fresh, eq_self, true_and]
  have reports := h.reports_concat chunk
  rw [reportAt_last, ← tail] at reports
  rw [Framer.holding, h.limit_eq]
  by_cases hl : limit < cut.2.length
  · rw [if_pos ⟨hl, fresh⟩] at reports
    rw [if_pos hl]
    exact ⟨rfl, iff_of_true rfl (long.mpr hl), rfl, Nat.zero_le _, reports, taken⟩
  · rw [if_neg fun both => hl both.1] at reports
    rw [if_neg hl]
    exact ⟨rfl, iff_of_false Bool.false_ne_true (mt long.mp hl), tail, Nat.le_of_not_lt hl,
      reports, taken⟩

/-- The step of a feed that brings no end of the line that is being passed over. -/
theorem passOver (h : Framed limit chunks r) {chunk : List UInt8}
    (discarding : r.framer.discarding = true) (no_end : afterLineEnd? chunk = none) :
    Framed limit (chunks ++ [chunk]) { r with reports := r.reports ++ [none] } := by
  have cut := splitLines_concat chunks chunk
  rw [splitLines_of_afterLineEnd?_eq_none no_end, continueCut] at cut
  have long := h.discarding_iff.mp discarding
  have reports := h.reports_concat chunk
  rw [reportAt_last, cut, if_neg fun both => both.2 long] at reports
  have tail := h.tail_eq
  rw [if_pos discarding] at tail
  refine ⟨h.limit_eq, ?_, ?_, h.tail_le, reports, ?_⟩
  · rw [cut]
    exact iff_of_true discarding ((overlong_concat chunk).mpr (.inl long))
  · rw [if_pos discarding, tail]
  · rw [acceptedLines_concat, splitLines_of_afterLineEnd?_eq_none no_end, List.append_nil]
    exact h.taken_eq

theorem feed (h : Framed limit chunks r) (chunk : List UInt8) :
    Framed limit (chunks ++ [chunk]) (r.call (.feed chunk)) := by
  have cut := splitLines_concat chunks chunk
  have accepted := acceptedLines_concat limit chunks chunk
  have tail := h.tail_eq
  rw [FramerRun.call, Framer.feed]
  cases hd : r.framer.discarding with
  | true =>
      rw [hd, if_pos rfl] at tail
      have long := h.discarding_iff.mp hd
      cases ha : afterLineEnd? chunk with
      | none => exact h.passOver hd ha
      | some rest =>
          -- Only what follows the end of the long line is taken, as after a feed of the whole line.
          obtain ⟨line, hline⟩ := splitLines_of_afterLineEnd?_eq_some ha
          rw [hline, continueCut] at cut
          simp only [hline, if_pos long] at accepted
          simp only [if_true, Framer.accept_eq, tail]
          refine h.holding ?_ ?_ ?_
          · intro again
            have bound := again.le
            simp only [cut, List.length_append, List.length_cons] at bound
            omega
          · rw [cut, continueCut]
            split <;> simp [*]
          · rw [accepted, List.map_append, ← h.taken_eq, continueCut]
            split <;> simp [*]
  | false =>
      have short : ¬Overlong limit chunks (splitLines chunks.flatten).1.length := by
        rw [← h.discarding_iff, hd]
        exact Bool.false_ne_true
      rw [hd, if_neg Bool.false_ne_true] at tail
      simp only [if_neg short] at accepted
      simp only [Bool.false_eq_true, if_false, Framer.accept_eq, tail]
      refine h.holding ?_ ?_ ?_
      · intro again
        have same := Nat.le_antisymm again.le (length_splitLines_le chunk)
        exact short (same ▸ again)
      · rw [cut, continueCut, continueCut]
        split <;> rfl
      · rw [accepted, List.map_append, ← h.taken_eq, continueCut]
        split <;> simp [*]

theorem next (h : Framed limit chunks r) : Framed limit chunks (r.call .next) := by
  rw [FramerRun.call, Framer.next?]
  split
  · exact h
  · next p f hn =>
      have taken := h.taken_eq
      cases hl : r.framer.lines with
      | nil => simp [hl] at hn
      | cons line lines =>
          simp only [hl, Option.some.injEq, Prod.mk.injEq] at hn
          obtain ⟨rfl, rfl⟩ := hn
          rw [hl, List.map_cons] at taken
          refine ⟨h.limit_eq, h.discarding_iff, h.tail_eq, h.tail_le, h.reports_eq, ?_⟩
          rw [List.append_assoc, List.singleton_append]
          exact taken

theorem drain (h : Framed limit chunks r) : Framed limit chunks (r.call .drain) :=
  ⟨h.limit_eq, h.discarding_iff, h.tail_eq, h.tail_le, h.reports_eq, by
    simpa [FramerRun.call, Framer.drain] using h.taken_eq⟩

theorem after (limit : Nat) (calls : List FramerCall) :
    Framed limit (chunksOf calls) (FramerRun.after limit calls) := by
  induction calls using List.reverseRecOn with
  | nil => exact start limit
  | append_singleton calls call ih =>
      rw [FramerRun.after_concat, chunksOf_concat]
      cases call with
      | feed chunk => exact ih.feed chunk
      | next => simpa [FramerCall.chunk?] using ih.next
      | drain => simpa [FramerCall.chunk?] using ih.drain

end Framed

section law

variable {limit : Nat} {chunks : List (List UInt8)}

theorem overlong_take {line n : Nat} (h : n ≤ chunks.length) :
    Overlong limit (chunks.take n) line ↔ ∃ m < n, OverlongAt limit chunks line m := by
  have length : (chunks.take n).length = n := List.length_take_of_le h
  rw [Overlong, length]
  refine exists_congr fun m => and_congr_right fun hm => ?_
  rw [← overlongAt_append (by omega) (chunks.drop n), List.take_append_drop]

theorem reportAt_eq_some_iff {n size : Nat} (h : n < chunks.length) :
    reportAt limit chunks n = some size ↔
      OverlongAt limit chunks (cutAfter chunks (n + 1)).1.length n ∧
        (∀ m < n, ¬OverlongAt limit chunks (cutAfter chunks (n + 1)).1.length m) ∧
        (cutAfter chunks (n + 1)).2.length = size := by
  simp only [reportAt, overlong_take (Nat.le_of_lt h), Option.ite_none_right_eq_some,
    Option.some.injEq, and_assoc, not_exists, not_and]

/-- Of the chunks at whose end a line is too long one is the first. -/
theorem Overlong.exists_first {line : Nat} (h : Overlong limit chunks line) :
    ∃ n < chunks.length, OverlongAt limit chunks line n ∧
      ∀ m < n, ¬OverlongAt limit chunks line m := by
  have some : ∃ n, n < chunks.length ∧ OverlongAt limit chunks line n := h
  have first := Nat.find_spec some
  refine ⟨Nat.find some, first.1, first.2, fun m earlier at' => ?_⟩
  exact Nat.find_min some earlier ⟨Nat.lt_trans earlier first.1, at'⟩

/-- The bytes of a line that are there at the end of a chunk begin that line of the whole stream. -/
theorem cutAfter_prefix (chunks : List (List UInt8)) (n : Nat) :
    ∃ line, ((splitLines chunks.flatten).1 ++ [(splitLines chunks.flatten).2])[
        (cutAfter chunks n).1.length]? = some line ∧ (cutAfter chunks n).2 <+: line := by
  have whole : splitLines chunks.flatten =
      continueCut (cutAfter chunks n) (splitLines (chunks.drop n).flatten) := by
    rw [cutAfter, ← splitLines_append, ← List.flatten_append, List.take_append_drop]
  rw [whole, continueCut]
  cases hr : (splitLines (chunks.drop n).flatten).1 with
  | nil =>
      exact ⟨(cutAfter chunks n).2 ++ (splitLines (chunks.drop n).flatten).2, by simp,
        List.prefix_append _ _⟩
  | cons line more => exact ⟨(cutAfter chunks n).2 ++ line, by simp, List.prefix_append _ _⟩

theorem not_overlong_of_length_le (lines : ∀ line ∈ (splitLines chunks.flatten).1, line.length ≤ limit)
    (tail : (splitLines chunks.flatten).2.length ≤ limit) (line : Nat) :
    ¬Overlong limit chunks line := by
  rintro ⟨n, -, -, long⟩
  obtain ⟨whole, found, start⟩ := cutAfter_prefix chunks (n + 1)
  have short : whole.length ≤ limit := by
    rcases List.mem_append.mp (List.mem_of_getElem? found) with member | member
    · exact lines whole member
    · rw [List.mem_singleton.mp member]
      exact tail
  have := start.length_le
  omega

variable {r : FramerRun}

/-- A feed reports the line that is unfinished after it when that line is too long for the first time. -/
theorem Framed.reported_iff (h : Framed limit chunks r) (n line size : Nat) :
    (r.reports[n]? = some (some size) ∧ (cutAfter chunks (n + 1)).1.length = line) ↔
      n < chunks.length ∧ OverlongAt limit chunks line n ∧
        (∀ m < n, ¬OverlongAt limit chunks line m) ∧ (cutAfter chunks (n + 1)).2.length = size := by
  rw [h.reports_eq, List.getElem?_map]
  by_cases hn : n < chunks.length
  · rw [List.getElem?_range hn, Option.map_some, Option.some.injEq, reportAt_eq_some_iff hn]
    constructor
    · rintro ⟨first, rfl⟩
      exact ⟨hn, first⟩
    · rintro ⟨-, first⟩
      obtain rfl := first.1.1
      exact ⟨first, rfl⟩
  · simp [hn]

theorem Framed.overlong_of_report (h : Framed limit chunks r) {n size : Nat}
    (report : r.reports[n]? = some (some size)) :
    Overlong limit chunks (cutAfter chunks (n + 1)).1.length := by
  obtain ⟨hn, long, -⟩ := (h.reported_iff n _ size).mp ⟨report, rfl⟩
  exact ⟨n, hn, long⟩

theorem Framed.reported_once (h : Framed limit chunks r) (line : Nat) :
    Overlong limit chunks line ↔
      ∃! n, (∃ size, r.reports[n]? = some (some size)) ∧
        (cutAfter chunks (n + 1)).1.length = line := by
  constructor
  · intro long
    obtain ⟨n, hn, at', first⟩ := long.exists_first
    obtain ⟨report, ended⟩ := (h.reported_iff n line _).mpr ⟨hn, at', first, rfl⟩
    refine ⟨n, ⟨⟨_, report⟩, ended⟩, ?_⟩
    rintro m ⟨⟨size, hm⟩, ended'⟩
    obtain ⟨-, at'', first', -⟩ := (h.reported_iff m line size).mp ⟨hm, ended'⟩
    rcases Nat.lt_trichotomy m n with earlier | same | later
    · exact absurd at'' (first m earlier)
    · exact same
    · exact absurd at' (first' n later)
  · rintro ⟨n, ⟨⟨size, report⟩, rfl⟩, -⟩
    exact h.overlong_of_report report

/-- When no line exceeds the limit, no feed fails and every line is accepted, whatever the chunks. -/
theorem Framed.within_limit (h : Framed limit chunks r)
    (lines : ∀ line ∈ (splitLines chunks.flatten).1, line.length ≤ limit)
    (tail : (splitLines chunks.flatten).2.length ≤ limit) :
    (∀ report ∈ r.reports, report = none) ∧
      acceptedLines limit chunks = (splitLines chunks.flatten).1 := by
  have short := not_overlong_of_length_le lines tail
  refine ⟨?_, acceptedFrom_eq_self fun line _ => short line⟩
  intro report member
  cases report with
  | none => rfl
  | some size =>
      obtain ⟨n, hn⟩ := List.getElem?_of_mem member
      exact absurd (h.overlong_of_report hn) (short _)

/-- Taking the next message takes the first one that is left, if there is one. -/
theorem Framed.taken_next (h : Framed limit chunks r) :
    (r.call .next).taken =
      ((acceptedLines limit chunks).map .ofLine).take (r.taken.length + 1) := by
  rw [← h.taken_eq, List.take_length_add_append, FramerRun.call, Framer.next?]
  cases r.framer.lines with
  | nil => simp
  | cons line lines => simp

end law

/-- The framing law for a limit and a run of calls. -/
structure FramingLaw (limit : Nat) (calls : List FramerCall) : Prop where
  /-- The stream is its lines, each with its end, and the bytes after the last end. -/
  stream_eq : (splitLines (chunksOf calls).flatten).1.flatMap (· ++ [lineEnd]) ++
      (splitLines (chunksOf calls).flatten).2 = (chunksOf calls).flatten ∧
    (∀ line ∈ (splitLines (chunksOf calls).flatten).1, lineEnd ∉ line) ∧
    lineEnd ∉ (splitLines (chunksOf calls).flatten).2
  reports_length : (FramerRun.after limit calls).reports.length = (chunksOf calls).length
  reported_iff : ∀ n line size,
    ((FramerRun.after limit calls).reports[n]? = some (some size) ∧
      (cutAfter (chunksOf calls) (n + 1)).1.length = line) ↔
    n < (chunksOf calls).length ∧ OverlongAt limit (chunksOf calls) line n ∧
      (∀ m < n, ¬OverlongAt limit (chunksOf calls) line m) ∧
      (cutAfter (chunksOf calls) (n + 1)).2.length = size
  reported_once : ∀ line, Overlong limit (chunksOf calls) line ↔
    ∃! n, (∃ size, (FramerRun.after limit calls).reports[n]? = some (some size)) ∧
      (cutAfter (chunksOf calls) (n + 1)).1.length = line
  /-- The messages taken and those that can be taken are those of the accepted lines, in order. -/
  taken_eq : (FramerRun.after limit calls).taken ++
      (FramerRun.after limit calls).framer.lines.map .ofLine =
    (acceptedLines limit (chunksOf calls)).map .ofLine
  taken_next : (FramerRun.after limit (calls ++ [.next])).taken =
    ((acceptedLines limit (chunksOf calls)).map .ofLine).take
      ((FramerRun.after limit calls).taken.length + 1)
  taken_drain : (FramerRun.after limit (calls ++ [.drain])).taken =
    (acceptedLines limit (chunksOf calls)).map .ofLine
  reads : ∀ line, LineReads line (.ofLine line)
  tail_le : (FramerRun.after limit calls).framer.tail.length ≤ limit
  within_limit : (∀ line ∈ (splitLines (chunksOf calls).flatten).1, line.length ≤ limit) →
    (splitLines (chunksOf calls).flatten).2.length ≤ limit →
    (∀ report ∈ (FramerRun.after limit calls).reports, report = none) ∧
      acceptedLines limit (chunksOf calls) = (splitLines (chunksOf calls).flatten).1

theorem framing_law (limit : Nat) (calls : List FramerCall) : FramingLaw limit calls := by
  have framed := Framed.after limit calls
  refine ⟨⟨flatten_splitLines _, lineEnd_notMem_splitLines _⟩, ?_, framed.reported_iff,
    framed.reported_once, framed.taken_eq, ?_, ?_, lineReads_ofLine, framed.tail_le,
    framed.within_limit⟩
  · rw [framed.reports_eq, List.length_map, List.length_range]
  · rw [FramerRun.after_concat]
    exact framed.taken_next
  · rw [FramerRun.after_concat, ← framed.taken_eq]
    rfl

example : (FramerRun.after 4 [.feed [1, 2, 3, 4, 5], .feed [6, 10, 7, 10]]).reports =
    [some 5, none] := by
  decide

end Switchboard
