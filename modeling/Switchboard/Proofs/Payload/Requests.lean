import Switchboard.Proofs.Payload.Framing

/-!
The requests of a stream. Each line makes one request, and a line that is too long makes a ping at the end
of the chunk that makes it too long. When all lines fit, how the stream is cut into chunks does not matter.
-/

namespace Switchboard

/-- What a line of a stream asks for. -/
inductive StreamRequest
  | message (p : Payload)
  /-- The line was too long, and its bytes are gone. -/
  | overlong

def StreamRequest.ofLine (line : List UInt8) : StreamRequest :=
  message (.ofLine line)

def StreamRequest.payload : StreamRequest → Payload
  | message p => p
  | overlong => .ping

def requestsFrom (limit : Nat) (chunks lines : List (List UInt8)) (first : Nat) : List StreamRequest :=
  (lines.zipIdx first).map fun (bytes, line) =>
    if Overlong limit chunks line then .overlong else .ofLine bytes

/-- The requests of a stream: one for each line that has ended, and one for the unfinished line when it is
too long already. -/
def requests (limit : Nat) (chunks : List (List UInt8)) : List StreamRequest :=
  requestsFrom limit chunks (splitLines chunks.flatten).1 0 ++
    if Overlong limit chunks (splitLines chunks.flatten).1.length then [.overlong] else []

/-- The lines that end with a chunk and are not too long. -/
def endedLines (limit : Nat) (chunks : List (List UInt8)) (chunk : List UInt8) : List (List UInt8) :=
  match (splitLines chunk).1 with
  | [] => []
  | line :: more =>
    if Overlong limit chunks (splitLines chunks.flatten).1.length then more
    else ((splitLines chunks.flatten).2 ++ line) :: more

/-- The requests of a chunk: the lines that end with it, and after them a ping if it makes a line too
long. -/
def newRequests (limit : Nat) (chunks : List (List UInt8)) (chunk : List UInt8) : List StreamRequest :=
  (endedLines limit chunks chunk).map .ofLine ++
    if (reportAt limit (chunks ++ [chunk]) chunks.length).isSome then [.overlong] else []

section requests

variable {limit : Nat} {chunks : List (List UInt8)}

theorem requestsFrom_congr {more lines : List (List UInt8)} {first : Nat}
    (same : ∀ line, first ≤ line → line < first + lines.length →
      (Overlong limit chunks line ↔ Overlong limit more line)) :
    requestsFrom limit chunks lines first = requestsFrom limit more lines first := by
  refine List.map_congr_left ?_
  intro entry member
  have low := List.le_snd_of_mem_zipIdx member
  have high := List.snd_lt_add_of_mem_zipIdx member
  simp only [same entry.2 low (by omega)]

theorem requestsFrom_of_not_overlong {lines : List (List UInt8)} {first : Nat}
    (short : ∀ line, first ≤ line → ¬Overlong limit chunks line) :
    requestsFrom limit chunks lines first = lines.map .ofLine := by
  have each : ∀ entry ∈ lines.zipIdx first,
      (if Overlong limit chunks entry.2 then StreamRequest.overlong else .ofLine entry.1) =
        .ofLine entry.1 := by
    intro entry member
    exact if_neg (short entry.2 (List.le_snd_of_mem_zipIdx member))
  rw [requestsFrom, List.map_congr_left each]
  calc
    (lines.zipIdx first).map (fun entry => StreamRequest.ofLine entry.1) =
        ((lines.zipIdx first).map Prod.fst).map .ofLine := by
      rw [List.map_map]
      rfl
    _ = lines.map .ofLine := by rw [List.zipIdx_map_fst]

theorem requestsFrom_append (lines more : List (List UInt8)) (first : Nat) :
    requestsFrom limit chunks (lines ++ more) first =
      requestsFrom limit chunks lines first ++
        requestsFrom limit chunks more (first + lines.length) := by
  rw [requestsFrom, List.zipIdx_append, List.map_append, requestsFrom, requestsFrom]

theorem isSome_reportAt_last (limit : Nat) (chunks : List (List UInt8)) (chunk : List UInt8) :
    (reportAt limit (chunks ++ [chunk]) chunks.length).isSome ↔
      Overlong limit (chunks ++ [chunk]) (splitLines (chunks ++ [chunk]).flatten).1.length ∧
        ¬Overlong limit chunks (splitLines (chunks ++ [chunk]).flatten).1.length := by
  rw [reportAt_last, overlong_concat, overlongAt_last, eq_self, true_and]
  split <;> rename_i reported
  · exact iff_of_true rfl ⟨.inr reported.1, reported.2⟩
  · refine iff_of_false Bool.false_ne_true ?_
    rintro ⟨earlier | long, fresh⟩
    · exact fresh earlier
    · exact reported ⟨long, fresh⟩

theorem requests_concat (limit : Nat) (chunks : List (List UInt8)) (chunk : List UInt8) :
    requests limit (chunks ++ [chunk]) = requests limit chunks ++ newRequests limit chunks chunk := by
  have settled : requestsFrom limit (chunks ++ [chunk]) (splitLines (chunks ++ [chunk]).flatten).1 0 =
      requestsFrom limit chunks (splitLines (chunks ++ [chunk]).flatten).1 0 :=
    requestsFrom_congr fun line _ inside => overlong_concat_of_lt chunk (by omega)
  -- The chunk is reported when the line that it leaves unfinished has become too long with it.
  have reported := isSome_reportAt_last limit chunks chunk
  rw [requests, settled, newRequests, endedLines]
  simp only [reported]
  cases ended : (splitLines chunk).1 with
  | nil =>
      -- No line ends, so the unfinished line is the same before and after.
      have cut : (splitLines (chunks ++ [chunk]).flatten).1 = (splitLines chunks.flatten).1 := by
        rw [splitLines_concat, continueCut, ended]
      have kept : Overlong limit chunks (splitLines chunks.flatten).1.length →
          Overlong limit (chunks ++ [chunk]) (splitLines chunks.flatten).1.length :=
        fun long => (overlong_concat chunk).mpr (.inl long)
      rw [requests, cut, List.append_assoc, List.map_nil, List.nil_append]
      by_cases long : Overlong limit chunks (splitLines chunks.flatten).1.length
      · simp [long, kept long]
      · simp [long]
  | cons line more =>
      have cut : (splitLines (chunks ++ [chunk]).flatten).1 =
          (splitLines chunks.flatten).1 ++ ((splitLines chunks.flatten).2 ++ line) :: more := by
        rw [splitLines_concat, continueCut, ended]
      have beyond : ∀ number, (splitLines chunks.flatten).1.length + 1 ≤ number →
          ¬Overlong limit chunks number := by
        intro number later long
        have := long.le
        omega
      have rest : requestsFrom limit chunks more ((splitLines chunks.flatten).1.length + 1) =
          more.map .ofLine := requestsFrom_of_not_overlong beyond
      have fresh : ¬Overlong limit chunks (splitLines (chunks ++ [chunk]).flatten).1.length := by
        rw [cut, List.length_append, List.length_cons]
        exact beyond _ (by omega)
      have first : requestsFrom limit chunks (((splitLines chunks.flatten).2 ++ line) :: more)
            (splitLines chunks.flatten).1.length =
          (if Overlong limit chunks (splitLines chunks.flatten).1.length then .overlong
            else .ofLine ((splitLines chunks.flatten).2 ++ line)) :: more.map .ofLine := by
        rw [← rest]
        rfl
      simp only [fresh, not_false_eq_true, and_true]
      rw [requests, cut, requestsFrom_append, Nat.zero_add, first, List.append_assoc]
      split <;> simp [*]

end requests

/-- A framer between two chunks, when all that it has given is taken. -/
def Framer.drained (f : Framer) (limit : Nat) (chunks : List (List UInt8)) : FramerRun where
  framer := f
  reports := (List.range chunks.length).map (reportAt limit chunks)
  taken := (acceptedLines limit chunks).map .ofLine

theorem Framed.receive {limit : Nat} {chunks : List (List UInt8)} {f fed : Framer} {chunk : List UInt8}
    {tooLong : Option Nat} (h : Framed limit chunks (f.drained limit chunks))
    (feed : f.feed chunk = (fed, tooLong)) :
    fed.lines.map .ofLine ++ (if tooLong.isSome then [.overlong] else []) =
        newRequests limit chunks chunk ∧
      Framed limit (chunks ++ [chunk]) ({ fed with lines := [] }.drained limit (chunks ++ [chunk])) := by
  have next := h.feed chunk
  simp only [FramerRun.call, Framer.drained, feed] at next
  have reported : tooLong = reportAt limit (chunks ++ [chunk]) chunks.length := by
    have same := next.reports_eq.trans (h.reports_concat chunk).symm
    exact List.singleton_inj.mp (List.append_cancel_left same)
  have taken : fed.lines.map Payload.ofLine = (endedLines limit chunks chunk).map .ofLine := by
    have all := next.taken_eq
    rw [acceptedLines_concat, List.map_append] at all
    exact List.append_cancel_left all
  refine ⟨?_, next.limit_eq, next.discarding_iff, next.tail_eq, next.tail_le, rfl, List.append_nil _⟩
  have messages (lines : List (List UInt8)) :
      lines.map StreamRequest.ofLine = (lines.map Payload.ofLine).map .message := List.map_map.symm
  rw [newRequests, messages, messages, taken, reported]

/-- The lines of a stream fit the limit, and so does what follows the last of them. -/
def Fits (limit : Nat) (stream : List UInt8) : Prop :=
  (∀ line ∈ (splitLines stream).1, line.length ≤ limit) ∧ (splitLines stream).2.length ≤ limit

/-- When every line fits, the requests are those of the lines, whatever the chunks. -/
theorem requests_of_fits {limit : Nat} {chunks : List (List UInt8)} (fits : Fits limit chunks.flatten) :
    requests limit chunks = (splitLines chunks.flatten).1.map .ofLine := by
  have short := not_overlong_of_length_le fits.1 fits.2
  rw [requests, requestsFrom_of_not_overlong fun line _ => short line, if_neg (short _), List.append_nil]

end Switchboard
