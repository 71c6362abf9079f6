import Switchboard.Payload.Frame

/-!
Lines of a stream. Cutting a stream chunk by chunk gives the lines of the whole stream, when the bytes
after the last line end are carried over to the next chunk. A line is read without the one carriage
return that may end it, and bytes that encode no text read as a ping.
-/

namespace Switchboard

/-- The cut of a stream, given the cut of its beginning and the cut of what follows. -/
def continueCut (cut next : List (List UInt8) × List UInt8) : List (List UInt8) × List UInt8 :=
  match next.1 with
  | [] => (cut.1, cut.2 ++ next.2)
  | line :: more => (cut.1 ++ (cut.2 ++ line) :: more, next.2)

theorem continueCut_empty (cut : List (List UInt8) × List UInt8) :
    continueCut ([], []) cut = cut := by
  obtain ⟨lines, tail⟩ := cut
  cases lines <;> rfl

theorem continueCut_assoc (a b c : List (List UInt8) × List UInt8) :
    continueCut (continueCut a b) c = continueCut a (continueCut b c) := by
  obtain ⟨as, atail⟩ := a
  obtain ⟨bs, btail⟩ := b
  obtain ⟨cs, ctail⟩ := c
  cases bs <;> cases cs <;> simp [continueCut]

theorem splitLines_cons_lineEnd (rest : List UInt8) :
    splitLines (lineEnd :: rest) = ([] :: (splitLines rest).1, (splitLines rest).2) := rfl

theorem splitLines_cons_of_ne {byte : UInt8} (rest : List UInt8) (h : byte ≠ lineEnd) :
    splitLines (byte :: rest) = continueCut ([], [byte]) (splitLines rest) := by
  rw [splitLines, List.foldr_cons, ← splitLines]
  obtain ⟨lines, tail⟩ := splitLines rest
  cases lines with
  | nil => simp [continueCut, h]
  | cons line more => simp [continueCut, h]

theorem splitLines_append (a b : List UInt8) :
    splitLines (a ++ b) = continueCut (splitLines a) (splitLines b) := by
  induction a with
  | nil => exact (continueCut_empty _).symm
  | cons byte rest ih =>
      by_cases h : byte = lineEnd
      · subst h
        rw [List.cons_append, splitLines_cons_lineEnd, splitLines_cons_lineEnd, ih]
        unfold continueCut
        split <;> simp
      · rw [List.cons_append, splitLines_cons_of_ne _ h, splitLines_cons_of_ne _ h, ih,
          continueCut_assoc]

/-- No line holds a line end, and neither do the bytes after the last. -/
theorem lineEnd_notMem_splitLines (bytes : List UInt8) :
    (∀ line ∈ (splitLines bytes).1, lineEnd ∉ line) ∧ lineEnd ∉ (splitLines bytes).2 := by
  induction bytes with
  | nil => simp [splitLines]
  | cons byte rest ih =>
      by_cases h : byte = lineEnd
      · subst h
        rw [splitLines_cons_lineEnd]
        simpa using ih
      · have hne : ¬lineEnd = byte := fun same => h same.symm
        rw [splitLines_cons_of_ne _ h]
        generalize splitLines rest = cut at ih
        obtain ⟨lines, tail⟩ := cut
        cases lines <;> simp_all [continueCut]

theorem splitLines_of_notMem {bytes : List UInt8} (unbroken : lineEnd ∉ bytes) :
    splitLines bytes = ([], bytes) := by
  induction bytes with
  | nil => rfl
  | cons byte rest ih =>
      rw [List.mem_cons, not_or] at unbroken
      rw [splitLines_cons_of_ne _ fun same => unbroken.1 same.symm, ih unbroken.2]
      rfl

/-- Lines with their ends, and bytes without one behind them, are cut into the same again. -/
theorem splitLines_lines {lines : List (List UInt8)} {tail : List UInt8}
    (unbroken : ∀ line ∈ lines, lineEnd ∉ line) (open_end : lineEnd ∉ tail) :
    splitLines (lines.flatMap (· ++ [lineEnd]) ++ tail) = (lines, tail) := by
  induction lines with
  | nil => exact splitLines_of_notMem open_end
  | cons line rest ih =>
      obtain ⟨first, later⟩ := List.forall_mem_cons.mp unbroken
      rw [List.flatMap_cons, List.append_assoc, List.append_assoc, List.singleton_append,
        splitLines_append, splitLines_of_notMem first, splitLines_cons_lineEnd, ih later]
      simp [continueCut]

theorem splitLines_of_afterLineEnd?_eq_none {bytes : List UInt8} (h : afterLineEnd? bytes = none) :
    splitLines bytes = ([], bytes) := by
  induction bytes with
  | nil => rfl
  | cons byte rest ih =>
      by_cases hb : byte = lineEnd
      · simp [afterLineEnd?, hb] at h
      · have hrest : afterLineEnd? rest = none := by simpa [afterLineEnd?, hb] using h
        rw [splitLines_cons_of_ne _ hb, ih hrest]
        rfl

theorem splitLines_of_afterLineEnd?_eq_some {bytes rest : List UInt8}
    (h : afterLineEnd? bytes = some rest) :
    ∃ line, splitLines bytes = (line :: (splitLines rest).1, (splitLines rest).2) := by
  induction bytes with
  | nil => simp [afterLineEnd?] at h
  | cons byte more ih =>
      by_cases hb : byte = lineEnd
      · subst hb
        have same : more = rest := by simpa [afterLineEnd?] using h
        exact ⟨[], by rw [same, splitLines_cons_lineEnd]⟩
      · have hmore : afterLineEnd? more = some rest := by simpa [afterLineEnd?, hb] using h
        obtain ⟨line, hline⟩ := ih hmore
        exact ⟨byte :: line, by rw [splitLines_cons_of_ne _ hb, hline]; rfl⟩

theorem toList_loop (bytes : ByteArray) (i : Nat) (before : List UInt8) :
    ByteArray.toList.loop bytes i before = before.reverse ++ bytes.data.toList.drop i := by
  fun_induction ByteArray.toList.loop bytes i before with
  | case1 i before inside ih =>
      have bound : i < bytes.data.toList.length := inside
      rw [ih, List.drop_eq_getElem_cons bound, List.reverse_cons, List.append_assoc]
      simp [ByteArray.get!, getElem!_pos bytes.data i inside]
  | case2 i before outside =>
      have bound : bytes.data.toList.length ≤ i := Nat.le_of_not_lt outside
      rw [List.drop_of_length_le bound, List.append_nil]

theorem toList_toUTF8 (text : String) : text.toUTF8.toList = text.toByteArray.data.toList := by
  rw [ByteArray.toList, toList_loop]
  rfl

theorem textOfBytes?_eq_some_iff {bytes : List UInt8} {text : String} :
    textOfBytes? bytes = some text ↔ text.toUTF8.toList = bytes := by
  rw [toList_toUTF8, textOfBytes?, String.fromUTF8?]
  constructor
  · intro h
    split at h
    · cases h
      simp [String.fromUTF8]
    · cases h
  · rintro rfl
    rw [dif_pos text.isValidUTF8]
    rfl

/-- What a line says: its bytes without one carriage return at the end. -/
def LineBody (line body : List UInt8) : Prop :=
  line = body ++ [carriageReturn] ∨ line = body ∧ ∀ rest, line ≠ rest ++ [carriageReturn]

/-- What a line reads as: the message that its text decodes to, and a ping when it is no text. -/
def LineReads (line : List UInt8) (p : Payload) : Prop :=
  ∃ body, LineBody line body ∧
    ((∃ text : String, text.toUTF8.toList = body ∧ p = .decode text) ∨
      (∀ text : String, text.toUTF8.toList ≠ body) ∧ p = .ping)

theorem lineBody_dropCarriageReturn (line : List UInt8) : LineBody line (dropCarriageReturn line) := by
  rw [dropCarriageReturn, LineBody]
  by_cases h : line.getLast? = some carriageReturn
  · rw [if_pos (by simp [h])]
    obtain ⟨rest, rfl⟩ := List.getLast?_eq_some_iff.mp h
    exact .inl (by rw [List.dropLast_concat])
  · rw [if_neg (by simpa using h)]
    refine .inr ⟨rfl, fun rest same => h ?_⟩
    rw [same, List.getLast?_concat]

theorem lineReads_ofLine (line : List UInt8) : LineReads line (.ofLine line) := by
  refine ⟨dropCarriageReturn line, lineBody_dropCarriageReturn line, ?_⟩
  rw [Payload.ofLine]
  cases h : textOfBytes? (dropCarriageReturn line) with
  | some text => exact .inl ⟨text, textOfBytes?_eq_some_iff.mp h, rfl⟩
  | none =>
      refine .inr ⟨fun text same => ?_, rfl⟩
      rw [textOfBytes?_eq_some_iff.mpr same] at h
      cases h

end Switchboard
