import Switchboard.Decimal.Integer
import Switchboard.Text.Piece
import Switchboard.Text.Quoted

/-!
Runs of digits in a text: they are taken up to the first character that is no digit, and the number that they
were written for is read back from them.
-/

namespace Switchboard

section runs

variable {kind : Char → Bool} {run rest : List Char} {c : Char}

/-- The next character, if there is one, is not of a kind. -/
def Ends (kind : Char → Bool) (rest : List Char) : Prop :=
  ∀ c ∈ rest.head?, kind c = false

theorem ends_nil : Ends kind [] := by
  nofun

theorem ends_cons : Ends kind (c :: rest) ↔ kind c = false := by
  simp [Ends]

theorem Ends.mono {other : Char → Bool} (h : Ends kind rest) (wider : ∀ c, other c = true → kind c = true) :
    Ends other rest := by
  intro c first
  have none := h c first
  cases found : other c with
  | false => rfl
  | true => rw [wider c found] at none; cases none

theorem takeWhile_eq_nil (h : Ends kind rest) : rest.takeWhile kind = [] := by
  cases rest with
  | nil => rfl
  | cons c more => exact List.takeWhile_cons_of_neg (by simp [ends_cons.mp h])

theorem takeWhile_run (all : ∀ c ∈ run, kind c = true) (h : Ends kind rest) :
    (run ++ rest).takeWhile kind = run := by
  rw [List.takeWhile_append_of_pos all, takeWhile_eq_nil h, List.append_nil]

/-- What is left behind a run that was taken. -/
theorem drop_takeWhile {α : Type} (p : α → Bool) (l : List α) :
    l.drop (l.takeWhile p).length = l.dropWhile p := by
  calc
    l.drop (l.takeWhile p).length = (l.takeWhile p ++ l.dropWhile p).drop (l.takeWhile p).length := by
      rw [List.takeWhile_append_dropWhile]
    _ = l.dropWhile p := List.drop_left

theorem dropWhile_run (all : ∀ c ∈ run, kind c = true) (h : Ends kind rest) :
    (run ++ rest).dropWhile kind = rest := by
  rw [← drop_takeWhile, takeWhile_run all h, List.drop_left]

end runs

section decimal

variable {n : Nat} {c : Char} {more : List Char}

theorem isDigit_of_mem (member : c ∈ Nat.toDigits 10 n) : c.isDigit = true :=
  Nat.isDigit_of_mem_toDigits (by decide) (by decide) member

theorem exists_digit (n : Nat) : ∃ c more, Nat.toDigits 10 n = c :: more ∧ c.isDigit = true := by
  obtain ⟨c, more, split⟩ := List.exists_cons_of_ne_nil (Nat.toDigits_ne_nil (n := n) (b := 10))
  exact ⟨c, more, split, isDigit_of_mem (split ▸ List.mem_cons_self)⟩

/-- Only zero is written with a zero in front. -/
theorem eq_nil_of_zero (h : Nat.toDigits 10 n = '0' :: more) : more = [] := by
  induction n using Nat.strongRecOn generalizing more with
  | _ n ih =>
      rw [Nat.toDigits_eq_if (by decide)] at h
      split at h
      case isTrue _ => exact (List.cons.inj h).2.symm
      case isFalse large =>
        obtain ⟨first, others, front, -⟩ := exists_digit (n / 10)
        rw [front, List.cons_append, List.cons.injEq] at h
        rw [h.1] at front
        have alone := ih (n / 10) (by omega) front
        have value := Nat.ofDigitChars_toDigits (b := 10) (n := n / 10) (by decide) (by decide)
        rw [front, alone] at value
        have none : n / 10 = 0 := value.symm
        omega

theorem Decimal.ofDigits_toDigits (n : Nat) : ofDigits (Nat.toDigits 10 n) = n :=
  Nat.ofDigitChars_ten_toDigits

end decimal

section hex

variable {n : Nat} {c : Char}

/-- Holds of digits to base sixteen. -/
def isHexDigit (c : Char) : Bool :=
  (hexDigitValue? c).isSome

theorem hexDigitValue?_digitChar : ∀ d < 16, hexDigitValue? (Nat.digitChar d) = some d := by
  decide

theorem isHexDigit_of_isDigit (digit : c.isDigit = true) : isHexDigit c = true := by
  rw [isHexDigit, hexDigitValue?, if_pos digit]
  rfl

theorem isHexDigit_of_mem (member : c ∈ Text.hexDigits n) : isHexDigit c = true := by
  induction n using Nat.base_induction 16 (by decide) with
  | single m small =>
      rw [Text.hexDigits, Nat.toDigits_of_lt_base small, List.mem_singleton] at member
      rw [isHexDigit, member, hexDigitValue?_digitChar m small]
      rfl
  | digit m k small positive ih =>
      rw [Text.hexDigits, ← Nat.toDigits_append_toDigits (by decide) positive small, List.mem_append,
        Nat.toDigits_of_lt_base small, List.mem_singleton] at member
      obtain front | rfl := member
      · exact ih front
      · rw [isHexDigit, hexDigitValue?_digitChar k small]
        rfl

theorem numberToBase_concat (base : Nat) (digits : List Char) (c : Char) :
    numberToBase base (digits ++ [c]) = base * numberToBase base digits + (hexDigitValue? c).getD 0 := by
  rw [numberToBase, List.foldl_append]
  rfl

theorem numberToBase_hexDigits (n : Nat) : numberToBase 16 (Text.hexDigits n) = n := by
  induction n using Nat.base_induction 16 (by decide) with
  | single m small =>
      rw [Text.hexDigits, Nat.toDigits_of_lt_base small, ← List.nil_append [m.digitChar], numberToBase_concat,
        hexDigitValue?_digitChar m small]
      exact Nat.zero_add m
  | digit m k small positive ih =>
      rw [Text.hexDigits] at ih
      rw [Text.hexDigits, ← Nat.toDigits_append_toDigits (by decide) positive small,
        Nat.toDigits_of_lt_base small, numberToBase_concat, ih, hexDigitValue?_digitChar k small,
        Option.getD_some]

/-- A number below `16 ^ width` has at most so many digits. -/
theorem length_hexDigits_le {width : Nat} (positive : 0 < width) (small : n < Nat.pow 16 width) :
    (Text.hexDigits n).length ≤ width :=
  (Nat.length_toDigits_le_iff (by decide) positive).mpr small

end hex

end Switchboard
