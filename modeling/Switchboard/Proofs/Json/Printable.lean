import Switchboard.Proofs.Json.Values

/-!
Control characters in JSON. Whatever stands in its strings, a value is written without a character below
the blank, since every such character is escaped.
-/

namespace Switchboard.Json

/-- Holds of texts without control characters. -/
def Printable (text : List Char) : Prop :=
  ∀ c ∈ text, 0x20 ≤ c.toNat

theorem printable_nil : Printable [] := by
  intro c member
  cases member

theorem printable_cons {c : Char} {text : List Char} (first : 0x20 ≤ c.toNat) (h : Printable text) :
    Printable (c :: text) :=
  List.forall_mem_cons.mpr ⟨first, h⟩

theorem printable_append {a b : List Char} (ha : Printable a) (hb : Printable b) :
    Printable (a ++ b) :=
  List.forall_mem_append.mpr ⟨ha, hb⟩

theorem printable_of_all {text : List Char} (h : text.all (fun c => 0x20 ≤ c.toNat) = true) :
    Printable text := by
  intro c member
  exact of_decide_eq_true (List.all_eq_true.mp h c member)

theorem toNat_digitChar : ∀ d < 16, 0x20 ≤ (Nat.digitChar d).toNat := by
  decide

theorem printable_escapeChar (c : Char) : Printable (escapeChar c) := by
  have escaped {text : List Char} (h : Printable text) : Printable ('\\' :: text) :=
    printable_cons (by decide) h
  have letter {d : Char} (h : 0x20 ≤ d.toNat) : Printable [d] := printable_cons h printable_nil
  unfold escapeChar
  split
  case h_8 =>
    split
    case isTrue low =>
      have high := toNat_digitChar (c.toNat / 16) (by omega)
      have last := toNat_digitChar (c.toNat % 16) (by omega)
      exact escaped <| printable_cons (by decide) <| printable_cons (by decide) <|
        printable_cons (by decide) <| printable_cons high <| letter last
    case isFalse printable => exact letter (by omega)
  all_goals exact escaped (letter (by decide))

theorem printable_stringChars (s : String) : Printable (stringChars s) := by
  have body : Printable (s.toList.flatMap escapeChar) := by
    intro d member
    obtain ⟨c, -, inside⟩ := List.mem_flatMap.mp member
    exact printable_escapeChar c d inside
  exact printable_cons (by decide) (printable_append body (printable_cons (by decide) printable_nil))

theorem printable_itemsChars (items : List Value) (each : ∀ item ∈ items, Printable item.chars) :
    Printable (Value.itemsChars items) := by
  induction items with
  | nil => exact printable_cons (by decide) printable_nil
  | cons item rest ih =>
      rw [Value.itemsChars]
      refine printable_cons (by decide) (printable_append (each item List.mem_cons_self) (ih ?_))
      intro other member
      exact each other (List.mem_cons_of_mem _ member)

theorem printable_member (name : String) {value more : List Char} (value' : Printable value)
    (more' : Printable more) : Printable (stringChars name ++ ':' :: (value ++ more)) :=
  printable_append (printable_stringChars name)
    (printable_cons (by decide) (printable_append value' more'))

theorem printable_membersChars (members : List (String × Value))
    (each : ∀ member ∈ members, Printable member.2.chars) :
    Printable (Value.membersChars members) := by
  induction members with
  | nil => exact printable_cons (by decide) printable_nil
  | cons member rest ih =>
      rw [Value.membersChars]
      refine printable_cons (by decide) (printable_member member.1 (each member List.mem_cons_self) (ih ?_))
      intro other inside
      exact each other (List.mem_cons_of_mem _ inside)

theorem printable_chars {depth : Nat} {v : Value} (nested : Nested depth v) : Printable v.chars := by
  induction nested with
  | null => exact printable_of_all rfl
  | boolean b => cases b <;> exact printable_of_all rfl
  | text s => exact printable_stringChars s
  | @list _ items _ ih =>
      cases items with
      | nil => exact printable_cons (by decide) (printable_cons (by decide) printable_nil)
      | cons item rest =>
          rw [Value.chars]
          refine printable_cons (by decide) (printable_append (ih item List.mem_cons_self) ?_)
          exact printable_itemsChars rest fun other member => ih other (List.mem_cons_of_mem _ member)
  | @object _ members _ ih =>
      cases members with
      | nil => exact printable_cons (by decide) (printable_cons (by decide) printable_nil)
      | cons member rest =>
          rw [Value.chars]
          refine printable_cons (by decide)
            (printable_member member.1 (ih member List.mem_cons_self) ?_)
          exact printable_membersChars rest fun other inside =>
            ih other (List.mem_cons_of_mem _ inside)

end Switchboard.Json
