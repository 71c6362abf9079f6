import Switchboard.Json.Cursor

/-!
Reading tokens. Each lemma says at which characters a reader succeeds and which characters are left;
spaces may stand before every token.
-/

namespace Switchboard.Json

def AllSpaces (blank : List Char) : Prop :=
  ∀ c ∈ blank, isSpace c = true

theorem allSpaces_of_all {blank : List Char} (h : blank.all isSpace = true) : AllSpaces blank :=
  List.all_eq_true.mp h

theorem allSpaces_nil : AllSpaces [] := by
  intro c member
  cases member

/-- What may follow a value: a separator, a space, a closing bracket or nothing. -/
def Delimits (rest : List Char) : Prop :=
  ∀ c ∈ rest.head?, c = ',' ∨ c = ']' ∨ c = '\x7d' ∨ isSpace c = true

theorem delimits_nil : Delimits [] := by
  intro c member
  cases member

theorem delimits_cons {c : Char} (more : List Char)
    (h : c = ',' ∨ c = ']' ∨ c = '\x7d' ∨ isSpace c = true) : Delimits (c :: more) := by
  intro d member
  obtain rfl : c = d := by simpa using member
  exact h

theorem Delimits.after_spaces {blank rest : List Char} (blanks : AllSpaces blank)
    (h : Delimits rest) : Delimits (blank ++ rest) := by
  cases blank with
  | nil => exact h
  | cons c more => exact delimits_cons _ (.inr (.inr (.inr (blanks c List.mem_cons_self))))

/-- What stands before an item or a name: spaces, and a comma unless it is the first. -/
inductive Separates : Bool → List Char → Prop
  | first {blank : List Char} : AllSpaces blank → Separates true blank
  | later {blank gap : List Char} :
    AllSpaces blank → AllSpaces gap → Separates false (blank ++ ',' :: gap)

theorem separates_comma : Separates false [','] :=
  @Separates.later [] [] allSpaces_nil allSpaces_nil

theorem Separates.delimits {lead : List Char} (h : Separates false lead) (more : List Char) :
    Delimits (lead ++ more) := by
  cases h with
  | later blanks _ =>
      rw [List.append_assoc]
      exact (delimits_cons _ (.inl rfl)).after_spaces blanks

/-- A reader takes exactly a text and gives a value, whatever follows. -/
def Reads {α : Type} (read : Cursor → Reading α) (text : List Char) (x : α) : Prop :=
  ∀ (at' : Cursor) (rest : List Char), Delimits rest → at'.rest = text ++ rest →
    ∃ next : Cursor, next.rest = rest ∧ read at' = .ok (x, next)

namespace Cursor

variable {at' : Cursor} {blank more : List Char} {c : Char}

theorem skipSpaces_rest (rest : List Char) (offset : Nat) :
    (skipSpaces rest offset).rest = rest.dropWhile isSpace := by
  induction rest generalizing offset with
  | nil => rfl
  | cons c more ih =>
      rw [skipSpaces, List.dropWhile_cons]
      split
      · exact ih _
      · rfl

theorem token_rest (blanks : AllSpaces blank) (solid : isSpace c = false)
    (h : at'.rest = blank ++ c :: more) : at'.token.rest = c :: more := by
  rw [token, skipSpaces_rest, h, List.dropWhile_append_of_pos blanks,
    List.dropWhile_cons_of_neg (by simp [solid])]

theorem advance_rest (h : at'.rest = c :: more) : at'.advance.rest = more := by
  simp only [advance, h]

theorem colon_eq (blanks : AllSpaces blank) (h : at'.rest = blank ++ ':' :: more) :
    ∃ next : Cursor, next.rest = more ∧ at'.colon = .ok next := by
  have token := token_rest blanks (by decide) h
  refine ⟨at'.token.advance, advance_rest token, ?_⟩
  simp only [colon, token]

theorem closeList_eq (blanks : AllSpaces blank) (h : at'.rest = blank ++ ']' :: more) :
    ∃ next : Cursor, next.rest = more ∧ at'.closeList = .ok next := by
  have token := token_rest blanks (by decide) h
  refine ⟨at'.token.advance, advance_rest token, ?_⟩
  simp only [closeList, token]

theorem closeObject_eq (blanks : AllSpaces blank) (h : at'.rest = blank ++ '\x7d' :: more) :
    ∃ next : Cursor, next.rest = more ∧ at'.closeObject = .ok next := by
  have token := token_rest blanks (by decide) h
  refine ⟨at'.token.advance, advance_rest token, ?_⟩
  simp only [closeObject, token]

theorem nextItem_end (isFirst : Bool) (blanks : AllSpaces blank)
    (h : at'.rest = blank ++ ']' :: more) : at'.nextItem isFirst = .ok none := by
  have token := token_rest blanks (by decide) h
  simp only [nextItem, token]

theorem nextItem_eq {isFirst : Bool} {lead : List Char} (leads : Separates isFirst lead)
    (solid : isSpace c = false) (noClose : c ≠ ']') (h : at'.rest = lead ++ c :: more) :
    ∃ place : Cursor, place.rest = c :: more ∧ at'.nextItem isFirst = .ok (some place) := by
  cases leads with
  | first blanks =>
      have token := token_rest blanks solid h
      refine ⟨at'.token, token, ?_⟩
      simp only [nextItem, token]
  | later blanks gaps =>
      rw [List.append_assoc] at h
      have token := token_rest blanks (by decide) h
      have after := token_rest gaps solid (advance_rest token)
      refine ⟨at'.token.advance.token, after, ?_⟩
      simp only [nextItem, token, after]
      split
      case h_1 heq =>
        cases heq
        exact absurd rfl noClose
      case h_2 heq => cases heq
      case h_3 => rfl

theorem nextName_end (isFirst : Bool) (blanks : AllSpaces blank)
    (h : at'.rest = blank ++ '\x7d' :: more) : at'.nextName isFirst = .ok none := by
  have token := token_rest blanks (by decide) h
  simp only [nextName, token]

theorem nextName_eq {isFirst : Bool} {lead : List Char} (leads : Separates isFirst lead)
    (h : at'.rest = lead ++ '"' :: more) :
    ∃ place : Cursor, place.rest = '"' :: more ∧ at'.nextName isFirst = .ok (some place) := by
  cases leads with
  | first blanks =>
      have token := token_rest blanks (by decide) h
      refine ⟨at'.token, token, ?_⟩
      simp only [nextName, token]
  | later blanks gaps =>
      rw [List.append_assoc] at h
      have token := token_rest blanks (by decide) h
      have after := token_rest gaps (by decide) (advance_rest token)
      refine ⟨at'.token.advance.token, after, ?_⟩
      simp only [nextName, token, after]

end Cursor

end Switchboard.Json
