import Switchboard.Proofs.Json.Loops
import Switchboard.Proofs.Text.Blank

/-!
Reading what was written: a value whose brackets are not nested too deep is read back from its text.
-/

namespace Switchboard.Json

/-- Holds of values without numbers that open at most so many brackets inside each other. -/
inductive Nested : Nat → Value → Prop
  | null {depth : Nat} : Nested depth .null
  | boolean {depth : Nat} (b : Bool) : Nested depth (.boolean b)
  | text {depth : Nat} (s : String) : Nested depth (.text s)
  | list {depth : Nat} {items : List Value} :
    (∀ item ∈ items, Nested depth item) → Nested (depth + 1) (.list items)
  | object {depth : Nat} {members : List (String × Value)} :
    (∀ member ∈ members, Nested depth member.2) → Nested (depth + 1) (.object members)

theorem startsItem_object (members : List (String × Value)) : StartsItem (Value.object members).chars := by
  cases members with
  | nil => exact ⟨'\x7b', _, rfl, by decide, by decide⟩
  | cons member rest => exact ⟨'\x7b', _, rfl, by decide, by decide⟩

theorem startsItem_chars {depth : Nat} {v : Value} (nested : Nested depth v) :
    StartsItem v.chars := by
  cases nested with
  | null => exact ⟨'n', _, rfl, by decide, by decide⟩
  | boolean b =>
      cases b with
      | false => exact ⟨'f', _, rfl, by decide, by decide⟩
      | true => exact ⟨'t', _, rfl, by decide, by decide⟩
  | text s => exact ⟨'"', _, rfl, by decide, by decide⟩
  | @list _ items _ =>
      cases items with
      | nil => exact ⟨'[', _, rfl, by decide, by decide⟩
      | cons item rest => exact ⟨'[', _, rfl, by decide, by decide⟩
  | @object _ members _ => exact startsItem_object members

section lists

variable {α : Type} {read : Cursor → Reading α} (write : α → Value)

theorem itemsText_chars (items : List α)
    (each : ∀ x ∈ items, Reads read (write x).chars x ∧ StartsItem (write x).chars) :
    ∃ text, Value.itemsChars (items.map write) = text ++ [']'] ∧ ItemsText read false text items := by
  induction items with
  | nil => exact ⟨[], rfl, .done false allSpaces_nil⟩
  | cons x rest ih =>
      obtain ⟨more, chars, tail⟩ := ih fun other member => each other (List.mem_cons_of_mem _ member)
      obtain ⟨reads, starts⟩ := each x List.mem_cons_self
      refine ⟨_, ?_, .item separates_comma starts reads tail⟩
      rw [List.map_cons, Value.itemsChars, chars]
      simp

theorem chars_list (items : List α)
    (each : ∀ x ∈ items, Reads read (write x).chars x ∧ StartsItem (write x).chars) :
    ∃ text, (Value.list (items.map write)).chars = '[' :: (text ++ [']']) ∧
      ItemsText read true text items := by
  cases items with
  | nil => exact ⟨[], rfl, .done true allSpaces_nil⟩
  | cons x rest =>
      obtain ⟨more, chars, tail⟩ :=
        itemsText_chars write rest fun other member => each other (List.mem_cons_of_mem _ member)
      obtain ⟨reads, starts⟩ := each x List.mem_cons_self
      refine ⟨_, ?_, .item (.first allSpaces_nil) starts reads tail⟩
      rw [List.map_cons, Value.chars, chars]
      simp

end lists

section objects

variable {read : Cursor → Reading Value}

theorem membersText_chars (members : List (String × Value))
    (each : ∀ member ∈ members, Reads read member.2.chars member.2) :
    ∃ text, Value.membersChars members = text ++ ['\x7d'] ∧ MembersText read false text members := by
  induction members with
  | nil => exact ⟨[], rfl, .done false allSpaces_nil⟩
  | cons member rest ih =>
      obtain ⟨more, chars, tail⟩ := ih fun other member => each other (List.mem_cons_of_mem _ member)
      have name := nameText_stringChars separates_comma member.1
      refine ⟨_, ?_, .member name (each member List.mem_cons_self) tail⟩
      rw [Value.membersChars, chars]
      simp

theorem chars_object (members : List (String × Value))
    (each : ∀ member ∈ members, Reads read member.2.chars member.2) :
    ∃ text, (Value.object members).chars = '\x7b' :: (text ++ ['\x7d']) ∧
      MembersText read true text members := by
  cases members with
  | nil => exact ⟨[], rfl, .done true allSpaces_nil⟩
  | cons member rest =>
      obtain ⟨more, chars, tail⟩ :=
        membersText_chars rest fun other member => each other (List.mem_cons_of_mem _ member)
      have name := nameText_stringChars (.first allSpaces_nil) member.1
      refine ⟨_, ?_, .member name (each member List.mem_cons_self) tail⟩
      rw [Value.chars, chars]
      simp

end objects

theorem object_ends (members : List (String × Value)) :
    ∃ text, (Value.object members).chars = '\x7b' :: (text ++ ['\x7d']) := by
  have later (members : List (String × Value)) :
      ∃ text, Value.membersChars members = text ++ ['\x7d'] := by
    induction members with
    | nil => exact ⟨[], rfl⟩
    | cons member rest ih =>
        obtain ⟨text, chars⟩ := ih
        refine ⟨',' :: (stringChars member.1 ++ ':' :: (member.2.chars ++ text)), ?_⟩
        rw [Value.membersChars, chars]
        simp
  cases members with
  | nil => exact ⟨[], rfl⟩
  | cons member rest =>
      obtain ⟨text, chars⟩ := later rest
      refine ⟨stringChars member.1 ++ ':' :: (member.2.chars ++ text), ?_⟩
      rw [Value.chars, chars]
      simp

theorem trim_compact_object (members : List (String × Value)) :
    Text.trim (Value.object members).compact = (Value.object members).compact := by
  obtain ⟨text, chars⟩ := object_ends members
  rw [Text.trim, Value.compact, String.toList_ofList, chars,
    Text.trimChars_of_solid text (by decide) (by decide)]

namespace Cursor

variable {at' : Cursor} {more : List Char}

theorem letters_eq (word : List Char) (h : at'.rest = word ++ more) :
    ∃ next : Cursor, next.rest = more ∧ letters word at' = .ok next := by
  induction word generalizing at' with
  | nil => exact ⟨at', h, rfl⟩
  | cons letter word ih =>
      obtain ⟨next, left, read⟩ := ih (advance_rest h)
      refine ⟨next, left, ?_⟩
      rw [letters, h]
      simp only [List.cons_append, BEq.rfl, if_true, read]

/-- What does not begin with a bracket is no list and no object. -/
theorem value_scalar (depth : Nat) {c : Char} (h : at'.token.rest = c :: more) (noList : c ≠ '[')
    (noObject : c ≠ '\x7b') : value depth at' = at'.token.scalar := by
  have none : at'.token.opening? = none := by
    rw [opening?, h]
    split
    case h_1 heq =>
      cases heq
      exact absurd rfl noList
    case h_2 heq =>
      cases heq
      exact absurd rfl noObject
    case h_3 => rfl
  cases depth <;> simp only [value, none]

theorem reads_literal (depth : Nat) {c : Char} {word : List Char} {v : Value} (solid : isSpace c = false)
    (noList : c ≠ '[') (noObject : c ≠ '\x7b')
    (scalar_eq : ∀ (at' : Cursor) (more : List Char), at'.rest = c :: more →
      at'.scalar = at'.literal word v) :
    Reads (value depth) (c :: word) v := by
  intro at' rest _ here
  have token := token_rest allSpaces_nil solid here
  obtain ⟨next, left, read⟩ := letters_eq word (advance_rest token)
  refine ⟨next, left, ?_⟩
  rw [value_scalar depth token noList noObject, scalar_eq _ _ token, literal, read]
  rfl

/-- An object is read back if the values of its members are. -/
theorem reads_value_object {depth : Nat} {members : List (String × Value)}
    (each : ∀ member ∈ members, Reads (value depth) member.2.chars member.2) :
    Reads (value (depth + 1)) (Value.object members).chars (.object members) := by
  intro at' rest _ here
  obtain ⟨text, chars, membersText⟩ := chars_object members each
  rw [chars, List.cons_append, List.append_assoc] at here
  have token := token_rest allSpaces_nil (by decide) here
  obtain ⟨next, left, read⟩ := members_eq membersText token
  refine ⟨next, left, ?_⟩
  simp only [value, opening?, token, read]
  rfl

theorem reads_value {depth : Nat} {v : Value} (nested : Nested depth v) :
    Reads (value depth) v.chars v := by
  induction nested with
  | @null depth =>
      have chars : Value.null.chars = 'n' :: ['u', 'l', 'l'] := rfl
      rw [chars]
      refine reads_literal depth (by decide) (by decide) (by decide) ?_
      intro at' more here
      simp only [scalar, here]
  | @boolean depth b =>
      cases b with
      | false =>
          have chars : (Value.boolean false).chars = 'f' :: ['a', 'l', 's', 'e'] := rfl
          rw [chars]
          refine reads_literal depth (by decide) (by decide) (by decide) ?_
          intro at' more here
          simp only [scalar, here]
      | true =>
          have chars : (Value.boolean true).chars = 't' :: ['r', 'u', 'e'] := rfl
          rw [chars]
          refine reads_literal depth (by decide) (by decide) (by decide) ?_
          intro at' more here
          simp only [scalar, here]
  | @text depth s =>
      intro at' rest _ here
      have token : at'.token.rest = stringChars s ++ rest := token_rest allSpaces_nil (by decide) here
      obtain ⟨next, left, read⟩ := string_stringChars token
      refine ⟨next, left, ?_⟩
      rw [stringChars, List.cons_append] at token
      rw [value_scalar depth token (by decide) (by decide)]
      simp only [scalar, token, read]
      rfl
  | @list depth items nested ih =>
      intro at' rest _ here
      obtain ⟨text, chars, itemsText⟩ := chars_list id items fun item member =>
        ⟨ih item member, startsItem_chars (nested item member)⟩
      rw [List.map_id] at chars
      rw [chars, List.cons_append, List.append_assoc] at here
      have token := token_rest allSpaces_nil (by decide) here
      obtain ⟨next, left, read⟩ := items_eq itemsText token
      refine ⟨next, left, ?_⟩
      simp only [value, opening?, token, read]
      rfl
  | @object depth members nested ih => exact reads_value_object ih

theorem finished_eq {blank : List Char} (blanks : AllSpaces blank) (h : at'.rest = blank) :
    at'.finished = .ok () := by
  have rest : at'.token.rest = [] := by
    rw [token, skipSpaces_rest, h, ← List.append_nil blank, List.dropWhile_append_of_pos blanks,
      List.dropWhile_nil]
  simp only [finished, rest, List.isEmpty_nil, if_true]

end Cursor

theorem readValue_of_reads {v : Value} (h : Reads (Cursor.value greatestDepth) v.chars v) :
    readValue v.compact = .ok v := by
  have here : (Cursor.start v.compact).rest = v.chars ++ [] := by
    rw [Cursor.start, Value.compact, String.toList_ofList, List.append_nil]
  obtain ⟨next, left, read⟩ := h _ [] delimits_nil here
  rw [readValue, read]
  simp only [Cursor.finished_eq allSpaces_nil left]
  rfl

theorem readValue_compact {v : Value} (nested : Nested greatestDepth v) :
    readValue v.compact = .ok v :=
  readValue_of_reads (Cursor.reads_value nested)

end Switchboard.Json
