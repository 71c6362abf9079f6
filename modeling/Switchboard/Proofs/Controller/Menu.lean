import Mathlib.Data.List.Induction
import Switchboard.Controller.Input
import Switchboard.Controller.Screen
import Switchboard.Proofs.Argument.Negotiation
import Switchboard.Proofs.Text.Blank
import Switchboard.Proofs.Text.Digits

/-!
The controller sends what its menu shows. The menu in force is the one printed last, a number that is typed
stands for the action printed on the line of that number, and every other line that names no local command is
sent as it was typed, without the blanks around it.
-/

namespace Switchboard

namespace Decimal

theorem ofDigits_concat (digits : List Char) (c : Char) :
    ofDigits (digits ++ [c]) = 10 * ofDigits digits + digitValue c := by
  rw [ofDigits, List.foldl_append]
  rfl

theorem ofDigits_zeros (k : Nat) (digits : List Char) :
    ofDigits (List.replicate k '0' ++ digits) = ofDigits digits := by
  induction k with
  | zero => rfl
  | succ k ih => exact ih

theorem digitChar_digitValue {c : Char} (digit : c.isDigit = true) :
    digitValue c < 10 ∧ Nat.digitChar (digitValue c) = c := by
  obtain ⟨low, high⟩ := Char.isDigit_iff_toNat.mp digit
  have zero : '0'.toNat = 48 := rfl
  have nine : '9'.toNat = 57 := rfl
  have each : ∀ v < 10, (Nat.digitChar v).toNat = v + 48 := by decide
  have small : digitValue c < 10 := by rw [digitValue]; omega
  refine ⟨small, Char.toNat_inj.mp ?_⟩
  rw [each _ small, digitValue]
  omega

/-- Digits are those of the number they make, behind any zeros. -/
theorem exists_zeros {digits : List Char} (some : digits ≠ []) (all : ∀ c ∈ digits, c.isDigit = true) :
    ∃ k, digits = List.replicate k '0' ++ Nat.toDigits 10 (ofDigits digits) := by
  induction digits using List.reverseRecOn with
  | nil => exact absurd rfl some
  | append_singleton front c ih =>
      obtain ⟨small, digit⟩ := digitChar_digitValue (all c List.mem_concat_self)
      have last : Nat.toDigits 10 (digitValue c) = [c] := by rw [Nat.toDigits_of_lt_base small, digit]
      rw [ofDigits_concat]
      by_cases empty : front = []
      · refine ⟨0, ?_⟩
        have single : 10 * ofDigits [] + digitValue c = digitValue c := by rw [ofDigits, List.foldl_nil]; omega
        rw [empty, single, last]
        rfl
      obtain ⟨k, split⟩ := ih empty fun d member => all d (List.mem_append_left _ member)
      by_cases none : ofDigits front = 0
      · refine ⟨k + 1, ?_⟩
        have zeros : front = List.replicate (k + 1) '0' := by
          rw [List.replicate_succ', split, none]
          rfl
        rw [none, Nat.mul_zero, Nat.zero_add, last, ← zeros]
      · refine ⟨k, ?_⟩
        rw [← Nat.toDigits_append_toDigits (by decide) (Nat.pos_of_ne_zero none) small, last,
          ← List.append_assoc, ← split]

end Decimal

/-- The ways to type a number: its digits, behind any zeros and at most one plus sign, with any blanks around. -/
def Typed (n : Nat) (line : String) : Prop :=
  ∃ before sign k after, Text.Blanks before ∧ Text.Blanks after ∧ (sign = [] ∨ sign = ['+']) ∧
    line.toList = before ++ (sign ++ (List.replicate k '0' ++ Nat.toDigits 10 n) ++ after)

section numerals

variable {n : Nat} {line : String}

theorem isDigit_of_mem_zeros {k : Nat} {c : Char} (member : c ∈ List.replicate k '0' ++ Nat.toDigits 10 n) :
    c.isDigit = true := by
  rcases List.mem_append.mp member with zero | digit
  · rw [List.eq_of_mem_replicate zero]
    rfl
  · exact isDigit_of_mem digit

theorem isBlank_of_isDigit {c : Char} (digit : c.isDigit = true) : Text.isBlank c = false := by
  obtain ⟨low, high⟩ := Char.isDigit_iff_toNat.mp digit
  have zero : '0'.toNat = 48 := rfl
  have nine : '9'.toNat = 57 := rfl
  simp only [Text.isBlank, Bool.or_eq_false_iff, Bool.and_eq_false_iff, decide_eq_false_iff_not,
    beq_eq_false_iff_ne]
  omega

/-- The characters of a numeral are digits, after at most one plus sign. -/
theorem Numeral.digits_or_plus {bits : Nat} {text : String} (h : Numeral bits text n) :
    text ≠ "" ∧ ∀ c ∈ text.toList, c.isDigit = true ∨ c = '+' := by
  obtain ⟨digits, split, some, all, -⟩ := h
  rcases split with same | same
  · refine ⟨fun empty => some (by rw [← same, empty]; rfl), fun c member => .inl (all c (same ▸ member))⟩
  · refine ⟨fun empty => ?_, fun c member => ?_⟩
    · rw [empty] at same
      cases same
    · rw [same] at member
      rcases List.mem_cons.mp member with plus | digit
      · exact .inr plus
      · exact .inl (all c digit)

theorem Numeral.isBlank_eq_false {bits : Nat} {text : String} (h : Numeral bits text n) :
    ∀ c ∈ text.toList, Text.isBlank c = false := by
  intro c member
  rcases h.digits_or_plus.2 c member with digit | rfl
  · exact isBlank_of_isDigit digit
  · rfl

theorem numeral_iff {bits : Nat} {text : String} :
    Numeral bits text n ↔ n < Nat.pow 2 bits ∧ ∃ sign k, (sign = [] ∨ sign = ['+']) ∧
      text.toList = sign ++ (List.replicate k '0' ++ Nat.toDigits 10 n) := by
  constructor
  · rintro ⟨digits, split, some, all, rfl, small⟩
    obtain ⟨k, same⟩ := Decimal.exists_zeros some all
    rw [same] at split
    rcases split with plain | plus
    · exact ⟨small, [], k, .inl rfl, plain⟩
    · exact ⟨small, ['+'], k, .inr rfl, plus⟩
  · rintro ⟨small, sign, k, signs, same⟩
    refine ⟨List.replicate k '0' ++ Nat.toDigits 10 n, ?_, ?_, fun c => isDigit_of_mem_zeros, ?_, small⟩
    · rcases signs with rfl | rfl
      · exact .inl same
      · exact .inr same
    · exact List.append_ne_nil_of_right_ne_nil _ Nat.toDigits_ne_nil
    · rw [Decimal.ofDigits_zeros, Decimal.ofDigits_toDigits]

/-- A number is typed when a numeral of it is left once the blanks around the line are gone. -/
theorem typed_iff {bits : Nat} (small : n < Nat.pow 2 bits) : Typed n line ↔ Numeral bits (Text.trim line) n := by
  constructor
  · rintro ⟨before, sign, k, after, front, back, signs, same⟩
    have solid : ∀ c ∈ sign ++ (List.replicate k '0' ++ Nat.toDigits 10 n), Text.isBlank c = false := by
      intro c member
      rcases List.mem_append.mp member with inside | inside
      · rcases signs with rfl | rfl
        · cases inside
        · rw [List.mem_singleton.mp inside]
          rfl
      · exact isBlank_of_isDigit (isDigit_of_mem_zeros inside)
    refine numeral_iff.mpr ⟨small, sign, k, signs, ?_⟩
    rw [Text.trim, String.toList_ofList, same, Text.trimChars_surrounded _ front back,
      Text.trimChars_eq_self solid]
  · intro numeral
    obtain ⟨-, sign, k, signs, same⟩ := numeral_iff.mp numeral
    obtain ⟨before, after, front, back, split⟩ := Text.exists_surrounded line.toList
    rw [Text.trim, String.toList_ofList] at same
    rw [same] at split
    exact ⟨before, sign, k, after, front, back, signs, split⟩

end numerals

namespace Input

/-- The first words of lines that are not sent. -/
def localCommands : List String :=
  ["help", "history", "reconnect", "clear", "quit", "exit"]

/-- Holds of a line that begins with a local command, in whatever letter case. -/
def IsLocal (line : String) : Prop :=
  ∃ name ∈ localCommands, Text.eqIgnoreCase (Text.firstWord line) name = true

instance (line : String) : Decidable (IsLocal line) :=
  inferInstanceAs (Decidable (∃ name ∈ localCommands, Text.eqIgnoreCase (Text.firstWord line) name = true))

variable {line : String} {menu : List String}

theorem command?_eq_none {head : String} (more : List String)
    (other : ∀ name ∈ localCommands, Text.eqIgnoreCase head name = false) : command? head more = none := by
  have lowered : localCommands.map Text.lowerAscii = localCommands := by decide
  have apart : ∀ name ∈ localCommands, Text.lowerAscii head ≠ name := by
    intro name member
    rw [← lowered] at member
    obtain ⟨written, listed, rfl⟩ := List.mem_map.mp member
    exact beq_eq_false_iff_ne.mp (other written listed)
  rw [command?]
  split
  case h_7 => rfl
  all_goals next same => exact absurd same (apart _ (by decide))

theorem parse_eq_ofMenu (solid : Text.trim line ≠ "") (other : ¬IsLocal line) :
    parse line menu = ofMenu (Text.trim line) menu := by
  obtain ⟨more, words⟩ := Text.words_trim solid
  have none : command? (Text.firstWord line) more = none :=
    command?_eq_none more fun name member => Bool.not_eq_true _ ▸ fun same => other ⟨name, member, same⟩
  simp only [parse, words, none, Option.getD_none]

theorem ofMenu_numeral {n : Nat} (numeral : Numeral 64 line (n + 1)) :
    ofMenu line menu = action (menu[n]?.getD line) := by
  rw [ofMenu, Decimal.unsigned?_eq_some_iff.mpr numeral]

theorem ofMenu_other (other : ∀ n < menu.length, ¬Numeral 64 line (n + 1)) : ofMenu line menu = action line := by
  cases read : Decimal.unsigned? 64 line with
  | none => rw [ofMenu, read]
  | some number =>
      cases number with
      | zero => rw [ofMenu, read]
      | succ n =>
          have numeral := Decimal.unsigned?_eq_some_iff.mp read
          have beyond : menu[n]? = none :=
            List.getElem?_eq_none (Nat.le_of_not_lt fun listed => other n listed numeral)
          rw [ofMenu_numeral numeral, beyond, Option.getD_none]

theorem toLower_eq_self {c : Char} (plain : c.isDigit = true ∨ c = '+') : c.toLower = c := by
  rcases plain with digit | rfl
  · obtain ⟨-, high⟩ := Char.isDigit_iff_toNat.mp digit
    have nine : '9'.toNat = 57 := rfl
    have small : ¬('A'.val ≤ c.val ∧ c.val ≤ 'Z'.val) := by
      rintro ⟨low, -⟩
      have : 65 ≤ c.toNat := UInt32.le_iff_toNat_le.mp low
      omega
    exact dif_neg small
  · rfl

theorem lowerAscii_numeral {bits n : Nat} (numeral : Numeral bits line n) : Text.lowerAscii line = line := by
  have same : line.toList.map Char.toLower = line.toList.map id :=
    List.map_congr_left fun c member => toLower_eq_self (numeral.digits_or_plus.2 c member)
  rw [Text.lowerAscii, same, List.map_id, String.ofList_toList]

/-- No numeral begins with a local command. -/
theorem not_isLocal_of_numeral {n : Nat} (numeral : Numeral 64 (Text.trim line) n) : ¬IsLocal line := by
  rintro ⟨name, listed, same⟩
  have all : (Text.trim line).toList.takeWhile (fun c => !Text.isBlank c) = (Text.trim line).toList :=
    List.takeWhile_eq_self_iff.mpr fun c member => by rw [numeral.isBlank_eq_false c member]; rfl
  rw [Text.firstWord, all, String.ofList_toList, Text.eqIgnoreCase, lowerAscii_numeral numeral,
    beq_iff_eq] at same
  have letters : ∀ name ∈ localCommands,
      (Text.lowerAscii name).toList.all (fun c => c.isDigit || c == '+') = false := by decide
  obtain ⟨c, member, letter⟩ := List.all_eq_false.mp (letters name listed)
  have plain := numeral.digits_or_plus.2 c (same ▸ member)
  simp [plain] at letter

end Input

namespace Screen

/-- The menu that a message prints; a request for arguments and a notice without commands print none. -/
def menuOf? (p : Payload) : Option (List String) :=
  if p.isCommandInfo || !p.isTerminal && p.commands.isEmpty then none else some p.commands

def numberedLine (colours : Bool) (n : Nat) (action : String) : String :=
  line ("  " ++ (Style.coloured .cyan).paint colours (Decimal.padLeft 2 n ++ ")") ++ " " ++ action)

/-- The lines of a menu. -/
def numberedLines (colours : Bool) (menu : List String) : List String :=
  menu.zipIdx.map fun (action, i) => numberedLine colours (i + 1) action

/-- What a message prints without its menu: its key and its response, and the data that is not asked for. -/
def heading (colours : Bool) (p : Payload) : String :=
  let s : Screen := { colours }
  if p.isCommandInfo then s.headline p (.coloured .yellow)
  else if p.isTerminal then s.headline p (.strong .magenta) ++ s.dataLine p
  else s.headline p (.coloured (if p.commands.isEmpty then .blue else .green)) ++ s.dataLine p

def printed (colours : Bool) (p : Payload) : String :=
  heading colours p ++ String.join (numberedLines colours ((menuOf? p).getD []))

variable {colours : Bool}

theorem getElem?_numberedLines {menu : List String} {n : Nat} {action : String}
    (listed : menu[n]? = some action) :
    (numberedLines colours menu)[n]? = some (numberedLine colours (n + 1) action) := by
  rw [numberedLines, List.getElem?_map, List.getElem?_zipIdx, listed, Option.map_some, Option.map_some,
    Nat.zero_add]

/-- A message prints its heading and its menu; the menu that it prints is the one in force. -/
theorem render_eq (s : Screen) (p : Payload) :
    (s.render p).1 = printed s.colours p ∧ (s.render p).2.menu = (menuOf? p).getD s.menu ∧
      (s.render p).2.colours = s.colours := by
  have alone (text : String) : text ++ String.join (numberedLines s.colours []) = text := String.append_empty
  rw [printed, heading, menuOf?, render, bringsMenu]
  cases p.isCommandInfo with
  | true => exact ⟨(alone _).symm, rfl, rfl⟩
  | false =>
      cases p.isTerminal with
      | true => exact ⟨rfl, rfl, rfl⟩
      | false =>
          cases p.commands.isEmpty with
          | true => exact ⟨(alone _).symm, rfl, rfl⟩
          | false => exact ⟨rfl, rfl, rfl⟩

theorem renderAll_eq (s : Screen) (payloads : List Payload) :
    (s.renderAll payloads).1 = String.join (payloads.map (printed s.colours)) ∧
      (s.renderAll payloads).2.menu = ((payloads.filterMap menuOf?).getLast?).getD s.menu := by
  induction payloads generalizing s with
  | nil => exact ⟨rfl, rfl⟩
  | cons p rest ih =>
      obtain ⟨text, menu, colours⟩ := s.render_eq p
      obtain ⟨more, last⟩ := ih (s.render p).2
      rw [renderAll]
      dsimp only
      rw [text, more, last, menu, colours, List.map_cons, String.join_cons, List.filterMap_cons]
      refine ⟨rfl, ?_⟩
      cases menuOf? p with
      | none => rfl
      | some actions => rw [List.getLast?_cons, Option.getD_some, Option.getD_some]

/-- What is on a screen that was empty, and the menu printed last: all that stands below it is without menu. -/
inductive Shows (colours : Bool) : List Payload → String → List String → Prop
  | nothing {payloads : List Payload} :
    (∀ p ∈ payloads, menuOf? p = none) →
      Shows colours payloads (String.join (payloads.map (heading colours))) []
  | menu {before after : List Payload} {p : Payload} {actions : List String} :
    menuOf? p = some actions → (∀ q ∈ after, menuOf? q = none) →
      Shows colours (before ++ p :: after)
        (((Screen.mk colours [] routerKey).renderAll before).1 ++ heading colours p ++
          String.join (numberedLines colours actions) ++ String.join (after.map (heading colours)))
        actions

theorem printed_of_none {p : Payload} (none : menuOf? p = none) : printed colours p = heading colours p := by
  rw [printed, none]
  exact String.append_empty

theorem map_printed_of_none {payloads : List Payload} (none : ∀ p ∈ payloads, menuOf? p = none) :
    payloads.map (printed colours) = payloads.map (heading colours) :=
  List.map_congr_left fun p member => printed_of_none (none p member)

/-- Messages print no menu, or one of them prints the last. -/
theorem exists_last (payloads : List Payload) :
    (∀ p ∈ payloads, menuOf? p = none) ∨
      ∃ before p after actions, payloads = before ++ p :: after ∧ menuOf? p = some actions ∧
        ∀ q ∈ after, menuOf? q = none := by
  induction payloads using List.reverseRecOn with
  | nil => exact .inl nofun
  | append_singleton earlier p ih =>
      cases shown : menuOf? p with
      | some actions => exact .inr ⟨earlier, p, [], actions, rfl, shown, nofun⟩
      | none =>
          rcases ih with nothing | ⟨before, q, after, actions, rfl, last, nothing⟩
          · exact .inl (List.forall_mem_append.mpr ⟨nothing, List.forall_mem_singleton.mpr shown⟩)
          · refine .inr ⟨before, q, after ++ [p], actions, by simp, last, ?_⟩
            exact List.forall_mem_append.mpr ⟨nothing, List.forall_mem_singleton.mpr shown⟩

theorem shows_renderAll (colours : Bool) (payloads : List Payload) :
    Shows colours payloads (({ colours } : Screen).renderAll payloads).1
      (({ colours } : Screen).renderAll payloads).2.menu := by
  obtain ⟨text, menu⟩ := renderAll_eq { colours } payloads
  rw [text, menu]
  rcases exists_last payloads with nothing | ⟨before, p, after, actions, rfl, last, nothing⟩
  · rw [List.filterMap_eq_nil_iff.mpr nothing, map_printed_of_none nothing]
    exact .nothing nothing
  · have inForce : ((before ++ p :: after).filterMap menuOf?).getLast? = some actions := by
      rw [List.filterMap_append, List.filterMap_cons, last, List.filterMap_eq_nil_iff.mpr nothing]
      exact List.getLast?_concat
    rw [inForce, Option.getD_some, List.map_append, List.map_cons, String.join_append, String.join_cons,
      map_printed_of_none nothing, printed, last, Option.getD_some]
    have shows : Shows colours (before ++ p :: after) _ actions := .menu last nothing
    rw [(renderAll_eq { colours } before).1] at shows
    simpa only [String.append_assoc] using shows

end Screen

/-- What the controller sends for a line, once messages were printed on a screen that was empty. -/
structure TypingLaw (colours : Bool) (payloads : List Payload) (text : String) (menu : List String) : Prop where
  shows : Screen.Shows colours payloads text menu
  /-- A number is the action that is printed on its line; no list that is stored has `2 ^ 64` items. -/
  picks : ∀ n, 1 ≤ n → n ≤ menu.length → n < Nat.pow 2 64 →
    ∃ action, (Screen.numberedLines colours menu)[n - 1]? = some (Screen.numberedLine colours n action) ∧
      ∀ line, Typed n line → Input.parse line menu = .action action
  /-- Any other line is sent as it was typed. -/
  sends : ∀ line, Text.trim line ≠ "" → ¬Input.IsLocal line →
    (∀ n, 1 ≤ n → n ≤ menu.length → ¬Typed n line) → Input.parse line menu = .action (Text.trim line)

theorem typing_law (colours : Bool) (payloads : List Payload) :
    TypingLaw colours payloads (({ colours } : Screen).renderAll payloads).1
      (({ colours } : Screen).renderAll payloads).2.menu := by
  refine ⟨Screen.shows_renderAll colours payloads, ?_, ?_⟩
  · intro n positive listed small
    obtain ⟨n, rfl⟩ : ∃ m, n = m + 1 := ⟨n - 1, by omega⟩
    refine ⟨_, Screen.getElem?_numberedLines (List.getElem?_eq_getElem listed), ?_⟩
    intro line typed
    have numeral := (typed_iff small).mp typed
    rw [Input.parse_eq_ofMenu numeral.digits_or_plus.1 (Input.not_isLocal_of_numeral numeral),
      Input.ofMenu_numeral numeral, List.getElem?_eq_getElem listed, Option.getD_some]
  · intro line solid other none
    rw [Input.parse_eq_ofMenu solid other]
    refine Input.ofMenu_other fun n listed numeral => ?_
    exact none (n + 1) (by omega) listed ((typed_iff (numeral_iff.mp numeral).1).mpr numeral)

end Switchboard
