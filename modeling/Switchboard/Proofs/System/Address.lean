import Mathlib.Data.List.TakeWhile
import Switchboard.Proofs.Text.Digits
import Switchboard.System.Address

/-!
Addresses are read back from their texts. In front of a port, an eight-part address is only read in brackets:
without them it is no text of an address at all.
-/

namespace Switchboard

namespace IpAddress

variable {chars rest : List Char}

section fourParts

theorem decimalPart_toDigits (n : UInt8) (ends : Ends Char.isDigit rest) :
    decimalPart (Nat.toDigits 10 n.toNat ++ rest) = some (n, rest) := by
  have small : n.toNat < 256 := n.toNat_lt
  have inRange : ¬255 < n.toNat := by omega
  have digits := takeWhile_run (fun _ => isDigit_of_mem (n := n.toNat)) ends
  have short : ¬3 < (Nat.toDigits 10 n.toNat).length :=
    Nat.not_lt_of_le ((Nat.length_toDigits_le_iff (by decide) (by decide)).mpr (by omega))
  have filled : (Nat.toDigits 10 n.toNat).isEmpty = false := List.isEmpty_eq_false_iff.mpr Nat.toDigits_ne_nil
  have noZero : ((Nat.toDigits 10 n.toNat).head? == some '0' && decide (1 < (Nat.toDigits 10 n.toNat).length)) =
      false := by
    obtain ⟨c, more, split, -⟩ := exists_digit n.toNat
    rw [split, List.head?_cons]
    by_cases zero : c = '0'
    · subst zero
      rw [eq_nil_of_zero split]
      rfl
    · simp [zero]
  rw [decimalPart, digits]
  simp only [Decimal.ofDigits_toDigits, filled, noZero, short, inRange, decide_false, Bool.or_false,
    Bool.false_eq_true, if_false, List.drop_left, UInt8.ofNat_toNat]

/-- A part leaves what follows the digits in front. -/
theorem rest_of_decimalPart {n : UInt8} (read : decimalPart chars = some (n, rest)) :
    rest = chars.dropWhile Char.isDigit := by
  rw [decimalPart] at read
  split at read
  · cases read
  · rw [← drop_takeWhile]
    exact (congrArg Prod.snd (Option.some.inj read)).symm

theorem char_eq_none {c : Char} (h : chars.head? ≠ some c) : Piece.char c chars = none := by
  cases chars with
  | nil => rfl
  | cons d more =>
      have other : (c == d) = false := beq_eq_false_iff_ne.mpr fun same => h (congrArg some same.symm)
      rw [Piece.char, other]
      rfl

/-- No four-part address begins where the first character that is no digit is no dot. -/
theorem fourParts_eq_none (h : chars.find? (fun c => !c.isDigit) ≠ some '.') : fourParts chars = none := by
  rw [fourParts]
  cases read : decimalPart chars with
  | none => rfl
  | some part =>
      obtain ⟨n, rest⟩ := part
      have stops : rest.head? ≠ some '.' := by
        rw [rest_of_decimalPart read, ← List.find?_not_eq_head?_dropWhile]
        exact h
      simp only [Option.bind_eq_bind, Option.bind_some, char_eq_none stops, Option.bind_none]

/-- The characters of four parts. -/
def partsChars (a b c d : UInt8) : List Char :=
  Nat.toDigits 10 a.toNat ++ '.' :: (Nat.toDigits 10 b.toNat ++ '.' :: (Nat.toDigits 10 c.toNat ++ '.' ::
    Nat.toDigits 10 d.toNat))

theorem toList_partsText (a b c d : UInt8) : (partsText [a, b, c, d]).toList = partsChars a b c d := by
  have part (n : UInt8) : (toString n).toList = Nat.toDigits 10 n.toNat := Nat.toList_repr
  simp [partsText, part, partsChars]

theorem fourParts_partsChars (a b c d : UInt8) (ends : Ends Char.isDigit rest) :
    fourParts (partsChars a b c d ++ rest) = some ((a, b, c, d), rest) := by
  have dot (more : List Char) : Ends Char.isDigit ('.' :: more) := ends_cons.mpr rfl
  simp [fourParts, partsChars, decimalPart_toDigits, dot, ends, Piece.char]

end fourParts

section groups

variable {g : UInt16} {more : List UInt16} {inParts : Bool} {left : List Char} {room : Nat}

/-- Holds of the characters that go on with a group or with a four-part address. -/
def isGroupChar (c : Char) : Bool :=
  isHexDigit c || c == '.'

theorem ends_hexDigit (ends : Ends isGroupChar rest) : Ends isHexDigit rest :=
  ends.mono fun c digit => by rw [isGroupChar, digit, Bool.true_or]

theorem group_hexDigits (g : UInt16) (ends : Ends isHexDigit rest) :
    group (Text.hexDigits g.toNat ++ rest) = some (g, rest) := by
  have small : g.toNat < Nat.pow 16 4 := g.toNat_lt
  have digits : (Text.hexDigits g.toNat ++ rest).takeWhile (fun c => (hexDigitValue? c).isSome) =
      Text.hexDigits g.toNat := takeWhile_run (fun _ => isHexDigit_of_mem) ends
  have short := length_hexDigits_le (by decide) small
  have filled : (Text.hexDigits g.toNat).isEmpty = false := List.isEmpty_eq_false_iff.mpr Nat.toDigits_ne_nil
  rw [group, digits]
  simp only [filled, Bool.false_or, decide_eq_true_eq, if_neg (Nat.not_lt_of_le short), numberToBase_hexDigits,
    List.drop_left, UInt16.ofNat_toNat]

theorem group_eq_none (h : Ends isHexDigit chars) : group chars = none := by
  have digits : chars.takeWhile (fun c => (hexDigitValue? c).isSome) = [] := takeWhile_eq_nil h
  rw [group, digits]
  rfl

theorem find?_ne_dot (ends : Ends isGroupChar rest) : rest.find? (fun c => !c.isDigit) ≠ some '.' := by
  cases rest with
  | nil => nofun
  | cons c more =>
      have other := ends_cons.mp ends
      simp only [isGroupChar, Bool.or_eq_false_iff, beq_eq_false_iff_ne] at other
      have plain : (!c.isDigit) = true := by
        cases digit : c.isDigit with
        | false => rfl
        | true => rw [isHexDigit_of_isDigit digit] at other; cases other.1
      rw [List.find?_cons, plain]
      exact fun same => other.2 (Option.some.inj same)

/-- No four-part address begins with a group that no dot follows. -/
theorem fourParts_hexDigits (g : UInt16) (ends : Ends isGroupChar rest) :
    fourParts (Text.hexDigits g.toNat ++ rest) = none := by
  refine fourParts_eq_none ?_
  rw [List.find?_append]
  intro dot
  obtain inside | ⟨-, behind⟩ := Option.or_eq_some_iff.mp dot
  · have digit := isHexDigit_of_mem (List.mem_of_find?_eq_some inside)
    cases digit
  · exact find?_ne_dot ends behind

/-- The characters of further groups. -/
def furtherGroups (gs : List UInt16) : List Char :=
  gs.flatMap fun g => ':' :: Text.hexDigits g.toNat

theorem toList_groupsText (g : UInt16) (gs : List UInt16) :
    (groupsText (g :: gs)).toList = Text.hexDigits g.toNat ++ furtherGroups gs := by
  induction gs generalizing g with
  | nil => simp [groupsText, furtherGroups]
  | cons next gs ih =>
      have later := ih next
      rw [groupsText, String.toList_intercalate] at later ⊢
      simp only [List.map_cons, List.intercalate_cons_cons] at later ⊢
      rw [later, furtherGroups, furtherGroups, List.flatMap_cons]
      simp

theorem separated_eq_none {α : Type} (piece : Piece α) (h : chars.head? ≠ some ':') :
    separated false piece chars = none := by
  have noColon := char_eq_none h
  simp [separated, noColon]

/-- Reading stops where neither kind of group can be read. -/
theorem groups_stop {isFirst : Bool} (parts : separated isFirst fourParts chars = none)
    (hex : separated isFirst group chars = none) (room : Nat) :
    groups room isFirst chars = ([], false, chars) := by
  cases room with
  | zero => rfl
  | succ room => simp only [groups, parts, hex, ite_self]

theorem groups_group (isFirst : Bool) (parts : separated isFirst fourParts chars = none)
    (hex : separated isFirst group chars = some (g, rest)) (later : groups room false rest = (more, inParts, left)) :
    groups (room + 1) isFirst chars = (g :: more, inParts, left) := by
  simp only [groups, parts, hex, ite_self, later]

theorem groups_parts {isFirst : Bool} {parts : UInt8 × UInt8 × UInt8 × UInt8}
    (read : separated isFirst fourParts chars = some (parts, rest)) (room : Nat) :
    groups (room + 2) isFirst chars = (pairOfParts parts, true, rest) := by
  have several : (room + 1 == 0) = false := rfl
  simp only [groups, several, Bool.false_eq_true, if_false, read]

theorem ends_furtherGroups (gs : List UInt16) (ends : Ends isGroupChar rest) :
    Ends isGroupChar (furtherGroups gs ++ rest) := by
  cases gs with
  | nil => exact ends
  | cons g gs => exact ends_cons.mpr rfl

/-- Further groups are read one by one, up to where no group can be read. -/
theorem groups_further (gs : List UInt16) (fits : gs.length ≤ room) (ends : Ends isGroupChar rest)
    (stops : ∀ isFirst room, groups room isFirst rest = ([], false, rest)) :
    groups room false (furtherGroups gs ++ rest) = (gs, false, rest) := by
  induction gs generalizing room with
  | nil => exact stops false room
  | cons g gs ih =>
      obtain ⟨room, rfl⟩ := Nat.exists_eq_add_of_lt fits
      have later := ih (Nat.le_add_right gs.length room)
      have next := ends_furtherGroups gs ends
      have here : furtherGroups (g :: gs) ++ rest =
          ':' :: (Text.hexDigits g.toNat ++ (furtherGroups gs ++ rest)) := by
        simp [furtherGroups]
      rw [here]
      refine groups_group false ?_ ?_ later
      · exact fourParts_hexDigits g next
      · exact group_hexDigits g (ends_hexDigit next)

/-- A text of groups is read up to where no group can be read. -/
theorem groups_groupsText (gs : List UInt16) (fits : gs.length ≤ room) (ends : Ends isGroupChar rest)
    (stops : ∀ isFirst room, groups room isFirst rest = ([], false, rest)) :
    groups room true ((groupsText gs).toList ++ rest) = (gs, false, rest) := by
  cases gs with
  | nil => exact stops true room
  | cons g gs =>
      obtain ⟨room, rfl⟩ := Nat.exists_eq_add_of_lt fits
      have further := groups_further gs (Nat.le_add_right gs.length room) ends stops
      have next := ends_furtherGroups gs ends
      rw [toList_groupsText, List.append_assoc]
      refine groups_group true ?_ ?_ further
      · exact fourParts_hexDigits g next
      · exact group_hexDigits g (ends_hexDigit next)

/-- After a pair of colons no group can be read from the first one. -/
theorem groups_colons (isFirst : Bool) (room : Nat) (chars : List Char) :
    groups room isFirst (':' :: ':' :: chars) = ([], false, ':' :: ':' :: chars) := by
  have parts (more : List Char) : fourParts (':' :: more) = none := fourParts_eq_none (by simp)
  have hex (more : List Char) : group (':' :: more) = none := group_eq_none (ends_cons.mpr rfl)
  refine groups_stop ?_ ?_ room
  · cases isFirst with
    | true => exact parts (':' :: chars)
    | false => exact parts chars
  · cases isFirst with
    | true => exact hex (':' :: chars)
    | false => exact hex chars

end groups

section zeros

/-- There are only zeros in some groups, given by their beginning and their number. -/
def ZeroRun (whole : List UInt16) (found : Nat × Nat) : Prop :=
  whole = whole.take found.1 ++ List.replicate found.2 0 ++ whole.drop (found.1 + found.2)

theorem zeroRun_of_takeWhile (front gs : List UInt16) :
    ZeroRun (front ++ gs) (front.length, (gs.takeWhile (· == 0)).length) := by
  have zeros : gs.takeWhile (· == 0) = List.replicate (gs.takeWhile (· == 0)).length 0 := by
    refine List.eq_replicate_iff.mpr ⟨rfl, fun g member => ?_⟩
    have zero := List.mem_takeWhile_imp member
    exact beq_iff_eq.mp zero
  rw [ZeroRun, List.take_left, ← zeros, List.drop_length_add_append, drop_takeWhile, List.append_assoc,
    List.takeWhile_append_dropWhile]

theorem zeroRun_longestZeros {best : Nat × Nat} (front gs : List UInt16) (h : ZeroRun (front ++ gs) best) :
    ZeroRun (front ++ gs) (longestZeros front.length best gs) := by
  induction gs generalizing front best with
  | nil => exact h
  | cons g gs ih =>
      have next : front ++ g :: gs = (front ++ [g]) ++ gs := by simp
      have place : front.length + 1 = (front ++ [g]).length := by simp
      have run := zeroRun_of_takeWhile front (g :: gs)
      rw [longestZeros, place]
      rw [next] at h run ⊢
      refine ih (front ++ [g]) ?_
      split
      · exact run
      · exact h

end zeros

section written

/-- The forms of a text of groups: all of them, with a pair of colons for some zeros, or as a four-part address
within eight parts. -/
inductive Written : List UInt16 → List Char → Prop
  | whole (gs : List UInt16) : Written gs (groupsText gs).toList
  | shortened (front back : List UInt16) {zeros : Nat} (several : 1 < zeros) :
      Written (front ++ List.replicate zeros 0 ++ back)
        ((groupsText front).toList ++ ':' :: ':' :: (groupsText back).toList)
  | mapped (high low : UInt16) :
      Written [0, 0, 0, 0, 0, 0xffff, high, low] (':' :: ':' :: (Text.hexDigits (0xffff : UInt16).toNat ++
        ':' :: partsChars (high / 256).toUInt8 (high % 256).toUInt8 (low / 256).toUInt8 (low % 256).toUInt8))

theorem written_text (groups : Vector UInt16 8) : Written groups.toList (v6 groups).text.toList := by
  rw [text]
  split
  case h_1 high low same =>
    rw [same, String.toList_append, toList_partsText]
    exact .mapped high low
  case h_2 _ =>
    have none : ZeroRun ([] ++ groups.toList) (0, 0) := by simp [ZeroRun]
    have run := zeroRun_longestZeros [] groups.toList none
    rw [List.nil_append, List.length_nil] at run
    split
    next start length found =>
    rw [found, ZeroRun] at run
    split
    case isTrue several =>
      have form := Written.shortened (groups.toList.take start) (groups.toList.drop (start + length)) several
      rw [← run] at form
      simpa using form
    case isFalse _ => exact .whole _

/-- Holds of the characters that go on with an eight-part address. -/
def isAddressChar (c : Char) : Bool :=
  isGroupChar c || c == ':'

theorem ends_groupChar (ends : Ends isAddressChar rest) : Ends isGroupChar rest :=
  ends.mono fun c more => by rw [isAddressChar, more, Bool.true_or]

theorem groups_ends (isFirst : Bool) (room : Nat) (ends : Ends isAddressChar rest) :
    groups room isFirst rest = ([], false, rest) := by
  have noGroup := ends_groupChar ends
  have noColon : rest.head? ≠ some ':' := by
    intro colon
    cases ends ':' colon
  refine groups_stop ?_ ?_ room
  · cases isFirst with
    | true => exact fourParts_eq_none (find?_ne_dot noGroup)
    | false => exact separated_eq_none fourParts noColon
  · cases isFirst with
    | true => exact group_eq_none (ends_hexDigit noGroup)
    | false => exact separated_eq_none group noColon

theorem pairOfParts_bytes (high low : UInt16) :
    pairOfParts ((high / 256).toUInt8, (high % 256).toUInt8, (low / 256).toUInt8, (low % 256).toUInt8) =
      [high, low] := by
  have joined (g : UInt16) : (g / 256).toUInt8.toUInt16 * 256 + (g % 256).toUInt8.toUInt16 = g := by
    have small := g.toNat_lt
    refine UInt16.toNat_inj.mp ?_
    simp only [UInt16.toUInt16_toUInt8, UInt16.toNat_add, UInt16.toNat_mul, UInt16.toNat_mod, UInt16.toNat_div,
      UInt16.reduceToNat, Nat.reducePow, Nat.dvd_refl, Nat.mod_mod_of_dvd, Nat.mod_add_mod]
    omega
  rw [pairOfParts]
  simp only [joined]

theorem eightParts_whole {gs : List UInt16} (read : groups 8 true chars = (gs, false, rest)) (eight : gs.length = 8) :
    eightParts chars = (ofGroups? gs).map fun ip => (ip, rest) := by
  rw [eightParts, read]
  simp only [eight, BEq.rfl, if_true]

theorem eightParts_shortened {behind : List Char} {front back : List UInt16} {inParts : Bool}
    (first : groups 8 true chars = (front, false, ':' :: ':' :: behind)) (fewer : front.length < 8)
    (second : groups (7 - front.length) true behind = (back, inParts, rest)) :
    eightParts chars =
      (ofGroups? (front ++ List.replicate (8 - front.length - back.length) 0 ++ back)).map
        fun ip => (ip, rest) := by
  have some : (front.length == 8) = false := beq_eq_false_iff_ne.mpr (Nat.ne_of_lt fewer)
  rw [eightParts, first]
  simp only [some, Bool.false_eq_true, if_false, Piece.char, BEq.rfl, if_true, Option.bind_eq_bind,
    Option.bind_some, second, Option.map_eq_bind]
  rfl

/-- Each form is read back up to what does not go on with it. -/
theorem eightParts_written {gs : List UInt16} (form : Written gs chars) (eight : gs.length = 8)
    (ends : Ends isAddressChar rest) :
    eightParts (chars ++ rest) = (ofGroups? gs).map fun ip => (ip, rest) := by
  have noGroup := ends_groupChar ends
  have stops (isFirst : Bool) (room : Nat) := groups_ends isFirst room ends
  cases form with
  | whole gs => exact eightParts_whole (groups_groupsText gs eight.le noGroup stops) eight
  | @shortened front back zeros several =>
      simp only [List.length_append, List.length_replicate] at eight
      have colons : Ends isGroupChar (':' :: ':' :: ((groupsText back).toList ++ rest)) := ends_cons.mpr rfl
      have fewer : front.length < 8 := by omega
      have fits : back.length ≤ 7 - front.length := by omega
      have missing : 8 - front.length - back.length = zeros := by omega
      have first := groups_groupsText front fewer.le colons fun isFirst room => groups_colons isFirst room _
      have second := groups_groupsText back fits noGroup stops
      rw [List.append_assoc, List.cons_append, List.cons_append, eightParts_shortened first fewer second, missing]
  | mapped high low =>
      have noDigit : Ends Char.isDigit rest := noGroup.mono fun c digit => by
        rw [isGroupChar, isHexDigit_of_isDigit digit, Bool.true_or]
      have parts : separated false fourParts (':' :: (partsChars _ _ _ _ ++ rest)) = _ :=
        fourParts_partsChars (high / 256).toUInt8 (high % 256).toUInt8 (low / 256).toUInt8 (low % 256).toUInt8 noDigit
      have last := groups_parts parts 4
      rw [pairOfParts_bytes] at last
      have second := groups_group true (fourParts_hexDigits 0xffff (ends_cons.mpr rfl))
        (group_hexDigits 0xffff (ends_cons.mpr rfl)) last
      rw [List.cons_append, List.cons_append, List.append_assoc, List.cons_append,
        eightParts_shortened (groups_colons true 8 _) (by decide) second]
      rfl

theorem ofGroups?_toList (groups : Vector UInt16 8) : ofGroups? groups.toList = some (.v6 groups) := by
  have size : groups.toList.toArray.size = 8 := by simp
  rw [ofGroups?, dif_pos size]
  rfl

theorem eightParts_text (groups : Vector UInt16 8) (ends : Ends isAddressChar rest) :
    eightParts ((v6 groups).text.toList ++ rest) = some (.v6 groups, rest) := by
  rw [eightParts_written (written_text groups) groups.length_toList ends, ofGroups?_toList, Option.map_some]

/-- No four-part address begins with groups that no dot follows, and nothing in brackets does. -/
theorem opening_groupsText (gs : List UInt16) (ends : Ends isGroupChar rest) (bare : rest.head? ≠ some '[') :
    fourParts ((groupsText gs).toList ++ rest) = none ∧ ((groupsText gs).toList ++ rest).head? ≠ some '[' := by
  cases gs with
  | nil => exact ⟨fourParts_eq_none (find?_ne_dot ends), bare⟩
  | cons g gs =>
      rw [toList_groupsText, List.append_assoc]
      refine ⟨fourParts_hexDigits g (ends_furtherGroups gs ends), ?_⟩
      obtain ⟨c, more, split⟩ := List.exists_cons_of_ne_nil (Nat.toDigits_ne_nil (n := g.toNat) (b := 16))
      have digit : isHexDigit c = true := isHexDigit_of_mem (n := g.toNat) (by rw [Text.hexDigits, split]; simp)
      rw [Text.hexDigits, split]
      intro bracket
      cases bracket
      cases digit

theorem Written.opening {gs : List UInt16} (form : Written gs chars) (ends : Ends isGroupChar rest)
    (bare : rest.head? ≠ some '[') :
    fourParts (chars ++ rest) = none ∧ (chars ++ rest).head? ≠ some '[' := by
  have colon (more : List Char) : Ends isGroupChar (':' :: more) := ends_cons.mpr rfl
  cases form with
  | whole gs => exact opening_groupsText gs ends bare
  | shortened front back several =>
      rw [List.append_assoc, List.cons_append]
      exact opening_groupsText front (colon _) nofun
  | mapped high low => exact ⟨fourParts_eq_none (find?_ne_dot (colon _)), nofun⟩

end written

end IpAddress

namespace SocketAddress

open IpAddress

variable {port : UInt16} {rest : List Char}

theorem toList_port (port : UInt16) : (toString port).toList = Nat.toDigits 10 port.toNat :=
  Nat.toList_repr

theorem decimal_toDigits (bits : Nat) {n : Nat} (small : n < Nat.pow 2 bits) (ends : Ends Char.isDigit rest) :
    decimal bits (Nat.toDigits 10 n ++ rest) = some (n, rest) := by
  have digits := takeWhile_run (fun _ => isDigit_of_mem (n := n)) ends
  have filled : (Nat.toDigits 10 n).isEmpty = false := List.isEmpty_eq_false_iff.mpr Nat.toDigits_ne_nil
  rw [decimal, digits]
  simp only [Decimal.ofDigits_toDigits, filled, Bool.false_or, decide_eq_true_eq, if_neg (Nat.not_le_of_lt small),
    List.drop_left]

theorem portPart_toString (port : UInt16) : portPart (':' :: (toString port).toList) = some (port, []) := by
  have read := decimal_toDigits 16 port.toNat_lt ends_nil
  rw [List.append_nil, ← toList_port] at read
  simp [portPart, Piece.char, read]

theorem readV4_text (a b c d : UInt8) (port : UInt16) :
    readV4 ((v4 a b c d).text.toList ++ ':' :: (toString port).toList) = some ({ ip := .v4 a b c d, port }, []) := by
  have ends : Ends Char.isDigit (':' :: (toString port).toList) := ends_cons.mpr rfl
  rw [IpAddress.text, toList_partsText, readV4, fourParts_partsChars a b c d ends]
  simp [portPart_toString]

theorem readV6_text (groups : Vector UInt16 8) (port : UInt16) :
    readV6 ('[' :: ((v6 groups).text.toList ++ ']' :: ':' :: (toString port).toList)) =
      some ({ ip := .v6 groups, port }, []) := by
  have ends : Ends isAddressChar (']' :: ':' :: (toString port).toList) := ends_cons.mpr rfl
  simp [readV6, Piece.char, eightParts_text groups ends, scopePart, portPart_toString]

theorem readV4_eq_none {chars : List Char} (h : fourParts chars = none) : readV4 chars = none := by
  rw [readV4, h]
  rfl

theorem readV6_eq_none {chars : List Char} (h : chars.head? ≠ some '[') : readV6 chars = none := by
  rw [readV6, char_eq_none h]
  rfl

theorem toList_withPort (host : String) (port : UInt16) :
    (host ++ ":" ++ toString port).toList = host.toList ++ ':' :: (toString port).toList := by
  simp

/-- A four-part address and a port are read with a colon between them. -/
theorem ofText?_fourParts (a b c d : UInt8) (port : UInt16) :
    ofText? ((v4 a b c d).text ++ ":" ++ toString port) = some { ip := .v4 a b c d, port } := by
  rw [ofText?, toList_withPort, readV4_text]
  rfl

/-- An eight-part address and a port are read with a colon between them if the address stands in brackets. -/
theorem ofText?_inBrackets (groups : Vector UInt16 8) (port : UInt16) :
    ofText? ("[" ++ (v6 groups).text ++ "]" ++ ":" ++ toString port) = some { ip := .v6 groups, port } := by
  have chars : ("[" ++ (v6 groups).text ++ "]").toList ++ ':' :: (toString port).toList =
      '[' :: ((v6 groups).text.toList ++ ']' :: ':' :: (toString port).toList) := by simp
  have noParts : fourParts ('[' :: ((v6 groups).text.toList ++ ']' :: ':' :: (toString port).toList)) = none :=
    fourParts_eq_none (find?_ne_dot (ends_cons.mpr rfl))
  rw [ofText?, toList_withPort, chars, readV4_eq_none noParts, readV6_text]
  rfl

/-- Without brackets they are no text of an address. -/
theorem ofText?_bare (groups : Vector UInt16 8) (port : UInt16) :
    ofText? ((v6 groups).text ++ ":" ++ toString port) = none := by
  have colon : Ends isGroupChar (':' :: (toString port).toList) := ends_cons.mpr rfl
  obtain ⟨noParts, noBracket⟩ := (written_text groups).opening colon nofun
  rw [ofText?, toList_withPort, readV4_eq_none noParts, readV6_eq_none noBracket]
  rfl

end SocketAddress

end Switchboard
