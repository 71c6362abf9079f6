import Switchboard.Device.Arguments
import Switchboard.Proofs.Argument.Values
import Switchboard.Proofs.Text.Digits

/-!
Negotiation closes: whatever a controller fills into a schema and sends back, the command gets exactly
the arguments that were filled in, or the server asks again.
-/

namespace Switchboard

/-- Holds of the numerals below `2 ^ bits`: digits after at most one plus sign. -/
def Numeral (bits : Nat) (text : String) (n : Nat) : Prop :=
  ∃ digits, (text.toList = digits ∨ text.toList = '+' :: digits) ∧ digits ≠ [] ∧
    (∀ c ∈ digits, c.isDigit = true) ∧ Decimal.ofDigits digits = n ∧ n < Nat.pow 2 bits

namespace Decimal

theorem natural?_eq_some_iff {digits : List Char} {n : Nat} :
    natural? digits = some n ↔
      digits ≠ [] ∧ (∀ c ∈ digits, c.isDigit = true) ∧ ofDigits digits = n := by
  rw [natural?]
  split
  case isTrue h =>
    rw [Bool.or_eq_true, List.isEmpty_iff, Bool.not_eq_true', List.all_eq_false] at h
    constructor
    · intro impossible
      cases impossible
    · rintro ⟨some, all, -⟩
      rcases h with none | ⟨c, member, noDigit⟩
      · exact absurd none some
      · exact absurd (all c member) noDigit
  case isFalse h =>
    rw [Bool.or_eq_true, List.isEmpty_iff, Bool.not_eq_true', List.all_eq_false, not_or] at h
    simp_all

theorem bounded_eq_some_iff {bits : Nat} {digits : List Char} {n : Nat} :
    (((natural? digits).map Int.ofNat).filter (IntWidth.unsigned bits).holds).map Int.toNat = some n ↔
      natural? digits = some n ∧ n < Nat.pow 2 bits := by
  cases natural? digits with
  | none => simp
  | some m =>
      have fits : (IntWidth.unsigned bits).holds (Int.ofNat m) = decide (m < Nat.pow 2 bits) := by
        have cast : Int.ofNat m = (m : Int) := rfl
        rw [IntWidth.holds, Bool.eq_iff_iff, Bool.and_eq_true, decide_eq_true_eq, decide_eq_true_eq,
          decide_eq_true_eq, cast, Int.ofNat_lt]
        omega
      rw [Option.map_some, Option.filter_some, fits]
      by_cases small : m < Nat.pow 2 bits
      · rw [decide_eq_true small, if_pos rfl, Option.map_some, Option.some.injEq, Option.some.injEq]
        constructor
        · rintro rfl
          exact ⟨rfl, small⟩
        · rintro ⟨rfl, -⟩
          rfl
      · rw [decide_eq_false small, if_neg (by decide), Option.map_none, Option.some.injEq]
        constructor
        · intro impossible
          cases impossible
        · rintro ⟨rfl, fits⟩
          exact absurd fits small

theorem unsigned?_eq_some_iff {bits : Nat} {text : String} {n : Nat} :
    unsigned? bits text = some n ↔ Numeral bits text n := by
  have number (digits : List Char) : (natural? digits = some n ∧ n < Nat.pow 2 bits) ↔
      digits ≠ [] ∧ (∀ c ∈ digits, c.isDigit = true) ∧ ofDigits digits = n ∧ n < Nat.pow 2 bits := by
    rw [natural?_eq_some_iff, and_assoc, and_assoc]
  simp only [unsigned?, integer?, Numeral]
  split
  case h_1 digits heq =>
    rw [bounded_eq_some_iff, number, heq]
    constructor
    · intro read
      exact ⟨digits, .inr rfl, read⟩
    · rintro ⟨others, rfl | same, some, all, rest⟩
      · exact absurd (all '+' List.mem_cons_self) (by decide)
      · cases same
        exact ⟨some, all, rest⟩
  case h_2 digits heq =>
    rw [heq]
    constructor
    · intro impossible
      cases impossible
    · rintro ⟨others, rfl | same, some, all, rest⟩
      · exact absurd (all '-' List.mem_cons_self) (by decide)
      · cases same
  case h_3 noPlus noMinus =>
    rw [bounded_eq_some_iff, number]
    constructor
    · intro read
      exact ⟨text.toList, .inl rfl, read⟩
    · rintro ⟨digits, same | same, some, all, rest⟩
      · rw [same]
        exact ⟨some, all, rest⟩
      · exact absurd same (noPlus digits)

/-- A number is read back from the way it is written. -/
theorem unsigned?_toString {bits n : Nat} (small : n < Nat.pow 2 bits) :
    unsigned? bits (toString n) = some n := by
  refine unsigned?_eq_some_iff.mpr ⟨Nat.toDigits 10 n, .inl ?_, Nat.toDigits_ne_nil, ?_, ?_, small⟩
  · rw [Nat.toString_eq_repr, Nat.toList_repr]
  · intro c member
    exact isDigit_of_mem member
  · exact ofDigits_toDigits n

end Decimal

/-- Supplies a text under a key: the value without the blanks around it, unless nothing is left. -/
def Supplies (v : String → Option String) (key text : String) : Prop :=
  (v key).map Text.trim = some text ∧ text ≠ ""

/-- Supplies a number below `2 ^ bits` under a key. -/
def SuppliesNumber (v : String → Option String) (bits : Nat) (key : String) (n : Nat) : Prop :=
  ∃ text, Supplies v key text ∧ Numeral bits text n

namespace ArgumentValues

/-- The value of a key as it was filled in. -/
def raw (values : ArgumentValues) (key : String) : Option String :=
  lookupEntry key values.entries

variable {values : ArgumentValues} {key : String}

theorem require_eq_ok_iff {text : String} :
    values.require key = .ok text ↔ Supplies values.raw key text := by
  rw [require, get?, Supplies, raw]
  cases (lookupEntry key values.entries).map Text.trim with
  | none => simp
  | some trimmed =>
      rw [Option.filter_some]
      by_cases blank : trimmed = ""
      · rw [if_neg (by simpa using blank)]
        constructor
        · intro impossible
          cases impossible
        · rintro ⟨same, solid⟩
          exact absurd ((Option.some.inj same).symm.trans blank) solid
      · rw [if_pos (by simpa using blank)]
        constructor
        · intro read
          cases read
          exact ⟨rfl, blank⟩
        · rintro ⟨same, -⟩
          cases same
          rfl

theorem parseAs_eq_ok_iff {bits n : Nat} :
    values.parseAs (Decimal.unsigned? bits) key = .ok n ↔ SuppliesNumber values.raw bits key n := by
  rw [parseAs, SuppliesNumber]
  simp only [← require_eq_ok_iff]
  cases values.require key with
  | error reason => simp
  | ok raw =>
      dsimp only
      have read : Decimal.unsigned? bits raw = some n ↔ Numeral bits raw n :=
        Decimal.unsigned?_eq_some_iff
      cases number : Decimal.unsigned? bits raw with
      | none =>
          rw [number] at read
          simpa using read
      | some m =>
          rw [number] at read
          simpa using read

end ArgumentValues

theorem SuppliesNumber.lt {v : String → Option String} {bits n : Nat} {key : String}
    (h : SuppliesNumber v bits key n) : n < Nat.pow 2 bits := by
  obtain ⟨text, -, digits, -, -, -, -, small⟩ := h
  exact small

theorem Supplies.plain {v : String → Option String} {key text : String} (h : Supplies v key text) :
    Text.Plain text := by
  obtain ⟨given, solid⟩ := h
  obtain ⟨raw, -, rfl⟩ := Option.map_eq_some_iff.mp given
  exact Text.plain_trim solid

theorem bind_eq_ok_iff {ε α β : Type} {e : Except ε α} {f : α → Except ε β} {b : β} :
    e >>= f = .ok b ↔ ∃ a, e = .ok a ∧ f a = .ok b := by
  cases e with
  | error reason =>
      constructor
      · intro impossible
        cases impossible
      · rintro ⟨a, impossible, -⟩
        cases impossible
  | ok a =>
      constructor
      · intro made
        exact ⟨a, rfl, made⟩
      · rintro ⟨b, same, made⟩
        cases same
        exact made

variable {v : String → Option String} {values : ArgumentValues}

/-- Holds of the arguments that values amount to. -/
def SwitchArguments.FilledBy (v : String → Option String) (a : SwitchArguments) : Prop :=
  Supplies v "switch" a.switch

def AddSwitchArguments.FilledBy (v : String → Option String) (a : AddSwitchArguments) : Prop :=
  Supplies v "name" a.name ∧ SuppliesNumber v 32 "on_code" a.onCode.toNat ∧
    SuppliesNumber v 32 "off_code" a.offCode.toNat

def DeviceArguments.FilledBy (v : String → Option String) (a : DeviceArguments) : Prop :=
  Supplies v "device" a.device

def LevelArguments.FilledBy (v : String → Option String) (a : LevelArguments) : Prop :=
  Supplies v "device" a.device ∧ SuppliesNumber v 8 "level" a.level.toNat

def JoinArguments.FilledBy (v : String → Option String) (a : JoinArguments) : Prop :=
  SuppliesNumber v 16 "seconds" a.seconds.toNat

theorem SwitchArguments.ofValues_eq_ok_iff {a : SwitchArguments} :
    CommandArguments.ofValues values = .ok a ↔ a.FilledBy values.raw := by
  simp only [CommandArguments.ofValues, bind_eq_ok_iff, ArgumentValues.require_eq_ok_iff]
  constructor
  · rintro ⟨switch, supplied, made⟩
    cases made
    exact supplied
  · intro supplied
    exact ⟨a.switch, supplied, rfl⟩

theorem AddSwitchArguments.ofValues_eq_ok_iff {a : AddSwitchArguments} :
    CommandArguments.ofValues values = .ok a ↔ a.FilledBy values.raw := by
  simp only [CommandArguments.ofValues, bind_eq_ok_iff, ArgumentValues.require_eq_ok_iff,
    ArgumentValues.parseAs_eq_ok_iff]
  constructor
  · rintro ⟨name, named, on, onCode, off, offCode, made⟩
    cases made
    have same : (UInt32.ofNat on).toNat = on := UInt32.toNat_ofNat_of_lt' onCode.lt
    have same' : (UInt32.ofNat off).toNat = off := UInt32.toNat_ofNat_of_lt' offCode.lt
    exact ⟨named, same.symm ▸ onCode, same'.symm ▸ offCode⟩
  · rintro ⟨named, onCode, offCode⟩
    refine ⟨a.name, named, _, onCode, _, offCode, ?_⟩
    rw [UInt32.ofNat_toNat, UInt32.ofNat_toNat]
    rfl

theorem DeviceArguments.ofValues_eq_ok_iff {a : DeviceArguments} :
    CommandArguments.ofValues values = .ok a ↔ a.FilledBy values.raw := by
  simp only [CommandArguments.ofValues, bind_eq_ok_iff, ArgumentValues.require_eq_ok_iff]
  constructor
  · rintro ⟨device, supplied, made⟩
    cases made
    exact supplied
  · intro supplied
    exact ⟨a.device, supplied, rfl⟩

theorem LevelArguments.ofValues_eq_ok_iff {a : LevelArguments} :
    CommandArguments.ofValues values = .ok a ↔ a.FilledBy values.raw := by
  simp only [CommandArguments.ofValues, bind_eq_ok_iff, ArgumentValues.require_eq_ok_iff,
    ArgumentValues.parseAs_eq_ok_iff]
  constructor
  · rintro ⟨device, named, level, supplied, made⟩
    cases made
    have same : (UInt8.ofNat level).toNat = level := UInt8.toNat_ofNat_of_lt' supplied.lt
    exact ⟨named, same.symm ▸ supplied⟩
  · rintro ⟨named, supplied⟩
    refine ⟨a.device, named, _, supplied, ?_⟩
    rw [UInt8.ofNat_toNat]
    rfl

theorem JoinArguments.ofValues_eq_ok_iff {a : JoinArguments} :
    CommandArguments.ofValues values = .ok a ↔ a.FilledBy values.raw := by
  simp only [CommandArguments.ofValues, bind_eq_ok_iff, ArgumentValues.parseAs_eq_ok_iff]
  constructor
  · rintro ⟨seconds, supplied, made⟩
    cases made
    have same : (UInt16.ofNat seconds).toNat = seconds := UInt16.toNat_ofNat_of_lt' supplied.lt
    rw [FilledBy, same]
    exact supplied
  · intro supplied
    refine ⟨_, supplied, ?_⟩
    rw [UInt16.ofNat_toNat]
    rfl

/-- Arguments that are ready come from values. -/
theorem exists_ofValues_of_ready {α : Type} [CommandArguments α] {data : Option String}
    {schema : ArgumentSchema} {a : α} (ready : Negotiation.negotiate data schema = .ready a) :
    ∃ values, CommandArguments.ofValues values = .ok a := by
  rw [Negotiation.negotiate] at ready
  split at ready
  · cases ready
  · rw [Negotiation.ofData] at ready
    split at ready
    · cases ready
    · next values _ =>
        split at ready
        · next arguments taken =>
            cases ready
            exact ⟨values, taken⟩
        · cases ready

/-- How a negotiation ends: with the one arguments that are filled in, or with the server's schema. -/
structure Settles {α : Type} (filled : α → Prop) (schema : ArgumentSchema)
    (outcome : Negotiation α) : Prop where
  ready : ∀ a, outcome = .ready a ↔ filled a
  challenge : (¬∃ a, filled a) → outcome = .challenge schema
  readable : ∀ reason, outcome ≠ .malformed reason

/-- Data that can be read settles the negotiation. -/
theorem ofData_settles {α : Type} [CommandArguments α] {filled : α → Prop} {data : String}
    {values : ArgumentValues} (t : ArgumentSchema) (parsed : ArgumentValues.parse data = .ok values)
    (taken : ∀ a, CommandArguments.ofValues values = .ok a ↔ filled a) :
    Settles filled t (Negotiation.ofData data t) := by
  cases made : CommandArguments.ofValues (α := α) values with
  | ok a =>
      have outcome : (Negotiation.ofData data t : Negotiation α) = .ready a := by
        simp only [Negotiation.ofData, parsed, made]
      rw [made] at taken
      rw [outcome]
      refine ⟨fun b => ?_, fun none => ?_, fun reason impossible => ?_⟩
      · rw [← taken b, Negotiation.ready.injEq, Except.ok.injEq]
      · exact absurd ⟨a, (taken a).mp rfl⟩ none
      · cases impossible
  | error reason =>
      have outcome : (Negotiation.ofData data t : Negotiation α) = .challenge t := by
        simp only [Negotiation.ofData, parsed, made]
      rw [made] at taken
      rw [outcome]
      refine ⟨fun b => ?_, fun _ => rfl, fun reason impossible => ?_⟩
      · rw [← taken b]
        constructor
        · intro impossible
          cases impossible
        · intro impossible
          cases impossible
      · cases impossible

/-- Data that is not blank is read without the blanks around it. -/
theorem negotiate_solid {α : Type} [CommandArguments α] {data : String} (solid : Text.trim data ≠ "")
    (t : ArgumentSchema) :
    (Negotiation.negotiate (some data) t : Negotiation α) = Negotiation.ofData (Text.trim data) t := by
  rw [Negotiation.negotiate, Option.map_some, Option.filter_some, if_pos (by simpa using solid)]

theorem negotiate_toJson {α : Type} [CommandArguments α] {filled : α → Prop} (s t : ArgumentSchema)
    (taken : ∀ a, CommandArguments.ofValues ⟨s.entries⟩ = .ok a ↔ filled a) :
    Settles filled t (Negotiation.negotiate (some s.toJson) t) := by
  have solid : Text.trim s.toJson ≠ "" := by
    rw [s.trim_toJson]
    exact s.toJson_ne_empty
  rw [negotiate_solid solid, s.trim_toJson]
  exact ofData_settles t (ArgumentValues.parse_toJson s) taken

/-- A schema that is sent as a challenge, read, filled in and resubmitted settles the negotiation. -/
def Closes {α : Type} [CommandArguments α] (FilledBy : (String → Option String) → α → Prop) : Prop :=
  ∀ (s t : ArgumentSchema) (key : String) (commands : List String)
    (values : List (String × String)), ∃ json received,
      (s.challenge key commands).data = some json ∧ ArgumentSchema.ofJson json = .ok received ∧
        (received.resubmission values).action = some s.command ∧
        Settles (FilledBy (s.filledValue values)) t
          (Negotiation.negotiate (received.resubmission values).data t)

theorem closes_of_taken {α : Type} [CommandArguments α]
    {FilledBy : (String → Option String) → α → Prop}
    (taken : ∀ (values : ArgumentValues) (a : α),
      CommandArguments.ofValues values = .ok a ↔ FilledBy values.raw a) : Closes FilledBy := by
  intro s t key commands values
  refine ⟨s.toJson, s, rfl, s.ofJson_toJson, rfl, ?_⟩
  have filled : ArgumentValues.raw ⟨(s.filled values).entries⟩ = s.filledValue values := by
    funext key
    exact s.get?_filled values key
  rw [s.resubmission_data]
  apply negotiate_toJson
  intro a
  rw [taken, filled]

theorem negotiation_closes :
    Closes SwitchArguments.FilledBy ∧ Closes AddSwitchArguments.FilledBy ∧
      Closes DeviceArguments.FilledBy ∧ Closes LevelArguments.FilledBy ∧
        Closes JoinArguments.FilledBy := by
  refine ⟨?_, ?_, ?_, ?_, ?_⟩
  · exact closes_of_taken fun values a => SwitchArguments.ofValues_eq_ok_iff
  · exact closes_of_taken fun values a => AddSwitchArguments.ofValues_eq_ok_iff
  · exact closes_of_taken fun values a => DeviceArguments.ofValues_eq_ok_iff
  · exact closes_of_taken fun values a => LevelArguments.ofValues_eq_ok_iff
  · exact closes_of_taken fun values a => JoinArguments.ofValues_eq_ok_iff

end Switchboard
