import Mathlib.Data.List.Nodup
import Switchboard.Proofs.Hardware.NetworkEvents

/-!
The ids of the devices on the network of a simulated dongle. Each joining bulb gets an id of its own, after the
number of joins so far; a configured device can have such an id as well, and as an id stands for the first
device that has it, the bulb can then not be reached.
-/

namespace Switchboard

/-- The ids of the first bulbs to join, in order. -/
def NetworkDevice.bulbIds (joins : Nat) : List String :=
  (List.range joins).map fun earlier => (bulb (earlier + 1)).id

namespace ZigBeeConfig

def ids (config : ZigBeeConfig) : List String :=
  config.devices.map DeviceEntry.id

/-- Tells whether a configured device has the id of a bulb yet to join. -/
def Foresees (config : ZigBeeConfig) (number : Nat) : Prop :=
  (NetworkDevice.bulb number).id ∈ config.ids

end ZigBeeConfig

/-- The device that an event announces. -/
def NetworkEvent.joined? : NetworkEvent → Option String
  | joined id => some id
  | _ => none

def SimulatedDongle.ids (g : SimulatedDongle) : List String :=
  g.devices.map NetworkDevice.id

section bulbs

open NetworkDevice

variable {n number : Nat}

theorem bulbIds_succ (n : Nat) : bulbIds (n + 1) = bulbIds n ++ [(bulb (n + 1)).id] := by
  rw [bulbIds, List.range_succ, List.map_append]
  rfl

theorem length_bulbIds (n : Nat) : (bulbIds n).length = n := by
  rw [bulbIds, List.length_map, List.length_range]

theorem mem_bulbIds_iff {id : String} :
    id ∈ bulbIds n ↔ ∃ number, 1 ≤ number ∧ number ≤ n ∧ (bulb number).id = id := by
  rw [bulbIds, List.mem_map]
  constructor
  · rintro ⟨earlier, member, rfl⟩
    exact ⟨earlier + 1, by omega, List.mem_range.mp member, rfl⟩
  · rintro ⟨number, positive, bound, rfl⟩
    exact ⟨number - 1, List.mem_range.mpr (by omega), by rw [Nat.sub_add_cancel positive]⟩

/-- The number of a bulb can be read from its id, so no two of them share it. -/
theorem nodup_bulbIds (few : n < Nat.pow 2 32) : (bulbIds n).Nodup := by
  refine (List.nodup_map_iff_inj_on List.nodup_range).mpr ?_
  intro a ha b hb same
  have smallA : a + 1 < Nat.pow 2 32 := Nat.lt_of_le_of_lt (List.mem_range.mp ha) few
  have smallB : b + 1 < Nat.pow 2 32 := Nat.lt_of_le_of_lt (List.mem_range.mp hb) few
  have read := congrArg bulbNumber? same
  rw [bulbNumber?_bulb smallA, bulbNumber?_bulb smallB] at read
  exact Nat.succ.inj (Option.some.inj read)

theorem idxOf_bulbIds (few : n < Nat.pow 2 32) (positive : 1 ≤ number) (bound : number ≤ n) :
    (bulbIds n).idxOf (bulb number).id = number - 1 := by
  have inside : number - 1 < (bulbIds n).length := by
    rw [length_bulbIds]
    omega
  have here : (bulbIds n)[number - 1] = (bulb number).id := by
    simp only [bulbIds, List.getElem_map, List.getElem_range, Nat.sub_add_cancel positive]
  rw [← here]
  exact (nodup_bulbIds few).idxOf_getElem _ inside

end bulbs

theorem place_eq_idxOf (id : String) (devices : List NetworkDevice) :
    NetworkDevice.place id devices = (devices.map NetworkDevice.id).idxOf id := by
  rw [NetworkDevice.place, List.idxOf, List.findIdx_map]
  rfl

section calls

variable {c : DongleCall}

theorem joins_eq_false {id : String} (about : c.device? = some id) : c.joins = false := by
  cases c with
  | setOnOff | setLevel | identify => rfl
  | devices | permitJoin | pollEvents => cases about

theorem effect_id (c : DongleCall) (d : NetworkDevice) : (c.effect d).id = d.id := by
  cases c <;> rfl

theorem map_id_modify (c : DongleCall) (devices : List NetworkDevice) (i : Nat) :
    (devices.modify i c.effect).map NetworkDevice.id = devices.map NetworkDevice.id := by
  ext1 j
  rw [List.getElem?_map, List.getElem?_map, List.getElem?_modify, Option.map_eq_map, Option.map_map]
  refine congrArg (Option.map · devices[j]?) (funext fun d => ?_)
  change (if i = j then c.effect d else d).id = d.id
  split
  · exact effect_id c d
  · rfl

theorem filterMap_announces (c : DongleCall) (number : Nat) :
    (c.announces number).filterMap NetworkEvent.joined? =
      if c.joins then [(NetworkDevice.bulb number).id] else [] := by
  cases c with
  | permitJoin seconds =>
      by_cases closed : seconds = 0
      · subst closed
        rfl
      · have joins : (DongleCall.permitJoin seconds).joins = true := bne_iff_ne.mpr closed
        rw [DongleCall.announces, if_neg closed, joins]
        rfl
  | devices | setOnOff | setLevel | identify | pollEvents => rfl

end calls

/-- The ids on a network that so many bulbs joined. -/
structure Numbered (config : ZigBeeConfig) (n : Nat) (r : PolledDongle) : Prop where
  joins : r.dongle.joins = .ofNat n
  ids : r.dongle.ids = config.ids ++ NetworkDevice.bulbIds n
  announced : r.events.filterMap NetworkEvent.joined? = NetworkDevice.bulbIds n

namespace Numbered

variable {config : ZigBeeConfig} {n : Nat} {r : PolledDongle} {c : DongleCall}

theorem next (h : Numbered config n r) (few : n + 1 < Nat.pow 2 32) :
    (r.dongle.joins + 1).toNat = n + 1 := by
  have small : n + 1 < 2 ^ 32 := few
  rw [h.joins, UInt32.toNat_add, UInt32.toNat_ofNat']
  change (n % 2 ^ 32 + 1) % 2 ^ 32 = n + 1
  omega

/-- A call that brings in no bulb leaves all ids. -/
theorem call_of_quiet (h : Numbered config n r) (quiet : c.joins = false) :
    Numbered config n (r.call c).2 := by
  have came := called r c
  have told := came.announced
  generalize r.call c = answer at came told
  have silent : (r.events ++ c.announces (r.dongle.joins + 1).toNat).filterMap NetworkEvent.joined? =
      NetworkDevice.bulbIds n := by
    rw [List.filterMap_append, filterMap_announces, quiet, h.announced]
    exact List.append_nil _
  cases came with
  | failed | idle => exact h
  | polled => exact ⟨h.joins, h.ids, by rw [told rfl, silent]⟩
  | joined joins =>
      rw [quiet] at joins
      cases joins
  | changed id => exact ⟨h.joins, (map_id_modify c _ _).trans h.ids, by rw [told rfl, silent]⟩

theorem call_of_joins (h : Numbered config n r) (few : n + 1 < Nat.pow 2 32) (joins : c.joins = true) :
    Numbered config (n + 1) (r.call c).2 := by
  have came := called r c
  have told := came.announced
  have number := h.next few
  generalize r.call c = answer at came told
  have one : (r.events ++ c.announces (r.dongle.joins + 1).toNat).filterMap NetworkEvent.joined? =
      NetworkDevice.bulbIds (n + 1) := by
    rw [List.filterMap_append, filterMap_announces, joins, h.announced, number, bulbIds_succ]
    rfl
  cases came with
  | failed failure refused =>
      obtain ⟨id, about, -⟩ := refused
      rw [joins_eq_false about] at joins
      cases joins
  | idle quiet =>
      rw [joins] at quiet
      cases quiet
  | polled polls =>
      subst polls
      cases joins
  | changed id about =>
      rw [joins_eq_false about] at joins
      cases joins
  | joined =>
      refine ⟨?_, ?_, by rw [told rfl, one]⟩
      · change r.dongle.joins + 1 = .ofNat (n + 1)
        rw [h.joins, UInt32.ofNat_add]
        rfl
      · change (r.dongle.devices ++ [_]).map NetworkDevice.id = _
        rw [List.map_append, number, bulbIds_succ, ← List.append_assoc]
        exact congrArg (· ++ [_]) h.ids

end Numbered

theorem PolledDongle.after_numbered (config : ZigBeeConfig) (calls : List DongleCall)
    (few : calls.countP DongleCall.joins < Nat.pow 2 32) :
    Numbered config (calls.countP DongleCall.joins) (after config calls) := by
  induction calls using List.reverseRecOn with
  | nil =>
      refine ⟨rfl, ?_, rfl⟩
      change (config.devices.map NetworkDevice.ofEntry).map NetworkDevice.id = config.ids ++ []
      rw [List.map_map, List.append_nil]
      rfl
  | append_singleton calls c ih =>
      rw [List.countP_append, List.countP_singleton] at few ⊢
      rw [after_concat]
      cases joins : c.joins with
      | false =>
          rw [joins] at few
          exact (ih few).call_of_quiet joins
      | true =>
          rw [joins] at few
          exact (ih (Nat.lt_of_succ_lt few)).call_of_joins few joins

/-- How the devices of a network are named that so many bulbs joined. -/
structure Naming (config : ZigBeeConfig) (n : Nat) (r : PolledDongle) : Prop where
  ids : r.dongle.ids = config.ids ++ NetworkDevice.bulbIds n
  announced : r.events.filterMap NetworkEvent.joined? = NetworkDevice.bulbIds n
  distinct_iff : r.dongle.ids.Nodup ↔
    config.ids.Nodup ∧ ∀ number, 1 ≤ number → number ≤ n → ¬config.Foresees number
  /-- The bulb with a number can be reached: it stands after the configured devices and the bulbs before it. -/
  reached_iff : ∀ number, 1 ≤ number → number ≤ n →
    (NetworkDevice.place (NetworkDevice.bulb number).id r.dongle.devices =
        config.devices.length + (number - 1) ↔
      ¬config.Foresees number)
  acts : ∀ c id, c.device? = some id → ¬c.Refused r.dongle.devices →
    (r.call c).2.dongle.devices = r.dongle.devices.modify (NetworkDevice.place id r.dongle.devices) c.effect

section naming

variable {config : ZigBeeConfig} {n : Nat} {r : PolledDongle}

namespace Numbered

theorem nodup_ids_iff (h : Numbered config n r) (few : n < Nat.pow 2 32) :
    r.dongle.ids.Nodup ↔
      config.ids.Nodup ∧ ∀ number, 1 ≤ number → number ≤ n → ¬config.Foresees number := by
  rw [h.ids, List.nodup_append]
  constructor
  · rintro ⟨distinct, -, apart⟩
    refine ⟨distinct, fun number positive bound foreseen => ?_⟩
    exact apart _ foreseen _ (mem_bulbIds_iff.mpr ⟨number, positive, bound, rfl⟩) rfl
  · rintro ⟨distinct, fresh⟩
    refine ⟨distinct, nodup_bulbIds few, ?_⟩
    rintro id configured other joined rfl
    obtain ⟨number, positive, bound, rfl⟩ := mem_bulbIds_iff.mp joined
    exact fresh number positive bound configured

theorem place_bulb_iff (h : Numbered config n r) (few : n < Nat.pow 2 32) {number : Nat}
    (positive : 1 ≤ number) (bound : number ≤ n) :
    NetworkDevice.place (NetworkDevice.bulb number).id r.dongle.devices =
        config.devices.length + (number - 1) ↔
      ¬config.Foresees number := by
  have length : config.ids.length = config.devices.length := List.length_map _
  have here : NetworkDevice.place (NetworkDevice.bulb number).id r.dongle.devices =
      (config.ids ++ NetworkDevice.bulbIds n).idxOf (NetworkDevice.bulb number).id := by
    rw [place_eq_idxOf, ← h.ids]
    rfl
  rw [here, ← length]
  constructor
  · intro after foreseen
    -- a configured device with the id stands before every bulb
    have before := List.idxOf_lt_length_iff.mpr foreseen
    rw [List.idxOf_append_of_mem foreseen] at after
    omega
  · intro fresh
    rw [List.idxOf_append_of_notMem fresh, idxOf_bulbIds few positive bound]

end Numbered

theorem acts_of_admitted {c : DongleCall} {id : String} (about : c.device? = some id)
    (admitted : ¬c.Refused r.dongle.devices) :
    (r.call c).2.dongle.devices =
      r.dongle.devices.modify (NetworkDevice.place id r.dongle.devices) c.effect := by
  have came := called r c
  generalize r.call c = answer at came
  cases came with
  | failed failure refused => exact absurd refused admitted
  | idle _ none | joined _ none =>
      rw [about] at none
      cases none
  | polled polls =>
      subst polls
      cases about
  | changed id' about' =>
      obtain rfl : id = id' := Option.some.inj (about.symm.trans about')
      rfl

theorem naming_law (config : ZigBeeConfig) (calls : List DongleCall)
    (few : calls.countP DongleCall.joins < Nat.pow 2 32) :
    Naming config (calls.countP DongleCall.joins) (PolledDongle.after config calls) := by
  have numbered := PolledDongle.after_numbered config calls few
  exact
    { ids := numbered.ids
      announced := numbered.announced
      distinct_iff := numbered.nodup_ids_iff few
      reached_iff := fun number positive bound => numbered.place_bulb_iff few positive bound
      acts := fun c id about admitted => acts_of_admitted about admitted }

/-- Two bulbs join the lamp in the hall. -/
theorem hall_naming :
    [DongleCall.permitJoin 30, .setOnOff "hall" true, .permitJoin 30].countP DongleCall.joins < Nat.pow 2 32 ∧
      Naming { devices := [{ id := "hall", name := "Hall", dimmable := false }] } 2
        (.after { devices := [{ id := "hall", name := "Hall", dimmable := false }] }
          [.permitJoin 30, .setOnOff "hall" true, .permitJoin 30]) := by
  have few : [DongleCall.permitJoin 30, .setOnOff "hall" true, .permitJoin 30].countP DongleCall.joins <
      Nat.pow 2 32 := by decide
  exact ⟨few, naming_law _ _ few⟩

/-- The ids of the configured devices are distinct, here there is only one. Yet a bulb joins that has the same
id, and who switches on what was announced switches on the other device. -/
theorem bulb_out_of_reach :
    let config : ZigBeeConfig := { devices := [{ id := "sim-1", name := "Hall", dimmable := true }] }
    let joined := PolledDongle.after config [.permitJoin 30]
    let switched := PolledDongle.after config [.permitJoin 30, .setOnOff "sim-1" true]
    config.ids.Nodup ∧ ¬joined.dongle.ids.Nodup ∧ joined.events = [.joined "sim-1"] ∧
      switched.dongle.devices =
        [{ id := "sim-1", name := "Hall", dimmable := true, on := true },
          { id := "sim-1", name := "Simulated bulb 1", dimmable := true, on := false }] := by
  decide

end naming

end Switchboard
