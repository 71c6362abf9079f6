import Mathlib.Data.List.Induction
import Switchboard.Hardware.Dongle
import Switchboard.Proofs.Argument.Negotiation

/-!
The network of the simulated dongle as its events tell of it. Whoever starts from the configured devices and
goes through all events, those polled so far and those still held, has the devices of the network before him.
A call that fails changes nothing and tells of nothing.
-/

namespace Switchboard

inductive DongleCall
  | devices
  | permitJoin (seconds : UInt16)
  | setOnOff (device : String) (on : Bool)
  | setLevel (device : String) (level : UInt8)
  | identify (device : String)
  | pollEvents
  deriving DecidableEq, Repr

/-- A simulated dongle and the events that were polled from it, the oldest first. -/
structure PolledDongle where
  dongle : SimulatedDongle
  polled : List NetworkEvent := []

namespace PolledDongle

/-- Makes a call; gives whether it was done. -/
def call (r : PolledDongle) : DongleCall → Except Failure Unit × PolledDongle
  | .devices =>
    let (found, dongle) := Dongle.devices r.dongle
    (found.map fun _ => (), { r with dongle })
  | .permitJoin seconds =>
    let (done, dongle) := Dongle.permitJoin r.dongle seconds
    (done, { r with dongle })
  | .setOnOff device on =>
    let (done, dongle) := Dongle.setOnOff r.dongle device on
    (done, { r with dongle })
  | .setLevel device level =>
    let (done, dongle) := Dongle.setLevel r.dongle device level
    (done, { r with dongle })
  | .identify device =>
    let (done, dongle) := Dongle.identify r.dongle device
    (done, { r with dongle })
  | .pollEvents =>
    let (events, dongle) := Dongle.pollEvents r.dongle
    (.ok (), { dongle, polled := r.polled ++ events })

def after (config : ZigBeeConfig) (calls : List DongleCall) : PolledDongle :=
  calls.foldl (fun r c => (r.call c).2) { dongle := .ofConfig config }

theorem after_concat (config : ZigBeeConfig) (calls : List DongleCall) (c : DongleCall) :
    after config (calls ++ [c]) = ((after config calls).call c).2 := by
  rw [after, List.foldl_append]
  rfl

/-- All events so far, whether they were polled or are still held. -/
def events (r : PolledDongle) : List NetworkEvent :=
  r.polled ++ r.dongle.events

end PolledDongle

/-- The bulb that is the given one to join. -/
def NetworkDevice.bulb (number : Nat) : NetworkDevice where
  id := "sim-" ++ toString number
  name := "Simulated bulb " ++ toString number
  dimmable := true
  on := false
  level := 0

/-- Reads the number of a bulb from its id. -/
def bulbNumber? (id : String) : Option Nat :=
  match id.toList with
  | 's' :: 'i' :: 'm' :: '-' :: digits => Decimal.unsigned? 32 (String.ofList digits)
  | _ => none

/-- A device as a report has it. -/
def NetworkDevice.told (name value : String) (d : NetworkDevice) : NetworkDevice :=
  if name = "on_off" then { d with on := value == "on" }
  else if name = "level" then
    match Decimal.unsigned? 8 value with
    | some level => { d with level := .ofNat level, on := 0 < level }
    | none => d
  else d

/-- The place of the first device with an id. -/
def NetworkDevice.place (id : String) (devices : List NetworkDevice) : Nat :=
  devices.findIdx fun d => d.id == id

/-- The devices after an event. A report is about the first device with its id. -/
def NetworkEvent.replay (devices : List NetworkDevice) : NetworkEvent → List NetworkDevice
  | joined id =>
    match bulbNumber? id with
    | some number => devices ++ [.bulb number]
    | none => devices
  | left id => devices.eraseP fun d => d.id == id
  | reported id name value => devices.modify (NetworkDevice.place id devices) (.told name value)

namespace DongleCall

/-- Tells whether a call brings in a device. -/
def joins : DongleCall → Bool
  | permitJoin seconds => seconds != 0
  | _ => false

/-- The id of the device that a call is about. -/
def device? : DongleCall → Option String
  | setOnOff device _ => some device
  | setLevel device _ => some device
  | identify device => some device
  | _ => none

/-- A call on a device that is not there, or for the level of one that has none. -/
def Refused (devices : List NetworkDevice) (c : DongleCall) : Prop :=
  ∃ id, c.device? = some id ∧
    match devices.find? fun d => d.id == id with
    | none => True
    | some d => ∃ level, c = setLevel id level ∧ d.dimmable = false

/-- What a call tells of when it is done, where a device that joins has the given number. -/
def announces (number : Nat) : DongleCall → List NetworkEvent
  | permitJoin seconds => if seconds = 0 then [] else [.joined ("sim-" ++ toString number)]
  | setOnOff device on => [.reported device "on_off" (if on then "on" else "off")]
  | setLevel device level => [.reported device "level" (toString level)]
  | _ => []

/-- What a call makes of the device that it is about. -/
def effect (c : DongleCall) (d : NetworkDevice) : NetworkDevice :=
  match c with
  | setOnOff _ on => { d with on }
  | setLevel _ level => { d with level, on := 0 < level }
  | _ => d

end DongleCall

section texts

theorem bulbNumber?_bulb {number : Nat} (small : number < Nat.pow 2 32) :
    bulbNumber? (NetworkDevice.bulb number).id = some number := by
  have letters : (NetworkDevice.bulb number).id.toList =
      's' :: 'i' :: 'm' :: '-' :: (toString number).toList := by
    rw [NetworkDevice.bulb, String.toList_append]
    rfl
  rw [bulbNumber?, letters]
  change Decimal.unsigned? 32 (String.ofList (toString number).toList) = some number
  rw [String.ofList_toList]
  exact Decimal.unsigned?_toString small

theorem told_onOff (d : NetworkDevice) (on : Bool) :
    NetworkDevice.told "on_off" (if on then "on" else "off") d = { d with on } := by
  cases on <;> rfl

theorem told_level (d : NetworkDevice) (level : UInt8) :
    NetworkDevice.told "level" (toString level) d = { d with level, on := 0 < level } := by
  have read : Decimal.unsigned? 8 (toString level) = some level.toNat :=
    Decimal.unsigned?_toString level.toNat_lt
  have same : UInt8.ofNat level.toNat = level := UInt8.ofNat_toNat
  have lit : decide (0 < level.toNat) = decide (0 < level) := by
    rw [decide_eq_decide, UInt8.lt_iff_toNat_lt]
    rfl
  rw [NetworkDevice.told, if_neg (by decide), if_pos rfl, read]
  simp only [same, lit]

end texts

section change

variable {devices : List NetworkDevice} {id : String} {d : NetworkDevice}

theorem set_place (found : (devices.find? fun d => d.id == id) = some d)
    (f : NetworkDevice → NetworkDevice) :
    devices.set (NetworkDevice.place id devices) (f d) =
      devices.modify (NetworkDevice.place id devices) f := by
  rw [List.find?_eq_getElem?_findIdx] at found
  change devices[NetworkDevice.place id devices]? = some d at found
  ext1 i
  rw [List.getElem?_modify, List.getElem?_set]
  by_cases here : NetworkDevice.place id devices = i
  · subst here
    have bound := (List.getElem?_eq_some_iff.mp found).1
    rw [if_pos rfl, if_pos bound, found]
    simp
  · simp [here]

namespace SimulatedDongle

variable {f : NetworkDevice → Except Failure NetworkDevice}

theorem update_of_absent (absent : (devices.find? fun d => d.id == id) = none) :
    update id f devices = .error (.hardware ("no device " ++ id ++ " on the network")) := by
  induction devices with
  | nil => rfl
  | cons first rest ih =>
      rw [List.find?_cons] at absent
      split at absent
      · cases absent
      · next other =>
          rw [update, other, ih absent]
          rfl

theorem update_of_found (found : (devices.find? fun d => d.id == id) = some d) :
    update id f devices = (f d).map fun d' => devices.set (NetworkDevice.place id devices) d' := by
  induction devices with
  | nil => cases found
  | cons first rest ih =>
      rw [List.find?_cons] at found
      rw [update, NetworkDevice.place, List.findIdx_cons]
      split at found
      · next same =>
          cases found
          rw [same]
          rfl
      · next other =>
          rw [other, ih found]
          cases f d <;> rfl

variable {g : SimulatedDongle}

theorem change_of_absent (absent : (g.devices.find? fun d => d.id == id) = none)
    (events : List NetworkEvent) :
    g.change id f events = (.error (.hardware ("no device " ++ id ++ " on the network")), g) := by
  rw [change, update_of_absent absent]

theorem change_of_failure (found : (g.devices.find? fun d => d.id == id) = some d) {failure : Failure}
    (fails : f d = .error failure) (events : List NetworkEvent) :
    g.change id f events = (.error failure, g) := by
  rw [change, update_of_found found, fails]
  rfl

/-- A change that can be made is made to the first device with the id. -/
theorem change_of_found (found : (g.devices.find? fun d => d.id == id) = some d)
    {h : NetworkDevice → NetworkDevice} (made : f d = .ok (h d)) (events : List NetworkEvent) :
    g.change id f events =
      (.ok (), { g with
        devices := g.devices.modify (NetworkDevice.place id g.devices) h
        events := g.events ++ events }) := by
  rw [change, update_of_found found, made, ← set_place found h]
  rfl

end SimulatedDongle

end change

/-- What can come of a call. -/
inductive Called (r : PolledDongle) (c : DongleCall) : Except Failure Unit × PolledDongle → Prop
  | failed (failure : Failure) : c.Refused r.dongle.devices → Called r c (.error failure, r)
  | idle : c.joins = false → c.device? = none → c.announces (r.dongle.joins + 1).toNat = [] →
    Called r c (.ok (), r)
  | polled : c = .pollEvents →
    Called r c (.ok (), { dongle := { r.dongle with events := [] }, polled := r.events })
  | joined : c.joins = true → c.device? = none →
    Called r c (.ok (), { r with
      dongle :=
        { devices := r.dongle.devices ++ [.bulb (r.dongle.joins + 1).toNat]
          events := r.dongle.events ++ c.announces (r.dongle.joins + 1).toNat
          joins := r.dongle.joins + 1 } })
  | changed (id : String) : c.device? = some id → ¬c.Refused r.dongle.devices →
    Called r c (.ok (), { r with
      dongle :=
        { r.dongle with
          devices := r.dongle.devices.modify (NetworkDevice.place id r.dongle.devices) c.effect
          events := r.dongle.events ++ c.announces (r.dongle.joins + 1).toNat } })

namespace DongleCall

variable {devices : List NetworkDevice} {c : DongleCall} {id : String} {d : NetworkDevice}

theorem refused_of_absent (about : c.device? = some id)
    (absent : (devices.find? fun d => d.id == id) = none) : c.Refused devices := by
  refine ⟨id, about, ?_⟩
  rw [absent]
  trivial

theorem refused_iff (about : c.device? = some id) (found : (devices.find? fun d => d.id == id) = some d) :
    c.Refused devices ↔ ∃ level, c = setLevel id level ∧ d.dimmable = false := by
  constructor
  · rintro ⟨id', about', refused⟩
    obtain rfl : id = id' := Option.some.inj (about.symm.trans about')
    rw [found] at refused
    exact refused
  · intro refused
    refine ⟨id, about, ?_⟩
    rw [found]
    exact refused

theorem admitted (about : c.device? = some id) (found : (devices.find? fun d => d.id == id) = some d)
    (other : ∀ level, c ≠ setLevel id level) : ¬c.Refused devices := by
  rw [refused_iff about found]
  rintro ⟨level, same, -⟩
  exact other level same

end DongleCall

/-- A call that is a change of one device fails when there is no such device, or when the change does. -/
theorem Called.of_change {r : PolledDongle} {c : DongleCall} {id : String}
    {f : NetworkDevice → Except Failure NetworkDevice} (about : c.device? = some id)
    (calls : r.call c =
      let (done, dongle) := r.dongle.change id f (c.announces (r.dongle.joins + 1).toNat)
      (done, { r with dongle }))
    (outcome : ∀ d, (r.dongle.devices.find? fun d => d.id == id) = some d →
      (f d = .ok (c.effect d) ∧ ¬c.Refused r.dongle.devices) ∨
        ((∃ failure, f d = .error failure) ∧ c.Refused r.dongle.devices)) :
    Called r c (r.call c) := by
  rw [calls]
  cases found : r.dongle.devices.find? fun d => d.id == id with
  | none =>
      rw [SimulatedDongle.change_of_absent found]
      exact .failed _ (DongleCall.refused_of_absent about found)
  | some d =>
      rcases outcome d found with ⟨made, admitted⟩ | ⟨⟨failure, fails⟩, refused⟩
      · rw [SimulatedDongle.change_of_found found made]
        exact .changed id about admitted
      · rw [SimulatedDongle.change_of_failure found fails]
        exact .failed failure refused

theorem called (r : PolledDongle) (c : DongleCall) : Called r c (r.call c) := by
  cases c with
  | devices => exact .idle rfl rfl rfl
  | pollEvents => exact .polled rfl
  | permitJoin seconds =>
      by_cases closed : seconds = 0
      · subst closed
        exact .idle rfl rfl rfl
      · have opens : (seconds == 0) = false := beq_eq_false_iff_ne.mpr closed
        have joins : (DongleCall.permitJoin seconds).joins = true := bne_iff_ne.mpr closed
        have done := Called.joined (r := r) joins rfl
        rw [DongleCall.announces, if_neg closed] at done
        simp only [PolledDongle.call, Dongle.permitJoin, SimulatedDongle.permitJoin, opens]
        exact done
  | setOnOff id on =>
      refine .of_change rfl rfl fun d found => .inl ⟨rfl, ?_⟩
      exact DongleCall.admitted rfl found fun level => DongleCall.noConfusion
  | identify id =>
      refine .of_change rfl rfl fun d found => .inl ⟨rfl, ?_⟩
      exact DongleCall.admitted rfl found fun level => DongleCall.noConfusion
  | setLevel id level =>
      refine .of_change rfl rfl fun d found => ?_
      rw [DongleCall.refused_iff rfl found]
      by_cases dims : d.dimmable = true
      · refine .inl ⟨if_pos dims, ?_⟩
        rintro ⟨-, -, dull⟩
        rw [dims] at dull
        cases dull
      · exact .inr ⟨⟨_, if_neg dims⟩, level, rfl, Bool.eq_false_iff.mpr dims⟩

section retelling

variable {config : ZigBeeConfig} {r : PolledDongle} {c : DongleCall}

theorem effect_told {id : String} (about : c.device? = some id) (number : Nat) (devices : List NetworkDevice) :
    (c.announces number).foldl NetworkEvent.replay devices =
      devices.modify (NetworkDevice.place id devices) c.effect := by
  cases c with
  | devices | permitJoin | pollEvents => cases about
  | setOnOff other on =>
      cases about
      change devices.modify _ (NetworkDevice.told "on_off" (if on then "on" else "off")) = _
      rw [funext fun d => told_onOff d on]
      rfl
  | setLevel other level =>
      cases about
      change devices.modify _ (NetworkDevice.told "level" (toString level)) = _
      rw [funext fun d => told_level d level]
      rfl
  | identify other => exact (List.modify_id _ _).symm

/-- The number of joined devices is below two to the power of 32, so that the id of the new bulb can be read. -/
theorem join_told (joins : c.joins = true) (number : UInt32) (devices : List NetworkDevice) :
    (c.announces number.toNat).foldl NetworkEvent.replay devices =
      devices ++ [NetworkDevice.bulb number.toNat] := by
  cases c with
  | permitJoin seconds =>
      have opens : ¬seconds = 0 := bne_iff_ne.mp joins
      have read := bulbNumber?_bulb number.toNat_lt
      rw [DongleCall.announces, if_neg opens, List.foldl_cons, List.foldl_nil, NetworkEvent.replay]
      change (match bulbNumber? (NetworkDevice.bulb number.toNat).id with
        | some number => devices ++ [NetworkDevice.bulb number]
        | none => devices) = _
      rw [read]
  | _ => cases joins

theorem DongleCall.not_refused (about : c.device? = none) (devices : List NetworkDevice) :
    ¬c.Refused devices := by
  rintro ⟨id, about', -⟩
  rw [about] at about'
  cases about'

namespace Called

variable {answer : Except Failure Unit × PolledDongle}

theorem unchanged (h : Called r c answer) {failure : Failure} (fails : answer.1 = .error failure) :
    answer.2 = r := by
  cases h with
  | failed failure' refused => rfl
  | idle | polled | joined | changed => cases fails

theorem fails_iff (h : Called r c answer) :
    (∃ failure, answer.1 = .error failure) ↔ c.Refused r.dongle.devices := by
  have done : (¬∃ failure, (.ok () : Except Failure Unit) = .error failure) := by
    rintro ⟨failure, wrong⟩
    cases wrong
  cases h with
  | failed failure refused => exact ⟨fun _ => refused, fun _ => ⟨failure, rfl⟩⟩
  | idle _ about => exact iff_of_false done (DongleCall.not_refused about _)
  | polled polls => exact iff_of_false done (DongleCall.not_refused (polls ▸ rfl) _)
  | joined _ about => exact iff_of_false done (DongleCall.not_refused about _)
  | changed id about admitted => exact iff_of_false done admitted

theorem announced (h : Called r c answer) (done : answer.1 = .ok ()) :
    answer.2.events = r.events ++ c.announces (r.dongle.joins + 1).toNat := by
  cases h with
  | failed => cases done
  | idle _ _ silent => rw [silent, List.append_nil]
  | polled polls =>
      subst polls
      rfl
  | joined | changed => exact (List.append_assoc _ _ _).symm

/-- Whoever has the devices from the events so far has them also after one more call. -/
theorem retold (h : Called r c answer) {known : List NetworkDevice}
    (before : r.dongle.devices = r.events.foldl NetworkEvent.replay known) :
    answer.2.dongle.devices = answer.2.events.foldl NetworkEvent.replay known := by
  have told := h.announced
  cases h with
  | failed | idle => exact before
  | polled polls =>
      subst polls
      rw [told rfl, List.foldl_append, ← before]
      rfl
  | joined joins => rw [told rfl, List.foldl_append, ← before, join_told joins]
  | changed id about => rw [told rfl, List.foldl_append, ← before, effect_told about]

end Called

theorem PolledDongle.after_retold (config : ZigBeeConfig) (calls : List DongleCall) :
    (after config calls).dongle.devices =
      (after config calls).events.foldl NetworkEvent.replay
        (config.devices.map NetworkDevice.ofEntry) := by
  induction calls using List.reverseRecOn with
  | nil => rfl
  | append_singleton calls c ih =>
      rw [after_concat]
      exact (called _ c).retold ih

/-- What the events tell of a simulated dongle. -/
structure Retelling (config : ZigBeeConfig) (r : PolledDongle) : Prop where
  retold : (Dongle.devices r.dongle).1 =
    .ok (r.events.foldl NetworkEvent.replay (config.devices.map NetworkDevice.ofEntry))
  failed : ∀ c failure, (r.call c).1 = .error failure → (r.call c).2 = r
  fails_iff : ∀ c, (∃ failure, (r.call c).1 = .error failure) ↔ c.Refused r.dongle.devices
  announced : ∀ c, (r.call c).1 = .ok () →
    (r.call c).2.events = r.events ++ c.announces (r.dongle.joins + 1).toNat

theorem retelling_law (config : ZigBeeConfig) (calls : List DongleCall) :
    Retelling config (PolledDongle.after config calls) where
  retold := congrArg Except.ok (PolledDongle.after_retold config calls)
  failed c _ fails := (called _ c).unchanged fails
  fails_iff c := (called _ c).fails_iff
  announced c done := (called _ c).announced done

end retelling

end Switchboard
