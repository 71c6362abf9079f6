import Switchboard.Hardware.Dongle
import Switchboard.Proofs.Argument.Schema
import Switchboard.Proofs.Json.Numbers
import Switchboard.Proofs.Json.Tagged
import Switchboard.Proofs.Payload.Codec

/-!
The other records that are written as JSON: the configuration of the devices, the devices of a network and
its events. Each is read back from its text, as is a schema, also out of the message that carries it.
-/

namespace Switchboard

open Json Json.RecordShape

namespace SwitchConfig

def members (s : SwitchConfig) : List (Member SwitchConfig) :=
  [⟨"name", .text s.name, fun t => { t with name := s.name }⟩,
    ⟨"on_code", .number (.integer s.onCode.toNat), fun t => { t with onCode := .ofNat s.onCode.toNat }⟩,
    ⟨"off_code", .number (.integer s.offCode.toNat), fun t => { t with offCode := .ofNat s.offCode.toNat }⟩]

theorem fits (s : SwitchConfig) : ∀ p ∈ s.members, p.Fits shape := by
  simp only [members, List.forall_mem_cons]
  exact ⟨⟨_, rfl, reads_map _ (reads_text _)⟩,
    ⟨_, rfl, reads_map _ (reads_word (by decide) (UInt32.toNat_lt _))⟩,
    ⟨_, rfl, reads_map _ (reads_word (by decide) (UInt32.toNat_lt _))⟩, nofun⟩

theorem reads (s : SwitchConfig) : Reads shape.decoder.read s.toValue.chars s := by
  refine reads_record ["name", "on_code", "off_code"] s.fits rfl (by decide) (by decide) ?_
  simp only [members, List.foldl_cons, List.foldl_nil, UInt32.ofNat_toNat]

end SwitchConfig

namespace RfConfig

def members (c : RfConfig) : List (Member RfConfig) :=
  [⟨"enabled", .boolean c.enabled, fun d => { d with enabled := c.enabled }⟩,
    ⟨"switches", .list (c.switches.map SwitchConfig.toValue), fun d => { d with switches := c.switches }⟩]

theorem fits (c : RfConfig) : ∀ p ∈ c.members, p.Fits shape := by
  simp only [members, List.forall_mem_cons]
  exact ⟨⟨_, rfl, reads_map _ (reads_boolean _)⟩,
    ⟨_, rfl, reads_map _ (reads_list_map fun s _ => ⟨s.reads, startsItem_object _⟩)⟩, nofun⟩

theorem reads (c : RfConfig) : Reads shape.decoder.read c.toValue.chars c :=
  reads_record ["enabled", "switches"] c.fits rfl (by decide) (by decide) rfl

end RfConfig

namespace DeviceEntry

def members (d : DeviceEntry) : List (Member DeviceEntry) :=
  [⟨"id", .text d.id, fun e => { e with id := d.id }⟩,
    ⟨"name", .text d.name, fun e => { e with name := d.name }⟩,
    ⟨"dimmable", .boolean d.dimmable, fun e => { e with dimmable := d.dimmable }⟩]

theorem fits (d : DeviceEntry) : ∀ p ∈ d.members, p.Fits shape := by
  simp only [members, List.forall_mem_cons]
  exact ⟨⟨_, rfl, reads_map _ (reads_text _)⟩, ⟨_, rfl, reads_map _ (reads_text _)⟩,
    ⟨_, rfl, reads_map _ (reads_boolean _)⟩, nofun⟩

theorem reads (d : DeviceEntry) : Reads shape.decoder.read d.toValue.chars d :=
  reads_record ["id", "name", "dimmable"] d.fits rfl (by decide) (by decide) rfl

end DeviceEntry

namespace ZigBeeConfig

def members (c : ZigBeeConfig) : List (Member ZigBeeConfig) :=
  [⟨"enabled", .boolean c.enabled, fun d => { d with enabled := c.enabled }⟩,
    ⟨"channel", .number (.integer c.channel.toNat), fun d => { d with channel := .ofNat c.channel.toNat }⟩,
    ⟨"devices", .list (c.devices.map DeviceEntry.toValue), fun d => { d with devices := c.devices }⟩]

theorem fits (c : ZigBeeConfig) : ∀ p ∈ c.members, p.Fits shape := by
  simp only [members, List.forall_mem_cons]
  exact ⟨⟨_, rfl, reads_map _ (reads_boolean _)⟩,
    ⟨_, rfl, reads_map _ (reads_word (by decide) (UInt8.toNat_lt _))⟩,
    ⟨_, rfl, reads_map _ (reads_list_map fun d _ => ⟨d.reads, startsItem_object _⟩)⟩, nofun⟩

theorem reads (c : ZigBeeConfig) : Reads shape.decoder.read c.toValue.chars c := by
  refine reads_record ["enabled", "channel", "devices"] c.fits rfl (by decide) (by decide) ?_
  simp only [members, List.foldl_cons, List.foldl_nil, UInt8.ofNat_toNat]

end ZigBeeConfig

namespace DeviceConfig

def members (c : DeviceConfig) : List (Member DeviceConfig) :=
  [⟨"rf", c.rf.toValue, fun d => { d with rf := c.rf }⟩,
    ⟨"zigbee", c.zigbee.toValue, fun d => { d with zigbee := c.zigbee }⟩]

theorem fits (c : DeviceConfig) : ∀ p ∈ c.members, p.Fits shape := by
  simp only [members, List.forall_mem_cons]
  exact ⟨⟨_, rfl, reads_map _ c.rf.reads⟩, ⟨_, rfl, reads_map _ c.zigbee.reads⟩, nofun⟩

theorem reads (c : DeviceConfig) : Reads shape.decoder.read c.toValue.chars c :=
  reads_record ["rf", "zigbee"] c.fits rfl (by decide) (by decide) rfl

theorem ofJson_toJson (c : DeviceConfig) : ofJson c.toJson = .ok c := by
  rw [ofJson, toJson, decode_compact c.reads]

end DeviceConfig

namespace NetworkDevice

def members (d : NetworkDevice) : List (Member NetworkDevice) :=
  [⟨"id", .text d.id, fun e => { e with id := d.id }⟩,
    ⟨"name", .text d.name, fun e => { e with name := d.name }⟩,
    ⟨"dimmable", .boolean d.dimmable, fun e => { e with dimmable := d.dimmable }⟩,
    ⟨"on", .boolean d.on, fun e => { e with on := d.on }⟩,
    ⟨"level", .number (.integer d.level.toNat), fun e => { e with level := .ofNat d.level.toNat }⟩]

theorem fits (d : NetworkDevice) : ∀ p ∈ d.members, p.Fits shape := by
  simp only [members, List.forall_mem_cons]
  exact ⟨⟨_, rfl, reads_map _ (reads_text _)⟩, ⟨_, rfl, reads_map _ (reads_text _)⟩,
    ⟨_, rfl, reads_map _ (reads_boolean _)⟩, ⟨_, rfl, reads_map _ (reads_boolean _)⟩,
    ⟨_, rfl, reads_map _ (reads_word (by decide) (UInt8.toNat_lt _))⟩, nofun⟩

theorem reads (d : NetworkDevice) : Reads shape.decoder.read d.toValue.chars d := by
  refine reads_record ["id", "name", "dimmable", "on", "level"] d.fits rfl (by decide) (by decide) ?_
  simp only [members, List.foldl_cons, List.foldl_nil, UInt8.ofNat_toNat]

theorem ofJson_compact (d : NetworkDevice) : ofJson d.toValue.compact = .ok d := by
  rw [ofJson, decode_compact d.reads]

theorem decode_listJson (devices : List NetworkDevice) :
    (Decoder.list shape.decoder).decode (listJson devices) = .ok devices :=
  decode_compact (reads_list_map fun d _ => ⟨d.reads, startsItem_object _⟩)

end NetworkDevice

namespace NetworkEvent

/-- The name of the variant of an event. -/
def kind : NetworkEvent → String
  | joined _ => "joined"
  | left _ => "left"
  | reported _ _ _ => "attribute"

/-- The members of an event after its variant. -/
def details : NetworkEvent → List (String × Value)
  | joined device | left device => [("device", .text device)]
  | reported device name value => [("device", .text device), ("name", .text name), ("value", .text value)]

theorem toValue_eq (e : NetworkEvent) :
    e.toValue = .object ((tagged.tag, .text e.kind) :: e.details) := by
  cases e <;> rfl

theorem kind_mem_variants (e : NetworkEvent) : e.kind ∈ tagged.variants := by
  cases e <;> simp [kind, tagged]

theorem details_are_texts {e : NetworkEvent} {member : String × Value} (inside : member ∈ e.details) :
    member.1 ≠ tagged.tag ∧ ∃ text, member.2 = .text text := by
  have apart : "device" ≠ tagged.tag ∧ "name" ≠ tagged.tag ∧ "value" ≠ tagged.tag := by decide
  cases e with
  | joined device | left device =>
      obtain rfl := List.mem_singleton.mp inside
      exact ⟨apart.1, device, rfl⟩
  | reported device name value =>
      simp only [details, List.mem_cons, List.not_mem_nil, or_false] at inside
      rcases inside with rfl | rfl | rfl
      · exact ⟨apart.1, device, rfl⟩
      · exact ⟨apart.2.1, name, rfl⟩
      · exact ⟨apart.2.2, value, rfl⟩

/-- An event is told by the name of its variant and the other members. -/
theorem ofFields_details (e : NetworkEvent) : ofFields e.kind (.object e.details) = .ok e := by
  cases e <;> rfl

theorem reads (e : NetworkEvent) : Reads tagged.read e.toValue.chars (e.kind, .object e.details) := by
  rw [toValue_eq]
  refine TaggedShape.reads_object e.kind_mem_variants (fun _ inside => (details_are_texts inside).1) ?_
  intro member inside
  obtain ⟨text, written⟩ := (details_are_texts inside).2
  rw [written]
  exact Cursor.reads_value (.text text)

theorem ofJson_toJson (e : NetworkEvent) : ofJson e.toJson = .ok e := by
  have here : (Cursor.start e.toJson).rest = e.toValue.chars ++ [] := by
    rw [Cursor.start, toJson, Value.compact, String.toList_ofList, List.append_nil]
  obtain ⟨next, left, read⟩ := e.reads _ [] delimits_nil here
  simp only [ofJson, read, ofFields_details, Cursor.finished_eq allSpaces_nil left]

end NetworkEvent

namespace ArgumentSchema

/-- A challenge that went over the line still holds the schema. -/
theorem ofJson_data_challenge (s : ArgumentSchema) (key : String) (commands : List String) :
    (Payload.decode (s.challenge key commands).encode).data.map ofJson = some (.ok s) := by
  rw [Payload.decode, Payload.decodeStrict_encode]
  exact congrArg some s.ofJson_toJson

end ArgumentSchema

/-- What is written as JSON is read back as it was. -/
structure FormatsLaw : Prop where
  schema : ∀ s : ArgumentSchema, ArgumentSchema.ofJson s.toJson = .ok s
  event : ∀ e : NetworkEvent, NetworkEvent.ofJson e.toJson = .ok e
  device : ∀ d : NetworkDevice, NetworkDevice.ofJson d.toValue.compact = .ok d
  devices : ∀ ds : List NetworkDevice,
    (Decoder.list NetworkDevice.shape.decoder).decode (NetworkDevice.listJson ds) = .ok ds
  config : ∀ c : DeviceConfig, DeviceConfig.ofJson c.toJson = .ok c
  /-- A challenge is read back from its line, and the schema from its data. -/
  challenge : ∀ (s : ArgumentSchema) key commands,
    Payload.decodeStrict (s.challenge key commands).encode = .ok (s.challenge key commands) ∧
      (Payload.decode (s.challenge key commands).encode).data.map ArgumentSchema.ofJson = some (.ok s)

theorem formats_law : FormatsLaw where
  schema := ArgumentSchema.ofJson_toJson
  event := NetworkEvent.ofJson_toJson
  device := NetworkDevice.ofJson_compact
  devices := NetworkDevice.decode_listJson
  config := DeviceConfig.ofJson_toJson
  challenge s key commands := ⟨Payload.decodeStrict_encode _, s.ofJson_data_challenge key commands⟩

end Switchboard
