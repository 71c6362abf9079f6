import Switchboard.Metrics.Basic

/-!
The text in which the counts are read. Each family has two lines about it and then its samples; families
are sorted by name and samples by label. A labelled family without samples is left out.
-/

namespace Switchboard

inductive MetricKind
  | counter
  | gauge
  | histogram
  deriving DecidableEq, Repr

/-- One sample: what is added to the name of its family, its labels and its number. -/
structure Sample where
  ending : String := ""
  labels : List (String × String) := []
  number : String
  deriving DecidableEq, Repr

structure MetricFamily where
  name : String
  help : String
  kind : MetricKind
  samples : List Sample
  deriving DecidableEq, Repr

def MetricKind.text : MetricKind → String
  | counter => "counter"
  | gauge => "gauge"
  | histogram => "histogram"

namespace Sample

/-- A character of a label's value as it stands in quotes. -/
def escapeChar : Char → List Char
  | '\\' => ['\\', '\\']
  | '"' => ['\\', '"']
  | '\n' => ['\\', 'n']
  | c => [c]

def labelText (label : String × String) : String :=
  label.1 ++ "=\"" ++ String.ofList (label.2.toList.flatMap escapeChar) ++ "\""

/-- The line of a sample, without its end. -/
def text (family : String) (s : Sample) : String :=
  let labels :=
    if s.labels.isEmpty then ""
    else "\x7b" ++ String.intercalate "," (s.labels.map labelText) ++ "\x7d"
  family ++ s.ending ++ labels ++ " " ++ s.number

end Sample

namespace MetricFamily

/-- The lines of a family, without their ends. -/
def lines (f : MetricFamily) : List String :=
  if f.samples.isEmpty then []
  else
    ("# HELP " ++ f.name ++ " " ++ f.help) :: ("# TYPE " ++ f.name ++ " " ++ f.kind.text) ::
      f.samples.map (Sample.text f.name)

end MetricFamily

namespace Metrics

/-- The text of a whole number, which is read as a double. -/
def wholeText (negative : Bool) (n : Nat) : String :=
  { Binary64.ofNat n with negative }.text ⟨none, false⟩

def countText (n : UInt64) : String :=
  wholeText false n.toNat

/-- The entries of a labelled value, sorted by label. -/
def sorted {α : Type} (entries : Labelled α) : List (String × α) :=
  entries.mergeSort fun a b => decide (a.1 ≤ b.1)

def single (name help : String) (n : UInt64) : MetricFamily :=
  ⟨name, help, .counter, [{ number := countText n }]⟩

def labelled (name help label : String) (entries : Labelled UInt64) : MetricFamily :=
  ⟨name, help, .counter, (sorted entries).map fun (value, n) =>
    { labels := [(label, value)], number := countText n }⟩

def histogramSamples (action : String) (h : Histogram) : List Sample :=
  let bucket (bound : String) (n : UInt64) : Sample :=
    { ending := "_bucket", labels := [("action", action), ("le", bound)], number := countText n }
  List.zipWith (fun bound n => bucket (bound.text ⟨none, false⟩) n) Histogram.bounds h.cumulative ++
    [bucket "+Inf" h.count,
      { ending := "_sum", labels := [("action", action)], number := h.sum.text },
      { ending := "_count", labels := [("action", action)], number := countText h.count }]

/-- The families, sorted by name. -/
def families (m : Metrics) : List MetricFamily := [
  single "swb_async_payloads_flushed_total" "Hardware results and events written after coalescing" m.flushed,
  single "swb_bytes_received_total" "Total bytes received from clients" m.bytesReceived,
  single "swb_bytes_sent_total" "Total bytes sent to clients" m.bytesSent,
  ⟨"swb_connections_active", "Number of active connections", .gauge,
    [{ number := wholeText (m.connectionsActive < 0) m.connectionsActive.toInt.natAbs }]⟩,
  single "swb_connections_total" "Total number of connections" m.connectionsTotal,
  single "swb_oversized_frames_total" "Lines dropped for exceeding the size limit" m.oversized,
  ⟨"swb_payload_duration_seconds", "Payload processing duration", .histogram,
    (sorted m.durations).flatMap fun (action, h) => histogramSamples action h⟩,
  labelled "swb_payloads_total" "Total number of request payloads processed, by request action" "action"
    m.payloads,
  labelled "swb_protocol_selections_total" "Protocols chosen by connections" "protocol" m.selections]

def text (m : Metrics) : String :=
  String.join ((m.families.flatMap MetricFamily.lines).map (· ++ "\n"))

end Metrics

end Switchboard
