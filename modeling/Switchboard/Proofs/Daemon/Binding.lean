import Switchboard.Daemon.Settings
import Switchboard.Proofs.System.Address

/-!
Which address the daemon is bound to. A four-part address is given by its text, an eight-part one by its text in
brackets; the text alone is refused. The metrics are on the same address.
-/

namespace Switchboard

variable {o : GivenOptions} {file : ConfigFile} {host : String} {port : UInt16} {s : Settings}

/-- A command line or, where it says nothing, a file gives a host, and it gives a port or leaves it to the
usual one. -/
structure Asks (o : GivenOptions) (file : ConfigFile) (host : String) (port : UInt16) : Prop where
  host : ((o.value? "bind") <|> file.server.bind) = some host
  port : ((o.port? "port") <|> file.server.port).getD 6390 = port

/-- The port of the metrics, if there is one. -/
def metricsPort? (o : GivenOptions) (file : ConfigFile) : Option UInt16 :=
  (o.port? "metrics-port") <|> file.server.metricsPort

/-- There are settings, with just this address and port, and the metrics, if any, are on the same address. -/
def Binds (o : GivenOptions) (file : ConfigFile) (ip : IpAddress) (port : UInt16) : Prop :=
  ∃ s, Settings.resolve o file = .ok s ∧ s.bind = { ip, port } ∧
    s.metrics = (metricsPort? o file).map fun port => { ip, port }

theorem Asks.refused (h : Asks o file host port)
    (unread : SocketAddress.ofText? (host ++ ":" ++ toString port) = none) :
    Settings.resolve o file = .error (.invalidBind host port) := by
  unfold Settings.resolve
  simp only [h.host, h.port, Option.getD_some, unread]

theorem metrics_of_resolve (given : Settings.resolve o file = .ok s) :
    s.metrics = (metricsPort? o file).map fun port => { ip := s.bind.ip, port } := by
  unfold Settings.resolve at given
  dsimp only at given
  split at given
  · cases given
  · cases given
    rfl

theorem Asks.binds {ip : IpAddress} (h : Asks o file host port)
    (read : SocketAddress.ofText? (host ++ ":" ++ toString port) = some { ip, port }) : Binds o file ip port := by
  unfold Binds Settings.resolve
  simp only [h.host, h.port, Option.getD_some, read]
  exact ⟨_, rfl, rfl, rfl⟩

/-- How an address is given so that the daemon is bound to it. -/
structure BindingLaw (o : GivenOptions) (file : ConfigFile) (port : UInt16) : Prop where
  fourParts : ∀ a b c d, Asks o file (IpAddress.v4 a b c d).text port → Binds o file (.v4 a b c d) port
  inBrackets : ∀ groups, Asks o file ("[" ++ (IpAddress.v6 groups).text ++ "]") port →
    Binds o file (.v6 groups) port
  /-- The text of an eight-part address alone is refused, whichever it is. -/
  bare : ∀ groups, Asks o file (IpAddress.v6 groups).text port →
    Settings.resolve o file = .error (.invalidBind (IpAddress.v6 groups).text port)
  /-- However the address was given, the metrics are on it. -/
  metrics : ∀ s, Settings.resolve o file = .ok s →
    s.metrics = (metricsPort? o file).map fun port => { ip := s.bind.ip, port }

theorem binding_law (o : GivenOptions) (file : ConfigFile) (port : UInt16) : BindingLaw o file port where
  fourParts a b c d asks := asks.binds (SocketAddress.ofText?_fourParts a b c d port)
  inBrackets groups asks := asks.binds (SocketAddress.ofText?_inBrackets groups port)
  bare groups asks := asks.refused (SocketAddress.ofText?_bare groups port)
  metrics _ := metrics_of_resolve

/-- The daemon cannot be bound to this machine's own address by the usual text of it. -/
theorem loopback_refused :
    let loopback := IpAddress.v6 #v[0, 0, 0, 0, 0, 0, 0, 1]
    loopback.text = "::1" ∧
      Settings.read ["--bind", "::1", "--port", "7000", "--metrics-port", "9390"] "" none =
        .error (.invalidBind "::1" 7000) := by
  decide +kernel

end Switchboard
