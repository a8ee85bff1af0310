import FrameLink.Config
import FrameLink.Toml.Writing

/-
  Configuration as a document.

  A configuration is written with one header for each part and
  one line for each field, in their order.  Numbers of a
  document have 64 bits with a sign, so a greatest packet size
  beyond those cannot be written.

  Key definitions include:
    * `FramingConfig.toToml`, `LoggingConfig.toToml`
    * `SocketConfig.toToml`
    * `SocketConfig.exampleDocument`
-/

------------------------------------------------------------
-- Parts
------------------------------------------------------------

namespace FrameLink

namespace FramingConfig

/- The framing part under its header. -/
def toToml (c : FramingConfig) : String :=
  "[framing]\n" ++
    s!"max_packet_size = {c.maxPacketSize.toNat}\n" ++
    s!"listen_backlog = {c.listenBacklog.toNat}\n" ++
    s!"overflow_policy = \"{c.overflowPolicy.name}\"\n"

end FramingConfig

namespace LoggingConfig

/- The logging part under its header. -/
def toToml (c : LoggingConfig) : String :=
  let name := String.ofList (Toml.writeString c.appName.toList)
  "[logging]\n" ++
    s!"app_name = {name}\n" ++
    s!"log_level = \"{c.logLevel.name}\"\n" ++
    s!"json_format = {c.jsonFormat}\n"

end LoggingConfig

------------------------------------------------------------
-- Configurations
------------------------------------------------------------

namespace SocketConfig

/- A number that has no place in a document. -/
def unwritable : SocketError :=
  .configError
    ("Failed to serialize config: " ++
      "out-of-range value for u64 type")

/- A configuration as a document, if it can be written. -/
def toToml (c : SocketConfig) : Except SocketError String :=
  if Nat.pow 2 63 ≤ c.framing.maxPacketSize.toNat then
    .error unwritable
  else
    .ok (c.framing.toToml ++ "\n" ++ c.logging.toToml)

/- The default configuration as a document with a title. -/
def exampleDocument : String :=
  "# packet-socket configuration\n\n" ++
    ({} : FramingConfig).toToml ++ "\n" ++
    ({} : LoggingConfig).toToml

end SocketConfig

end FrameLink
