/-
# The configuration of a server

All that can be set about a server, with defaults, the rules that bring values into their ranges,
and the form in which the configuration is read and printed.
-/
import SessionServer.Dispatcher
import SessionServer.Frame.Codec
import SessionServer.Settings

namespace SessionServer

/-- The settings of sessions. -/
structure SessionConfig where
  /-- How many packets may wait for a session. -/
  packetQueueSize : Nat := 100
deriving DecidableEq, Repr

/-- The settings of a server. -/
structure ServerConfig where
  /-- Where stream connections are accepted, if anywhere. -/
  streamAddress : Option String := some "127.0.0.1:8032"
  /-- Where datagrams are received, if anywhere. -/
  datagramAddress : Option String := none
  /-- Where text connections are accepted, if anywhere. -/
  textSocketAddress : Option String := none
  /-- The number of writers, each of which has a shard of the tickets. -/
  writerWorkers : Nat := 4
  /-- The most bytes that are read from a stream at a time. -/
  readBufferSize : Nat := 10240
  /-- How many messages may wait on a text connection. -/
  textSocketOutbound : Nat := 64
  /-- Sessions without traffic are closed after so many seconds; zero leaves them open. -/
  maxIdleSeconds : Nat := 0
  /-- Sessions without a player are closed after so many milliseconds, if at all. -/
  orphanAllowance : Option Nat := none
  /-- The milliseconds between two looks at such sessions. -/
  scanInterval : Nat := 1000
  session : SessionConfig := {}
  dispatcher : DispatcherConfig := {}
  codec : CodecConfig := {}
deriving DecidableEq, Repr

/-! ### Reading -/

/-- Reads the settings of sessions. -/
def SessionConfig.ofSetting? (s : Setting) : Option SessionConfig := do
  let fields ← s.fields? ["packet_queue_size"]
  let base : SessionConfig := {}
  return {
    packetQueueSize :=
      ← Setting.field? fields "packet_queue_size" Setting.nat? base.packetQueueSize }

/-- Reads the settings of a dispatcher. -/
def DispatcherConfig.ofSetting? (s : Setting) : Option DispatcherConfig := do
  let fields ← s.fields? ["name", "workers", "max_queue_size"]
  let base : DispatcherConfig := {}
  return {
    name := ← Setting.field? fields "name" Setting.text? base.name
    workers := ← Setting.field? fields "workers" Setting.nat? base.workers
    maxQueueSize := ← Setting.field? fields "max_queue_size" Setting.nat? base.maxQueueSize }

/-- Reads a failure policy. -/
def FailurePolicy.ofSetting? : Setting → Option FailurePolicy :=
  Setting.choice? FailurePolicy.all FailurePolicy.tag

/-- Reads the settings of a codec. -/
def CodecConfig.ofSetting? (s : Setting) : Option CodecConfig := do
  let fields ← s.fields?
    ["compression_threshold", "encrypt_failure", "compress_failure", "max_frame_size",
      "encryption"]
  let base : CodecConfig := {}
  return {
    compressionThreshold :=
      ← Setting.field? fields "compression_threshold" Setting.nat? base.compressionThreshold
    encryptFailure :=
      ← Setting.field? fields "encrypt_failure" FailurePolicy.ofSetting? base.encryptFailure
    compressFailure :=
      ← Setting.field? fields "compress_failure" FailurePolicy.ofSetting? base.compressFailure
    maxFrameSize := ← Setting.field? fields "max_frame_size" Setting.nat? base.maxFrameSize
    encryption := ← Setting.field? fields "encryption" Setting.bool? base.encryption }

namespace ServerConfig

/-- The names of the fields, in the order in which a list gives them. -/
def fieldNames : List String :=
  ["stream_addr", "datagram_addr", "text_socket_addr", "writer_workers", "read_buffer_size",
    "text_socket_outbound", "max_idle_secs", "orphan_allowance_ms", "scan_interval_ms", "session",
    "dispatcher", "codec"]

/-- Reads the settings of a server. -/
def ofSetting? (s : Setting) : Option ServerConfig := do
  let fields ← s.fields? fieldNames
  let base : ServerConfig := {}
  let address := Setting.optional Setting.text?
  let allowance := Setting.optional Setting.nat?
  return {
    streamAddress := ← Setting.field? fields "stream_addr" address base.streamAddress
    datagramAddress := ← Setting.field? fields "datagram_addr" address base.datagramAddress
    textSocketAddress := ← Setting.field? fields "text_socket_addr" address base.textSocketAddress
    writerWorkers := ← Setting.field? fields "writer_workers" Setting.nat? base.writerWorkers
    readBufferSize := ← Setting.field? fields "read_buffer_size" Setting.nat? base.readBufferSize
    textSocketOutbound :=
      ← Setting.field? fields "text_socket_outbound" Setting.nat? base.textSocketOutbound
    maxIdleSeconds := ← Setting.field? fields "max_idle_secs" Setting.nat? base.maxIdleSeconds
    orphanAllowance :=
      ← Setting.field? fields "orphan_allowance_ms" allowance base.orphanAllowance
    scanInterval := ← Setting.field? fields "scan_interval_ms" Setting.nat? base.scanInterval
    session := ← Setting.field? fields "session" SessionConfig.ofSetting? base.session
    dispatcher := ← Setting.field? fields "dispatcher" DispatcherConfig.ofSetting? base.dispatcher
    codec := ← Setting.field? fields "codec" CodecConfig.ofSetting? base.codec }

/-! ### Bringing values into range -/

/-- The smallest read buffer that is used. -/
def minReadBufferSize : Nat := 512

/-- A value, or another one in place of zero. -/
def orIfZero (n other : Nat) : Nat := if n = 0 then other else n

/-- The settings with all values in their ranges. -/
def validated (c : ServerConfig) : ServerConfig :=
  { c with
    writerWorkers := max c.writerWorkers 1
    readBufferSize := max c.readBufferSize minReadBufferSize
    textSocketOutbound := max c.textSocketOutbound 1
    scanInterval := orIfZero c.scanInterval 1000
    session := { c.session with packetQueueSize := max c.session.packetQueueSize 1 }
    codec :=
      { c.codec with maxFrameSize := orIfZero c.codec.maxFrameSize ({} : CodecConfig).maxFrameSize }
    dispatcher := c.dispatcher.validated }

end ServerConfig

/-! ### Printing -/

/-- The settings of sessions as they are written. -/
def SessionConfig.toSetting (c : SessionConfig) : Setting :=
  .record [("packet_queue_size", .nat c.packetQueueSize)]

/-- The settings of a dispatcher as they are written. -/
def DispatcherConfig.toSetting (c : DispatcherConfig) : Setting :=
  .record
    [("name", .text c.name), ("workers", .nat c.workers), ("max_queue_size", .nat c.maxQueueSize)]

/-- The settings of a codec as they are written. -/
def CodecConfig.toSetting (c : CodecConfig) : Setting :=
  .record
    [("compression_threshold", .nat c.compressionThreshold),
      ("encrypt_failure", .text c.encryptFailure.tag),
      ("compress_failure", .text c.compressFailure.tag),
      ("max_frame_size", .nat c.maxFrameSize),
      ("encryption", .bool c.encryption)]

/-- A value that may be absent as it is written. -/
def Setting.ofOption {α : Type} (write : α → Setting) : Option α → Setting
  | some a => write a
  | none => .null

/-- The settings of a server as they are written. -/
def ServerConfig.toSetting (c : ServerConfig) : Setting :=
  .record
    [("stream_addr", .ofOption .text c.streamAddress),
      ("datagram_addr", .ofOption .text c.datagramAddress),
      ("text_socket_addr", .ofOption .text c.textSocketAddress),
      ("writer_workers", .nat c.writerWorkers),
      ("read_buffer_size", .nat c.readBufferSize),
      ("text_socket_outbound", .nat c.textSocketOutbound),
      ("max_idle_secs", .nat c.maxIdleSeconds),
      ("orphan_allowance_ms", .ofOption .nat c.orphanAllowance),
      ("scan_interval_ms", .nat c.scanInterval),
      ("session", c.session.toSetting),
      ("dispatcher", c.dispatcher.toSetting),
      ("codec", c.codec.toSetting)]

end SessionServer
