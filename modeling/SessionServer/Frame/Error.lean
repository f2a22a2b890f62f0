/-
# What can be wrong with a frame

One type for every reason why a payload cannot be framed or a frame cannot be read, and one
function that words them.
-/
namespace SessionServer

/-- Why a payload could not be framed or a frame could not be read. -/
inductive FrameError where
  /-- The header byte is not a header. -/
  | invalidHeader (detail : String)
  /-- Encryption is needed but there is no encryptor. -/
  | missingEncryptor
  /-- Compression is needed but there is no compressor. -/
  | missingCompressor
  /-- A frame body, or its restored form, has `size` bytes where `limit` are allowed. -/
  | frameTooLarge (size limit : Nat)
  /-- The input ends after `actual` bytes where `expected` were announced. -/
  | truncated (expected actual : Nat)
  /-- The input goes on to `actual` bytes where `expected` were announced. -/
  | trailingBytes (expected actual : Nat)
  /-- A frame on a byte stream has no length field. -/
  | uncountedStreamFrame
  | compression (detail : String)
  | encryption (detail : String)
deriving DecidableEq, Repr

/-- The name of a frame error, without its details. -/
def FrameError.label : FrameError → String
  | invalidHeader _ => "InvalidHeader"
  | missingEncryptor => "MissingEncryptor"
  | missingCompressor => "MissingCompressor"
  | frameTooLarge .. => "FrameTooLarge"
  | truncated .. => "Truncated"
  | trailingBytes .. => "TrailingBytes"
  | uncountedStreamFrame => "UncountedStreamFrame"
  | compression _ => "Compression"
  | encryption _ => "Encryption"

/-- The wording of a frame error. -/
def FrameError.message : FrameError → String
  | invalidHeader detail => s!"invalid header: {detail}"
  | missingEncryptor => "encryption requested but no encryptor is configured"
  | missingCompressor => "no compressor configured"
  | frameTooLarge size limit => s!"frame too large: {size} bytes (limit {limit})"
  | truncated expected actual => s!"truncated frame: expected {expected} bytes, got {actual}"
  | trailingBytes expected actual => s!"trailing bytes: expected {expected} bytes, got {actual}"
  | uncountedStreamFrame => "stream frames must carry a length field"
  | compression detail => s!"compression failed: {detail}"
  | encryption detail => s!"encryption failed: {detail}"

end SessionServer
