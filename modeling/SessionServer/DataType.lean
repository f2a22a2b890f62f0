/-
# Payload formats

A frame says which of two formats its payload is in.  The payload itself is never looked into.
-/
namespace SessionServer

/-- The format of a payload. -/
inductive DataType where
  /-- The application's own binary format. -/
  | zero
  | msgPack
deriving DecidableEq, Repr, Inhabited

namespace DataType

/-- The printed form of a payload format. -/
def text : DataType → String
  | zero => "zero"
  | msgPack => "msgpack"

/-- The tag that names a payload format in settings. -/
def tag : DataType → String
  | zero => "zero"
  | msgPack => "msg_pack"

/-- The payload formats, in the order they are documented. -/
def all : List DataType := [zero, msgPack]

end DataType

end SessionServer
