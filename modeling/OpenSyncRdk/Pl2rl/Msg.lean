import OpenSyncRdk.Lib.Bytes

/-!
The messages of `pl2rl.h`. Every message starts with a header that holds its type and its length in
bytes, header included. The structs are packed, so a message is its fields one after another. The
names are those of `pl2rl_msg_t` and its parts, less the prefix; the sizes are those of the structs.
-/

namespace OpenSyncRdk
namespace Pl2rl

def nameLen : Nat := 32

inductive MsgType where
  | register
  | log
  deriving DecidableEq, Repr

def MsgType.toNat : MsgType → Nat
  | .register => 0
  | .log => 1

def MsgType.max : Nat := 2

def hdrSize : Nat := 4

def regDataSize : Nat := 4 + nameLen

def logDataSize : Nat := 4

def hdr (msgType : MsgType) (length : Nat) : List UInt8 :=
  le16 msgType.toNat ++ le16 length

structure Process where
  pid : UInt32
  name : CStr
  name_nul : 0 ∉ name := by decide

structure LoggerMsg where
  severity : UInt8
  module : UInt8
  text : CStr
  text_nul : 0 ∉ text := by decide

def regName (name : CStr) : CStr :=
  strscpy (nameLen - 1) name

def registerMsg (proc : Process) : List UInt8 :=
  hdr .register (hdrSize + regDataSize)
    ++ le32 proc.pid.toNat
    ++ (regName proc.name ++ List.replicate (nameLen - (regName proc.name).length) 0)

def logMsg (lmsg : LoggerMsg) : List UInt8 :=
  hdr .log (hdrSize + logDataSize + lmsg.text.length)
    ++ [lmsg.severity, lmsg.module]
    ++ le16 lmsg.text.length
    ++ lmsg.text

@[simp]
theorem hdr_length
    : (hdr msgType len).length = hdrSize := by
  rfl

theorem regName_length_lt (name : CStr)
    : (regName name).length < nameLen := by
  simp only [regName, strscpy, nameLen, List.length_take]
  omega

@[simp]
theorem registerMsg_length
    : (registerMsg proc).length = hdrSize + regDataSize := by
  have := regName_length_lt proc.name
  simp only [registerMsg, regDataSize, le32, List.length_append, List.length_replicate, hdr_length,
    List.length_cons, List.length_nil]
  omega

@[simp]
theorem logMsg_length
    : (logMsg lmsg).length = hdrSize + logDataSize + lmsg.text.length := by
  simp only [logMsg, le16, logDataSize, List.length_append, hdr_length, List.length_cons,
    List.length_nil]

end Pl2rl
end OpenSyncRdk
