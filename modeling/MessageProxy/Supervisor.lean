import MessageProxy.World

/-!
Supervisor calls whose outcome is a value or a failure, and the base extension, which tells what
the firmware offers.
-/

namespace MessageProxy

/-- An action on the world that fails with a status. -/
abbrev Supervisor (σ : Type) := ExceptT Status (StateM (World σ))

namespace Supervisor

variable {σ : Type}

/-- Makes a call and reads its outcome. -/
def request (platform : Platform σ) (call : Call) : Supervisor σ UInt64 :=
  ExceptT.mk do return (← World.call platform call).toExcept

/-- Makes a call whose value means nothing. -/
def command (platform : Platform σ) (call : Call) : Supervisor σ Unit :=
  discard (request platform call)

/-- Whether the firmware has `extension`; it reports an absent one as the value zero. -/
def probe (platform : Platform σ) (extension : UInt64) : Supervisor σ Bool := do
  let value ← request platform (.probe extension)
  note (.probed extension value)
  return value != 0

/-- The major and the minor version of the interface that the firmware implements. -/
def specVersion (platform : Platform σ) : Supervisor σ (UInt32 × UInt32) := do
  let value ← request platform .specVersion
  return (((value >>> 24) &&& 0x7F).toUInt32, (value &&& 0xFFFFFF).toUInt32)

end Supervisor

end MessageProxy
