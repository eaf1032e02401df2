import MessageProxy.Channel.Id
import MessageProxy.Status

/-!
Calls to the supervisor binary interface: an extension, a function of it and up to six arguments.

The calls that the library makes are built here, one definition each, so that the order and the
width of their arguments is written down once.
-/

namespace MessageProxy

namespace Extension

def base : UInt64 := 0x10
def messageProxy : UInt64 := 0x4D505859
def softwareEvents : UInt64 := 0x535345

end Extension

/-! Functions of the base extension. -/

namespace BaseFunction

def specVersion : UInt64 := 0
def probe : UInt64 := 3

end BaseFunction

/-! Functions of the message proxy extension. -/

namespace ProxyFunction

def sharedMemorySize : UInt64 := 0
def setSharedMemory : UInt64 := 1
def listChannels : UInt64 := 2
def readAttributes : UInt64 := 3
def writeAttributes : UInt64 := 4
def sendWithResponse : UInt64 := 5
def sendWithoutResponse : UInt64 := 6
def notificationEvents : UInt64 := 7

end ProxyFunction

/-! Functions of the software event extension. -/

namespace EventFunction

def readAttributes : UInt64 := 0
def writeAttributes : UInt64 := 1
def register : UInt64 := 2
def unregister : UInt64 := 3
def enable : UInt64 := 4
def disable : UInt64 := 5
def complete : UInt64 := 6
def inject : UInt64 := 7
def unmask : UInt64 := 8
def mask : UInt64 := 9

end EventFunction

/-- One call, as it is passed in registers. -/
structure Call where
  extension : UInt64
  function : UInt64
  arguments : List UInt64
deriving DecidableEq

namespace Call

/-- The number of argument registers. -/
def maxArguments : Nat := 6

/-- The address that, given for both halves, takes the shared memory back. -/
def noAddress : UInt64 := 0xFFFFFFFFFFFFFFFF

def specVersion : Call :=
  ⟨Extension.base, BaseFunction.specVersion, []⟩

def probe (extension : UInt64) : Call :=
  ⟨Extension.base, BaseFunction.probe, [extension]⟩

def sharedMemorySize : Call :=
  ⟨Extension.messageProxy, ProxyFunction.sharedMemorySize, []⟩

/-- Registers the shared memory at `address`, whose upper half is zero on a 64-bit machine. -/
def registerMemory (address : UInt64) : Call :=
  ⟨Extension.messageProxy, ProxyFunction.setSharedMemory, [address, 0, 0]⟩

def deregisterMemory : Call :=
  ⟨Extension.messageProxy, ProxyFunction.setSharedMemory, [noAddress, noAddress, 0]⟩

def listChannels (start : UInt32) : Call :=
  ⟨Extension.messageProxy, ProxyFunction.listChannels, [start.toUInt64]⟩

def readAttributes (channel : ChannelId) (first count : UInt32) : Call :=
  ⟨Extension.messageProxy, ProxyFunction.readAttributes,
    [channel.raw.toUInt64, first.toUInt64, count.toUInt64]⟩

def writeAttributes (channel : ChannelId) (first : UInt32) (count : Nat) : Call :=
  ⟨Extension.messageProxy, ProxyFunction.writeAttributes,
    [channel.raw.toUInt64, first.toUInt64, count.toUInt64]⟩

def send (channel : ChannelId) (message : UInt32) (length : Nat) : Call :=
  ⟨Extension.messageProxy, ProxyFunction.sendWithResponse,
    [channel.raw.toUInt64, message.toUInt64, length.toUInt64]⟩

def post (channel : ChannelId) (message : UInt32) (length : Nat) : Call :=
  ⟨Extension.messageProxy, ProxyFunction.sendWithoutResponse,
    [channel.raw.toUInt64, message.toUInt64, length.toUInt64]⟩

def registerEvent (event : UInt32) (entryPoint argument : UInt64) : Call :=
  ⟨Extension.softwareEvents, EventFunction.register, [event.toUInt64, entryPoint, argument]⟩

def unregisterEvent (event : UInt32) : Call :=
  ⟨Extension.softwareEvents, EventFunction.unregister, [event.toUInt64]⟩

def enableEvent (event : UInt32) : Call :=
  ⟨Extension.softwareEvents, EventFunction.enable, [event.toUInt64]⟩

def disableEvent (event : UInt32) : Call :=
  ⟨Extension.softwareEvents, EventFunction.disable, [event.toUInt64]⟩

def unmaskHart : Call :=
  ⟨Extension.softwareEvents, EventFunction.unmask, []⟩

def maskHart : Call :=
  ⟨Extension.softwareEvents, EventFunction.mask, []⟩

/-- Whether the call registers shared memory or takes its registration back. -/
def setsMemory (call : Call) : Bool :=
  call.extension = Extension.messageProxy && call.function = ProxyFunction.setSharedMemory

/-- The answer on a machine without firmware to trap into: only the arguments are checked. -/
def withoutFirmware (call : Call) : Return :=
  if call.arguments.length > maxArguments then .failure .invalidParam
  else .failure .notSupported

end Call

end MessageProxy
