import MessageProxy.Forwarding.Message
import MessageProxy.Frame.Response
import MessageProxy.Ras.Stage
import MessageProxy.Refusal

/-!
What the library logs: one constructor for each kind of line, with the values that the line shows.
-/

namespace MessageProxy

/-- How severe a log line is, the most severe first. -/
inductive Level where
  | error
  | warn
  | info
  | debug
deriving DecidableEq

namespace Level

/-- The place of a level in the order of severity. -/
def rank : Level → Nat
  | error => 0
  | warn => 1
  | info => 2
  | debug => 3

/-- The level as log lines show it. -/
def name : Level → String
  | error => "ERROR"
  | warn => "WARN"
  | info => "INFO"
  | debug => "DEBUG"

/-- Whether a line of `level` is shown when lines are wanted down to `threshold`. -/
def shownAt (level threshold : Level) : Bool :=
  level.rank ≤ threshold.rank

end Level

/-- Something worth a log line. -/
inductive Notice where
  | refused (reason : Refusal)
  | probed (extension value : UInt64)
  | eventRegistered (event : UInt32) (entryPoint : UInt64)
  | sizeQueryFailed (status : Status)
  | registrationFailed (fault : Fault)
  | registered (address size pages : UInt64)
  | deregistrationFailed (fault : Fault)
  | released
  | listed (start returned remaining : UInt32)
  | opened (channel : ChannelId) (info : ChannelInfo)
  | found (channel : ChannelId) (key value : UInt32)
  | skipped (channel : ChannelId) (fault : Fault)
  | sendFailed (message : UInt32) (channel : ChannelId) (status : Status)
  | answered (message : UInt32) (channel : ChannelId) (length : UInt64)
  | entered (before after : Ras.Stage)
  | sessionReady (group : UInt16) (passThrough : Bool)
  | serviceAnswered (service : UInt8) (header : ResponseHeader)
  | notificationsEnabled (channel : ChannelId)
  | retrieved (status : Int32) (remaining returned : UInt32)
  | retrieveFailed (channel : ChannelId) (fault : Fault)
  | handlerFailed (cpu : UInt64) (fault : Fault)
  | completionFailed (channel : ChannelId) (fault : Fault)
  | completed (code : Forwarding.ReturnCode)
  | handshakeInitFailed (fault : Fault)
  | armed (channel : ChannelId) (event : UInt32)
  | disarmed (event : UInt32)
  | eventFired (event : UInt32) (cpu : UInt64)

namespace Notice

/-- How severe the line is. -/
def level : Notice → Level
  | refused _ | handlerFailed .. => .warn
  | sizeQueryFailed _ | registrationFailed _ | deregistrationFailed _ | retrieveFailed ..
  | completionFailed .. | handshakeInitFailed _ => .error
  | registered .. | released | found .. | sessionReady .. | notificationsEnabled _ | armed ..
  | disarmed _ => .info
  | probed .. | eventRegistered .. | listed .. | opened .. | skipped .. | sendFailed ..
  | answered .. | entered .. | serviceAnswered .. | retrieved .. | completed _ | eventFired .. =>
    .debug

/-- The part of the system that the line is about. -/
def origin : Notice → Origin
  | refused reason => reason.origin
  | probed .. => .supervisor
  | eventRegistered .. => .softwareEvents
  | sizeQueryFailed _ | registrationFailed _ | registered .. | deregistrationFailed _ | released
  | listed .. | opened .. | found .. | skipped .. | sendFailed .. | answered .. => .messageProxy
  | _ => .rpmi

/-- What the line says; a reason without a warning says nothing. -/
def text? : Notice → Option String
  | refused reason => reason.warning?
  | probed extension value =>
    some ("probe extension " ++ hexadecimal extension.toNat ++ " -> " ++ hexadecimal value.toNat)
  | eventRegistered event entryPoint =>
    some ("registered event " ++ hexadecimal event.toNat ++ " entry " ++
      hexadecimal entryPoint.toNat)
  | sizeQueryFailed status => some ("shared memory size query failed: " ++ status.message)
  | registrationFailed fault => some ("shared memory registration failed: " ++ fault.message)
  | registered address size pages =>
    some ("shared memory registered at " ++ hexadecimal address.toNat ++
      s!" ({size.toNat} bytes, {pages.toNat} pages)")
  | deregistrationFailed fault => some ("shared memory deregistration failed: " ++ fault.message)
  | released => some "shared memory released"
  | listed start returned remaining =>
    some (s!"channel ids from {start.toNat}: returned {returned.toNat}, remaining " ++
      toString remaining.toNat)
  | opened channel info => some ("channel " ++ channel.shown ++ " opened: " ++ info.described)
  | found channel key value =>
    some ("found channel " ++ channel.shown ++ " for " ++ hexadecimal key.toNat ++ " = " ++
      hexadecimal value.toNat)
  | skipped channel fault => some ("skipping channel " ++ channel.shown ++ ": " ++ fault.message)
  | sendFailed message channel status =>
    some ("send " ++ hexadecimal message.toNat ++ " on " ++ channel.shown ++ " failed: " ++
      status.message)
  | answered message channel length =>
    some ("send " ++ hexadecimal message.toNat ++ " on " ++ channel.shown ++
      s!": {length.toNat} byte response")
  | entered before after => some ("session " ++ before.described ++ " -> " ++ after.described)
  | sessionReady group passThrough =>
    some ("client for service group " ++ hexadecimal group.toNat ++ " ready (" ++
      (if passThrough then "pass-through" else "indirect") ++ ")")
  | serviceAnswered service header =>
    some ("service " ++ hexadecimal service.toNat ++ s!": status {header.status.toInt} flags " ++
      hexadecimal header.flags.toNat ++
      s!" returned {header.returned.toNat} remaining {header.remaining.toNat}")
  | notificationsEnabled channel =>
    some ("request forwarding notifications enabled on " ++ channel.shown)
  | retrieved status remaining returned =>
    some (s!"retrieved: status {status.toInt} remaining {remaining.toNat} returned " ++
      toString returned.toNat)
  | retrieveFailed channel fault =>
    some ("retrieve on " ++ channel.shown ++ " failed: " ++ fault.message)
  | handlerFailed cpu fault =>
    some (s!"forwarded request failed on cpu {cpu.toNat}: " ++ fault.message)
  | completionFailed channel fault =>
    some ("completion on " ++ channel.shown ++ " failed: " ++ fault.message)
  | completed code => some ("forwarded request completed with " ++ code.name)
  | handshakeInitFailed fault => some ("mpxy init failed: " ++ fault.message)
  | armed channel event =>
    some ("notifications of " ++ channel.shown ++ " armed on event " ++ hexadecimal event.toNat)
  | disarmed event =>
    some ("notifications on event " ++ hexadecimal event.toNat ++ " disarmed")
  | eventFired event cpu =>
    some ("event " ++ hexadecimal event.toNat ++ s!" on cpu {cpu.toNat}")

/-- The whole line: level, part and text. -/
def line? (notice : Notice) : Option String :=
  notice.text?.map fun text => notice.level.name ++ " " ++ notice.origin.name ++ ": " ++ text

end Notice

end MessageProxy
