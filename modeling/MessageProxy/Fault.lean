import MessageProxy.Status

/-!
The ways in which an operation on the message proxy, or a client over it, fails.
-/

namespace MessageProxy

/-- Failure kinds of every layer above the supervisor calls. -/
inductive Fault where
  | failed
  | unsupported
  | invalidParameter
  | accessDenied
  | notFound
  | outOfRange
  | outOfResources
  | deviceError
  | capacityExceeded
  | notReady
  | alreadyStarted
  | timeout
deriving DecidableEq

namespace Fault

/-- The failure in words. -/
def message : Fault → String
  | failed => "mpxy: operation failed"
  | unsupported => "mpxy: unsupported"
  | invalidParameter => "mpxy: invalid parameter"
  | accessDenied => "mpxy: access denied"
  | notFound => "mpxy: not found"
  | outOfRange => "mpxy: out of range"
  | outOfResources => "mpxy: out of resources"
  | deviceError => "mpxy: device error"
  | capacityExceeded => "mpxy: capacity exceeded"
  | notReady => "mpxy: not ready"
  | alreadyStarted => "mpxy: already started"
  | timeout => "mpxy: timeout"

/-- The one place where a failed supervisor call becomes a fault. -/
def ofStatus : Status → Fault
  | .failed => failed
  | .notSupported => unsupported
  | .invalidParam | .invalidAddress => invalidParameter
  | .denied => accessDenied
  | .alreadyAvailable | .alreadyStarted | .alreadyStopped => alreadyStarted
  | .noSharedMemory | .invalidState => notReady
  | .badRange => outOfRange
  | .timeout => timeout
  | .io | .unknown _ => deviceError

end Fault

end MessageProxy
