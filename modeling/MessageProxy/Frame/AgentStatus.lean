/-!
The status word that an agent puts at the start of its answers.
-/

namespace MessageProxy

/-- The status words with a meaning. -/
inductive AgentStatus where
  | success
  | failed
  | notSupported
  | invalidParameter
  | denied
  | notFound
  | outOfRange
  | outOfResources
  | hardwareFault
deriving DecidableEq

namespace AgentStatus

/-- The meaning of a status word, if it has one. -/
def ofCode? (code : Int32) : Option AgentStatus :=
  if code = 0 then some success
  else if code = -1 then some failed
  else if code = -2 then some notSupported
  else if code = -3 then some invalidParameter
  else if code = -4 then some denied
  else if code = -5 then some notFound
  else if code = -6 then some outOfRange
  else if code = -7 then some outOfResources
  else if code = -8 then some hardwareFault
  else none

/-- The status word of a meaning. -/
def code : AgentStatus → Int32
  | success => 0
  | failed => -1
  | notSupported => -2
  | invalidParameter => -3
  | denied => -4
  | notFound => -5
  | outOfRange => -6
  | outOfResources => -7
  | hardwareFault => -8

/-- The name of a meaning, as log lines show it. -/
def name : AgentStatus → String
  | success => "Success"
  | failed => "Failed"
  | notSupported => "NotSupported"
  | invalidParameter => "InvalidParameter"
  | denied => "Denied"
  | notFound => "NotFound"
  | outOfRange => "OutOfRange"
  | outOfResources => "OutOfResources"
  | hardwareFault => "HardwareFault"

end AgentStatus

end MessageProxy
