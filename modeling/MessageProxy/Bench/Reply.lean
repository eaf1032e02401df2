import MessageProxy.Bench.Script
import MessageProxy.Frame.Codec
import MessageProxy.Frame.Response

/-!
The prepared replies of channels and of the other side of an envelope.

A frame reply starts from the header that answers the request; parts of it can be set, and the
finished frame can be made to lie about its length, be longer or be cut short.
-/

namespace MessageProxy.Bench

/-- A frame that answers a request, with the ways in which it deviates from a proper answer. -/
structure FrameReply where
  group : Option UInt16 := none
  service : Option UInt8 := none
  kind : Option UInt8 := none
  token : Option UInt16 := none
  /-- What is added to the token. -/
  tokenShift : UInt16 := 0
  /-- A response header in front of the body. -/
  response : Option ResponseHeader := none
  body : Bytes := []
  /-- The data length that the finished frame states. -/
  statedLength : Option UInt16 := none
  /-- Bytes behind the frame. -/
  extra : Bytes := []
  /-- The length that the whole is cut to. -/
  cut : Option Nat := none

/-- One prepared reply. -/
inductive Reply where
  | fail (status : Status)
  | raw (bytes : Bytes)
  | echo
  | frame (reply : FrameReply)

/-- The header of the frame that answers a request. -/
def FrameReply.header (reply : FrameReply) (request : Header) : Header :=
  let answer := request.reply
  { answer with
    group := reply.group.getD answer.group
    service := reply.service.getD answer.service
    kind := reply.kind.getD answer.kind
    token := reply.token.getD answer.token + reply.tokenShift }

/-- A frame with another data length in its header. -/
def stateLength (length : UInt16) (frame : Bytes) : Bytes :=
  frame.take 6 ++ Bytes.ofUInt16 length ++ frame.drop Header.length

/-- The bytes that answer a request; a request without a whole header fails. -/
def FrameReply.bytes (reply : FrameReply) (request : Bytes) : Except Status Bytes :=
  match Header.decode? request with
  | none => .error .failed
  | some header =>
    let response := (reply.response.map ResponseHeader.encode).getD []
    match Frame.encode (reply.header header) (response ++ reply.body) with
    | .error _ => .error .failed
    | .ok frame =>
      let frame := match reply.statedLength with
        | some length => stateLength length frame
        | none => frame
      let whole := frame ++ reply.extra
      .ok (match reply.cut with
        | some length => whole.take length
        | none => whole)

/-- What answers a request; where nothing is prepared, the request is not supported. -/
def Reply.bytes : Option Reply → Bytes → Except Status Bytes
  | none, _ => .error .notSupported
  | some (fail status), _ => .error status
  | some (raw bytes), _ => .ok bytes
  | some echo, request => .ok request
  | some (frame reply), request => reply.bytes request

/-- One prepared reply from the other side of an envelope. -/
structure PeerReply where
  /-- The fault that giving the envelope away ends with. -/
  fault : Option Fault := none
  reply : Option Reply := none
  /-- How much of the buffer is said to be in use. -/
  length : Option UInt64 := none

end MessageProxy.Bench
