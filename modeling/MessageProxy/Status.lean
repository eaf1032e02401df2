/-!
What a call to the supervisor binary interface returns: an error code, zero for success, and a
value that the function defines.
-/

namespace MessageProxy

/-- The standard failure codes; any code outside their table is kept as it came. -/
inductive Status where
  | failed
  | notSupported
  | invalidParam
  | denied
  | invalidAddress
  | alreadyAvailable
  | alreadyStarted
  | alreadyStopped
  | noSharedMemory
  | invalidState
  | badRange
  | timeout
  | io
  | unknown (code : Int64)
deriving DecidableEq

namespace Status

/-- The failure that an error code stands for. -/
def ofCode (code : Int64) : Status :=
  if code = -1 then failed
  else if code = -2 then notSupported
  else if code = -3 then invalidParam
  else if code = -4 then denied
  else if code = -5 then invalidAddress
  else if code = -6 then alreadyAvailable
  else if code = -7 then alreadyStarted
  else if code = -8 then alreadyStopped
  else if code = -9 then noSharedMemory
  else if code = -10 then invalidState
  else if code = -11 then badRange
  else if code = -12 then timeout
  else if code = -13 then io
  else unknown code

/-- The error code of a failure. -/
def code : Status → Int64
  | failed => -1
  | notSupported => -2
  | invalidParam => -3
  | denied => -4
  | invalidAddress => -5
  | alreadyAvailable => -6
  | alreadyStarted => -7
  | alreadyStopped => -8
  | noSharedMemory => -9
  | invalidState => -10
  | badRange => -11
  | timeout => -12
  | io => -13
  | unknown code => code

/-- The failure in words. -/
def message : Status → String
  | failed => "sbi: failed"
  | notSupported => "sbi: not supported"
  | invalidParam => "sbi: invalid parameter"
  | denied => "sbi: denied"
  | invalidAddress => "sbi: invalid address"
  | alreadyAvailable => "sbi: already available"
  | alreadyStarted => "sbi: already started"
  | alreadyStopped => "sbi: already stopped"
  | noSharedMemory => "sbi: shared memory not available"
  | invalidState => "sbi: invalid state"
  | badRange => "sbi: bad range"
  | timeout => "sbi: timeout"
  | io => "sbi: i/o error"
  | unknown code => s!"sbi: unknown error code {code.toInt}"

end Status

/-- The pair that a call returns; the value means something only when the error is zero. -/
structure Return where
  error : Int64
  value : UInt64
deriving DecidableEq

namespace Return

/-- A successful return with `value`. -/
def success (value : UInt64) : Return :=
  ⟨0, value⟩

/-- A failed return; it carries no value. A failure whose code is zero reads as a success. -/
def failure (status : Status) : Return :=
  ⟨status.code, 0⟩

/-- Whether the call succeeded. -/
def succeeded (answer : Return) : Bool :=
  answer.error = 0

/-- The value of a successful call, or the failure that its code stands for. -/
def toExcept (answer : Return) : Except Status UInt64 :=
  if answer.error = 0 then .ok answer.value else .error (Status.ofCode answer.error)

/-- The pair that reports an outcome. -/
def ofExcept : Except Status UInt64 → Return
  | .ok value => success value
  | .error status => failure status

theorem toExcept_ofExcept_ok (value : UInt64) : (ofExcept (.ok value)).toExcept = .ok value :=
  rfl

/-- A failure is read as one unless its code is zero. -/
theorem toExcept_ofExcept_error {status : Status} (hcode : status.code ≠ 0) :
    (ofExcept (.error status)).toExcept = .error (.ofCode status.code) :=
  if_neg hcode

/-- A failure whose code is zero is read as the value zero. -/
theorem toExcept_ofExcept_of_code_eq_zero {status : Status} (hcode : status.code = 0) :
    (ofExcept (.error status)).toExcept = .ok 0 :=
  if_pos hcode

end Return

end MessageProxy
