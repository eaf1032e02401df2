/-!
Numbers as they are written in log lines.
-/

namespace MessageProxy

/-- Hexadecimal digits in lower case behind `0x`, without leading zeros. -/
def hexadecimal (value : Nat) : String :=
  "0x" ++ String.ofList (Nat.toDigits 16 value)

end MessageProxy
