/-!
# Hexadecimal text

Words are shown in lower-case hexadecimal after `0x`, without leading zeros.
-/

namespace ObjectLocks

/-- The hexadecimal text of a number. -/
def hexText (n : Nat) : String :=
  "0x" ++ String.ofList (Nat.toDigits 16 n)

end ObjectLocks
