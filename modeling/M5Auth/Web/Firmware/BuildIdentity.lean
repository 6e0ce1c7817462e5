import M5Auth.Web.CanonicalProtocol
import M5Auth.Web.Import.Accounts
import M5Auth.Web.Passphrase

/-!
# Build identities

`resolveBuildIdentity` of `build-identity.ts`. A `BuildIdentity` is made there only, so that its
commit is a number in small hexadecimal digits.
-/

namespace M5Auth.Web.Firmware

open Import (trim)

/-! ## The forms of the texts -/

/-- `/^[0-9a-f]$/`. -/
def isLowerHex (unit : UInt16) : Bool := isDigit unit || (97 ≤ unit && unit ≤ 102)

/-- `/^[0-9a-f]$/i`. -/
def isHex (unit : UInt16) : Bool := isLowerHex unit || (65 ≤ unit && unit ≤ 70)

/-- `BUILD_COMMIT`. -/
def isBuildCommit (commit : JsString) : Bool :=
  decide (7 ≤ commit.length) && decide (commit.length ≤ 64) && commit.all isHex

/-- A commit in small digits. -/
def isLowerCommit (commit : JsString) : Bool :=
  decide (7 ≤ commit.length) && decide (commit.length ≤ 64) && commit.all isLowerHex

/-- `RELEASE_VERSION.exec`: the three numbers. -/
def releaseVersion (version : JsString) : Option (JsString × JsString × JsString) :=
  let numbers := if version.head? = some 0x76 then version.tail else version
  let isNumber (digits : JsString) : Bool := !digits.isEmpty && digits.all isDigit
  match numbers.splitOn 0x2e with
  | [major, minor, patch] =>
    if isNumber major && isNumber minor && isNumber patch then some (major, minor, patch) else none
  | _ => none

theorem isLowerHex_lower {unit : UInt16} (h : isHex unit = true) :
    isLowerHex (if 65 ≤ unit && unit ≤ 90 then unit + 32 else unit) = true := by
  have hall : ∀ n < 128, isHex (UInt16.ofNat n) = true → isLowerHex
      (if 65 ≤ UInt16.ofNat n && UInt16.ofNat n ≤ 90 then UInt16.ofNat n + 32
        else UInt16.ofNat n) = true := by decide +kernel
  have hlt : unit.toNat < 128 := by
    have hhex := h
    simp only [isHex, isLowerHex, isDigit, Bool.or_eq_true, Bool.and_eq_true, decide_eq_true_eq,
      UInt16.le_iff_toNat_le] at hhex
    have h57 : UInt16.toNat 57 = 57 := rfl
    have h70 : UInt16.toNat 70 = 70 := rfl
    have h102 : UInt16.toNat 102 = 102 := rfl
    omega
  have hunit := hall unit.toNat hlt
  rw [UInt16.ofNat_toNat] at hunit
  exact hunit h

/-- `toLowerCase` of a commit. -/
theorem isLowerCommit_lower {commit : JsString} (h : isBuildCommit commit = true) :
    isLowerCommit (asciiLower commit) = true := by
  rw [isBuildCommit, Bool.and_eq_true, List.all_eq_true] at h
  rw [isLowerCommit, asciiLower, List.length_map, List.all_map, Bool.and_eq_true, List.all_eq_true]
  exact ⟨h.1, fun unit hunit => isLowerHex_lower (h.2 unit hunit)⟩

/-! ## The identity -/

/-- `BuildIdentity`. -/
structure BuildIdentity where
  version : JsString
  buildCommit : JsString
  exactRelease : Bool
  commit : isLowerCommit buildCommit = true
  deriving DecidableEq

/-- The `exactRelease` of an input. -/
inductive ExactRelease where
  | flag (value : Bool)
  | text (value : JsString)
  deriving DecidableEq

/-- `BuildIdentityInput`. `none` is `null` or `undefined`. -/
structure BuildIdentityInput where
  version : Option JsString
  buildCommit : Option JsString
  exactRelease : Option ExactRelease

/-- `resolveBuildIdentity`. -/
def resolveBuildIdentity (input : BuildIdentityInput) : Option BuildIdentity :=
  let version := trim (input.version.getD [])
  let commit := trim (input.buildCommit.getD [])
  match releaseVersion version with
  | none => none
  | some (major, minor, patch) =>
    if h : isBuildCommit commit = true then
      some
        { version := major ++ [0x2e] ++ minor ++ [0x2e] ++ patch
          buildCommit := asciiLower commit
          exactRelease := input.exactRelease == some (.flag true) ||
            input.exactRelease == some (.text (literal "true"))
          commit := isLowerCommit_lower h }
    else none

end M5Auth.Web.Firmware
