import Mathlib.Data.Int.Basic
import M5Auth.Core.Bytes

/-!
# The trusted clock

`TrustedClock` anchors wall-clock time to the monotonic timer: `markSynchronized` and
`acceptNtpSample` set the anchor, `snapshot` tells how old it is, `currentUnixSeconds` reads it.
-/

namespace M5Auth.Time

def resyncIntervalSeconds : Int := 6 * 60 * 60
def staleAfterSeconds : Int := 24 * 60 * 60
def maxNtpJumpSeconds : UInt64 := 300
def minAcceptedUnixSeconds : UInt64 := 1577836800
def maxAcceptedUnixSeconds : UInt64 := 4102444800

inductive Readiness where
  | notSynced | ready | stale
  deriving DecidableEq, Repr

inductive Source where
  | none | ntp | usb
  deriving DecidableEq, Repr

/-- `readiness_name`. -/
def readinessName : Readiness → String
  | .notSynced => "not_synced"
  | .ready => "ready"
  | .stale => "stale"

/-- `source_name`. -/
def sourceName : Source → String
  | .none => "none"
  | .ntp => "ntp"
  | .usb => "usb"

/-- `source_authenticity_name`. -/
def sourceAuthenticityName : Source → String
  | .none => "none"
  | .ntp => "unauthenticated_network"
  | .usb => "local_host_asserted"

inductive SyncResult where
  | ok | notConfigured | locked | notDue | invalidTime | rejectedJump | networkUnavailable
  | syncFailed | internalError
  deriving DecidableEq, Repr

/-- `sync_result_code`. -/
def syncResultCode : SyncResult → String
  | .ok => "ok"
  | .notConfigured => "wifi_not_configured"
  | .locked => "invalid_state"
  | .notDue => "time_sync_not_due"
  | .invalidTime => "invalid_time"
  | .rejectedJump => "time_jump_rejected"
  | .networkUnavailable => "network_unavailable"
  | .syncFailed => "time_sync_failed"
  | .internalError => "time_internal_error"

structure Snapshot where
  readiness : Readiness := .notSynced
  source : Source := .none
  lastSyncUnixSeconds : UInt64 := 0
  ageSeconds : Int := 0
  resyncDue : Bool := false
  deriving DecidableEq

/-- `TrustedClock`; the monotonic timer counts microseconds. -/
structure TrustedClock where
  synchronized : Bool := false
  baseUnixSeconds : UInt64 := 0
  baseMonotonicUs : Int := 0
  source : Source := .none
  deriving DecidableEq

namespace TrustedClock

/-- `mark_synchronized`. -/
def markSynchronized (unixSeconds : UInt64) (monotonicUs : Int) (source : Source) :
    TrustedClock where
  synchronized := true
  baseUnixSeconds := unixSeconds
  baseMonotonicUs := monotonicUs
  source

/-- `snapshot`. -/
def snapshot (clock : TrustedClock) (monotonicUs : Int) : Snapshot :=
  if !clock.synchronized then {}
  else
    let result : Snapshot :=
      { source := clock.source, lastSyncUnixSeconds := clock.baseUnixSeconds }
    if monotonicUs < clock.baseMonotonicUs then
      { result with readiness := .stale, resyncDue := true }
    else
      let elapsed := monotonicUs - clock.baseMonotonicUs
      { result with
        ageSeconds := elapsed / 1000000
        resyncDue := resyncIntervalSeconds * 1000000 ≤ elapsed
        readiness := if elapsed > staleAfterSeconds * 1000000 then .stale else .ready }

/-- `elapsed_us`. -/
def elapsedUs (nowMonotonicUs baseMonotonicUs : Int) : Int :=
  if nowMonotonicUs < baseMonotonicUs then -1 else nowMonotonicUs - baseMonotonicUs

/-- The whole seconds of a time that is not negative, as 64 bits. -/
def wholeSeconds (elapsed : Int) : UInt64 := UInt64.ofNat (elapsed / 1000000).toNat

/-- `accept_ntp_sample`. -/
def acceptNtpSample (clock : TrustedClock) (unixSeconds : UInt64) (monotonicUs : Int) :
    Bool × TrustedClock :=
  if !clock.synchronized then (true, .markSynchronized unixSeconds monotonicUs .ntp)
  else
    let elapsed := elapsedUs monotonicUs clock.baseMonotonicUs
    if elapsed < 0 then (false, clock)
    else
      let elapsedSeconds := wholeSeconds elapsed
      if clock.baseUnixSeconds > 0xffffffffffffffff - elapsedSeconds then (false, clock)
      else
        let projected := clock.baseUnixSeconds + elapsedSeconds
        let delta :=
          if unixSeconds ≥ projected then unixSeconds - projected else projected - unixSeconds
        if delta > maxNtpJumpSeconds then (false, clock)
        else (true, .markSynchronized unixSeconds monotonicUs .ntp)

/-- `current_unix_seconds`. -/
def currentUnixSeconds (clock : TrustedClock) (monotonicUs : Int) : Option UInt64 :=
  if !clock.synchronized then none
  else
    let elapsed := elapsedUs monotonicUs clock.baseMonotonicUs
    if elapsed < 0 ∨ elapsed > staleAfterSeconds * 1000000 then none
    else
      let elapsedSeconds := wholeSeconds elapsed
      if clock.baseUnixSeconds > 0xffffffffffffffff - elapsedSeconds then none
      else some (clock.baseUnixSeconds + elapsedSeconds)

end TrustedClock

/-- `acceptable_unix_seconds`. -/
def acceptableUnixSeconds (unixSeconds : UInt64) : Bool :=
  minAcceptedUnixSeconds ≤ unixSeconds && unixSeconds ≤ maxAcceptedUnixSeconds

/-- `sync_from_usb`: `unlocked` is the runtime's answer, `settable` whether `settimeofday` works. -/
def syncFromUsb (clock : TrustedClock) (unlocked settable : Bool) (unixSeconds : UInt64)
    (monotonicUs : Int) : SyncResult × TrustedClock :=
  if !acceptableUnixSeconds unixSeconds then (.invalidTime, clock)
  else if !unlocked then (.locked, clock)
  else if !settable then (.internalError, clock)
  else (.ok, .markSynchronized unixSeconds monotonicUs .usb)

end M5Auth.Time
