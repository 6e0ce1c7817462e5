import Mathlib.Tactic.Common

/-!
# The gesture quarantine

After the press that confirms a request, `PresenceGestureQuarantine` keeps the button from the user
interface until the gesture of that press is over: the button is released, and the time in which
the driver may still decide a click count has passed.
-/

namespace M5Auth.Session

/-- The arguments of `observe`. -/
structure ButtonSample where
  pressed : Bool
  decidingClickCount : Bool
  nowMs : UInt64
  deriving DecidableEq

structure PresenceGestureQuarantine where
  active : Bool := false
  releaseObserved : Bool := false
  releaseObservedAtMs : UInt64 := 0
  clickDecisionTimeoutMs : UInt32 := 0
  deriving DecidableEq

namespace PresenceGestureQuarantine

/-- `begin`. -/
def beginQuarantine (nowMs : UInt64) (clickDecisionTimeoutMs : UInt32) :
    PresenceGestureQuarantine where
  active := true
  releaseObserved := false
  releaseObservedAtMs := nowMs
  clickDecisionTimeoutMs

/-- `cancel`. -/
def cancel : PresenceGestureQuarantine := {}

/-- `observe`. -/
def observe (q : PresenceGestureQuarantine) (sample : ButtonSample) : PresenceGestureQuarantine :=
  if !q.active then q
  else if sample.pressed then { q with releaseObserved := false }
  else if !q.releaseObserved then
    { q with releaseObserved := true, releaseObservedAtMs := sample.nowMs }
  else if sample.decidingClickCount then q
  else if sample.nowMs < q.releaseObservedAtMs then q
  else if sample.nowMs - q.releaseObservedAtMs ≤ q.clickDecisionTimeoutMs.toUInt64 then q
  else cancel

end PresenceGestureQuarantine

end M5Auth.Session
