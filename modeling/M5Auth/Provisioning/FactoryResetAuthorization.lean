import M5Auth.Session.Presence

/-!
# Authorization of a factory reset

The attempt of a healthy factory reset (`FactoryResetAuthorization`) and that of a recovery reset
(`RecoveryReset`, three members of the canonical handler).
-/

namespace M5Auth.Provisioning

open Session (AttemptId deadlineFrom)

/-- `FactoryResetAuthorization`. -/
structure FactoryResetAuthorization where
  attemptId : AttemptId := Bytes.zero 16
  deadlineMs : UInt64 := 0
  active : Bool := false
  deriving DecidableEq

namespace FactoryResetAuthorization

/-- `Check`. -/
inductive Check where
  | ok | inactive | mismatch | expired
  deriving DecidableEq, Repr

/-- `begin`. -/
def start (attemptId : AttemptId) (nowMs : UInt64) : FactoryResetAuthorization where
  attemptId
  deadlineMs := deadlineFrom nowMs
  active := true

def check (a : FactoryResetAuthorization) (attemptId : AttemptId) (nowMs : UInt64) : Check :=
  if !a.active then .inactive
  else if !attemptId.sameBytes a.attemptId then .mismatch
  else if a.deadlineMs ≤ nowMs then .expired
  else .ok

def expired (a : FactoryResetAuthorization) (nowMs : UInt64) : Bool :=
  a.active && a.deadlineMs ≤ nowMs

/-- `cancel`; `consume` calls it. -/
def cancel : FactoryResetAuthorization := {}

end FactoryResetAuthorization

/-- `recovery_reset_attempt_id_`, `recovery_reset_deadline_ms_` and `recovery_reset_active_`. -/
structure RecoveryReset where
  attemptId : AttemptId := Bytes.zero 16
  deadlineMs : UInt64 := 0
  active : Bool := false
  deriving DecidableEq

/-- The attempt is active under this id. -/
def RecoveryReset.names (r : RecoveryReset) (attemptId : AttemptId) : Bool :=
  r.active && attemptId.sameBytes r.attemptId

end M5Auth.Provisioning
