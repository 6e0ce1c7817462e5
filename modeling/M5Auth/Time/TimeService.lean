import M5Auth.Time.TrustedClock
import M5Auth.VaultRuntime.Runtime

/-!
# The time service

`TimeService` brings network time into the trusted clock. `connectAndSync` is one attempt, with what
the network does as an input; `resyncIfDue` is one poll of the periodic task, which decides whether
an attempt is due and keeps the times of the last ones.
-/

namespace M5Auth.Time

open VaultRuntime (Status)

def initialNtpRetrySeconds : Int := 60

/-- `sizeof(config.sta.ssid)` and `sizeof(config.sta.password)` of the Wi-Fi driver. -/
def stationSsidBytes : Nat := 32
def stationPasswordBytes : Nat := 64

/-- What the network does in one attempt: whether the driver comes up, whether the station gets an
address, the time that SNTP sets, and when it is sampled. -/
structure Network where
  initialized : Bool
  connected : Bool
  sntpSeconds : Option Int
  sampledUs : Int

/-- The length check of `connect_and_sync`. -/
def fitsStation (wifi : Vault.WifiRecord) : Bool :=
  !(wifi.ssid.isEmpty || decide (wifi.ssid.length > stationSsidBytes) || wifi.password.isEmpty ||
    decide (wifi.password.length > stationPasswordBytes))

/-- `connect_and_sync`. -/
def connectAndSync (clock : TrustedClock) (wifi : Vault.WifiRecord) (network : Network) :
    SyncResult × TrustedClock :=
  if !fitsStation wifi then (.syncFailed, clock)
  else if !network.initialized then (.networkUnavailable, clock)
  else if !network.connected then (.syncFailed, clock)
  else
    match network.sntpSeconds with
    | none => (.syncFailed, clock)
    | some seconds =>
      if seconds < 0 ∨ !acceptableUnixSeconds (UInt64.ofNat seconds.toNat) then
        (.syncFailed, clock)
      else
        match clock.acceptNtpSample (UInt64.ofNat seconds.toNat) network.sampledUs with
        | (true, clock) => (.ok, clock)
        | (false, clock) => (.rejectedJump, clock)

/-- `sync_ntp_once`. `access` is what `with_wifi` gives: the settings, or its status. -/
def syncNtpOnce (clock : TrustedClock) (access : Except Status Vault.WifiRecord)
    (network : Network) : SyncResult × TrustedClock :=
  match access with
  | .error .notFound => (.notConfigured, clock)
  | .error .locked => (.locked, clock)
  | .error .invalidState => (.locked, clock)
  | .error _ => (.internalError, clock)
  | .ok wifi => connectAndSync clock wifi network

/-- `TimeService`, without the network driver's handles. -/
structure TimeService where
  clock : TrustedClock := {}
  lastInitialAttemptUs : Int := -1
  lastPeriodicAttemptUs : Int := -1
  deriving DecidableEq

/-- One poll: the two readings of the timer, the access to the Wi-Fi settings and the network. -/
structure Poll where
  beforeLockUs : Int
  nowUs : Int
  access : Except Status Vault.WifiRecord
  network : Network

namespace TimeService

variable (s : TimeService) (p : Poll)

/-- The attempt of a poll. -/
def attempt : SyncResult × TimeService :=
  match syncNtpOnce s.clock p.access p.network with
  | (result, clock) => (result, { s with clock })

/-- `resync_if_due`. -/
def resyncIfDue : SyncResult × TimeService :=
  let before := s.clock.snapshot p.beforeLockUs
  if before.readiness ≠ .notSynced ∧ !before.resyncDue then (.notDue, s)
  else
    let current := s.clock.snapshot p.nowUs
    if current.readiness = .notSynced then
      if 0 ≤ s.lastInitialAttemptUs ∧
          p.nowUs - s.lastInitialAttemptUs < initialNtpRetrySeconds * 1000000 then (.notDue, s)
      else
        match s.attempt p with
        | (result, s) =>
          let s := if result ≠ .locked then { s with lastInitialAttemptUs := p.nowUs } else s
          (result, if result = .ok then { s with lastInitialAttemptUs := -1 } else s)
    else if !current.resyncDue then (.notDue, s)
    else if 0 ≤ s.lastPeriodicAttemptUs ∧
        p.nowUs - s.lastPeriodicAttemptUs < resyncIntervalSeconds * 1000000 then (.notDue, s)
    else attempt { s with lastPeriodicAttemptUs := p.nowUs } p

end TimeService

end M5Auth.Time
