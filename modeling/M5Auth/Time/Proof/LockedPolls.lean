import M5Auth.Time.TimeService

/-!
# Polls while the Vault is locked

`locked_polls_harmless`: where no locked poll meets a periodic resync that is due, the polls that
find the Vault locked change nothing, can be deleted from the sequence, and keep no later poll from
its attempt. A locked poll on the periodic path uses up the six hours until the next attempt
(`locked_poll_delays_resync`).
-/

namespace M5Auth.Time

open VaultRuntime (Status)

/-! ## One attempt -/

/-- `with_wifi` finds the Vault locked. -/
def Poll.locked (p : Poll) : Bool :=
  match p.access with
  | .error .locked => true
  | .error .invalidState => true
  | _ => false

theorem connectAndSync_result (clock : TrustedClock) (wifi : Vault.WifiRecord)
    (network : Network) : (connectAndSync clock wifi network).1 ≠ .locked ∧
      (connectAndSync clock wifi network).1 ≠ .notDue := by
  unfold connectAndSync
  repeat' split
  all_goals exact ⟨nofun, nofun⟩

/-- An attempt ends with `locked` exactly if the Vault is locked, and then the clock is as
before. -/
theorem syncNtpOnce_locked (clock : TrustedClock) (p : Poll) :
    ((syncNtpOnce clock p.access p.network).1 = .locked ↔ p.locked = true) ∧
      (syncNtpOnce clock p.access p.network).1 ≠ .notDue ∧
      (p.locked = true → (syncNtpOnce clock p.access p.network).2 = clock) := by
  unfold syncNtpOnce Poll.locked
  cases haccess : p.access with
  | ok wifi =>
    obtain ⟨hlocked, hdue⟩ := connectAndSync_result clock wifi p.network
    exact ⟨⟨fun h => absurd h hlocked, nofun⟩, hdue, nofun⟩
  | error status => cases status <;> simp

namespace TimeService

variable {s : TimeService} {p : Poll}

/-! ## What a poll does -/

/-- The two kinds of attempts: without an anchor, and to renew it. -/
inductive Path where
  | initial | periodic
  deriving DecidableEq

/-- The last attempt, if there was one, was made less than `interval` ago. -/
def waits (last now interval : Int) : Bool := decide (0 ≤ last) && decide (now - last < interval)

/-- The clock has no anchor, or an old one, at both readings of the timer. -/
def wants (s : TimeService) (p : Poll) : Option Path :=
  if !s.clock.synchronized then some .initial
  else if (s.clock.snapshot p.beforeLockUs).resyncDue && (s.clock.snapshot p.nowUs).resyncDue then
    some .periodic
  else none

/-- The time of the last attempt on a path, and the interval to the next one. -/
def lastAttemptUs (s : TimeService) : Path → Int
  | .initial => s.lastInitialAttemptUs
  | .periodic => s.lastPeriodicAttemptUs

def Path.intervalUs : Path → Int
  | .initial => initialNtpRetrySeconds * 1000000
  | .periodic => resyncIntervalSeconds * 1000000

/-- The attempt that a poll makes. -/
def attempts (s : TimeService) (p : Poll) : Option Path :=
  (s.wants p).filter fun path => !waits (s.lastAttemptUs path) p.nowUs path.intervalUs

theorem waits_iff {last now interval : Int} :
    waits last now interval = true ↔ 0 ≤ last ∧ now - last < interval := by
  rw [waits, Bool.and_eq_true, decide_eq_true_eq, decide_eq_true_eq]

/-- The service after an attempt. -/
def attempted (s : TimeService) (p : Poll) (path : Path) : TimeService :=
  let r := syncNtpOnce s.clock p.access p.network
  match path with
  | .initial =>
    { clock := r.2, lastPeriodicAttemptUs := s.lastPeriodicAttemptUs
      lastInitialAttemptUs :=
        if r.1 = .ok then -1 else if r.1 = .locked then s.lastInitialAttemptUs else p.nowUs }
  | .periodic =>
    { clock := r.2, lastInitialAttemptUs := s.lastInitialAttemptUs
      lastPeriodicAttemptUs := p.nowUs }

theorem snapshot_notSynced (clock : TrustedClock) (m : Int) :
    (clock.snapshot m).readiness = .notSynced ↔ clock.synchronized = false := by
  unfold TrustedClock.snapshot
  cases clock.synchronized with
  | false => simp
  | true =>
    simp only [Bool.not_true, Bool.false_eq_true, if_false, Bool.true_eq_false, iff_false]
    split
    · exact nofun
    · dsimp only
      split <;> exact nofun

/-- **One poll**: an attempt, or nothing. -/
theorem resyncIfDue_eq (s : TimeService) (p : Poll) :
    s.resyncIfDue p =
      match s.attempts p with
      | none => (.notDue, s)
      | some path => ((syncNtpOnce s.clock p.access p.network).1, s.attempted p path) := by
  unfold resyncIfDue attempts wants
  dsimp only
  simp only [ne_eq, snapshot_notSynced]
  cases hsync : s.clock.synchronized with
  | false =>
    simp only [Bool.not_false, if_true, not_true_eq_false, false_and, if_false,
      Option.filter_some]
    by_cases hwaits : 0 ≤ s.lastInitialAttemptUs ∧
        p.nowUs - s.lastInitialAttemptUs < initialNtpRetrySeconds * 1000000
    · have hw : waits (s.lastAttemptUs .initial) p.nowUs Path.initial.intervalUs = true :=
        waits_iff.2 hwaits
      rw [if_pos hwaits, hw]
      rfl
    · have hw : waits (s.lastAttemptUs .initial) p.nowUs Path.initial.intervalUs = false :=
        Bool.eq_false_iff.2 fun h => hwaits (waits_iff.1 h)
      rw [if_neg hwaits, hw]
      simp only [attempt, attempted, Bool.not_false, if_true]
      by_cases hok : (syncNtpOnce s.clock p.access p.network).1 = .ok
      · simp [hok]
      · by_cases hlocked : (syncNtpOnce s.clock p.access p.network).1 = .locked
        · simp [hlocked]
        · simp [hok, hlocked]
  | true =>
    simp only [Bool.not_true, Bool.false_eq_true, if_false, Bool.true_eq_false, not_false_eq_true,
      true_and]
    cases hbefore : (s.clock.snapshot p.beforeLockUs).resyncDue with
    | false => rfl
    | true =>
      cases hcurrent : (s.clock.snapshot p.nowUs).resyncDue with
      | false => rfl
      | true =>
        simp only [Bool.not_true, Bool.false_eq_true, if_false, Bool.and_self, if_true,
          Option.filter_some]
        by_cases hwaits : 0 ≤ s.lastPeriodicAttemptUs ∧
            p.nowUs - s.lastPeriodicAttemptUs < resyncIntervalSeconds * 1000000
        · have hw : waits (s.lastAttemptUs .periodic) p.nowUs Path.periodic.intervalUs = true :=
            waits_iff.2 hwaits
          rw [if_pos hwaits, hw]
          rfl
        · have hw : waits (s.lastAttemptUs .periodic) p.nowUs Path.periodic.intervalUs = false :=
            Bool.eq_false_iff.2 fun h => hwaits (waits_iff.1 h)
          rw [if_neg hwaits, hw]
          rfl

/-! ## Locked polls -/

/-- The condition on a poll: if it finds the Vault locked, no periodic resync is due. -/
def Spares (s : TimeService) (p : Poll) : Prop := p.locked = true → s.attempts p ≠ some .periodic

instance (s : TimeService) (p : Poll) : Decidable (Spares s p) := by
  unfold Spares
  infer_instance

/-- A poll that ends with `locked`. -/
theorem resyncIfDue_locked (h : (s.resyncIfDue p).1 = .locked) :
    p.locked = true ∧ ∃ path, s.attempts p = some path ∧ (s.resyncIfDue p).2 = s.attempted p path := by
  rw [resyncIfDue_eq] at h ⊢
  cases hpath : s.attempts p with
  | none =>
    rw [hpath] at h
    cases h
  | some path =>
    rw [hpath] at h
    exact ⟨(syncNtpOnce_locked s.clock p).1.1 h, path, rfl, rfl⟩

/-- A locked poll leaves all as it was, exactly if no periodic resync is due. -/
theorem locked_unchanged_iff (hnow : s.lastPeriodicAttemptUs ≠ p.nowUs)
    (h : (s.resyncIfDue p).1 = .locked) : (s.resyncIfDue p).2 = s ↔ Spares s p := by
  obtain ⟨hlocked, path, hpath, hafter⟩ := resyncIfDue_locked h
  obtain ⟨hresult, -, hclock⟩ := syncNtpOnce_locked s.clock p
  rw [hafter]
  unfold Spares attempted
  rw [hpath]
  cases path with
  | initial =>
    dsimp only
    rw [hresult.2 hlocked, hclock hlocked, if_neg nofun, if_pos rfl]
    exact ⟨fun _ _ => nofun, fun _ => rfl⟩
  | periodic =>
    constructor
    · intro hsame
      exact absurd (congrArg lastPeriodicAttemptUs hsame).symm hnow
    · intro hspares
      exact absurd rfl (hspares hlocked)

theorem locked_unchanged (hspares : Spares s p) (h : (s.resyncIfDue p).1 = .locked) :
    (s.resyncIfDue p).2 = s := by
  obtain ⟨hlocked, path, hpath, hafter⟩ := resyncIfDue_locked h
  obtain ⟨hresult, -, hclock⟩ := syncNtpOnce_locked s.clock p
  rw [hafter]
  cases path with
  | initial =>
    unfold attempted
    dsimp only
    rw [hresult.2 hlocked, hclock hlocked, if_neg nofun, if_pos rfl]
  | periodic => exact absurd hpath (hspares hlocked)

/-! ## Sequences of polls -/

/-- The results of a sequence of polls, and the service after it. -/
def run (s : TimeService) : List Poll → List SyncResult × TimeService
  | [] => ([], s)
  | p :: polls =>
    match s.resyncIfDue p with
    | (result, s) => (result :: (run s polls).1, (run s polls).2)

/-- The sequence without the polls that end with `locked`. -/
def dropLocked (s : TimeService) : List Poll → List Poll
  | [] => []
  | p :: polls =>
    match s.resyncIfDue p with
    | (result, s) => if result = .locked then dropLocked s polls else p :: dropLocked s polls

/-- The condition on a sequence. -/
def AllSpare (s : TimeService) : List Poll → Prop
  | [] => True
  | p :: polls => Spares s p ∧ AllSpare (s.resyncIfDue p).2 polls

/-- The polls that made an attempt on a path while the Vault was not locked. -/
def attemptsOn (s : TimeService) (path : Path) : List Poll → List Poll
  | [] => []
  | p :: polls =>
    if s.attempts p = some path ∧ p.locked = false then
      p :: attemptsOn (s.resyncIfDue p).2 path polls
    else attemptsOn (s.resyncIfDue p).2 path polls

/-- Without the locked polls, all other results are the same. -/
theorem run_dropLocked {polls : List Poll} (h : AllSpare s polls) :
    (s.run (s.dropLocked polls)).1 = (s.run polls).1.filter (· ≠ .locked) ∧
      (s.run (s.dropLocked polls)).2 = (s.run polls).2 := by
  induction polls generalizing s with
  | nil => exact ⟨rfl, rfl⟩
  | cons p polls ih =>
    obtain ⟨hspares, hrest⟩ := h
    obtain ⟨hresults, hafter⟩ := ih hrest
    unfold dropLocked
    by_cases hlocked : (s.resyncIfDue p).1 = .locked
    · have hsame := locked_unchanged hspares hlocked
      rw [hsame] at hresults hafter
      simp only [hlocked, if_true, run, hsame]
      refine ⟨?_, hafter⟩
      rw [hresults, List.filter_cons_of_neg (by simp)]
    · simp only [hlocked, if_false, run]
      refine ⟨?_, hafter⟩
      rw [hresults, List.filter_cons_of_pos (by simpa using hlocked)]

/-- The time that is kept for a path is that of an attempt which found the Vault unlocked. -/
theorem lastAttempt_run {polls : List Poll} (h : AllSpare s polls) (path : Path) :
    (s.run polls).2.lastAttemptUs path < 0 ∨
      (s.run polls).2.lastAttemptUs path = s.lastAttemptUs path ∨
      ∃ p ∈ s.attemptsOn path polls, (s.run polls).2.lastAttemptUs path = p.nowUs := by
  induction polls generalizing s with
  | nil => exact .inr (.inl rfl)
  | cons p polls ih =>
    obtain ⟨hspares, hrest⟩ := h
    have hstep : (s.resyncIfDue p).2.lastAttemptUs path < 0 ∨
        (s.resyncIfDue p).2.lastAttemptUs path = s.lastAttemptUs path ∨
        (s.attempts p = some path ∧ p.locked = false) ∧
          (s.resyncIfDue p).2.lastAttemptUs path = p.nowUs := by
      rw [resyncIfDue_eq]
      cases hpath : s.attempts p with
      | none => exact .inr (.inl rfl)
      | some taken =>
        cases hlocked : p.locked with
        | true =>
          right
          left
          have hres : (s.resyncIfDue p).1 = .locked := by
            rw [resyncIfDue_eq, hpath]
            exact (syncNtpOnce_locked s.clock p).1.2 hlocked
          have hsame := locked_unchanged hspares hres
          rw [resyncIfDue_eq, hpath] at hsame
          exact congrArg (lastAttemptUs · path) hsame
        | false =>
          have hnot : ¬(syncNtpOnce s.clock p.access p.network).1 = .locked := by
            rw [(syncNtpOnce_locked s.clock p).1, hlocked]
            exact nofun
          dsimp only
          cases taken with
          | initial =>
            cases path with
            | initial =>
              by_cases hok : (syncNtpOnce s.clock p.access p.network).1 = .ok
              · left
                simp [attempted, lastAttemptUs, hok]
              · right
                right
                refine ⟨⟨rfl, rfl⟩, ?_⟩
                simp [attempted, lastAttemptUs, hok, hnot]
            | periodic => exact .inr (.inl rfl)
          | periodic =>
            cases path with
            | initial => exact .inr (.inl rfl)
            | periodic => exact .inr (.inr ⟨⟨rfl, rfl⟩, rfl⟩)
    have hmem : ∀ q ∈ (s.resyncIfDue p).2.attemptsOn path polls,
        q ∈ s.attemptsOn path (p :: polls) := by
      intro q hq
      unfold attemptsOn
      split
      · exact List.mem_cons_of_mem _ hq
      · exact hq
    have hrun : (s.run (p :: polls)).2 = ((s.resyncIfDue p).2.run polls).2 := rfl
    rw [hrun]
    rcases ih hrest with hneg | hsame | ⟨q, hq, hlast⟩
    · exact .inl hneg
    · rw [hsame]
      rcases hstep with hneg | hkept | ⟨hmade, hlast⟩
      · exact .inl hneg
      · exact .inr (.inl hkept)
      · refine .inr (.inr ⟨p, ?_, hlast⟩)
        unfold attemptsOn
        rw [if_pos hmade]
        exact List.mem_cons_self
    · exact .inr (.inr ⟨q, hmem q hq, hlast⟩)

/-! ## The claim of the sequence -/

/-- What holds of a sequence of polls and a further one. -/
structure LockedHarmless (s : TimeService) (polls : List Poll) (p : Poll) : Prop where
  unchanged : ((s.run polls).2.resyncIfDue p).1 = .locked →
    ((s.run polls).2.resyncIfDue p).2 = (s.run polls).2
  deleted : (s.run (s.dropLocked polls)).1 = (s.run polls).1.filter (· ≠ .locked) ∧
    (s.run (s.dropLocked polls)).2 = (s.run polls).2
  attempts : ∀ path, (s.run polls).2.wants p = some path → p.locked = false →
    waits (s.lastAttemptUs path) p.nowUs path.intervalUs = false →
    (∀ q ∈ s.attemptsOn path polls, path.intervalUs ≤ p.nowUs - q.nowUs) →
      (s.run polls).2.attempts p = some path ∧
        ((s.run polls).2.resyncIfDue p).1 ≠ .notDue ∧
        ((s.run polls).2.resyncIfDue p).1 ≠ .locked

theorem allSpare_append {polls more : List Poll} :
    AllSpare s (polls ++ more) ↔ AllSpare s polls ∧ AllSpare (s.run polls).2 more := by
  induction polls generalizing s with
  | nil => simp [AllSpare, run]
  | cons p polls ih => simp only [List.cons_append, AllSpare, run, ih, and_assoc]

/-- **Polls while the Vault is locked cost nothing**, where none of them meets a periodic resync
that is due. -/
theorem locked_polls_harmless (s : TimeService) (polls : List Poll) (p : Poll)
    (h : AllSpare s (polls ++ [p])) : LockedHarmless s polls p := by
  obtain ⟨hpolls, hspares, -⟩ := allSpare_append.1 h
  refine ⟨locked_unchanged hspares, run_dropLocked hpolls, ?_⟩
  intro path hwants hunlocked hfirst hlater
  have hready : waits ((s.run polls).2.lastAttemptUs path) p.nowUs path.intervalUs = false := by
    rcases lastAttempt_run hpolls path with hneg | hsame | ⟨q, hq, hlast⟩
    · exact Bool.eq_false_iff.2 fun hw => by
        have hpos := (waits_iff.1 hw).1
        omega
    · rwa [hsame]
    · exact Bool.eq_false_iff.2 fun hw => by
        have hshort := (waits_iff.1 hw).2
        have hlong := hlater q hq
        omega
  have hattempts : (s.run polls).2.attempts p = some path := by
    unfold TimeService.attempts
    rw [hwants, Option.filter_some, hready]
    rfl
  obtain ⟨hlocked, hdue, -⟩ := syncNtpOnce_locked (s.run polls).2.clock p
  rw [resyncIfDue_eq, hattempts]
  refine ⟨rfl, hdue, ?_⟩
  rw [ne_eq, hlocked, hunlocked]
  exact nofun

/-! ## A resync that is due while the Vault is locked -/

/-- A clock that was set over USB when the timer began. -/
def anchoredService : TimeService := { clock := .markSynchronized 1700000000 0 .usb }

/-- A network that answers with the time of the anchor carried forward. -/
def goodNetwork (nowUs : Int) : Network where
  initialized := true
  connected := true
  sntpSeconds := some (1700000000 + nowUs / 1000000)
  sampledUs := nowUs

def pollAt (nowUs : Int) (access : Except Status Vault.WifiRecord) : Poll :=
  { beforeLockUs := nowUs, nowUs, access, network := goodNetwork nowUs }

/-- The first poll at which the resync is due, with the Vault locked. -/
def lockedPoll : Poll := pollAt 21600000000 (.error .locked)

/-- The poll a minute later, with the Vault unlocked. -/
def unlockedPoll : Poll := pollAt 21660000000 (.ok ⟨[65], [66]⟩)

/-- The locked poll takes the attempt of the one after the unlock. -/
theorem locked_poll_delays_resync :
    anchoredService.run [lockedPoll, unlockedPoll] =
        ([.locked, .notDue], { anchoredService with lastPeriodicAttemptUs := 21600000000 }) ∧
      (anchoredService.run (anchoredService.dropLocked [lockedPoll, unlockedPoll])).1 = [.ok] ∧
      (anchoredService.resyncIfDue lockedPoll).2 ≠ anchoredService ∧
      ¬LockedHarmless anchoredService [lockedPoll] unlockedPoll := by
  refine ⟨by decide, by decide, by decide, fun h => ?_⟩
  have hattempts := h.attempts .periodic (by decide) (by decide) (by decide) (by decide)
  exact absurd hattempts.1 (by decide)

/-- Without an anchor, a locked poll leaves the attempt to the next one. -/
theorem locked_polls_harmless_initial : LockedHarmless {} [lockedPoll] unlockedPoll :=
  locked_polls_harmless {} [lockedPoll] unlockedPoll
    ⟨by decide, by decide, trivial⟩

end TimeService

end M5Auth.Time
