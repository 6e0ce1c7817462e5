import M5Auth.Web.System

/-!
# One Device for another

`Simulates M N R`: whatever a Device of `M` does for a request, with the response that it gives, a
Device of `N` may do from a related state. Then every state of the browser with a Device of `M` is
one with a Device of `N`: the same stores, the same requests, and related Devices
(`Pair.Reachable.simulate`); and every section ends alike (`Pair.Related.stops`).
-/

namespace M5Auth.Web

open CrashProgram

variable {δ ε : Type}

structure Simulates (M : DeviceModel δ) (N : DeviceModel ε) (R : δ → ε → Prop) : Prop where
  comes {x : δ} (h : M.Comes x) : ∃ d, N.Comes d ∧ R x d
  handles {x x' : δ} {d : ε} {r : DeviceRequest} {answer : Option r.Result} (hR : R x d)
    (h : M.Handles x r answer x') : ∃ d', N.Handles d r answer d' ∧ R x' d'
  restarts {x x' : δ} {d : ε} (hR : R x d) (h : M.Restarts x x') :
    ∃ d', N.Restarts d d' ∧ R x' d'

namespace Pair

variable {M : DeviceModel δ} {N : DeviceModel ε} {R : δ → ε → Prop}

/-- The same browser, with related Devices. -/
structure Related (R : δ → ε → Prop) (s : Pair δ) (t : Pair ε) : Prop where
  memory : t.memory = s.memory
  stores : t.stores = s.stores
  sent : t.sent = s.sent
  device : R s.device t.device
  origin : R s.origin t.origin
  late : ∀ x, s.late = some x → ∃ d, t.late = some d ∧ R x d

variable {s s' : Pair δ} {t : Pair ε}

namespace Related

/-- What the one Device may be by now is what the other may be. -/
theorem mayBe (h : Related R s t) {x : δ} (hx : s.MayBe x) : ∃ d, t.MayBe d ∧ R x d := by
  rcases hx with rfl | hx
  · exact ⟨t.device, .inl rfl, h.device⟩
  · obtain ⟨d, hd, hR⟩ := h.late x hx
    exact ⟨d, .inr hd, hR⟩

theorem withMemory (h : Related R s t) (memory : Management) :
    Related R (s.withMemory memory) (t.withMemory memory) :=
  ⟨rfl, h.stores, h.sent, h.device, h.origin, h.late⟩

theorem withStores (h : Related R s t) (stores : BrowserStores) :
    Related R (s.withStores stores) (t.withStores stores) :=
  ⟨h.memory, rfl, h.sent, h.device, h.origin, h.late⟩

theorem returned (h : Related R s t) {x y : δ} {d e : ε} (hx : R x d) (hy : R y e) :
    Related R (s.returned x y) (t.returned d e) :=
  ⟨h.memory, h.stores, h.sent, hx, hy, nofun⟩

/-- After a request that both have handled, or that both may still handle. -/
theorem requested (h : Related R s t) (r : DeviceRequest) {x : δ} {d : ε} (hx : R x d)
    {late : Option δ} {late' : Option ε}
    (hlate : ∀ y, late = some y → ∃ e, late' = some e ∧ R y e) :
    Related R (s.requested r x late) (t.requested r d late') where
  memory := h.memory
  stores := h.stores
  sent := by rw [Pair.requested, Pair.requested, h.stores, h.sent]
  device := hx
  origin := h.origin
  late := hlate

theorem requestStep (hsim : Simulates M N R) (h : Related R s t) {r : DeviceRequest}
    {answer : Except Thrown r.Result} (hstep : RequestStep M r s answer s') :
    ∃ t', RequestStep N r t answer t' ∧ Related R s' t' := by
  cases hstep with
  | answered hd hhandles =>
    obtain ⟨d, hd, hR⟩ := h.mayBe hd
    obtain ⟨d', hhandles, hR'⟩ := hsim.handles hR hhandles
    exact ⟨_, .answered hd hhandles, h.requested r hR' nofun⟩
  | failed hd hhandles =>
    obtain ⟨d, hd, hR⟩ := h.mayBe hd
    obtain ⟨d', hhandles, hR'⟩ := hsim.handles hR hhandles
    exact ⟨_, .failed hd hhandles, h.requested r hR' nofun⟩
  | inFlight hd hhandles =>
    obtain ⟨d, hd, hR⟩ := h.mayBe hd
    obtain ⟨d', hhandles, hR'⟩ := hsim.handles hR hhandles
    exact ⟨_, .inFlight hd hhandles, h.requested r hR fun y hy => by
      cases hy
      exact ⟨d', rfl, hR'⟩⟩

/-- Each step with the one Device is a step with the other. -/
theorem step (hsim : Simulates M N R) (h : Related R s t) {call : ManagementCall}
    {answer : Except Thrown call.Result} (hstep : Pair.step M call s answer s') :
    ∃ t', Pair.step N call t answer t' ∧ Related R s' t' := by
  cases call with
  | self =>
    obtain ⟨rfl, rfl⟩ := hstep
    exact ⟨t, ⟨by rw [h.memory], rfl⟩, h⟩
  | assign change =>
    obtain ⟨rfl, rfl⟩ := hstep
    refine ⟨_, ⟨rfl, rfl⟩, ?_⟩
    rw [h.memory]
    exact h.withMemory _
  | store call =>
    rcases hstep with ⟨result, hresult, rfl, rfl⟩ | ⟨e, rfl, rfl⟩
    · exact ⟨_, .inl ⟨result, by rw [h.stores, hresult], rfl, rfl⟩, h.withStores _⟩
    · exact ⟨t, .inr ⟨e, rfl, rfl⟩, h⟩
  | request r => exact h.requestStep hsim hstep

/-- **Each section with the one Device is one with the other.** -/
theorem stops (hsim : Simulates M N R) (h : Related R s t) {α : Type} {p : Manage α}
    {outcome : Option (Except Thrown α)} (hrun : Stops (Pair.step M) p s outcome s') :
    ∃ t', Stops (Pair.step N) p t outcome t' ∧ Related R s' t' :=
  hrun.simulate (fun _ _ _ _ _ hR hstep => hR.step hsim hstep) h

end Related

/-- **The states with the one Device are states with the other.** -/
theorem Reachable.simulate {platform : Platform} (hsim : Simulates M N R)
    (h : Pair.Reachable platform M s) :
    ∃ t, Pair.Reachable platform N t ∧ Related R s t := by
  induction h with
  | start memory hd =>
    obtain ⟨d, hd, hR⟩ := hsim.comes hd
    exact ⟨_, .start memory hd, rfl, rfl, rfl, hR, hR, nofun⟩
  | action _ hassumes hrun ih =>
    obtain ⟨t, ht, hR⟩ := ih
    rw [← hR.stores] at hassumes
    obtain ⟨t', hrun, hR'⟩ := hR.stops hsim hrun
    exact ⟨t', .action ht hassumes hrun, hR'⟩
  | tab memory _ ih =>
    obtain ⟨t, ht, hR⟩ := ih
    exact ⟨_, .tab memory ht, hR.withMemory memory⟩
  | restarted _ hd hrestart ih =>
    obtain ⟨t, ht, hR⟩ := ih
    obtain ⟨d, hd, hRd⟩ := hR.mayBe hd
    obtain ⟨d', hrestart, hRd'⟩ := hsim.restarts hRd hrestart
    exact ⟨_, .restarted ht hd hrestart, hR.returned hRd' hR.origin⟩
  | away _ hd ih =>
    obtain ⟨t, ht, hR⟩ := ih
    obtain ⟨d, hd, hRd⟩ := hsim.comes hd
    exact ⟨_, .away ht hd, hR.returned hRd hRd⟩

end Pair

end M5Auth.Web
