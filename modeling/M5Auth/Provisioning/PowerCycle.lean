import M5Auth.Provisioning.CanonicalHandler

/-!
# Power cycles

A Device's life beyond one power-on: `Event` is a step or a loss of power, after which the Device
starts again from what its two partitions store.
-/

namespace M5Auth.Provisioning

namespace Device

/-- What happens to a Device. The candidate is the Device ID that the new start may draw. -/
inductive Event where
  | input (i : Input)
  | reboot (candidate : Registration.DeviceIdCandidate)

variable {σ : Type} (env : Env σ) (d : Device σ)

/-- One event in the life of the Device. -/
def next : Event → Device σ
  | .input i => d.step env i
  | .reboot candidate => boot env d.runtime.persistence d.registration.nvs candidate

end Device

end M5Auth.Provisioning
