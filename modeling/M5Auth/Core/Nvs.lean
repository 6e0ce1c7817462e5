import M5Auth.Lib.FaultyStore

/-!
# NVS faults

The errors of an `nvs_*` call other than "not found". Whether a namespace or a key exists is what
the stored content says, so a missing one is never a fault.
-/

namespace M5Auth

inductive NvsFault where
  | invalidArg | noFreePages | newVersionFound | other
  deriving DecidableEq

end M5Auth
