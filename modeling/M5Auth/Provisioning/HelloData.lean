import M5Auth.Lib.Unicode
import M5Auth.Provisioning.Messages

/-!
# The data of `hello`

The object that `hello_success` prints, with the members that never vary.
-/

namespace M5Auth.Provisioning

open Unicode (encodeUtf8)

/-- `metadata_for` of the StickS3. -/
def metadataFor (buildCommit : String) : DeviceMetadata where
  device := "M5StickS3"
  firmware := "1.0.1"
  buildCommit

/-- `runtime_state_name`. -/
def runtimeStateName : VaultRuntime.State → String
  | .unprovisioned => "unprovisioned"
  | .reprovisionRequired => "reprovision_required"
  | .locked => "locked"
  | .unlocked => "unlocked"
  | .error => "error"

/-- A string of the source as a JSON string. -/
def jsonString (s : String) : Json := .string (encodeUtf8 s.toList)

/-- `cJSON_AddNumberToObject` of a whole number. -/
def jsonNumber (n : Nat) : Json := .number (some n)

/-- A member of an object. -/
def jsonMember (name : String) (value : Json) : Text × Json := (encodeUtf8 name.toList, value)

/-- The members of the Vault; a generation is printed by `std::to_string`. -/
def Hello.vaultMembers (hello : Hello) : List (Text × Json) :=
  match hello.vault with
  | some (vaultId, generation) =>
    [jsonMember "vault_id" (.string vaultId),
      jsonMember "generation" (jsonString (toString generation.toNat))]
  | none => [jsonMember "vault_id" .null, jsonMember "generation" (jsonString "0")]

/-- The members of the registration. -/
def Hello.registrationMembers (hello : Hello) : List (Text × Json) :=
  match hello.registration with
  | some (registrationId, epoch, brk) =>
    [jsonMember "registration_id" (.string registrationId),
      jsonMember "registration_epoch" (jsonNumber epoch.toNat),
      jsonMember "brk_public_key" (.string brk)]
  | none =>
    [jsonMember "registration_id" .null, jsonMember "registration_epoch" (jsonNumber 0),
      jsonMember "brk_public_key" .null]

/-- The object `data` of `hello_success`. -/
def Hello.data (hello : Hello) : Json :=
  .object <|
    [jsonMember "device" (jsonString hello.metadata.device),
      jsonMember "device_id" (.string hello.deviceId),
      jsonMember "firmware" (jsonString hello.metadata.firmware),
      jsonMember "protocol" (jsonNumber 2),
      jsonMember "storage_schema" (jsonNumber Vault.targetStorageSchemaVersion.toNat),
      jsonMember "vault_format" (jsonNumber hello.vaultFormat.toNat),
      jsonMember "vault_format_version" (jsonNumber hello.vaultFormat.toNat),
      jsonMember "supported_vault_formats" (.array [jsonNumber Vault.vaultFormatVersion1.toNat,
        jsonNumber Vault.vaultFormatVersion2.toNat]),
      jsonMember "build_commit" (jsonString hello.metadata.buildCommit),
      jsonMember "state" (jsonString (runtimeStateName hello.state)),
      jsonMember "storage_ready" (.bool hello.storageReady),
      jsonMember "recovery_reset_required" (.bool hello.recoveryResetRequired),
      jsonMember "factory_reset_presence_required" (.bool true),
      jsonMember "vault_present" (.bool hello.vault.isSome)] ++
    hello.vaultMembers ++
    [jsonMember "registration_present" (.bool hello.registration.isSome)] ++
    hello.registrationMembers

end M5Auth.Provisioning
