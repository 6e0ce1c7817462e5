import M5Auth.Core.Base64Url
import M5Auth.Core.Bytes
import M5Auth.Core.Endian
import M5Auth.Core.Json
import M5Auth.Core.Nvs
import M5Auth.Device.CanonicalUi
import M5Auth.Device.Proof.Reveal
import M5Auth.Device.Proof.RevealRun
import M5Auth.Lib.Agreement
import M5Auth.Lib.BitGroups
import M5Auth.Lib.Buffers
import M5Auth.Lib.EraseBlocks
import M5Auth.Lib.FaultyStore
import M5Auth.Lib.Lines
import M5Auth.Lib.Otp
import M5Auth.Lib.Run
import M5Auth.Lib.Settling
import M5Auth.Lib.Unicode
import M5Auth.Lib.UpperCase
import M5Auth.Lib.Utf8Stream
import M5Auth.Provisioning.CanonicalHandler
import M5Auth.Provisioning.Device
import M5Auth.Provisioning.FactoryResetAuthorization
import M5Auth.Provisioning.HelloData
import M5Auth.Provisioning.MainLoop
import M5Auth.Provisioning.Messages
import M5Auth.Provisioning.PowerCycle
import M5Auth.Provisioning.Proof.AutomaticLock
import M5Auth.Provisioning.Proof.BindingCases
import M5Auth.Provisioning.Proof.BootRecovery
import M5Auth.Provisioning.Proof.Effects
import M5Auth.Provisioning.Proof.Origins
import M5Auth.Provisioning.Proof.PowerLoss
import M5Auth.Provisioning.Proof.RecoveryProgress
import M5Auth.Provisioning.Proof.RegistrationFaults
import M5Auth.Provisioning.Proof.RejectedFrames
import M5Auth.Provisioning.Proof.ReplacementCases
import M5Auth.Provisioning.Proof.RequestEffects
import M5Auth.Provisioning.Proof.ResetAuthorization
import M5Auth.Provisioning.Proof.SerialFraming
import M5Auth.Provisioning.Proof.SessionEffects
import M5Auth.Provisioning.Proof.StepEffects
import M5Auth.Provisioning.Proof.TransportPhase
import M5Auth.Provisioning.Proof.TrustedBrowser
import M5Auth.Provisioning.Proof.UnlockAuthorization
import M5Auth.Provisioning.Proof.UnreadableVault
import M5Auth.Provisioning.ProtocolLoop
import M5Auth.Provisioning.RecoveryReset
import M5Auth.Provisioning.SessionBinding
import M5Auth.Provisioning.SessionHandler
import M5Auth.Registration.Proof.Cases
import M5Auth.Registration.Proof.Clears
import M5Auth.Registration.Proof.Epochs
import M5Auth.Registration.Proof.Genuine
import M5Auth.Registration.Proof.StoredRecord
import M5Auth.Provisioning.Proof.StoredRuns
import M5Auth.Registration.Store
import M5Auth.Session.AttemptCoordinator
import M5Auth.Session.GestureQuarantine
import M5Auth.Session.Presence
import M5Auth.Session.PresenceBinding
import M5Auth.Session.Proof.AttemptCases
import M5Auth.Session.Proof.OneShot
import M5Auth.Session.Proof.PresenceHistory
import M5Auth.Session.Proof.Quarantine
import M5Auth.Session.Transcript
import M5Auth.Time.Proof.Drift
import M5Auth.Time.Proof.LockedPolls
import M5Auth.Time.Proof.Served
import M5Auth.Time.TimeService
import M5Auth.Time.TrustedClock
import M5Auth.Totp.Proof.AllOrNothing
import M5Auth.Totp.Totp
import M5Auth.Totp.VaultGenerator
import M5Auth.Vault.Format
import M5Auth.Vault.Proof.Codec
import M5Auth.Vault.Proof.RoundTrip
import M5Auth.Vault.Proof.Utf8
import M5Auth.VaultRuntime.Call
import M5Auth.VaultRuntime.Envelope
import M5Auth.VaultRuntime.EnvelopeBlob
import M5Auth.VaultRuntime.NvsPersistence
import M5Auth.VaultRuntime.Proof.CallEffects
import M5Auth.VaultRuntime.Proof.Cases
import M5Auth.VaultRuntime.Proof.CrashAtomicity
import M5Auth.VaultRuntime.Proof.EnvelopeCodec
import M5Auth.VaultRuntime.Proof.FaithfulStore
import M5Auth.VaultRuntime.Proof.Framing
import M5Auth.VaultRuntime.Proof.Invariant
import M5Auth.VaultRuntime.Proof.NvsLoad
import M5Auth.VaultRuntime.Proof.NvsReplace
import M5Auth.VaultRuntime.Proof.ResetPermission
import M5Auth.VaultRuntime.Proof.Residency
import M5Auth.VaultRuntime.Proof.SessionOrigin
import M5Auth.VaultRuntime.Proof.SessionSteps
import M5Auth.VaultRuntime.Proof.StorageAgreement
import M5Auth.VaultRuntime.Proof.StoredVault
import M5Auth.VaultRuntime.Proof.VersionedStore
import M5Auth.VaultRuntime.Runtime
import M5Auth.Web.Base64
import M5Auth.Web.Base64Url
import M5Auth.Web.BrowserVault
import M5Auth.Web.CanonicalProtocol
import M5Auth.Web.DeviceManagement
import M5Auth.Web.Firmware.BuildIdentity
import M5Auth.Web.Firmware.Proof.FlashRanges
import M5Auth.Web.Firmware.Update
import M5Auth.Web.Import.Accounts
import M5Auth.Web.Import.Base32
import M5Auth.Web.Import.GoogleMigration
import M5Auth.Web.Import.Otpauth
import M5Auth.Web.Import.Proof.AnyOrder
import M5Auth.Web.Import.Proof.Assembly
import M5Auth.Web.Import.Proof.Base32
import M5Auth.Web.Import.Proof.Migration
import M5Auth.Web.Import.Proof.Parts
import M5Auth.Web.Import.Session
import M5Auth.Web.Json
import M5Auth.Web.JsonText
import M5Auth.Web.Passphrase
import M5Auth.Web.Proof.Base64
import M5Auth.Web.Proof.Base64Codecs
import M5Auth.Web.Proof.Decimals
import M5Auth.Web.Proof.DeviceOpening
import M5Auth.Web.Proof.Hello
import M5Auth.Web.Proof.JsonText
import M5Auth.Web.Proof.SerialResponses
import M5Auth.Web.Proof.Transcript
import M5Auth.Web.Proof.VaultDecoders
import M5Auth.Web.Proof.VaultRoundTrip
import M5Auth.Web.Proof.VaultSize
import M5Auth.Web.Proof.WifiSettings
import M5Auth.Web.Serial
import M5Auth.Web.SessionProtocol
import M5Auth.Web.System
import M5Auth.Web.Text
import M5Auth.Web.VaultCrypto
import M5Auth.Web.VaultFormat
import M5Auth.Web.VaultMutation
import M5Auth.Web.VaultRequest
import M5Auth.Web.VmkWrap
import M5Auth.Web.Proof.AccountBook
import M5Auth.Web.Proof.AccountRuns
import M5Auth.Web.FaultFree
import M5Auth.Web.Proof.BrowserAndFirmware
