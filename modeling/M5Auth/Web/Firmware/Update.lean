import Mathlib.Data.List.Infix
import M5Auth.Lib.EraseBlocks
import M5Auth.Web.Firmware.BuildIdentity

/-!
# Firmware updates that keep the state

The checks of `firmware-update.ts` on an update manifest, an arbitrary value of `JSON.parse`, and on
the sizes of its images, in the source's order. The URL parser is the parameter `newUrl`.
-/

namespace M5Auth.Web.Firmware

open JsonValue

open Import (trim)

/-! ## URLs -/

/-- A URL, as far as it is read. The path of a URL is in ASCII. -/
structure FirmwareUrl where
  href : JsString
  origin : JsString
  pathname : JsString
  ascii : isAscii pathname = true
  deriving DecidableEq

/-- `new URL(path, base)`; `none` if it throws. -/
abbrev NewUrl := JsString → FirmwareUrl → Option FirmwareUrl

/-! ## Flash windows -/

/-- A window that a normal update may write. -/
structure FlashWindow where
  label : String
  offset : Int
  endExclusive : Int
  deriving DecidableEq

/-- `NORMAL_UPDATE_FLASH_WINDOWS`. -/
def normalUpdateFlashWindows : List FlashWindow :=
  [⟨"bootloader", 0x000000, 0x008000⟩, ⟨"partition table", 0x008000, 0x009000⟩,
    ⟨"ota_0 application", 0x030000, 0x400000⟩]

/-- `StatePreservingPart`. -/
structure StatePreservingPart where
  path : JsString
  offset : Int
  url : FirmwareUrl
  window : FlashWindow

/-! ## The manifest -/

/-- `requireBuildAddressedUrl`. Both texts are in ASCII. -/
def requireBuildAddressedUrl (url : FirmwareUrl) (identity : BuildIdentity) (label : String) :
    Except Thrown Unit :=
  require (decide (asciiLower identity.buildCommit <:+: asciiLower url.pathname))
    (label ++ " is not pinned to the displayed firmware build")

/-- `firmwareArtifactIdentityFromManifest`. -/
def firmwareArtifactIdentityFromManifest (value : JsonValue) : Except Thrown BuildIdentity := do
  require (value.isRecord && string? (value.get "name") == some (literal "M5Authenticator"))
    "Firmware update manifest has an invalid build identity"
  let exactRelease := bool? (value.get "exact_release")
  match resolveBuildIdentity ⟨string? (value.get "version"), string? (value.get "build_commit"),
    exactRelease.map .flag⟩ with
  | some identity =>
    require exactRelease.isSome "Firmware update manifest has an invalid build identity"
    .ok identity
  | none => .error (.error "Firmware update manifest has an invalid build identity")

def identitiesEqual (left right : BuildIdentity) : Bool :=
  left.version == right.version && left.buildCommit == right.buildCommit &&
    left.exactRelease == right.exactRelease

def requireMatchingIdentity (value : JsonValue) (expectedIdentity : BuildIdentity) :
    Except Thrown BuildIdentity := do
  let actual ← firmwareArtifactIdentityFromManifest value
  require (identitiesEqual actual expectedIdentity)
    "Firmware manifest build identity does not match the displayed Flash target"
  .ok actual

/-- `if (expectedIdentity)`: what is required of the identity and the URL of a manifest. -/
def requirePinned (value : JsonValue) (manifestUrl : FirmwareUrl) (label : String) :
    Option BuildIdentity → Except Thrown Unit
  | some identity => do
    let _ ← requireMatchingIdentity value identity
    requireBuildAddressedUrl manifestUrl identity label
  | none => .ok ()

/-- `if (expectedIdentity) requireBuildAddressedUrl(url, expectedIdentity, label)`. -/
def requireAddressed (url : FirmwareUrl) (label : String) :
    Option BuildIdentity → Except Thrown Unit
  | some identity => requireBuildAddressedUrl url identity label
  | none => .ok ()

section Extract

variable (newUrl : NewUrl) (manifestUrl : FirmwareUrl) (expectedOrigin : JsString)
  (expectedIdentity : Option BuildIdentity)

/-- One part of `build.parts.map`. A `part` that is not a record has no members. -/
def extractPart (seenOffsets : List Int) (part : JsonValue) : Except Thrown StatePreservingPart :=
  match string? (part.get "path"), number? (part.get "offset") with
  | some path, some (.integer offset) => do
    require (!(trim path).isEmpty && (Number.integer offset).isSafeInteger)
      "Firmware update manifest has an invalid firmware part"
    match normalUpdateFlashWindows.find? (·.offset == offset) with
    | none => .error (.error "Firmware update manifest has an invalid firmware part offset")
    | some window =>
      require (!seenOffsets.contains offset)
        "Firmware update manifest has an invalid firmware part offset"
      match newUrl path manifestUrl with
      | none => .error (.error "Firmware update manifest has an invalid firmware path")
      | some url =>
        require (url.origin == expectedOrigin) "Firmware update files must be same-origin"
        requireAddressed url "Firmware update image" expectedIdentity
        .ok { path, offset, url, window }
  | _, _ => .error (.error "Firmware update manifest has an invalid firmware part")

/-- `build.parts.map`, with the offsets seen so far. -/
def extractParts : List JsonValue → List Int → Except Thrown (List StatePreservingPart × List Int)
  | [], seenOffsets => .ok ([], seenOffsets)
  | part :: rest, seenOffsets => do
    let extracted ← extractPart newUrl manifestUrl expectedOrigin expectedIdentity seenOffsets part
    let (parts, seenOffsets) ← extractParts rest (seenOffsets ++ [extracted.offset])
    .ok (extracted :: parts, seenOffsets)

/-- The loop over the windows. -/
def requireWindows (seenOffsets : List Int) : List FlashWindow → Except Thrown Unit
  | [] => .ok ()
  | window :: rest => do
    require (seenOffsets.contains window.offset)
      ("Firmware update manifest is missing the " ++ window.label ++ " image")
    requireWindows seenOffsets rest

/-- `extractStatePreservingParts`. -/
def extractStatePreservingParts (value : JsonValue) : Except Thrown (List StatePreservingPart) := do
  require (manifestUrl.origin == expectedOrigin) "Firmware update manifest must be same-origin"
  requirePinned value manifestUrl "Firmware update manifest" expectedIdentity
  match value.get "builds" with
  | some (.array [build]) =>
    match string? (build.get "chipFamily"), build.get "parts" with
    | some chipFamily, some (.array items) =>
      require (chipFamily == literal "ESP32-S3" &&
          items.length == normalUpdateFlashWindows.length)
        "Firmware update manifest has an unsupported build"
      let (parts, seenOffsets) ←
        extractParts newUrl manifestUrl expectedOrigin expectedIdentity items []
      requireWindows seenOffsets normalUpdateFlashWindows
      .ok parts
    | _, _ => .error (.error "Firmware update manifest has an unsupported build")
  | _ => .error (.error "Firmware update manifest is invalid")

/-- `validateStatePreservingManifest`. -/
def validateStatePreservingManifest (value : JsonValue) : Except Thrown JsonValue := do
  let _ ← firmwareArtifactIdentityFromManifest value
  let _ ← extractStatePreservingParts newUrl manifestUrl expectedOrigin expectedIdentity value
  .ok value

/-! ## The images -/

/-- `FirmwarePartSizeLoader`: the answer of the `index`th call. -/
abbrev PartSizeLoader := Nat → FirmwareUrl → Except Thrown Number

variable (loadPartSize : PartSizeLoader)

/-- The loop over the parts, from the `index`th call of the loader on. -/
def validatePartRanges : Nat → List StatePreservingPart → Except Thrown Unit
  | _, [] => .ok ()
  | index, part :: rest => do
    match ← loadPartSize index part.url with
    | .integer size =>
      require ((Number.integer size).isSafeInteger && !decide (size ≤ 0))
        ("Firmware update " ++ part.window.label ++ " image has an invalid size")
      -- Up to the largest safe integer a sum is exact, and beyond it is not a safe integer.
      require ((Number.integer (part.offset + size)).isSafeInteger &&
          !decide (part.offset + size > part.window.endExclusive))
        ("Firmware update " ++ part.window.label ++ " image exceeds its allowed flash window")
      validatePartRanges (index + 1) rest
    | .other =>
      .error (.error ("Firmware update " ++ part.window.label ++ " image has an invalid size"))

/-- `validateStatePreservingPartRanges`. -/
def validateStatePreservingPartRanges (manifest : JsonValue) : Except Thrown Unit := do
  let parts ← extractStatePreservingParts newUrl manifestUrl expectedOrigin expectedIdentity manifest
  validatePartRanges loadPartSize 0 parts

end Extract

/-! ## The update -/

/-- `PinnedFirmwareTarget`, as far as an update reads it. -/
structure PinnedFirmwareTarget where
  identity : BuildIdentity
  updateUrl : FirmwareUrl
  updateManifest : JsonValue

/-- The arguments of the flash function. -/
structure FlashCall where
  manifestPath : JsString
  manifest : JsonValue
  eraseFirst : Bool

/-- `runStatePreservingUpdate` up to the call of the flash function. The browser may have no Web
Serial, and the user may choose no port. -/
def runStatePreservingUpdate (newUrl : NewUrl) (loadPartSize : PartSizeLoader)
    (windowOrigin : JsString) (hasSerial : Bool) (requestPort : Except Thrown Unit)
    (target : PinnedFirmwareTarget) : Except Thrown FlashCall := do
  require hasSerial "Web Serial is unavailable. Use the latest stable Desktop Chrome."
  let _ ← validateStatePreservingManifest newUrl target.updateUrl windowOrigin
    (some target.identity) target.updateManifest
  validateStatePreservingPartRanges newUrl target.updateUrl windowOrigin (some target.identity)
    loadPartSize target.updateManifest
  requestPort
  .ok ⟨target.updateUrl.href, target.updateManifest, false⟩

/-! ## The flash memory -/

/-- A partition of the flash memory. -/
structure FlashPartition where
  name : String
  offset : Int
  size : Int
  deriving DecidableEq

/-- `partitions.csv`. -/
def partitionTable : List FlashPartition :=
  [⟨"nvs", 0x9000, 0x6000⟩, ⟨"otadata", 0xf000, 0x2000⟩, ⟨"phy_init", 0x11000, 0x1000⟩,
    ⟨"ota_0", 0x30000, 0x3d0000⟩, ⟨"ota_1", 0x400000, 0x3d0000⟩, ⟨"auth_nvs", 0x7d0000, 0x30000⟩]

/-- The write of one part: where the image comes from, where it goes, and how long it is. -/
structure PartWrite where
  url : FirmwareUrl
  offset : Int
  size : Int
  deriving DecidableEq

def FlashWindow.range (window : FlashWindow) : Set Int :=
  EraseBlocks.range window.offset window.endExclusive

def FlashPartition.range (partition : FlashPartition) : Set Int :=
  EraseBlocks.range partition.offset (partition.offset + partition.size)

/-- The bytes that are written. -/
def PartWrite.bytes (write : PartWrite) : Set Int :=
  EraseBlocks.range write.offset (write.offset + write.size)

/-- The bytes of the sectors that are erased for it. -/
def PartWrite.sectors (write : PartWrite) : Set Int :=
  EraseBlocks.blocks 0x1000 write.offset (write.offset + write.size)

section Writes

variable (newUrl : NewUrl) (manifestUrl : FirmwareUrl) (loadPartSize : PartSizeLoader)

/-- The write of a part of a manifest, whose image has the size that the loader tells. -/
def partWrite (index : Nat) (part : JsonValue) : Option PartWrite :=
  match string? (part.get "path"), number? (part.get "offset") with
  | some path, some (.integer offset) => do
    let url ← newUrl path manifestUrl
    match loadPartSize index url with
    | .ok (.integer size) => some { url, offset, size }
    | _ => none
  | _, _ => none

/-- The writes of the parts, of which the first is the `index`th. -/
def partWrites : Nat → List JsonValue → Option (List PartWrite)
  | _, [] => some []
  | index, part :: parts => do
    let write ← partWrite newUrl manifestUrl loadPartSize index part
    let writes ← partWrites (index + 1) parts
    some (write :: writes)

/-- The writes of all parts of a manifest. -/
def updateWrites (manifest : JsonValue) : Option (List PartWrite) :=
  match manifest.get "builds" with
  | some (.array [build]) =>
    match build.get "parts" with
    | some (.array parts) => partWrites newUrl manifestUrl loadPartSize 0 parts
    | _ => none
  | _ => none

end Writes

end M5Auth.Web.Firmware
