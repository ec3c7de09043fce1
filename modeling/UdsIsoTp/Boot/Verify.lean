import UdsIsoTp.Boot.Download
import UdsIsoTp.Boot.Sha256
import UdsIsoTp.Lib.Bytes

/-!
# Image metadata

What the bootloader uses of `boot_verify.c`: the 128-byte header of an image, its checksum,
and the digest that an image's signature covers.

The header is a packed structure that is copied from and to memory as bytes; `decode` and
`encodeHead` are these bytes, up to the checksum that ends what it covers.
-/

namespace UdsIsoTp.Boot

/-- The header of an image, and what is kept of it in the journal. -/
structure FirmwareMetadata where
  magic : UInt32
  version : UInt32
  imageSize : UInt32
  crc32 : UInt32
  sha256 : List UInt8
  signature : List UInt8
  status : UInt8
  bootAttempts : UInt8
  maxAttempts : UInt8
  activeSlot : UInt8
  formatVersion : UInt16
  flags : UInt16
  headerCrc32 : UInt32
  reserved : List UInt8
  deriving DecidableEq, Repr

/-- `sizeof(FirmwareMetadata_t)` -/
def metadataSize : Nat := 128

/-- `UDS_BL_METADATA_MAGIC` -/
def metadataMagic : UInt32 := 0x5544534D

/-- `UDS_BL_METADATA_FORMAT_VERSION` -/
def metadataFormatVersion : UInt16 := 1

/-- Reads the fields off the bytes. -/
def FirmwareMetadata.decode (bytes : List UInt8) : FirmwareMetadata where
  magic := getU32Le bytes 0
  version := getU32Le bytes 4
  imageSize := getU32Le bytes 8
  crc32 := getU32Le bytes 12
  sha256 := (bytes.drop 16).take 32
  signature := (bytes.drop 48).take 64
  status := bytes.getD 112 0
  bootAttempts := bytes.getD 113 0
  maxAttempts := bytes.getD 114 0
  activeSlot := bytes.getD 115 0
  formatVersion := getU16Le bytes 116
  flags := getU16Le bytes 118
  headerCrc32 := getU32Le bytes 120
  reserved := (bytes.drop 124).take 4

/-- The bytes before `header_crc32`. -/
def FirmwareMetadata.encodeHead (hdr : FirmwareMetadata) : List UInt8 :=
  putU32Le hdr.magic ++ putU32Le hdr.version ++ putU32Le hdr.imageSize ++ putU32Le hdr.crc32
    ++ hdr.sha256 ++ hdr.signature
    ++ [hdr.status, hdr.bootAttempts, hdr.maxAttempts, hdr.activeSlot]
    ++ putU16Le hdr.formatVersion ++ putU16Le hdr.flags

/-- `boot_calc_crc32`, 0 for no data. -/
def bootCalcCrc32 (data : List UInt8) : UInt32 :=
  if data.length = 0 then 0 else ~~~crc32Update 0xFFFFFFFF data

/-- `boot_calc_metadata_crc`: over all but the CRC itself. -/
def bootCalcMetadataCrc (hdr : FirmwareMetadata) : UInt32 := bootCalcCrc32 hdr.encodeHead

/-- `"UDS-MANIFEST-V1"` with its terminating zero. -/
def manifestTag : List UInt8 :=
  [0x55, 0x44, 0x53, 0x2D, 0x4D, 0x41, 0x4E, 0x49, 0x46, 0x45, 0x53, 0x54, 0x2D, 0x56, 0x31, 0x00]

/-- What a signature is made over: the hash of the fields that matter. -/
def bootManifestDigest (hdr : FirmwareMetadata) : List UInt8 :=
  sha256Hash (manifestTag ++ putU32Le hdr.magic ++ putU16Le hdr.formatVersion
    ++ putU16Le hdr.flags ++ putU32Le hdr.version ++ putU32Le hdr.imageSize ++ hdr.sha256)

/-- `boot_finalize_metadata`: sets the version of the format and the CRC. -/
def bootFinalizeMetadata (hdr : FirmwareMetadata) : FirmwareMetadata :=
  let hdr := { hdr with formatVersion := metadataFormatVersion }
  { hdr with headerCrc32 := bootCalcMetadataCrc hdr }

/-- `boot_validate_metadata` -/
def bootValidateMetadata (hdr : FirmwareMetadata) : Bool :=
  if hdr.magic ≠ metadataMagic then false
  else if hdr.formatVersion ≠ metadataFormatVersion then false
  else hdr.headerCrc32 == bootCalcMetadataCrc hdr

/-! ## Finalized headers -/

/-- A finalized header is valid as soon as its magic is. -/
theorem validate_finalize {hdr : FirmwareMetadata} :
    bootValidateMetadata (bootFinalizeMetadata hdr) = (hdr.magic == metadataMagic) := by
  have hkept : (bootFinalizeMetadata hdr).magic = hdr.magic := rfl
  have hversion : (bootFinalizeMetadata hdr).formatVersion = metadataFormatVersion := rfl
  unfold bootValidateMetadata
  rw [hkept, hversion]
  by_cases hmagic : hdr.magic = metadataMagic
  · rw [if_neg (not_not.mpr hmagic), if_neg (fun hne => hne rfl), beq_iff_eq.mpr hmagic]
    exact beq_self_eq_true _
  · rw [if_pos hmagic, beq_false_of_ne hmagic]

theorem magic_of_validate {hdr : FirmwareMetadata} (h : bootValidateMetadata hdr = true) :
    hdr.magic = metadataMagic := by
  unfold bootValidateMetadata at h
  by_contra hmagic
  rw [if_pos hmagic] at h
  exact Bool.noConfusion h

end UdsIsoTp.Boot
