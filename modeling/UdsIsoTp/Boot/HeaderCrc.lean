import UdsIsoTp.Boot.Bootloader
import UdsIsoTp.Lib.Crc

/-!
# What the checksum of a header detects

The checksum of `boot_calc_crc32` is the reflected check of 32 bits with the polynomial
`0xEDB88320`, over the bytes of the header that come before the checksum itself. A finalized
header that is damaged there within 32 bits in a row is not valid any more
(`header_burst_rejected`), whatever it holds and wherever the damage is.
-/

namespace UdsIsoTp.Boot

open Crc (Confined bitsOf damaged)

/-! ## The record in memory -/

/-- The arrays of the record are those of `FirmwareMetadata_t`. -/
structure FirmwareMetadata.Sized (hdr : FirmwareMetadata) : Prop where
  sha256 : hdr.sha256.length = 32
  signature : hdr.signature.length = 64
  reserved : hdr.reserved.length = 4

/-- `offsetof(FirmwareMetadata_t, header_crc32)` -/
def headerCrcOffset : Nat := 120

/-- All bytes of a record, given those before the checksum. -/
def recordBytes (head : List UInt8) (hdr : FirmwareMetadata) : List UInt8 :=
  head ++ (putU32Le hdr.headerCrc32 ++ hdr.reserved)

/-- The record that is found where `hdr` was, the bytes before its checksum having been
changed by the error. -/
def damagedRecord (hdr : FirmwareMetadata) (error : List UInt8) : FirmwareMetadata :=
  .decode (recordBytes (damaged hdr.encodeHead error) hdr)

variable {hdr : FirmwareMetadata}

theorem length_encodeHead (h : hdr.Sized) : hdr.encodeHead.length = headerCrcOffset := by
  simp [FirmwareMetadata.encodeHead, h.sha256, h.signature, headerCrcOffset]

/-- What was read from the bytes is written back as those bytes. -/
theorem encodeHead_decode {bytes : List UInt8} (h : headerCrcOffset ≤ bytes.length) :
    (FirmwareMetadata.decode bytes).encodeHead = bytes.take headerCrcOffset := by
  have hlength : 120 ≤ bytes.length := h
  have hjoin : ∀ i n m, (bytes.drop i).take n ++ (bytes.drop (i + n)).take m
      = (bytes.drop i).take (n + m) := by
    intro i n m
    rw [List.take_add, List.drop_drop]
  have hbytes : [bytes.getD 112 0, bytes.getD 113 0, bytes.getD 114 0, bytes.getD 115 0]
      = (bytes.drop 112).take 4 := (take_four (by omega)).symm
  show putU32Le (getU32Le bytes 0) ++ putU32Le (getU32Le bytes 4) ++ putU32Le (getU32Le bytes 8)
    ++ putU32Le (getU32Le bytes 12) ++ (bytes.drop 16).take 32 ++ (bytes.drop 48).take 64
    ++ [bytes.getD 112 0, bytes.getD 113 0, bytes.getD 114 0, bytes.getD 115 0]
    ++ putU16Le (getU16Le bytes 116) ++ putU16Le (getU16Le bytes 118) = bytes.take 120
  rw [putU32Le_getU32Le (by omega), putU32Le_getU32Le (by omega), putU32Le_getU32Le (by omega),
    putU32Le_getU32Le (by omega), hbytes, putU16Le_getU16Le (by omega),
    putU16Le_getU16Le (by omega)]
  rw [hjoin 0 4 4, hjoin 0 8 4, hjoin 0 12 4, hjoin 0 16 32, hjoin 0 48 64, hjoin 0 112 4,
    hjoin 0 116 2, hjoin 0 118 2, List.drop_zero]

/-- The bytes before the checksum, and the checksum, of a record with such bytes. -/
theorem decode_recordBytes {head : List UInt8} (hhead : head.length = headerCrcOffset) :
    (FirmwareMetadata.decode (recordBytes head hdr)).encodeHead = head ∧
      (FirmwareMetadata.decode (recordBytes head hdr)).headerCrc32 = hdr.headerCrc32 := by
  constructor
  · have hlength : headerCrcOffset ≤ (recordBytes head hdr).length := by
      rw [recordBytes, List.length_append, hhead]
      exact Nat.le_add_right ..
    rw [encodeHead_decode hlength, recordBytes, ← hhead, List.take_left]
  · exact getU32Le_append head hdr.reserved hdr.headerCrc32 hhead

/-! ## The checksum -/

/-- The polynomial, its highest power in the least significant bit. -/
def crc32Poly : BitVec 32 := 0xEDB88320#32

theorem crc32Bit_toBitVec (v : UInt32) :
    (crc32Bit v).toBitVec = Crc.shift crc32Poly v.toBitVec := by
  have hlow : v &&& 1 ≠ 0 ↔ v.toBitVec.getLsbD 0 = true := by
    rw [← UInt32.toNat_inj.ne, UInt32.toNat_and]
    show v.toNat &&& 1 ≠ 0 ↔ v.toNat.testBit 0 = true
    rw [Nat.and_one_is_mod, Nat.testBit_zero, decide_eq_true_iff]
    omega
  unfold crc32Bit Crc.shift
  by_cases hbit : v.toBitVec.getLsbD 0 = true
  · rw [if_pos (hlow.mpr hbit), if_pos hbit]
    rfl
  · rw [if_neg (mt hlow.mp hbit), if_neg hbit]
    rfl

theorem crc32Byte_toBitVec (value : UInt32) (byte : UInt8) : (crc32Byte value byte).toBitVec
    = Crc.feedAll crc32Poly value.toBitVec (Crc.byteBitsLe byte) := by
  have hrepeat : ∀ n (v : UInt32),
      (Nat.repeat crc32Bit n v).toBitVec = (Crc.shift crc32Poly)^[n] v.toBitVec := by
    intro n v
    induction n with
    | zero => rfl
    | succ n ih => rw [Nat.repeat, crc32Bit_toBitVec, ih, Function.iterate_succ_apply']
  unfold crc32Byte
  rw [hrepeat, Crc.feedAll_word _ _ (show 8 ≤ 32 by decide), Crc.word_byteBitsLe]
  rfl

/-- The checksum takes the bytes bit by bit, the least significant bit of each first. -/
theorem crc32Update_toBitVec (crc : UInt32) (data : List UInt8) :
    (crc32Update crc data).toBitVec = Crc.feedAll crc32Poly crc.toBitVec (bitsOf data) := by
  induction data generalizing crc with
  | nil => rfl
  | cons byte data ih =>
    show (crc32Update (crc32Byte crc byte) data).toBitVec = _
    rw [ih, crc32Byte_toBitVec]
    exact List.foldl_append.symm

/-- A burst changes the checksum. -/
theorem bootCalcCrc32_damaged {data error : List UInt8} (hlength : data.length = error.length)
    (hburst : Crc.Confined 32 (bitsOf error)) (hsome : ∃ b ∈ error, b ≠ 0) :
    bootCalcCrc32 (damaged data error) ≠ bootCalcCrc32 data := by
  have hpos : 0 < error.length := List.length_pos_of_mem hsome.choose_spec.1
  have hdamaged : (damaged data error).length = data.length := by
    rw [damaged, List.length_zipWith, hlength, Nat.min_self]
  unfold bootCalcCrc32
  rw [if_neg (by omega), if_neg (by omega)]
  intro hsame
  have hregister := congrArg UInt32.toBitVec (UInt32.not_inj.mp hsame)
  rw [crc32Update_toBitVec, crc32Update_toBitVec, Crc.bitsOf_damaged hlength] at hregister
  refine Crc.feedAll_ne_of_burst crc32Poly (by decide) _ ?_ hburst
    (Crc.true_mem_bitsOf hsome) hregister
  rw [Crc.length_bitsOf, Crc.length_bitsOf, hlength]

/-! ## Finalized headers -/

theorem crc_of_validate (h : bootValidateMetadata hdr = true) :
    hdr.headerCrc32 = bootCalcMetadataCrc hdr := by
  unfold bootValidateMetadata at h
  split at h
  next => exact Bool.noConfusion h
  next =>
    split at h
    next => exact Bool.noConfusion h
    next => exact beq_iff_eq.mp h

/-- **Bursts in a header.** A finalized record that an error has changed before its checksum,
within 32 bits in a row, is rejected. -/
theorem header_burst_rejected (hsized : hdr.Sized) {error : List UInt8}
    (hlength : error.length = headerCrcOffset) (hburst : Crc.Confined 32 (bitsOf error))
    (hsome : ∃ b ∈ error, b ≠ 0) :
    bootValidateMetadata (damagedRecord (bootFinalizeMetadata hdr) error) = false := by
  have hfinal : (bootFinalizeMetadata hdr).Sized := ⟨hsized.sha256, hsized.signature,
    hsized.reserved⟩
  have hhead := length_encodeHead hfinal
  have hsame : (bootFinalizeMetadata hdr).encodeHead.length = error.length :=
    hhead.trans hlength.symm
  have hdamaged : (damaged (bootFinalizeMetadata hdr).encodeHead error).length
      = headerCrcOffset := by
    rw [damaged, List.length_zipWith, ← hsame, Nat.min_self, hhead]
  obtain ⟨hbytes, hcrc⟩ := @decode_recordBytes (bootFinalizeMetadata hdr) _ hdamaged
  refine Bool.eq_false_of_not_eq_true fun hvalid => ?_
  have hchecked := crc_of_validate hvalid
  -- the checksum is still the one of the undamaged bytes
  refine bootCalcCrc32_damaged hsame hburst hsome ?_
  unfold damagedRecord bootCalcMetadataCrc at hchecked
  rw [hbytes, hcrc] at hchecked
  exact hchecked.symm

/-- The 32 bits of the version, all of them turned. -/
theorem header_burst_rejected_version :
    bootValidateMetadata
        (bootFinalizeMetadata { freshMetadata with magic := metadataMagic }) = true ∧
      bootValidateMetadata (damagedRecord
        (bootFinalizeMetadata { freshMetadata with magic := metadataMagic })
        (putU32Le 0 ++ putU32Le 0xFFFFFFFF ++ List.replicate 112 0)) = false := by
  refine ⟨by rw [validate_finalize]; rfl, header_burst_rejected ⟨rfl, rfl, rfl⟩ rfl ?_ ?_⟩
  · exact Crc.confined_iff.mpr ⟨32, by decide +kernel, by decide +kernel⟩
  · exact ⟨0xFF, by decide, by decide⟩

end UdsIsoTp.Boot
