import UdsIsoTp.Boot.Bootloader

/-!
# The flash of the STM32C092

What `uds_bootloader.c` does to the flash where it is built for the STM32C092 with the HAL
flash module: the slots are memory, erased by pages and programmed by double words, and every
operation of the driver may fail.

The driver is not part of the repository, so it is a parameter, `HalFlash`: the calls that the
file makes, each on the state `η` of the peripheral, and memory as the core reads it. `Documented`
says what an erase and a program that report success have done. Under it, programming that
succeeds is a copy (`programFrom_read`, `copyChunks_read`), which is all that the rest of the
development knows of the two loops.
-/

namespace UdsIsoTp.Boot.Hal

open UdsIsoTp.Uds

variable {η : Type}

/-- The flash driver of the HAL. -/
structure HalFlash (η : Type) where
  unlock : η → η
  lock : η → η
  busy : η → Bool
  allErrors : η → Bool
  clearErrors : η → η
  /-- `HAL_FLASHEx_Erase` on pages, and whether it returns `HAL_OK`. -/
  erase : η → (page nbPages : UInt32) → Bool × η
  /-- `HAL_FLASH_Program` of a double word, given as its bytes in memory. -/
  program : η → (address : UInt32) → (dword : List UInt8) → Bool × η
  read : η → Buf

/-- `UDS_BL_C092_FLASH_BASE` -/
def flashBase : UInt32 := 0x08000000

/-- `UDS_BL_C092_PAGE_COUNT` -/
def pageCount : Nat := 128

/-- `bootloader_flash_erase_start`, in pages of 2048 bytes. -/
def bootloaderFlashEraseStart (hal : HalFlash η) (w : η) (address length : UInt32) :
    UdsDownloadResult × η :=
  let w := hal.clearErrors (hal.unlock w)
  let pageIndex := (address - flashBase) / 2048
  let nbPages := (length + 2047) / 2048
  let (erased, w) := hal.erase w pageIndex nbPages
  (if erased then .ok else .eraseError, hal.lock w)

/-- `bootloader_flash_erase_poll` -/
def bootloaderFlashErasePoll (hal : HalFlash η) (ctx : UdsBootloaderContext) (w : η) :
    UdsDownloadResult × η :=
  if hal.busy w then (.busy, w)
  else if hal.allErrors w then (.eraseError, hal.lock (hal.clearErrors w))
  else (if ctx.lastEraseResult = 0 then .ok else .eraseError, hal.lock w)

/-- The double words from byte `i` on. The data is read where it lies, when its turn comes. -/
def programFrom (hal : HalFlash η) (address : UInt32) (data length i : Nat) (w : η) : Bool × η :=
  if i + 8 ≤ length then
    let (programmed, w) :=
      hal.program w (address + UInt32.ofNat i) ((hal.read w).slice (data + i) 8)
    if ¬programmed then (false, w) else programFrom hal address data length (i + 8) w
  else if i < length then
    -- the last double word is filled up with what an erased byte reads as
    hal.program w (address + UInt32.ofNat i)
      ((hal.read w).slice (data + i) (length - i) ++ List.replicate (8 - (length - i)) 0xFF)
  else (true, w)
termination_by length - i

/-- Double words one after the other, as long as they succeed. -/
def halFlashProgramC092 (hal : HalFlash η) (w : η) (address : UInt32) (data length : Nat) :
    Bool × η :=
  programFrom hal address data length 0 (hal.clearErrors w)

/-- `bootloader_flash_program` -/
def bootloaderFlashProgram (hal : HalFlash η) (w : η) (address : UInt32) (data length : Nat) :
    UdsDownloadResult × η :=
  let (programmed, w) := halFlashProgramC092 hal (hal.unlock w) address data length
  (if programmed then .ok else .programError, hal.lock w)

/-- How much of an image the next call programs. -/
def chunkLength (imageSize written : Nat) : Nat :=
  if 256 < imageSize - written then 256 else imageSize - written

/-- The loop that copies an image from `src` to a slot, from byte `written` on. -/
def copyChunks (hal : HalFlash η) (slotAAddr : UInt32) (src imageSize written : Nat) (w : η) :
    UdsDownloadResult × η :=
  if written < imageSize then
    let (programmed, w) := bootloaderFlashProgram hal w (slotAAddr + UInt32.ofNat written)
      (src + written) (chunkLength imageSize written)
    if programmed ≠ .ok then (programmed, w)
    else copyChunks hal slotAAddr src imageSize (written + chunkLength imageSize written) w
  else (.ok, w)
termination_by imageSize - written
decreasing_by
  unfold chunkLength
  split <;> omega

/-- The flash after `k` chunks of the copy, however each of them went. -/
def flashAfter (hal : HalFlash η) (slotAAddr : UInt32) (src imageSize : Nat) (w : η) : Nat → η
  | 0 => w
  | k + 1 =>
    let w := flashAfter hal slotAAddr src imageSize w k
    (bootloaderFlashProgram hal w (slotAAddr + UInt32.ofNat (256 * k)) (src + 256 * k)
      (chunkLength imageSize (256 * k))).2

/-- The `k`-th chunk of the copy is programmed. -/
def ChunkProgrammed (hal : HalFlash η) (slotAAddr : UInt32) (src imageSize : Nat) (w : η)
    (k : Nat) : Prop :=
  (bootloaderFlashProgram hal (flashAfter hal slotAAddr src imageSize w k)
    (slotAAddr + UInt32.ofNat (256 * k)) (src + 256 * k) (chunkLength imageSize (256 * k))).1 = .ok

/-- How many pieces of 256 bytes an image is copied in. -/
def chunkCount (imageSize : Nat) : Nat := (imageSize + 255) / 256

/-! ## What the driver documents -/

/-- The bytes of the pages, as the core addresses them. -/
def InPages (page nbPages : UInt32) (a : Nat) : Prop :=
  flashBase.toNat + 2048 * page.toNat ≤ a ∧
    a < flashBase.toNat + 2048 * (page.toNat + nbPages.toNat)

instance (page nbPages : UInt32) (a : Nat) : Decidable (InPages page nbPages a) :=
  inferInstanceAs (Decidable (_ ∧ _))

/-- What the HAL's manual says of its flash driver. -/
structure HalFlash.Documented (hal : HalFlash η) : Prop where
  unlock_read : ∀ w, hal.read (hal.unlock w) = hal.read w
  lock_read : ∀ w, hal.read (hal.lock w) = hal.read w
  clearErrors_read : ∀ w, hal.read (hal.clearErrors w) = hal.read w
  /-- The pages of the flash that a successful erase names are blank, and no others change. -/
  erase_read : ∀ w page nbPages, page.toNat + nbPages.toNat ≤ pageCount →
    (hal.erase w page nbPages).1 = true → ∀ a, hal.read (hal.erase w page nbPages).2 a
      = if InPages page nbPages a then 0xFF else hal.read w a
  /-- A double word that was blank holds its data after a successful program. -/
  program_read : ∀ w address dword, dword.length = 8 → 8 ∣ address.toNat →
    (∀ k < 8, hal.read w (address.toNat + k) = 0xFF) → (hal.program w address dword).1 = true →
      hal.read (hal.program w address dword).2
        = (hal.read w).copy address.toNat (Buf.ofList dword) 0 8

variable {hal : HalFlash η}

/-! ## Programming -/

/-- The bytes from `start` to `stop` are blank. -/
def Blank (b : Buf) (start stop : Nat) : Prop := ∀ a, start ≤ a → a < stop → b a = 0xFF

theorem Blank.mono {b : Buf} {start start' stop stop' : Nat} (h : Blank b start stop)
    (hstart : start ≤ start') (hstop : stop' ≤ stop) : Blank b start' stop' :=
  fun a hlow hhigh => h a (by omega) (by omega)

/-- Bytes that a copy does not reach are as blank as before. -/
theorem Blank.copy {b c : Buf} {start stop off from_ n : Nat} (h : Blank b start stop)
    (hapart : stop ≤ off ∨ off + n ≤ start) : Blank (b.copy off c from_ n) start stop := by
  intro a hlow hhigh
  rw [Buf.copy_outside (by omega)]
  exact h a hlow hhigh

theorem toNat_offset {address : UInt32} {i : Nat} (h : address.toNat + i < 2 ^ 32) :
    (address + UInt32.ofNat i).toNat = address.toNat + i := by
  rw [UInt32.toNat_add, UInt32.toNat_ofNat', Nat.mod_eq_of_lt (show i < 2 ^ 32 by omega),
    Nat.mod_eq_of_lt h]

/-- A double word that is filled up from a shorter window is that window, copied. -/
theorem program_window (hdoc : hal.Documented) (w : η) (address : UInt32) (start : Nat) {n : Nat}
    (hn : n ≤ 8) (haligned : 8 ∣ address.toNat)
    (hblank : Blank (hal.read w) address.toNat (address.toNat + 8))
    (hok : (hal.program w address
      ((hal.read w).slice start n ++ List.replicate (8 - n) 0xFF)).1 = true) :
    hal.read (hal.program w address
        ((hal.read w).slice start n ++ List.replicate (8 - n) 0xFF)).2
      = (hal.read w).copy address.toNat (hal.read w) start n := by
  rw [hdoc.program_read w address _ (by simp; omega) haligned
    (fun k hk => hblank _ (by omega) (by omega)) hok]
  funext a
  by_cases hin : address.toNat ≤ a ∧ a < address.toNat + 8
  · obtain ⟨k, rfl⟩ := Nat.exists_eq_add_of_le hin.1
    rw [Buf.copy_inside (by omega), Nat.zero_add,
      Buf.ofList_of_lt (by simp; omega)]
    by_cases hwindow : k < n
    · rw [List.getElem_append_left (by simpa using hwindow), Buf.getElem_slice,
        Buf.copy_inside hwindow]
    · -- the filling is what the blank byte already reads as
      rw [List.getElem_append_right (by simpa using hwindow), List.getElem_replicate,
        Buf.copy_outside (by omega), hblank _ (by omega) (by omega)]
  · rw [Buf.copy_outside (by omega), Buf.copy_outside (by omega)]

/-- Programming that succeeds on blank flash is a copy. -/
theorem programFrom_read (hdoc : hal.Documented) {address : UInt32} {data length : Nat}
    (haligned : 8 ∣ address.toNat) (hfits : address.toNat + length < 2 ^ 32)
    (hapart : data + length ≤ address.toNat ∨ address.toNat ≤ data) {i : Nat} (hi : 8 ∣ i) {w : η}
    (hblank : Blank (hal.read w) (address.toNat + i) (address.toNat + (length + 7) / 8 * 8))
    (hok : (programFrom hal address data length i w).1 = true) :
    hal.read (programFrom hal address data length i w).2
      = (hal.read w).copy (address.toNat + i) (hal.read w) (data + i) (length - i) := by
  fun_induction programFrom hal address data length i w with
  | case1 i w hfull programmed w' hprogram hfailed => exact absurd hok (by simp)
  | case2 i w hfull programmed w' hprogram hdone ih =>
    have hat : (address + UInt32.ofNat i).toNat = address.toNat + i := toNat_offset (by omega)
    have hword : hal.read w' = (hal.read w).copy (address.toNat + i) (hal.read w) (data + i) 8 := by
      have hwindow := program_window hdoc w (address + UInt32.ofNat i) (data + i)
        (Nat.le_refl 8) (by rw [hat]; omega)
        (by rw [hat]; exact hblank.mono (by omega) (by omega))
      rw [Nat.sub_self, List.replicate_zero, List.append_nil, hprogram, hat] at hwindow
      exact hwindow (not_not.mp hdone)
    have hblank' : Blank (hal.read w') (address.toNat + (i + 8))
        (address.toNat + (length + 7) / 8 * 8) := by
      rw [hword]
      exact (hblank.mono (by omega) (by omega)).copy (.inr (by omega))
    rw [ih (by omega) hblank' hok, hword, ← Nat.add_assoc, ← Nat.add_assoc,
      Buf.copy_within _ (by omega)]
    congr 1
    omega
  | case3 i w hfull hrest =>
    have hat : (address + UInt32.ofNat i).toNat = address.toNat + i := toNat_offset (by omega)
    have hwindow := program_window hdoc w (address + UInt32.ofNat i) (data + i)
      (show length - i ≤ 8 by omega) (by rw [hat]; omega)
      (by rw [hat]; exact hblank.mono (by omega) (by omega)) hok
    rwa [hat] at hwindow
  | case4 i w hfull hrest =>
    rw [Nat.sub_eq_zero_of_le (by omega), Buf.copy_zero]

/-- A call of `bootloader_flash_program` that succeeds. -/
theorem flashProgram_read (hdoc : hal.Documented) (w : η) (address : UInt32) (data length : Nat)
    (haligned : 8 ∣ address.toNat) (hfits : address.toNat + length < 2 ^ 32)
    (hapart : data + length ≤ address.toNat ∨ address.toNat ≤ data)
    (hblank : Blank (hal.read w) address.toNat (address.toNat + (length + 7) / 8 * 8))
    (hok : (bootloaderFlashProgram hal w address data length).1 = .ok) :
    hal.read (bootloaderFlashProgram hal w address data length).2
      = (hal.read w).copy address.toNat (hal.read w) data length := by
  unfold bootloaderFlashProgram halFlashProgramC092 at hok ⊢
  have hprogrammed :
      (programFrom hal address data length 0 (hal.clearErrors (hal.unlock w))).1 = true := by
    by_contra hfailed
    dsimp only at hok
    rw [if_neg hfailed] at hok
    exact UdsDownloadResult.noConfusion hok
  have hsame : hal.read (hal.clearErrors (hal.unlock w)) = hal.read w :=
    (hdoc.clearErrors_read _).trans (hdoc.unlock_read w)
  have hread := programFrom_read hdoc haligned hfits hapart (i := 0) (by omega)
    (w := hal.clearErrors (hal.unlock w)) (by rw [hsame]; exact hblank) hprogrammed
  rw [hsame] at hread
  exact (hdoc.lock_read _).trans hread

/-- Copying an image, every chunk of which is programmed. -/
theorem copyChunks_read (hdoc : hal.Documented) (slotAAddr : UInt32) (src imageSize written : Nat)
    (haligned : 8 ∣ slotAAddr.toNat) (hfits : slotAAddr.toNat + imageSize < 2 ^ 32)
    (hapart : slotAAddr.toNat ≤ src) (hwritten : 8 ∣ written) {w : η}
    (hblank : Blank (hal.read w) (slotAAddr.toNat + written)
      (slotAAddr.toNat + (imageSize + 7) / 8 * 8))
    (hok : (copyChunks hal slotAAddr src imageSize written w).1 = .ok) :
    hal.read (copyChunks hal slotAAddr src imageSize written w).2
      = (hal.read w).copy (slotAAddr.toNat + written) (hal.read w) (src + written)
        (imageSize - written) := by
  fun_induction copyChunks hal slotAAddr src imageSize written w with
  | case1 written w hmore programmed w' hprogram hfailed => exact absurd hok hfailed
  | case2 written w hmore programmed w' hprogram hdone ih =>
    have hlength : chunkLength imageSize written ≤ imageSize - written := by
      unfold chunkLength
      split <;> omega
    have hwhole : 8 ∣ chunkLength imageSize written ∨
        chunkLength imageSize written = imageSize - written := by
      unfold chunkLength
      split
      · exact .inl (by omega)
      · exact .inr rfl
    generalize chunkLength imageSize written = n at *
    have hat : (slotAAddr + UInt32.ofNat written).toNat = slotAAddr.toNat + written :=
      toNat_offset (by omega)
    -- one chunk, as the HAL programs it
    have hchunk : hal.read w' = (hal.read w).copy (slotAAddr.toNat + written) (hal.read w)
        (src + written) n := by
      have hread := flashProgram_read hdoc w (slotAAddr + UInt32.ofNat written) (src + written)
        n (by rw [hat]; omega) (by rw [hat]; omega) (.inr (by rw [hat]; omega))
        (by rw [hat]; exact hblank.mono (by omega) (by omega))
      rw [hprogram, hat] at hread
      exact hread (not_not.mp hdone)
    -- a whole chunk leaves blank what follows it
    rcases hwhole with hwhole | hlast
    · have hblank' : Blank (hal.read w') (slotAAddr.toNat + (written + n))
          (slotAAddr.toNat + (imageSize + 7) / 8 * 8) := by
        rw [hchunk]
        exact (hblank.mono (by omega) (by omega)).copy (.inr (by omega))
      rw [ih (by omega) hblank' hok, hchunk, ← Nat.add_assoc, ← Nat.add_assoc,
        Buf.copy_within _ (by omega)]
      congr 1
      omega
    · -- the last chunk may end inside a double word, and nothing follows it
      have hover : copyChunks hal slotAAddr src imageSize (written + n) w' = (.ok, w') := by
        rw [copyChunks, if_neg (by omega)]
      rw [hover, hchunk, hlast]
  | case3 written w hmore => rw [Nat.sub_eq_zero_of_le (by omega), Buf.copy_zero]

/-! ## The chunks -/

/-- The copy succeeds if every chunk from here on is programmed, and stops at the first that
is not. -/
theorem copyChunks_ok (hal : HalFlash η) (slotAAddr : UInt32) (src imageSize : Nat) (w : η)
    (n : Nat) : ∀ k, k + n = chunkCount imageSize →
      ((copyChunks hal slotAAddr src imageSize (256 * k)
          (flashAfter hal slotAAddr src imageSize w k)).1 = .ok ↔
        ∀ j, k ≤ j → j < chunkCount imageSize →
          ChunkProgrammed hal slotAAddr src imageSize w j) ∧
      ((copyChunks hal slotAAddr src imageSize (256 * k)
          (flashAfter hal slotAAddr src imageSize w k)).1 = .ok →
        (copyChunks hal slotAAddr src imageSize (256 * k)
          (flashAfter hal slotAAddr src imageSize w k)).2
            = flashAfter hal slotAAddr src imageSize w (chunkCount imageSize)) := by
  -- induction on the number of chunks that are left
  induction n with
  | zero =>
    intro k hk
    have hover : ¬256 * k < imageSize := by
      unfold chunkCount at hk
      omega
    rw [copyChunks, if_neg hover]
    exact ⟨⟨fun _ j hlow hhigh => absurd hhigh (by omega), fun _ => rfl⟩,
      fun _ => congrArg (flashAfter hal slotAAddr src imageSize w) hk⟩
  | succ n ih =>
    intro k hk
    have hmore : 256 * k < imageSize := by
      unfold chunkCount at hk
      omega
    rw [copyChunks, if_pos hmore]
    dsimp only
    split
    next hfailed =>
      refine ⟨⟨fun hok => absurd hok hfailed, fun hall => ?_⟩, fun hok => absurd hok hfailed⟩
      exact absurd (hall k (Nat.le_refl k) (by omega)) hfailed
    next hdone =>
      obtain ⟨hrest, hend⟩ := ih (k + 1) (by omega)
      have hdone : ChunkProgrammed hal slotAAddr src imageSize w k := not_not.mp hdone
      by_cases hlast : imageSize ≤ 256 * (k + 1)
      · -- the last chunk may be short: the loop is over wherever it ends
        have hstop : ∀ written, imageSize ≤ written → ∀ w',
            copyChunks hal slotAAddr src imageSize written w' = (.ok, w') := by
          intro written hwritten w'
          rw [copyChunks, if_neg (by omega)]
        have hcount : chunkCount imageSize = k + 1 := by
          unfold chunkCount
          omega
        have hwritten : imageSize ≤ 256 * k + chunkLength imageSize (256 * k) := by
          unfold chunkLength
          split <;> omega
        rw [hstop _ hwritten]
        refine ⟨⟨fun _ j hlow hhigh => ?_, fun _ => rfl⟩, fun _ => by rw [hcount]; rfl⟩
        obtain rfl : j = k := by omega
        exact hdone
      -- a whole chunk: the loop goes on with the next
      · have hwhole : 256 * k + chunkLength imageSize (256 * k) = 256 * (k + 1) := by
          unfold chunkLength
          rw [if_pos (by omega)]
          omega
        rw [hwhole]
        refine ⟨hrest.trans ⟨fun hall j hlow hhigh => ?_, fun hall j hlow => hall j (by omega)⟩,
          hend⟩
        rcases Nat.eq_or_lt_of_le hlow with rfl | hlater
        · exact hdone
        · exact hall j hlater hhigh

/-- The whole copy. -/
theorem copyChunks_ok_iff (hal : HalFlash η) (slotAAddr : UInt32) (src imageSize : Nat) (w : η) :
    (copyChunks hal slotAAddr src imageSize 0 w).1 = .ok ↔
      ∀ k < chunkCount imageSize, ChunkProgrammed hal slotAAddr src imageSize w k := by
  refine (copyChunks_ok hal slotAAddr src imageSize w _ 0 (Nat.zero_add _)).1.trans ?_
  exact ⟨fun hall k hk => hall k (Nat.zero_le k) hk, fun hall k _ hk => hall k hk⟩

theorem copyChunks_flash {hal : HalFlash η} {slotAAddr : UInt32} {src imageSize : Nat} {w : η}
    (hok : (copyChunks hal slotAAddr src imageSize 0 w).1 = .ok) :
    (copyChunks hal slotAAddr src imageSize 0 w).2
      = flashAfter hal slotAAddr src imageSize w (chunkCount imageSize) :=
  (copyChunks_ok hal slotAAddr src imageSize w _ 0 (Nat.zero_add _)).2 hok

end UdsIsoTp.Boot.Hal
