import UdsIsoTp.Lib.BigEndian
import UdsIsoTp.Lib.Bytes
import UdsIsoTp.Uds.Effects
import UdsIsoTp.Uds.Memory

/-!
# The format of a memory request

A format byte says how long the address and the size are, and both follow it with their most
significant byte first (`FieldsSpell`). A request is accepted exactly if it is spelled like that
from its first byte to its last (`Spells`), which gives what it asks for back from how it is
written and the other way round. RequestDownload has a decoder of its own for the same format
byte and fields; `serviceDownload_hands` and `serviceDownload_holds` say that it reads the same.

`parseMemoryRequestWithin` is the same parser with no byte to read behind the request.
-/

namespace UdsIsoTp.Uds

variable {ω : Type}

/-- The address's length, from the format byte. -/
def addressLength (alfid : UInt8) : Nat := (alfid &&& 0x0F).toNat

/-- The size's length, from the format byte. -/
def sizeLength (alfid : UInt8) : Nat := (alfid >>> 4).toNat

/-- Both lengths are from one to four. -/
structure AlfidValid (alfid : UInt8) : Prop where
  address_pos : 1 ≤ addressLength alfid
  address_le : addressLength alfid ≤ 4
  size_pos : 1 ≤ sizeLength alfid
  size_le : sizeLength alfid ≤ 4

/-- The fields behind the format byte are the address and then the size. -/
structure FieldsSpell (alfid : UInt8) (fields : List UInt8) (address size : UInt32) : Prop where
  valid : AlfidValid alfid
  address_fits : address.toNat < 256 ^ addressLength alfid
  size_fits : size.toNat < 256 ^ sizeLength alfid
  fields_eq : fields = toBytesBe (addressLength alfid) address.toNat ++
    toBytesBe (sizeLength alfid) size.toNat

/-- The request is the service, the format byte, the fields and, in a write, as many data bytes as
the size says, whose number and the header's add up without a wrap. -/
structure Spells (isWrite : Bool) (request : List UInt8) (r : MemoryRequest) : Prop where
  size_pos : r.size ≠ 0
  spelled : ∃ sid alfid fields data, request = sid :: alfid :: (fields ++ data) ∧
    FieldsSpell alfid fields r.address r.size ∧ r.headerLen = 2 + fields.length ∧
    data.length = if isWrite then r.size.toNat else 0
  noWrap : isWrite = true → r.headerLen + r.size.toNat < 2 ^ 32

/-! ## No byte behind the request -/

/-- `uds_memory_decode_u32(&request[i], len, val)` -/
def udsMemoryDecodeU32 (request : List UInt8) (i len : Nat) : Option UInt32 :=
  (List.range len).foldlM (fun result k => do
    let b ← request[i + k]?
    some ((result <<< 8) ||| b.toUInt32)) 0

/-- `parse_memory_request`, read by read; `none` is a byte read behind the request. -/
def parseMemoryRequestWithin (request : List UInt8) (isWrite : Bool) :
    Option (Except UdsCallbackResult MemoryRequest) :=
  let accept (headerLen : Nat) (address size : UInt32) : Except UdsCallbackResult MemoryRequest :=
    if size = 0 then .error .outOfRange else .ok ⟨headerLen, address, size⟩
  if request.length < (if isWrite then 5 else 4) then some (.error .invalidFormat)
  else do
    let alfid ← request[1]?
    match udsMemoryDecodeAlfid alfid with
    | none => some (.error .outOfRange)
    | some (addrLen, sizeLen) =>
      let headerLen := 2 + addrLen + sizeLen
      if isWrite then
        if request.length ≤ headerLen then some (.error .invalidFormat)
        else do
          let address ← udsMemoryDecodeU32 request 2 addrLen
          let size ← udsMemoryDecodeU32 request (2 + addrLen) sizeLen
          if UInt32.ofNat headerLen + size ≠ UInt32.ofNat request.length then
            some (.error .invalidFormat)
          else some (accept headerLen address size)
      else
        if request.length ≠ headerLen then some (.error .invalidFormat)
        else do
          let address ← udsMemoryDecodeU32 request 2 addrLen
          let size ← udsMemoryDecodeU32 request (2 + addrLen) sizeLen
          some (accept headerLen address size)

theorem byteAt_eq_getElem {request : List UInt8} {i : Nat} (hi : i < request.length) :
    request[i]? = some (byteAt request i) := by
  rw [byteAt, List.getD_eq_getElem?_getD, List.getElem?_eq_getElem hi]
  rfl

theorem readBeU32_succ (data : List UInt8) (i length : Nat) :
    readBeU32 data i (length + 1) =
      (readBeU32 data i length <<< 8) ||| (byteAt data (i + length)).toUInt32 := by
  rw [readBeU32, List.range_succ, List.foldl_append]
  rfl

theorem udsMemoryDecodeU32_eq {request : List UInt8} {i len : Nat}
    (h : i + len ≤ request.length) :
    udsMemoryDecodeU32 request i len = some (readBeU32 request i len) := by
  induction len with
  | zero => rfl
  | succ len ih =>
    have hlast : i + len < request.length := h
    have hbefore := ih (Nat.le_of_lt hlast)
    rw [udsMemoryDecodeU32] at hbefore ⊢
    rw [List.range_succ, List.foldlM_append, hbefore, readBeU32_succ, Option.bind_eq_bind,
      Option.bind_some, List.foldlM_cons, byteAt_eq_getElem hlast]
    rfl

theorem parseMemoryRequestWithin_eq (request : List UInt8) (isWrite : Bool) :
    parseMemoryRequestWithin request isWrite = some (parseMemoryRequest request isWrite) := by
  unfold parseMemoryRequestWithin parseMemoryRequest
  dsimp only
  by_cases hmin : request.length < (if isWrite then 5 else 4)
  · rw [if_pos hmin, if_pos hmin]
  · have hfour : 4 ≤ request.length := by
      cases isWrite
      · exact Nat.not_lt.mp hmin
      · exact Nat.le_of_succ_le (Nat.not_lt.mp hmin)
    rw [if_neg hmin, if_neg hmin, byteAt_eq_getElem (by omega)]
    show (match udsMemoryDecodeAlfid (byteAt request 1) with | none => _ | some (_, _) => _) = _
    rcases udsMemoryDecodeAlfid (byteAt request 1) with _ | ⟨addrLen, sizeLen⟩
    · rfl
    · dsimp only
      -- both kinds look at the length before they read the fields
      cases isWrite
      · by_cases hlen : request.length = 2 + addrLen + sizeLen
        · rw [udsMemoryDecodeU32_eq (by omega), udsMemoryDecodeU32_eq (by omega)]
          simp [hlen]
        · simp [hlen]
      · by_cases hlen : request.length ≤ 2 + addrLen + sizeLen
        · simp [hlen]
        · rw [udsMemoryDecodeU32_eq (by omega), udsMemoryDecodeU32_eq (by omega)]
          simp [hlen]
          split <;> rfl

/-! ## What the fields spell -/

theorem udsMemoryDecodeAlfid_eq (alfid : UInt8) :
    udsMemoryDecodeAlfid alfid =
      if (1 ≤ addressLength alfid ∧ addressLength alfid ≤ 4) ∧
          1 ≤ sizeLength alfid ∧ sizeLength alfid ≤ 4 then
        some (addressLength alfid, sizeLength alfid)
      else none := by
  revert alfid
  exact forall_byte (by decide +kernel)

theorem udsMemoryDecodeAlfid_valid {alfid : UInt8} (h : AlfidValid alfid) :
    udsMemoryDecodeAlfid alfid = some (addressLength alfid, sizeLength alfid) := by
  rw [udsMemoryDecodeAlfid_eq]
  exact if_pos ⟨⟨h.address_pos, h.address_le⟩, h.size_pos, h.size_le⟩

theorem udsMemoryDecodeAlfid_invalid {alfid : UInt8} (h : ¬AlfidValid alfid) :
    udsMemoryDecodeAlfid alfid = none := by
  rw [udsMemoryDecodeAlfid_eq]
  exact if_neg fun ⟨⟨hapos, hale⟩, hspos, hsle⟩ => h ⟨hapos, hale, hspos, hsle⟩

/-- Reading a field gives the number that the field spells. -/
theorem toNat_readBeU32 (data : List UInt8) {i length : Nat} (hwidth : length ≤ 4)
    (h : i + length ≤ data.length) :
    (readBeU32 data i length).toNat = ofBytesBe ((data.drop i).take length) := by
  induction length with
  | zero => rfl
  | succ length ih =>
    have hlast : i + length < data.length := h
    have hbefore := ih (Nat.le_of_succ_le hwidth) (Nat.le_of_lt hlast)
    have htake : (data.drop i).take (length + 1)
        = (data.drop i).take length ++ [byteAt data (i + length)] := by
      rw [List.take_add_one, List.getElem?_drop, byteAt_eq_getElem hlast]
      rfl
    have hshort : ((data.drop i).take length).length ≤ 3 := by
      rw [List.length_take]
      omega
    -- three bytes so far leave room for one more in the word
    have hroom : ofBytesBe ((data.drop i).take length) < 256 ^ 3 :=
      Nat.lt_of_lt_of_le (ofBytesBe_lt _) (Nat.pow_le_pow_right (by omega) hshort)
    rw [readBeU32_succ, shift_in_byte _ hbefore hroom, htake, ofBytesBe_concat]

/-- What is read from two fields is what they spell. -/
theorem fieldsSpell_read {alfid : UInt8} (valid : AlfidValid alfid) (data : List UInt8) {i : Nat}
    (h : i + addressLength alfid + sizeLength alfid ≤ data.length) :
    FieldsSpell alfid ((data.drop i).take (addressLength alfid + sizeLength alfid))
      (readBeU32 data i (addressLength alfid))
      (readBeU32 data (i + addressLength alfid) (sizeLength alfid)) := by
  have haddress := toNat_readBeU32 data (i := i) valid.address_le (by omega)
  have hsize := toNat_readBeU32 data (i := i + addressLength alfid) valid.size_le h
  have hlenA : ((data.drop i).take (addressLength alfid)).length = addressLength alfid := by
    rw [List.length_take, List.length_drop]
    omega
  have hlenS : ((data.drop (i + addressLength alfid)).take (sizeLength alfid)).length
      = sizeLength alfid := by
    rw [List.length_take, List.length_drop]
    omega
  have hfitsA := ofBytesBe_lt ((data.drop i).take (addressLength alfid))
  have hfitsS := ofBytesBe_lt ((data.drop (i + addressLength alfid)).take (sizeLength alfid))
  rw [hlenA, ← haddress] at hfitsA
  rw [hlenS, ← hsize] at hfitsS
  refine ⟨valid, hfitsA, hfitsS, ?_⟩
  rw [List.take_add, List.drop_drop]
  exact congrArg₂ (· ++ ·) ((eq_toBytesBe_iff hlenA hfitsA).mpr haddress.symm)
    ((eq_toBytesBe_iff hlenS hfitsS).mpr hsize.symm)

theorem FieldsSpell.length {alfid : UInt8} {fields : List UInt8} {address size : UInt32}
    (h : FieldsSpell alfid fields address size) :
    fields.length = addressLength alfid + sizeLength alfid := by
  rw [h.fields_eq, List.length_append, length_toBytesBe, length_toBytesBe]

/-- The fields spell one address and one size. -/
theorem FieldsSpell.unique {alfid : UInt8} {fields : List UInt8}
    {address size address' size' : UInt32}
    (h : FieldsSpell alfid fields address size) (h' : FieldsSpell alfid fields address' size') :
    address = address' ∧ size = size' := by
  -- both fields have a known width, so there is one way to split them
  have heq := h.fields_eq.symm.trans h'.fields_eq
  obtain ⟨haddress, hsize⟩ := List.append_inj heq (by rw [length_toBytesBe, length_toBytesBe])
  have hA := congrArg ofBytesBe haddress
  have hS := congrArg ofBytesBe hsize
  rw [ofBytesBe_toBytesBe h.address_fits, ofBytesBe_toBytesBe h'.address_fits] at hA
  rw [ofBytesBe_toBytesBe h.size_fits, ofBytesBe_toBytesBe h'.size_fits] at hS
  exact ⟨UInt32.toNat_inj.mp hA, UInt32.toNat_inj.mp hS⟩

/-! ## The memory services' parser -/

/-- A request is shorter than 2^16, so a sum that wraps is not its length. -/
theorem add_eq_length_iff {headerLen length : Nat} {size : UInt32} (hlen : length < 65536)
    (hheader : headerLen < length) :
    UInt32.ofNat headerLen + size = UInt32.ofNat length ↔ length = headerLen + size.toNat := by
  have hsize := size.toNat_lt
  have hsum : (UInt32.ofNat headerLen + size).toNat = (headerLen + size.toNat) % 2 ^ 32 := by
    rw [UInt32.toNat_add, UInt32.toNat_ofNat', Nat.mod_add_mod]
  have hlength : (UInt32.ofNat length).toNat = length := by
    rw [UInt32.toNat_ofNat']
    exact Nat.mod_eq_of_lt (by omega)
  rw [← UInt32.toNat_inj, hsum, hlength]
  omega

/-- The check of the lengths, for a size that is not zero. -/
theorem malformed_iff {isWrite : Bool} {headerLen length : Nat} {size : UInt32}
    (hlen : length < 65536) (hpos : size ≠ 0) :
    (if isWrite then
        decide (length ≤ headerLen) || UInt32.ofNat headerLen + size != UInt32.ofNat length
      else length != headerLen) = false ↔
      length = headerLen + (if isWrite then size.toNat else 0) := by
  cases isWrite
  · show (length != headerLen) = false ↔ length = headerLen + 0
    rw [bne_eq_false_iff_eq, Nat.add_zero]
  · have hsize : size.toNat ≠ 0 := fun h => hpos (UInt32.toNat_inj.mp h)
    show (decide (length ≤ headerLen) || _) = false ↔ length = headerLen + size.toNat
    rw [Bool.or_eq_false_iff, decide_eq_false_iff_not, bne_eq_false_iff_eq, Nat.not_le]
    constructor
    · rintro ⟨hheader, hsum⟩
      exact (add_eq_length_iff hlen hheader).mp hsum
    · intro h
      have hheader : headerLen < length := by omega
      exact ⟨hheader, (add_eq_length_iff hlen hheader).mpr h⟩

/-- When a request with its two first bytes is accepted, and as what. -/
theorem parseMemoryRequest_ok_iff {sid alfid : UInt8} {rest : List UInt8} {isWrite : Bool}
    (hlen : rest.length + 2 < 65536) (r : MemoryRequest) :
    parseMemoryRequest (sid :: alfid :: rest) isWrite = .ok r ↔
      AlfidValid alfid ∧ r.size ≠ 0 ∧
      rest.length + 2 = r.headerLen + (if isWrite then r.size.toNat else 0) ∧
      r = ⟨2 + addressLength alfid + sizeLength alfid,
        readBeU32 (sid :: alfid :: rest) 2 (addressLength alfid),
        readBeU32 (sid :: alfid :: rest) (2 + addressLength alfid) (sizeLength alfid)⟩ := by
  generalize haddress : readBeU32 (sid :: alfid :: rest) 2 (addressLength alfid) = address
  generalize hsize :
    readBeU32 (sid :: alfid :: rest) (2 + addressLength alfid) (sizeLength alfid) = size
  -- a request of the length that it spells is long enough to be looked at
  have hshort : ∀ {n : Nat}, rest.length + 2 = 2 + addressLength alfid + sizeLength alfid +
      (if isWrite then n else 0) → n ≠ 0 → AlfidValid alfid →
      ¬rest.length + 2 < (if isWrite then 5 else 4) := by
    intro n hlength hn hvalid
    have hapos := hvalid.address_pos
    have hspos := hvalid.size_pos
    cases isWrite <;> simp only [Bool.false_eq_true, ↓reduceIte] at hlength ⊢ <;> omega
  rw [parseMemoryRequest, show byteAt (sid :: alfid :: rest) 1 = alfid from rfl,
    show (sid :: alfid :: rest).length = rest.length + 2 from rfl]
  by_cases hvalid : AlfidValid alfid
  case neg =>
    refine ⟨fun h => ?_, fun h => absurd h.1 hvalid⟩
    rw [udsMemoryDecodeAlfid_invalid hvalid] at h
    by_cases hmin : rest.length + 2 < (if isWrite then 5 else 4)
    · rw [if_pos hmin] at h
      cases h
    · rw [if_neg hmin] at h
      cases h
  case pos =>
    rw [udsMemoryDecodeAlfid_valid hvalid]
    dsimp only
    rw [haddress, hsize]
    constructor
    · intro h
      by_cases hmin : rest.length + 2 < (if isWrite then 5 else 4)
      · rw [if_pos hmin] at h
        cases h
      rw [if_neg hmin] at h
      generalize hmalformed : (if isWrite then _ else _ : Bool) = malformed at h
      cases malformed
      · rw [if_neg Bool.false_ne_true] at h
        by_cases hpos : size = 0
        · rw [if_pos hpos] at h
          cases h
        · rw [if_neg hpos] at h
          injection h with h
          subst h
          exact ⟨hvalid, hpos, (malformed_iff hlen hpos).mp hmalformed, rfl⟩
      · cases h
    · rintro ⟨-, hpos, hlength, rfl⟩
      have hmin := hshort hlength (fun h => hpos (UInt32.toNat_inj.mp h)) hvalid
      rw [if_neg hmin, (malformed_iff hlen hpos).mpr hlength, if_neg Bool.false_ne_true,
        if_neg hpos]

/-- The parser accepts what is spelled right, as what it spells. -/
theorem parseMemoryRequest_spells {request : List UInt8} {isWrite : Bool}
    (hlen : request.length < 65536) (r : MemoryRequest) :
    parseMemoryRequest request isWrite = .ok r ↔ Spells isWrite request r := by
  constructor
  -- the fields are the bytes that the two lengths take
  · intro h
    rcases request with _ | ⟨sid, _ | ⟨alfid, rest⟩⟩
    · cases isWrite <;> cases h
    · cases isWrite <;> cases h
    · obtain ⟨hvalid, hpos, hlength, hr⟩ := (parseMemoryRequest_ok_iff hlen r).mp h
      have hfields : 2 + addressLength alfid + sizeLength alfid ≤ rest.length + 2 := by
        rw [hr] at hlength
        dsimp only at hlength
        omega
      have hspell := fieldsSpell_read hvalid (sid :: alfid :: rest) (i := 2) hfields
      have htake : (rest.take (addressLength alfid + sizeLength alfid)).length
          = addressLength alfid + sizeLength alfid := by
        rw [List.length_take]
        omega
      have hheader : r.headerLen = 2 + (addressLength alfid + sizeLength alfid) := by
        rw [hr, Nat.add_assoc]
      refine ⟨hpos, ⟨sid, alfid, rest.take (addressLength alfid + sizeLength alfid),
        rest.drop (addressLength alfid + sizeLength alfid), ?_, ?_, ?_, ?_⟩, ?_⟩
      · rw [List.take_append_drop]
      · rw [hr]
        exact hspell
      · rw [htake, hheader]
      · rw [List.length_drop]
        omega
      · rintro rfl
        rw [if_pos rfl] at hlength
        have hlen' : rest.length + 2 < 65536 := hlen
        omega
  · -- what is read from the fields is what they spell, and they spell one thing only
    rintro ⟨hpos, ⟨sid, alfid, fields, data, rfl, hspell, hheader, hdata⟩, -⟩
    have hfields := hspell.length
    have hread := fieldsSpell_read hspell.valid (sid :: alfid :: (fields ++ data)) (i := 2) (by
      rw [List.length_cons, List.length_cons, List.length_append]
      omega)
    have htake : ((sid :: alfid :: (fields ++ data)).drop 2).take
        (addressLength alfid + sizeLength alfid) = fields := List.take_left' hfields
    rw [htake] at hread
    obtain ⟨haddress, hsize⟩ := hspell.unique hread
    refine (parseMemoryRequest_ok_iff hlen r).mpr ⟨hspell.valid, hpos, ?_, ?_⟩
    · rw [List.length_append, hdata]
      omega
    · rw [← haddress, ← hsize, Nat.add_assoc, ← hfields, ← hheader]

/-! ## The decoder of RequestDownload -/

/-- Fields that spell an address and a size are handed on as these. -/
theorem serviceDownload_hands {x : Exchange ω}
    {requestDownload : ω → UInt32 → UInt32 → UdsCallbackResult × UInt16 × ω}
    (hcallback : x.server.callbacks.requestDownload = some requestDownload) {alfid : UInt8}
    {fields : List UInt8} {address size : UInt32} (hspell : FieldsSpell alfid fields address size)
    (sid dfi : UInt8) (capacity : UInt16) :
    (serviceDownload x (sid :: dfi :: alfid :: fields) capacity).2.world
      = (requestDownload x.world address size).2.2 := by
  have hfields := hspell.length
  have hread := fieldsSpell_read hspell.valid (sid :: dfi :: alfid :: fields) (i := 3)
    (by simp only [List.length_cons]; omega)
  have htake : ((sid :: dfi :: alfid :: fields).drop 3).take
      (addressLength alfid + sizeLength alfid) = fields := by
    rw [← hfields]
    exact List.take_length
  rw [htake] at hread
  obtain ⟨haddress, hsize⟩ := hspell.unique hread
  have hapos := hspell.valid.address_pos
  have hspos := hspell.valid.size_pos
  have hmin : ¬(sid :: dfi :: alfid :: fields).length < 4 := by
    simp only [List.length_cons]
    omega
  have hvalid : ¬(addressLength alfid = 0 ∨ 4 < addressLength alfid ∨ sizeLength alfid = 0 ∨
      4 < sizeLength alfid ∨
      (sid :: dfi :: alfid :: fields).length ≠ 3 + addressLength alfid + sizeLength alfid) := by
    have hale := hspell.valid.address_le
    have hsle := hspell.valid.size_le
    simp only [List.length_cons]
    omega
  rw [haddress, hsize]
  unfold serviceDownload
  rw [hcallback]
  dsimp only
  rw [if_neg hmin]
  refine Eq.trans (congrArg (fun y : Served ω => y.2.world) (if_neg hvalid)) ?_
  -- whatever the callback says, its world is the one that is left
  split
  next => exact callbackResult_world ..
  next =>
    split
    next => exact negativeResponse_world ..
    next => rfl

/-- Without them nothing is handed on. -/
theorem serviceDownload_holds {x : Exchange ω} {alfid : UInt8} {fields : List UInt8}
    (hspell : ∀ address size, ¬FieldsSpell alfid fields address size)
    (sid dfi : UInt8) (capacity : UInt16) :
    (serviceDownload x (sid :: dfi :: alfid :: fields) capacity).2.world = x.world := by
  unfold serviceDownload
  split
  next => exact negativeResponse_world ..
  next =>
    split
    next => exact negativeResponse_world ..
    next =>
      dsimp only
      split
      next => exact negativeResponse_world ..
      next hvalid =>
        have hbounds : ¬(addressLength alfid = 0 ∨ 4 < addressLength alfid ∨ sizeLength alfid = 0 ∨
            4 < sizeLength alfid ∨ (sid :: dfi :: alfid :: fields).length ≠
              3 + addressLength alfid + sizeLength alfid) := hvalid
        simp only [List.length_cons] at hbounds
        have halfid : AlfidValid alfid :=
          ⟨by omega, by omega, by omega, by omega⟩
        -- the fields of a request that passed the checks do spell something
        have hread := fieldsSpell_read halfid fields (i := 0) (by omega)
        rw [List.drop_zero, List.take_of_length_le (by omega)] at hread
        exact absurd hread (hspell _ _)

/-! ## The grammar -/

/-- A request is accepted if and only if it is spelled right, and then as the address and the size
that it spells; no byte behind it is read; and RequestDownload finds the same in the same fields,
for whatever callback is told of them. -/
theorem memory_request_grammar (x : Exchange ω) (request : List UInt8) (isWrite : Bool)
    (hlen : request.length < 65536) :
    (∀ r, parseMemoryRequest request isWrite = .ok r ↔ Spells isWrite request r) ∧
    parseMemoryRequestWithin request isWrite = some (parseMemoryRequest request isWrite) ∧
    ∀ requestDownload, x.server.callbacks.requestDownload = some requestDownload →
      ∀ sid dfi alfid fields capacity,
        (∀ address size, FieldsSpell alfid fields address size →
          (serviceDownload x (sid :: dfi :: alfid :: fields) capacity).2.world
            = (requestDownload x.world address size).2.2) ∧
        ((∀ address size, ¬FieldsSpell alfid fields address size) →
          (serviceDownload x (sid :: dfi :: alfid :: fields) capacity).2.world = x.world) := by
  refine ⟨parseMemoryRequest_spells hlen, parseMemoryRequestWithin_eq request isWrite, ?_⟩
  intro requestDownload hcallback sid dfi alfid fields capacity
  constructor
  · intro address size hspell
    exact serviceDownload_hands hcallback hspell sid dfi capacity
  · intro hspell
    exact serviceDownload_holds hspell sid dfi capacity

/-- A server whose downloads are noted down. -/
def notedDownloads : Exchange (List (UInt32 × UInt32)) where
  server := udsServerInit
    { requestDownload := some fun w address length => (.ok, 66, w ++ [(address, length)]) } 0
  response := fun _ => 0
  responseLen := 0
  world := []

/-- Two bytes to be written at 0x2000, and the same fields in a download. -/
theorem memory_request_grammar_write :
    Spells true [0x3D, 0x12, 0x20, 0x00, 0x02, 0xAA, 0xBB] ⟨5, 0x2000, 2⟩ ∧
    (serviceDownload notedDownloads [0x34, 0x00, 0x12, 0x20, 0x00, 0x02] 100).2.world
      = [(0x2000, 2)] := by
  have h := memory_request_grammar notedDownloads [0x3D, 0x12, 0x20, 0x00, 0x02, 0xAA, 0xBB]
    true (by decide)
  have hvalid : AlfidValid 0x12 := ⟨by decide, by decide, by decide, by decide⟩
  exact ⟨(h.1 _).mp (by decide +kernel),
    (h.2.2 _ rfl _ _ _ _ _).1 _ _ ⟨hvalid, by decide, by decide, by decide⟩⟩

/-- A read of almost all memory: the header and the size add up to more than 32 bits hold, and the
request is accepted, as a read never takes that sum. -/
theorem wrapping_read_accepted :
    parseMemoryRequest [0x23, 0x44, 0, 0, 0, 0, 0xFF, 0xFF, 0xFF, 0xFF] false
      = .ok ⟨10, 0, 0xFFFFFFFF⟩ ∧ ¬10 + (0xFFFFFFFF : UInt32).toNat < 2 ^ 32 := by
  decide +kernel

end UdsIsoTp.Uds
