import UdsIsoTp.IsoTp.Transfer

/-!
# The first frame

What `isotp_tx_start` hands out, and what a fresh receiver with the same configuration
makes of it. The sender chooses the header by the length of the payload, the receiver by
the bits it finds. They choose alike for every length on CAN FD, and up to 4095 bytes on
classic CAN (`first_frame_agrees`).

Beyond that the sender writes the 32-bit length behind an all-zero 12-bit one whatever the
bus, but the receiver looks for it in CAN FD frames only (`firstFrame_zero`), and rejects
the frame for its length of zero.
-/

namespace UdsIsoTp.IsoTp

variable {ω : Type}

/-- The receiver reports the payload, or waits for the rest of as many bytes. -/
def TakesUp (payload : List UInt8) (out : RxOut ω) : Prop :=
  out.status = .complete ∧ out.event.bytes = payload ∨
    out.status = .needFlowControl ∧ out.rx.active = true ∧ out.rx.expectedLen = payload.length

section fed

variable {config : IsoTpConfig ω} {down up : UInt32} {payload : List UInt8} {tx : IsoTpTx ω}
  {rx : IsoTpRx ω}

theorem Matched.same (hvalid : validTxConfig config = true) (hdl : config.txDl ≤ config.rxDl) :
    Matched config config :=
  ⟨hvalid, hvalid, rfl, hdl, hdl⟩

/-- A payload in one frame is reported. -/
theorem single_takesUp {tx' : IsoTpTx ω} {frame : IsoTpCanFrame} (later : UInt32)
    (event : IsoTpRxEvent) (hmatched : Matched config config) (htx : TxEnd config down up tx)
    (hrx : RxEnd config down up rx) (hidle : rx.active = false) (hpos : 1 ≤ payload.length)
    (hfits : payload.length ≤ maxPayload) (hsf : txBuildSf tx payload = some (tx', frame)) :
    TakesUp payload (isotpRxFeed rx frame later event) := by
  have hpdu := txBuildSf_pdu hmatched htx hpos hsf
  obtain ⟨hstatus, -, -, hbytes, -⟩ := feed_single later event hrx hidle hfits hpdu
  exact .inl ⟨hstatus, hbytes⟩

/-- A single frame is short, or on CAN FD. -/
theorem single_readable {sf : IsoTpTx ω × IsoTpCanFrame} (hsf : txBuildSf tx payload = some sf) :
    tx.config.canFd = true ∨ payload.length ≤ 4095 := by
  by_contra hneither
  obtain ⟨hclassic, hlong⟩ := not_or.mp hneither
  unfold txBuildSf at hsf
  dsimp only at hsf
  rw [if_neg (by omega), if_neg fun hfit => hclassic hfit.1] at hsf
  exact absurd hsf.symm (Option.some_ne_none sf)

/-- A first frame whose length the receiver can read is waited on. -/
theorem first_takesUp (later : UInt32) (event : IsoTpRxEvent) (hmatched : Matched config config)
    (htx : TxEnd config down up tx) (hrx : RxEnd config down up rx) (hidle : rx.active = false)
    (hfits : payload.length ≤ maxPayload) (hsf : txBuildSf tx payload = none)
    (hreadable : config.canFd = true ∨ payload.length ≤ 4095) :
    TakesUp payload (isotpRxFeed rx (txBuildFirstFrame tx payload).2 later event) := by
  have hvalid : validTxConfig tx.config = true := by rw [htx.config]; exact hmatched.sender
  obtain ⟨hlong, hmore⟩ := txBuildSf_none hvalid hsf
  rw [htx.config] at hmore
  have hplan : PlanOf config config payload
      (planFor config config payload hmore (txDl_bounds hmatched.sender).1) := ⟨rfl, rfl, rfl, rfl⟩
  have hpdu := firstFrame_pdu hmatched hplan htx hlong hfits
    (fun hclassic => hreadable.resolve_left (by rw [hclassic]; exact Bool.false_ne_true))
  obtain ⟨hstatus, -, hbusy, -, -⟩ := feed_first later event hmatched hrx hidle hplan.length hlong
    hfits hpdu
  exact .inr ⟨hstatus, hbusy.active, hbusy.expectedLen⟩

/-- On classic CAN an escaped length is read as zero. -/
theorem firstFrame_zero (hclassic : tx.config.canFd = false) (hlong : 4095 < payload.length) :
    (txBuildFirstFrame tx payload).2.highNibble = 1 ∧
      (decodeFf (txBuildFirstFrame tx payload).2).1 = some (0, 2) := by
  have hheader : ffHeader payload.length = 6 := if_neg (Nat.not_le.mpr hlong)
  have hb0 : (txBuildFirstFrame tx payload).2.data 0 = 0x10 := by
    simp only [txBuildFirstFrame, hheader, if_neg (Nat.not_le.mpr hlong)]
    rw [Buf.copy_outside (by omega)]
    simp [Buf.write_apply]
  have hb1 : (txBuildFirstFrame tx payload).2.data 1 = 0 := by
    simp only [txBuildFirstFrame, hheader, if_neg (Nat.not_le.mpr hlong)]
    rw [Buf.copy_outside (by omega)]
    simp [Buf.write_apply]
  have hlow : (txBuildFirstFrame tx payload).2.lowNibble = 0 := by
    rw [IsoTpCanFrame.lowNibble, hb0]
    rfl
  have hfd : (txBuildFirstFrame tx payload).2.isFd = false := hclassic
  refine ⟨by rw [IsoTpCanFrame.highNibble, hb0]; rfl, ?_⟩
  unfold decodeFf
  rw [if_pos (.inl (by rw [hfd]; exact Bool.false_ne_true)), hlow, hb1]
  rfl

/-- So the receiver does not take up the payload. -/
theorem first_refused (later : UInt32) (event : IsoTpRxEvent) (hmatched : Matched config config)
    (htx : TxEnd config down up tx) (hrx : RxEnd config down up rx) (hidle : rx.active = false)
    (hclassic : config.canFd = false) (hlong : 4095 < payload.length) :
    ¬TakesUp payload (isotpRxFeed rx (txBuildFirstFrame tx payload).2 later event) := by
  have hvalid : validTxConfig tx.config = true := by rw [htx.config]; exact hmatched.sender
  have hdlc : (txBuildFirstFrame tx payload).2.dlc = 8 := by
    rw [← classic_txDl hvalid (by rw [htx.config, hclassic]; exact Bool.false_ne_true)]
    exact clearFrame_dlc tx.responseId hvalid
  have hfd : (txBuildFirstFrame tx payload).2.isFd = false :=
    (show tx.config.canFd = false by rw [htx.config]; exact hclassic)
  have hsender : tx.config.canFd = false := by rw [htx.config]; exact hclassic
  obtain ⟨htype, hff⟩ := firstFrame_zero hsender hlong
  obtain ⟨hstatus, -, -⟩ := feed_dispatch rx (txBuildFirstFrame tx payload).2 later event
    (frameValid_of_classic hfd (by omega) (by omega))
    (by rw [hrx.requestId]; exact htx.responseId) (by simp [isUnexpectedNPdu, hidle])
  have hformat : (rxDispatch rx (txBuildFirstFrame tx payload).2 later (clearEvent event)).status
      = .errFormat := by
    simp only [rxDispatch, htype]
    unfold rxFirst
    rw [if_neg (by omega), if_neg (by omega)]
    split
    next => rfl
    next length header reads hsome =>
      rw [hsome] at hff
      obtain ⟨rfl, rfl⟩ := Prod.mk.inj (Option.some.inj hff)
      rw [if_pos (by omega)]
  rw [hformat] at hstatus
  intro htaken
  rcases htaken with ⟨hcomplete, -⟩ | ⟨hwaits, -⟩
  · exact absurd (hstatus.symm.trans hcomplete) (by decide)
  · exact absurd (hstatus.symm.trans hwaits) (by decide)

end fed

/-- For every configuration that the transmitter accepts, with frames that it would take itself,
and every payload that it can start: what the first frame says is what a fresh receiver makes
of it if and only if the bus is CAN FD or the payload is no longer than 4095 bytes. -/
theorem first_frame_agrees (tx₀ : IsoTpTx ω) (rx₀ : IsoTpRx ω) (config : IsoTpConfig ω)
    (hvalid : validTxConfig config = true) (hdl : config.txDl ≤ config.rxDl) (down up : UInt32)
    (payload : List UInt8) (hpos : 1 ≤ payload.length) (hfits : payload.length ≤ maxPayload)
    (now later : UInt32) (frame : IsoTpCanFrame) (event : IsoTpRxEvent) :
    let out := isotpTxStart (isotpTxInit tx₀ (some config) up down) payload now frame
    out.status = .txFrameReady ∧
      (TakesUp payload
          (isotpRxFeed (isotpRxInit rx₀ (some config) down up) out.frame later event) ↔
        config.canFd = true ∨ payload.length ≤ 4095) := by
  intro out
  have hmatched := Matched.same hvalid hdl
  have hready : out.status = .txFrameReady :=
    start_accepted now frame (by exact hvalid) hpos hfits
  have htx : TxEnd config down up (txLoad (isotpTxInit tx₀ (some config) up down) payload now) :=
    ⟨rfl, rfl, rfl⟩
  have hrx : RxEnd config down up (isotpRxInit rx₀ (some config) down up) := ⟨rfl, rfl, rfl⟩
  refine ⟨hready, ?_⟩
  obtain ⟨-, -, ⟨sf, hsf, hout⟩ | ⟨hsf, hout⟩⟩ := start_ready hready
  · rw [show out.frame = sf.2 from congrArg TxOut.frame hout]
    have htaken := single_takesUp later event hmatched htx hrx rfl hpos hfits hsf
    exact ⟨fun _ => single_readable hsf, fun _ => htaken⟩
  · rw [show out.frame = _ from congrArg TxOut.frame hout]
    refine ⟨fun htaken => ?_, first_takesUp later event hmatched htx hrx rfl hfits hsf⟩
    by_contra hneither
    obtain ⟨hclassic, hlong⟩ := not_or.mp hneither
    exact first_refused later event hmatched htx hrx rfl (by simpa using hclassic)
      (Nat.lt_of_not_le hlong) htaken

/-- A transmitter and a receiver before they are initialised. -/
def rawTx : IsoTpTx Unit where
  config := isotpConfigClassicCan
  requestId := 0
  responseId := 0
  buffer := fun _ => 0
  payloadLen := 0
  offset := 0
  nextSequence := 0
  blockCount := 0
  remoteBlockSize := 0
  remoteStMin := 0
  remoteStMinUs := 0
  deadlineMs := 0
  nextFrameMs := 0
  nextFrameUs := 0
  state := .idle
  waitFrames := 0

/-- A receiver as it lies in memory. -/
def rawRx : IsoTpRx Unit where
  config := isotpConfigClassicCan
  requestId := 0
  responseId := 0
  buffer := fun _ => 0
  expectedLen := 0
  receivedLen := 0
  nextSequence := 0
  blockCount := 0
  deadlineMs := 0
  active := false

/-- An event as it lies in memory. -/
def rawEvent : IsoTpRxEvent := ⟨none, 0, false, false, pollingFrame⟩

/-- The longest payload of classic CAN that is taken up. -/
theorem first_frame_agrees_longest :
    (isotpTxStart (isotpTxInit rawTx (some isotpConfigClassicCan) 0x708 0x700)
        (List.replicate 4095 7) 0 pollingFrame).status = .txFrameReady ∧
      (TakesUp (List.replicate 4095 7)
          (isotpRxFeed (isotpRxInit rawRx (some isotpConfigClassicCan) 0x700 0x708)
            (isotpTxStart (isotpTxInit rawTx (some isotpConfigClassicCan) 0x708 0x700)
              (List.replicate 4095 7) 0 pollingFrame).frame 0 rawEvent) ↔
        (isotpConfigClassicCan : IsoTpConfig Unit).canFd = true ∨
          (List.replicate 4095 (7 : UInt8)).length ≤ 4095) :=
  first_frame_agrees rawTx rawRx isotpConfigClassicCan (by decide) (by decide) 0x700 0x708
    (List.replicate 4095 7) (by rw [List.length_replicate]; decide)
    (by rw [List.length_replicate]; decide) 0 0 pollingFrame rawEvent

/-- With one byte more, the receiver rejects what the transmitter sends. -/
theorem first_frame_lost :
    (isotpTxStart (isotpTxInit rawTx (some isotpConfigClassicCan) 0x708 0x700)
        (List.replicate 4096 7) 0 pollingFrame).status = .txFrameReady ∧
      ¬TakesUp (List.replicate 4096 7)
        (isotpRxFeed (isotpRxInit rawRx (some isotpConfigClassicCan) 0x700 0x708)
          (isotpTxStart (isotpTxInit rawTx (some isotpConfigClassicCan) 0x708 0x700)
            (List.replicate 4096 7) 0 pollingFrame).frame 0 rawEvent) := by
  have hformat : (isotpRxFeed (isotpRxInit rawRx (some isotpConfigClassicCan) 0x700 0x708)
      (isotpTxStart (isotpTxInit rawTx (some isotpConfigClassicCan) 0x708 0x700)
        (List.replicate 4096 7) 0 pollingFrame).frame 0 rawEvent).status = .errFormat := by
    decide +kernel
  refine ⟨by decide +kernel, fun htaken => ?_⟩
  rcases htaken with ⟨hcomplete, -⟩ | ⟨hwaits, -⟩
  · exact absurd (hformat.symm.trans hcomplete) (by decide)
  · exact absurd (hformat.symm.trans hwaits) (by decide)

end UdsIsoTp.IsoTp
