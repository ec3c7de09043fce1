import UdsIsoTp.App.DtcEdits

/-!
# Tables that any flash can lead to

A block in the flash need not come from a save of this application: it is taken for what it
is once its checksum, its magic and its version are right. Whatever it holds, the table has
its codes in ROM, at most eleven more, and no number twice (`TableSound`), as every edit
keeps that.
-/

namespace UdsIsoTp.App

open UdsIsoTp.Flash UdsIsoTp.Uds Keyed

theorem udsDtcAppInit_sound : TableSound udsDtcAppInit := udsDtcAppInit_valid.table

/-- Every function keeps the table sound, whatever the store and the flash are. -/
theorem dtcStep_sound (s : DtcRun) (call : DtcCall) (h : TableSound s.app) :
    TableSound (dtcStep s call).app := by
  rcases dtcStep_edits s call with hinit | hedits
  · rw [hinit]
    exact udsDtcAppInit_sound
  · exact hedits.sound h

theorem dtcRun_sound (world : UdsParamStore NorFlash × NorFlash) (calls : List DtcCall) :
    TableSound (run dtcStep ⟨udsDtcAppInit, world⟩ calls).app :=
  run_inv (I := fun (s : DtcRun) => TableSound s.app) dtcStep_sound udsDtcAppInit_sound calls

/-! ## What is reported of a sound table -/

section Records

variable {app : UdsDtcAppStorage} (h : TableSound app)

include h

theorem TableSound.numbers : ((allRecords app).map UdsDtcAppRecord.dtcNumber).Nodup := by
  rw [allRecords_numbers h.static]
  exact h.distinct

/-- A record that is shown is the one of its number. -/
theorem TableSound.stored {rec : UdsDtcAppRecord} (hrec : rec ∈ allRecords app) :
    recordOf app rec.dtcNumber = some rec := by
  rw [allRecords_eq h.static] at hrec
  obtain ⟨e, he, rfl⟩ := List.mem_map.mp hrec
  rw [recordOf_eq h.static, DtcEntry.view_dtcNumber]
  unfold dtcEntryOf
  rw [lookup_of_mem h.distinct he]
  rfl

end Records

end UdsIsoTp.App
