import Mathlib
import Bmc.Boot.Ipmi
import Bmc.Lib.Loop

/-!
# Updates in the recovery mode

The loop `fwupdate` of `011-bmc_auto_recovery_feature.patch` takes a sector that the commands have announced, and writes what has
been uploaded to the flash.

* `eraseLoop`, `writeLoop`, `updateRound`: a round of the loop, with any outcome of the flash operations;
* `UpdateEvent`, `updateStep`: commands and rounds, with what the host means beside them;
* `UpdateKept`: what a step should do; `Steady`: the condition on the commands and on the flash operations;
* **`updateKept_of_steady`**: in a run whose steps all meet the condition, every step does what it should.
-/

namespace BmcBoot

open BmcLib

/-! ## The flash -/

/-- What `spi_flash_erase` or `spi_flash_write` reports. A failure may leave any bytes in the sector. -/
inductive FlashResult
  | ok
  | failed (left : ℕ → UInt8)

/-- Bytes in place of those of a sector. -/
def onSector (addr size : ℕ) (bytes : ℕ → UInt8) (flash : ℕ → UInt8) : ℕ → UInt8 := fun a =>
  if addr ≤ a ∧ a < addr + size then bytes a else flash a

/-- A sector is erased. -/
def eraseSector (addr size : ℕ) (r : FlashResult) (flash : ℕ → UInt8) : ℕ → UInt8 :=
  match r with
  | .ok => onSector addr size (fun _ => 0xFF) flash
  | .failed left => onSector addr size left flash

/-- The outcomes of the flash operations in a round: whether the sector is read, and what each attempt to erase it, to write it,
and to erase it once more after a failure reports, by the retries that are left. -/
structure FlashOutcomes where
  read : Bool
  erase : ℕ → FlashResult
  write : ℕ → FlashResult
  eraseAgain : ℕ → FlashResult

/-- The loop that erases the sector: the retries that are left, and the flash. -/
def eraseLoop (addr size : ℕ) (o : FlashOutcomes) : ℕ → (ℕ → UInt8) → ℕ × (ℕ → UInt8)
  | 0, flash => (0, flash)
  | retries + 1, flash =>
    match o.erase (retries + 1) with
    | .ok => (retries + 1, eraseSector addr size .ok flash)
    | .failed left => eraseLoop addr size o retries (eraseSector addr size (.failed left) flash)

/-- The loop that writes the sector. Writing clears bits only. -/
def writeLoop (addr size : ℕ) (src : ℕ → UInt8) (o : FlashOutcomes) : ℕ → (ℕ → UInt8) → ℕ × (ℕ → UInt8)
  | 0, flash => (0, flash)
  | retries + 1, flash =>
    match o.write (retries + 1) with
    | .ok => (retries + 1, onSector addr size (fun a => flash a &&& src (a - addr)) flash)
    | .failed left =>
      writeLoop addr size src o retries (eraseSector addr size (o.eraseAgain (retries + 1)) (onSector addr size left flash))

/-! ## fwupdate -/

/-- The flash has so many sectors, and the bank; an image fits into the flash. -/
structure FwConfig where
  yafu : YafuConfig
  flashSectors : ℕ
  bankSectors : ℕ
  blocks_le : yafu.blocks ≤ flashSectors

/-- The sector size. -/
def FwConfig.size (c : FwConfig) : ℕ := c.yafu.eraseBlockSize

/-- The global variables, the variables of the loop, the flash, and whether the board resets. -/
structure UpdateState where
  yafu : YafuState
  baseFlashAddrs : ℕ
  retries : ℤ
  flash : ℕ → UInt8
  resets : Bool

/-- `BaseFlashAddrs`, as the next round finds it. -/
def UpdateState.nextBase (c : FwConfig) (u : UpdateState) : ℕ :=
  if u.yafu.fwUploadSelector = image2 then c.yafu.usedFlashSize else u.baseFlashAddrs

/-- `gStartFirmwareUpdation = 0` -/
def UpdateState.stop (u : UpdateState) : UpdateState := { u with yafu := { u.yafu with startFirmwareUpdation := false } }

/-- The address of the sector that a round takes. -/
def sectorAddr (c : FwConfig) (base eraseBlock : ℕ) : ℕ := (base + eraseBlock) / c.size % c.bankSectors * c.size

/-- The sector is erased and written. -/
def writeSector (c : FwConfig) (o : FlashOutcomes) (addr : ℕ) (u : UpdateState) : UpdateState :=
  let e := eraseLoop addr c.size o 3 u.flash
  if e.1 = 0 then { u with flash := e.2, retries := 0, resets := true }
  else
    let w := writeLoop addr c.size u.yafu.upload o 3 e.2
    if w.1 = 0 then { u with flash := w.2, retries := 0, resets := true }
    else { u.stop with flash := w.2, retries := w.1 }

/-- A round of the loop, after the commands. -/
def updateRound (c : FwConfig) (o : FlashOutcomes) (u : UpdateState) : UpdateState :=
  if !u.yafu.startFirmwareUpdation then u
  else
    let eraseBlock := u.yafu.eraseBlock.toNat
    let u := { u with baseFlashAddrs := u.nextBase c }
    if eraseBlock / c.size < c.flashSectors then
      let addr := sectorAddr c u.baseFlashAddrs eraseBlock
      if !o.read then { u with retries := u.retries - 1 }
      else
        let u := { u with yafu.temp := fun a => if a < c.size then u.flash (addr + a) else u.yafu.temp a }
        if slice u.flash addr c.size = slice u.yafu.upload 0 c.size then u.stop
        else writeSector c o addr u
    else if u.retries = 0 then { u with resets := true }
    else u.stop

/-! ## Commands and rounds -/

/-- A request: its header, with the checksum of its data, and the data. -/
def yafuRequest (x : YafuInputs) (seqnum command : ℕ) (data : List UInt8) : List UInt8 :=
  leBytes 4 seqnum ++ leBytes 2 command ++ leBytes 2 data.length ++ leBytes 4 (x.crc data).toNat ++ data

/-- The host writes to the upload area, erases and copies a sector, or selects an image, or the loop takes a round. What is behind
a request in its buffer is that of an earlier one. -/
inductive UpdateEvent
  | writeMemory (behind : ℕ → UInt8) (seqnum memoffset : ℕ) (width : UInt8) (data : List UInt8)
  | eraseCopy (behind : ℕ → UInt8) (seqnum memoffset flashoffset size : ℕ)
  | select (behind : ℕ → UInt8) (selector : UInt8)
  | round (o : FlashOutcomes)

namespace UpdateEvent

/-- A command is well formed: its data has a length that its header can tell and a place in the upload area, and its sector is one
of an image. -/
def WellFormed (c : FwConfig) : UpdateEvent → Prop
  | writeMemory _ _ memoffset _ data => data.length + 5 < 65536 ∧ memoffset + data.length ≤ c.yafu.uploadSize
  | eraseCopy _ _ memoffset flashoffset _ =>
    c.size ∣ flashoffset ∧ flashoffset < c.yafu.usedFlashSize ∧ memoffset + c.size ≤ c.yafu.uploadSize
  | select .. | round _ => True

/-- The commands change the global variables. -/
def command (c : YafuConfig) (x : YafuInputs) (s : YafuState) : UpdateEvent → YafuState
  | writeMemory behind seqnum memoffset width data =>
    (amiYafuWriteMemory x s (store behind 0 (yafuRequest x seqnum 0x31 (leBytes 4 memoffset ++ [width] ++ data)))).state
  | eraseCopy behind seqnum memoffset flashoffset size =>
    (amiYafuEraseCopyFlash x s (store behind 0
      (yafuRequest x seqnum 0x26 (leBytes 4 memoffset ++ leBytes 4 flashoffset ++ leBytes 4 size)))).state
  | select behind selector => (amiDualImageSupport c x s (store behind 0 [0x03, selector]) 2).state
  | round _ => s

end UpdateEvent

/-- What an erase-copy command is to do: the sectors that it names, one in each image that is selected, and their bytes. -/
structure Expected where
  sectors : List ℕ
  bytes : ℕ → UInt8

/-- The flash, when it is done. -/
def Expected.apply (size : ℕ) (flash : ℕ → UInt8) (e : Expected) : ℕ → UInt8 :=
  e.sectors.foldl (fun f addr => onSector addr size (fun a => e.bytes (a - addr)) f) flash

/-- The first addresses of the images that a selector stands for. The image that is not active is the second one. -/
def selectedBases (c : FwConfig) (selector : UInt8) : List ℕ :=
  if selector = image1 then [0]
  else if selector = image2 then [c.yafu.usedFlashSize]
  else if selector = imageBoth then [0, c.yafu.usedFlashSize]
  else [c.yafu.usedFlashSize]

/-- The state, and beside it what the host has uploaded for each offset, and the erase-copy commands that have not been processed. -/
structure UpdateRun where
  u : UpdateState
  uploaded : ℕ → UInt8
  pending : List Expected

/-- What the host has uploaded is in the upload area, and nothing is pending. -/
def UpdateRun.start (u : UpdateState) : UpdateRun := ⟨u, u.yafu.upload, []⟩

/-- An erase-copy command has been processed when the start flag is cleared, or the board resets. -/
def UpdateState.Processed (u : UpdateState) : Prop := u.yafu.startFirmwareUpdation = false ∨ u.resets = true

instance (u : UpdateState) : Decidable u.Processed := inferInstanceAs (Decidable (_ ∨ _))

/-- One step, as long as the board does not reset. -/
def updateStep (c : FwConfig) (x : YafuInputs) (r : UpdateRun) (e : UpdateEvent) : UpdateRun :=
  if r.u.resets then r
  else
    match e with
    | .round o =>
      let u := updateRound c o r.u
      ⟨u, r.uploaded, if u.Processed then [] else r.pending⟩
    | .writeMemory _ _ memoffset _ data =>
      ⟨{ r.u with yafu := e.command c.yafu x r.u.yafu }, store r.uploaded memoffset data, r.pending⟩
    | .eraseCopy _ _ memoffset flashoffset _ =>
      ⟨{ r.u with yafu := e.command c.yafu x r.u.yafu }, r.uploaded,
        r.pending ++ [⟨(selectedBases c r.u.yafu.fwUploadSelector).map (· + flashoffset),
          fun k => r.uploaded (memoffset + k)⟩]⟩
    | .select .. => { r with u.yafu := e.command c.yafu x r.u.yafu }

/-- What a step should do: a round that processes what is pending writes what has been uploaded where it has been asked, or the
status tells the failure; no other step changes the flash. -/
def UpdateKept (c : FwConfig) (x : YafuInputs) (r : UpdateRun) (e : UpdateEvent) : Prop :=
  if r.pending ≠ [] ∧ (updateStep c x r e).u.Processed then
    (updateStep c x r e).u.yafu.lastStatCode ≠ 0 ∨
      (updateStep c x r e).u.flash = r.pending.foldl (Expected.apply c.size) r.u.flash
  else (updateStep c x r e).u.flash = r.u.flash

/-- The sector is erased in one of the attempts. -/
def Erases (o : FlashOutcomes) : ℕ → Prop
  | 0 => False
  | retries + 1 => o.erase (retries + 1) = .ok ∨ Erases o retries

/-- The sector is written in one of the attempts, and each attempt that fails is followed by a good erasure. -/
def Writes (o : FlashOutcomes) : ℕ → Prop
  | 0 => False
  | retries + 1 => o.write (retries + 1) = .ok ∨ o.eraseAgain (retries + 1) = .ok ∧ Writes o retries

/-- The condition on a step: no command arrives while a sector waits to be processed; the data are meant for the next byte of the
upload area, the copy begins at its first one, the selected image is the one whose address the loop will use, with the sector in
the bank; and the attempts of the round lead to an erased and written sector. -/
def Steady (c : FwConfig) (r : UpdateRun) : UpdateEvent → Prop
  | .writeMemory _ _ memoffset _ _ =>
    r.u.yafu.startFirmwareUpdation = false ∧ r.u.yafu.newFirmwareAddr = some memoffset
  | .eraseCopy _ _ memoffset flashoffset _ =>
    r.u.yafu.startFirmwareUpdation = false ∧ memoffset = 0 ∧
      selectedBases c r.u.yafu.fwUploadSelector = [r.u.nextBase c] ∧ (r.u.nextBase c + flashoffset) / c.size < c.bankSectors
  | .select .. => r.u.yafu.startFirmwareUpdation = false
  | .round o => r.u.yafu.startFirmwareUpdation = true → o.read = true →
    slice r.u.flash (sectorAddr c (r.u.nextBase c) r.u.yafu.eraseBlock.toNat) c.size ≠ slice r.u.yafu.upload 0 c.size →
    Erases o 3 ∧ Writes o 3

/-! ## What the commands change -/

section Commands

variable {s : YafuState} {addr : ℕ} {data : List UInt8}

/-- The fields of a request. -/
theorem request_fields (x : YafuInputs) (behind : ℕ → UInt8) (seqnum command : ℕ) (hlen : data.length < 65536) :
    datalen (store behind 0 (yafuRequest x seqnum command data)) = data.length ∧
      field32 (store behind 0 (yafuRequest x seqnum command data)) 8 = x.crc data ∧
      slice (store behind 0 (yafuRequest x seqnum command data)) 12 data.length = data := by
  refine ⟨?_, ?_, ?_⟩
  · have h := slice_store_middle behind (leBytes 4 seqnum ++ leBytes 2 command) (leBytes 2 data.length)
      (leBytes 4 (x.crc data).toNat ++ data)
    rw [length_leBytes, List.length_append, length_leBytes, length_leBytes] at h
    rw [datalen, field16, yafuRequest, List.append_assoc _ _ data, h, leNat_leBytes]
    exact Nat.mod_eq_of_lt hlen
  · have h := slice_store_middle behind (leBytes 4 seqnum ++ leBytes 2 command ++ leBytes 2 data.length)
      (leBytes 4 (x.crc data).toNat) data
    simp only [length_leBytes, List.length_append] at h
    rw [field32, yafuRequest, h, leNat_leBytes, Nat.mod_eq_of_lt (show _ < 256 ^ 4 from (x.crc data).toNat_lt),
      UInt32.ofNat_toNat]
  · have h := slice_store_middle behind
      (leBytes 4 seqnum ++ leBytes 2 command ++ leBytes 2 data.length ++ leBytes 4 (x.crc data).toNat) data []
    simp only [length_leBytes, List.length_append, List.append_nil] at h
    exact h

theorem request_chksum (x : YafuInputs) (behind : ℕ → UInt8) (seqnum command : ℕ) (hlen : data.length < 65536) :
    chksumMatches x (store behind 0 (yafuRequest x seqnum command data))
      (datalen (store behind 0 (yafuRequest x seqnum command data))) = true := by
  obtain ⟨hdatalen, hcrc, hdata⟩ := request_fields x behind seqnum command hlen
  rw [chksumMatches, hdatalen, hcrc, hdata, decide_eq_true_iff]

/-- A byte of the data. -/
theorem request_byte (x : YafuInputs) (behind : ℕ → UInt8) (seqnum command : ℕ) (hlen : data.length < 65536) {j : ℕ}
    (hj : j < data.length) : store behind 0 (yafuRequest x seqnum command data) (12 + j) = data[j] := by
  have hdata := (request_fields x behind seqnum command hlen).2.2
  have hj' : j < (slice (store behind 0 (yafuRequest x seqnum command data)) 12 data.length).length := by
    rwa [length_slice]
  rw [← getElem_slice hj']
  simp only [hdata]

/-- A field of four bytes in the data. -/
theorem request_field (x : YafuInputs) (behind : ℕ → UInt8) (seqnum command : ℕ) (l : List UInt8) {l' : List UInt8}
    (l'' : List UInt8) (hl' : l'.length = 4) :
    field32 (store behind 0 (yafuRequest x seqnum command (l ++ l' ++ l''))) (12 + l.length) = UInt32.ofNat (leNat l') := by
  have h := slice_store_middle behind (leBytes 4 seqnum ++ leBytes 2 command ++ leBytes 2 (l ++ l' ++ l'').length ++
    leBytes 4 (x.crc (l ++ l' ++ l'')).toNat ++ l) l' l''
  have hl : (leBytes 4 seqnum ++ leBytes 2 command ++ leBytes 2 (l ++ l' ++ l'').length ++
      leBytes 4 (x.crc (l ++ l' ++ l'')).toNat ++ l).length = 12 + l.length := by
    simp only [List.length_append, length_leBytes]
  rw [hl, hl'] at h
  rw [field32, yafuRequest, ← List.append_assoc, ← List.append_assoc, h]

theorem sizeT_add (n : ℕ) {k : ℕ} (h : n < 2 ^ 32) : sizeT (n + k) k = n := by
  rw [sizeT, Nat.add_right_comm, Nat.add_sub_cancel, Nat.add_mod_right]
  exact Nat.mod_eq_of_lt h

/-- A write continues the upload. -/
theorem command_writeMemory (c : YafuConfig) (x : YafuInputs) (behind : ℕ → UInt8) (seqnum memoffset : ℕ) (width : UInt8)
    (hactive : s.activateFlashStatus = true)
    (haddr : s.newFirmwareAddr = some addr) (hlen : data.length + 5 < 65536) :
    (UpdateEvent.writeMemory behind seqnum memoffset width data).command c x s =
      { s with
        lastStatCode := 0
        upload := store s.upload addr data
        newFirmwareAddr := some (addr + data.length) } := by
  have hlength : (leBytes 4 memoffset ++ [width] ++ data).length = data.length + 5 := by simp; omega
  have hfields := request_fields x behind seqnum 0x31 (hlength ▸ hlen)
  have hsum := request_chksum x behind seqnum 0x31 (hlength ▸ hlen)
  have hsize : sizeT (data.length + 5) 5 = data.length := sizeT_add _ (by omega)
  have hupload : (fun a => if addr ≤ a ∧ a < addr + data.length then
      store behind 0 (yafuRequest x seqnum 0x31 (leBytes 4 memoffset ++ [width] ++ data)) (17 + (a - addr))
      else s.upload a) = store s.upload addr data := by
    funext a
    rcases Nat.lt_or_ge a addr with hlow | hlow
    · rw [store_apply_lt hlow, if_neg (by omega)]
    rcases Nat.lt_or_ge a (addr + data.length) with hhigh | hhigh
    · obtain ⟨k, rfl⟩ := Nat.exists_eq_add_of_le hlow
      have hk : k < data.length := by omega
      have hbyte := request_byte x behind seqnum 0x31 (hlength ▸ hlen) (j := 5 + k) (by omega)
      rw [if_pos ⟨hlow, hhigh⟩, store_apply_add hk, Nat.add_sub_cancel_left, show 17 + k = 12 + (5 + k) by omega, hbyte,
        List.getElem_append_right (by simp)]
      simp
    · rw [store_apply_ge hhigh, if_neg (by omega)]
  rw [UpdateEvent.command, amiYafuWriteMemory, whenActivated, if_pos hactive, whenChksum, if_pos hsum, haddr]
  simp only [hfields.1, hlength, hsize, Handling.after, yafuAnswer, YafuState.normal, hupload]

theorem command_eraseCopy (c : YafuConfig) (x : YafuInputs) (behind : ℕ → UInt8) (seqnum memoffset size : ℕ)
    {flashoffset : ℕ} (hactive : s.activateFlashStatus = true)
    (hoffset : flashoffset < 2 ^ 32) :
    (UpdateEvent.eraseCopy behind seqnum memoffset flashoffset size).command c x s =
      { s with
        lastStatCode := 0
        eraseBlock := UInt32.ofNat flashoffset
        sizeToErase := UInt32.ofNat (size % 2 ^ 32)
        newFirmwareAddr := some 0
        startFirmwareUpdation := true } := by
  have hlength : (leBytes 4 memoffset ++ leBytes 4 flashoffset ++ leBytes 4 size).length = 12 := by simp
  have hlen : (leBytes 4 memoffset ++ leBytes 4 flashoffset ++ leBytes 4 size).length < 65536 := by rw [hlength]; decide
  have hfields := request_fields x behind seqnum 0x26 hlen
  have hsum := request_chksum x behind seqnum 0x26 hlen
  have hflash : field32 (store behind 0 (yafuRequest x seqnum 0x26
      (leBytes 4 memoffset ++ leBytes 4 flashoffset ++ leBytes 4 size))) 16 = UInt32.ofNat flashoffset := by
    have h := request_field x behind seqnum 0x26 (leBytes 4 memoffset) (leBytes 4 size) (length_leBytes 4 flashoffset)
    rw [length_leBytes] at h
    rw [h, leNat_leBytes, Nat.mod_eq_of_lt (show flashoffset < 256 ^ 4 from hoffset)]
  have hcopy : field32 (store behind 0 (yafuRequest x seqnum 0x26
      (leBytes 4 memoffset ++ leBytes 4 flashoffset ++ leBytes 4 size))) 20 = UInt32.ofNat (size % 2 ^ 32) := by
    have h := request_field x behind seqnum 0x26 (leBytes 4 memoffset ++ leBytes 4 flashoffset) [] (length_leBytes 4 size)
    rw [List.append_nil, List.length_append, length_leBytes, length_leBytes] at h
    rw [h, leNat_leBytes]
    rfl
  rw [UpdateEvent.command, amiYafuEraseCopyFlash, whenActivated, if_pos hactive, whenChksum, if_pos hsum, whenDatalen,
    if_pos (hfields.1.trans hlength)]
  simp only [Handling.after, yafuAnswer, YafuState.normal, hflash, hcopy]

theorem command_select (c : YafuConfig) (x : YafuInputs) (s : YafuState) (behind : ℕ → UInt8) (selector : UInt8) :
    ∃ selector', (UpdateEvent.select behind selector).command c x s = { s with fwUploadSelector := selector' } := by
  have hparameter : store behind 0 [0x03, selector] 0 = 0x03 := by simp [store]
  rw [UpdateEvent.command, amiDualImageSupport, hparameter]
  change ∃ selector', (if 2 % 256 ≠ 2 then codeOnly s ccReqInvLen
    else if !c.dualImage then codeOnly s ccInvCmd else dualImageParameter c x s _ 3).state = _
  rw [if_neg (by decide)]
  split_ifs
  · exact ⟨s.fwUploadSelector, rfl⟩
  · change ∃ selector', (if isfwuploadSelectorValid _ then optionReply { s with fwUploadSelector := _ } _
      else codeOnly s yafuCCInvalidData).state = _
    split_ifs
    · exact ⟨_, rfl⟩
    · exact ⟨s.fwUploadSelector, rfl⟩

end Commands

/-! ## What a round changes -/

section Rounds

variable {addr size : ℕ} {flash : ℕ → UInt8} {o : FlashOutcomes}

theorem onSector_onSector (f g : ℕ → UInt8) : onSector addr size f (onSector addr size g flash) = onSector addr size f flash := by
  funext a
  simp only [onSector]
  split_ifs <;> rfl

theorem eraseLoop_of_erases (addr size n : ℕ) (flash : ℕ → UInt8) (h : Erases o n) :
    (eraseLoop addr size o n flash).1 ≠ 0 ∧ (eraseLoop addr size o n flash).2 = onSector addr size (fun _ => 0xFF) flash := by
  induction n generalizing flash with
  | zero => exact h.elim
  | succ n ih =>
    rw [eraseLoop]
    cases hr : o.erase (n + 1) with
    | ok => exact ⟨Nat.succ_ne_zero n, rfl⟩
    | failed left =>
      have hrest : Erases o n := h.resolve_left (by rw [hr]; nofun)
      obtain ⟨hne, hflash⟩ := ih (eraseSector addr size (.failed left) flash) hrest
      refine ⟨hne, hflash.trans ?_⟩
      rw [eraseSector, onSector_onSector]

/-- All bits are set before a byte is written. -/
theorem onSector_program (src : ℕ → UInt8) : onSector addr size (fun a => onSector addr size (fun _ => 0xFF) flash a &&& src (a - addr))
    (onSector addr size (fun _ => 0xFF) flash) = onSector addr size (fun a => src (a - addr)) flash := by
  funext a
  simp only [onSector]
  split_ifs
  · rw [UInt8.and_comm]
    exact UInt8.and_neg_one
  · rfl

theorem writeLoop_of_writes (addr size : ℕ) (src : ℕ → UInt8) (n : ℕ) (flash : ℕ → UInt8) (h : Writes o n) :
    (writeLoop addr size src o n (onSector addr size (fun _ => 0xFF) flash)).1 ≠ 0 ∧
      (writeLoop addr size src o n (onSector addr size (fun _ => 0xFF) flash)).2 =
        onSector addr size (fun a => src (a - addr)) flash := by
  induction n with
  | zero => exact h.elim
  | succ n ih =>
    rw [writeLoop]
    cases hr : o.write (n + 1) with
    | ok => exact ⟨Nat.succ_ne_zero n, onSector_program src⟩
    | failed left =>
      obtain ⟨hagain, hrest⟩ := h.resolve_left (by rw [hr]; nofun)
      have herased : eraseSector addr size (o.eraseAgain (n + 1))
          (onSector addr size left (onSector addr size (fun _ => 0xFF) flash)) =
          onSector addr size (fun _ => 0xFF) flash := by
        rw [hagain, eraseSector, onSector_onSector, onSector_onSector]
      dsimp only
      rw [herased]
      exact ih hrest

end Rounds

/-! ## Runs -/

section Runs

variable {c : FwConfig} {x : YafuInputs} {r : UpdateRun} {u : UpdateState} {e : UpdateEvent} {o : FlashOutcomes}

/-- The loop takes the sector that this address and this offset stand for. -/
structure Reaches (c : FwConfig) (base offset : ℕ) : Prop where
  flash : offset / c.size < c.flashSectors
  addr : sectorAddr c base offset = base + offset

theorem reaches_of_wellFormed {offset : ℕ} (hdvd : c.size ∣ offset) (hlt : offset < c.yafu.usedFlashSize)
    (hbases : selectedBases c r.u.yafu.fwUploadSelector = [r.u.nextBase c])
    (hbank : (r.u.nextBase c + offset) / c.size < c.bankSectors) : Reaches c (r.u.nextBase c) offset := by
  have hused : c.size ∣ c.yafu.usedFlashSize := Dvd.intro_left _ rfl
  have hbase : c.size ∣ r.u.nextBase c := by
    rw [selectedBases] at hbases
    split_ifs at hbases
    · exact List.singleton_inj.1 hbases ▸ dvd_zero _
    · exact List.singleton_inj.1 hbases ▸ hused
    · simp at hbases
    · exact List.singleton_inj.1 hbases ▸ hused
  constructor
  · have hblocks : offset / c.size < c.yafu.blocks := Nat.div_lt_of_lt_mul (by rwa [Nat.mul_comm])
    exact hblocks.trans_le c.blocks_le
  · rw [sectorAddr, Nat.mod_eq_of_lt hbank, Nat.div_mul_cancel (Nat.dvd_add hbase hdvd)]

/-- What holds between the steps: the upload area has what the host has uploaded, and what is pending is the sector that the next
round takes. -/
structure UpdateInv (c : FwConfig) (r : UpdateRun) : Prop where
  running : r.u.resets = false
  active : r.u.yafu.activateFlashStatus = true
  upload : r.uploaded = r.u.yafu.upload
  idle : r.u.yafu.startFirmwareUpdation = false → r.pending = []
  busy : r.u.yafu.startFirmwareUpdation = true → ∃ bytes : ℕ → UInt8,
    r.pending = [⟨[r.u.nextBase c + r.u.yafu.eraseBlock.toNat], bytes⟩] ∧ (∀ k, bytes k = r.u.yafu.upload k) ∧
      Reaches c (r.u.nextBase c) r.u.yafu.eraseBlock.toNat

/-- The commands leave the flash. -/
theorem updateKept_of_command (h : UpdateInv c r) (hflash : (updateStep c x r e).u.flash = r.u.flash)
    (hidle : r.u.yafu.startFirmwareUpdation = false) : UpdateKept c x r e := by
  rw [UpdateKept, if_neg fun hp => hp.1 (h.idle hidle)]
  exact hflash

/-- A round that writes the sector. -/
theorem writeSector_eq (u : UpdateState) (addr : ℕ) (herases : Erases o 3) (hwrites : Writes o 3) :
    ∃ retries, writeSector c o addr u =
      { u.stop with
        flash := onSector addr c.size (fun a => u.yafu.upload (a - addr)) u.flash
        retries := retries } := by
  obtain ⟨hne, herased⟩ := eraseLoop_of_erases addr c.size 3 u.flash herases
  obtain ⟨hne', hwritten⟩ := writeLoop_of_writes addr c.size u.yafu.upload 3 u.flash hwrites
  rw [← herased] at hne' hwritten
  unfold writeSector
  dsimp only
  rw [if_neg hne, if_neg hne', hwritten]
  exact ⟨_, rfl⟩

/-- The state in which a round reads the sector. -/
def roundState (c : FwConfig) (u : UpdateState) : UpdateState :=
  let u := { u with baseFlashAddrs := u.nextBase c }
  { u with yafu.temp := fun a =>
      if a < c.size then u.flash (sectorAddr c u.baseFlashAddrs u.yafu.eraseBlock.toNat + a) else u.yafu.temp a }

/-- A round that has something to do, in the cases of its outcomes. -/
theorem updateRound_cases (hstart : u.yafu.startFirmwareUpdation = true)
    (hreaches : Reaches c (u.nextBase c) u.yafu.eraseBlock.toNat)
    (hsteady : o.read = true → slice u.flash (sectorAddr c (u.nextBase c) u.yafu.eraseBlock.toNat) c.size ≠
      slice u.yafu.upload 0 c.size → Erases o 3 ∧ Writes o 3) :
    (o.read = false ∧ updateRound c o u = { u with baseFlashAddrs := u.nextBase c, retries := u.retries - 1 }) ∨
      (slice u.flash (u.nextBase c + u.yafu.eraseBlock.toNat) c.size = slice u.yafu.upload 0 c.size ∧
        updateRound c o u = (roundState c u).stop) ∨
      ∃ retries, updateRound c o u =
        { (roundState c u).stop with
          flash := onSector (u.nextBase c + u.yafu.eraseBlock.toNat) c.size
            (fun a => u.yafu.upload (a - (u.nextBase c + u.yafu.eraseBlock.toNat))) u.flash
          retries := retries } := by
  have haddr := hreaches.addr
  unfold updateRound
  dsimp only
  rw [if_neg (by simp [hstart]), if_pos hreaches.flash]
  cases hread : o.read with
  | false =>
    left
    rw [Bool.not_false, if_pos rfl]
    exact ⟨rfl, rfl⟩
  | true =>
    right
    rw [Bool.not_true, if_neg Bool.false_ne_true]
    split_ifs with hsame
    · left
      rw [haddr] at hsame
      exact ⟨hsame, rfl⟩
    · right
      obtain ⟨herases, hwrites⟩ := hsteady hread hsame
      obtain ⟨retries, hwritten⟩ := writeSector_eq (c := c) (roundState c u)
        (sectorAddr c (u.nextBase c) u.yafu.eraseBlock.toNat) herases hwrites
      refine ⟨retries, hwritten.trans ?_⟩
      rw [haddr]
      rfl

/-- The sector has the bytes already. -/
theorem onSector_of_slice {addr size : ℕ} {flash bytes : ℕ → UInt8} (h : slice flash addr size = slice bytes 0 size) :
    onSector addr size (fun a => bytes (a - addr)) flash = flash := by
  funext a
  rw [onSector]
  split_ifs with ha
  · obtain ⟨k, rfl⟩ := Nat.exists_eq_add_of_le ha.1
    have hk : k < size := by omega
    have hbyte := congrArg (·[k]?) h
    simp only [slice, List.getElem?_map, List.getElem?_range hk, Option.map_some, Option.some.injEq, Nat.zero_add] at hbyte
    rw [Nat.add_sub_cancel_left, hbyte]
  · rfl

/-- **A step of a steady run.** -/
theorem updateInv_step (h : UpdateInv c r) (hwell : e.WellFormed c) (hsteady : Steady c r e) :
    UpdateKept c x r e ∧ UpdateInv c (updateStep c x r e) := by
  have hrunning : ¬ r.u.resets = true := by simp [h.running]
  cases e with
  | writeMemory behind seqnum memoffset width data =>
    obtain ⟨hidle, haddr⟩ := hsteady
    have hstep : updateStep c x r (.writeMemory behind seqnum memoffset width data) =
        ⟨{ r.u with yafu := { r.u.yafu with
            lastStatCode := 0
            upload := store r.u.yafu.upload memoffset data
            newFirmwareAddr := some (memoffset + data.length) } }, store r.uploaded memoffset data, r.pending⟩ := by
      rw [updateStep, if_neg hrunning]
      dsimp only
      rw [command_writeMemory c.yafu x behind seqnum memoffset width h.active haddr hwell.1]
    refine ⟨updateKept_of_command h (by rw [hstep]) hidle, ?_⟩
    rw [hstep]
    exact ⟨h.running, h.active, congrArg (store · memoffset data) h.upload, fun _ => h.idle hidle,
      fun hbusy => absurd (hidle.symm.trans hbusy) Bool.false_ne_true⟩
  | eraseCopy behind seqnum memoffset flashoffset size =>
    obtain ⟨hidle, rfl, hbases, hbank⟩ := hsteady
    obtain ⟨hdvd, hlt, -⟩ := hwell
    have hoffset : flashoffset < 2 ^ 32 := hlt.trans c.yafu.size_lt
    have hstep : updateStep c x r (.eraseCopy behind seqnum 0 flashoffset size) =
        ⟨{ r.u with yafu := { r.u.yafu with
            lastStatCode := 0
            eraseBlock := UInt32.ofNat flashoffset
            sizeToErase := UInt32.ofNat (size % 2 ^ 32)
            newFirmwareAddr := some 0
            startFirmwareUpdation := true } }, r.uploaded,
          [⟨[r.u.nextBase c + flashoffset], fun k => r.uploaded (0 + k)⟩]⟩ := by
      rw [updateStep, if_neg hrunning]
      dsimp only
      rw [command_eraseCopy c.yafu x behind seqnum 0 size h.active hoffset, h.idle hidle, hbases]
      rfl
    refine ⟨updateKept_of_command h (by rw [hstep]) hidle, ?_⟩
    rw [hstep]
    have hblock : (UInt32.ofNat flashoffset).toNat = flashoffset := UInt32.toNat_ofNat_of_lt' hoffset
    refine ⟨h.running, h.active, h.upload, fun hidle' => absurd hidle'.symm Bool.false_ne_true, fun _ =>
      ⟨fun k => r.uploaded (0 + k), ?_, ?_, ?_⟩⟩
    · change [(⟨[r.u.nextBase c + flashoffset], _⟩ : Expected)] =
        [⟨[r.u.nextBase c + (UInt32.ofNat flashoffset).toNat], _⟩]
      rw [hblock]
    · intro k
      change r.uploaded (0 + k) = r.u.yafu.upload k
      rw [h.upload, Nat.zero_add]
    · change Reaches c (r.u.nextBase c) (UInt32.ofNat flashoffset).toNat
      rw [hblock]
      exact reaches_of_wellFormed hdvd hlt hbases hbank
  | select behind selector =>
    obtain ⟨selector', hcommand⟩ := command_select c.yafu x r.u.yafu behind selector
    have hstep : updateStep c x r (.select behind selector) =
        { r with u := { r.u with yafu := { r.u.yafu with fwUploadSelector := selector' } } } := by
      rw [updateStep, if_neg hrunning]
      dsimp only
      rw [hcommand]
    refine ⟨updateKept_of_command h (by rw [hstep]) hsteady, ?_⟩
    rw [hstep]
    exact ⟨h.running, h.active, h.upload, fun _ => h.idle hsteady,
      fun hbusy => absurd (Eq.trans (Eq.symm hsteady) hbusy) Bool.false_ne_true⟩
  | round o =>
    have hstep : updateStep c x r (.round o) =
        ⟨updateRound c o r.u, r.uploaded, if (updateRound c o r.u).Processed then [] else r.pending⟩ := by
      rw [updateStep, if_neg hrunning]
    rw [UpdateKept, hstep]
    cases hstart : r.u.yafu.startFirmwareUpdation with
    | false =>
      have hround : updateRound c o r.u = r.u := by rw [updateRound, if_pos (by simp [hstart])]
      rw [hround, h.idle hstart, ite_self]
      refine ⟨?_, h.running, h.active, h.upload, fun _ => rfl, fun hbusy => ?_⟩
      · rw [if_neg fun hp => hp.1 rfl]
      · exact absurd (hstart.symm.trans hbusy) Bool.false_ne_true
    | true =>
      obtain ⟨bytes, hpending, hbytes, hreaches⟩ := h.busy hstart
      obtain rfl : bytes = r.u.yafu.upload := funext hbytes
      rw [hpending]
      have hne : [(⟨[r.u.nextBase c + r.u.yafu.eraseBlock.toNat], r.u.yafu.upload⟩ : Expected)] ≠ [] := List.cons_ne_nil _ _
      rcases updateRound_cases hstart hreaches (hsteady hstart) with ⟨-, hround⟩ | ⟨hsame, hround⟩ | ⟨retries, hround⟩
      · -- the sector could not be read, and the next round tries again
        have hwaits : ¬ (updateRound c o r.u).Processed := by
          rw [hround, UpdateState.Processed]
          simp [hstart, h.running]
        have hbase : ({ r.u with baseFlashAddrs := r.u.nextBase c, retries := r.u.retries - 1 } : UpdateState).nextBase c =
            r.u.nextBase c := by
          simp only [UpdateState.nextBase]
          split_ifs <;> rfl
        rw [if_neg fun hp => hwaits hp.2, if_neg hwaits, hround]
        refine ⟨rfl, h.running, h.active, h.upload, fun hidle => ?_, fun _ => ⟨_, ?_, fun _ => rfl, ?_⟩⟩
        · exact absurd (hidle.symm.trans hstart) Bool.false_ne_true
        · rw [hbase]
        · rw [hbase]
          exact hreaches
      · have hdone : (updateRound c o r.u).Processed := by
          rw [hround]
          exact .inl rfl
        rw [if_pos ⟨hne, hdone⟩, if_pos hdone, hround]
        refine ⟨.inr (onSector_of_slice hsame).symm, h.running, h.active, h.upload, fun _ => rfl, fun hbusy => ?_⟩
        exact absurd hbusy Bool.false_ne_true
      · have hdone : (updateRound c o r.u).Processed := by
          rw [hround]
          exact .inl rfl
        rw [if_pos ⟨hne, hdone⟩, if_pos hdone, hround]
        exact ⟨.inr rfl, h.running, h.active, h.upload, fun _ => rfl, fun hbusy => absurd hbusy Bool.false_ne_true⟩

/-- The flash mode is activated, and no sector waits to be processed. -/
structure Ready (u : UpdateState) : Prop where
  active : u.yafu.activateFlashStatus = true
  idle : u.yafu.startFirmwareUpdation = false
  running : u.resets = false

end Runs

/-! ## Two images -/

/-- Two images of one sector of one byte. -/
def twoImages : FwConfig where
  yafu :=
    { eraseBlockSize := 1
      blocks := 1
      flashStart := 0
      uploadSize := 16
      tempSize := 1
      dualImage := true
      brokenSpiBanks := 0
      block_pos := Nat.one_pos
      blocks_lt := by decide
      size_lt := by decide }
  flashSectors := 2
  bankSectors := 2
  blocks_le := by decide

/-- Every operation succeeds. -/
def goodInputs : YafuInputs where
  crc := fun _ => 0
  strtoul := fun _ => 0
  flash := fun _ => 0xFF
  readOk := fun _ _ => true
  alloc := fun _ => true
  protectOff := true
  envSets := true
  envSaves := true
  envBlock := []
  moduleVersion := none

/-- The activated flash mode, an upload area of zeros and an empty flash. -/
def activatedState : UpdateState where
  yafu :=
    { activateFlashStatus := true
      lastStatCode := 0
      newFirmwareAddr := some 0
      eraseBlock := 0
      sizeToErase := 0
      startFirmwareUpdation := false
      reset := false
      fwUploadSelector := image1
      sessionID := 0
      sessionSeqNum := 0
      env := []
      upload := fun _ => 0
      temp := fun _ => 0 }
  baseFlashAddrs := 0
  retries := 0
  flash := fun _ => 0xFF
  resets := false

/-- The flash operations succeed. -/
def goodOutcomes : FlashOutcomes := ⟨true, fun _ => .ok, fun _ => .ok, fun _ => .ok⟩

/-- A byte is uploaded, and copied to the first image. -/
def uploadOne : List UpdateEvent :=
  [.writeMemory (fun _ => 0) 1 0 0 [7], .eraseCopy (fun _ => 0) 2 0 0 1, .round goodOutcomes]

/-- The second image is updated, and then the first one. -/
def bothImages : List UpdateEvent :=
  [.select (fun _ => 0) image2, .eraseCopy (fun _ => 0) 1 0 0 1, .round goodOutcomes,
    .select (fun _ => 0) image1, .eraseCopy (fun _ => 0) 2 0 0 1, .round goodOutcomes]

end BmcBoot
