import Bmc.Lib.Loop
import Bmc.Usb.Bot

/-!
# The memory of the mass-storage interface

The length of the data and the number of the logical unit are what the host says.

* `BotIf.AccessesOk`: every access so far was in bounds;
* `FitsMemory`: the condition on an event; `botStep_accessesOk_iff`: it is exact for one event;
* **`botRun_accessesOk_iff`**: it is exact for every sequence of events.
-/

namespace BmcUsb

open BmcLib

/-- Every byte lies in the data of the interface, every entry in its table. -/
def BotAccess.InBounds (tableSize : ℕ) : BotAccess → Prop
  | .scsiData pos n => ∀ i < n, pos + i < maxScsiData
  | .inquiry lun => lun.toNat < tableSize
  | .eventStatus lun => lun.toNat < tableSize

/-- All accesses so far were in bounds. -/
def BotIf.AccessesOk (m : BotIf) : Prop := ∀ a ∈ m.accesses, a.InBounds m.tableSize

/-- The command looks its logical unit up in a table. -/
def CommandBlockWrapper.UsesTable (cbw : CommandBlockWrapper) : Prop :=
  cbw.opCode = scsiReadFormatCapacities ∨
    (cbw.opCode = scsiInquiry ∨ cbw.opCode = scsiGetNotificationStatus) ∧ cbw.bmCBWFlags ≠ 0

instance (cbw : CommandBlockWrapper) : Decidable cbw.UsesTable := by
  unfold CommandBlockWrapper.UsesTable
  infer_instance

/-- The event keeps to the memory of the interface. -/
def FitsMemory (m : BotIf) : BotEvent → Prop
  | .packet bytes => m.scsiDataOutLen = 0 ∨ bytes = [] ∨
      m.scsiDataLen.toNat + bytes.length ≤ maxScsiData
  | .process => m.wakeupFlag = true → m.wrapper.UsesTable → m.wrapper.bCBWLUN.toNat < m.tableSize
  | .disconnect => True

instance (m : BotIf) (e : BotEvent) : Decidable (FitsMemory m e) := by
  unfold FitsMemory
  split <;> infer_instance

section Bounds

variable {m m' : BotIf} {as : List BotAccess} {e : BotEvent}

theorem BotFrame.accessesOk_iff (h : BotFrame as m m') :
    m'.AccessesOk ↔ m.AccessesOk ∧ ∀ a ∈ as, a.InBounds m.tableSize := by
  unfold BotIf.AccessesOk
  rw [h.accesses, h.tableSize, List.forall_mem_append]

/-- The table is used exactly by these commands. -/
theorem tableAccesses_inBounds_iff {cbw : CommandBlockWrapper} {n : ℕ} :
    (∀ a ∈ tableAccesses cbw, a.InBounds n) ↔ (cbw.UsesTable → cbw.bCBWLUN.toNat < n) := by
  unfold tableAccesses
  by_cases h1 : cbw.opCode = scsiInquiry
  · have hne : cbw.opCode ≠ scsiReadFormatCapacities := by rw [h1]; decide
    have huses : cbw.UsesTable ↔ cbw.bmCBWFlags ≠ 0 :=
      ⟨fun h => (h.resolve_left hne).2, fun h => .inr ⟨.inl h1, h⟩⟩
    rw [if_pos h1, huses]
    split_ifs with hf <;> simp [BotAccess.InBounds, hf]
  by_cases h2 : cbw.opCode = scsiGetNotificationStatus
  · have hne : cbw.opCode ≠ scsiReadFormatCapacities := by rw [h2]; decide
    have huses : cbw.UsesTable ↔ cbw.bmCBWFlags ≠ 0 :=
      ⟨fun h => (h.resolve_left hne).2, fun h => .inr ⟨.inr h2, h⟩⟩
    rw [if_neg h1, if_pos h2, huses]
    split_ifs with hf <;> simp [BotAccess.InBounds, hf]
  · have huses : cbw.UsesTable ↔ cbw.opCode = scsiReadFormatCapacities := by
      simp [CommandBlockWrapper.UsesTable, h1, h2]
    rw [if_neg h1, if_neg h2, huses]
    split_ifs with h3 <;> simp [BotAccess.InBounds, h3]

/-- What the reception of a wrapper leaves alone. -/
def SameTables (m m' : BotIf) : Prop := m'.accesses = m.accesses ∧ m'.tableSize = m.tableSize

theorem SameTables.trans {m'' : BotIf} (h : SameTables m m') (h' : SameTables m' m'') :
    SameTables m m'' := ⟨h'.1.trans h.1, h'.2.trans h.2⟩

theorem SameTables.accessesOk_iff (h : SameTables m m') : m'.AccessesOk ↔ m.AccessesOk := by
  unfold BotIf.AccessesOk
  rw [h.1, h.2]

theorem video_same (m : BotIf) (b : Bool) : SameTables m (m.video b) := by
  unfold BotIf.video
  split_ifs <;> exact ⟨rfl, rfl⟩

theorem botStart_same : SameTables m (botStart m) := by
  unfold botStart
  simp only
  split_ifs
  · exact video_same _ _
  · exact ⟨rfl, rfl⟩
  · exact ⟨rfl, rfl⟩
  · exact ⟨rfl, rfl⟩

theorem botReadCBW_same {packet : List UInt8} : SameTables m (botReadCBW m packet).2 := by
  unfold botReadCBW
  simp only
  split_ifs <;> exact ⟨rfl, rfl⟩

/-- The only bytes that a packet stores are those of the data of a command. -/
theorem botRxHandler_data {bytes : List UInt8} (h0 : m.scsiDataOutLen ≠ 0) (hb : ¬ bytes.length ≤ 0) :
    SameTables (m.access (.scsiData m.scsiDataLen.toNat bytes.length)) (botRxHandler m bytes) := by
  have hdata : SameTables (m.access (.scsiData m.scsiDataLen.toNat bytes.length))
      (botStoreData m bytes) := ⟨rfl, rfl⟩
  unfold botRxHandler
  rw [if_neg h0, if_neg hb]
  simp only
  split_ifs
  · exact (hdata.trans (video_same _ _)).trans ⟨rfl, rfl⟩
  · exact hdata

/-- **An event keeps to the memory exactly if it fits it.** -/
theorem botStep_accessesOk_iff (m : BotIf) (e : BotEvent) :
    (botStep m e).AccessesOk ↔ m.AccessesOk ∧ FitsMemory m e := by
  cases e with
  | packet bytes =>
    simp only [botStep, FitsMemory]
    by_cases h0 : m.scsiDataOutLen = 0
    · refine Iff.trans ?_ (and_iff_left (.inl h0)).symm
      unfold botRxHandler
      rw [if_pos h0]
      simp only
      split_ifs
      · exact botReadCBW_same.accessesOk_iff
      · exact (botReadCBW_same.trans botStart_same).accessesOk_iff
    by_cases hb : bytes.length ≤ 0
    · unfold botRxHandler
      rw [if_neg h0, if_pos hb]
      exact (and_iff_left (.inr (.inl (List.length_eq_zero_iff.mp (by omega))))).symm
    have hne : bytes ≠ [] := List.length_pos_iff.mp (by omega)
    have hin : (BotAccess.scsiData m.scsiDataLen.toNat bytes.length).InBounds m.tableSize ↔
        m.scsiDataLen.toNat + bytes.length ≤ maxScsiData := by
      constructor
      · intro h
        have := h (bytes.length - 1) (by omega)
        omega
      · intro h i hi
        omega
    rw [(botRxHandler_data h0 hb).accessesOk_iff, access_frame.accessesOk_iff,
      List.forall_mem_singleton, hin, or_iff_right h0, or_iff_right hne]
  | process =>
    simp only [botStep, processInterfaceHandler, FitsMemory]
    split_ifs with hw
    · rw [botProcessHandler_frame.accessesOk_iff, tableAccesses_inBounds_iff]
      simp only [hw, true_implies]
      exact Iff.rfl
    · simp [hw]
  | disconnect => exact (and_iff_left trivial).symm

end Bounds

/-- **The memory of the mass-storage interface.** For every sequence of packets, command runs and
disconnects, all accesses are in bounds if and only if every event fits the memory. -/
theorem botRun_accessesOk_iff (m : BotIf) (hm : m.accesses = []) (es : List BotEvent) :
    (es.foldl botStep m).AccessesOk ↔ AllSteps botStep FitsMemory m es := by
  have hstart : m.AccessesOk := by
    unfold BotIf.AccessesOk
    rw [hm]
    exact List.forall_mem_nil _
  rw [foldl_iff_allSteps (J := fun _ => True) (fun _ _ _ => trivial)
    (fun m e _ => botStep_accessesOk_iff m e) trivial]
  exact and_iff_right hstart

theorem botRun_accessesOk_iff_inquiry :
    ([.packet (cbwPacket 1 36 0x80 1 scsiInquiry), .process].foldl botStep massIf).AccessesOk :=
  (botRun_accessesOk_iff massIf rfl _).mpr (by decide +kernel)

/-- **The 129th packet of a long command is stored behind the data of the interface.** -/
theorem not_accessesOk_long_command :
    ¬ ((.packet (cbwPacket 1 0x21000 0x00 0 scsiWrite10) ::
      List.replicate 129 (.packet (List.replicate 1024 0))).foldl botStep massIf).AccessesOk := by
  have hmem : BotAccess.scsiData 131072 1024 ∈
      ((.packet (cbwPacket 1 0x21000 0x00 0 scsiWrite10) ::
        List.replicate 129 (.packet (List.replicate 1024 0))).foldl botStep massIf).accesses := by
    decide +kernel
  exact fun h => absurd (h _ hmem 0 (by decide)) (by decide)

end BmcUsb
