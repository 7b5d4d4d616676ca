import Bmc.Lib.Run
import Bmc.Gpio.ProcessNodes
import Bmc.Gpio.Lists
import Bmc.Gpio.Processes

/-!
# The counts of registered pins

**`balanced_of_careful`**: the counts are balanced in every state of a run of careful calls.
-/

namespace BmcGpio

open BmcLib

variable {s : Gpio} {b : Book}

/-- **Steps.** A careful call keeps what the driver and the book agree on. -/
theorem agrees_step (h : Agrees (s, b)) {c : Call} (hc : Careful s c) : Agrees (bookStep (s, b) c) := by
  cases c with
  | registerSensorInts infos a => exact agrees_registerSensorInts h hc
  | unregisterSensorInts hwOk => exact agrees_unregisterSensorInts h hc
  | registerChassisInts infos a => exact agrees_registerChassisInts h hc
  | unregisterChassisInts hwOk => exact agrees_unregisterChassisInts h hc
  | intRegister pid comm info a => exact agrees_intRegister h hc
  | intUnregister pid p copy hwOk => exact agrees_intUnregister h pid p copy hwOk
  | release pid hwOk => exact agrees_release h hc

theorem agrees_start : Agrees (Gpio.start, Book.empty) where
  balanced := ⟨fun _ => rfl, fun _ => iff_of_false Bool.false_ne_true (lt_irrefl 0), rfl⟩
  sensors := holds_zero .null
  chassis := holds_zero .null
  nodes pid p := by
    refine iff_of_false List.not_mem_nil ?_
    rintro ⟨n, hn, -⟩
    cases hn
  nodup := List.nodup_nil
  single := List.Pairwise.nil

/-- **The counts are balanced in every state of a run of careful calls.** -/
theorem balanced_of_careful {calls : List Call}
    (h : AllSteps bookStep (fun sb c => Careful sb.1 c) (Gpio.start, Book.empty) calls) :
    Always bookStep Balanced (Gpio.start, Book.empty) calls := by
  have hagrees : Always bookStep Agrees (Gpio.start, Book.empty) calls :=
    always_of_allSteps (fun sb c hs hc => agrees_step (s := sb.1) (b := sb.2) hs hc) agrees_start h
  exact hagrees.mono fun _ hs => hs.balanced

/-- All calls of a registration succeed. -/
def RegisterAnswers.allOk : RegisterAnswers := { alloc := true, copy := true, left := [], hw := true }

/-- A sensor, and a pin of a process that closes the device. -/
theorem balanced_sample : Always bookStep Balanced (Gpio.start, Book.empty)
    [.registerSensorInts [sensorSample 1] .allOk,
      .intRegister 7 ⟨[0x61, 0x62], by decide⟩ (sensorSample 2) { copy := true, hw := true, alloc := true },
      .release 7 fun _ => true,
      .unregisterSensorInts fun _ => true] := by
  refine balanced_of_careful ⟨⟨rfl, .inr ⟨rfl, rfl, rfl, by decide, fun p => ?_⟩⟩,
    fun _ _ => ⟨fun _ => ⟨by decide, ?_⟩, ?_⟩, ⟨by decide, fun _ _ _ _ _ _ => rfl⟩, ⟨by decide, fun _ _ _ _ _ _ => rfl⟩, trivial⟩
  · change 0 + (pinsOf [sensorSample 1]).count p < 256
    have hle : (pinsOf [sensorSample 1]).count p ≤ 1 := List.count_le_length
    omega
  · intro n hn
    cases hn
  · exact fun _ _ => .inr ⟨rfl, by decide⟩

/-- **The pins of chassis interrupts are not counted, but those of sensors.** -/
theorem not_balanced_chassis : ¬ Always bookStep Balanced (Gpio.start, Book.empty)
    [.registerSensorInts [sensorSample 1] .allOk, .registerChassisInts [sensorSample 2] .allOk] := by
  intro h
  exact absurd (h.foldl.counts 2) (by decide)

end BmcGpio
