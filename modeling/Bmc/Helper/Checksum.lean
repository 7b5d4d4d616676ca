import Mathlib
import Bmc.Lib.Crc
import Bmc.Lib.Endian

/-!
# Checksums of buffers

`CalculateCRC32` of `crc32.c` and `fmhcore.c` and `CalculateCRC32C` of `crc32c.c` look a byte up in a table and combine what they
find there with the checksum so far.

* `IsTable`: a table holds what eight shifts make of a byte; `IsTable.run`: the checksum of a buffer is the class of its bits;
* **`calculateCRC32_remainder`**: it is the remainder of the buffer by the polynomial of Ethernet, however the buffer is cut;
* **`calculateCRC32_ne`**: the wrong bits that it detects; **`calculateCRC32_appended`**: a checksum in the buffer;
* **`calculateCRC32C_ne`**: the wrong bits that the other one detects.
-/

namespace BmcHelper

open Polynomial BmcLib

/-! ## The functions -/

/-- `CrcLookUpTable` of `crc32.h`. -/
def crcLookUpTable : List UInt32 := [
  0x00000000, 0x77073096, 0xEE0E612C, 0x990951BA, 0x076DC419, 0x706AF48F, 0xE963A535, 0x9E6495A3,
  0x0EDB8832, 0x79DCB8A4, 0xE0D5E91E, 0x97D2D988, 0x09B64C2B, 0x7EB17CBD, 0xE7B82D07, 0x90BF1D91,
  0x1DB71064, 0x6AB020F2, 0xF3B97148, 0x84BE41DE, 0x1ADAD47D, 0x6DDDE4EB, 0xF4D4B551, 0x83D385C7,
  0x136C9856, 0x646BA8C0, 0xFD62F97A, 0x8A65C9EC, 0x14015C4F, 0x63066CD9, 0xFA0F3D63, 0x8D080DF5,
  0x3B6E20C8, 0x4C69105E, 0xD56041E4, 0xA2677172, 0x3C03E4D1, 0x4B04D447, 0xD20D85FD, 0xA50AB56B,
  0x35B5A8FA, 0x42B2986C, 0xDBBBC9D6, 0xACBCF940, 0x32D86CE3, 0x45DF5C75, 0xDCD60DCF, 0xABD13D59,
  0x26D930AC, 0x51DE003A, 0xC8D75180, 0xBFD06116, 0x21B4F4B5, 0x56B3C423, 0xCFBA9599, 0xB8BDA50F,
  0x2802B89E, 0x5F058808, 0xC60CD9B2, 0xB10BE924, 0x2F6F7C87, 0x58684C11, 0xC1611DAB, 0xB6662D3D,
  0x76DC4190, 0x01DB7106, 0x98D220BC, 0xEFD5102A, 0x71B18589, 0x06B6B51F, 0x9FBFE4A5, 0xE8B8D433,
  0x7807C9A2, 0x0F00F934, 0x9609A88E, 0xE10E9818, 0x7F6A0DBB, 0x086D3D2D, 0x91646C97, 0xE6635C01,
  0x6B6B51F4, 0x1C6C6162, 0x856530D8, 0xF262004E, 0x6C0695ED, 0x1B01A57B, 0x8208F4C1, 0xF50FC457,
  0x65B0D9C6, 0x12B7E950, 0x8BBEB8EA, 0xFCB9887C, 0x62DD1DDF, 0x15DA2D49, 0x8CD37CF3, 0xFBD44C65,
  0x4DB26158, 0x3AB551CE, 0xA3BC0074, 0xD4BB30E2, 0x4ADFA541, 0x3DD895D7, 0xA4D1C46D, 0xD3D6F4FB,
  0x4369E96A, 0x346ED9FC, 0xAD678846, 0xDA60B8D0, 0x44042D73, 0x33031DE5, 0xAA0A4C5F, 0xDD0D7CC9,
  0x5005713C, 0x270241AA, 0xBE0B1010, 0xC90C2086, 0x5768B525, 0x206F85B3, 0xB966D409, 0xCE61E49F,
  0x5EDEF90E, 0x29D9C998, 0xB0D09822, 0xC7D7A8B4, 0x59B33D17, 0x2EB40D81, 0xB7BD5C3B, 0xC0BA6CAD,
  0xEDB88320, 0x9ABFB3B6, 0x03B6E20C, 0x74B1D29A, 0xEAD54739, 0x9DD277AF, 0x04DB2615, 0x73DC1683,
  0xE3630B12, 0x94643B84, 0x0D6D6A3E, 0x7A6A5AA8, 0xE40ECF0B, 0x9309FF9D, 0x0A00AE27, 0x7D079EB1,
  0xF00F9344, 0x8708A3D2, 0x1E01F268, 0x6906C2FE, 0xF762575D, 0x806567CB, 0x196C3671, 0x6E6B06E7,
  0xFED41B76, 0x89D32BE0, 0x10DA7A5A, 0x67DD4ACC, 0xF9B9DF6F, 0x8EBEEFF9, 0x17B7BE43, 0x60B08ED5,
  0xD6D6A3E8, 0xA1D1937E, 0x38D8C2C4, 0x4FDFF252, 0xD1BB67F1, 0xA6BC5767, 0x3FB506DD, 0x48B2364B,
  0xD80D2BDA, 0xAF0A1B4C, 0x36034AF6, 0x41047A60, 0xDF60EFC3, 0xA867DF55, 0x316E8EEF, 0x4669BE79,
  0xCB61B38C, 0xBC66831A, 0x256FD2A0, 0x5268E236, 0xCC0C7795, 0xBB0B4703, 0x220216B9, 0x5505262F,
  0xC5BA3BBE, 0xB2BD0B28, 0x2BB45A92, 0x5CB36A04, 0xC2D7FFA7, 0xB5D0CF31, 0x2CD99E8B, 0x5BDEAE1D,
  0x9B64C2B0, 0xEC63F226, 0x756AA39C, 0x026D930A, 0x9C0906A9, 0xEB0E363F, 0x72076785, 0x05005713,
  0x95BF4A82, 0xE2B87A14, 0x7BB12BAE, 0x0CB61B38, 0x92D28E9B, 0xE5D5BE0D, 0x7CDCEFB7, 0x0BDBDF21,
  0x86D3D2D4, 0xF1D4E242, 0x68DDB3F8, 0x1FDA836E, 0x81BE16CD, 0xF6B9265B, 0x6FB077E1, 0x18B74777,
  0x88085AE6, 0xFF0F6A70, 0x66063BCA, 0x11010B5C, 0x8F659EFF, 0xF862AE69, 0x616BFFD3, 0x166CCF45,
  0xA00AE278, 0xD70DD2EE, 0x4E048354, 0x3903B3C2, 0xA7672661, 0xD06016F7, 0x4969474D, 0x3E6E77DB,
  0xAED16A4A, 0xD9D65ADC, 0x40DF0B66, 0x37D83BF0, 0xA9BCAE53, 0xDEBB9EC5, 0x47B2CF7F, 0x30B5FFE9,
  0xBDBDF21C, 0xCABAC28A, 0x53B39330, 0x24B4A3A6, 0xBAD03605, 0xCDD70693, 0x54DE5729, 0x23D967BF,
  0xB3667A2E, 0xC4614AB8, 0x5D681B02, 0x2A6F2B94, 0xB40BBE37, 0xC30C8EA1, 0x5A05DF1B, 0x2D02EF8D]

/-- `BeginCRC32` -/
def beginCRC32 : UInt32 := 0xFFFFFFFF

/-- `DoCRC32`. An `unsigned long` of the controller has 32 bits. -/
def doCRC32 (crc32 : UInt32) (data : UInt8) : UInt32 :=
  (crc32 >>> 8) ^^^ crcLookUpTable.getD (data.toUInt32 ^^^ (crc32 &&& 0x000000FF)).toNat 0

/-- `EndCRC32` -/
def endCRC32 (crc32 : UInt32) : UInt32 := ~~~crc32

/-- `CalculateCRC32` -/
def calculateCRC32 (buffer : List UInt8) : UInt32 :=
  ~~~buffer.foldl
    (fun (crc32 : UInt32) b => (crc32 >>> 8) ^^^ crcLookUpTable.getD (b.toUInt32 ^^^ (crc32 &&& 0x000000FF)).toNat 0) 0xFFFFFFFF

/-- `Crc32cLookUpTable` of `crc32c.c`. -/
def crc32cLookUpTable : List UInt32 := [
  0x00000000, 0xF26B8303, 0xE13B70F7, 0x1350F3F4, 0xC79A971F, 0x35F1141C, 0x26A1E7E8, 0xD4CA64EB,
  0x8AD958CF, 0x78B2DBCC, 0x6BE22838, 0x9989AB3B, 0x4D43CFD0, 0xBF284CD3, 0xAC78BF27, 0x5E133C24,
  0x105EC76F, 0xE235446C, 0xF165B798, 0x030E349B, 0xD7C45070, 0x25AFD373, 0x36FF2087, 0xC494A384,
  0x9A879FA0, 0x68EC1CA3, 0x7BBCEF57, 0x89D76C54, 0x5D1D08BF, 0xAF768BBC, 0xBC267848, 0x4E4DFB4B,
  0x20BD8EDE, 0xD2D60DDD, 0xC186FE29, 0x33ED7D2A, 0xE72719C1, 0x154C9AC2, 0x061C6936, 0xF477EA35,
  0xAA64D611, 0x580F5512, 0x4B5FA6E6, 0xB93425E5, 0x6DFE410E, 0x9F95C20D, 0x8CC531F9, 0x7EAEB2FA,
  0x30E349B1, 0xC288CAB2, 0xD1D83946, 0x23B3BA45, 0xF779DEAE, 0x05125DAD, 0x1642AE59, 0xE4292D5A,
  0xBA3A117E, 0x4851927D, 0x5B016189, 0xA96AE28A, 0x7DA08661, 0x8FCB0562, 0x9C9BF696, 0x6EF07595,
  0x417B1DBC, 0xB3109EBF, 0xA0406D4B, 0x522BEE48, 0x86E18AA3, 0x748A09A0, 0x67DAFA54, 0x95B17957,
  0xCBA24573, 0x39C9C670, 0x2A993584, 0xD8F2B687, 0x0C38D26C, 0xFE53516F, 0xED03A29B, 0x1F682198,
  0x5125DAD3, 0xA34E59D0, 0xB01EAA24, 0x42752927, 0x96BF4DCC, 0x64D4CECF, 0x77843D3B, 0x85EFBE38,
  0xDBFC821C, 0x2997011F, 0x3AC7F2EB, 0xC8AC71E8, 0x1C661503, 0xEE0D9600, 0xFD5D65F4, 0x0F36E6F7,
  0x61C69362, 0x93AD1061, 0x80FDE395, 0x72966096, 0xA65C047D, 0x5437877E, 0x4767748A, 0xB50CF789,
  0xEB1FCBAD, 0x197448AE, 0x0A24BB5A, 0xF84F3859, 0x2C855CB2, 0xDEEEDFB1, 0xCDBE2C45, 0x3FD5AF46,
  0x7198540D, 0x83F3D70E, 0x90A324FA, 0x62C8A7F9, 0xB602C312, 0x44694011, 0x5739B3E5, 0xA55230E6,
  0xFB410CC2, 0x092A8FC1, 0x1A7A7C35, 0xE811FF36, 0x3CDB9BDD, 0xCEB018DE, 0xDDE0EB2A, 0x2F8B6829,
  0x82F63B78, 0x709DB87B, 0x63CD4B8F, 0x91A6C88C, 0x456CAC67, 0xB7072F64, 0xA457DC90, 0x563C5F93,
  0x082F63B7, 0xFA44E0B4, 0xE9141340, 0x1B7F9043, 0xCFB5F4A8, 0x3DDE77AB, 0x2E8E845F, 0xDCE5075C,
  0x92A8FC17, 0x60C37F14, 0x73938CE0, 0x81F80FE3, 0x55326B08, 0xA759E80B, 0xB4091BFF, 0x466298FC,
  0x1871A4D8, 0xEA1A27DB, 0xF94AD42F, 0x0B21572C, 0xDFEB33C7, 0x2D80B0C4, 0x3ED04330, 0xCCBBC033,
  0xA24BB5A6, 0x502036A5, 0x4370C551, 0xB11B4652, 0x65D122B9, 0x97BAA1BA, 0x84EA524E, 0x7681D14D,
  0x2892ED69, 0xDAF96E6A, 0xC9A99D9E, 0x3BC21E9D, 0xEF087A76, 0x1D63F975, 0x0E330A81, 0xFC588982,
  0xB21572C9, 0x407EF1CA, 0x532E023E, 0xA145813D, 0x758FE5D6, 0x87E466D5, 0x94B49521, 0x66DF1622,
  0x38CC2A06, 0xCAA7A905, 0xD9F75AF1, 0x2B9CD9F2, 0xFF56BD19, 0x0D3D3E1A, 0x1E6DCDEE, 0xEC064EED,
  0xC38D26C4, 0x31E6A5C7, 0x22B65633, 0xD0DDD530, 0x0417B1DB, 0xF67C32D8, 0xE52CC12C, 0x1747422F,
  0x49547E0B, 0xBB3FFD08, 0xA86F0EFC, 0x5A048DFF, 0x8ECEE914, 0x7CA56A17, 0x6FF599E3, 0x9D9E1AE0,
  0xD3D3E1AB, 0x21B862A8, 0x32E8915C, 0xC083125F, 0x144976B4, 0xE622F5B7, 0xF5720643, 0x07198540,
  0x590AB964, 0xAB613A67, 0xB831C993, 0x4A5A4A90, 0x9E902E7B, 0x6CFBAD78, 0x7FAB5E8C, 0x8DC0DD8F,
  0xE330A81A, 0x115B2B19, 0x020BD8ED, 0xF0605BEE, 0x24AA3F05, 0xD6C1BC06, 0xC5914FF2, 0x37FACCF1,
  0x69E9F0D5, 0x9B8273D6, 0x88D28022, 0x7AB90321, 0xAE7367CA, 0x5C18E4C9, 0x4F48173D, 0xBD23943E,
  0xF36E6F75, 0x0105EC76, 0x12551F82, 0xE03E9C81, 0x34F4F86A, 0xC69F7B69, 0xD5CF889D, 0x27A40B9E,
  0x79B737BA, 0x8BDCB4B9, 0x988C474D, 0x6AE7C44E, 0xBE2DA0A5, 0x4C4623A6, 0x5F16D052, 0xAD7D5351]

/-- `CalculateCRC32C` -/
def calculateCRC32C (buffer : List UInt8) : UInt32 :=
  buffer.foldl
    (fun (crc : UInt32) b => (crc >>> 8) ^^^ crc32cLookUpTable.getD ((crc ^^^ b.toUInt32) &&& 0xFF).toNat 0) 0xffffffff ^^^
      0xffffffff

/-! ## The tables -/

/-- The bits of a buffer, each byte from its lowest bit on. -/
def lowFirst (buffer : List UInt8) : List Bool := buffer.flatMap fun b => lsbFirst b.toBitVec

/-- The table has what eight shifts make of each byte. -/
def IsTable (low : BitVec 32) (table : List UInt32) : Prop :=
  table.map UInt32.toBitVec = (List.range 256).map fun i => (shiftDown low)^[8] (BitVec.ofNat 32 i)

theorem lookUpTables_isTable : IsTable 0xEDB88320#32 crcLookUpTable ∧ IsTable 0x82F63B78#32 crc32cLookUpTable := by
  rw [IsTable, IsTable]
  decide +kernel

/-- The entry of a byte in a list of words made from the bytes. -/
theorem getD_of_map_eq {α β : Type*} {table : List α} {g : α → β} {f : ℕ → β} (h : table.map g = (List.range 256).map f) {i : ℕ}
    (hi : i < 256) (a : α) : g (table.getD i a) = f i := by
  have hlen : i < table.length := by
    rw [← List.length_map, h, List.length_map, List.length_range]
    exact hi
  have hget := congrArg (fun l : List β => l[i]?) h
  simp only [List.getElem?_map, List.getElem?_range hi, List.getElem?_eq_getElem hlen, Option.map_some, Option.some.injEq] at hget
  rw [List.getD_eq_getElem _ _ hlen, hget]

theorem length_lowFirst (buffer : List UInt8) : (lowFirst buffer).length = 8 * buffer.length := by
  induction buffer with
  | nil => rfl
  | cons d buffer ih =>
    rw [lowFirst, List.flatMap_cons, ← lowFirst, List.length_append, length_lsbFirst, ih, List.length_cons]
    ring

/-- Bits tell buffers of one size apart. -/
theorem lowFirst_ne {a b : List UInt8} (h : a.length = b.length) (hne : a ≠ b) : lowFirst a ≠ lowFirst b := by
  refine fun heq => hne ?_
  induction a generalizing b with
  | nil => exact (List.eq_nil_of_length_eq_zero h.symm).symm
  | cons x a ih =>
    obtain ⟨y, b, rfl, hlen⟩ := exists_cons_of_length_eq h
    rw [lowFirst, lowFirst, List.flatMap_cons, List.flatMap_cons] at heq
    obtain ⟨hhead, htail⟩ := List.append_inj heq (by rw [length_lsbFirst, length_lsbFirst])
    obtain rfl := UInt8.toBitVec_inj.1 (lsbFirst_injective hhead)
    rw [ih hlen (fun h => hne (by rw [h])) htail]

section Reflected

variable {low : BitVec 32} {table : List UInt32} {f : UInt32 → UInt8 → UInt32} {c : UInt32} {a b : List UInt8}

/-- The function adds a byte to a word and shifts it in. -/
def Feeds (low : BitVec 32) (f : UInt32 → UInt8 → UInt32) : Prop :=
  ∀ c d, (f c d).toBitVec = (shiftDown low)^[8] (c.toBitVec ^^^ d.toUInt32.toBitVec)

theorem getLsbD_byte (d : UInt8) (i : ℕ) : d.toUInt32.toBitVec.getLsbD i = (decide (i < 8) && d.toBitVec.getLsbD i) := by
  rw [UInt8.toBitVec_toUInt32, BitVec.getLsbD_setWidth]
  rcases Nat.lt_or_ge i 8 with hi | hi
  · rw [decide_eq_true (show i < 32 by omega), decide_eq_true hi]
  · rw [BitVec.getLsbD_of_ge _ i hi, Bool.and_false, Bool.and_false]

theorem getLsbD_mask (i : ℕ) : (255#32).getLsbD i = decide (i < 8 ∧ i < 32) := by
  rcases Nat.lt_or_ge i 32 with hi | hi
  · revert i
    decide
  · rw [BitVec.getLsbD_of_ge _ _ hi, decide_eq_false (by omega)]

/-- The index of a table is the lowest byte of the word with the new byte added, before or after the others are taken away. -/
theorem index_eq (c : UInt32) (d : UInt8) : d.toUInt32 ^^^ (c &&& 0xFF) = (c ^^^ d.toUInt32) &&& 0xFF := by
  rw [← UInt32.toBitVec_inj, UInt32.toBitVec_xor, UInt32.toBitVec_and, UInt32.toBitVec_and, UInt32.toBitVec_xor,
    show (255 : UInt32).toBitVec = 255#32 from rfl]
  refine BitVec.eq_of_getLsbD_eq fun i hi => ?_
  rw [BitVec.getLsbD_xor, BitVec.getLsbD_and, BitVec.getLsbD_and, BitVec.getLsbD_xor, getLsbD_byte, getLsbD_mask]
  by_cases h8 : i < 8 <;> simp [h8, hi, Bool.xor_comm]

/-- A table shifts the bits that leave a word. -/
theorem IsTable.feeds (h : IsTable low table) :
    Feeds low fun c d => (c >>> 8) ^^^ table.getD (d.toUInt32 ^^^ (c &&& 0xFF)).toNat 0 := by
  intro c d
  have hindex : (d.toUInt32 ^^^ (c &&& 0xFF)).toNat < 256 := by
    rw [UInt32.toNat_xor, UInt32.toNat_and]
    exact Nat.xor_lt_two_pow (n := 8) (d.toNat_lt) (Nat.and_lt_two_pow _ (by decide))
  have hlow : BitVec.ofNat 32 (d.toUInt32 ^^^ (c &&& 0xFF)).toNat = (c.toBitVec ^^^ d.toUInt32.toBitVec) &&& 255#32 := by
    rw [← UInt32.toNat_toBitVec, BitVec.ofNat_toNat, BitVec.setWidth_eq, index_eq]
    rfl
  have hhigh : (c.toBitVec ^^^ d.toUInt32.toBitVec) >>> 8 = (c >>> 8).toBitVec := by
    refine BitVec.eq_of_getLsbD_eq fun i hi => ?_
    rw [show (c >>> 8).toBitVec = c.toBitVec >>> 8 from rfl, BitVec.getLsbD_ushiftRight, BitVec.getLsbD_ushiftRight,
      BitVec.getLsbD_xor, getLsbD_byte, decide_eq_false (show ¬ 8 + i < 8 by omega), Bool.false_and, Bool.xor_false]
  rw [UInt32.toBitVec_xor, getD_of_map_eq h hindex, hlow, ← hhigh]
  exact (shiftDown_iterate_split low _ getLsbD_mask).symm

theorem Feeds.value (h : Feeds low f) (d : UInt8) :
    (reflected (n := 31) low).value (f c d).toBitVec =
      crcClass _ ((reflected (n := 31) low).value c.toBitVec) (lsbFirst d.toBitVec) := by
  have hd : (reflected (n := 31) low).bits d.toUInt32.toBitVec = lsbFirst d.toBitVec ++ List.replicate 24 false :=
    lsbFirst_setWidth d.toBitVec 24
  have hfeed := (reflected (n := 31) low).value_feed hd c.toBitVec
  rw [length_lsbFirst] at hfeed
  rw [h c d]
  exact hfeed

/-- A buffer leads to the class of its bits. -/
theorem Feeds.run (h : Feeds low f) (c : UInt32) (buffer : List UInt8) :
    (reflected (n := 31) low).value (buffer.foldl f c).toBitVec =
      crcClass _ ((reflected (n := 31) low).value c.toBitVec) (lowFirst buffer) := by
  induction buffer generalizing c with
  | nil => exact (crcClass_nil _).symm
  | cons d buffer ih => rw [List.foldl_cons, ih, h.value, lowFirst, lowFirst, List.flatMap_cons, crcClass_append]

/-- A word read from bytes, the lowest first, has the bits of the bytes. -/
theorem lowFirst_eq (bytes : List UInt8) : lowFirst bytes = (List.range (8 * bytes.length)).map (leNat bytes).testBit := by
  induction bytes with
  | nil => rfl
  | cons d bytes ih =>
    have hbit : ∀ i, (leNat (d :: bytes)).testBit i =
        if i < 8 then d.toNat.testBit i else (leNat bytes).testBit (i - 8) := fun i => by
      rw [leNat_cons, Nat.add_comm]
      exact Nat.testBit_two_pow_mul_add (i := 8) (leNat bytes) d.toNat_lt i
    rw [lowFirst, List.flatMap_cons, ← lowFirst, ih, List.length_cons, Nat.mul_succ, Nat.add_comm (8 * bytes.length) 8,
      List.range_add, List.map_append, List.map_map]
    congr 1
    · refine List.map_congr_left fun i hi => ?_
      rw [hbit, if_pos (List.mem_range.1 hi)]
      rfl
    · refine List.map_congr_left fun i _ => ?_
      rw [Function.comp_apply, hbit, if_neg (by omega), Nat.add_sub_cancel_left]

/-- Buffers of one size with different classes have different words. -/
theorem Feeds.foldl_ne (h : Feeds low f)
    (hne : ∀ v, crcClass (generator (lsbFirst low)) v (lowFirst a) ≠ crcClass (generator (lsbFirst low)) v (lowFirst b)) :
    a.foldl f c ≠ b.foldl f c := fun heq => by
  have hvalue := congrArg (fun x : UInt32 => (reflected (n := 31) low).value x.toBitVec) heq
  simp only [h.run] at hvalue
  exact hne _ hvalue

end Reflected

/-! ## The checksum of Ethernet -/

/-- The polynomial of Ethernet. -/
noncomputable def crc32Polynomial : (ZMod 2)[X] :=
  X ^ 32 + X ^ 26 + X ^ 23 + X ^ 22 + X ^ 16 + X ^ 12 + X ^ 11 + X ^ 10 + X ^ 8 + X ^ 7 + X ^ 5 + X ^ 4 + X ^ 2 + X + 1

/-- Words with the highest power of a remainder by the polynomial in the lowest bit. -/
def crc32Register : Register (generator (lsbFirst 0xEDB88320#32)) 32 := reflected (n := 31) 0xEDB88320#32

/-- What the shifts of the two polynomials make of one and of a word of ones: one comes back after all words but zero for the first
polynomial, and after half of them for the second. -/
theorem registers_eval :
    crc32Register.powRoot 0x80000000#32 32 (2 ^ 32 - 1) = 0x80000000#32 ∧
      (∀ p ∈ [3, 5, 17, 257, 65537], crc32Register.powRoot 0x80000000#32 32 ((2 ^ 32 - 1) / p) ≠ 0x80000000#32) ∧
      (0xDEBB20E3 : UInt32).toBitVec = crc32Register.shift^[32] 0xFFFFFFFF#32 ∧
      (reflected (n := 31) 0x82F63B78#32).powRoot 0x80000000#32 31 (2 ^ 31 - 1) = 0x80000000#32 ∧
      (reflected (n := 31) 0x82F63B78#32).powRoot 0x80000000#32 31 ((2 ^ 31 - 1) / (2 ^ 31 - 1)) ≠ 0x80000000#32 := by
  decide +kernel

theorem generator_crc32 : generator (lsbFirst 0xEDB88320#32) = crc32Polynomial := by
  have hbits : lsbFirst 0xEDB88320#32 = [
      false, false, false, false, false, true, false, false, true, true, false, false, false, false, false, true,
      false, false, false, true, true, true, false, true, true, false, true, true, false, true, true, true] := rfl
  rw [generator, hbits, crc32Polynomial]
  simp [bitsPoly]
  ring

theorem crc32_order : IsUnit (AdjoinRoot.root (generator (lsbFirst 0xEDB88320#32))) ∧
    orderOf (AdjoinRoot.root (generator (lsbFirst 0xEDB88320#32))) = 2 ^ 32 - 1 := by
  have hone : crc32Register.value 0x80000000#32 = 1 := crc32Register.value_one (k := 31) rfl
  refine crc32Register.orderOf_root hone (k := 32) (by norm_num) (by norm_num) registers_eval.1 fun p hp hdvd => ?_
  rw [show 2 ^ 32 - 1 = 3 * 5 * 17 * 257 * 65537 by norm_num] at hdvd
  have hcases : p = 3 ∨ p = 5 ∨ p = 17 ∨ p = 257 ∨ p = 65537 := by
    have heq : ∀ q : ℕ, q.Prime → p ∣ q → p = q := fun q hq h => (Nat.prime_dvd_prime_iff_eq hp hq).1 h
    rcases hp.dvd_mul.1 hdvd with hdvd | hdvd
    · rcases hp.dvd_mul.1 hdvd with hdvd | hdvd
      · rcases hp.dvd_mul.1 hdvd with hdvd | hdvd
        · rcases hp.dvd_mul.1 hdvd with hdvd | hdvd
          · exact .inl (heq 3 (by norm_num) hdvd)
          · exact .inr (.inl (heq 5 (by norm_num) hdvd))
        · exact .inr (.inr (.inl (heq 17 (by norm_num) hdvd)))
      · exact .inr (.inr (.inr (.inl (heq 257 (by norm_num) hdvd))))
    · exact .inr (.inr (.inr (.inr (heq 65537 (by norm_num) hdvd))))
  exact registers_eval.2.1 p (by simpa using hcases)

theorem doCRC32_feeds : Feeds 0xEDB88320#32 doCRC32 := lookUpTables_isTable.1.feeds

theorem calculateCRC32_eq (buffer : List UInt8) : calculateCRC32 buffer = ~~~buffer.foldl doCRC32 beginCRC32 := rfl

/-- **The checksum is a remainder.** However a buffer is cut into pieces for `DoCRC32`, the checksum of the pieces is that of the
whole. Its complement is the remainder by the polynomial of Ethernet of the bits of the buffer in front of 32 zeros, with the
first 32 of them inverted. -/
theorem calculateCRC32_remainder (pieces : List (List UInt8)) :
    endCRC32 (pieces.foldl (List.foldl doCRC32) beginCRC32) = calculateCRC32 pieces.flatten ∧
      bitsPoly (lsbFirst (~~~calculateCRC32 pieces.flatten).toBitVec) =
        (bitsPoly (List.replicate 32 true) * X ^ (8 * pieces.flatten.length) + bitsPoly (lowFirst pieces.flatten) * X ^ 32) %ₘ
          crc32Polynomial := by
  refine ⟨by rw [← List.foldl_flatten, calculateCRC32_eq, endCRC32], ?_⟩
  have hones : lsbFirst beginCRC32.toBitVec = List.replicate 32 true := rfl
  rw [calculateCRC32_eq, UInt32.not_not, ← generator_crc32]
  refine crc32Register.bitsPoly_bits ((doCRC32_feeds.run beginCRC32 pieces.flatten).trans ?_)
  rw [crcClass, natDegree_generator, length_lsbFirst, length_lowFirst, ← hones, map_add, map_mul, map_mul, map_pow, map_pow,
    AdjoinRoot.mk_X]
  rfl

/-- **Detection.** Two buffers of one size have different checksums if they differ in a burst of up to 32 bits, and if they are
smaller than 512 MB and differ in two bits. -/
theorem calculateCRC32_ne {a b : List UInt8} (h : a.length = b.length) (hne : a ≠ b)
    (hfew : IsBurst 32 (lowFirst a) (lowFirst b) ∨ (differing (lowFirst a) (lowFirst b)).card = 2 ∧ a.length < 2 ^ 29) :
    calculateCRC32 a ≠ calculateCRC32 b := by
  obtain ⟨hx, horder⟩ := crc32_order
  have hlen : (lowFirst a).length = (lowFirst b).length := by rw [length_lowFirst, length_lowFirst, h]
  rw [calculateCRC32_eq, calculateCRC32_eq, Ne, UInt32.not_inj]
  refine doCRC32_feeds.foldl_ne fun v => ?_
  rcases hfew with hburst | ⟨hpair, hsize⟩
  · exact crcClass_ne_of_burst (monic_generator _) hx hlen (lowFirst_ne h hne) (by rwa [natDegree_generator, length_lsbFirst])
  · exact crcClass_ne_of_pair hx hlen hpair (by rw [horder, length_lowFirst]; omega)

/-- A burst in the first byte, and a pair of wrong bits. -/
theorem calculateCRC32_ne_zeros :
    calculateCRC32 [0, 0, 0] ≠ calculateCRC32 [0x7e, 0, 0] ∧ calculateCRC32 [0, 0, 0] ≠ calculateCRC32 [1, 0, 0x80] :=
  ⟨calculateCRC32_ne rfl (by decide) (.inl ⟨0, by decide⟩), calculateCRC32_ne rfl (by decide) (.inr ⟨by decide, by decide⟩)⟩

/-- **A checksum in a buffer.** A buffer with four bytes behind has the checksum `0x2144DF1C` if and only if the four bytes are
the checksum of the buffer, the lowest byte first. -/
theorem calculateCRC32_appended (buffer : List UInt8) (d₀ d₁ d₂ d₃ : UInt8) :
    calculateCRC32 (buffer ++ [d₀, d₁, d₂, d₃]) = 0x2144DF1C ↔ leNat [d₀, d₁, d₂, d₃] = (calculateCRC32 buffer).toNat := by
  obtain ⟨hx, -⟩ := crc32_order
  generalize hc : buffer.foldl doCRC32 beginCRC32 = c
  generalize hds : [d₀, d₁, d₂, d₃] = ds
  have hlen : ds.length = 4 := by rw [← hds]; rfl
  have hsize : leNat ds < 2 ^ 32 := (leNat_lt ds).trans_eq (by rw [hlen]; rfl)
  have hbits : crc32Register.bits (BitVec.ofNat 32 (leNat ds)) = lowFirst ds ++ List.replicate 0 false := by
    rw [List.replicate_zero, List.append_nil, lowFirst_eq, hlen]
    refine List.map_congr_left fun i hi => ?_
    rw [BitVec.getLsbD_ofNat, decide_eq_true (List.mem_range.1 hi), Bool.true_and]
  -- the four bytes are added to the word and shifted out together
  have hword : (ds.foldl doCRC32 c).toBitVec = crc32Register.shift^[32] (c.toBitVec ^^^ BitVec.ofNat 32 (leNat ds)) := by
    have hfeed := crc32Register.value_feed hbits c.toBitVec
    rw [length_lowFirst, hlen] at hfeed
    exact crc32Register.value_injective hx ((doCRC32_feeds.run c ds).trans hfeed.symm)
  have hresidue : (0xDEBB20E3 : UInt32).toBitVec = crc32Register.shift^[32] 0xFFFFFFFF#32 := registers_eval.2.2.1
  calc calculateCRC32 (buffer ++ ds) = 0x2144DF1C ↔ (ds.foldl doCRC32 c).toBitVec = (0xDEBB20E3 : UInt32).toBitVec := by
        rw [calculateCRC32_eq, List.foldl_append, hc, UInt32.toBitVec_inj, ← UInt32.not_inj, UInt32.not_not]
        rfl
    _ ↔ c.toBitVec ^^^ BitVec.ofNat 32 (leNat ds) = 0xFFFFFFFF#32 := by
        rw [hword, hresidue, (crc32Register.shift_iterate_injective hx 32).eq_iff]
    _ ↔ BitVec.ofNat 32 (leNat ds) = (~~~c).toBitVec := by
        rw [UInt32.toBitVec_not, ← BitVec.xor_allOnes]
        constructor
        · intro h
          rw [show BitVec.allOnes 32 = 0xFFFFFFFF#32 from rfl, ← h, ← BitVec.xor_assoc, BitVec.xor_self, BitVec.zero_xor]
        · intro h
          rw [h, ← BitVec.xor_assoc, BitVec.xor_self, BitVec.zero_xor]
          rfl
    _ ↔ leNat ds = (calculateCRC32 buffer).toNat := by
        rw [calculateCRC32_eq, hc, ← BitVec.toNat_inj, BitVec.toNat_ofNat, Nat.mod_eq_of_lt hsize]
        rfl

/-! ## The other checksum -/
theorem crc32c_order : IsUnit (AdjoinRoot.root (generator (lsbFirst 0x82F63B78#32))) ∧
    orderOf (AdjoinRoot.root (generator (lsbFirst 0x82F63B78#32))) = 2 ^ 31 - 1 := by
  have hone : (reflected (n := 31) 0x82F63B78#32).value 0x80000000#32 = 1 := Register.value_one _ (k := 31) rfl
  refine Register.orderOf_root _ hone (k := 31) (by norm_num) (by norm_num) registers_eval.2.2.2.1 fun p hp hdvd => ?_
  have hprime : (2 ^ 31 - 1).Prime := lucas_lehmer_sufficiency 31 (by norm_num) (by norm_num)
  obtain rfl := (Nat.prime_dvd_prime_iff_eq hp hprime).1 hdvd
  exact registers_eval.2.2.2.2

theorem crc32c_feeds : Feeds 0x82F63B78#32 fun crc b =>
    (crc >>> 8) ^^^ crc32cLookUpTable.getD ((crc ^^^ b.toUInt32) &&& 0xFF).toNat 0 := by
  simp only [← index_eq]
  exact lookUpTables_isTable.2.feeds

/-- **Detection by `CalculateCRC32C`.** Two buffers of one size have different checksums if they differ in a burst of up to 32
bits or in an odd number of bits, and if they are smaller than 256 MB and differ in up to three bits. -/
theorem calculateCRC32C_ne {a b : List UInt8} (h : a.length = b.length) (hne : a ≠ b)
    (hfew : IsBurst 32 (lowFirst a) (lowFirst b) ∨ Odd (differing (lowFirst a) (lowFirst b)).card ∨
      (differing (lowFirst a) (lowFirst b)).card ≤ 3 ∧ a.length < 2 ^ 28) :
    calculateCRC32C a ≠ calculateCRC32C b := by
  obtain ⟨hx, horder⟩ := crc32c_order
  have hlen : (lowFirst a).length = (lowFirst b).length := by rw [length_lowFirst, length_lowFirst, h]
  have hone : (generator (lsbFirst 0x82F63B78#32)).eval 1 = 0 := by
    rw [eval_one_generator, show (lsbFirst 0x82F63B78#32).count true = 17 from rfl]
    rfl
  rw [calculateCRC32C, calculateCRC32C, Ne, UInt32.xor_left_inj]
  refine crc32c_feeds.foldl_ne fun v => ?_
  rcases hfew with hburst | hodd | ⟨hthree, hsize⟩
  · exact crcClass_ne_of_burst (monic_generator _) hx hlen (lowFirst_ne h hne) (by rwa [natDegree_generator, length_lsbFirst])
  · exact crcClass_ne_of_odd hone hx hlen hodd
  · exact crcClass_ne_of_three hone hx hlen (lowFirst_ne h hne) hthree (by rw [horder, length_lowFirst]; omega)

/-- A burst, three wrong bits, and five. -/
theorem calculateCRC32C_ne_zeros : calculateCRC32C [0, 0] ≠ calculateCRC32C [0xff, 0xff] ∧
    calculateCRC32C [0, 0, 0, 0, 0] ≠ calculateCRC32C [3, 0, 0, 0, 0x80] ∧
    calculateCRC32C [0, 0, 0, 0, 0] ≠ calculateCRC32C [7, 0, 0, 0, 0x90] :=
  ⟨calculateCRC32C_ne rfl (by decide) (.inl ⟨0, by decide⟩),
    calculateCRC32C_ne rfl (by decide) (.inr (.inr ⟨by decide, by decide⟩)),
    calculateCRC32C_ne rfl (by decide) (.inr (.inl (by decide)))⟩

end BmcHelper
