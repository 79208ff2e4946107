import UsbdUac2.Bench
import UsbdUac2.Encoding

/-!
# The range of sample rates

The answer to `GET RANGE` of the sampling frequency is a count and three words for
each rate that the device reports.  The encoder writes them to a shrinking slice
and adds up the lengths in a counter of its own.  A host that asks for two bytes
or less only gets the count.

The encoder yields the bytes of the list and their number, so what is sent is a
front part of these bytes, and the host reads the list back.
-/

namespace Uac2

open ByteWriter
open Frames (le16 le32 ofLe16 ofLe32)

/-! ## The bytes of a list of rates -/

namespace RangeEntry

/-- The three words of a rate. -/
def bytes (e : RangeEntry UInt32) : List UInt8 := le32 e.min ++ (le32 e.max ++ le32 e.res)

@[simp] theorem length_bytes (e : RangeEntry UInt32) : e.bytes.length = 12 := rfl

/-- The computed length is the number of bytes written. -/
theorem yields_write {σ ε : Type} [Write σ ε] [LawfulWrite σ ε] (e : RangeEntry UInt32) :
    Yields (e.write : WriteM σ ε Nat) e.bytes 12 := by
  have hres : Yields (do writeAll (le32 e.res); pure 12 : WriteM σ ε Nat) (le32 e.res) 12 := by
    have h := (emits_writeAll (σ := σ) (le32 e.res)).followed (yields_pure 12)
    rwa [List.append_nil] at h
  exact (emits_writeAll (le32 e.min)).followed ((emits_writeAll (le32 e.max)).followed hres)

end RangeEntry

/-- The words of the rates, in order. -/
def entryBytes (rates : List (RangeEntry UInt32)) : List UInt8 := rates.flatMap RangeEntry.bytes

/-- The whole answer: the count and the rates. -/
def rangeBytes (rates : List (RangeEntry UInt32)) : List UInt8 :=
  le16 (UInt16.ofNat rates.length) ++ entryBytes rates

theorem entryBytes_cons (e : RangeEntry UInt32) (rates : List (RangeEntry UInt32)) :
    entryBytes (e :: rates) = e.bytes ++ entryBytes rates := List.flatMap_cons

theorem length_entryBytes (rates : List (RangeEntry UInt32)) :
    (entryBytes rates).length = 12 * rates.length := by
  induction rates with
  | nil => rfl
  | cons e rates ih =>
      rw [entryBytes_cons, List.length_append, e.length_bytes, ih, List.length_cons]
      omega

theorem length_rangeBytes (rates : List (RangeEntry UInt32)) :
    (rangeBytes rates).length = 2 + 12 * rates.length := by
  rw [rangeBytes, List.length_append, length_entryBytes]
  rfl

/-! ## The encoder -/

section

variable {σ ε : Type} [Write σ ε] [LawfulWrite σ ε]

/-- The loop adds the bytes of the rates to its counter. -/
theorem yields_writeRates (rates : List (RangeEntry UInt32)) (written : Nat) :
    Yields (writeRates rates written : WriteM σ ε Nat) (entryBytes rates)
      (written + 12 * rates.length) := by
  induction rates generalizing written with
  | nil => exact yields_pure written
  | cons e rates ih =>
      have hrest := ih (written + 12)
      have hsum : written + 12 + 12 * rates.length = written + 12 * (e :: rates).length := by
        rw [List.length_cons]
        omega
      rw [hsum] at hrest
      rw [entryBytes_cons]
      exact e.yields_write.bind hrest

/-- What the closure of `get_clock_range` writes for a request length. -/
def requestedBytes (reqLen : UInt16) (rates : List (RangeEntry UInt32)) : List UInt8 :=
  if reqLen > 2 then rangeBytes rates else le16 (UInt16.ofNat rates.length)

/-- The closure returns the number of bytes it has written. -/
theorem yields_writeRange (reqLen : UInt16) (rates : List (RangeEntry UInt32)) :
    Yields (writeRange reqLen rates : WriteM σ ε Nat) (requestedBytes reqLen rates)
      (requestedBytes reqLen rates).length := by
  have hcount : Emits (writeU16 (UInt16.ofNat rates.length) : WriteM σ ε Unit)
      (le16 (UInt16.ofNat rates.length)) := emits_u16 _
  by_cases hlen : reqLen > 2
  · rw [requestedBytes, if_pos hlen, length_rangeBytes, rangeBytes]
    refine hcount.followed ?_
    rw [if_pos hlen]
    exact yields_writeRates rates 2
  · rw [requestedBytes, if_neg hlen]
    have hall := hcount.followed (yields_pure 2)
    rw [List.append_nil] at hall
    rw [writeRange]
    simp only [if_neg hlen]
    exact hall

end

/-- The closure of `accept` around a program that returns the number of bytes it
writes: they are sent up to the length of the request if all of them fit. -/
theorem acceptBuf_fillBuf {p : WriteM Slice SliceWriteError Nat} {bs : List UInt8}
    (hp : Yields p bs bs.length) (xfer : ControlIn) :
    xfer.acceptBuf (fillBuf p) =
      if bs.length ≤ xfer.buf.length then some (bs.take xfer.request.length.toNat) else none := by
  obtain ⟨hfits, hcut⟩ := hp ⟨[], xfer.buf⟩
  by_cases hroom : bs.length ≤ xfer.buf.length
  · have hfill : fillBuf p xfer.buf = (.ok bs.length, bs ++ xfer.buf.drop bs.length) := by
      rw [fillBuf, hfits hroom]
      rfl
    have hlen : bs.length ≤ (bs ++ xfer.buf.drop bs.length).length := by
      rw [List.length_append]
      exact Nat.le_add_right _ _
    rw [if_pos hroom, ControlIn.acceptBuf, hfill]
    simp only [if_pos hlen]
    rw [List.take_append_of_le_length (Nat.min_le_left _ _), Nat.min_comm, ← List.take_take,
      List.take_length]
  · obtain ⟨e, s', -, hrun⟩ := hcut hroom
    have hfill : fillBuf p xfer.buf = (.error .bufferOverflow, s'.filled ++ s'.rest) := by
      rw [fillBuf, hrun]
    rw [if_neg hroom, ControlIn.acceptBuf, hfill]

/-! ## What the host gets -/

/-- The front part of the answer that a request of some length gets. -/
def sentRange (reqLen : UInt16) (rates : List (RangeEntry UInt32)) : List UInt8 :=
  (rangeBytes rates).take (min reqLen.toNat (2 + 12 * rates.length))

theorem toNat_le_two {reqLen : UInt16} (h : ¬ reqLen > 2) : reqLen.toNat ≤ 2 :=
  Nat.le_of_not_lt fun hlt => h (UInt16.lt_iff_toNat_lt.mpr hlt)

theorem take_requestedBytes (reqLen : UInt16) (rates : List (RangeEntry UInt32)) :
    (requestedBytes reqLen rates).take reqLen.toNat = sentRange reqLen rates := by
  have hlen := length_rangeBytes rates
  by_cases h : reqLen > 2
  · rw [requestedBytes, if_pos h, sentRange, ← hlen, ← List.take_take, List.take_length]
  · have hle : reqLen.toNat ≤ 2 := toNat_le_two h
    have hmin : min reqLen.toNat (2 + 12 * rates.length) = reqLen.toNat :=
      Nat.min_eq_left (by omega)
    rw [requestedBytes, if_neg h, sentRange, hmin, rangeBytes,
      List.take_append_of_le_length hle]

/-- Read a count and drop it. -/
def readCount : List UInt8 → Option (Nat × List UInt8)
  | b0 :: b1 :: bs => some ((ofLe16 b0 b1).toNat, bs)
  | _ => none

/-- Read a word and drop it. -/
def readWord : List UInt8 → Option (UInt32 × List UInt8)
  | b0 :: b1 :: b2 :: b3 :: bs => some (ofLe32 b0 b1 b2 b3, bs)
  | _ => none

/-- Read so many rates. -/
def readEntries : Nat → List UInt8 → Option (List (RangeEntry UInt32))
  | 0, _ => some []
  | n + 1, bs => do
      let (min, bs) ← readWord bs
      let (max, bs) ← readWord bs
      let (res, bs) ← readWord bs
      let entries ← readEntries n bs
      return ⟨min, max, res⟩ :: entries

/-- Read the answer to a range request. -/
def readRange (bs : List UInt8) : Option (List (RangeEntry UInt32)) := do
  let (n, bs) ← readCount bs
  readEntries n bs

theorem readWord_le32 (v : UInt32) (bs : List UInt8) : readWord (le32 v ++ bs) = some (v, bs) :=
  congrArg (fun w => some (w, bs)) (Frames.ofLe32_le32 v)

theorem readEntries_entryBytes (rates : List (RangeEntry UInt32)) :
    readEntries rates.length (entryBytes rates) = some rates := by
  induction rates with
  | nil => rfl
  | cons e rates ih =>
      rw [entryBytes_cons, RangeEntry.bytes, List.append_assoc, List.append_assoc,
        List.length_cons, readEntries, readWord_le32]
      simp only [Option.bind_eq_bind, Option.bind_some]
      rw [readWord_le32]
      simp only [Option.bind_some]
      rw [readWord_le32]
      simp only [Option.bind_some, ih]
      rfl

theorem readCount_count {rates : List (RangeEntry UInt32)} (h : rates.length ≤ 65535)
    (bs : List UInt8) :
    readCount (le16 (UInt16.ofNat rates.length) ++ bs) = some (rates.length, bs) := by
  have hcount : (UInt16.ofNat rates.length).toNat = rates.length := by
    rw [UInt16.toNat_ofNat']
    exact Nat.mod_eq_of_lt (by omega)
  have hword := congrArg UInt16.toNat (Frames.ofLe16_le16 (UInt16.ofNat rates.length))
  rw [hcount] at hword
  exact congrArg (fun n => some (n, bs)) hword

/-- The host reads back the list. -/
theorem readRange_rangeBytes {rates : List (RangeEntry UInt32)} (h : rates.length ≤ 65535) :
    readRange (rangeBytes rates) = some rates := by
  rw [readRange, rangeBytes, readCount_count h]
  exact readEntries_entryBytes rates

/-- The bytes fit in the control buffer when the host only asks for the count, or when the
whole answer fits. -/
theorem length_requestedBytes_le_iff {reqLen : UInt16} {rates : List (RangeEntry UInt32)}
    {n : Nat} (hn : 2 ≤ n) : (requestedBytes reqLen rates).length ≤ n ↔
      reqLen.toNat ≤ 2 ∨ 2 + 12 * rates.length ≤ n := by
  by_cases h : reqLen > 2
  · have hlt : 2 < reqLen.toNat := UInt16.lt_iff_toNat_lt.mp h
    rw [requestedBytes, if_pos h, length_rangeBytes]
    omega
  · have hle : reqLen.toNat ≤ 2 := toNat_le_two h
    rw [requestedBytes, if_neg h]
    exact iff_of_true hn (Or.inl hle)

/-- The length that is returned is the number of bytes written. -/
theorem length_filled_writeRange {reqLen : UInt16} {rates : List (RangeEntry UInt32)}
    {buf : List UInt8} {len : Nat} {s : Slice}
    (hrun : writeRange reqLen rates (Slice.mk [] buf) = .ok len s) : s.filled.length = len := by
  obtain ⟨hfits, hcut⟩ := yields_writeRange (σ := Slice) reqLen rates ⟨[], buf⟩
  by_cases hroom : Fits (Slice.mk [] buf) (requestedBytes reqLen rates).length
  · cases hrun.symm.trans (hfits hroom)
    rfl
  · obtain ⟨e, s', -, herr⟩ := hcut hroom
    cases hrun.symm.trans herr

/-- A host that asks for two bytes reads the count. -/
theorem readCount_sentRange {reqLen : UInt16} {rates : List (RangeEntry UInt32)}
    (hn : rates.length ≤ 65535) (hlen : reqLen.toNat = 2) :
    readCount (sentRange reqLen rates) = some (rates.length, []) := by
  have hmin : min 2 (2 + 12 * rates.length) = 2 := Nat.min_eq_left (by omega)
  have htake : sentRange reqLen rates = le16 (UInt16.ofNat rates.length) ++ [] := by
    rw [sentRange, hlen, hmin]
    rfl
  rw [htake, readCount_count hn]

/-- A host that asks for all of it reads the list. -/
theorem readRange_sentRange {reqLen : UInt16} {rates : List (RangeEntry UInt32)}
    (hn : rates.length ≤ 65535) (hlen : 2 + 12 * rates.length ≤ reqLen.toNat) :
    readRange (sentRange reqLen rates) = some rates := by
  rw [sentRange, Nat.min_eq_right hlen, ← length_rangeBytes rates, List.take_length]
  exact readRange_rangeBytes hn

namespace World

variable {AU B : Type} [ClockSource AU]

/-- The answer to `GET RANGE` of the sampling frequency, the length that is returned for
it, and what the host reads from it. -/
theorem getClockRange_exact {w : World AU B} {rates : List (RangeEntry UInt32)}
    (hrates : ClockSource.sampleRates w.cls.audioImpl = .ok rates) (hn : rates.length ≤ 65535)
    {xfer : ControlIn} (hbuf : 2 ≤ xfer.buf.length) (channel : UInt8) {control : UInt8}
    (hcontrol : ClockSourceControlSelector.ofUInt8 control = .samFreqControl) :
    (w.getClockRange xfer channel control =
      if xfer.request.length.toNat ≤ 2 ∨ 2 + 12 * rates.length ≤ xfer.buf.length then
        (w.note .sampleRates).note (.answer (sentRange xfer.request.length rates))
      else w.note .sampleRates) ∧
    (∀ len s, writeRange xfer.request.length rates (Slice.mk [] xfer.buf) = .ok len s →
      s.filled.length = len) ∧
    (xfer.request.length.toNat = 2 →
      readCount (sentRange xfer.request.length rates) = some (rates.length, [])) ∧
    (2 + 12 * rates.length ≤ xfer.request.length.toNat →
      readRange (sentRange xfer.request.length rates) = some rates) := by
  refine ⟨?_, fun _ _ => length_filled_writeRange, readCount_sentRange hn,
    readRange_sentRange hn⟩
  have hnoted : ClockSource.sampleRates (w.note .sampleRates).cls.audioImpl = .ok rates := hrates
  simp only [getClockRange, hcontrol, hnoted]
  rw [acceptBuf_fillBuf (yields_writeRange _ rates), take_requestedBytes]
  by_cases hfit : xfer.request.length.toNat ≤ 2 ∨ 2 + 12 * rates.length ≤ xfer.buf.length
  · rw [if_pos hfit, if_pos ((length_requestedBytes_le_iff hbuf).mpr hfit)]
    rfl
  · rw [if_neg hfit, if_neg (mt (length_requestedBytes_le_iff hbuf).mp hfit)]
    rfl

/-- `GET RANGE` of the sampling frequency, at interface 0. -/
def getRange (length : UInt16) : ControlIn where
  request := ⟨.class, .interface, 2, 0x0100, 0x0100, length⟩
  buf := List.replicate 64 0

/-- The box has one rate, and a host that asks for 14 bytes gets it. -/
theorem getClockRange_exact_ioBox :
    (ioBoxStart.getClockRange (getRange 14) 0 1).log =
      [.sampleRates, .answer (sentRange 14 [.newFixed 48000])] ∧
    readRange (sentRange 14 [.newFixed 48000]) = some [.newFixed 48000] := by
  have hrates : ClockSource.sampleRates ioBoxStart.cls.audioImpl = .ok [.newFixed 48000] := rfl
  have hbuf : 2 ≤ (getRange 14).buf.length := by decide
  have hcontrol : ClockSourceControlSelector.ofUInt8 1 = .samFreqControl := rfl
  obtain ⟨hrun, -, -, hread⟩ := getClockRange_exact hrates (by decide) hbuf 0 hcontrol
  refine ⟨?_, hread (by decide)⟩
  rw [hrun]
  rfl

end World

end Uac2
