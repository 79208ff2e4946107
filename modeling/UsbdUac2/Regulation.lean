import UsbdUac2.ConsumedBytes
import UsbdUac2.RateControl

/-!
# The rate and the ring

The handler computes the rate from two counts.  It loads the count of the bytes that were
produced, and then calls `consumed_bytes`, while the channel goes on reading.  `seen_fill`
says which fill of the ring it sees: the one of the moment that `consumed_bytes` returns,
with a slot in it that was sent and whose interrupt was still pending.

`rate_opposes_fill` puts the parts together: the rate that is sent to the host moves
against this fill.
-/

namespace Uac2

open Runs (Run Transition)
open DmaAudio (Regulating Opposes)
open DmaRing (boardRing)
open Reading (Looked InTime)

namespace Playback

/-- The bytes that the ring took and the channel has not sent. -/
def fill {N maxSlotBytes : Nat} (s : Playback N maxSlotBytes) : Nat :=
  s.received.length - s.sent.length

/-! ## The ring of the example -/

variable {ring : DmaRing 8 384} {s₀ s : Playback 8 384}
  {ts : List (Transition (Playback 8 384) PlaybackEvent)}
  {us : List (Transition (Reading 8 384) ReadingEvent)}

/-- The slots of the example are short enough for the count of a descriptor. -/
theorem count_fits (ring : DmaRing 8 384) : ring.slotBytes < 1024 * ring.wordBytes := by
  have hle := ring.slotBytes_le
  have hpos : 1 ≤ ring.wordBytes := by
    rcases List.mem_cons.mp ring.wordBytes_mem with h | h
    · exact h.ge
    · simp only [List.mem_cons, List.not_mem_nil, or_false] at h
      omega
  omega

/-- The fill of a counted ring, with a slot whose interrupt is pending, is what was received
and not yet acknowledged, and is no more than the ring. -/
theorem Counted.fill_le (h : Counted ring s) (hsmall : s.received.length < UInt32.size) :
    s.sent.length ≤ s.received.length ∧ s.inta.toNat * ring.slotBytes ≤ s.sent.length ∧
      s.fill + s.inta.toNat * ring.slotBytes ≤ 3072 := by
  have hbound : UInt32.size ≤ UInt32.size * ring.slotBytes :=
    Nat.le_mul_of_pos_right _ ring.slotBytes_pos
  obtain ⟨P, hP⟩ := h.counted (hsmall.trans_le hbound)
  have hlen := hP.length_le
  rw [h.inv.slotBytes] at hlen
  have hroom : (8 - s.ring.safetyGap) * ring.slotBytes ≤ 8 * 384 :=
    Nat.mul_le_mul (Nat.sub_le _ _) ring.slotBytes_le
  have hposition : s.sent.length = position ring s := by
    rw [h.sent_eq, List.length_take, Nat.min_eq_left h.behind]
  have hpending : s.inta.toNat * ring.slotBytes ≤ s.read * ring.slotBytes :=
    Nat.mul_le_mul_right _ h.pending
  have hserved : served s * ring.slotBytes = s.read * ring.slotBytes -
      s.inta.toNat * ring.slotBytes := by rw [served, Nat.sub_mul]
  have hsent : s.sent.length ≤ s.received.length := hposition ▸ h.behind
  rw [position] at hposition
  exact ⟨hsent, by omega, by rw [fill]; omega⟩

/-- The two counts give the fill of the moment that `consumed_bytes` returns. -/
theorem seen_fill (ha : ring.Aligned) (hr : Run Step (start ring) ts s₀)
    (hts : ∀ t ∈ ts, Timely ring t ∧ Prompt t) (hidle : s₀.task = .idle)
    (hrun : s₀.running = true) (hsmall : s₀.received.length < UInt32.size) {v : UInt32}
    (hr' : Run Reading.Step ⟨s₀, .top⟩ us ⟨s, .done v⟩) (hus : ∀ t ∈ us, InTime ring t) :
    ∃ m, Looked us m ∧ Regulating s₀.running s₀.ring.producedBytes v ∧
      s₀.ring.producedBytes.toNat - v.toNat = m.fill + m.inta.toNat * ring.slotBytes ∧
      m.fill + m.inta.toNat * ring.slotBytes ≤ 3072 := by
  have h₀ := inv_run hr
  have hcounted₀ := counted_run ha hr hts
  obtain ⟨m, hm, hv⟩ := Reading.snapshot_run hr' rfl
  obtain ⟨hinv, hreceived⟩ := Reading.inv_looked h₀ hr' hm
  have hcounted := Reading.counted_looked ha hcounted₀ hr' hus hm
  have hlt : m.received.length < UInt32.size := hreceived ▸ hsmall
  have hbound : UInt32.size ≤ UInt32.size * ring.slotBytes :=
    Nat.le_mul_of_pos_right _ ring.slotBytes_pos
  obtain ⟨hsent, hpending, hfill⟩ := hcounted.fill_le hlt
  rw [Reading.bytesAt_reg hinv ha (count_fits ring),
    Reading.sent_eq_of_counted hcounted (hlt.trans_le hbound)] at hv
  have hv' : v.toNat = m.sent.length - m.inta.toNat * ring.slotBytes := by
    rw [hv]
    exact UInt32.toNat_ofNat_of_lt' (by omega)
  have hproduced : s₀.ring.producedBytes.toNat = s₀.received.length := by
    have hcount := h₀.producedBytes
    rw [hidle] at hcount
    have hzero : s₀.ring.producedBytes = UInt32.ofNat s₀.received.length := by
      rw [← hcount]
      exact (UInt32.add_zero _).symm
    rw [hzero]
    exact UInt32.toNat_ofNat_of_lt' hsmall
  refine ⟨m, hm, ⟨hrun, ?_, ?_⟩, ?_, hfill⟩
  · rw [UInt32.le_iff_toNat_le, hv', hproduced, ← hreceived]
    omega
  · intro h0
    have hhalf := h₀.running hrun
    have hpos := ring.slotBytes_pos
    rw [h0] at hproduced
    have hnil : (0 : UInt32).toNat = 0 := rfl
    omega
  · rw [hv', hproduced, ← hreceived, fill]
    omega

end Playback

end Uac2
