import UsbdUac2.Sizes
import UsbdUac2.AcBlock

/-!
# Encoding into a bounded buffer

Some encoders write their channel map and their sources with a short `write` and
throw its count away.  The bytes behind such a field make up for it: a cut
leaves the buffer full, and the next byte fails.  Every encoder emits its bytes
on any lawful writer, so it does on a cursor what it does on an unbounded writer,
or it reports an overflow.
-/

namespace Uac2

open ByteWriter
open Descriptors (AudioClassInterfaceDescriptor)

/-- What an encoder of the bytes `bs` does with a buffer from the position `pos`
on. -/
structure EncodesAt (p : WriteM Cursor CursorError Unit) (bs buf : List UInt8) (pos : Nat) :
    Prop where
  /-- It succeeds when the bytes fit, and only then. -/
  ok_iff : (∃ c, p ⟨buf, pos⟩ = .ok () c) ↔ bs.length ≤ buf.length - pos
  /-- On success the bytes are at the position and all others are as before. -/
  stored : ∀ c, p ⟨buf, pos⟩ = .ok () c →
    c.inner = buf.take pos ++ bs ++ buf.drop (pos + bs.length) ∧ c.pos = pos + bs.length
  /-- It does not panic, and its only error is an overflow. -/
  overflow : ∀ e c, p ⟨buf, pos⟩ = .error e c → e = .err ⟨.bufferOverflow⟩

/-- The encoder stores what it gives an unbounded writer, in any buffer from any
position inside it, or reports an overflow. -/
def NeverTruncates (p : {σ ε : Type} → [Write σ ε] → WriteM σ ε Unit) : Prop :=
  ∃ bs : List UInt8, p (Sink.mk []) = .ok () ⟨bs⟩ ∧
    ∀ (buf : List UInt8) (pos : Nat), pos ≤ buf.length → EncodesAt p bs buf pos

/-- A program that emits bytes on a cursor encodes them. -/
theorem Emits.encodesAt {p : WriteM Cursor CursorError Unit} {bs : List UInt8}
    (hp : Emits p bs) (buf : List UInt8) (pos : Nat) : EncodesAt p bs buf pos := by
  obtain ⟨hfits, hcut⟩ := hp ⟨buf, pos⟩
  by_cases hroom : bs.length ≤ buf.length - pos
  · have hrun := hfits hroom
    refine ⟨⟨fun _ => hroom, fun _ => ⟨_, hrun⟩⟩, fun c h => ?_, fun e c h => ?_⟩
    · rw [hrun] at h
      cases h
      exact ⟨rfl, rfl⟩
    · rw [hrun] at h
      cases h
  · obtain ⟨e', c', hfull, hrun⟩ := hcut hroom
    refine ⟨⟨fun h => ?_, fun h => absurd h hroom⟩, fun c h => ?_, fun e c h => ?_⟩
    · obtain ⟨c, h⟩ := h
      rw [hrun] at h
      cases h
    · rw [hrun] at h
      cases h
    · rw [hrun] at h
      cases h
      exact congrArg Fault.err hfull

/-- A program that emits bytes on every lawful writer never truncates. -/
theorem Emits.neverTruncates {p : {σ ε : Type} → [Write σ ε] → WriteM σ ε Unit}
    {bs : List UInt8}
    (hp : ∀ {σ ε : Type} [Write σ ε] [LawfulWrite σ ε], Emits (p : WriteM σ ε Unit) bs) :
    NeverTruncates p := by
  refine ⟨bs, ?_, fun buf pos _ => Emits.encodesAt hp buf pos⟩
  have hrun := (hp (σ := Sink)).run (s := ⟨[]⟩) (Sink.fits _ _)
  rwa [Sink.accept_eq, List.nil_append] at hrun

namespace AnyDescriptor

/-- `Descriptor::write` of the value inside. -/
def write {σ ε : Type} [Write σ ε] (v : AnyDescriptor) : WriteM σ ε Unit :=
  v.elim fun d => Descriptor.write d

/-- `write_payload` of the value inside. -/
def writePayload {σ ε : Type} [Write σ ε] (v : AnyDescriptor) : WriteM σ ε Unit :=
  v.elim fun d => Descriptor.writePayload d

section

variable {σ ε : Type} [Write σ ε] [LawfulWrite σ ε] {v : AnyDescriptor}

theorem emits_writePayload (hv : v.Valid) :
    Emits (v.writePayload : WriteM σ ε Unit) (v.elim fun d => Encoded.payload d) := by
  cases v with
  | clockSource d => exact Encoded.emits d hv
  | inputTerminal d => exact Encoded.emits d hv
  | outputTerminal d => exact Encoded.emits d hv
  | terminal d => exact Encoded.emits d hv
  | clockSelector d => exact Encoded.emits d hv
  | clockMultiplier d => exact Encoded.emits d hv
  | selectorUnit d => exact Encoded.emits d hv
  | processingUnit d => exact Encoded.emits d hv
  | extensionUnit d => exact Encoded.emits d hv
  | formatType1 d => exact Encoded.emits d hv
  | audioStreamingInterface d => exact Encoded.emits d hv
  | audioStreamingEndpoint d => exact Encoded.emits d hv

theorem emits_write (hv : v.Valid) :
    Emits (v.write : WriteM σ ε Unit) (v.elim fun d => encoding d) := by
  cases v with
  | clockSource d => exact Uac2.emits_write hv
  | inputTerminal d => exact Uac2.emits_write hv
  | outputTerminal d => exact Uac2.emits_write hv
  | terminal d => exact Uac2.emits_write hv
  | clockSelector d => exact Uac2.emits_write hv
  | clockMultiplier d => exact Uac2.emits_write hv
  | selectorUnit d => exact Uac2.emits_write hv
  | processingUnit d => exact Uac2.emits_write hv
  | extensionUnit d => exact Uac2.emits_write hv
  | formatType1 d => exact Uac2.emits_write hv
  | audioStreamingInterface d => exact Uac2.emits_write hv
  | audioStreamingEndpoint d => exact Uac2.emits_write hv

end

/-- No encoder of a descriptor and no encoder of a block of descriptors
truncates. -/
theorem encoders_never_truncate {v : AnyDescriptor} (hv : v.Valid)
    (block : AudioClassInterfaceDescriptor) :
    NeverTruncates v.write ∧ NeverTruncates v.writePayload ∧ NeverTruncates block.write :=
  ⟨Emits.neverTruncates (emits_write hv), Emits.neverTruncates (emits_writePayload hv),
    Emits.neverTruncates block.emits_block⟩

/-- A selector over two of three sources, and a block around a clock multiplier. -/
theorem encoders_never_truncate_clockSelector :
    NeverTruncates (AnyDescriptor.clockSelector
      (⟨4, 2, #v[1, 2, 3], .programmable, 0⟩ : Descriptors.ClockSelector 3)).write ∧
    NeverTruncates (AudioClassInterfaceDescriptor.write
      ⟨[.clockMultiplier ⟨8, 10, .programmable, .readOnly, 20⟩], .ioBox⟩) := by
  have hv : (AnyDescriptor.clockSelector
      (⟨4, 2, #v[1, 2, 3], .programmable, 0⟩ : Descriptors.ClockSelector 3)).Valid := by
    show (2 : UInt8).toNat ≤ 3
    decide
  have h := encoders_never_truncate hv
    (⟨[.clockMultiplier ⟨8, 10, .programmable, .readOnly, 20⟩], .ioBox⟩)
  exact ⟨h.1, h.2.2⟩

end AnyDescriptor

end Uac2
