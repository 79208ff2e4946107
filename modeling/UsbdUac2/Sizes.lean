import UsbdUac2.Encoding
import UsbdUac2.BufferWriter
import Mathlib.Order.Basic

/-!
# Declared and emitted sizes

`size` and `MAX_SIZE` are computed in one place and the payload is written in
another.  `Truthful` says the two agree on a value, and that the two ways of
writing it emit the same bytes.  `truthful_iff` brings this down to one equation
between the declared size and the length of the payload.

The equation holds of ten of the twelve types.  A processing unit and an
extension unit declare one byte more than they emit, whatever their sources.
-/

namespace Uac2

open ByteWriter
open Frames (Frame)

section

variable {W : Type} [DescriptorWriter W] [DocumentedWriter W]

/-- Writing `d` to the buffer emits as many bytes as `size` and the length byte
say, at most `MAX_SIZE`, and the same bytes as the descriptor writer appends. -/
def Truthful {D : Type} [Descriptor D] (buf : List UInt8) (w : W) (d : D) : Prop :=
  ∃ cur w', Descriptor.write d (Cursor.new buf) = .ok () cur ∧
    Descriptor.writeDescriptor d w = .ok w' ∧
    cur.position = (Descriptor.size d).toNat ∧
    cur.inner.head?.map UInt8.toNat = some cur.position ∧
    cur.position ≤ Descriptor.maxSize D ∧
    (view w').written = (view w).written ++ cur.inner.take cur.position

variable {D : Type} [Descriptor D] [Encoded D]

/-- What `Descriptor.write` leaves in a buffer with room. -/
theorem write_new {d : D} (hd : Valid d) {buf : List UInt8}
    (hbuf : (encoding d).length ≤ buf.length) :
    Descriptor.write d (Cursor.new buf) =
      .ok () ⟨encoding d ++ buf.drop (encoding d).length, (encoding d).length⟩ := by
  have hrun := (emits_write hd).run (s := Cursor.new buf) hbuf
  have hstore : accept (Cursor.new buf) (encoding d) =
      (⟨encoding d ++ buf.drop (encoding d).length, (encoding d).length⟩ : Cursor) := by
    show Cursor.store (encoding d) ⟨buf, 0⟩ = _
    simp [Cursor.store]
  exact hrun.trans (congrArg _ hstore)

theorem truthful_iff {d : D} (hd : Valid d) (hsmall : (encoding d).length < 256)
    {buf : List UInt8} (hbuf : (encoding d).length ≤ buf.length) {w : W}
    (hw : (encoding d).length ≤ (view w).room) :
    Truthful buf w d ↔ (Descriptor.size d).toNat = (encoding d).length ∧
      (encoding d).length ≤ Descriptor.maxSize D := by
  have hlen : (encoding d).length = (payload d).length + 2 := rfl
  obtain ⟨w', hrun, hview⟩ := appends_writeDescriptor hd (by omega) w
    (by rw [Frame.length_bytes]; exact hw)
  constructor
  · rintro ⟨cur, _, hcur, -, hpos, -, hmax, -⟩
    rw [write_new hd hbuf] at hcur
    cases hcur
    exact ⟨hpos.symm, hmax⟩
  · rintro ⟨hsize, hmax⟩
    refine ⟨_, w', write_new hd hbuf, hrun, hsize.symm, congrArg some hsize, hmax, ?_⟩
    have hbyte : Descriptor.size d = UInt8.ofNat ((payload d).length + 2) := by
      rw [← hlen, ← hsize, UInt8.ofNat_toNat]
    rw [hview, View.append_written, Cursor.position, List.take_left, encoding, hbyte]
    rfl

end

/-! ## All types -/

/-- A value of any type that implements `Descriptor`. -/
inductive AnyDescriptor where
  | clockSource (d : Descriptors.ClockSource)
  | inputTerminal (d : Descriptors.InputTerminal)
  | outputTerminal (d : Descriptors.OutputTerminal)
  | terminal (d : Descriptors.Terminal)
  | clockSelector {N : Nat} (d : Descriptors.ClockSelector N)
  | clockMultiplier (d : Descriptors.ClockMultiplier)
  | selectorUnit {N : Nat} (d : Descriptors.SelectorUnit N)
  | processingUnit {N : Nat} (d : Descriptors.ProcessingUnit N)
  | extensionUnit {N : Nat} (d : Descriptors.ExtensionUnit N)
  | formatType1 (d : Descriptors.FormatType1)
  | audioStreamingInterface (d : Descriptors.AudioStreamingInterface)
  | audioStreamingEndpoint (d : Descriptors.AudioStreamingEndpoint)

namespace AnyDescriptor

/-- Apply a function on descriptors to the value inside. -/
def elim {α : Sort*} (f : ∀ {D : Type} [Descriptor D] [Encoded D], D → α) : AnyDescriptor → α
  | .clockSource d => f d
  | .inputTerminal d => f d
  | .outputTerminal d => f d
  | .terminal d => f d
  | .clockSelector d => f d
  | .clockMultiplier d => f d
  | .selectorUnit d => f d
  | .processingUnit d => f d
  | .extensionUnit d => f d
  | .formatType1 d => f d
  | .audioStreamingInterface d => f d
  | .audioStreamingEndpoint d => f d

/-- The declared sources are in the array. -/
def Valid (v : AnyDescriptor) : Prop := v.elim fun d => Encoded.Valid d

/-- The number of bytes the encoder emits. -/
def encodedLength (v : AnyDescriptor) : Nat := v.elim fun d => (encoding d).length

def Truthful {W : Type} [DescriptorWriter W] [DocumentedWriter W] (buf : List UInt8) (w : W)
    (v : AnyDescriptor) : Prop := v.elim fun d => Uac2.Truthful buf w d

/-- The types whose `size` is not the length of their encoding. -/
def IsProcessingOrExtension : AnyDescriptor → Prop
  | .processingUnit _ => True
  | .extensionUnit _ => True
  | _ => False

/-- The declared size of a value is what its encoder emits, and within bounds. -/
def SizeExact (v : AnyDescriptor) : Prop :=
  v.elim fun {D} _ _ d =>
    (Descriptor.size d).toNat = (encoding d).length ∧ (encoding d).length ≤ Descriptor.maxSize D

theorem length_sources {N : Nat} (sources : Vector UInt8 N) {n : UInt8} (hn : n.toNat ≤ N) :
    (sources.toList.take n.toNat).length = n.toNat := by
  rw [List.length_take, Vector.length_toList, Nat.min_eq_left hn]

/-- A declared size `k + n` against an encoding of that length. -/
theorem add_sources_exact {N k : Nat} {n : UInt8} (hn : n.toNat ≤ N)
    (h : k + n.toNat < 256) :
    (UInt8.ofNat k + n).toNat = k + n.toNat ∧ k + n.toNat ≤ k + N := by
  rw [UInt8.toNat_add, UInt8.toNat_ofNat']
  omega

/-- A declared size `k + 1 + n` against an encoding of length `k + n`. -/
theorem add_sources_inexact (k : Nat) (n : UInt8) :
    (UInt8.ofNat (k + 1) + n).toNat ≠ k + n.toNat := by
  rw [UInt8.toNat_add, UInt8.toNat_ofNat']
  omega

section

variable {N : Nat}

theorem length_clockSelector {d : Descriptors.ClockSelector N} (hd : Encoded.Valid d) :
    (encoding d).length = 7 + d.nSources.toNat := by
  have := length_sources d.sources hd
  simp only [encoding, payload, List.length_cons, List.length_append, this, List.length_nil]
  omega

theorem length_selectorUnit {d : Descriptors.SelectorUnit N} (hd : Encoded.Valid d) :
    (encoding d).length = 7 + d.nSources.toNat := by
  have := length_sources d.sources hd
  simp only [encoding, payload, List.length_cons, List.length_append, this, List.length_nil]
  omega

theorem length_processingUnit {d : Descriptors.ProcessingUnit N} (hd : Encoded.Valid d) :
    (encoding d).length = 16 + d.nSources.toNat := by
  have := length_sources d.sources hd
  simp only [encoding, payload, List.length_cons, List.length_append, this, List.length_nil,
    Frames.length_le16, ChannelConfig.length_intoBytes]
  omega

theorem length_extensionUnit {d : Descriptors.ExtensionUnit N} (hd : Encoded.Valid d) :
    (encoding d).length = 15 + d.nSources.toNat := by
  have := length_sources d.sources hd
  simp only [encoding, payload, List.length_cons, List.length_append, this, List.length_nil,
    Frames.length_le16, ChannelConfig.length_intoBytes]
  omega

end

theorem sizeExact_iff {v : AnyDescriptor} (hv : v.Valid) (hsmall : v.encodedLength < 256) :
    v.SizeExact ↔ ¬ v.IsProcessingOrExtension := by
  cases v with
  | clockSource d => exact ⟨fun _ h => h, fun _ => ⟨rfl, Nat.le_refl _⟩⟩
  | inputTerminal d => exact ⟨fun _ h => h, fun _ => ⟨rfl, Nat.le_refl _⟩⟩
  | outputTerminal d => exact ⟨fun _ h => h, fun _ => ⟨rfl, Nat.le_refl _⟩⟩
  | terminal d =>
      cases d with
      | input d => exact ⟨fun _ h => h, fun _ => ⟨rfl, Nat.le_refl _⟩⟩
      | output d => exact ⟨fun _ h => h, fun _ => ⟨rfl, by show (12 : Nat) ≤ 17; decide⟩⟩
  | clockMultiplier d => exact ⟨fun _ h => h, fun _ => ⟨rfl, Nat.le_refl _⟩⟩
  | formatType1 d => exact ⟨fun _ h => h, fun _ => ⟨rfl, Nat.le_refl _⟩⟩
  | audioStreamingInterface d => exact ⟨fun _ h => h, fun _ => ⟨rfl, Nat.le_refl _⟩⟩
  | audioStreamingEndpoint d => exact ⟨fun _ h => h, fun _ => ⟨rfl, Nat.le_refl _⟩⟩
  | clockSelector d =>
      have hlen := length_clockSelector hv
      obtain ⟨hsize, hmax⟩ := add_sources_exact (k := 7) hv (hlen.symm.trans_lt hsmall)
      exact ⟨fun _ h => h, fun _ => ⟨hsize.trans hlen.symm, hlen.trans_le hmax⟩⟩
  | selectorUnit d =>
      have hlen := length_selectorUnit hv
      obtain ⟨hsize, hmax⟩ := add_sources_exact (k := 7) hv (hlen.symm.trans_lt hsmall)
      exact ⟨fun _ h => h, fun _ => ⟨hsize.trans hlen.symm, hlen.trans_le hmax⟩⟩
  | processingUnit d =>
      have hlen := length_processingUnit hv
      exact ⟨fun h => absurd (h.1.trans hlen) (add_sources_inexact 16 d.nSources),
        fun h => absurd trivial h⟩
  | extensionUnit d =>
      have hlen := length_extensionUnit hv
      exact ⟨fun h => absurd (h.1.trans hlen) (add_sources_inexact 15 d.nSources),
        fun h => absurd trivial h⟩

/-- The property of one value, for the value inside. -/
theorem truthful_iff_sizeExact {W : Type} [DescriptorWriter W] [DocumentedWriter W]
    {v : AnyDescriptor} (hv : v.Valid) (hsmall : v.encodedLength < 256) {buf : List UInt8}
    (hbuf : v.encodedLength ≤ buf.length) {w : W} (hw : v.encodedLength ≤ (view w).room) :
    v.Truthful buf w ↔ v.SizeExact := by
  cases v with
  | clockSource d => exact truthful_iff hv hsmall hbuf hw
  | inputTerminal d => exact truthful_iff hv hsmall hbuf hw
  | outputTerminal d => exact truthful_iff hv hsmall hbuf hw
  | terminal d => exact truthful_iff hv hsmall hbuf hw
  | clockSelector d => exact truthful_iff hv hsmall hbuf hw
  | clockMultiplier d => exact truthful_iff hv hsmall hbuf hw
  | selectorUnit d => exact truthful_iff hv hsmall hbuf hw
  | processingUnit d => exact truthful_iff hv hsmall hbuf hw
  | extensionUnit d => exact truthful_iff hv hsmall hbuf hw
  | formatType1 d => exact truthful_iff hv hsmall hbuf hw
  | audioStreamingInterface d => exact truthful_iff hv hsmall hbuf hw
  | audioStreamingEndpoint d => exact truthful_iff hv hsmall hbuf hw

/-- A value is written truthfully into any large enough buffer exactly when it
is not a processing unit and not an extension unit. -/
theorem truthful_iff_not_unit {W : Type} [DescriptorWriter W] [DocumentedWriter W]
    {v : AnyDescriptor} (hv : v.Valid) (hsmall : v.encodedLength < 256) {buf : List UInt8}
    (hbuf : v.encodedLength ≤ buf.length) {w : W} (hw : v.encodedLength ≤ (view w).room) :
    v.Truthful buf w ↔ ¬ v.IsProcessingOrExtension :=
  (truthful_iff_sizeExact hv hsmall hbuf hw).trans (sizeExact_iff hv hsmall)

/-- A clock multiplier is written truthfully into a buffer of its size. -/
theorem truthful_iff_not_unit_clockMultiplier :
    Truthful (List.replicate 7 0) (BufferWriter.empty 7)
      (.clockMultiplier ⟨8, 10, .programmable, .readOnly, 20⟩) :=
  (truthful_iff_not_unit (v := .clockMultiplier ⟨8, 10, .programmable, .readOnly, 20⟩)
    True.intro (by decide) (by decide) (by decide)).mpr id

/-- A processing unit with one source. -/
def upDownMix : Descriptors.ProcessingUnit 1 where
  id := 6
  processType := 1
  sources := #v[2]
  numChannels := 2
  nSources := 1
  channelConfig := ⟨3⟩
  channelNames := 0
  enableControl := .readOnly
  modeSelectControl := .notPresent
  clusterControl := .notPresent
  underflowControl := .notPresent
  overflowControl := .notPresent
  latencyControl := .notPresent
  string := 0

/-- The unit emits 17 bytes under a length byte of 18, with room to spare. -/
theorem upDownMix_not_truthful :
    Valid (.processingUnit upDownMix) ∧ encodedLength (.processingUnit upDownMix) = 17 ∧
      Descriptor.write upDownMix (Cursor.new (List.replicate 32 0)) =
        .ok () ⟨18 :: 0x24 :: payload upDownMix ++ List.replicate 15 0, 17⟩ ∧
      ¬ Truthful (List.replicate 32 0) (BufferWriter.empty 32) (.processingUnit upDownMix) := by
  have hv : Encoded.Valid upDownMix := Nat.le_refl 1
  have hrun : Descriptor.write upDownMix (Cursor.new (List.replicate 32 0)) = _ :=
    write_new hv (by decide)
  refine ⟨hv, rfl, hrun, ?_⟩
  rintro ⟨cur, _, hcur, -, hpos, -⟩
  rw [hrun] at hcur
  cases hcur
  exact absurd hpos (by decide)

end AnyDescriptor

end Uac2
