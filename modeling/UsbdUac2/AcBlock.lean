import UsbdUac2.Encoding

/-!
# The class-specific AudioControl block

The block is a header record and one record for every descriptor of the list.
`emits_block` says that `AudioClassInterfaceDescriptor::write` emits these
records, and `toNat_totalLength` that the total the header declares is their
length, as long as it fits in 16 bits.
-/

namespace Uac2

open ByteWriter
open Frames (Frame le16 flatten)

namespace Descriptors

/-! ## Records -/

/-- The record of a descriptor. -/
def AudioClassDescriptor.frame : AudioClassDescriptor → Frame
  | .clockSource d => record d (by show 8 < 256; decide)
  | .clockMultiplier d => record d (by show 7 < 256; decide)
  | .inputTerminal d => record d (by show 17 < 256; decide)
  | .outputTerminal d => record d (by show 12 < 256; decide)

theorem AudioClassDescriptor.toNat_size (d : AudioClassDescriptor) :
    d.size.toNat = d.frame.length := by
  cases d <;> rfl

/-- The header record of the block. -/
def headerFrame (category : FunctionCode) (totalLength : UInt16) : Frame :=
  ⟨ClassSpecificDescriptorType.interface.code,
    [ClassSpecificACInterfaceDescriptorSubtype.header.code, 0, 2, category.code,
      totalLength.toUInt8, (totalLength >>> 8).toUInt8, 0], by simp⟩

namespace AudioClassInterfaceDescriptor

/-- The records of the block. -/
def frames (d : AudioClassInterfaceDescriptor) : List Frame :=
  headerFrame d.category d.totalLength :: d.inner.map AudioClassDescriptor.frame

/-- The bytes of the block. -/
def bytes (d : AudioClassInterfaceDescriptor) : List UInt8 := flatten d.frames

section

variable {σ ε : Type} [Write σ ε] [LawfulWrite σ ε]

theorem emits_descriptor (d : AudioClassDescriptor) :
    Emits (d.write : WriteM σ ε Unit) d.frame.bytes := by
  cases d with
  | clockSource d => exact emits_write (d := d) trivial
  | clockMultiplier d => exact emits_write (d := d) trivial
  | inputTerminal d => exact emits_write (d := d) trivial
  | outputTerminal d => exact emits_write (d := d) trivial

theorem emits_header (d : AudioClassInterfaceDescriptor) :
    Emits (d.writeHeader : WriteM σ ε Unit) (headerFrame d.category d.totalLength).bytes :=
  emits_u8_bind _ <| emits_u8_bind _ <| emits_u8_bind _ <| emits_u8_bind _ <|
    emits_u8_bind _ <| emits_u8_bind _ <| emits_u16_bind _ <| emits_u8 _

theorem emits_inner (ds : List AudioClassDescriptor) :
    Emits (writeInner ds : WriteM σ ε Unit) (flatten (ds.map AudioClassDescriptor.frame)) := by
  induction ds with
  | nil => exact emits_pure
  | cons d ds ih => exact (emits_descriptor d).bind ih

/-- The encoder of the block emits its records. -/
theorem emits_block (d : AudioClassInterfaceDescriptor) :
    Emits (d.write : WriteM σ ε Unit) d.bytes :=
  (emits_header d).bind (emits_inner d.inner)

end

/-! ## The total length -/

theorem toNat_sumSizes (ds : List AudioClassDescriptor) :
    ∀ acc : UInt16, (ds.foldl (fun acc d => acc + d.size.toUInt16) acc).toNat =
      (acc.toNat + (flatten (ds.map AudioClassDescriptor.frame)).length) % 65536 := by
  induction ds with
  | nil =>
      intro acc
      have := acc.toNat_lt
      simp only [List.foldl_nil, List.map_nil, Frames.flatten_nil, List.length_nil]
      omega
  | cons d ds ih =>
      intro acc
      have hsize : d.size.toUInt16.toNat = d.frame.length := by
        rw [UInt8.toNat_toUInt16, d.toNat_size]
      rw [List.foldl_cons, ih, UInt16.toNat_add, hsize, List.map_cons, Frames.flatten_cons,
        List.length_append, Frame.length_bytes]
      omega

/-- The total that the header declares is the length of the block. -/
theorem toNat_totalLength {d : AudioClassInterfaceDescriptor} (h : d.bytes.length ≤ 65535) :
    d.totalLength.toNat = d.bytes.length := by
  have hbytes : d.bytes.length = 9 + (flatten (d.inner.map AudioClassDescriptor.frame)).length := by
    rw [bytes, frames, Frames.flatten_cons, List.length_append, Frame.length_bytes]
    rfl
  have hsum := toNat_sumSizes d.inner 0
  have hnine : (9 : UInt16).toNat = 9 := rfl
  have hzero : (0 : UInt16).toNat = 0 := rfl
  rw [totalLength, UInt16.toNat_add, sumSizes, hsum, hbytes]
  omega

end AudioClassInterfaceDescriptor

end Descriptors

end Uac2
