import UsbdUac2.Descriptors

/-!
# What the encoders emit

The payload of every descriptor as a list of bytes, and for every encoder the
proof that it emits this list on any lawful writer.  A descriptor with a source
array emits it when the array holds the sources it declares.

The rest follows from the payload alone.  `Descriptor.write` emits the declared
size, the type and the payload.  `writeDescriptor` appends the record whose
length byte counts the payload.
-/

namespace Uac2

open ByteWriter
open Frames (Frame le16 le32)

/-! ## Emission of the calls -/

section

variable {σ ε : Type} [Write σ ε] [LawfulWrite σ ε] {q : WriteM σ ε Unit} {b : List UInt8}

theorem emits_u8 (v : UInt8) : Emits (writeU8 v : WriteM σ ε Unit) [v] := emits_writeAll [v]

theorem emits_u16 (v : UInt16) : Emits (writeU16 v : WriteM σ ε Unit) (le16 v) :=
  emits_writeAll (le16 v)

theorem emits_u8_bind (v : UInt8) (hq : Emits q b) : Emits (do writeU8 v; q) (v :: b) :=
  hq.all [v]

theorem emits_u16_bind (v : UInt16) (hq : Emits q b) : Emits (do writeU16 v; q) (le16 v ++ b) :=
  hq.all (le16 v)

theorem emits_u32_bind (v : UInt32) (hq : Emits q b) : Emits (do writeU32 v; q) (le32 v ++ b) :=
  hq.all (le32 v)

/-- A short write of the declared sources, in front of a program that emits
something. -/
theorem emits_sources_bind {N : Nat} {sources : Vector UInt8 N} {n : UInt8} (hn : n.toNat ≤ N)
    (hb : b ≠ []) (hq : Emits q b) :
    Emits (do let s ← sourceSlice sources n; let _ ← write s; q)
      (sources.toList.take n.toNat ++ b) := by
  intro s
  have hslice : (sourceSlice sources n : WriteM σ ε _) s = .ok (sources.toList.take n.toNat) s := by
    rw [sourceSlice, if_pos hn]
    rfl
  have hrun : (do let s ← sourceSlice sources n; let _ ← write s; q : WriteM σ ε Unit) s =
      (do let _ ← write (sources.toList.take n.toNat); q : WriteM σ ε Unit) s := bind_ok hslice
  rw [hrun]
  exact Emits.raw hb hq s

end

/-! ## Payloads -/

/-- The payload of a descriptor, as the bytes its encoder emits. -/
class Encoded (D : Type) [Descriptor D] where
  /-- The source array holds the declared sources. -/
  Valid : D → Prop
  payload : D → List UInt8
  emits : ∀ {σ ε : Type} [Write σ ε] [LawfulWrite σ ε] (d : D), Valid d →
    Emits (Descriptor.writePayload d : WriteM σ ε Unit) (payload d)

export Encoded (Valid payload)

namespace Descriptors

instance : Encoded ClockSource where
  Valid _ := True
  payload d := [ClassSpecificACInterfaceDescriptorSubtype.clockSource.code, d.id,
    d.bmAttributes, d.bmControls, d.assocTerminal, stringCode d.string]
  emits _ _ := emits_u8_bind _ <| emits_u8_bind _ <| emits_u8_bind _ <| emits_u8_bind _ <|
    emits_u8_bind _ <| emits_u8 _

instance : Encoded InputTerminal where
  Valid _ := True
  payload d := ClassSpecificACInterfaceDescriptorSubtype.inputTerminal.code :: d.id ::
    (le16 d.terminalType.code ++ d.assocTerminal :: d.clockSource :: d.numChannels ::
      (d.channelConfig.intoBytes ++ [d.channelNames,
        d.copyProtectControl.code ||| (d.connectorControl.code <<< 2) |||
          (d.overloadControl.code <<< 4) ||| (d.clusterControl.code <<< 6),
        d.underflowControl.code ||| (d.overflowControl.code <<< 2) |||
          (d.phantomPowerControl.code <<< 4),
        stringCode d.string]))
  emits _ _ := emits_u8_bind _ <| emits_u8_bind _ <| emits_u16_bind _ <| emits_u8_bind _ <|
    emits_u8_bind _ <| emits_u8_bind _ <| Emits.raw (List.cons_ne_nil _ _) <| emits_u8_bind _ <|
    emits_u8_bind _ <| emits_u8_bind _ <| emits_u8 _

instance : Encoded OutputTerminal where
  Valid _ := True
  payload d := ClassSpecificACInterfaceDescriptorSubtype.outputTerminal.code :: d.id ::
    (le16 d.terminalType.code ++ [d.assocTerminal, d.sourceId, d.clockSource,
      d.copyProtectControl.code ||| (d.connectorControl.code <<< 2) |||
        (d.overloadControl.code <<< 4) ||| (d.underflowControl.code <<< 6),
      d.overflowControl.code, stringCode d.string])
  emits _ _ := emits_u8_bind _ <| emits_u8_bind _ <| emits_u16_bind _ <| emits_u8_bind _ <|
    emits_u8_bind _ <| emits_u8_bind _ <| emits_u8_bind _ <| emits_u8_bind _ <| emits_u8 _

instance : Encoded Terminal where
  Valid _ := True
  payload
    | .input d => payload d
    | .output d => payload d
  emits
    | .input d, _ => Encoded.emits d trivial
    | .output d, _ => Encoded.emits d trivial

instance {N : Nat} : Encoded (ClockSelector N) where
  Valid d := d.nSources.toNat ≤ N
  payload d := ClassSpecificACInterfaceDescriptorSubtype.clockSelector.code :: d.id ::
    d.nSources :: (d.sources.toList.take d.nSources.toNat ++ [d.selectorAccess.code, d.string])
  emits _ h := emits_u8_bind _ <| emits_u8_bind _ <| emits_u8_bind _ <|
    emits_sources_bind h (List.cons_ne_nil _ _) <| emits_u8_bind _ <| emits_u8 _

instance : Encoded ClockMultiplier where
  Valid _ := True
  payload d := [ClassSpecificACInterfaceDescriptorSubtype.clockMultiplier.code, d.id,
    d.sourceId, d.bmControls, d.string]
  emits _ _ := emits_u8_bind _ <| emits_u8_bind _ <| emits_u8_bind _ <| emits_u8_bind _ <|
    emits_u8 _

instance {N : Nat} : Encoded (SelectorUnit N) where
  Valid d := d.nSources.toNat ≤ N
  payload d := ClassSpecificACInterfaceDescriptorSubtype.selectorUnit.code :: d.id ::
    d.nSources :: (d.sources.toList.take d.nSources.toNat ++ [d.bmControls, d.string])
  emits _ h := emits_u8_bind _ <| emits_u8_bind _ <| emits_u8_bind _ <|
    emits_sources_bind h (List.cons_ne_nil _ _) <| emits_u8_bind _ <| emits_u8 _

instance {N : Nat} : Encoded (ProcessingUnit N) where
  Valid d := d.nSources.toNat ≤ N
  payload d := ClassSpecificACInterfaceDescriptorSubtype.processingUnit.code :: d.id ::
    (le16 d.processType ++ d.nSources :: (d.sources.toList.take d.nSources.toNat ++
      d.numChannels :: (d.channelConfig.intoBytes ++ d.channelNames ::
        (le16 d.bmControls ++ [d.string]))))
  emits _ h := emits_u8_bind _ <| emits_u8_bind _ <| emits_u16_bind _ <| emits_u8_bind _ <|
    emits_sources_bind h (List.cons_ne_nil _ _) <| emits_u8_bind _ <|
    Emits.raw (List.cons_ne_nil _ _) <| emits_u8_bind _ <| emits_u16_bind _ <| emits_u8 _

instance {N : Nat} : Encoded (ExtensionUnit N) where
  Valid d := d.nSources.toNat ≤ N
  payload d := ClassSpecificACInterfaceDescriptorSubtype.extensionUnit.code :: d.id ::
    (le16 d.extensionCode ++ d.nSources :: (d.sources.toList.take d.nSources.toNat ++
      d.numChannels :: (d.channelConfig.intoBytes ++
        [d.channelNames, d.bmControls, d.string])))
  emits _ h := emits_u8_bind _ <| emits_u8_bind _ <| emits_u16_bind _ <| emits_u8_bind _ <|
    emits_sources_bind h (List.cons_ne_nil _ _) <| emits_u8_bind _ <|
    Emits.raw (List.cons_ne_nil _ _) <| emits_u8_bind _ <| emits_u8_bind _ <| emits_u8 _

instance : Encoded FormatType1 where
  Valid _ := True
  payload d := [ClassSpecificASInterfaceDescriptorSubtype.formatType.code,
    FormatType.type1.code, d.bytesPerSample, d.bitResolution]
  emits _ _ := emits_u8_bind _ <| emits_u8_bind _ <| emits_u8_bind _ <| emits_u8 _

instance : Encoded AudioStreamingInterface where
  Valid _ := True
  payload d := ClassSpecificASInterfaceDescriptorSubtype.general.code :: d.terminalId ::
    d.bmControls :: d.formatType.code :: (le32 d.formatBitmap.code ++ d.numChannels ::
      (d.channelConfig.intoBytes ++ [stringCode d.string]))
  emits _ _ := emits_u8_bind _ <| emits_u8_bind _ <| emits_u8_bind _ <| emits_u8_bind _ <|
    emits_u32_bind _ <| emits_u8_bind _ <| Emits.raw (List.cons_ne_nil _ _) <| emits_u8 _

instance : Encoded AudioStreamingEndpoint where
  Valid _ := True
  payload d := ClassSpecificEndpointDescriptorSubtype.general.code ::
    (d.maxPacketsOnly.toUInt8 <<< 7) :: d.bmControls :: d.lockDelay.units ::
      le16 d.lockDelay.value
  emits _ _ := emits_u8_bind _ <| emits_u8_bind _ <| emits_u8_bind _ <| emits_u8_bind _ <|
    emits_u16 _

end Descriptors

/-! ## From the payload to the descriptor -/

section

variable {D : Type} [Descriptor D] [Encoded D]

/-- The bytes `Descriptor.write` emits. -/
def encoding (d : D) : List UInt8 :=
  Descriptor.size d :: Descriptor.descriptorType d :: payload d

@[simp] theorem length_encoding (d : D) : (encoding d).length = (payload d).length + 2 := rfl

theorem emits_write {σ ε : Type} [Write σ ε] [LawfulWrite σ ε] {d : D} (hd : Valid d) :
    Emits (Descriptor.write d : WriteM σ ε Unit) (encoding d) :=
  emits_u8_bind _ (emits_u8_bind _ (Encoded.emits d hd))

/-- The record usb-device makes of a payload. -/
def record (d : D) (small : (payload d).length + 2 < 256) : Frame :=
  ⟨Descriptor.descriptorType d, payload d, small⟩

/-- The closure of `write_descriptor` fills the buffer with the payload. -/
theorem fillPayload_eq {d : D} (hd : Valid d) {buf : List UInt8}
    (hbuf : (payload d).length ≤ buf.length) :
    Descriptor.fillPayload d buf =
      (.ok (payload d).length, payload d ++ buf.drop (payload d).length) := by
  have hrun := (Encoded.emits d hd).run (s := Cursor.new buf) hbuf
  have hstore : accept (Cursor.new buf) (payload d) =
      (⟨payload d ++ buf.drop (payload d).length, (payload d).length⟩ : Cursor) := by
    show Cursor.store (payload d) ⟨buf, 0⟩ = _
    simp [Cursor.store]
  rw [hstore] at hrun
  rw [Descriptor.fillPayload, hrun]
  rfl

/-- Through the descriptor writer, the length byte counts the payload. -/
theorem appends_writeDescriptor {W : Type} [DescriptorWriter W] [DocumentedWriter W] {d : D}
    (hd : Valid d) (small : (payload d).length + 2 < 256) :
    Appends (Descriptor.writeDescriptor d : W → Attempt W) (record d small).bytes := by
  intro w hroom
  have hlen : (record d small).bytes.length = (payload d).length + 2 := by
    rw [Frame.length_bytes]
    rfl
  have hspare : ((spare w).drop 2).length = (view w).room - 2 := by
    rw [List.length_drop, DocumentedWriter.length_spare]
  have hbuf : (payload d).length ≤ ((spare w).drop 2).length := by omega
  obtain ⟨w', hrun, hview⟩ := DocumentedWriter.writeWith_ok (by omega) (fillPayload_eq hd hbuf)
    (by rw [List.length_append, List.length_drop]; omega) (by rw [List.length_append]; omega) small
  refine ⟨w', hrun, ?_⟩
  rw [hview, List.take_left]
  rfl

end

end Uac2
