import UsbdUac2.Events

/-!
# A device on the bench

One allocator with the documented behaviour, a bus on which nothing happens and one
with packets to read, and a device with a fixed clock.  They show that the
assumptions on these can be met, and concrete runs use them.
-/

namespace Uac2

/-! ## An allocator -/

/-- The next interface number, and the next index of each direction.  Index 0 is
the control endpoint. -/
structure Counters where
  interface : InterfaceNumber
  index : UsbDirection → Nat
  index_pos : ∀ D, 0 < index D

namespace Counters

/-- Nothing is allocated but the control endpoint. -/
def fresh : Counters := ⟨0, fun _ => 1, fun _ => Nat.zero_lt_one⟩

/-- One more index of a direction is in use. -/
def advance (D : UsbDirection) (c : Counters) : Counters where
  interface := c.interface
  index D' := if D' = D then c.index D + 1 else c.index D'
  index_pos D' := by
    split
    · exact Nat.succ_pos _
    · exact c.index_pos D'

/-- The index `n` as an address. -/
def address : UsbDirection → Nat → EndpointAddress
  | .out, n => ⟨UInt8.ofNat n⟩
  | .in, n => ⟨0x80 ||| UInt8.ofNat n⟩

theorem address_spec (D : UsbDirection) (n : Fin 16) :
    (address D n).direction = D ∧ (address D n).index = n := by
  revert n
  cases D <;> decide

/-- There are fifteen endpoints in a direction besides the control endpoint. -/
def isochronous (D : UsbDirection) (sync : IsochronousSynchronizationType)
    (usage : IsochronousUsageType) (size : UInt16) (interval : UInt8) (c : Counters) :
    Option (Endpoint D × Counters) :=
  if c.index D < 16 then
    some (⟨address D (c.index D), sync, usage, size, interval⟩, c.advance D)
  else none

instance : UsbBusAllocator Counters where
  interface c := (c.interface, { c with interface := c.interface + 1 })
  isochronous := isochronous

theorem isochronous_eq {D : UsbDirection} {sync : IsochronousSynchronizationType}
    {usage : IsochronousUsageType} {size : UInt16} {interval : UInt8} {c c' : Counters}
    {ep : Endpoint D} (h : isochronous D sync usage size interval c = some (ep, c')) :
    ep.address.direction = D ∧ ep.address.index = c.index D ∧
      ep = ⟨address D (c.index D), sync, usage, size, interval⟩ ∧ c' = c.advance D := by
  unfold isochronous at h
  split at h
  · rename_i hlt
    obtain ⟨hdirection, hindex⟩ := address_spec D ⟨c.index D, hlt⟩
    cases h
    exact ⟨hdirection, hindex, rfl, rfl⟩
  · cases h

instance : DocumentedAllocator Counters where
  nextInterface c := c.interface
  Taken c D n := n < c.index D
  interface_fst _ := rfl
  nextInterface_interface _ := rfl
  taken_interface _ _ _ := Iff.rfl
  taken_control c D := c.index_pos D
  isochronous_endpoint h := by
    obtain ⟨hdirection, -, rfl, -⟩ := isochronous_eq h
    exact ⟨hdirection, rfl, rfl, rfl, rfl⟩
  isochronous_fresh {D} _ _ _ _ {c _ ep} h := by
    obtain ⟨-, hindex, -, rfl⟩ := isochronous_eq h
    rw [hindex]
    refine ⟨Nat.lt_irrefl _, fun D' n => ?_⟩
    simp only [advance]
    split
    · rename_i hD
      subst hD
      simp only [true_and]
      exact Nat.lt_succ_iff_lt_or_eq
    · rename_i hD
      simp [hD]
  isochronous_interface h := by
    obtain ⟨-, -, -, rfl⟩ := isochronous_eq h
    rfl

end Counters

/-! ## A bus -/

/-- A bus without a host: no packet arrives, and none is taken. -/
structure Silence where
deriving DecidableEq, Repr

instance : UsbBus Silence where
  read _ _ bus := (.error .wouldBlock, bus)
  write _ _ bus := (.error .wouldBlock, bus)

/-- A bus on which every read takes the next of some packets, and gets the same
answer when there is none left. -/
structure Scripted where
  packets : List (List UInt8)
  last : Except UsbError (List UInt8)

instance : UsbBus Scripted where
  read _ _ bus :=
    match bus.packets with
    | [] => (bus.last, bus)
    | p :: packets => (.ok p, { bus with packets })
  write _ _ bus := (.error .wouldBlock, bus)

/-! ## A device -/

/-- A device whose clock runs at one rate. -/
structure FixedClock where
  rate : UInt32
deriving DecidableEq, Repr

instance : ClockSource FixedClock where
  clockType := .internalFixed
  sofSync := false
  sampleRate au := au.rate
  sampleRates au := .ok [.newFixed au.rate]

instance : AudioHandler FixedClock Silence where
  audioDataRx _ au bus := (au, bus)
  audioDataTx _ au bus := (au, bus)
  feedback fb au := (some fb, au)
  alternateSettingChanged _ _ au := au

instance : AudioHandler FixedClock Scripted where
  audioDataRx _ au bus := (au, bus)
  audioDataTx _ au bus := (au, bus)
  feedback fb au := (some fb, au)
  alternateSettingChanged _ _ au := au

/-- Two channels of 32 bits. -/
def stereo {D : UsbDirection} (baseId : UInt8) : TerminalConfig D where
  baseId := baseId
  clockSourceId := 1
  numChannels := 2
  format := ⟨4, 32⟩
  terminalType := .extUndefined
  channelConfig := ⟨3⟩
  syncType := .asynchronous
  lockDelay := .undefined 0
  string := none

/-- A box with a stream in each direction, at 48 kHz. -/
def ioBox : UsbAudioClassConfig FixedClock where
  speed := .high
  deviceCategory := .ioBox
  audioImpl := ⟨48000⟩
  inputConfig := some (stereo 4)
  outputConfig := some (stereo 2)
  additionalDescriptors := none

/-- What build makes of it. -/
def ioBoxClass : UsbAudioClass FixedClock where
  controlIface := 0
  audioImpl := ⟨48000⟩
  output := some ⟨stereo 2, 1, ⟨⟨0x01⟩, .asynchronous, .data, 56, 1⟩, 0⟩
  input := some ⟨stereo 4, 2, ⟨⟨0x82⟩, .asynchronous, .data, 56, 1⟩, 0⟩
  feedback := some ⟨⟨0x81⟩, .noSynchronization, .feedback, 4, 4⟩
  additionalDescriptors := none
  deviceCategory := .ioBox
  inIface := 2
  outIface := 1
  inEp := 2
  outEp := 1
  fbEp := 1
  speed := .high
  nominalFb := nominal 48000 8000
  audioRate := 8000

theorem build_ioBox : ∃ alloc, ioBox.build Counters.fresh = .ok (ioBoxClass, alloc) := ⟨_, rfl⟩

/-- The box before the first event. -/
def ioBoxStart : World FixedClock Silence := World.start ioBoxClass ⟨⟩

/-- The host selects a setting. -/
def selectSetting (n : InterfaceNumber) (alt : UInt8) : ControlOut where
  request := ⟨.standard, .interface, Request.setInterface, alt.toUInt16, n.toUInt16, 0⟩
  data := []

/-- The box with the stream of interface `n` selected. -/
def ioBoxLive (n : InterfaceNumber) : World FixedClock Silence :=
  ioBoxStart.controlOut (selectSetting n 1)

/-- The box with the stream selected and stopped again. -/
def ioBoxStopped (n : InterfaceNumber) : World FixedClock Silence :=
  (ioBoxLive n).controlOut (selectSetting n 0)

end Uac2
