import UsbdUac2.Terminals
import UsbdUac2.Lib.LastWrite

/-!
# The builder of a stream configuration

`TerminalConfigBuilder` has an optional value for each field of a configuration,
one setter for each, and a `build` that fills in the defaults.  A configuration
is made by any list of setter calls.

After the calls each field of the builder holds the argument of the last call of
its setter (`get_configure`), so setters of different fields commute.  `build`
reads back seven of the nine fields.  It ignores the synchronization type and the
lock delay, and it evaluates the default channel map also when it does not need
it.
-/

namespace Uac2

open Descriptors (FormatType1 LockDelay)
open LastWrite

/-! ## The default channel map -/

namespace ChannelConfig

/-- `ChannelConfig::new`: no flag is set. -/
def new : ChannelConfig := ⟨0⟩

/-- Set or clear the flag of a bit. -/
def withFlag (bit : UInt32) (v : Bool) (c : ChannelConfig) : ChannelConfig :=
  ⟨if v then c.bits ||| (1 <<< bit) else c.bits &&& ~~~(1 <<< bit)⟩

def withFrontLeft : Bool → ChannelConfig → ChannelConfig := withFlag 0

def withFrontRight : Bool → ChannelConfig → ChannelConfig := withFlag 1

def withFrontCenter : Bool → ChannelConfig → ChannelConfig := withFlag 2

def withLowFrequencyEffects : Bool → ChannelConfig → ChannelConfig := withFlag 3

def withBackLeft : Bool → ChannelConfig → ChannelConfig := withFlag 4

def withBackRight : Bool → ChannelConfig → ChannelConfig := withFlag 5

def withSideLeft : Bool → ChannelConfig → ChannelConfig := withFlag 9

def withSideRight : Bool → ChannelConfig → ChannelConfig := withFlag 10

/-- `default_chans`, which panics for a number of channels it does not know. -/
def defaultChans (n : UInt8) : Option ChannelConfig :=
  match n with
  | 1 => some (new.withFrontLeft true)
  | 2 => some ((new.withFrontLeft true).withFrontRight true)
  | 4 => some ((((new.withFrontLeft true).withFrontRight true).withBackLeft true).withBackRight
      true)
  | 6 => some ((((((new.withFrontLeft true).withFrontCenter true).withFrontRight
      true).withBackLeft true).withBackRight true).withLowFrequencyEffects true)
  | 8 => some (((((((((new.withFrontLeft true).withFrontCenter true).withFrontRight
      true).withBackLeft true).withBackRight true).withFrontCenter true).withSideLeft
      true).withSideRight true).withLowFrequencyEffects true)
  | _ => none

/-- The numbers of channels with a default map. -/
def SupportedCount (n : UInt8) : Prop := n = 1 ∨ n = 2 ∨ n = 4 ∨ n = 6 ∨ n = 8

theorem defaultChans_eq_none {n : UInt8} (h : ¬ SupportedCount n) : defaultChans n = none := by
  unfold defaultChans
  split
  · exact absurd (Or.inl rfl) h
  · exact absurd (Or.inr (Or.inl rfl)) h
  · exact absurd (Or.inr (Or.inr (Or.inl rfl))) h
  · exact absurd (Or.inr (Or.inr (Or.inr (Or.inl rfl)))) h
  · exact absurd (Or.inr (Or.inr (Or.inr (Or.inr rfl)))) h
  · rfl

/-- The default map of `n` channels has `n` flags. -/
theorem exists_defaultChans {n : UInt8} (h : SupportedCount n) :
    ∃ c, defaultChans n = some c ∧ countZeroBits 32 c.bits.toNat = 32 - n.toNat := by
  rcases h with rfl | rfl | rfl | rfl | rfl
  · exact ⟨_, rfl, by decide⟩
  · exact ⟨_, rfl, by decide⟩
  · exact ⟨_, rfl, by decide⟩
  · exact ⟨_, rfl, by decide⟩
  · exact ⟨_, rfl, by decide⟩

end ChannelConfig

/-! ## The builder -/

structure TerminalConfigBuilder (D : UsbDirection) where
  baseId : Option UInt8
  clockSourceId : Option UInt8
  numChannels : Option UInt8
  format : Option FormatType1
  terminalType : Option TerminalType
  channelConfig : Option ChannelConfig
  syncType : Option IsochronousSynchronizationType
  lockDelay : Option LockDelay
  string : Option StringIndex
deriving DecidableEq, Repr

namespace TerminalConfigBuilder

variable {D : UsbDirection}

def new : TerminalConfigBuilder D :=
  ⟨none, none, none, none, none, none, none, none, none⟩

def setBaseId (id : UInt8) (b : TerminalConfigBuilder D) : TerminalConfigBuilder D :=
  { b with baseId := some id }

def setClockSourceId (id : UInt8) (b : TerminalConfigBuilder D) : TerminalConfigBuilder D :=
  { b with clockSourceId := some id }

def setNumChannels (channels : UInt8) (b : TerminalConfigBuilder D) : TerminalConfigBuilder D :=
  { b with numChannels := some channels }

def setFormat (format : FormatType1) (b : TerminalConfigBuilder D) : TerminalConfigBuilder D :=
  { b with format := some format }

def setTerminalType (t : TerminalType) (b : TerminalConfigBuilder D) : TerminalConfigBuilder D :=
  { b with terminalType := some t }

def setChannelConfig (config : ChannelConfig) (b : TerminalConfigBuilder D) :
    TerminalConfigBuilder D := { b with channelConfig := some config }

def setSyncType (sync : IsochronousSynchronizationType) (b : TerminalConfigBuilder D) :
    TerminalConfigBuilder D := { b with syncType := some sync }

def setLockDelay (delay : LockDelay) (b : TerminalConfigBuilder D) : TerminalConfigBuilder D :=
  { b with lockDelay := some delay }

def setString (index : StringIndex) (b : TerminalConfigBuilder D) : TerminalConfigBuilder D :=
  { b with string := some index }

/-- Fill in the defaults.  An absent `base_id` is a panic, and so is a number of
channels without a default map, also when a channel map was set. -/
def build (b : TerminalConfigBuilder D) : Option (TerminalConfig D) := do
  let baseId ← b.baseId
  let defaultChans ← ChannelConfig.defaultChans (b.numChannels.getD 2)
  return {
    baseId
    clockSourceId := b.clockSourceId.getD 1
    numChannels := b.numChannels.getD 2
    format := b.format.getD ⟨4, 32⟩
    terminalType := b.terminalType.getD .extUndefined
    channelConfig := b.channelConfig.getD defaultChans
    syncType := .asynchronous
    lockDelay := .undefined 0
    string := b.string }

end TerminalConfigBuilder

/-! ## Setter calls -/

/-- The fields with a setter. -/
inductive Field where
  | baseId
  | clockSourceId
  | numChannels
  | format
  | terminalType
  | channelConfig
  | syncType
  | lockDelay
  | string
deriving DecidableEq, Repr

/-- The type of the argument of a setter. -/
abbrev Field.Value : Field → Type
  | .baseId | .clockSourceId | .numChannels => UInt8
  | .format => FormatType1
  | .terminalType => TerminalType
  | .channelConfig => ChannelConfig
  | .syncType => IsochronousSynchronizationType
  | .lockDelay => LockDelay
  | .string => StringIndex

/-- A call of the setter of a field. -/
structure Setter where
  field : Field
  value : field.Value

namespace Setter

/-- The argument, if the call is of the setter of `f`. -/
def select (f : Field) (s : Setter) : Option f.Value :=
  if h : s.field = f then some (h ▸ s.value) else none

theorem select_of_ne {f : Field} {s : Setter} (h : s.field ≠ f) : s.select f = none := dif_neg h

/-- The call on a builder. -/
def call {D : UsbDirection} (b : TerminalConfigBuilder D) : Setter → TerminalConfigBuilder D
  | ⟨.baseId, id⟩ => b.setBaseId id
  | ⟨.clockSourceId, id⟩ => b.setClockSourceId id
  | ⟨.numChannels, channels⟩ => b.setNumChannels channels
  | ⟨.format, format⟩ => b.setFormat format
  | ⟨.terminalType, t⟩ => b.setTerminalType t
  | ⟨.channelConfig, config⟩ => b.setChannelConfig config
  | ⟨.syncType, sync⟩ => b.setSyncType sync
  | ⟨.lockDelay, delay⟩ => b.setLockDelay delay
  | ⟨.string, index⟩ => b.setString index

end Setter

/-- The argument of the last call of the setter of a field. -/
def lastCall (f : Field) (calls : List Setter) : Option f.Value := lastWrite (Setter.select f) calls

namespace TerminalConfigBuilder

variable {D : UsbDirection}

/-- What a builder holds for a field. -/
def get : (f : Field) → TerminalConfigBuilder D → Option f.Value
  | .baseId, b => b.baseId
  | .clockSourceId, b => b.clockSourceId
  | .numChannels, b => b.numChannels
  | .format, b => b.format
  | .terminalType, b => b.terminalType
  | .channelConfig, b => b.channelConfig
  | .syncType, b => b.syncType
  | .lockDelay, b => b.lockDelay
  | .string, b => b.string

/-- A builder after a list of calls. -/
def configure (calls : List Setter) : TerminalConfigBuilder D := calls.foldl Setter.call new

theorem get_new (f : Field) : (new : TerminalConfigBuilder D).get f = none := by
  cases f <;> rfl

/-- A call sets its field and no other. -/
theorem get_call (f : Field) (b : TerminalConfigBuilder D) (s : Setter) :
    (s.call b).get f = (s.select f).or (b.get f) := by
  obtain ⟨g, v⟩ := s
  cases g <;> cases f <;> rfl

/-- Each field holds the argument of the last call of its setter. -/
theorem get_configure (f : Field) (calls : List Setter) :
    (configure calls : TerminalConfigBuilder D).get f = lastCall f calls := by
  rw [configure, get_foldl (get_call f), get_new, Option.or_none]
  rfl

/-- A builder is what it holds for its fields. -/
theorem ext_get {b b' : TerminalConfigBuilder D} (h : ∀ f, b.get f = b'.get f) : b = b' := by
  cases b with
  | mk b1 b2 b3 b4 b5 b6 b7 b8 b9 =>
      cases b' with
      | mk c1 c2 c3 c4 c5 c6 c7 c8 c9 =>
          obtain rfl : b1 = c1 := h .baseId
          obtain rfl : b2 = c2 := h .clockSourceId
          obtain rfl : b3 = c3 := h .numChannels
          obtain rfl : b4 = c4 := h .format
          obtain rfl : b5 = c5 := h .terminalType
          obtain rfl : b6 = c6 := h .channelConfig
          obtain rfl : b7 = c7 := h .syncType
          obtain rfl : b8 = c8 := h .lockDelay
          obtain rfl : b9 = c9 := h .string
          rfl

/-- Setters of different fields commute, wherever they are called. -/
theorem configure_swap {s t : Setter} (h : s.field ≠ t.field) (before after : List Setter) :
    (configure (before ++ s :: t :: after) : TerminalConfigBuilder D) =
      configure (before ++ t :: s :: after) := by
  refine ext_get fun f => ?_
  rw [get_configure, get_configure]
  refine lastWrite_swap ?_ before after
  by_cases hs : s.field = f
  · exact Or.inr (Setter.select_of_ne fun ht => h (hs.trans ht.symm))
  · exact Or.inl (Setter.select_of_ne hs)

/-! ## What build reads back -/

/-- The configuration that a list of calls asks for: each field has the argument of
the last call of its setter, or its default when there was none. -/
structure Configured (calls : List Setter) (c : TerminalConfig D) : Prop where
  baseId : lastCall .baseId calls = some c.baseId
  clockSourceId : c.clockSourceId = (lastCall .clockSourceId calls).getD 1
  numChannels : c.numChannels = (lastCall .numChannels calls).getD 2
  format : c.format = (lastCall .format calls).getD ⟨4, 32⟩
  terminalType : c.terminalType = (lastCall .terminalType calls).getD .extUndefined
  channelConfig : (lastCall .channelConfig calls).or (ChannelConfig.defaultChans c.numChannels) =
    some c.channelConfig
  syncType : c.syncType = (lastCall .syncType calls).getD .asynchronous
  lockDelay : c.lockDelay = (lastCall .lockDelay calls).getD (.undefined 0)
  string : c.string = lastCall .string calls

/-- The number of channels has a default map, and the two fields that `build` does not
read were set to what it puts in their place, if at all. -/
structure ReadBack (calls : List Setter) : Prop where
  count : ChannelConfig.SupportedCount ((lastCall .numChannels calls).getD 2)
  syncType : ∀ sync, lastCall .syncType calls = some sync → sync = .asynchronous
  lockDelay : ∀ delay, lastCall .lockDelay calls = some delay → delay = .undefined 0

/-- What `build` makes of a list of calls. -/
theorem build_configure (calls : List Setter) :
    (configure calls : TerminalConfigBuilder D).build =
      (lastCall .baseId calls).bind fun baseId =>
        (ChannelConfig.defaultChans ((lastCall .numChannels calls).getD 2)).bind fun defaultChans =>
          some {
            baseId
            clockSourceId := (lastCall .clockSourceId calls).getD 1
            numChannels := (lastCall .numChannels calls).getD 2
            format := (lastCall .format calls).getD ⟨4, 32⟩
            terminalType := (lastCall .terminalType calls).getD .extUndefined
            channelConfig := (lastCall .channelConfig calls).getD defaultChans
            syncType := .asynchronous
            lockDelay := .undefined 0
            string := lastCall .string calls } := by
  rw [← get_configure (D := D) .baseId, ← get_configure (D := D) .clockSourceId,
    ← get_configure (D := D) .numChannels, ← get_configure (D := D) .format,
    ← get_configure (D := D) .terminalType, ← get_configure (D := D) .channelConfig,
    ← get_configure (D := D) .string]
  rfl

theorem getD_eq_iff {α : Type} {o : Option α} {x : α} :
    x = o.getD x ↔ ∀ y, o = some y → y = x := by
  cases o with
  | none => exact ⟨fun _ _ h => (by cases h), fun _ => rfl⟩
  | some y => simp [eq_comm]

/-- With a call of `base_id`, `build` returns what was asked for exactly when all of it
is read back.  Setters of different fields always commute. -/
theorem build_configured_iff {calls : List Setter} (hbase : (lastCall .baseId calls).isSome) :
    ((∃ c : TerminalConfig D, (configure calls).build = some c ∧ Configured calls c) ↔
      ReadBack calls) ∧
    ∀ (s t : Setter) (before after : List Setter), s.field ≠ t.field →
      (configure (before ++ s :: t :: after) : TerminalConfigBuilder D) =
        configure (before ++ t :: s :: after) := by
  refine ⟨?_, fun s t before after h => configure_swap h before after⟩
  obtain ⟨baseId, hbase⟩ := Option.isSome_iff_exists.mp hbase
  rw [build_configure, hbase, Option.bind_some]
  by_cases hcount : ChannelConfig.SupportedCount ((lastCall .numChannels calls).getD 2)
  · obtain ⟨chans, hdefault, -⟩ := ChannelConfig.exists_defaultChans hcount
    rw [hdefault, Option.bind_some]
    constructor
    · rintro ⟨c, hc, hconf⟩
      cases hc
      exact ⟨hcount, getD_eq_iff.mp hconf.syncType, getD_eq_iff.mp hconf.lockDelay⟩
    · intro h
      refine ⟨_, rfl, hbase, rfl, rfl, rfl, rfl, ?_, getD_eq_iff.mpr h.syncType,
        getD_eq_iff.mpr h.lockDelay, rfl⟩
      show (lastCall .channelConfig calls).or (ChannelConfig.defaultChans
        ((lastCall .numChannels calls).getD 2)) = some _
      rw [hdefault]
      cases lastCall .channelConfig calls <;> rfl
  · rw [ChannelConfig.defaultChans_eq_none hcount, Option.bind_none]
    constructor
    · rintro ⟨c, hc, -⟩
      cases hc
    · intro h
      exact absurd h.count hcount

/-- The calls of the example in the documentation, with a number of channels. -/
theorem build_configured_iff_quad :
    ∃ c : TerminalConfig .in,
      (configure [⟨.baseId, 4⟩, ⟨.numChannels, 4⟩]).build = some c ∧
        Configured [⟨.baseId, 4⟩, ⟨.numChannels, 4⟩] c :=
  (build_configured_iff rfl).1.mpr
    ⟨Or.inr (Or.inr (Or.inl rfl)), fun _ h => (by cases h), fun _ h => (by cases h)⟩

/-- A lock delay of 5 ms and a synchronous endpoint come out as the defaults.  Three
channels with a channel map of their own panic. -/
theorem setters_ignored :
    (∀ c : TerminalConfig .out,
      ¬ ((configure [⟨.baseId, 2⟩, ⟨.lockDelay, .milliseconds 5⟩]).build = some c ∧
        Configured [⟨.baseId, 2⟩, ⟨.lockDelay, .milliseconds 5⟩] c)) ∧
    (∀ c : TerminalConfig .out,
      ¬ ((configure [⟨.baseId, 2⟩, ⟨.syncType, .synchronous⟩]).build = some c ∧
        Configured [⟨.baseId, 2⟩, ⟨.syncType, .synchronous⟩] c)) ∧
    (configure [⟨.baseId, 2⟩, ⟨.numChannels, 3⟩, ⟨.channelConfig, ⟨7⟩⟩] :
      TerminalConfigBuilder .out).build = none := by
  refine ⟨fun c h => ?_, fun c h => ?_, rfl⟩
  · obtain ⟨hc, hconf⟩ := h
    cases hc
    cases hconf.lockDelay
  · obtain ⟨hc, hconf⟩ := h
    cases hc
    cases hconf.syncType

end TerminalConfigBuilder

end Uac2
