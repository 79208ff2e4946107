import UsbdUac2.Wiring
import UsbdUac2.Builder
import UsbdUac2.Bench
import Mathlib.Algebra.Order.Floor.Div

/-!
# Packet sizes

The packet size of a stream is computed from one rate, the upper end of the
subrange with the greatest lower end.  For subranges in ascending order this is
the greatest rate of all.

The size is a product of 32-bit numbers that is cut to 16 bits.  `packetSize_toNat`
says it is the size that is needed, modulo 2^16.  Nothing refuses a size that does
not fit, so build asks for enough exactly when everything fits.
-/

namespace Uac2

open ByteWriter

variable {AU A : Type}

/-! ## Rates -/

/-- The documented invariants of a list of subranges. -/
structure ValidRates (rates : List (RangeEntry UInt32)) : Prop where
  ne_nil : rates ≠ []
  ascending : rates.Pairwise fun a b => a.max < b.min
  min_le_max : ∀ e ∈ rates, e.min ≤ e.max

/-- The rate lies in a subrange. -/
def Advertised (rates : List (RangeEntry UInt32)) (rate : UInt32) : Prop :=
  ∃ e ∈ rates, e.min ≤ rate ∧ rate ≤ e.max

namespace RangeEntry

theorem later_spec (a b : RangeEntry UInt32) :
    (later a b = a ∨ later a b = b) ∧ a.min ≤ (later a b).min ∧ b.min ≤ (later a b).min := by
  have hcmp : cmp a b = compareOfLessAndEq a.min b.min := rfl
  unfold later
  rw [hcmp, compareOfLessAndEq]
  split_ifs with hlt heq
  · exact ⟨Or.inr rfl, UInt32.le_of_lt hlt, UInt32.le_refl _⟩
  · exact ⟨Or.inr rfl, heq ▸ UInt32.le_refl _, UInt32.le_refl _⟩
  · exact ⟨Or.inl rfl, UInt32.le_refl _, UInt32.not_lt.mp hlt⟩

theorem foldl_later_spec (es : List (RangeEntry UInt32)) :
    ∀ e, es.foldl later e ∈ e :: es ∧ ∀ x ∈ e :: es, x.min ≤ (es.foldl later e).min := by
  induction es with
  | nil =>
      intro e
      refine ⟨List.mem_singleton_self e, fun x hx => ?_⟩
      rw [List.mem_singleton.mp hx]
      exact UInt32.le_refl _
  | cons y ys ih =>
      intro e
      obtain ⟨hmem, hmax⟩ := ih (later e y)
      obtain ⟨hor, hle, hley⟩ := later_spec e y
      have hhead := hmax _ (List.mem_cons_self ..)
      refine ⟨?_, fun x hx => ?_⟩
      · rcases List.mem_cons.mp hmem with h | h
        · rw [List.foldl_cons, h]
          rcases hor with h | h <;> rw [h] <;> simp
        · exact List.mem_cons_of_mem _ (List.mem_cons_of_mem _ h)
      · rcases List.mem_cons.mp hx with rfl | hx
        · exact UInt32.le_trans hle hhead
        · rcases List.mem_cons.mp hx with rfl | hx
          · exact UInt32.le_trans hley hhead
          · exact hmax x (List.mem_cons_of_mem _ hx)

/-- `Iterator::max` returns an entry with a greatest lower end. -/
theorem maximum_spec {es : List (RangeEntry UInt32)} {e : RangeEntry UInt32}
    (h : maximum es = some e) : e ∈ es ∧ ∀ x ∈ es, x.min ≤ e.min := by
  cases es with
  | nil => cases h
  | cons x xs =>
      cases h
      exact foldl_later_spec xs x

/-- In ascending order, the entry with the greatest lower end has the greatest
upper end. -/
theorem max_le_of_ascending {es : List (RangeEntry UInt32)} {e x : RangeEntry UInt32}
    (hv : ValidRates es) (he : e ∈ es) (hmax : ∀ x ∈ es, x.min ≤ e.min) (hx : x ∈ es) :
    x.max ≤ e.max := by
  have hapart : x = e ∨ x.max < e.min ∨ e.max < x.min :=
    List.Pairwise.forall_of_forall_of_flip
      (R := fun a b : RangeEntry UInt32 => a = b ∨ a.max < b.min ∨ b.max < a.min)
      (fun _ _ => Or.inl rfl) (hv.ascending.imp fun h => Or.inr (Or.inl h))
      (hv.ascending.imp fun h => Or.inr (Or.inr h)) hx he
  obtain rfl | hlt | hlt := hapart
  · exact UInt32.le_refl _
  · exact UInt32.le_trans (UInt32.le_of_lt hlt) (hv.min_le_max e he)
  · -- Then `x` begins after `e` ends, against the choice of `e`.
    have hle := UInt32.le_trans (hmax x hx) (hv.min_le_max e he)
    exact absurd hlt (UInt32.not_lt.mpr hle)

end RangeEntry

/-! ## Sizes -/

/-- The packet of a stream at a sample rate, with room for one more frame, in
unbounded numbers. -/
def neededSize {D : UsbDirection} (rate audioRate : UInt32) (config : TerminalConfig D) : Nat :=
  (rate.toNat ⌈/⌉ audioRate.toNat + 1) *
    (config.format.bytesPerSample.toNat * config.numChannels.toNat)

theorem divCeil_toNat {a b : UInt32} (hb : 0 < b) :
    (divCeil a b).toNat = a.toNat ⌈/⌉ b.toNat := by
  have hpos : 0 < b.toNat := UInt32.lt_iff_toNat_lt.mp hb
  have hdiv := Nat.div_add_mod a.toNat b.toNat
  have hlt := Nat.mod_lt a.toNat hpos
  rw [Nat.ceilDiv_eq_add_pred_div, divCeil]
  split
  · rename_i h
    have hmod : 0 < a.toNat % b.toNat := UInt32.lt_iff_toNat_lt.mp h
    have hceil : (a.toNat + b.toNat - 1) / b.toNat = a.toNat / b.toNat + 1 := by
      rw [Nat.div_eq_iff hpos, Nat.add_mul, Nat.mul_comm _ b.toNat]
      omega
    have hquot : a.toNat / b.toNat + 1 < 2 ^ 32 := by
      have htwo : a.toNat / b.toNat ≤ a.toNat / 2 := Nat.div_le_div_left (by omega) (by decide)
      have ha := a.toNat_lt
      omega
    rw [hceil, UInt32.toNat_add, UInt32.toNat_div]
    exact Nat.mod_eq_of_lt hquot
  · rename_i h
    have hmod : a.toNat % b.toNat = 0 := by
      have hnot := mt UInt32.lt_iff_toNat_lt.mpr h
      exact Nat.eq_zero_of_not_pos hnot
    rw [UInt32.toNat_div, Eq.comm, Nat.div_eq_iff hpos, Nat.mul_comm _ b.toNat]
    omega

/-- What is asked for is what is needed, modulo 2^16. -/
theorem packetSize_toNat {D : UsbDirection} {rate audioRate : UInt32} (h : 0 < audioRate)
    (config : TerminalConfig D) :
    (packetSize rate audioRate config).toNat = neededSize rate audioRate config % 2 ^ 16 := by
  rw [packetSize, neededSize, ← divCeil_toNat h]
  simp [TerminalConfig.bytesPerFrame]

/-- A greater rate needs no smaller packet. -/
theorem neededSize_mono {D : UsbDirection} {rate rate' audioRate : UInt32} (h : 0 < audioRate)
    (hle : rate ≤ rate') (config : TerminalConfig D) :
    neededSize rate audioRate config ≤ neededSize rate' audioRate config := by
  have hpos : 0 < audioRate.toNat := UInt32.lt_iff_toNat_lt.mp h
  have hceil : rate.toNat ⌈/⌉ audioRate.toNat ≤ rate'.toNat ⌈/⌉ audioRate.toNat :=
    (gc_mul_ceilDiv hpos).monotone_l (UInt32.le_iff_toNat_le.mp hle)
  exact Nat.mul_le_mul_right _ (Nat.add_le_add_right hceil 1)

/-- The endpoint of a stream has room for the packet at every rate, and its size is
the packet of one of the rates, neither wrapped nor cut. -/
structure Sized {D : UsbDirection} (rates : List (RangeEntry UInt32)) (audioRate : UInt32)
    (s : AudioStream D) : Prop where
  enough : ∀ rate, Advertised rates rate →
    neededSize rate audioRate s.config ≤ s.endpoint.maxPacketSize.toNat
  exact : ∃ rate, Advertised rates rate ∧
    s.endpoint.maxPacketSize.toNat = neededSize rate audioRate s.config

theorem sized_iff {D : UsbDirection} {rates : List (RangeEntry UInt32)} (hv : ValidRates rates)
    {e : RangeEntry UInt32} (he : RangeEntry.maximum rates = some e) {audioRate : UInt32}
    (h : 0 < audioRate) {s : AudioStream D}
    (hs : s.endpoint.maxPacketSize = packetSize e.max audioRate s.config) :
    Sized rates audioRate s ↔
      ∀ rate, Advertised rates rate → neededSize rate audioRate s.config < 2 ^ 16 := by
  obtain ⟨hmem, hmax⟩ := RangeEntry.maximum_spec he
  have hadvertised : Advertised rates e.max :=
    ⟨e, hmem, hv.min_le_max e hmem, UInt32.le_refl _⟩
  constructor
  · intro hsized rate hrate
    exact Nat.lt_of_le_of_lt (hsized.enough rate hrate) s.endpoint.maxPacketSize.toNat_lt
  · intro hfits
    have hsize : s.endpoint.maxPacketSize.toNat = neededSize e.max audioRate s.config := by
      rw [hs, packetSize_toNat h]
      exact Nat.mod_eq_of_lt (hfits _ hadvertised)
    refine ⟨fun rate hrate => ?_, e.max, hadvertised, hsize⟩
    obtain ⟨x, hx, -, hle⟩ := hrate
    rw [hsize]
    exact neededSize_mono h
      (UInt32.le_trans hle (RangeEntry.max_le_of_ascending hv hmem hmax hx)) s.config

/-! ## Build -/

/-- Audio packets in a second, at a speed that build takes. -/
def UsbSpeed.packetRate : UsbSpeed → UInt32
  | .full => 1000
  | _ => 8000

theorem UsbSpeed.packetRate_pos (speed : UsbSpeed) : 0 < speed.packetRate := by
  cases speed <;> decide

theorem UsbSpeed.timing_eq {speed : UsbSpeed} (h : speed ≠ .low) :
    ∃ interval fbInterval, speed.timing = .ok (interval, fbInterval, speed.packetRate) := by
  cases speed with
  | low => exact absurd rfl h
  | full => exact ⟨1, 1, rfl⟩
  | high => exact ⟨1, 4, rfl⟩
  | super => exact ⟨1, 4, rfl⟩

section

variable [UsbBusAllocator A]

theorem isochronous_error {D : UsbDirection} {sync : IsochronousSynchronizationType}
    {usage : IsochronousUsageType} {size : UInt16} {interval : UInt8} {alloc : A}
    {e : Fault Error} (h : isochronous D sync usage size interval alloc = .error e) :
    e = .panic := by
  unfold isochronous at h
  split at h
  · cases h
  · cases h
    rfl

namespace UsbAudioClass

variable {ac : UsbAudioClass AU} {rate : UInt32} {interval fbInterval : UInt8} {alloc : A}
  {e : Fault Error}

theorem addOutput_error {config : Option (TerminalConfig .out)}
    (h : ac.addOutput rate interval fbInterval alloc config = .error e) : e = .panic := by
  cases config with
  | none => cases h
  | some config =>
      obtain h | ⟨_, -, h⟩ := bind_eq_error h
      · exact isochronous_error h
      · obtain h | ⟨_, -, h⟩ := bind_eq_error h
        · exact isochronous_error h
        · cases h

theorem addInput_error {config : Option (TerminalConfig .in)}
    (h : ac.addInput rate interval alloc config = .error e) : e = .panic := by
  cases config with
  | none => cases h
  | some config =>
      obtain h | ⟨_, -, h⟩ := bind_eq_error h
      · exact isochronous_error h
      · cases h

end UsbAudioClass

variable [ClockSource AU]

theorem maxRate_error {audioImpl : AU} {e : Fault Error} (h : maxRate audioImpl = .error e) :
    e = .panic := by
  unfold maxRate at h
  split at h
  · cases h
    rfl
  · split at h
    · cases h
      rfl
    · cases h

/-- The only error that build returns is that of the speed. -/
theorem build_error {config : UsbAudioClassConfig AU} {alloc : A} {e : Fault Error}
    (hspeed : config.speed ≠ .low) (h : config.build alloc = .error e) : e = .panic := by
  obtain h | ⟨_, -, h⟩ := bind_eq_error h
  · obtain ⟨interval, fbInterval, htiming⟩ := UsbSpeed.timing_eq hspeed
    cases htiming.symm.trans h
  · obtain h | ⟨_, -, h⟩ := bind_eq_error h
    · exact maxRate_error h
    · obtain h | ⟨_, -, h⟩ := bind_eq_error h
      · exact UsbAudioClass.addOutput_error h
      · exact UsbAudioClass.addInput_error h

theorem maxRate_ok {audioImpl : AU} {rates : List (RangeEntry UInt32)} {rate : UInt32}
    (hrates : ClockSource.sampleRates audioImpl = .ok rates) (h : maxRate audioImpl = .ok rate) :
    ∃ e, RangeEntry.maximum rates = some e ∧ e.max = rate := by
  rw [maxRate, hrates] at h
  cases he : RangeEntry.maximum rates with
  | none => simp [he] at h
  | some e =>
      simp only [he, Except.ok.injEq] at h
      exact ⟨e, rfl, h⟩

/-- At every rate, the packet of each stream that is configured fits 16 bits. -/
def Representable (rates : List (RangeEntry UInt32)) (config : UsbAudioClassConfig AU) : Prop :=
  ∀ rate, Advertised rates rate →
    (∀ s ∈ config.outputConfig, neededSize rate config.speed.packetRate s < 2 ^ 16) ∧
    ∀ s ∈ config.inputConfig, neededSize rate config.speed.packetRate s < 2 ^ 16

/-- Build asks for enough, or returns an error. -/
structure AsksEnough (rates : List (RangeEntry UInt32)) (config : UsbAudioClassConfig AU)
    (alloc : A) : Prop where
  sized : ∀ c alloc', config.build alloc = .ok (c, alloc') →
    (∀ s ∈ c.output, Sized rates config.speed.packetRate s) ∧
    ∀ s ∈ c.input, Sized rates config.speed.packetRate s
  refused : ¬ Representable rates config → ∃ e, config.build alloc = .error (.err e)

variable [DocumentedAllocator A]

/-- Build asks for enough or returns an error, exactly when every packet fits the 16
bits of a size. -/
theorem asksEnough_iff_representable {config : UsbAudioClassConfig AU}
    (hspeed : config.speed ≠ .low) {rates : List (RangeEntry UInt32)}
    (hrates : ClockSource.sampleRates config.audioImpl = .ok rates) (hv : ValidRates rates)
    (alloc : A) : AsksEnough rates config alloc ↔ Representable rates config := by
  constructor
  · intro h
    by_contra hno
    obtain ⟨e, he⟩ := h.refused hno
    cases build_error hspeed he
  · intro hfits
    refine ⟨fun c alloc' hbuild => ?_, fun hno => absurd hfits hno⟩
    obtain ⟨rate, hb⟩ := build_ok hbuild
    obtain ⟨e, he, rfl⟩ := maxRate_ok hrates hb.maxRate_eq
    have hrate : c.audioRate = config.speed.packetRate := by
      obtain ⟨_, _, htiming⟩ := hb.timing_eq
      obtain ⟨_, _, htiming'⟩ := UsbSpeed.timing_eq hspeed
      have heq := Except.ok.inj (htiming.symm.trans htiming')
      exact (Prod.mk.inj (Prod.mk.inj heq).2).2
    have hpos := config.speed.packetRate_pos
    constructor
    · intro s hs
      obtain ⟨-, -, hsize⟩ := hb.output_fresh hs
      rw [hrate] at hsize
      refine (sized_iff hv he hpos hsize).mpr fun r hr => (hfits r hr).1 s.config ?_
      rw [← hb.output_eq]
      exact Option.mem_map_of_mem _ hs
    · intro s hs
      obtain ⟨-, -, hsize⟩ := hb.input_fresh hs
      rw [hrate] at hsize
      refine (sized_iff hv he hpos hsize).mpr fun r hr => (hfits r hr).2 s.config ?_
      rw [← hb.input_eq]
      exact Option.mem_map_of_mem _ hs

end

/-! ## Builds of the box -/

theorem validRates_newFixed (rate : UInt32) : ValidRates [RangeEntry.newFixed rate] where
  ne_nil := List.cons_ne_nil _ _
  ascending := List.pairwise_singleton _ _
  min_le_max e he := by
    rw [List.mem_singleton.mp he]
    exact UInt32.le_refl rate

theorem advertised_newFixed {rate r : UInt32} (h : Advertised [RangeEntry.newFixed rate] r) :
    r ≤ rate := by
  obtain ⟨e, he, -, hle⟩ := h
  rw [List.mem_singleton.mp he] at hle
  exact hle

/-- At 48 kHz the box needs 56 bytes in a packet. -/
theorem asksEnough_iff_representable_ioBox :
    AsksEnough [.newFixed 48000] ioBox Counters.fresh := by
  refine (asksEnough_iff_representable (by decide) rfl (validRates_newFixed 48000) _).mpr ?_
  intro r hr
  have hle := advertised_newFixed hr
  constructor
  · rintro s ⟨⟩
    exact Nat.lt_of_le_of_lt (neededSize_mono (by decide) hle _) (by decide)
  · rintro s ⟨⟩
    exact Nat.lt_of_le_of_lt (neededSize_mono (by decide) hle _) (by decide)

/-- Eight channels in slots of 43 bytes, as the builder makes them. -/
def wide : TerminalConfig .in :=
  { (stereo 4 : TerminalConfig .in) with
    numChannels := 8
    format := ⟨43, 32⟩
    channelConfig := ⟨0x63f⟩ }

/-- The box at full speed and 192 kHz, with `wide` as its only stream. -/
def wideBox : UsbAudioClassConfig FixedClock :=
  { ioBox with
    speed := .full
    audioImpl := ⟨192000⟩
    inputConfig := some wide
    outputConfig := none }

/-- A packet of 66392 bytes is needed, and 856 bytes are asked for. -/
theorem wide_packet_cut :
    (((TerminalConfigBuilder.new.setBaseId 4).setNumChannels 8).setFormat ⟨43, 32⟩).build =
      some wide ∧
    (∃ c alloc s, wideBox.build Counters.fresh = .ok (c, alloc) ∧ c.input = some s ∧
      s.endpoint.maxPacketSize = 856) ∧
    ClockSource.sampleRates wideBox.audioImpl = .ok [.newFixed 192000] ∧
    ValidRates [.newFixed 192000] ∧ Advertised [.newFixed 192000] 192000 ∧
    neededSize 192000 wideBox.speed.packetRate wide = 66392 ∧
    ¬ AsksEnough [.newFixed 192000] wideBox Counters.fresh := by
  refine ⟨rfl, ⟨_, _, _, rfl, rfl, rfl⟩, rfl, validRates_newFixed _,
    ⟨_, List.mem_singleton_self _, UInt32.le_refl _, UInt32.le_refl _⟩, by decide, fun h => ?_⟩
  have hsized := (h.sized _ _ rfl).2 _ rfl
  exact absurd (hsized.enough 192000
    ⟨_, List.mem_singleton_self _, UInt32.le_refl _, UInt32.le_refl _⟩) (by decide)

end Uac2
