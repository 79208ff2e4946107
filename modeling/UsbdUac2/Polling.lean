import UsbdUac2.Settings
import UsbdUac2.Routing
import UsbdUac2.Lib.Loops

/-!
# Polling

`poll` empties the OUT endpoint of a stream that is not selected.  Its loop reads
until the endpoint has no packet, and an endpoint may answer with an error each
time, so the loop need not return.

`Delivers` is an endpoint that has some packets and then one answer for good.  The
loop stops on an empty packet and on `WouldBlock`, and not on another error.  So
`poll` returns when it does not enter the loop, or when it gets such an answer.
-/

namespace Uac2

open Runs

variable {AU B : Type}

/-! ## An endpoint -/

section

variable [UsbBus B]

/-- The bus after a read of an endpoint. -/
def readOnce (addr : EndpointAddress) (bus : B) : B := (UsbBus.read addr 1024 bus).2

/-- The answer to the read of an endpoint after `k` others. -/
def answerAt (addr : EndpointAddress) (k : Nat) (bus : B) : Except UsbError (List UInt8) :=
  (UsbBus.read addr 1024 ((readOnce addr)^[k] bus)).1

/-- An endpoint that delivers some packets, and answers `last` from then on. -/
structure Delivers (addr : EndpointAddress) (packets : List (List UInt8))
    (last : Except UsbError (List UInt8)) (bus : B) : Prop where
  packet : ∀ k (_ : k < packets.length), answerAt addr k bus = .ok packets[k]
  after : ∀ k, packets.length ≤ k → answerAt addr k bus = last

/-- The answers on which the loop of `poll` stops. -/
def breaks : Except UsbError (List UInt8) → Bool
  | .ok bytes => bytes.length == 0
  | .error .wouldBlock => true
  | .error _ => false

theorem breaks_iff {r : Except UsbError (List UInt8)} :
    breaks r = true ↔ r = .ok [] ∨ r = .error .wouldBlock := by
  cases r with
  | ok bytes => simp [breaks]
  | error e => cases e <;> simp [breaks]

/-- The loop gets an answer on which it stops when a packet is empty or what comes
after the packets is such an answer. -/
theorem Delivers.exists_breaks_iff {addr : EndpointAddress} {packets : List (List UInt8)}
    {last : Except UsbError (List UInt8)} {bus : B} (h : Delivers addr packets last bus) :
    (∃ k, breaks (answerAt addr k bus) = true) ↔
      [] ∈ packets ∨ last = .ok [] ∨ last = .error .wouldBlock := by
  rw [← breaks_iff]
  constructor
  · rintro ⟨k, hk⟩
    rcases Nat.lt_or_ge k packets.length with hlt | hge
    · rw [h.packet k hlt, breaks_iff] at hk
      rcases hk with hk | hk
      · exact Or.inl (Except.ok.inj hk ▸ List.getElem_mem hlt)
      · cases hk
    · rw [h.after k hge] at hk
      exact Or.inr hk
  · rintro (hmem | hlast)
    · obtain ⟨k, hlt, hk⟩ := List.getElem_of_mem hmem
      refine ⟨k, ?_⟩
      rw [h.packet k hlt, hk]
      rfl
    · refine ⟨packets.length, ?_⟩
      rw [h.after _ (Nat.le_refl _)]
      exact hlast

end

/-! ## The loop -/

section

variable [UsbBus B]

/-- One turn of the loop: read a packet and forget it. -/
def pollTurn (ep : Endpoint .out) (w : World AU B) : World AU B := (w.readPacket ep).2

/-- The turn is the last one. -/
def pollStops (ep : Endpoint .out) (w : World AU B) : Bool := breaks (w.readPacket ep).1

/-- Some turns read as often and change nothing else. -/
theorem iterate_pollTurn (ep : Endpoint .out) (k : Nat) (w : World AU B) :
    (pollTurn ep)^[k] w =
      ⟨w.cls, (readOnce ep.address)^[k] w.bus, w.log ++ List.replicate k (.read ep.address)⟩ := by
  induction k generalizing w with
  | zero => rw [List.replicate_zero, List.append_nil, Function.iterate_zero, Function.iterate_zero,
      id, id]
  | succ k ih =>
      rw [Function.iterate_succ_apply, ih, Function.iterate_succ_apply, List.replicate_succ,
        List.append_cons]
      rfl

theorem pollStops_iterate (ep : Endpoint .out) (k : Nat) (w : World AU B) :
    pollStops ep ((pollTurn ep)^[k] w) = breaks (answerAt ep.address k w.bus) := by
  rw [iterate_pollTurn]
  rfl

/-- The loop of `poll` is a loop that stops on an answer. -/
theorem pollLoop_eq {s : AudioStream .out} {w : World AU B} (ho : w.cls.output = some s)
    (fuel : Nat) :
    w.pollLoop fuel = Loops.loop (pollTurn s.endpoint) (pollStops s.endpoint) fuel w := by
  induction fuel generalizing w with
  | zero => rfl
  | succ fuel ih =>
      have hnext : (pollTurn s.endpoint w).cls.output = some s := ho
      rw [World.pollLoop, ho, Loops.loop, ← ih hnext, pollStops, pollTurn]
      obtain ⟨r, w', hread⟩ : ∃ r w', w.readPacket s.endpoint = (r, w') := ⟨_, _, rfl⟩
      simp only [hread]
      cases r with
      | ok bytes => cases bytes <;> rfl
      | error e => cases e <;> rfl

/-- Both streams are present and at setting 0. -/
def BothStopped (c : UsbAudioClass AU) : Prop := c.stored .out = some 0 ∧ c.stored .in = some 0

omit [UsbBus B] in
theorem all_ne_zero_iff {D : UsbDirection} {o : Option (AudioStream D)} :
    o.all (fun s => s.altSetting ≠ 0) = true ↔ o.map AudioStream.altSetting ≠ some 0 := by
  cases o with
  | none => simp
  | some s => simp

/-- The guard of `poll`. -/
theorem poll_eq (fuel : Nat) (w : World AU B) :
    (BothStopped w.cls → w.poll fuel = w.pollLoop fuel) ∧
      (¬ BothStopped w.cls → w.poll fuel = some w) := by
  have hguard : (w.cls.output.all (fun o => o.altSetting ≠ 0) = true ∨
      w.cls.input.all (fun i => i.altSetting ≠ 0) = true) ↔ ¬ BothStopped w.cls := by
    rw [all_ne_zero_iff, all_ne_zero_iff, BothStopped, not_and_or]
    rfl
  constructor
  · intro h
    rw [World.poll, if_neg fun hg => hguard.mp hg h]
  · intro h
    rw [World.poll, if_pos (hguard.mpr h)]

/-- Some fuel is enough for `poll`. -/
def PollReturns (w : World AU B) : Prop := ∃ fuel w', w.poll fuel = some w'

/-- `poll` returns exactly when it does not enter the loop or an answer of the OUT
endpoint stops it. -/
theorem pollReturns_iff {w : World AU B} {packets : List (List UInt8)}
    {last : Except UsbError (List UInt8)}
    (hout : ∀ s, w.cls.output = some s → Delivers s.endpoint.address packets last w.bus) :
    PollReturns w ↔ ¬ BothStopped w.cls ∨
      [] ∈ packets ∨ last = .ok [] ∨ last = .error .wouldBlock := by
  by_cases h : BothStopped w.cls
  · obtain ⟨s, ho, -⟩ := Option.map_eq_some_iff.mp h.1
    have hloop : PollReturns w ↔ ∃ k, breaks (answerAt s.endpoint.address k w.bus) = true := by
      simp only [PollReturns, (poll_eq _ w).1 h, pollLoop_eq ho, Loops.loop_returns_iff,
        pollStops_iterate]
    rw [hloop, (hout s ho).exists_breaks_iff]
    exact ⟨Or.inr, fun hor => hor.resolve_left (absurd h)⟩
  · exact iff_of_true ⟨0, w, (poll_eq 0 w).2 h⟩ (Or.inl h)

end

/-! ## Runs -/

section

variable [AudioHandler AU B] [ClockSource AU] [UsbBus B]

/-- The stream of a direction is present, and the last request for it among some events
selects setting 0, if there is one. -/
def Stopped (c : UsbAudioClass AU) (es : List Event) (d : UsbDirection) : Prop :=
  ∃ n, c.number d = some n ∧ lastSelected n es = 0

theorem stopped_iff {config : UsbAudioClassConfig AU} {rate : UInt32} {c : UsbAudioClass AU}
    (hb : Built config rate c) {bus : B} {ts : List (Transition (World AU B) Event)}
    {w : World AU B} (hr : Run Step (World.start c bus) ts w) (d : UsbDirection) :
    w.cls.stored d = some 0 ↔ Stopped c (events ts) d := by
  constructor
  · intro h
    obtain ⟨hw, hnumber, -⟩ := wired_run (w := World.start c bus) hb.wired hr
    obtain ⟨n, hn⟩ := UsbAudioClass.number_of_stored h
    rw [hnumber] at hn
    exact ⟨n, hn, Option.some.inj ((stored_run hb hr hn).symm.trans h)⟩
  · rintro ⟨n, hn, hzero⟩
    rw [stored_run hb hr hn, hzero]

/-- In every state that is reached from build, with an OUT endpoint that delivers some
packets and then answers the same for good, `poll` returns exactly when a stream is
absent or selected, or an answer stops the loop. -/
theorem poll_returns_iff {A : Type} [UsbBusAllocator A] [DocumentedAllocator A]
    {config : UsbAudioClassConfig AU} {alloc alloc' : A} {c : UsbAudioClass AU}
    (hb : config.build alloc = .ok (c, alloc')) {bus : B}
    {ts : List (Transition (World AU B) Event)} {w : World AU B}
    (hr : Run Step (World.start c bus) ts w) {bus' : B} {packets : List (List UInt8)}
    {last : Except UsbError (List UInt8)}
    (hout : ∀ s, w.cls.output = some s → Delivers s.endpoint.address packets last bus') :
    PollReturns { w with bus := bus' } ↔
      ¬ (Stopped c (events ts) .out ∧ Stopped c (events ts) .in) ∨
        [] ∈ packets ∨ last = .ok [] ∨ last = .error .wouldBlock := by
  obtain ⟨rate, hbuilt⟩ := build_ok hb
  rw [← stopped_iff hbuilt hr, ← stopped_iff hbuilt hr]
  exact pollReturns_iff (w := { w with bus := bus' }) hout

end

theorem iterate_readOnce_scripted (addr : EndpointAddress) (k : Nat) (bus : Scripted) :
    (readOnce addr)^[k] bus = ⟨bus.packets.drop k, bus.last⟩ := by
  induction k generalizing bus with
  | zero => rfl
  | succ k ih =>
      rw [Function.iterate_succ_apply, ih]
      obtain ⟨packets, last⟩ := bus
      cases packets with
      | nil => simp [readOnce, UsbBus.read]
      | cons p packets => rfl

/-- The bus of the bench delivers its packets. -/
theorem delivers_scripted (addr : EndpointAddress) (bus : Scripted) :
    Delivers addr bus.packets bus.last bus := by
  constructor
  · intro k hk
    have hdrop : bus.packets.drop k = bus.packets[k] :: bus.packets.drop (k + 1) :=
      List.drop_eq_getElem_cons hk
    rw [answerAt, iterate_readOnce_scripted, hdrop]
    rfl
  · intro k hk
    rw [answerAt, iterate_readOnce_scripted, List.drop_eq_nil_of_le hk]
    rfl

/-- The box with some packets waiting. -/
def ioBoxWith (bus : Scripted) : World FixedClock Scripted := World.start ioBoxClass bus

/-- Two packets are waiting, and nothing after them. -/
theorem poll_returns_iff_ioBox : PollReturns (ioBoxWith ⟨[[1, 2], [3]], .error .wouldBlock⟩) := by
  obtain ⟨alloc, hb⟩ := build_ioBox
  have hr : Run Step (World.start ioBoxClass (Scripted.mk [[1, 2], [3]] (.error .wouldBlock))) []
      (ioBoxWith ⟨[[1, 2], [3]], .error .wouldBlock⟩) := .nil
  have hout := fun (s : AudioStream .out) (_ : ioBoxClass.output = some s) =>
    delivers_scripted s.endpoint.address ⟨[[1, 2], [3]], .error .wouldBlock⟩
  exact (poll_returns_iff hb hr hout).mpr (Or.inr (Or.inr (Or.inr rfl)))

/-- A packet that is too large for the buffer stays queued, and the box polls for ever. -/
theorem poll_hangs_on_overflow :
    (∃ alloc, ioBox.build Counters.fresh = .ok (ioBoxClass, alloc)) ∧
    (∀ s, ioBoxClass.output = some s →
      Delivers s.endpoint.address [] (.error .bufferOverflow)
        (Scripted.mk [] (.error .bufferOverflow))) ∧
    ¬ PollReturns (ioBoxWith ⟨[], .error .bufferOverflow⟩) := by
  have hout : ∀ s : AudioStream .out, Delivers s.endpoint.address [] (.error .bufferOverflow)
      (Scripted.mk [] (.error .bufferOverflow)) :=
    fun s => delivers_scripted s.endpoint.address ⟨[], .error .bufferOverflow⟩
  refine ⟨build_ioBox, fun s _ => hout s, fun h => ?_⟩
  rcases (pollReturns_iff (w := ioBoxWith _) fun s _ => hout s).mp h with h | h | h | h
  · exact h ⟨rfl, rfl⟩
  · cases h
  · cases h
  · cases h

end Uac2
