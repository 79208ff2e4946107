import UsbdUac2.Polling

/-!
# Draining the OUT endpoint

Packets that are left over from a stream that was stopped are of no use, and `poll`
is there to forget them.  The packets of a live stream are left to the device.

The loop reads the OUT endpoint only, but the guard in front of it looks at both
streams.  So the packets of a stopped OUT stream stay queued when there is no IN
stream and when the IN stream is live.  No packet of a live stream is lost.
-/

namespace Uac2

open Runs

variable {AU B : Type}

section

variable [UsbBus B]

/-- The packets that are queued at an endpoint, the oldest first.  Reads take them in
order, and are `WouldBlock` when there is none left. -/
def Queued (addr : EndpointAddress) (packets : List (List UInt8)) (bus : B) : Prop :=
  Delivers addr packets (.error .wouldBlock) bus

/-- A read takes the oldest packet. -/
theorem Queued.read {addr : EndpointAddress} {p : List UInt8} {packets : List (List UInt8)}
    {bus : B} (h : Queued addr (p :: packets) bus) :
    (UsbBus.read addr 1024 bus).1 = .ok p ∧ Queued addr packets (readOnce addr bus) := by
  refine ⟨h.packet 0 (Nat.zero_lt_succ _), fun k hk => ?_, fun k hk => ?_⟩
  · exact h.packet (k + 1) (Nat.succ_lt_succ hk)
  · exact h.after (k + 1) (Nat.succ_le_succ hk)

/-- Some reads take as many packets. -/
theorem Queued.iterate {addr : EndpointAddress} {packets : List (List UInt8)} {bus : B}
    (h : Queued addr packets bus) (k : Nat) :
    Queued addr (packets.drop k) ((readOnce addr)^[k] bus) := by
  induction k generalizing packets bus with
  | zero => exact h
  | succ k ih =>
      rw [Function.iterate_succ_apply]
      cases packets with
      | nil =>
          have hnext : Queued addr [] (readOnce addr bus) :=
            ⟨fun k hk => absurd hk (Nat.not_lt_zero k), fun k _ => h.after (k + 1) (Nat.zero_le _)⟩
          rw [List.drop_nil]
          exact List.drop_nil (i := k) ▸ ih hnext
      | cons p packets => exact ih h.read.2

/-- What is queued is determined by the bus, so far as it is empty or not. -/
theorem Queued.eq_nil {addr : EndpointAddress} {packets : List (List UInt8)} {bus : B}
    (h : Queued addr packets bus) (hnone : Queued addr [] bus) : packets = [] := by
  cases packets with
  | nil => rfl
  | cons p packets =>
      have hread := h.read.1
      cases hread.symm.trans (hnone.after 0 (Nat.le_refl 0))

/-- What `poll` does to the packets of the OUT stream if it only looks at that stream. -/
structure DrainsAlone (s : AudioStream .out) (w : World AU B) : Prop where
  stopped : s.altSetting = 0 → ∃ fuel w', w.poll fuel = some w' ∧
    Queued s.endpoint.address [] w'.bus ∧ calls (actionsOf w w') = []
  live : s.altSetting ≠ 0 → ∀ fuel, w.poll fuel = some w

/-- The reads of a poll call no method of the device. -/
theorem calls_reads (k : Nat) (addr : EndpointAddress) :
    calls (List.replicate k (.read addr)) = [] := by
  rw [calls, List.filter_eq_nil_iff]
  intro a ha
  rw [List.eq_of_mem_replicate ha]
  exact Bool.false_ne_true

/-- The loop ends with nothing queued. -/
theorem poll_drains {s : AudioStream .out} {packets : List (List UInt8)} {w : World AU B}
    (h : BothStopped w.cls) (ho : w.cls.output = some s)
    (hq : Queued s.endpoint.address packets w.bus) (hne : [] ∉ packets) :
    ∃ fuel w', w.poll fuel = some w' ∧ Queued s.endpoint.address [] w'.bus ∧
      calls (actionsOf w w') = [] := by
  have hout : ∀ s', w.cls.output = some s' →
      Delivers s'.endpoint.address packets (.error .wouldBlock) w.bus := by
    intro s' ho'
    cases ho.symm.trans ho'
    exact hq
  obtain ⟨fuel, w', hrun⟩ : PollReturns w :=
    (pollReturns_iff hout).mpr (Or.inr (Or.inr (Or.inr rfl)))
  refine ⟨fuel, w', hrun, ?_⟩
  rw [(poll_eq fuel w).1 h, pollLoop_eq ho] at hrun
  obtain ⟨k, hk, -, rfl⟩ := Loops.loop_eq_some hrun
  rw [pollStops_iterate] at hk
  rw [iterate_pollTurn]
  -- The turn that stops the loop finds no packet, since packets are not empty.
  have hlast : packets.length ≤ k := by
    by_contra hlt
    rw [hq.packet k (Nat.lt_of_not_le hlt), breaks_iff] at hk
    rcases hk with hk | hk
    · exact hne (Except.ok.inj hk ▸ List.getElem_mem _)
    · cases hk
  refine ⟨?_, ?_⟩
  · have hrest := hq.iterate (k + 1)
    rwa [List.drop_eq_nil_of_le (Nat.le_succ_of_le hlast)] at hrest
  · rw [actionsOf, List.drop_left]
    exact calls_reads _ _

/-- `poll` looks at the OUT stream alone exactly when that stream is live, or the IN
stream is stopped too, or there is nothing to drain. -/
theorem drainsAlone_iff {s : AudioStream .out} {packets : List (List UInt8)} {w : World AU B}
    (ho : w.cls.output = some s) (hq : Queued s.endpoint.address packets w.bus)
    (hne : [] ∉ packets) :
    DrainsAlone s w ↔ s.altSetting ≠ 0 ∨ w.cls.stored .in = some 0 ∨ packets = [] := by
  have hstored := UsbAudioClass.stored_output ho
  have hlive : s.altSetting ≠ 0 → ∀ fuel, w.poll fuel = some w := by
    intro halt fuel
    exact (poll_eq fuel w).2 fun h => halt (Option.some.inj (hstored.symm.trans h.1))
  by_cases halt : s.altSetting = 0
  · by_cases hin : w.cls.stored .in = some 0
    · have hboth : BothStopped w.cls := ⟨hstored.trans (congrArg some halt), hin⟩
      exact iff_of_true ⟨fun _ => poll_drains hboth ho hq hne, hlive⟩ (Or.inr (Or.inl hin))
    · have hskip : ∀ fuel, w.poll fuel = some w := fun fuel => (poll_eq fuel w).2 fun h => hin h.2
      constructor
      · intro h
        obtain ⟨fuel, w', hrun, hempty, -⟩ := h.stopped halt
        cases (hskip fuel).symm.trans hrun
        exact Or.inr (Or.inr (hq.eq_nil hempty))
      · rintro (h | h | rfl)
        · exact absurd halt h
        · exact absurd h hin
        · refine ⟨fun _ => ⟨0, w, hskip 0, hq, ?_⟩, hlive⟩
          rw [actionsOf, List.drop_length]
          rfl
  · exact iff_of_true ⟨fun h => absurd h halt, hlive⟩ (Or.inl halt)

end

/-! ## Runs -/

/-- In every state that is reached from build with an OUT stream, and with any packets
queued at its endpoint, `poll` looks at that stream alone exactly when it is live, or
the IN stream is present and stopped, or nothing is queued. -/
theorem drains_alone_iff [AudioHandler AU B] [ClockSource AU] [UsbBus B] {A : Type}
    [UsbBusAllocator A] [DocumentedAllocator A]
    {config : UsbAudioClassConfig AU} {alloc alloc' : A} {c : UsbAudioClass AU}
    (hb : config.build alloc = .ok (c, alloc')) {bus : B}
    {ts : List (Transition (World AU B) Event)} {w : World AU B}
    (hr : Run Step (World.start c bus) ts w) {s : AudioStream .out}
    (ho : w.cls.output = some s) {bus' : B} {packets : List (List UInt8)}
    (hq : Queued s.endpoint.address packets bus')
    (hne : [] ∉ packets) :
    DrainsAlone s { w with bus := bus' } ↔
      lastSelected s.interface (events ts) ≠ 0 ∨ Stopped c (events ts) .in ∨ packets = [] := by
  obtain ⟨rate, hbuilt⟩ := build_ok hb
  obtain ⟨-, hnumber, -⟩ := wired_run (w := World.start c bus) hbuilt.wired hr
  have hn : c.number .out = some s.interface :=
    (congrFun hnumber .out).symm.trans (UsbAudioClass.number_output ho)
  have hstored := UsbAudioClass.stored_output ho
  have halt : s.altSetting = lastSelected s.interface (events ts) :=
    Option.some.inj (hstored.symm.trans (stored_run hbuilt hr hn))
  rw [← stopped_iff hbuilt hr, ← halt]
  exact drainsAlone_iff (w := { w with bus := bus' }) ho hq hne

/-! ## Runs of the box -/

/-- The box with some packets waiting, and the IN stream selected. -/
def ioBoxRecording (bus : Scripted) : World FixedClock Scripted :=
  (ioBoxWith bus).controlOut (selectSetting 2 1)

/-- Both streams are stopped, and two packets are drained. -/
theorem drains_alone_iff_ioBox :
    DrainsAlone ⟨stereo 2, 1, ⟨⟨0x01⟩, .asynchronous, .data, 56, 1⟩, 0⟩
      (ioBoxWith ⟨[[1, 2], [3]], .error .wouldBlock⟩) := by
  obtain ⟨alloc, hb⟩ := build_ioBox
  have hr : Run Step (ioBoxWith ⟨[[1, 2], [3]], .error .wouldBlock⟩) []
      (ioBoxWith ⟨[[1, 2], [3]], .error .wouldBlock⟩) := .nil
  have hq : Queued ⟨0x01⟩ [[1, 2], [3]] (Scripted.mk [[1, 2], [3]] (.error .wouldBlock)) :=
    delivers_scripted ⟨0x01⟩ ⟨[[1, 2], [3]], .error .wouldBlock⟩
  refine (drains_alone_iff hb hr rfl hq (by decide)).mpr (Or.inr (Or.inl ?_))
  exact ⟨2, rfl, rfl⟩

/-- The OUT stream is stopped and has a packet left, and the IN stream is live.  The packet
stays queued however often the box is polled. -/
theorem stale_packet_survives :
    (∃ alloc, ioBox.build Counters.fresh = .ok (ioBoxClass, alloc)) ∧
    (∃ ts, Run Step (ioBoxWith ⟨[[1, 2, 3]], .error .wouldBlock⟩) ts
      (ioBoxRecording ⟨[[1, 2, 3]], .error .wouldBlock⟩)) ∧
    (ioBoxRecording ⟨[[1, 2, 3]], .error .wouldBlock⟩).cls.output =
      some ⟨stereo 2, 1, ⟨⟨0x01⟩, .asynchronous, .data, 56, 1⟩, 0⟩ ∧
    (∀ fuel, (ioBoxRecording ⟨[[1, 2, 3]], .error .wouldBlock⟩).poll fuel =
      some (ioBoxRecording ⟨[[1, 2, 3]], .error .wouldBlock⟩)) ∧
    Queued ⟨0x01⟩ [[1, 2, 3]] (ioBoxRecording ⟨[[1, 2, 3]], .error .wouldBlock⟩).bus ∧
    ¬ DrainsAlone ⟨stereo 2, 1, ⟨⟨0x01⟩, .asynchronous, .data, 56, 1⟩, 0⟩
      (ioBoxRecording ⟨[[1, 2, 3]], .error .wouldBlock⟩) := by
  have hq : Queued ⟨0x01⟩ [[1, 2, 3]] (Scripted.mk [[1, 2, 3]] (.error .wouldBlock)) :=
    delivers_scripted ⟨0x01⟩ ⟨[[1, 2, 3]], .error .wouldBlock⟩
  refine ⟨build_ioBox, ⟨_, Run.nil.snoc (step_controlOut _ (selectSetting 2 1))⟩, rfl,
    fun _ => rfl, hq, fun h => ?_⟩
  obtain ⟨fuel, w', hrun, hempty, -⟩ := h.stopped rfl
  cases hrun
  cases hq.eq_nil hempty

end Uac2
