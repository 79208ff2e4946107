import UsbdUac2.PlaybackOrder

/-!
# The read of the position

`consumed_bytes` reads the counter of the slots, the register of the channel twice, and
the counter again, and starts over when one of them moved.  Between any two reads the
channel may move words and its interrupt may be served.  `Reading` is the playback with
the USB task inside this loop: a run of it is one call, with everything that happens
meanwhile.

The loop ends as soon as nothing moves for seven reads (`returns`).  What it returns is
the counter and the register of one moment, the last time it read the register first
(`snapshot_run`).  For this the counter must not come back to
a value it had, and it does not: it only gains on the published slots, of which there
are no more than the ring has.  Where the ring counts what was played, the moment's
counter and register are the bytes that were sent (`consumedBytes_moment`).
-/

namespace Uac2

open DmaRing (boardRing)
open Runs (Run Transition)

/-! ## The loop -/

/-- Where a call of `consumed_bytes` is: what it reads next, and what it has read in this
turn. -/
inductive Reader where
  | top
  | atReg1 (consumedStart : UInt32)
  | atReg2 (consumedStart reg1 : UInt32)
  | atEnd (consumedStart reg1 reg2 : UInt32)
  | done (v : UInt32)
deriving DecidableEq, Repr

namespace Playback

variable {N maxSlotBytes : Nat}

/-- What the count field of the channel shows: one less than the words that are left. -/
def countdown (s : Playback N maxSlotBytes) : Nat := s.descriptor.words - 1 - s.word

/-- The register `XFERCFG` of the channel: that of the descriptor, with the count of what
is left. -/
def xfercfg (s : Playback N maxSlotBytes) : UInt32 :=
  (s.descriptor.xfercfg &&& (0xffff : UInt32)) ||| (UInt32.ofNat s.countdown <<< (16 : UInt32))

/-- What the loop takes from the register. -/
def reg (s : Playback N maxSlotBytes) : UInt32 := s.xfercfg >>> 16 &&& 0x3ff

theorem countdown_lt (s : Playback N maxSlotBytes) : s.countdown < 1024 := by
  have hfield : (Xfercfg.ofWord s.descriptor.xfercfg).xfercount < 1024 := by
    show xferCount _ < 1024
    rw [xferCount, toNat_and_1023]
    exact Nat.mod_lt _ (by decide)
  rw [countdown, DmaDescriptor.words]
  omega

theorem toNat_and_65535 (x : UInt32) : (x &&& 0xffff).toNat = x.toNat % 65536 :=
  (UInt32.toNat_and x 0xffff).trans (Nat.and_two_pow_sub_one_eq_mod x.toNat 16)

theorem reg_eq (s : Playback N maxSlotBytes) : s.reg = UInt32.ofNat s.countdown := by
  have hlt := s.countdown_lt
  have hcount : (UInt32.ofNat s.countdown).toNat = s.countdown :=
    UInt32.toNat_ofNat_of_lt' (by simp only [UInt32.size]; omega)
  have hlow : Packs (s.descriptor.xfercfg &&& 0xffff) 16 (s.descriptor.xfercfg.toNat % 65536) :=
    ⟨toNat_and_65535 _, Nat.mod_lt _ (by decide)⟩
  have hword := (hlow.field (k := 16) (w := 10) (by decide) hcount hlt (by decide)
    (by decide)).toNat_eq
  have hshift : (s.xfercfg >>> 16).toNat = s.xfercfg.toNat / 65536 := by
    rw [UInt32.toNat_shiftRight, Nat.shiftRight_eq_div_pow]
    rfl
  have hsixteen : (16 : UInt32).toNat = 16 := rfl
  rw [← UInt32.toNat_inj, hcount, reg, toNat_and_1023, hshift, xfercfg, hword, hsixteen]
  omega

end Playback

/-- The next read of the loop. -/
def Reader.next {N maxSlotBytes : Nat} (s : Playback N maxSlotBytes) : Reader → Reader
  | .top => .atReg1 s.ring.consumed
  | .atReg1 consumedStart => .atReg2 consumedStart s.reg
  | .atReg2 consumedStart reg1 => .atEnd consumedStart reg1 s.reg
  | .atEnd consumedStart reg1 reg2 =>
      if consumedStart = s.ring.consumed ∧ reg1 = reg2 then
        .done (s.ring.bytesAt consumedStart reg1)
      else .top
  | .done v => .done v

/-- The playback, and the USB task inside the loop. -/
structure Reading (N maxSlotBytes : Nat) where
  playback : Playback N maxSlotBytes
  reader : Reader

inductive ReadingEvent where
  | read
  | hardware (e : PlaybackEvent)
deriving DecidableEq, Repr

namespace Reading

variable {N maxSlotBytes : Nat}

/-- One read of the loop, or one step of the channel or of its interrupt. -/
inductive Step : Reading N maxSlotBytes → ReadingEvent → Reading N maxSlotBytes → Prop where
  | read {p : Reading N maxSlotBytes} :
      Step p .read { p with reader := p.reader.next p.playback }
  | hardware {p : Reading N maxSlotBytes} {e : PlaybackEvent} {s : Playback N maxSlotBytes} :
      e = .word ∨ e = .interrupt → Playback.Step p.playback e s →
      Step p (.hardware e) { p with playback := s }

/-- The state in which the last turn of the loop read the register first. -/
def Looked (ts : List (Transition (Reading N maxSlotBytes) ReadingEvent))
    (m : Playback N maxSlotBytes) : Prop :=
  ∃ us consumedStart p vs, ts = us ++ ⟨⟨m, .atReg1 consumedStart⟩, .read, p⟩ :: vs ∧
    ∀ t ∈ vs, ∀ c, t.pre.reader ≠ .atReg1 c

section

variable {ts us : List (Transition (Reading N maxSlotBytes) ReadingEvent)}
  {m : Playback N maxSlotBytes}

theorem Looked.mem (h : Looked ts m) : ∃ t ∈ ts, t.pre.playback = m := by
  obtain ⟨us, c, p, vs, rfl, -⟩ := h
  exact ⟨_, List.mem_append_right _ List.mem_cons_self, rfl⟩

theorem Looked.snoc (h : Looked ts m) {t : Transition (Reading N maxSlotBytes) ReadingEvent}
    (ht : ∀ c, t.pre.reader ≠ .atReg1 c) : Looked (ts ++ [t]) m := by
  obtain ⟨us, c, p, vs, rfl, hvs⟩ := h
  refine ⟨us, c, p, vs ++ [t], by rw [List.append_assoc, List.cons_append], ?_⟩
  exact Runs.forall_snoc.mpr ⟨hvs, ht⟩

/-- The last turn of a run is in its rear part, if that has one. -/
theorem Looked.of_append (h : Looked (ts ++ us) m)
    (hus : ∃ t ∈ us, ∃ c, t.pre.reader = .atReg1 c) : Looked us m := by
  obtain ⟨xs, c, p, vs, heq, hvs⟩ := h
  rcases List.append_eq_append_iff.mp heq with ⟨as, rfl, hrear⟩ | ⟨bs, rfl, hrear⟩
  · exact ⟨as, c, p, vs, hrear, hvs⟩
  · cases bs with
    | nil => exact ⟨[], c, p, vs, hrear.symm, hvs⟩
    | cons b bs =>
        obtain ⟨t, ht, c', htc⟩ := hus
        have hmem : t ∈ vs := by
          rw [(List.cons.inj hrear).2]
          exact List.mem_append_right _ ht
        exact absurd htc (hvs t hmem c')

end

/-! ## One moment -/

/-- What the hardware does to the ring: the counter of the slots gains on the published
ones, and nothing else moves. -/
structure Drains (s s' : Playback N maxSlotBytes) : Prop where
  produced : s'.ring.produced = s.ring.produced
  slotBytes : s'.ring.slotBytes = s.ring.slotBytes
  wordBytes : s'.ring.wordBytes = s.ring.wordBytes
  received : s'.received = s.received
  fill_le : s'.ring.fillSlots.toNat ≤ s.ring.fillSlots.toNat

section

variable {s s' m : Playback N maxSlotBytes} {e : PlaybackEvent}

theorem drains_refl (s : Playback N maxSlotBytes) : Drains s s :=
  ⟨rfl, rfl, rfl, rfl, Nat.le_refl _⟩

theorem Drains.trans (h : Drains s m) (h' : Drains m s') : Drains s s' :=
  ⟨h'.produced.trans h.produced, h'.slotBytes.trans h.slotBytes, h'.wordBytes.trans h.wordBytes,
    h'.received.trans h.received, h'.fill_le.trans h.fill_le⟩

/-- A slot is acknowledged only where one is counted as unread. -/
theorem drains_acknowledge (s : Playback N maxSlotBytes) :
    Drains s { s with ring := Playback.acknowledge s.ring, inta := false } := by
  by_cases hlt : s.ring.consumed < s.ring.produced
  · have hack : Playback.acknowledge s.ring =
        { s.ring with
          consumed := s.ring.consumed + 1
          consumedBytes := s.ring.consumedBytes + 1 * UInt32.ofNat s.ring.slotBytes } := by
      rw [Playback.acknowledge, DmaRing.advanceConsumed, if_pos hlt]
    rw [hack]
    refine ⟨rfl, rfl, rfl, rfl, ?_⟩
    show (s.ring.produced - (s.ring.consumed + 1)).toNat ≤ (s.ring.produced - s.ring.consumed).toNat
    have hone : (s.ring.consumed + 1).toNat = s.ring.consumed.toNat + 1 := by
      rw [UInt32.lt_iff_toNat_lt] at hlt
      have hsize := s.ring.produced.toNat_lt
      have hunit : (1 : UInt32).toNat = 1 := rfl
      rw [UInt32.toNat_add, hunit]
      exact Nat.mod_eq_of_lt (by omega)
    rw [UInt32.lt_iff_toNat_lt] at hlt
    rw [UInt32.toNat_sub_of_le _ _ (UInt32.le_iff_toNat_le.mpr (by omega)),
      UInt32.toNat_sub_of_le _ _ (UInt32.le_iff_toNat_le.mpr hlt.le)]
    omega
  · have hack : Playback.acknowledge s.ring = s.ring := by
      rw [Playback.acknowledge, DmaRing.advanceConsumed, if_neg hlt]
    rw [hack]
    exact ⟨rfl, rfl, rfl, rfl, Nat.le_refl _⟩

theorem drains_step (he : e = .word ∨ e = .interrupt) (hs : Playback.Step s e s') :
    Drains s s' := by
  cases hs with
  | word hrun hword hmore => exact ⟨rfl, rfl, rfl, rfl, Nat.le_refl _⟩
  | lastWord hrun hword hlast hnext => exact ⟨rfl, rfl, rfl, rfl, Nat.le_refl _⟩
  | interrupt hinta => exact drains_acknowledge s
  | rx hidle => rcases he with he | he <;> cases he
  | pass hpush hne hfull => rcases he with he | he <;> cases he
  | finish hpush hdone => rcases he with he | he <;> cases he

/-- A counter that is read twice as the same was the same in between. -/
theorem Drains.consumed_eq (h : Drains s m) (h' : Drains m s')
    (hsame : s.ring.consumed = s'.ring.consumed) : s.ring.consumed = m.ring.consumed := by
  have hproduced := h'.produced.trans h.produced
  have hfill : s'.ring.fillSlots = s.ring.fillSlots := by
    rw [DmaRing.fillSlots, DmaRing.fillSlots, hproduced, hsame]
  have hmid : m.ring.fillSlots = s.ring.fillSlots := by
    rw [← UInt32.toNat_inj]
    exact Nat.le_antisymm h.fill_le (hfill ▸ h'.fill_le)
  rw [DmaRing.fillSlots, DmaRing.fillSlots, h.produced] at hmid
  have hdiff := congrArg (fun x => s.ring.produced - x) hmid
  simpa using hdiff.symm

end

/-- What the loop knows in a state, by what it has read. -/
def Knows (ts : List (Transition (Reading N maxSlotBytes) ReadingEvent))
    (s : Playback N maxSlotBytes) : Reader → Prop
  | .top => True
  | .atReg1 consumedStart => ∃ a, consumedStart = a.ring.consumed ∧ Drains a s
  | .atReg2 consumedStart reg1 | .atEnd consumedStart reg1 _ =>
      ∃ a m, consumedStart = a.ring.consumed ∧ Drains a m ∧ Looked ts m ∧ reg1 = m.reg ∧ Drains m s
  | .done v => ∃ m, Looked ts m ∧ v = m.ring.bytesAt m.ring.consumed m.reg

section

variable {ts : List (Transition (Reading N maxSlotBytes) ReadingEvent)}
  {p p' : Reading N maxSlotBytes} {e : ReadingEvent} {s₀ : Playback N maxSlotBytes}

theorem Knows.step (h : Knows ts p.playback p.reader) (hs : Step p e p') :
    Knows (ts ++ [⟨p, e, p'⟩]) p'.playback p'.reader := by
  cases hs with
  | read =>
      rcases p with ⟨s, reader⟩
      cases reader with
      | top => exact ⟨s, rfl, drains_refl s⟩
      | atReg1 c =>
          obtain ⟨a, hc, has⟩ := h
          exact ⟨a, s, hc, has, ⟨ts, c, _, [], rfl, by simp⟩, rfl, drains_refl s⟩
      | atReg2 c r =>
          obtain ⟨a, m, hc, ham, hm, hr, hms⟩ := h
          exact ⟨a, m, hc, ham, hm.snoc (by simp), hr, hms⟩
      | atEnd c r r' =>
          obtain ⟨a, m, hc, ham, hm, hr, hms⟩ := h
          by_cases hrest : c = s.ring.consumed ∧ r = r'
          · have hnext : Reader.next s (.atEnd c r r') = .done (s.ring.bytesAt c r) :=
              if_pos hrest
            have hmoment := ham.consumed_eq hms (hc.symm.trans hrest.1)
            dsimp only
            rw [hnext]
            refine ⟨m, hm.snoc (by simp), ?_⟩
            rw [DmaRing.bytesAt, DmaRing.bytesAt, hms.slotBytes, hms.wordBytes, hc, hmoment, hr]
          · have hnext : Reader.next s (.atEnd c r r') = .top := if_neg hrest
            dsimp only
            rw [hnext]
            trivial
      | done v =>
          obtain ⟨m, hm, hv⟩ := h
          exact ⟨m, hm.snoc (by simp), hv⟩
  | @hardware e s' he hs =>
      rcases p with ⟨s, reader⟩
      have hdrains := drains_step he hs
      cases reader with
      | top => trivial
      | atReg1 c =>
          obtain ⟨a, hc, has⟩ := h
          exact ⟨a, hc, has.trans hdrains⟩
      | atReg2 c r =>
          obtain ⟨a, m, hc, ham, hm, hr, hms⟩ := h
          exact ⟨a, m, hc, ham, hm.snoc (by simp), hr, hms.trans hdrains⟩
      | atEnd c r r' =>
          obtain ⟨a, m, hc, ham, hm, hr, hms⟩ := h
          exact ⟨a, m, hc, ham, hm.snoc (by simp), hr, hms.trans hdrains⟩
      | done v =>
          obtain ⟨m, hm, hv⟩ := h
          exact ⟨m, hm.snoc (by simp), hv⟩

theorem knows_run (hr : Run Step ⟨s₀, .top⟩ ts p) : Knows ts p.playback p.reader := by
  induction hr with
  | nil => trivial
  | snoc hr hs ih => exact ih.step hs

/-- A call that returns gives the counter and the register of the moment at which its last
turn read the register first. -/
theorem snapshot_run {v : UInt32} (hr : Run Step ⟨s₀, .top⟩ ts p) (hdone : p.reader = .done v) :
    ∃ m, Looked ts m ∧ v = m.ring.bytesAt m.ring.consumed m.reg := by
  have h := knows_run hr
  rw [hdone] at h
  exact h

end

/-! ## The bytes that were sent -/

section

variable {ring : DmaRing N maxSlotBytes} {s₀ s : Playback N maxSlotBytes}
  {ts : List (Transition (Playback N maxSlotBytes) PlaybackEvent)}
  {us : List (Transition (Reading N maxSlotBytes) ReadingEvent)} {p : Reading N maxSlotBytes}

/-- The bytes at a counter and the register are those of the slots counted and of the words
moved. -/
theorem bytesAt_reg (h : Playback.Inv ring s) (ha : ring.Aligned)
    (hcount : ring.slotBytes < 1024 * ring.wordBytes) (consumedStart : UInt32) :
    s.ring.bytesAt consumedStart s.reg =
      consumedStart * UInt32.ofNat ring.slotBytes + UInt32.ofNat (s.word * ring.wordBytes) := by
  have hlt := h.word_lt
  have hmul := ha.words_mul s.active
  have hreg : s.reg = UInt32.ofNat ((ring.descriptor s.active).words - 1 - s.word) := by
    rw [s.reg_eq, Playback.countdown, Playback.descriptor, h.desc]
  generalize (ring.descriptor s.active).words = words at hlt hmul hreg
  obtain ⟨left, rfl⟩ : ∃ left, words = s.word + 1 + left := ⟨words - (s.word + 1), by omega⟩
  have hleft : s.word + 1 + left < 1024 := by
    refine Nat.lt_of_mul_lt_mul_right (a := ring.wordBytes) ?_
    rwa [hmul]
  have hofNat : s.reg = UInt32.ofNat left := by
    rw [hreg]
    congr 1
    omega
  have hne : s.reg ≠ 0x3ff := by
    intro h0
    have hnat := congrArg UInt32.toNat (hofNat.symm.trans h0)
    have h1023 : (0x3ff : UInt32).toNat = 1023 := rfl
    rw [UInt32.toNat_ofNat_of_lt' (by simp only [UInt32.size]; omega)] at hnat
    omega
  have hsplit : ring.slotBytes = s.word * ring.wordBytes + (left + 1) * ring.wordBytes := by
    rw [← hmul, ← Nat.add_mul]
    congr 1
    omega
  have hactive : UInt32.ofNat ring.slotBytes - (s.reg + 1) * UInt32.ofNat ring.wordBytes =
      UInt32.ofNat (s.word * ring.wordBytes) := by
    have hone : s.reg + 1 = UInt32.ofNat (left + 1) := by
      rw [hofNat, UInt32.ofNat_add]
      rfl
    rw [hone, ← UInt32.ofNat_mul, hsplit, UInt32.ofNat_add, UInt32.add_sub_cancel]
  rw [DmaRing.bytesAt, h.slotBytes, h.wordBytes, if_neg hne]
  exact congrArg _ hactive

/-- The steps of the hardware during the call are timely and prompt. -/
def InTime (ring : DmaRing N maxSlotBytes)
    (t : Transition (Reading N maxSlotBytes) ReadingEvent) : Prop :=
  ∀ e, t.event = .hardware e →
    Playback.Timely ring ⟨t.pre.playback, e, t.post.playback⟩ ∧
      Playback.Prompt ⟨t.pre.playback, e, t.post.playback⟩

/-- A call that begins in a run goes on in it. -/
theorem inv_looked (h : Playback.Inv ring s₀) (hr : Run Step ⟨s₀, .top⟩ us p)
    {m : Playback N maxSlotBytes} (hm : Looked us m) :
    Playback.Inv ring m ∧ m.received = s₀.received := by
  obtain ⟨t, ht, rfl⟩ := hm.mem
  refine hr.forall_mem (fun p => Playback.Inv ring p.playback ∧ p.playback.received = s₀.received)
    ⟨h, rfl⟩ (fun h hs => ?_) (fun h _ => h) t ht
  cases hs with
  | read => exact h
  | hardware he hs => exact ⟨h.1.step hs, (drains_step he hs).received.trans h.2⟩

theorem counted_looked (ha : ring.Aligned) (h : Playback.Counted ring s₀)
    (hr : Run Step ⟨s₀, .top⟩ us p) (hus : ∀ t ∈ us, InTime ring t)
    {m : Playback N maxSlotBytes} (hm : Looked us m) : Playback.Counted ring m := by
  obtain ⟨t, ht, rfl⟩ := hm.mem
  refine hr.forall_pre_of (fun p => Playback.Counted ring p.playback) hus h
    (fun h hs hok => ?_) t ht
  cases hs with
  | read => exact h
  | hardware he hs =>
      obtain ⟨htimely, hprompt⟩ := hok _ rfl
      exact h.step ha hs htimely hprompt

/-- Where the ring counts what was played, its counter and the words moved are the bytes
that were sent, short of a slot whose interrupt is pending. -/
theorem sent_eq_of_counted (h : Playback.Counted ring s)
    (hsmall : s.received.length < UInt32.size * ring.slotBytes) :
    s.ring.consumed * UInt32.ofNat ring.slotBytes + UInt32.ofNat (s.word * ring.wordBytes) =
      UInt32.ofNat (s.sent.length - s.inta.toNat * ring.slotBytes) := by
  obtain ⟨P, hP⟩ := h.counted hsmall
  have hlen : s.sent.length = Playback.position ring s := by
    rw [h.sent_eq, List.length_take, Nat.min_eq_left h.behind]
  have hmul : s.inta.toNat * ring.slotBytes ≤ s.read * ring.slotBytes :=
    Nat.mul_le_mul_right _ h.pending
  rw [hP.consumed_eq, ← UInt32.ofNat_mul, ← UInt32.ofNat_add, hlen, Playback.position,
    Playback.served, Nat.sub_mul]
  congr 1
  omega

end

/-! ## Calls -/

section

variable {s s' : Playback N maxSlotBytes}
  {us : List (Transition (Reading N maxSlotBytes) ReadingEvent)}

/-- A call that nothing interrupts returns after one turn. -/
theorem alone_run (s : Playback N maxSlotBytes) :
    ∃ us, Run Step ⟨s, .top⟩ us ⟨s, .done (s.ring.bytesAt s.ring.consumed s.reg)⟩ ∧
      us.length = 4 ∧ (∀ t ∈ us, t.event = .read ∧ t.pre.playback = s) ∧
      ∃ t ∈ us, ∃ c, t.pre.reader = .atReg1 c := by
  have hdone : Reader.next s (.atEnd s.ring.consumed s.reg s.reg) =
      .done (s.ring.bytesAt s.ring.consumed s.reg) := if_pos ⟨rfl, rfl⟩
  have hr : Run Step ⟨s, .top⟩ _ ⟨s, .atEnd s.ring.consumed s.reg s.reg⟩ :=
    ((Run.nil.snoc .read).snoc .read).snoc .read
  have hlast : Step ⟨s, .atEnd s.ring.consumed s.reg s.reg⟩ .read
      ⟨s, .done (s.ring.bytesAt s.ring.consumed s.reg)⟩ := hdone ▸ .read
  refine ⟨_, hr.snoc hlast, rfl, by simp, ⟨⟨s, .atReg1 s.ring.consumed⟩, .read,
    ⟨s, .atReg2 s.ring.consumed s.reg⟩⟩, ?_, s.ring.consumed, rfl⟩
  exact List.mem_append_left _ (List.mem_append_left _ (List.mem_append_right _
    (List.mem_singleton_self _)))

/-- What such a call returns. -/
theorem alone_eq {v : UInt32} (hr : Run Step ⟨s, .top⟩ us ⟨s', .done v⟩)
    (hus : ∀ t ∈ us, t.event = .read) : v = s.ring.bytesAt s.ring.consumed s.reg := by
  obtain ⟨m, hm, hv⟩ := snapshot_run hr rfl
  obtain ⟨t, ht, rfl⟩ := hm.mem
  have hstill : t.pre.playback = s := by
    refine hr.forall_pre_of (fun p => p.playback = s) hus rfl (fun h hs he => ?_) t ht
    cases hs with
    | read => exact h
    | hardware _ _ => cases he
  rw [hv, hstill]

/-- The call returns within `k` reads, when nothing interrupts them. -/
def Returns (k : Nat) (p : Reading N maxSlotBytes) : Prop :=
  ∃ us v, Run Step p us ⟨p.playback, .done v⟩ ∧ us.length ≤ k ∧ ∀ t ∈ us, t.event = .read

section

variable {k l : Nat} {p : Reading N maxSlotBytes}

theorem Returns.mono (h : Returns k p) (hle : k ≤ l) : Returns l p := by
  obtain ⟨us, v, hr, hlen, hus⟩ := h
  exact ⟨us, v, hr, hlen.trans hle, hus⟩

theorem Returns.read (h : Returns k { p with reader := p.reader.next p.playback }) :
    Returns (k + 1) p := by
  obtain ⟨us, v, hr, hlen, hus⟩ := h
  refine ⟨_, v, (Run.nil.snoc .read).append hr, Nat.succ_le_succ hlen, fun t ht => ?_⟩
  rcases List.mem_append.mp ht with ht | ht
  · rw [List.mem_singleton.mp ht]
  · exact hus t ht

theorem returns_done (s : Playback N maxSlotBytes) (v : UInt32) : Returns 0 ⟨s, .done v⟩ :=
  ⟨[], v, .nil, Nat.le_refl 0, by simp⟩

theorem returns_top (s : Playback N maxSlotBytes) : Returns 4 ⟨s, .top⟩ := by
  obtain ⟨us, hr, hlen, hus, -⟩ := alone_run s
  exact ⟨us, _, hr, hlen.le, fun t ht => (hus t ht).1⟩

/-- The last read of a turn ends the call or starts another turn. -/
theorem returns_atEnd (s : Playback N maxSlotBytes) (c r r' : UInt32) :
    Returns 5 ⟨s, .atEnd c r r'⟩ := by
  refine Returns.read ?_
  by_cases hrest : c = s.ring.consumed ∧ r = r'
  · have hnext : Reader.next s (.atEnd c r r') = .done (s.ring.bytesAt c r) := if_pos hrest
    dsimp only
    rw [hnext]
    exact (returns_done s _).mono (Nat.zero_le 4)
  · have hnext : Reader.next s (.atEnd c r r') = .top := if_neg hrest
    dsimp only
    rw [hnext]
    exact returns_top s

/-- From any point of a call, seven such reads are enough. -/
theorem returns (p : Reading N maxSlotBytes) : Returns 7 p := by
  rcases p with ⟨s, reader⟩
  cases reader with
  | top => exact (returns_top s).mono (by decide)
  | atReg1 c => exact (returns_atEnd s c s.reg s.reg).read.read
  | atReg2 c r => exact (returns_atEnd s c r s.reg).read.mono (by decide)
  | atEnd c r r' => exact (returns_atEnd s c r r').mono (by decide)
  | done v => exact (returns_done s v).mono (by decide)

end

/-- A word that is moved between the two reads of the register makes the loop start over. -/
theorem disturbed_run (hs : Playback.Step s .word s') (hne : s.reg ≠ s'.reg) :
    ∃ us, Run Step ⟨s, .top⟩ us ⟨s', .top⟩ ∧ us.length = 5 ∧
      ∀ t ∈ us, ∀ e, t.event = .hardware e →
        t.pre.playback = s ∧ e = .word ∧ t.post.playback = s' := by
  have htop : Reader.next s' (.atEnd s.ring.consumed s.reg s'.reg) = .top :=
    if_neg fun h => hne h.2
  have hr : Run Step ⟨s, .top⟩ _ ⟨s', .atEnd s.ring.consumed s.reg s'.reg⟩ :=
    (((Run.nil.snoc .read).snoc .read).snoc (.hardware (Or.inl rfl) hs)).snoc .read
  have hlast : Step ⟨s', .atEnd s.ring.consumed s.reg s'.reg⟩ .read ⟨s', .top⟩ := htop ▸ .read
  exact ⟨_, hr.snoc hlast, rfl, by simp⟩

end

/-! ## The call -/

section

variable {ring : DmaRing N maxSlotBytes} {s₀ : Playback N maxSlotBytes}
  {ts : List (Transition (Playback N maxSlotBytes) PlaybackEvent)}
  {us : List (Transition (Reading N maxSlotBytes) ReadingEvent)} {p : Reading N maxSlotBytes}

/-- From any point of a call of `consumed_bytes`, seven reads that nothing interrupts make it
return.  It returns the counter of the slots and the position in the slot of one moment of
the call.  Where the channel reads in time and its interrupt is served in time, that is the
number of bytes that were sent at that moment, short of a slot whose interrupt was then
pending. -/
theorem consumedBytes_moment (ha : ring.Aligned)
    (hcount : ring.slotBytes < 1024 * ring.wordBytes)
    (hr : Run Playback.Step (Playback.start ring) ts s₀) (hr' : Run Step ⟨s₀, .top⟩ us p) :
    Returns 7 p ∧ ∀ v, p.reader = .done v → ∃ m, Looked us m ∧
      v = m.ring.consumed * UInt32.ofNat ring.slotBytes +
        UInt32.ofNat (m.word * ring.wordBytes) ∧
      ((∀ t ∈ ts, Playback.Timely ring t ∧ Playback.Prompt t) → (∀ t ∈ us, InTime ring t) →
        s₀.received.length < UInt32.size * ring.slotBytes →
          v = UInt32.ofNat (m.sent.length - m.inta.toNat * ring.slotBytes)) := by
  refine ⟨returns p, fun v hdone => ?_⟩
  obtain ⟨m, hm, hv⟩ := snapshot_run hr' hdone
  obtain ⟨hinv, hreceived⟩ := inv_looked (Playback.inv_run hr) hr' hm
  rw [bytesAt_reg hinv ha hcount] at hv
  refine ⟨m, hm, hv, fun hts hus hsmall => ?_⟩
  have hstart : Playback.Counted ring s₀ := Playback.counted_run ha hr hts
  rw [hv]
  exact sent_eq_of_counted (counted_looked ha hstart hr' hus hm) (hreceived ▸ hsmall)

end

/-! ## A call on the board -/

/-- A call whose first turn is disturbed by the 48th word, and which returns in its second
turn. -/
structure DisturbedCall (ts : List (Transition (Playback 8 384) PlaybackEvent))
    (s₀ : Playback 8 384) (us : List (Transition (Reading 8 384) ReadingEvent))
    (s : Playback 8 384) : Prop where
  played : Run Playback.Step (Playback.start boardRing) ts s₀
  inTime : ∀ t ∈ ts, Playback.Timely boardRing t ∧ Playback.Prompt t
  idle : s₀.task = .idle
  running : s₀.running = true
  received : s₀.received.length = 2304
  called : Run Step ⟨s₀, .top⟩ us ⟨s, .done (s.ring.bytesAt s.ring.consumed s.reg)⟩
  length : us.length = 9
  callInTime : ∀ t ∈ us, InTime boardRing t
  looked : ∀ m, Looked us m → m = s
  inta : s.inta = false
  unfed : s.received.length = 2304
  before : s₀.sent.length = 188
  after : s.sent.length = 192

theorem words_boardRing (i : Fin 8) : (boardRing.descriptor i).words = 96 := by
  have h : (boardRing.descriptor i).words * 4 = 384 := Playback.aligned_boardRing.words_mul i
  omega

/-- The ring of the example, more than half full, after 47 words. -/
theorem played_boardRing : ∃ ts s, Run Playback.Step (Playback.start boardRing) ts s ∧
    (∀ t ∈ ts, Playback.Timely boardRing t ∧ Playback.Prompt t) ∧ s.task = .idle ∧
      s.running = true ∧ s.received.length = 2304 ∧ s.read = 0 ∧ s.word = 47 ∧ s.inta = false ∧
        s.sent.length = 188 := by
  obtain ⟨ts, s, hr, hts, hidle, hrun, hreceived, hquiet⟩ := Playback.start_boardRing
  have hword : s.word = 0 := hquiet.word
  have hread : s.read = 0 := hquiet.read
  have hsent : s.sent = [] := hquiet.sent
  obtain ⟨us, bytes, hr', hlen, hus⟩ := Playback.words_run Playback.aligned_boardRing
    (Playback.inv_run hr) hrun (show s.word + 47 < (boardRing.descriptor s.active).words by
      rw [words_boardRing, hword]
      decide)
  refine ⟨ts ++ us, _, hr.append hr', fun t ht => ?_, hidle, hrun, hreceived, hread, ?_,
    hquiet.inta, ?_⟩
  · rcases List.mem_append.mp ht with ht | ht
    · exact Playback.unread_timely hr hts t ht
    · obtain ⟨-, hpre, hpost⟩ := hus t ht
      exact Playback.first_slot_timely (by decide) (hpre.trans hread) (hpost.trans hread)
  · show s.word + 47 = 47
    rw [hword]
  · show (s.sent ++ bytes).length = 188
    rw [List.length_append, hlen, hsent]
    rfl

theorem reg_boardRing {s : Playback 8 384} (h : Playback.Inv boardRing s) :
    s.reg = UInt32.ofNat (95 - s.word) := by
  rw [s.reg_eq, Playback.countdown, Playback.descriptor, h.desc, words_boardRing]

theorem disturbedCall_boardRing : ∃ ts s₀ us s, DisturbedCall ts s₀ us s := by
  obtain ⟨ts, s₀, hr, hts, hidle, hrun, hreceived, hread, hword, hinta, hsent⟩ := played_boardRing
  have hinv := Playback.inv_run hr
  obtain ⟨bytes, hstep, hlen⟩ := Playback.next_word Playback.aligned_boardRing hinv hrun
    (show s₀.word + 1 < (boardRing.descriptor s₀.active).words by
      rw [words_boardRing, hword]
      decide)
  have hne : s₀.reg ≠ Playback.reg { s₀ with word := s₀.word + 1, sent := s₀.sent ++ bytes } := by
    rw [reg_boardRing hinv, reg_boardRing (hinv.step hstep), hword]
    show UInt32.ofNat 48 ≠ UInt32.ofNat 47
    decide
  obtain ⟨us, hus, hturn, hhard⟩ := disturbed_run hstep hne
  obtain ⟨vs, hvs, hlast, halone, hreads⟩ := alone_run
    { s₀ with word := s₀.word + 1, sent := s₀.sent ++ bytes }
  refine ⟨ts, s₀, us ++ vs, _, hr, hts, hidle, hrun, hreceived, hus.append hvs, ?_,
    fun t ht e he => ?_, fun m hm => ?_, hinta, hreceived, hsent, ?_⟩
  · rw [List.length_append, hturn, hlast]
  · rcases List.mem_append.mp ht with ht | ht
    · obtain ⟨hpre, rfl, hpost⟩ := hhard t ht e he
      exact Playback.first_slot_timely (by decide) (by rw [hpre, hread])
        ((congrArg Playback.read hpost).trans hread)
    · cases he.symm.trans (halone t ht).1
  · obtain ⟨t, ht, rfl⟩ := (hm.of_append hreads).mem
    exact (halone t ht).2
  · rw [List.length_append, hlen, hsent]
    rfl

/-- The loop returns the bytes of 48 words, as one more was sent while it ran. -/
theorem consumedBytes_boardRing : ∃ ts s₀ us s v,
    Run Playback.Step (Playback.start boardRing) ts s₀ ∧ s₀.sent.length = 188 ∧
      Run Step ⟨s₀, .top⟩ us ⟨s, .done v⟩ ∧ us.length = 9 ∧ s.sent.length = 192 ∧ v = 192 := by
  obtain ⟨ts, s₀, us, s, h⟩ := disturbedCall_boardRing
  obtain ⟨-, hmoment⟩ := consumedBytes_moment Playback.aligned_boardRing (by decide) h.played
    h.called
  obtain ⟨m, hm, -, hv⟩ := hmoment _ rfl
  obtain rfl := h.looked m hm
  have hsent := hv h.inTime h.callInTime (by rw [h.received]; decide)
  refine ⟨ts, s₀, us, m, _, h.played, h.before, h.called, h.length, h.after, ?_⟩
  rw [hsent, h.after, h.inta]
  rfl

end Reading

end Uac2
