import UsbdUac2.Decode
import Mathlib.Data.List.Dedup

/-!
# The layout of a function

A host reads the descriptors of a function as one interface association and a
list of alternate settings.  An interface descriptor begins a setting, and all
that follows up to the next one belongs to it.  `readFunction` reads bytes in this
way, and `readFunction_bytes` says it is the inverse of writing.

`Continues` describes the programs that add to the last setting.  The number of
endpoints that its interface descriptor declares counts along.
-/

namespace Uac2

open ByteWriter
open Frames (Frame flatten)

def isInterface (f : Frame) : Bool := f.kind == 0x04

def isEndpoint (f : Frame) : Bool := f.kind == 0x05

/-- An alternate setting: the standard descriptor and what follows it. -/
structure Setting where
  head : AltSetting
  numEndpoints : UInt8
  body : List Frame
deriving DecidableEq

/-- The interface association, and the settings behind it. -/
structure AudioFunction where
  first : InterfaceNumber
  count : UInt8
  cls : UInt8
  sub : UInt8
  protocol : UInt8
  string : Option StringIndex
  settings : List Setting
deriving DecidableEq

def Setting.frames (s : Setting) : List Frame := s.head.frame s.numEndpoints :: s.body

namespace AudioFunction

def iad (f : AudioFunction) : Frame := iadFrame f.first f.count f.cls f.sub f.protocol f.string

/-- The association, as a writer with or without associations writes it. -/
def iadBytes (f : AudioFunction) (iads : Bool) : List UInt8 := if iads then f.iad.bytes else []

def frames (f : AudioFunction) : List Frame := f.iad :: f.settings.flatMap Setting.frames

def bytes (f : AudioFunction) : List UInt8 := flatten f.frames

/-- The interface numbers, each of them once. -/
def numbers (f : AudioFunction) : List InterfaceNumber :=
  (f.settings.map fun s => s.head.number).dedup

/-- What the descriptors declare is what follows them. -/
structure Consistent (f : AudioFunction) : Prop where
  count_eq : f.count.toNat = f.numbers.length
  consecutive : f.numbers.Perm ((List.range f.count.toNat).map fun i => f.first + UInt8.ofNat i)
  endpoints_eq : ∀ s ∈ f.settings, s.numEndpoints.toNat = s.body.countP isEndpoint

end AudioFunction

/-! ## Reading -/

def readSetting : Frame × List Frame → Option Setting
  | (⟨_, [number, alt, numEndpoints, cls, sub, protocol, string], _⟩, body) =>
      some ⟨⟨number, alt, cls, sub, protocol, stringOf string⟩, numEndpoints, body⟩
  | _ => none

def readSettings : List (Frame × List Frame) → Option (List Setting)
  | [] => some []
  | s :: ss => do
      let setting ← readSetting s
      let settings ← readSettings ss
      return setting :: settings

/-- Read the descriptors of a function. -/
def readFunction (bs : List UInt8) : Option AudioFunction :=
  match (Frames.split bs).map (Frames.sections isInterface) with
  | some ([⟨0x0B, [first, count, cls, sub, protocol, string], _⟩], ss) =>
      (readSettings ss).map fun settings =>
        ⟨first, count, cls, sub, protocol, stringOf string, settings⟩
  | _ => none

/-- A setting that can be told from the next one. -/
structure Setting.Readable (s : Setting) : Prop where
  string : StringOk s.head.string
  body : ∀ f ∈ s.body, isInterface f = false

theorem readSetting_frames {s : Setting} (h : s.Readable) :
    readSetting (s.head.frame s.numEndpoints, s.body) = some s := by
  obtain ⟨⟨number, alt, cls, sub, protocol, string⟩, numEndpoints, body⟩ := s
  simp only [readSetting, AltSetting.frame, interfaceFrame, stringOf_stringCode h.string]

theorem readSettings_frames {ss : List Setting} (h : ∀ s ∈ ss, s.Readable) :
    readSettings (ss.map fun s => (s.head.frame s.numEndpoints, s.body)) = some ss := by
  induction ss with
  | nil => rfl
  | cons s ss ih =>
      rw [List.map_cons, readSettings, readSetting_frames (h s (List.mem_cons_self ..)),
        ih fun x hx => h x (List.mem_cons_of_mem s hx)]
      rfl

/-- A function that was written is read back. -/
theorem readFunction_bytes {f : AudioFunction} (hstring : StringOk f.string)
    (h : ∀ s ∈ f.settings, s.Readable) : readFunction f.bytes = some f := by
  have hsections : Frames.sections isInterface f.frames =
      ([f.iad], f.settings.map fun s => (s.head.frame s.numEndpoints, s.body)) := by
    have hiad : isInterface f.iad = false := rfl
    rw [AudioFunction.frames, Frames.sections, hiad, if_neg Bool.false_ne_true]
    have hrest : Frames.sections isInterface (f.settings.flatMap Setting.frames) =
        ([], f.settings.map fun s => (s.head.frame s.numEndpoints, s.body)) :=
      Frames.sections_flatMap (fun _ _ => rfl) fun s hs => (h s hs).body
    exact congrArg (fun r : List Frame × List (Frame × List Frame) => (f.iad :: r.1, r.2)) hrest
  obtain ⟨first, count, cls, sub, protocol, string, settings⟩ := f
  rw [readFunction, AudioFunction.bytes, Frames.split_flatten, Option.map_some, hsections]
  simp only [AudioFunction.iad, iadFrame, readSettings_frames h, Option.map_some,
    stringOf_stringCode hstring]

/-! ## Writing -/

section

variable {W : Type} [DescriptorWriter W] [DocumentedWriter W]

/-- With enough room, `p` succeeds and the bytes written grow by `bs`. -/
def Writes (p : W → Attempt W) (bs : List UInt8) : Prop :=
  ∀ w, bs.length ≤ (view w).room → ∃ w', p w = .ok w' ∧
    (view w').written = (view w).written ++ bs ∧ (view w').room = (view w).room - bs.length

/-- With enough room, `p` succeeds and adds `fs` to the last setting. -/
def Continues (p : W → Attempt W) (fs : List Frame) : Prop :=
  ∀ w base h n tail, Open (view w) base h n tail → (flatten fs).length ≤ (view w).room →
    ∃ w', p w = .ok w' ∧
      Open (view w') base h (n + UInt8.ofNat (fs.countP isEndpoint)) (tail ++ flatten fs) ∧
      (view w').room = (view w).room - (flatten fs).length

theorem writes_pure : Writes (fun w : W => .ok w) [] :=
  fun w _ => ⟨w, rfl, (List.append_nil _).symm, rfl⟩

theorem Writes.bind {p q : W → Attempt W} {a b : List UInt8} (hp : Writes p a)
    (hq : Writes q b) : Writes (fun w => p w >>= q) (a ++ b) := by
  intro w hroom
  rw [List.length_append] at hroom
  obtain ⟨w₁, h₁, hw₁, hr₁⟩ := hp w (by omega)
  obtain ⟨w₂, h₂, hw₂, hr₂⟩ := hq w₁ (by omega)
  refine ⟨w₂, ?_, ?_, ?_⟩
  · show p w >>= q = _
    rw [h₁]
    exact h₂
  · rw [hw₂, hw₁, List.append_assoc]
  · rw [hr₂, hr₁, List.length_append]
    omega

theorem Continues.bind {p q : W → Attempt W} {fs gs : List Frame} (hp : Continues p fs)
    (hq : Continues q gs) : Continues (fun w => p w >>= q) (fs ++ gs) := by
  intro w base h n tail ho hroom
  rw [Frames.flatten_append, List.length_append] at hroom
  obtain ⟨w₁, h₁, ho₁, hr₁⟩ := hp w base h n tail ho (by omega)
  obtain ⟨w₂, h₂, ho₂, hr₂⟩ := hq w₁ base h _ _ ho₁ (by omega)
  refine ⟨w₂, ?_, ?_, ?_⟩
  · show p w >>= q = _
    rw [h₁]
    exact h₂
  · rw [List.countP_append, UInt8.ofNat_add, ← UInt8.add_assoc, Frames.flatten_append,
      ← List.append_assoc]
    exact ho₂
  · rw [hr₂, hr₁, Frames.flatten_append, List.length_append]
    omega

/-- Descriptors other than endpoints are appended. -/
theorem Appends.continues {p : W → Attempt W} {fs : List Frame} (hp : Appends p (flatten fs))
    (h : fs.countP isEndpoint = 0) : Continues p fs := by
  intro w base head n tail ho hroom
  obtain ⟨w', hrun, hview⟩ := hp w hroom
  refine ⟨w', hrun, ?_, ?_⟩
  · rw [hview, h]
    have hzero : n + UInt8.ofNat 0 = n := UInt8.add_zero n
    rw [hzero]
    exact ho.append _
  · rw [hview, View.append_room]

theorem continues_endpoint {D : UsbDirection} (ep : Endpoint D) :
    Continues (DescriptorWriter.endpoint ep : W → Attempt W) [endpointFrame ep] := by
  intro w base h n tail ho hroom
  obtain ⟨w', hrun, ho', hroom'⟩ := ho.endpoint ep hroom
  refine ⟨w', hrun, ?_, hroom'⟩
  rw [Frames.flatten_cons, Frames.flatten_nil, List.append_nil]
  exact ho'

theorem writes_interfaceAlt (h : AltSetting) :
    Writes (DescriptorWriter.interfaceAlt h.number h.alt h.cls h.sub h.protocol h.string :
      W → Attempt W) (flatten (Setting.frames ⟨h, 0, []⟩)) := by
  intro w hroom
  obtain ⟨w', hrun, ho, hroom'⟩ := open_interfaceAlt h hroom
  refine ⟨w', hrun, ?_, hroom'⟩
  rw [ho.written_eq, List.append_nil, Setting.frames, Frames.flatten_cons, Frames.flatten_nil,
    List.append_nil]

/-- A setting is its standard descriptor and what continues it. -/
theorem Continues.writes {p : W → Attempt W} {fs : List Frame} (hp : Continues p fs)
    (h : AltSetting) :
    Writes (fun w => DescriptorWriter.interfaceAlt h.number h.alt h.cls h.sub h.protocol
      h.string w >>= p)
      (flatten (Setting.frames ⟨h, UInt8.ofNat (fs.countP isEndpoint), fs⟩)) := by
  intro w hroom
  have hlen : (flatten (Setting.frames ⟨h, UInt8.ofNat (fs.countP isEndpoint), fs⟩)).length =
      9 + (flatten fs).length := by
    rw [Setting.frames, Frames.flatten_cons, List.length_append, Frame.length_bytes]
    rfl
  rw [hlen] at hroom ⊢
  obtain ⟨w₁, h₁, ho₁, hr₁⟩ := open_interfaceAlt h (w := w) (by omega)
  obtain ⟨w₂, h₂, ho₂, hr₂⟩ := hp w₁ _ h 0 [] ho₁ (by omega)
  refine ⟨w₂, ?_, ?_, ?_⟩
  · show DescriptorWriter.interfaceAlt h.number h.alt h.cls h.sub h.protocol h.string w >>= p = _
    rw [h₁]
    exact h₂
  · rw [ho₂.written_eq, UInt8.zero_add, List.nil_append, List.append_assoc]
    rfl
  · omega

end

end Uac2
