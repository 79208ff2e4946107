import UsbdUac2.Configuration
import UsbdUac2.Lib.Naming
import Mathlib.Data.List.Forall2

/-!
# The audio topology

A host reads the entities of the AudioControl block and the streaming interfaces,
and follows the identifiers from one to the other.  `entities` and `links` read
them from the settings, with no more of each descriptor than the identifiers, the
terminal types and the channel clusters.

`StreamPath` says how a stream hangs together, for both directions: its interface,
its two terminals and the clock.  The terminals change places with the direction
and the streaming interface is written apart from them.  `AudioStream.path` finds
the path of any stream whose terminals stand in a block where all identifiers are
distinct.
-/

namespace Uac2

open ByteWriter
open Frames (Frame flatten ofLe16 ofLe32)
open Naming (Names names_of_mem)
open Descriptors (AudioClassDescriptor InputTerminal OutputTerminal)

/-! ## Entities -/

/-- An input terminal, as the start of a path. -/
structure InputEntity where
  id : UInt8
  terminalType : UInt16
  clockSource : UInt8
  numChannels : UInt8
  channelConfig : UInt32
deriving DecidableEq

/-- An output terminal, as the end of a path. -/
structure OutputEntity where
  id : UInt8
  terminalType : UInt16
  sourceId : UInt8
  clockSource : UInt8
deriving DecidableEq

/-- What the block has an identifier for. -/
inductive Entity where
  | clockSource (id : UInt8)
  | clockMultiplier (id sourceId : UInt8)
  | inputTerminal (t : InputEntity)
  | outputTerminal (t : OutputEntity)
deriving DecidableEq

namespace Entity

def id : Entity → UInt8
  | clockSource id => id
  | clockMultiplier id _ => id
  | inputTerminal t => t.id
  | outputTerminal t => t.id

def terminalType : Entity → Option UInt16
  | inputTerminal t => some t.terminalType
  | outputTerminal t => some t.terminalType
  | _ => none

def isInputTerminal : Entity → Bool
  | inputTerminal _ => true
  | _ => false

end Entity

/-- Read a record of the block behind the header. -/
def readEntity : Frame → Option Entity
  | ⟨0x24, [0x0A, id, _, _, _, _], _⟩ => some (.clockSource id)
  | ⟨0x24, [0x0C, id, sourceId, _, _], _⟩ => some (.clockMultiplier id sourceId)
  | ⟨0x24, [0x02, id, t0, t1, _, clock, channels, c0, c1, c2, c3, _, _, _, _], _⟩ =>
      some (.inputTerminal ⟨id, ofLe16 t0 t1, clock, channels, ofLe32 c0 c1 c2 c3⟩)
  | ⟨0x24, [0x03, id, t0, t1, _, source, clock, _, _, _], _⟩ =>
      some (.outputTerminal ⟨id, ofLe16 t0 t1, source, clock⟩)
  | _ => none

def Descriptors.InputTerminal.entity (d : InputTerminal) : InputEntity :=
  ⟨d.id, d.terminalType.code, d.clockSource, d.numChannels, d.channelConfig.bits⟩

def Descriptors.OutputTerminal.entity (d : OutputTerminal) : OutputEntity :=
  ⟨d.id, d.terminalType.code, d.sourceId, d.clockSource⟩

/-- The entity that a descriptor describes. -/
def Descriptors.AudioClassDescriptor.entity : AudioClassDescriptor → Entity
  | .clockSource d => .clockSource d.id
  | .clockMultiplier d => .clockMultiplier d.id d.sourceId
  | .inputTerminal d => .inputTerminal d.entity
  | .outputTerminal d => .outputTerminal d.entity

theorem readEntity_frame (d : AudioClassDescriptor) : readEntity d.frame = some d.entity := by
  cases d with
  | clockSource d => rfl
  | clockMultiplier d => rfl
  | inputTerminal d =>
      have hread : readEntity (AudioClassDescriptor.inputTerminal d).frame =
          some (.inputTerminal ⟨d.id,
            ofLe16 d.terminalType.code.toUInt8 (d.terminalType.code >>> 8).toUInt8,
            d.clockSource, d.numChannels,
            ofLe32 d.channelConfig.bits.toUInt8 (d.channelConfig.bits >>> 8).toUInt8
              (d.channelConfig.bits >>> 16).toUInt8
              (d.channelConfig.bits >>> 24).toUInt8⟩) := rfl
      rw [hread, Frames.ofLe16_le16, Frames.ofLe32_le32]
      rfl
  | outputTerminal d =>
      have hread : readEntity (AudioClassDescriptor.outputTerminal d).frame =
          some (.outputTerminal ⟨d.id,
            ofLe16 d.terminalType.code.toUInt8 (d.terminalType.code >>> 8).toUInt8,
            d.sourceId, d.clockSource⟩) := rfl
      rw [hread, Frames.ofLe16_le16]
      rfl

/-! ## Streaming interfaces -/

/-- What a streaming interface says of its stream. -/
structure StreamLink where
  terminalLink : UInt8
  numChannels : UInt8
  channelConfig : UInt32
  /-- The data endpoint. -/
  endpoint : EndpointAddress
deriving DecidableEq

/-- The terminal, the number of channels and their map. -/
def readGeneral : Frame → Option (UInt8 × UInt8 × UInt32)
  | ⟨0x24, [0x01, link, _, _, _, _, _, _, channels, c0, c1, c2, c3, _], _⟩ =>
      some (link, channels, ofLe32 c0 c1 c2 c3)
  | _ => none

/-- The address of an endpoint for data.  Bits 4 and 5 tell it from a feedback
endpoint. -/
def readDataEndpoint : Frame → Option EndpointAddress
  | ⟨0x05, addr :: attributes :: _, _⟩ =>
      if (attributes >>> 4) &&& 3 = 0 then some ⟨addr⟩ else none
  | _ => none

/-- A setting that moves data has one class-specific descriptor and one data endpoint. -/
def readLink (s : Setting) : Option StreamLink :=
  match s.body.filterMap readGeneral, s.body.filterMap readDataEndpoint with
  | [(link, channels, config)], [ep] => some ⟨link, channels, config, ep⟩
  | _, _ => none

theorem readDataEndpoint_frame {D : UsbDirection} (ep : Endpoint D) :
    readDataEndpoint (endpointFrame ep) = if ep.usage = .data then some ep.address else none := by
  have hbits : (ep.bmAttributes >>> 4) &&& 3 = 0 ↔ ep.usage = .data := by
    rw [Endpoint.bmAttributes]
    cases ep.usage <;> cases ep.synchronization <;> decide
  exact if_congr hbits rfl rfl

namespace AudioStream

variable {D : UsbDirection}

def link (s : AudioStream D) : StreamLink where
  terminalLink := s.config.baseId
  numChannels := s.config.numChannels
  channelConfig := s.config.channelConfig.bits
  endpoint := s.endpoint.address

/-- The setting that moves data is read back, with a feedback endpoint behind it or
not. -/
theorem readLink_body {s : AudioStream D} (hs : s.endpoint.usage = .data) {n : UInt8}
    {more : List Frame} (hgeneral : more.filterMap readGeneral = [])
    (hendpoint : more.filterMap readDataEndpoint = []) :
    readLink ⟨s.head 1, n, s.body ++ more⟩ = some s.link := by
  have hfirst : s.body.filterMap readGeneral = [(s.config.baseId, s.config.numChannels,
      ofLe32 s.config.channelConfig.bits.toUInt8 (s.config.channelConfig.bits >>> 8).toUInt8
        (s.config.channelConfig.bits >>> 16).toUInt8
        (s.config.channelConfig.bits >>> 24).toUInt8)] := rfl
  have hsecond : s.body.filterMap readDataEndpoint = [s.endpoint.address] := by
    have hread := readDataEndpoint_frame s.endpoint
    rw [if_pos hs] at hread
    have hshape : s.body.filterMap readDataEndpoint =
        [endpointFrame s.endpoint].filterMap readDataEndpoint := rfl
    rw [hshape, List.filterMap_cons_some hread, List.filterMap_nil]
  rw [readLink, List.filterMap_append, List.filterMap_append, hfirst, hsecond, hgeneral,
    hendpoint, Frames.ofLe32_le32]
  rfl

end AudioStream

/-! ## Reading a function -/

/-- The setting of a control interface. -/
def Setting.isControl (s : Setting) : Bool := s.head.sub == InterfaceSubclass.audioControl.code

/-- A setting of a streaming interface, other than the one without data. -/
def Setting.movesData (s : Setting) : Bool :=
  s.head.sub == InterfaceSubclass.audioStreaming.code && s.head.alt != defaultAlternateSetting

/-- Read the settings, whatever stands in front of the first one. -/
def readInterfaces (bs : List UInt8) : Option (List Setting) :=
  (Frames.split bs).bind fun fs => readSettings (Frames.sections isInterface fs).2

/-- The entities of the AudioControl block. -/
def entities (ss : List Setting) : Option (List Entity) :=
  match ss.filter Setting.isControl with
  | [⟨_, _, ⟨0x24, 0x01 :: _, _⟩ :: records⟩] => records.mapM readEntity
  | _ => none

/-- The links of the streaming interfaces. -/
def links (ss : List Setting) : Option (List StreamLink) :=
  (ss.filter Setting.movesData).mapM readLink

/-- The settings of a function are read back, with an association in front or
without. -/
theorem readInterfaces_bytes {f : AudioFunction} (h : ∀ s ∈ f.settings, s.Readable)
    (iads : Bool) : readInterfaces (f.iadBytes iads ++
      flatten (f.settings.flatMap Setting.frames)) = some f.settings := by
  have hiad : f.iadBytes iads = flatten (if iads then [f.iad] else []) := by
    cases iads with
    | false => rfl
    | true => exact (List.append_nil _).symm
  have hfront : ∀ x ∈ (if iads then [f.iad] else []), isInterface x = false := by
    cases iads with
    | false => exact fun x hx => absurd hx List.not_mem_nil
    | true =>
        intro x hx
        rw [List.mem_singleton.mp hx]
        rfl
  have hsections : (Frames.sections isInterface (f.settings.flatMap Setting.frames)).2 =
      f.settings.map fun s => (s.head.frame s.numEndpoints, s.body) :=
    congrArg Prod.snd (Frames.sections_flatMap (fun _ _ => rfl) fun s hs => (h s hs).body)
  rw [readInterfaces, hiad, ← Frames.flatten_append, Frames.split_flatten, Option.bind_some,
    Frames.sections_append hfront, hsections]
  exact readSettings_frames h

theorem mapM_entity (ds : List AudioClassDescriptor) :
    (ds.map AudioClassDescriptor.frame).mapM readEntity =
      some (ds.map AudioClassDescriptor.entity) := by
  have hread : readEntity ∘ AudioClassDescriptor.frame =
      fun d => pure (AudioClassDescriptor.entity d) := funext readEntity_frame
  rw [List.mapM_map, hread, List.mapM_pure]
  rfl

theorem AudioStream.links_settings {D : UsbDirection} {s : AudioStream D}
    (hs : s.endpoint.usage = .data) {n : UInt8} {more : List Frame}
    (hgeneral : more.filterMap readGeneral = [])
    (hendpoint : more.filterMap readDataEndpoint = []) :
    ((s.settings n more).filter Setting.movesData).mapM readLink = some [s.link] := by
  have hfilter : (s.settings n more).filter Setting.movesData =
      [⟨s.head 1, n, s.body ++ more⟩] := rfl
  rw [hfilter, List.mapM_cons, readLink_body hs hgeneral hendpoint]
  rfl

namespace UsbAudioClass

variable {AU : Type} {c : UsbAudioClass AU} {clock : Descriptors.ClockSource}

/-- The entities that are read are those of the descriptors of the block. -/
theorem entities_function : entities (c.function clock).settings =
    some ((c.block clock).inner.map AudioClassDescriptor.entity) := by
  have hcontrol : (c.function clock).settings.filter Setting.isControl =
      [⟨c.controlHead, 0, (c.block clock).frames⟩] := by
    have hkeep : Setting.isControl ⟨c.controlHead, 0, (c.block clock).frames⟩ = true := rfl
    rw [function, List.filter_cons_of_pos hkeep, List.filter_append]
    cases c.input <;> cases c.output <;> cases c.feedback <;> rfl
  rw [entities, hcontrol]
  exact mapM_entity _

theorem links_input (hdata : ∀ s ∈ c.input, s.endpoint.usage = .data) :
    ((inputSettings c.input).filter Setting.movesData).mapM readLink =
      some (c.input.toList.map AudioStream.link) := by
  cases h : c.input with
  | none => rfl
  | some s => exact AudioStream.links_settings (hdata s h) rfl rfl

theorem links_output (hfb : c.feedback.isSome = c.output.isSome)
    (hdata : ∀ s ∈ c.output, s.endpoint.usage = .data)
    (hfeedback : ∀ ep ∈ c.feedback, ep.usage = .feedback) :
    ((outputSettings c.output c.feedback).filter Setting.movesData).mapM readLink =
      some (c.output.toList.map AudioStream.link) := by
  cases h : c.output with
  | none => rfl
  | some s =>
      rw [h, Option.isSome_some, Option.isSome_iff_exists] at hfb
      obtain ⟨fb, hfb⟩ := hfb
      have hskip : readDataEndpoint (endpointFrame fb) = none := by
        rw [readDataEndpoint_frame, hfeedback fb hfb]
        rfl
      rw [hfb]
      exact AudioStream.links_settings (hdata s h) rfl (List.filterMap_cons_none hskip)

/-- The links that are read are those of the streams, the IN stream first. -/
theorem links_function (hfb : c.feedback.isSome = c.output.isSome)
    (hinput : ∀ s ∈ c.input, s.endpoint.usage = .data)
    (houtput : ∀ s ∈ c.output, s.endpoint.usage = .data)
    (hfeedback : ∀ ep ∈ c.feedback, ep.usage = .feedback) :
    links (c.function clock).settings =
      some (c.input.toList.map AudioStream.link ++ c.output.toList.map AudioStream.link) := by
  have hskip : Setting.movesData ⟨c.controlHead, 0, (c.block clock).frames⟩ ≠ true :=
    Bool.false_ne_true
  rw [links, function, List.filter_cons_of_neg hskip, List.filter_append,
    List.mapM_append, links_input hinput, links_output hfb houtput hfeedback]
  rfl

end UsbAudioClass

/-! ## Paths -/

/-- The stream of direction `D` whose terminals have the identifiers `base` and
`base + 1`, from its interface through the block.  Every reference finds one entity. -/
structure StreamPath (es : List Entity) (D : UsbDirection) (base : UInt8) (link : StreamLink)
    (input : InputEntity) (output : OutputEntity) : Prop where
  ids_perm : [input.id, output.id].Perm [base, base + 1]
  output_mem : .outputTerminal output ∈ es
  /-- Both terminals run on the clock. -/
  input_clock : Names Entity.id es input.clockSource (.clockSource 1)
  output_clock : Names Entity.id es output.clockSource (.clockSource 1)
  source : Names Entity.id es output.sourceId (.inputTerminal input)
  direction_eq : link.endpoint.direction = D
  /-- The interface is linked to the USB terminal of the two, which is the input
  terminal when its data endpoint is OUT. -/
  terminal : ∃ t, Names Entity.id es link.terminalLink t ∧
    (t = .inputTerminal input ∨ t = .outputTerminal output) ∧
    t.terminalType = some TerminalType.usbStreaming.code ∧
    (t.isInputTerminal = true ↔ link.endpoint.direction = .out)
  numChannels_eq : link.numChannels = input.numChannels
  channelConfig_eq : link.channelConfig = input.channelConfig

/-- The terminals of a stream whose identifiers are distinct make its path. -/
theorem AudioStream.path {D : UsbDirection} {s : AudioStream D} {es : List Entity}
    (hids : (es.map Entity.id).Nodup) (hclock : .clockSource 1 ∈ es)
    (hdirection : s.endpoint.address.direction = D) (hsource : s.config.clockSourceId = 1)
    (hmem : ∀ d ∈ terminalPair (some s.config.getConfigurationDescriptors), d.entity ∈ es) :
    StreamPath es D s.config.baseId s.link s.config.getConfigurationDescriptors.1.entity
      s.config.getConfigurationDescriptors.2.entity := by
  have hnames : Names Entity.id es s.config.clockSourceId (.clockSource 1) := by
    rw [hsource]
    exact names_of_mem hids hclock
  have hinput : .inputTerminal s.config.getConfigurationDescriptors.1.entity ∈ es :=
    hmem (.inputTerminal _) (List.mem_cons_self ..)
  have houtput : .outputTerminal s.config.getConfigurationDescriptors.2.entity ∈ es :=
    hmem (.outputTerminal _) (List.mem_cons_of_mem _ (List.mem_singleton_self _))
  have hi := names_of_mem hids hinput
  have ho := names_of_mem hids houtput
  cases D with
  | out => exact {
      ids_perm := List.Perm.refl _
      output_mem := houtput
      input_clock := hnames
      output_clock := hnames
      source := hi
      direction_eq := hdirection
      terminal := ⟨_, hi, Or.inl rfl, rfl, iff_of_true rfl hdirection⟩
      numChannels_eq := rfl
      channelConfig_eq := rfl }
  | «in» => exact {
      ids_perm := List.Perm.swap _ _ _
      output_mem := houtput
      input_clock := hnames
      output_clock := hnames
      source := hi
      direction_eq := hdirection
      terminal := ⟨_, ho, Or.inr rfl, rfl,
        iff_of_false Bool.false_ne_true fun h => nomatch hdirection.symm.trans h⟩
      numChannels_eq := rfl
      channelConfig_eq := rfl }

/-! ## After build -/

def Descriptors.AudioClassDescriptor.id : AudioClassDescriptor → UInt8
  | .clockSource d => d.id
  | .clockMultiplier d => d.id
  | .inputTerminal d => d.id
  | .outputTerminal d => d.id

/-- The identifiers of the two terminals. -/
def TerminalConfig.ids {D : UsbDirection} (config : TerminalConfig D) : List UInt8 :=
  [config.baseId, config.baseId + 1]

namespace UsbAudioClassConfig

variable {AU : Type}

/-- The identifiers of the clock, the terminals and the additional descriptors. -/
def ids (config : UsbAudioClassConfig AU) : List UInt8 :=
  1 :: (config.outputConfig.toList.flatMap TerminalConfig.ids ++
    (config.inputConfig.toList.flatMap TerminalConfig.ids ++
      (config.additionalDescriptors.getD []).map AudioClassDescriptor.id))

/-- The directions and identifiers of the streams, in the order of the interfaces. -/
def streams (config : UsbAudioClassConfig AU) : List (UsbDirection × UInt8) :=
  (config.inputConfig.toList.map fun s => (.in, s.baseId)) ++
    config.outputConfig.toList.map fun s => (.out, s.baseId)

/-- The identifiers of the configuration can all be told apart. -/
structure DistinctIds (config : UsbAudioClassConfig AU) : Prop where
  nodup : config.ids.Nodup
  output : ∀ s ∈ config.outputConfig, s.clockSourceId = 1 ∧ s.baseId < 255
  input : ∀ s ∈ config.inputConfig, s.clockSourceId = 1 ∧ s.baseId < 255

end UsbAudioClassConfig

/-- The topology that is read from the settings is closed, and has the streams of the
configuration. -/
structure ClosedTopology {AU : Type} (config : UsbAudioClassConfig AU) (ss : List Setting)
    (es : List Entity) (ls : List StreamLink) : Prop where
  entities_eq : entities ss = some es
  links_eq : links ss = some ls
  ids_nodup : (es.map Entity.id).Nodup
  paths : List.Forall₂ (fun (stream : UsbDirection × UInt8) link => ∃ input output,
    StreamPath es stream.1 stream.2 link input output) config.streams ls

theorem Descriptors.AudioClassDescriptor.id_entity (d : AudioClassDescriptor) :
    d.entity.id = d.id := by
  cases d <;> rfl

/-- The terminals of a stream have its identifiers, in an order that depends on the
direction. -/
theorem perm_terminalPair {D : UsbDirection} (config : Option (TerminalConfig D)) :
    ((terminalPair (config.map TerminalConfig.getConfigurationDescriptors)).map
      AudioClassDescriptor.id).Perm (config.toList.flatMap TerminalConfig.ids) := by
  cases config with
  | none => exact List.Perm.refl _
  | some s =>
      cases D with
      | out => exact List.Perm.refl _
      | «in» => exact List.Perm.swap _ _ _

variable {AU : Type} {config : UsbAudioClassConfig AU} {clock : Descriptors.ClockSource}

/-- The identifiers of the block are those of the configuration. -/
theorem perm_ids (hid : clock.id = 1) :
    (((config.block clock).inner.map AudioClassDescriptor.entity).map Entity.id).Perm
      config.ids := by
  have hmap : ((config.block clock).inner.map AudioClassDescriptor.entity).map Entity.id =
      (config.block clock).inner.map AudioClassDescriptor.id := by
    rw [List.map_map]
    exact List.map_congr_left fun d _ => d.id_entity
  rw [hmap, UsbAudioClassConfig.block, acBlock, List.map_cons, List.map_append, List.map_append,
    UsbAudioClassConfig.ids, ← hid]
  exact ((perm_terminalPair _).append ((perm_terminalPair _).append_right _)).cons _

theorem output_subset_block {s : TerminalConfig .out} (h : config.outputConfig = some s) :
    terminalPair (some s.getConfigurationDescriptors) ⊆ (config.block clock).inner := by
  intro d hd
  rw [UsbAudioClassConfig.block, acBlock, h]
  exact List.mem_cons_of_mem _ (List.mem_append_left _ hd)

theorem input_subset_block {s : TerminalConfig .in} (h : config.inputConfig = some s) :
    terminalPair (some s.getConfigurationDescriptors) ⊆ (config.block clock).inner := by
  intro d hd
  rw [UsbAudioClassConfig.block, acBlock, h]
  exact List.mem_cons_of_mem _ (List.mem_append_right _ (List.mem_append_left _ hd))

/-- What holds of a stream that is present holds of the streams in step with their links. -/
theorem forall₂_stream {D : UsbDirection} {R : UsbDirection × UInt8 → StreamLink → Prop}
    {stream : Option (AudioStream D)} (h : ∀ s ∈ stream, R (D, s.config.baseId) s.link) :
    List.Forall₂ R ((stream.map AudioStream.config).toList.map fun s => (D, s.baseId))
      (stream.toList.map AudioStream.link) := by
  cases stream with
  | none => exact .nil
  | some s => exact .cons (h s rfl) .nil

section

variable {A W : Type} [ClockSource AU] [UsbBusAllocator A] [DocumentedAllocator A]
  [DescriptorWriter W] [DocumentedWriter W] {alloc alloc' : A} {c : UsbAudioClass AU} {w : W}

/-- What is read from the settings of a class after build is a closed topology. -/
theorem closedTopology_function (hb : config.build alloc = .ok (c, alloc')) (hid : clock.id = 1)
    (hids : config.DistinctIds) :
    ClosedTopology config (c.function clock).settings
      ((config.block clock).inner.map AudioClassDescriptor.entity)
      (c.input.toList.map AudioStream.link ++ c.output.toList.map AudioStream.link) := by
  obtain ⟨rate, hbuilt⟩ := build_ok hb
  obtain ⟨hout, hin⟩ := directions_of_build hb
  have hnodup := (perm_ids hid).nodup_iff.mpr hids.nodup
  have hclock : .clockSource 1 ∈ (config.block clock).inner.map AudioClassDescriptor.entity :=
    hid ▸ List.mem_cons_self ..
  refine {
    entities_eq := hbuilt.block_eq ▸ UsbAudioClass.entities_function
    links_eq := UsbAudioClass.links_function hbuilt.wired.feedback_isSome
      (fun _ hs => (hbuilt.input_fresh hs).2.1) (fun _ hs => (hbuilt.output_fresh hs).2.1)
      fun _ hep => hbuilt.feedback_usage hep
    ids_nodup := hnodup
    paths := ?_ }
  rw [UsbAudioClassConfig.streams, ← hbuilt.input_eq, ← hbuilt.output_eq]
  refine List.rel_append (forall₂_stream fun s hs => ?_) (forall₂_stream fun s hs => ?_)
  · have hconfig : config.inputConfig = some s.config := by rw [← hbuilt.input_eq, hs]; rfl
    exact ⟨_, _, AudioStream.path hnodup hclock (hin s hs) (hids.input _ hconfig).1
      fun d hd => List.mem_map_of_mem (input_subset_block hconfig hd)⟩
  · have hconfig : config.outputConfig = some s.config := by rw [← hbuilt.output_eq, hs]; rfl
    exact ⟨_, _, AudioStream.path hnodup hclock (hout s hs) (hids.output _ hconfig).1
      fun d hd => List.mem_map_of_mem (output_subset_block hconfig hd)⟩

/-- The descriptors of a configuration whose identifiers are distinct are a closed
topology: every reference is to one entity, and it is the one meant. -/
theorem topology_of_build (hb : config.build alloc = .ok (c, alloc'))
    (hclock : ClockSource.clockConfigurationDescriptor config.audioImpl 1 none = .ok clock)
    (hid : clock.id = 1) (hids : config.DistinctIds)
    (hroom : (c.function clock).bytes.length ≤ (view w).room) :
    ∃ w' bs ss es ls, c.getConfigurationDescriptors w = .ok w' ∧
      (view w').written = (view w).written ++ bs ∧ readInterfaces bs = some ss ∧
      ClosedTopology config ss es ls := by
  obtain ⟨rate, hbuilt⟩ := build_ok hb
  rw [← hbuilt.audioImpl_eq] at hclock
  obtain ⟨w', hrun, hwritten⟩ := UsbAudioClass.getConfigurationDescriptors_ok
    hbuilt.wired.feedback_isSome hclock hroom
  exact ⟨w', _, _, _, _, hrun, hwritten,
    readInterfaces_bytes (UsbAudioClass.readable_function c clock) _,
    closedTopology_function hb hid hids⟩

end

theorem distinctIds_ioBox : ioBox.DistinctIds where
  nodup := by decide
  output := by
    rintro s ⟨⟩
    decide
  input := by
    rintro s ⟨⟩
    decide

theorem topology_of_build_ioBox : ∃ w' bs ss es ls,
    ioBoxClass.getConfigurationDescriptors (BufferWriter.empty 256) = .ok w' ∧ w'.done = bs ∧
      readInterfaces bs = some ss ∧ ClosedTopology ioBox ss es ls := by
  obtain ⟨alloc, hb⟩ := build_ioBox
  exact topology_of_build (w := BufferWriter.empty 256) hb rfl rfl distinctIds_ioBox room_ioBox

end Uac2
