import SstCam.Ble.ChunkAssembler
import SstCam.Control.Firmware

/-!
# BluezBleTransport

The transport in front of the dispatcher (`adapters/control/ble/bluez/bluez-ble-transport`): a
write is taken in under the transport's lock, the connect and the command are handed on outside
it, and the response begins under the lock again. `System` is the transport with the device
behind it, the callbacks set as `main.cpp` sets them. Run one after the other, its writes and
stops are the steps of `Link` (`onRawCommand_link`, `stop_link`).
-/

namespace SstCam
set_option autoImplicit false

open Atomic

variable {ρ γ : Type}

/-- A `ChunkAck` carries no chunk count. -/
def kChunkAckTotalChunks : Nat := 0

def buildInboundAck (correlationId : String) (chunkIndex : Nat) : ChunkAck := { correlationId, chunkIndex }

/-- Every transfer sends through the transport's one closure, so a transfer has no tag. `acked`
and `notified` are the notifications sent, `begun` the responses begun. -/
structure BluezBleTransport where
  assembler : ChunkAssembler Unit := {}
  centralPresent : Bool := false
  gattApp : Bool := true
  acked : List Bytes := []
  notified : List Bytes := []
  begun : List CommandResponse := []
  deriving DecidableEq

/-- What a write leaves to be done outside the lock. -/
structure Received where
  connect : Bool := false
  command : Option Command := none
  deriving DecidableEq, Repr

namespace BluezBleTransport

/-- The closure behind the chunks of a response. -/
def sendChunks (codec : Codec) (chunks : List (Unit × ChunkedPayload)) (t : BluezBleTransport) : BluezBleTransport :=
  if t.gattApp then { t with notified := t.notified ++ chunks.map fun chunk => codec.serializeChunk chunk.2 } else t

def sendInboundAck (codec : Codec) (correlationId : String) (chunkIndex : Nat) (t : BluezBleTransport) :
    BluezBleTransport :=
  if t.gattApp then { t with acked := t.acked ++ [codec.serializeAck (buildInboundAck correlationId chunkIndex)] } else t

/-- The locked part of `OnRawCommand`. -/
def receive (codec : Codec) (chunk : ChunkedPayload) (t : BluezBleTransport) : BluezBleTransport × Received :=
  let connect := !t.centralPresent
  let t := { t with centralPresent := true }
  if chunk.totalChunks = kChunkAckTotalChunks then
    let (assembler, _, sent) := t.assembler.onAck chunk.correlationId chunk.chunkIndex
    (sendChunks codec sent { t with assembler }, { connect })
  else
    let (assembler, result) := t.assembler.offerInbound chunk
    let t := { t with assembler }
    -- Only a chunk the assembler accepted is acked.
    let t := if result.accepted then t.sendInboundAck codec chunk.correlationId chunk.chunkIndex else t
    (t, { connect, command := result.payload.bind codec.parseCommand })

def sendResponse (codec : Codec) (response : CommandResponse) (t : BluezBleTransport) : BluezBleTransport :=
  if t.gattApp then
    let (assembler, _, sent) := t.assembler.beginOutbound response.correlationId (codec.serializeResponse response) ()
    sendChunks codec sent { t with assembler, begun := t.begun ++ [response] }
  else t

/-- The first locked part of `Stop`: the answer tells whether a central has to be told off. -/
def takeCentral (t : BluezBleTransport) : BluezBleTransport × Bool :=
  ({ t with centralPresent := false }, t.centralPresent)

def resetAssembler (t : BluezBleTransport) : BluezBleTransport :=
  { t with assembler := t.assembler.reset, gattApp := false }

@[simp] theorem sendChunks_centralPresent (codec : Codec) (chunks : List (Unit × ChunkedPayload)) (t : BluezBleTransport) :
    (sendChunks codec chunks t).centralPresent = t.centralPresent := by
  unfold sendChunks
  split <;> rfl

@[simp] theorem sendInboundAck_centralPresent (codec : Codec) (id : String) (k : Nat) (t : BluezBleTransport) :
    (sendInboundAck codec id k t).centralPresent = t.centralPresent := by
  unfold sendInboundAck
  split <;> rfl

@[simp] theorem receive_centralPresent (codec : Codec) (chunk : ChunkedPayload) (t : BluezBleTransport) :
    (receive codec chunk t).1.centralPresent = true := by
  unfold receive
  dsimp only
  split_ifs <;> simp

@[simp] theorem receive_connect (codec : Codec) (chunk : ChunkedPayload) (t : BluezBleTransport) :
    (receive codec chunk t).2.connect = !t.centralPresent := by
  unfold receive
  dsimp only
  split_ifs <;> rfl

@[simp] theorem sendResponse_centralPresent (codec : Codec) (response : CommandResponse) (t : BluezBleTransport) :
    (sendResponse codec response t).centralPresent = t.centralPresent := by
  unfold sendResponse
  split <;> simp

/-- A frame goes to the assembler, and so does what it completes to the dispatcher. -/
theorem receive_frame (codec : Codec) {chunk : ChunkedPayload} (frame : chunk.totalChunks ≠ kChunkAckTotalChunks)
    (t : BluezBleTransport) :
    (receive codec chunk t).1.assembler = (t.assembler.offerInbound chunk).1 ∧
      (receive codec chunk t).2.command = (t.assembler.offerInbound chunk).2.payload.bind codec.parseCommand ∧
      (receive codec chunk t).1.begun = t.begun ∧ (receive codec chunk t).1.gattApp = t.gattApp := by
  unfold receive sendInboundAck
  dsimp only
  rw [if_neg frame]
  split_ifs <;> exact ⟨rfl, rfl, rfl, rfl⟩

/-- An ack goes to the transfers. -/
theorem receive_ack (codec : Codec) {chunk : ChunkedPayload} (ack : chunk.totalChunks = kChunkAckTotalChunks)
    (t : BluezBleTransport) :
    (∃ outbound, (receive codec chunk t).1.assembler = { t.assembler with outbound }) ∧
      (receive codec chunk t).2.command = none ∧
      (receive codec chunk t).1.begun = t.begun ∧ (receive codec chunk t).1.gattApp = t.gattApp := by
  obtain ⟨outbound, same⟩ := ChunkAssembler.onAck_eq chunk.correlationId chunk.chunkIndex t.assembler
  unfold receive sendChunks
  dsimp only
  rw [if_pos ack]
  split_ifs <;> exact ⟨⟨outbound, same⟩, rfl, rfl, rfl⟩

theorem sendResponse_begun (codec : Codec) (response : CommandResponse) {t : BluezBleTransport} (active : t.gattApp = true) :
    (∃ outbound, (sendResponse codec response t).assembler = { t.assembler with outbound }) ∧
      (sendResponse codec response t).begun = t.begun ++ [response] ∧
      (sendResponse codec response t).gattApp = true := by
  obtain ⟨outbound, same⟩ :=
    ChunkAssembler.beginOutbound_eq response.correlationId (codec.serializeResponse response) () t.assembler
  unfold sendResponse sendChunks
  dsimp only
  rw [if_pos active, if_pos active]
  exact ⟨⟨outbound, same⟩, rfl, active⟩

end BluezBleTransport

/-! ## The system -/

structure System (ρ γ : Type) where
  ble : BluezBleTransport := {}
  device : Device ρ γ
  deriving DecidableEq

namespace System

variable {α : Type}

/-- The system as it starts, nobody connected. -/
def start (cfg : ChunkAssemblerConfig) (recorder : ρ) : System ρ γ :=
  { ble := { assembler := { cfg } }, device := .start recorder }

/-- The system as the device behind its transport. -/
def link (s : System ρ γ) : Link ρ γ := { centralPresent := s.ble.centralPresent, device := s.device }

def callBle (name : Call) (f : BluezBleTransport → BluezBleTransport × α) : Prog Call (System ρ γ) α :=
  .atomically name fun s => ({ s with ble := (f s.ble).1 }, (f s.ble).2)

def onDevice (q : Prog Call (Device ρ γ) α) : Prog Call (System ρ γ) α :=
  q.zoom device fun device s => { s with device }

@[simp] theorem exec_callBle {name : Call} {f : BluezBleTransport → BluezBleTransport × α} (s : System ρ γ) :
    (callBle name f).exec s = ({ s with ble := (f s.ble).1 }, (f s.ble).2) := rfl

@[simp] theorem exec_onDevice (q : Prog Call (Device ρ γ) α) (s : System ρ γ) :
    (onDevice q).exec s = ({ s with device := (q.exec s.device).1 }, (q.exec s.device).2) :=
  Prog.exec_zoom (fun device (s : System ρ γ) => (rfl : ({ s with device } : System ρ γ).device = device))
    (fun _ _ _ => rfl) (fun _ => rfl) q s

theorem onDevice_bind {β : Type} (q : Prog Call (Device ρ γ) α) (k : α → Prog Call (Device ρ γ) β) :
    onDevice (q >>= k) = onDevice q >>= fun a => onDevice (k a) := Prog.zoom_bind _ _ q k

theorem onDevice_map {β : Type} (f : α → β) (q : Prog Call (Device ρ γ) α) : onDevice (f <$> q) = f <$> onDevice q := by
  rw [map_eq_pure_bind, map_eq_pure_bind, onDevice_bind]
  rfl

section
variable [IContinuousRecorder ρ]

/-- `BluezBleTransport::Stop`: the rest of it talks to the bus only. -/
def stop (p : Ports γ) : Prog Call (System ρ γ) Unit := do
  let present ← callBle .takeCentral BluezBleTransport.takeCentral
  if present then onDevice (onDisconnect p)
  callBle .resetAssembler fun t => (t.resetAssembler, ())

/-- **A stop is a step of the link.** -/
theorem stop_link [IPlatformStreamer γ] (p : Ports γ) (s : System ρ γ) :
    ((stop p).exec s).1.link = s.link.step (.stop p) := by
  unfold stop
  rw [Prog.exec_bind]
  by_cases present : s.ble.centralPresent = true
  · simp [BluezBleTransport.takeCentral, BluezBleTransport.resetAssembler, present, link, Link.step, Link.events,
      Link.present, Device.step, Device.disconnect]
  · simp [BluezBleTransport.takeCentral, BluezBleTransport.resetAssembler, present, link, Link.step, Link.events,
      Link.present]

variable [IPlatformStreamer γ]

/-- `BluezBleTransport::OnRawCommand`. It returns the command it handed to the dispatcher. -/
def onRawCommand (codec : Codec) (p : Ports γ) (bytes : Bytes) : Prog Call (System ρ γ) (Option Command) :=
  match codec.parseChunk bytes with
  | none => return none
  | some chunk => do
    let received ← callBle .receive (BluezBleTransport.receive codec chunk)
    if received.connect then
      onDevice (Device.callSession .onConnect fun state => ((SessionManager.onConnect state).1, ()))
    match received.command with
    | none => return none
    | some cmd => do
      let response ← onDevice (dispatch p cmd)
      callBle .sendResponse fun t => (t.sendResponse codec response, ())
      return some cmd

/-- **A write is a step of the link**, with the command it handed on. -/
theorem onRawCommand_link (codec : Codec) (p : Ports γ) (bytes : Bytes) (s : System ρ γ) :
    ((onRawCommand codec p bytes).exec s).1.link =
      if (codec.parseChunk bytes).isSome then s.link.step (.write p ((onRawCommand codec p bytes).exec s).2)
      else s.link := by
  unfold onRawCommand
  cases codec.parseChunk bytes with
  | none => rfl
  | some chunk =>
    dsimp only
    rw [if_pos (show (some chunk).isSome = true from rfl), Prog.exec_bind, exec_callBle]
    cases command : (BluezBleTransport.receive codec chunk s.ble).2.command with
    | none =>
      by_cases present : s.ble.centralPresent = true <;>
        simp [present, link, Link.step, Link.events, Link.present, Device.step, Device.connect]
    | some cmd =>
      by_cases present : s.ble.centralPresent = true <;>
        simp [present, link, Link.step, Link.events, Link.present, Device.step, Device.connect, Device.command]

/-- What a write that decodes leaves of the transport: what the locked part left, and under the
lock again the response to the command handed over, under the command's id. -/
theorem onRawCommand_ble (codec : Codec) (p : Ports γ) {bytes : Bytes} {chunk : ChunkedPayload}
    (parsed : codec.parseChunk bytes = some chunk) (s : System ρ γ) :
    ((onRawCommand codec p bytes).exec s).2 = (BluezBleTransport.receive codec chunk s.ble).2.command ∧
      ∃ response : Command → CommandResponse, (∀ cmd, (response cmd).correlationId = cmd.correlationId) ∧
        ((onRawCommand codec p bytes).exec s).1.ble =
          match (BluezBleTransport.receive codec chunk s.ble).2.command with
          | none => (BluezBleTransport.receive codec chunk s.ble).1
          | some cmd => (BluezBleTransport.receive codec chunk s.ble).1.sendResponse codec (response cmd) := by
  have echoed := fun (d : Device ρ γ) cmd => CommandDispatcher.dispatch_correlationId firmwareDispatcher p cmd d
  unfold onRawCommand
  rw [parsed]
  dsimp only
  rw [Prog.exec_bind, exec_callBle]
  cases command : (BluezBleTransport.receive codec chunk s.ble).2.command with
  | none =>
    by_cases present : s.ble.centralPresent = true <;>
      exact ⟨by simp [present], fun cmd => s.device.response p cmd, echoed _, by simp [present]⟩
  | some cmd =>
    by_cases present : s.ble.centralPresent = true
    · exact ⟨by simp [present], fun cmd => s.device.response p cmd, echoed _, by simp [present, Device.response]⟩
    · exact ⟨by simp [present], fun cmd => s.device.connect.response p cmd, echoed _,
        by simp [present, Device.response, Device.connect]⟩

/-- What happens to the system, each to its end before the next. -/
inductive Event (γ : Type) where
  | write (p : Ports γ) (bytes : Bytes)
  | stop (p : Ports γ)
  | start
  | tick (p : Ports γ)
  | frame (f : Frame)

def step (codec : Codec) (s : System ρ γ) : Event γ → System ρ γ
  | .write p bytes => ((onRawCommand codec p bytes).exec s).1
  | .stop p => ((stop p).exec s).1
  | .start => { s with ble := { s.ble with gattApp := true } }
  | .tick p => { s with device := s.device.tick p }
  | .frame f => { s with device := s.device.pushFrame f }

/-- The system after a sequence of events. -/
def after (codec : Codec) (cfg : ChunkAssemblerConfig) (recorder : ρ) (events : List (Event γ)) : System ρ γ :=
  events.foldl (step codec) (start cfg recorder)

/-- Every event of the system is a step of the link, or none. -/
theorem step_link (codec : Codec) (s : System ρ γ) (e : Event γ) :
    (s.step codec e).link = s.link ∨ ∃ e', (s.step codec e).link = s.link.step e' := by
  cases e with
  | write p bytes =>
    have written := onRawCommand_link codec p bytes s
    cases parsed : codec.parseChunk bytes with
    | none => exact .inl (by simpa [parsed, step] using written)
    | some chunk => exact .inr ⟨_, by simpa [parsed, step] using written⟩
  | stop p => exact .inr ⟨_, stop_link p s⟩
  | start => exact .inl rfl
  | tick p => exact .inr ⟨.tick p, rfl⟩
  | frame f => exact .inr ⟨.frame f, rfl⟩

end

end System

end SstCam
