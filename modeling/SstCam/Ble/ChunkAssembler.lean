import Mathlib.Data.List.AList
import Mathlib.Tactic.SplitIfs
import SstCam.Proto.Messages

/-!
# ChunkAssembler

Reassembly of inbound chunks and ChunkAck-gated outbound chunking
(`adapters/control/ble/bluez/chunk-assembler`). A transfer keeps the closure that sends its
chunks; here the closure is a tag of type `τ`, and what it is called with is returned as a list
of tagged chunks. Sizes are `size_t`, counts and indexes `uint32`.
-/

namespace SstCam
set_option autoImplicit false

structure ChunkAssemblerConfig where
  maxChunkPayloadBytes : Nat := 400
  maxInflightInbound : Nat := 16
  maxTotalChunks : Nat := 8192
  deriving DecidableEq, Repr

/-- `haves` is the source's `have`. -/
structure InboundState where
  totalChunks : Nat := 0
  received : Nat := 0
  parts : List Bytes := []
  haves : List Bool := []
  deriving DecidableEq, Repr

/-- Stores a missing chunk. -/
def InboundState.store (index : Nat) (data : Bytes) (state : InboundState) : InboundState :=
  { state with
    parts := state.parts.set index data
    haves := state.haves.set index true
    received := state.received + 1 }

structure OutboundState (τ : Type) where
  chunks : List ChunkedPayload := []
  nextToSend : Nat := 0
  send : τ
  deriving DecidableEq, Repr

structure OfferResult where
  accepted : Bool := false
  payload : Option Bytes := none
  deriving DecidableEq, Repr

structure ChunkAssembler (τ : Type) where
  cfg : ChunkAssemblerConfig := {}
  inbound : AList (fun _ : String => InboundState) := ∅
  inboundOrder : List String := []
  outbound : AList (fun _ : String => OutboundState τ) := ∅
  deriving DecidableEq

namespace ChunkAssembler

variable {τ : Type}

/-! ## Inbound -/

/-- The loop of `EvictOldestInboundIfFull`. -/
def evictLoop (maxInflight : Nat) (inbound : AList (fun _ : String => InboundState)) :
    List String → AList (fun _ : String => InboundState) × List String
  | [] => (inbound, [])
  | victim :: order =>
    if inbound.keys.length ≥ maxInflight then evictLoop maxInflight (inbound.erase victim) order
    else (inbound, victim :: order)

def evictOldestInboundIfFull (a : ChunkAssembler τ) : ChunkAssembler τ :=
  { a with
    inbound := (evictLoop a.cfg.maxInflightInbound a.inbound a.inboundOrder).1
    inboundOrder := (evictLoop a.cfg.maxInflightInbound a.inbound a.inboundOrder).2 }

def freshInbound (total : Nat) : InboundState where
  totalChunks := total
  parts := List.replicate total []
  haves := List.replicate total false

/-- The reassembly a chunk goes to: a new one, the one there is, or that one reset to the
chunk's framing. -/
def findInbound (corr : String) (total : Nat) (a : ChunkAssembler τ) : ChunkAssembler τ × InboundState :=
  match a.inbound.lookup corr with
  | none =>
    let a := a.evictOldestInboundIfFull
    ({ a with
        inbound := a.inbound.insert corr (freshInbound total)
        inboundOrder := a.inboundOrder ++ [corr] }, freshInbound total)
  | some state =>
    if state.totalChunks ≠ total then
      ({ a with inbound := a.inbound.insert corr (freshInbound total) }, freshInbound total)
    else (a, state)

def offerInbound (chunk : ChunkedPayload) (a : ChunkAssembler τ) : ChunkAssembler τ × OfferResult :=
  let total := chunk.totalChunks
  let index := chunk.chunkIndex
  let corr := chunk.correlationId
  if total = 0 ∨ total > a.cfg.maxTotalChunks then (a, {})
  else if index ≥ total then (a, {})
  -- Single-chunk fast path: nothing is retained.
  else if total = 1 then (a, { accepted := true, payload := some chunk.data })
  else
    let (a, state) := a.findInbound corr total
    if state.haves.getD index false then (a, { accepted := true })
    else
      let state := state.store index chunk.data
      if state.received < state.totalChunks then
        ({ a with inbound := a.inbound.insert corr state }, { accepted := true })
      else
        ({ a with inbound := a.inbound.erase corr, inboundOrder := a.inboundOrder.filter (· ≠ corr) },
          { accepted := true, payload := some state.parts.flatten })

/-! ## Outbound -/

def chunkSize (cfg : ChunkAssemblerConfig) : Nat := max cfg.maxChunkPayloadBytes 1

/-- The number of chunks: the sum wraps at 64 bits, the quotient is cast to 32. -/
def chunkCount (cfg : ChunkAssemblerConfig) (data : Bytes) : Nat :=
  if data = [] then 1 else (data.length + chunkSize cfg - 1) % 2 ^ 64 / chunkSize cfg % 2 ^ 32

/-- The chunks of a payload. -/
def chunksOf (cfg : ChunkAssemblerConfig) (correlationId : String) (data : Bytes) : List ChunkedPayload :=
  (List.range (chunkCount cfg data)).map fun i =>
    { correlationId
      chunkIndex := i
      totalChunks := chunkCount cfg data
      data := (data.drop (i * chunkSize cfg)).take (chunkSize cfg) }

/-- Chunk 0 goes out at once; a transfer of one chunk is forgotten. A count that wrapped to 0
leaves no chunk 0 to send. The answer is the count. -/
def beginOutbound (correlationId : String) (data : Bytes) (send : τ) (a : ChunkAssembler τ) :
    ChunkAssembler τ × Nat × List (τ × ChunkedPayload) :=
  let total := chunkCount a.cfg data
  let chunks := chunksOf a.cfg correlationId data
  (if total > 1 then { a with outbound := a.outbound.insert correlationId { chunks, nextToSend := 1, send } } else a,
    total, (chunks.take 1).map fun chunk => (send, chunk))

/-- The answer tells whether the acked transfer is complete. -/
def onAck (correlationId : String) (chunkIndex : Nat) (a : ChunkAssembler τ) :
    ChunkAssembler τ × Bool × List (τ × ChunkedPayload) :=
  match a.outbound.lookup correlationId with
  | none => (a, false, [])
  | some state =>
    let lastSent := (state.nextToSend + 2 ^ 32 - 1) % 2 ^ 32
    if chunkIndex ≠ lastSent then (a, false, [])
    else if state.nextToSend < state.chunks.length % 2 ^ 32 then
      ({ a with
          outbound := a.outbound.insert correlationId
            { state with nextToSend := (state.nextToSend + 1) % 2 ^ 32 } },
        false, (state.chunks[state.nextToSend]?).toList.map fun chunk => (state.send, chunk))
    else ({ a with outbound := a.outbound.erase correlationId }, true, [])

/-- The outbound calls touch the transfers only. -/
theorem beginOutbound_eq (correlationId : String) (data : Bytes) (send : τ) (a : ChunkAssembler τ) :
    ∃ outbound, (beginOutbound correlationId data send a).1 = { a with outbound } := by
  unfold beginOutbound
  dsimp only
  split
  · exact ⟨_, rfl⟩
  · exact ⟨_, rfl⟩

theorem onAck_eq (correlationId : String) (chunkIndex : Nat) (a : ChunkAssembler τ) :
    ∃ outbound, (onAck correlationId chunkIndex a).1 = { a with outbound } := by
  unfold onAck
  split
  · exact ⟨_, rfl⟩
  · dsimp only
    split_ifs <;> exact ⟨_, rfl⟩

def reset (a : ChunkAssembler τ) : ChunkAssembler τ :=
  { a with inbound := ∅, inboundOrder := [], outbound := ∅ }

end ChunkAssembler

end SstCam
