import SstCam.Ble.Inbound
import SstCam.Ble.Outbound
import SstCam.Lib.MapValues
import SstCam.Lib.Runs

/-!
# What an assembler keeps

The fields of a `ChunkAssembler` belong together: the order of the reassemblies lists their keys, a
reassembly counts the chunks it has, a transfer's cursor stands within its chunks. Every call keeps
that, whatever frames come in (`ChunkAssembler.calls_kept`).
-/

namespace SstCam
set_option autoImplicit false

/-- A reassembly that misses a chunk, of at most this many. -/
structure InboundState.Partial (most : Nat) (state : InboundState) : Prop where
  total : 2 ≤ state.totalChunks ∧ state.totalChunks ≤ most
  parts : state.parts.length = state.totalChunks
  haves : state.haves.length = state.totalChunks
  received : state.received = state.haves.count true
  short : state.received < state.totalChunks

/-- A transfer that waits for an ack. -/
structure OutboundState.Waiting {τ : Type} (state : OutboundState τ) : Prop where
  several : 2 ≤ state.chunks.length
  count : state.chunks.length < 2 ^ 32
  cursor : 1 ≤ state.nextToSend ∧ state.nextToSend ≤ state.chunks.length

/-- The cursor less one does not wrap: it is the chunk sent last. -/
theorem OutboundState.Waiting.last_sent {τ : Type} {state : OutboundState τ} (h : state.Waiting) :
    (state.nextToSend + 2 ^ 32 - 1) % 2 ^ 32 + 1 = state.nextToSend := by
  obtain ⟨-, count, first, last⟩ := h
  omega

inductive AssemblerCall (τ : Type) where
  | offerInbound (chunk : ChunkedPayload)
  | beginOutbound (correlationId : String) (data : Bytes) (send : τ)
  | onAck (correlationId : String) (chunkIndex : Nat)
  | reset

/-! ## A reassembly -/

namespace InboundState

variable {most index total : Nat} {data : Bytes} {state : InboundState}

theorem partial_fresh (several : 2 ≤ total) (fits : total ≤ most) : (ChunkAssembler.freshInbound total).Partial most := by
  constructor
  · exact ⟨several, fits⟩
  · exact List.length_replicate
  · exact List.length_replicate
  · simp [ChunkAssembler.freshInbound, List.count_replicate]
  · show 0 < total
    omega

/-- A missing chunk is counted. -/
theorem Partial.count_store (h : state.Partial most) (within : index < state.totalChunks)
    (missing : state.haves.getD index false = false) :
    (state.store index data).received = (state.store index data).haves.count true := by
  have inside : index < state.haves.length := by rwa [h.haves]
  have absent : state.haves[index] = false := by
    rwa [List.getD_eq_getElem?_getD, List.getElem?_eq_getElem inside] at missing
  show state.received + 1 = (state.haves.set index true).count true
  rw [List.count_set inside, absent, h.received]
  rfl

theorem Partial.store (h : state.Partial most) (within : index < state.totalChunks)
    (missing : state.haves.getD index false = false) (short : (state.store index data).received < state.totalChunks) :
    (state.store index data).Partial most := by
  constructor
  · exact h.total
  · exact List.length_set.trans h.parts
  · exact List.length_set.trans h.haves
  · exact h.count_store within missing
  · exact short

end InboundState

namespace ChunkAssembler

variable {τ : Type} {a : ChunkAssembler τ} {corr : String} {total : Nat}

def call (a : ChunkAssembler τ) : AssemblerCall τ → ChunkAssembler τ
  | .offerInbound chunk => (a.offerInbound chunk).1
  | .beginOutbound correlationId data send => (beginOutbound correlationId data send a).1
  | .onAck correlationId chunkIndex => (onAck correlationId chunkIndex a).1
  | .reset => a.reset

/-- The invariant of an assembler. -/
structure Sound (a : ChunkAssembler τ) : Prop where
  room : 1 ≤ a.cfg.maxInflightInbound
  order : a.inbound.keys.Perm a.inboundOrder
  bounded : a.inbound.keys.length ≤ a.cfg.maxInflightInbound
  partials : ∀ corr state, a.inbound.lookup corr = some state → state.Partial a.cfg.maxTotalChunks
  transfers : ∀ corr state, a.outbound.lookup corr = some state → state.Waiting

theorem sound_initial {cfg : ChunkAssemblerConfig} (room : 1 ≤ cfg.maxInflightInbound) : ({ cfg } : ChunkAssembler τ).Sound := by
  constructor
  · exact room
  · exact .refl _
  · exact Nat.zero_le _
  · intro corr state found
    cases found
  · intro corr state found
    cases found

/-! ## Inbound -/

/-- Eviction leaves room for one more. -/
theorem Sound.evict (h : a.Sound) :
    a.evictOldestInboundIfFull.Sound ∧ a.evictOldestInboundIfFull.inbound.keys.length < a.cfg.maxInflightInbound ∧
      ∀ corr, a.inbound.lookup corr = none → a.evictOldestInboundIfFull.inbound.lookup corr = none := by
  obtain ⟨order, keys, lookup⟩ := evictLoop_spec a.cfg.maxInflightInbound h.order
  have room := h.room
  have length : a.evictOldestInboundIfFull.inbound.keys.length < a.cfg.maxInflightInbound := by
    have size := keys.length_eq
    rw [List.length_drop] at size
    show (evictLoop _ _ _).1.keys.length < _
    omega
  refine ⟨⟨room, ?_, length.le, ?_, h.transfers⟩, length, ?_⟩
  · show (evictLoop _ _ _).1.keys.Perm (evictLoop _ _ _).2
    rw [order]
    exact keys
  · intro corr state found
    have kept := lookup corr
    change (evictLoop _ _ _).1.lookup corr = some state at found
    rw [found] at kept
    split at kept
    · cases kept
    · exact h.partials corr state kept.symm
  · intro corr absent
    show (evictLoop _ _ _).1.lookup corr = none
    rw [lookup, absent, ite_self]

/-- A reassembly there is gets another state. -/
theorem Sound.insert (h : a.Sound) (there : corr ∈ a.inbound) {state : InboundState} (sound : state.Partial a.cfg.maxTotalChunks) :
    { a with inbound := a.inbound.insert corr state }.Sound := by
  have keys : (a.inbound.insert corr state).keys.Perm a.inbound.keys := by
    rw [AList.keys_insert]
    exact (List.perm_cons_erase there).symm
  constructor
  · exact h.room
  · exact keys.trans h.order
  · exact keys.length_eq.trans_le h.bounded
  · exact AList.forall_lookup_insert h.partials sound
  · exact h.transfers

/-- A new reassembly, where there is room for it. -/
theorem Sound.create (h : a.Sound) (absent : corr ∉ a.inbound) (room : a.inbound.keys.length < a.cfg.maxInflightInbound)
    {state : InboundState} (sound : state.Partial a.cfg.maxTotalChunks) :
    { a with inbound := a.inbound.insert corr state, inboundOrder := a.inboundOrder ++ [corr] }.Sound := by
  have keys : (a.inbound.insert corr state).keys = corr :: a.inbound.keys := by
    rw [AList.keys_insert, List.erase_of_not_mem absent]
  constructor
  · exact h.room
  · show (a.inbound.insert corr state).keys.Perm _
    rw [keys]
    exact (h.order.cons corr).trans (List.perm_append_singleton _ _).symm
  · show (a.inbound.insert corr state).keys.length ≤ _
    rw [keys]
    exact room
  · exact AList.forall_lookup_insert h.partials sound
  · exact h.transfers

theorem Sound.erase (h : a.Sound) (corr : String) :
    { a with inbound := a.inbound.erase corr, inboundOrder := a.inboundOrder.filter (· ≠ corr) }.Sound := by
  have keys : (a.inbound.erase corr).keys = a.inbound.keys.filter (· ≠ corr) := by
    rw [AList.keys_erase, a.inbound.keys_nodup.erase_eq_filter]
    apply List.filter_congr
    intro k _
    rw [decide_not]
    rfl
  constructor
  · exact h.room
  · show (a.inbound.erase corr).keys.Perm _
    rw [keys]
    exact h.order.filter _
  · show (a.inbound.erase corr).keys.length ≤ _
    rw [keys]
    exact (List.length_filter_le _ _).trans h.bounded
  · exact AList.forall_lookup_erase h.partials
  · exact h.transfers

/-- The reassembly a chunk goes to is there, with the chunk's framing. -/
theorem Sound.findInbound (h : a.Sound) (several : 2 ≤ total) (fits : total ≤ a.cfg.maxTotalChunks) (corr : String) :
    (a.findInbound corr total).1.Sound ∧
      (a.findInbound corr total).1.inbound.lookup corr = some (a.findInbound corr total).2 ∧
      (a.findInbound corr total).2.totalChunks = total := by
  unfold ChunkAssembler.findInbound
  cases found : a.inbound.lookup corr with
  | none =>
    obtain ⟨evicted, room, gone⟩ := h.evict
    exact ⟨evicted.create (AList.lookup_eq_none.1 (gone corr found)) room (InboundState.partial_fresh several fits),
      AList.lookup_insert _, rfl⟩
  | some state =>
    dsimp only
    split
    case isTrue =>
      have there : corr ∈ a.inbound := AList.lookup_isSome.1 (by rw [found]; rfl)
      exact ⟨h.insert there (InboundState.partial_fresh several fits), AList.lookup_insert _, rfl⟩
    case isFalse same => exact ⟨h, found, not_not.1 same⟩

theorem Sound.offerInbound (h : a.Sound) (chunk : ChunkedPayload) : (a.offerInbound chunk).1.Sound := by
  unfold ChunkAssembler.offerInbound
  dsimp only
  split
  case isTrue => exact h
  case isFalse framed =>
    split
    case isTrue => exact h
    case isFalse inside =>
      split
      case isTrue => exact h
      case isFalse several =>
        have fits : 2 ≤ chunk.totalChunks ∧ chunk.totalChunks ≤ a.cfg.maxTotalChunks := by omega
        obtain ⟨sound, found, framing⟩ := h.findInbound fits.1 fits.2 chunk.correlationId
        have cfg := findInbound_cfg chunk.correlationId chunk.totalChunks a
        generalize a.findInbound chunk.correlationId chunk.totalChunks = at_ at sound found framing cfg
        have there : chunk.correlationId ∈ at_.1.inbound := AList.lookup_isSome.1 (by rw [found]; rfl)
        have state := sound.partials _ _ found
        split
        case isTrue => exact sound
        case isFalse missing =>
          split
          case isTrue short =>
            apply sound.insert there
            apply state.store
            · omega
            · simpa using missing
            · exact short
          case isFalse => exact sound.erase _

/-- A chunk that is not accepted leaves the assembler. -/
theorem offerInbound_rejected {chunk : ChunkedPayload} (rejected : (a.offerInbound chunk).2.accepted = false) :
    (a.offerInbound chunk).1 = a := by
  unfold ChunkAssembler.offerInbound at rejected ⊢
  dsimp only at rejected ⊢
  by_cases framed : chunk.totalChunks = 0 ∨ chunk.totalChunks > a.cfg.maxTotalChunks
  · rw [if_pos framed]
  rw [if_neg framed] at rejected ⊢
  by_cases inside : chunk.chunkIndex ≥ chunk.totalChunks
  · rw [if_pos inside]
  rw [if_neg inside] at rejected
  -- whatever passes the two tests is accepted
  repeat' split at rejected
  all_goals cases rejected

/-! ## Outbound -/

theorem Sound.withOutbound (h : a.Sound) {outbound : AList fun _ : String => OutboundState τ}
    (transfers : ∀ corr state, outbound.lookup corr = some state → state.Waiting) : { a with outbound }.Sound :=
  ⟨h.room, h.order, h.bounded, h.partials, transfers⟩

theorem chunkCount_lt (cfg : ChunkAssemblerConfig) (data : Bytes) : chunkCount cfg data < 2 ^ 32 := by
  unfold chunkCount
  split
  · decide
  · exact Nat.mod_lt _ (by decide)

theorem Sound.beginOutbound (h : a.Sound) (correlationId : String) (data : Bytes) (send : τ) :
    (beginOutbound correlationId data send a).1.Sound := by
  unfold ChunkAssembler.beginOutbound
  dsimp only
  split
  case isTrue several =>
    apply h.withOutbound
    apply AList.forall_lookup_insert h.transfers
    constructor
    · rw [chunksOf_length]
      exact several
    · rw [chunksOf_length]
      exact chunkCount_lt a.cfg data
    · rw [chunksOf_length]
      exact ⟨le_rfl, several.le⟩
  case isFalse => exact h

theorem Sound.onAck (h : a.Sound) (correlationId : String) (chunkIndex : Nat) : (onAck correlationId chunkIndex a).1.Sound := by
  unfold ChunkAssembler.onAck
  cases found : a.outbound.lookup correlationId with
  | none => exact h
  | some state =>
    obtain ⟨several, count, first, last⟩ := h.transfers correlationId state found
    dsimp only
    split
    case isTrue => exact h
    case isFalse =>
      split
      case isTrue more =>
        apply h.withOutbound
        apply AList.forall_lookup_insert h.transfers
        rw [Nat.mod_eq_of_lt count] at more
        refine ⟨several, count, ?_⟩
        dsimp only
        omega
      case isFalse => exact h.withOutbound (AList.forall_lookup_erase h.transfers)

/-! ## Every call -/

theorem Sound.call (h : a.Sound) (c : AssemblerCall τ) : (a.call c).Sound := by
  cases c with
  | offerInbound chunk => exact h.offerInbound chunk
  | beginOutbound correlationId data send => exact h.beginOutbound correlationId data send
  | onAck correlationId chunkIndex => exact h.onAck correlationId chunkIndex
  | reset => exact sound_initial h.room

/-- What holds of an assembler after any calls. -/
structure Kept (a : ChunkAssembler τ) : Prop where
  nodup : a.inboundOrder.Nodup
  keys : ∀ corr, corr ∈ a.inboundOrder ↔ corr ∈ a.inbound
  bounded : a.inbound.keys.length ≤ a.cfg.maxInflightInbound
  partials : ∀ corr state, a.inbound.lookup corr = some state → state.Partial a.cfg.maxTotalChunks
  transfers : ∀ corr state, a.outbound.lookup corr = some state → state.Waiting
  lastSent : ∀ corr state, a.outbound.lookup corr = some state →
    (state.nextToSend + 2 ^ 32 - 1) % 2 ^ 32 + 1 = state.nextToSend
  rejected : ∀ chunk, (a.offerInbound chunk).2.accepted = false → (a.offerInbound chunk).1 = a

/-- **The representation invariant.** -/
theorem calls_kept {cfg : ChunkAssemblerConfig} (room : 1 ≤ cfg.maxInflightInbound) (calls : List (AssemblerCall τ)) :
    (calls.foldl call { cfg }).Kept := by
  have sound : (calls.foldl call { cfg }).Sound := Runs.foldl_inv' (fun _ c h => h.call c) calls (sound_initial room)
  constructor
  · exact sound.order.nodup_iff.1 (AList.keys_nodup _)
  · intro corr
    rw [← sound.order.mem_iff]
    rfl
  · exact sound.bounded
  · exact sound.partials
  · exact sound.transfers
  · intro corr state found
    exact (sound.transfers corr state found).last_sent
  · intro chunk rejected
    exact offerInbound_rejected rejected

/-- A cap of one: the second message evicts the first, and a frame with an index past its end is refused. -/
theorem evicted_and_refused : ([.offerInbound { correlationId := "a", chunkIndex := 1, totalChunks := 2 },
      .offerInbound { correlationId := "b", chunkIndex := 0, totalChunks := 3 },
      .offerInbound { correlationId := "b", chunkIndex := 3, totalChunks := 3 }, .beginOutbound "c" [1, 2, 3] (),
      .beginOutbound "c" [4, 5] (), .onAck "c" 0].foldl call
    { cfg := { maxChunkPayloadBytes := 1, maxInflightInbound := 1 } } : ChunkAssembler Unit).Kept :=
  calls_kept (by decide) _

end ChunkAssembler

end SstCam
