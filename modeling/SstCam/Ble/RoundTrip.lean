import SstCam.Ble.Inbound
import SstCam.Ble.Outbound

/-!
# Chunking then reassembling

One assembler sends a payload, each chunk on the ack of the one before; another reassembles what
was released. `transfer_released` says that the chunks released are those of the payload, and
`offerAll_whole` that offered in order they come back as the payload, on the last one.
-/

namespace SstCam
set_option autoImplicit false

open Reassembly

namespace ChunkAssembler

variable {τ : Type} {cfg : ChunkAssemblerConfig} {data : Bytes} {id : String}

/-! ## Sending -/

/-- The acks of the first `n` chunks, in order, with the chunks they release. -/
def ackAll (id : String) (n : Nat) (a : ChunkAssembler τ) : ChunkAssembler τ × List ChunkedPayload :=
  (List.range n).foldl (fun s k => ((s.1.onAck id k).1, s.2 ++ (s.1.onAck id k).2.2.map Prod.snd)) (a, [])

/-- A transfer of a payload all of whose chunks are acked, with the chunks released. -/
def transfer (id : String) (data : Bytes) (send : τ) (a : ChunkAssembler τ) : ChunkAssembler τ × List ChunkedPayload :=
  let (a, total, first) := a.beginOutbound id data send
  ((a.ackAll id total).1, first.map Prod.snd ++ (a.ackAll id total).2)

theorem ackAll_succ (id : String) (n : Nat) (a : ChunkAssembler τ) :
    a.ackAll id (n + 1) =
      (((a.ackAll id n).1.onAck id n).1, (a.ackAll id n).2 ++ ((a.ackAll id n).1.onAck id n).2.2.map Prod.snd) := by
  rw [ackAll, List.range_succ, List.foldl_append]
  rfl

/-- Acks of a transfer that is not pending. -/
theorem ackAll_none {a : ChunkAssembler τ} (free : a.outbound.lookup id = none) (n : Nat) : a.ackAll id n = (a, []) := by
  induction n with
  | zero => rfl
  | succ n ih =>
    rw [ackAll_succ, ih]
    unfold onAck
    rw [free]
    rfl

section
variable {chunks : List ChunkedPayload} {send : τ} {n : Nat}

/-- The ack of the chunk sent last releases the next one. -/
theorem onAck_released {a : ChunkAssembler τ} (size : chunks.length < 2 ^ 32)
    (pending : a.outbound.lookup id = some { chunks, nextToSend := n + 1, send }) (next : n + 1 < chunks.length) :
    (a.onAck id n).1.outbound.lookup id = some { chunks, nextToSend := n + 2, send } ∧
      (a.onAck id n).2.2 = [(send, chunks[n + 1])] := by
  have cursor : (n + 1 + 2 ^ 32 - 1) % 2 ^ 32 = n := by omega
  have wraps : (n + 1 + 1) % 2 ^ 32 = n + 2 := by omega
  unfold onAck
  rw [pending]
  dsimp only
  rw [cursor, if_neg (not_not.2 rfl), Nat.mod_eq_of_lt size, if_pos next, List.getElem?_eq_getElem next, wraps]
  exact ⟨AList.lookup_insert _, rfl⟩

/-- The ack of the last chunk ends the transfer. -/
theorem onAck_completed {a : ChunkAssembler τ} (size : chunks.length < 2 ^ 32)
    (pending : a.outbound.lookup id = some { chunks, nextToSend := n + 1, send }) (last : chunks.length = n + 1) :
    (a.onAck id n).1.outbound.lookup id = none ∧ (a.onAck id n).2.2 = [] := by
  have cursor : (n + 1 + 2 ^ 32 - 1) % 2 ^ 32 = n := by omega
  unfold onAck
  rw [pending]
  dsimp only
  rw [cursor, if_neg (not_not.2 rfl), Nat.mod_eq_of_lt size, if_neg (by omega)]
  exact ⟨AList.lookup_erase _ _, rfl⟩

/-- Each ack but the last releases one chunk. -/
theorem ackAll_pending {a : ChunkAssembler τ} (size : chunks.length < 2 ^ 32)
    (pending : a.outbound.lookup id = some { chunks, nextToSend := 1, send }) (lt : n < chunks.length) :
    (a.ackAll id n).1.outbound.lookup id = some { chunks, nextToSend := n + 1, send } ∧
      (a.ackAll id n).2 = (chunks.drop 1).take n := by
  induction n with
  | zero => exact ⟨pending, rfl⟩
  | succ n ih =>
    obtain ⟨entry, released⟩ := ih (Nat.lt_of_succ_lt lt)
    obtain ⟨next, sent⟩ := onAck_released size entry lt
    rw [ackAll_succ]
    refine ⟨next, ?_⟩
    have more : (chunks.drop 1)[n]? = some chunks[n + 1] := by
      rw [List.getElem?_drop, Nat.add_comm, List.getElem?_eq_getElem lt]
    rw [released, sent, List.take_add_one, more]
    rfl

/-- The acks of all the chunks release all but the first, and end the transfer. -/
theorem ackAll_whole {a : ChunkAssembler τ} (several : 0 < chunks.length) (size : chunks.length < 2 ^ 32)
    (pending : a.outbound.lookup id = some { chunks, nextToSend := 1, send }) :
    (a.ackAll id chunks.length).1.outbound.lookup id = none ∧ (a.ackAll id chunks.length).2 = chunks.drop 1 := by
  obtain ⟨n, last⟩ : ∃ n, chunks.length = n + 1 := ⟨chunks.length - 1, by omega⟩
  obtain ⟨entry, released⟩ := ackAll_pending size pending (show n < chunks.length by omega)
  obtain ⟨gone, sent⟩ := onAck_completed size entry last
  rw [last, ackAll_succ]
  refine ⟨gone, ?_⟩
  rw [released, sent, List.map_nil, List.append_nil]
  exact List.take_of_length_le (by simp [last])

end

/-- **Sending.** A transfer of several chunks, or of one under an id that is not pending, releases
the chunks of its payload and leaves nothing pending. -/
theorem transfer_released {a : ChunkAssembler τ} (fits : Fits a.cfg data) (send : τ)
    (room : 1 < chunkCount a.cfg data ∨ a.outbound.lookup id = none) :
    (a.transfer id data send).1.outbound.lookup id = none ∧ (a.transfer id data send).2 = chunksOf a.cfg id data := by
  unfold transfer beginOutbound
  dsimp only
  by_cases several : 1 < chunkCount a.cfg data
  · have size : (chunksOf a.cfg id data).length = chunkCount a.cfg data := chunksOf_length
    rw [if_pos several]
    generalize begun : ({ a with outbound := _ } : ChunkAssembler τ) = b
    have pending : b.outbound.lookup id = some { chunks := chunksOf a.cfg id data, nextToSend := 1, send } := by
      rw [← begun]
      exact AList.lookup_insert _
    have whole := ackAll_whole (by omega) (by rw [size]; exact fits.lt) pending
    rw [size] at whole
    refine ⟨whole.1, ?_⟩
    rw [whole.2, List.map_map]
    exact (congrArg (· ++ _) (List.map_id _)).trans (List.take_append_drop 1 _)
  · have free := room.resolve_left several
    have single : (chunksOf a.cfg id data).take 1 = chunksOf a.cfg id data :=
      List.take_of_length_le (by rw [chunksOf_length]; omega)
    rw [if_neg several, ackAll_none free, single, List.append_nil, List.map_map]
    exact ⟨free, List.map_id _⟩

/-! ## Receiving -/

/-- A payload as its transfer cuts it. -/
def messageOf (cfg : ChunkAssemblerConfig) (id : String) (data : Bytes) : Message where
  correlationId := id
  parts := (chunksOf cfg id data).map ChunkedPayload.data

theorem chunksOf_eq_message (cfg : ChunkAssemblerConfig) (id : String) (data : Bytes) :
    chunksOf cfg id data = (List.range (messageOf cfg id data).parts.length).map (messageOf cfg id data).chunk := by
  have size : (messageOf cfg id data).parts.length = chunkCount cfg data := by simp [messageOf]
  rw [size]
  refine List.map_congr_left fun i lt => ?_
  have lt := List.mem_range.1 lt
  rw [Message.chunk, size]
  simp [messageOf, chunksOf, List.getD_eq_getElem?_getD, lt]

/-- The first chunks of a message are kept, and complete nothing. -/
theorem offerAll_firsts (m : Message) (rcfg : ChunkAssemblerConfig) (few : m.parts.length ≤ rcfg.maxTotalChunks)
    (n : Nat) (lt : n < m.parts.length) :
    let out := offerAll ((List.range n).map m.chunk) ({ cfg := rcfg } : ChunkAssembler τ)
    ∃ t : Table (total fun _ : Unit => m), Represents (fun _ : Unit => m) out.1 t ∧ t.got () = Finset.range n ∧
      out.1.cfg = rcfg ∧ out.2.map OfferResult.payload = List.replicate n none := by
  induction n with
  | zero => exact ⟨.empty, represents_empty rcfg _, rfl, rfl, rfl⟩
  | succ n ih =>
    obtain ⟨t, rep, got, cfg, results⟩ := ih (by omega)
    have offered := offerInbound_represents (fun _ _ _ => rfl) rep ⟨(), n, Nat.lt_of_succ_lt lt⟩ (by rw [cfg]; exact few)
    have more : insert n (Finset.range n) ≠ Finset.range m.parts.length := by
      rw [← Finset.range_add_one]
      exact fun same => lt.ne (by simpa using congrArg Finset.card same)
    have incomplete := (Table.offer_snd rcfg.maxInflightInbound
      (⟨(), n, Nat.lt_of_succ_lt lt⟩ : Part (total fun _ : Unit => m)) t)
    have kept := Table.offer_got_self rcfg.maxInflightInbound
      (⟨(), n, Nat.lt_of_succ_lt lt⟩ : Part (total fun _ : Unit => m)) t
    dsimp only at incomplete kept offered
    rw [got, decide_eq_false more] at incomplete
    rw [got, if_neg more, ← Finset.range_add_one] at kept
    rw [cfg, incomplete] at offered
    rw [List.range_succ, List.map_append, List.map_singleton]
    simp only [offerAll_snoc]
    refine ⟨_, offered.1, kept, by rw [offerInbound_cfg, cfg], ?_⟩
    rw [List.map_append, results, List.replicate_succ']
    exact congrArg (_ ++ [OfferResult.payload ·]) offered.2

/-- **Receiving.** The chunks of a message in order come back as its payload, on the last one. -/
theorem offerAll_whole (m : Message) (rcfg : ChunkAssemblerConfig) (few : m.parts.length ≤ rcfg.maxTotalChunks)
    (pos : 0 < m.parts.length) :
    let out := offerAll ((List.range m.parts.length).map m.chunk) ({ cfg := rcfg } : ChunkAssembler τ)
    out.1.inbound.lookup m.correlationId = none ∧ out.1.inboundOrder = [] ∧
      out.2.map OfferResult.payload = List.replicate (m.parts.length - 1) none ++ [some m.payload] := by
  obtain ⟨n, last⟩ : ∃ n, m.parts.length = n + 1 := ⟨m.parts.length - 1, by omega⟩
  have lt : n < m.parts.length := by omega
  obtain ⟨t, rep, got, cfg, results⟩ := offerAll_firsts (τ := τ) m rcfg few n lt
  have offered := offerInbound_represents (fun _ _ _ => rfl) rep ⟨(), n, lt⟩ (by rw [cfg]; exact few)
  have full : insert n (Finset.range n) = Finset.range m.parts.length := by rw [last, Finset.range_add_one]
  have complete := Table.offer_snd rcfg.maxInflightInbound (⟨(), n, lt⟩ : Part (total fun _ : Unit => m)) t
  have closed := Table.offer_got_self rcfg.maxInflightInbound (⟨(), n, lt⟩ : Part (total fun _ : Unit => m)) t
  dsimp only at complete closed offered
  rw [got, decide_eq_true full] at complete
  rw [got, if_pos full] at closed
  rw [cfg, complete, if_pos rfl] at offered
  have table := offered.1.lookup ()
  have order := offered.1.order
  have nothing : (t.offer rcfg.maxInflightInbound ⟨(), n, lt⟩).1.order = [] :=
    List.eq_nil_iff_forall_not_mem.2 fun _ opened => by
      have some := (Table.mem_order _ ()).1 opened
      simp [closed] at some
  rw [closed, if_neg Finset.not_nonempty_empty] at table
  rw [nothing] at order
  rw [last, List.range_succ, List.map_append, List.map_singleton]
  simp only [offerAll_snoc]
  refine ⟨table, order, ?_⟩
  rw [List.map_append, results, Nat.add_sub_cancel]
  exact congrArg (_ ++ [OfferResult.payload ·]) offered.2

/-! ## The round trip -/

/-- A transfer, all of whose chunks are acked in order, is offered to a receiver: the payload comes
back on its last chunk and not before, and no entry is left on either side. -/
structure RoundTrip (id : String) (data : Bytes) (send : τ) (sender receiver : ChunkAssembler τ) : Prop where
  payload : (offerAll (sender.transfer id data send).2 receiver).2.map OfferResult.payload =
    List.replicate ((sender.transfer id data send).2.length - 1) none ++ [some data]
  ended : (sender.transfer id data send).1.outbound.lookup id = none
  forgotten : (offerAll (sender.transfer id data send).2 receiver).1.inbound.lookup id = none ∧
    id ∉ (offerAll (sender.transfer id data send).2 receiver).1.inboundOrder

theorem roundTrip_of_fits {a : ChunkAssembler τ} (fits : Fits a.cfg data) (send : τ) (rcfg : ChunkAssemblerConfig)
    (few : chunksNeeded a.cfg data ≤ rcfg.maxTotalChunks)
    (room : 1 < chunkCount a.cfg data ∨ a.outbound.lookup id = none) :
    RoundTrip id data send a { cfg := rcfg } := by
  obtain ⟨ended, released⟩ := transfer_released fits send room
  have size : (messageOf a.cfg id data).parts.length = chunkCount a.cfg data := by simp [messageOf]
  obtain ⟨entry, order, results⟩ := offerAll_whole (τ := τ) (messageOf a.cfg id data) rcfg
    (by rw [size, fits.chunkCount]; exact few) (by rw [size]; exact fits.pos)
  rw [← chunksOf_eq_message] at entry order results
  have whole : (messageOf a.cfg id data).payload = data := fits.payload
  rw [size, whole] at results
  refine ⟨?_, ended, ?_, ?_⟩
  · rw [released, chunksOf_length]
    exact results
  · rw [released]
    exact entry
  · rw [released, order]
    exact List.not_mem_nil

/-! ### A transfer under way -/

/-- An entry is of several chunks, and its cursor is a `uint32_t`. -/
def Several (a : ChunkAssembler τ) : Prop :=
  ∀ id entry, a.outbound.lookup id = some entry →
    1 < entry.chunks.length ∧ entry.chunks.length < 2 ^ 32 ∧ entry.nextToSend < 2 ^ 32

theorem Several.insert {a : ChunkAssembler τ} (h : Several a) {entry : OutboundState τ}
    (ok : 1 < entry.chunks.length ∧ entry.chunks.length < 2 ^ 32 ∧ entry.nextToSend < 2 ^ 32) :
    Several { a with outbound := a.outbound.insert id entry } := by
  intro other found at'
  by_cases same : other = id
  · subst same
    obtain rfl := Option.some_inj.1 ((AList.lookup_insert _).symm.trans at')
    exact ok
  · exact h other found ((AList.lookup_insert_ne same).symm.trans at')

theorem Several.begin {a : ChunkAssembler τ} (h : Several a) (id : String) (data : Bytes) (send : τ) :
    Several (a.beginOutbound id data send).1 := by
  unfold beginOutbound
  dsimp only
  split_ifs with several
  · refine h.insert ⟨by simpa using several, ?_, by simp⟩
    rw [chunksOf_length, chunkCount]
    split_ifs <;> omega
  · exact h

theorem Several.ack {a : ChunkAssembler τ} (h : Several a) (id : String) (k : Nat) : Several (a.onAck id k).1 := by
  unfold onAck
  split
  case h_1 => exact h
  case h_2 entry found =>
    obtain ⟨several, size, cursor⟩ := h id entry found
    dsimp only
    split_ifs
    · exact h
    · exact h.insert ⟨several, size, Nat.mod_lt _ (by decide)⟩
    · intro other entry' at'
      by_cases same : other = id
      · subst same
        cases (AList.lookup_erase _ _).symm.trans at'
      · exact h other entry' ((AList.lookup_erase_ne same).symm.trans at')

/-- The ack of a first chunk never ends a transfer of several. -/
theorem Several.kept {a : ChunkAssembler τ} (h : Several a) (pending : a.outbound.lookup id ≠ none) {k : Nat} (first : k = 0) :
    (a.onAck id k).1.outbound.lookup id ≠ none := by
  unfold onAck
  split
  case h_1 none => exact absurd none pending
  case h_2 entry found =>
    obtain ⟨several, size, cursor⟩ := h id entry found
    dsimp only
    by_cases one : entry.nextToSend = 1
    · have sent : k = (entry.nextToSend + 2 ^ 32 - 1) % 2 ^ 32 := by omega
      rw [← sent, if_neg (not_not.2 rfl), Nat.mod_eq_of_lt size, if_pos (show entry.nextToSend < _ by omega), AList.lookup_insert]
      exact Option.some_ne_none _
    · have other : k ≠ (entry.nextToSend + 2 ^ 32 - 1) % 2 ^ 32 := by omega
      rw [if_pos other]
      exact pending

/-- After any calls the sender keeps its configuration and holds transfers of several chunks only. -/
theorem Several.reached (cfg : ChunkAssemblerConfig) (events : List OutboundEvent) :
    Several (events.foldl Flow.step (Flow.start cfg)).asm ∧ (events.foldl Flow.step (Flow.start cfg)).asm.cfg = cfg := by
  refine Runs.foldl_inv' (I := fun s : Flow => Several s.asm ∧ s.asm.cfg = cfg) (fun s e h => ⟨?_, ?_⟩) events ⟨?_, rfl⟩
  · cases e with
    | begin id data => exact h.1.begin id data _
    | ack id k => exact h.1.ack id k
  · rw [Flow.step_cfg]
    exact h.2
  · intro id entry found
    cases found

/-- **Chunking then reassembling.** After any calls, a payload comes back exactly when the sum that
counts its chunks stays in `size_t`, and no transfer is under way under its id if it is a single chunk:
a single chunk leaves that one where it is. -/
theorem roundTrip_iff (cfg rcfg : ChunkAssemblerConfig) (events : List OutboundEvent) (id : String) (data : Bytes) (send : Nat)
    (length : data.length < 2 ^ 64) (size : cfg.maxChunkPayloadBytes < 2 ^ 64) (cap : rcfg.maxTotalChunks < 2 ^ 32)
    (few : chunksNeeded cfg data ≤ rcfg.maxTotalChunks) :
    RoundTrip id data send (events.foldl Flow.step (Flow.start cfg)).asm { cfg := rcfg } ↔
      data.length + chunkSize cfg ≤ 2 ^ 64 ∧
        (1 < chunksNeeded cfg data ∨ (events.foldl Flow.step (Flow.start cfg)).asm.outbound.lookup id = none) := by
  obtain ⟨several, same⟩ := Several.reached cfg events
  generalize (events.foldl Flow.step (Flow.start cfg)).asm = a at several same ⊢
  subst same
  constructor
  · intro trip
    have inside : data.length + chunkSize a.cfg ≤ 2 ^ 64 := by
      by_contra wraps
      have nothing : (a.transfer id data send).2 = [] := by
        simp [transfer, beginOutbound, chunksOf, chunkCount_wrapped length size (Nat.lt_of_not_le wraps), ackAll]
      have payload := trip.payload
      rw [nothing] at payload
      cases payload
    refine ⟨inside, or_iff_not_imp_left.2 fun single => by_contra fun pending => ?_⟩
    have fits : Fits a.cfg data := ⟨inside, few.trans_lt cap⟩
    have one : chunkCount a.cfg data = 1 := by
      have := fits.pos
      rw [fits.chunkCount] at this ⊢
      omega
    have left : (a.transfer id data send).1 = (a.onAck id 0).1 := by
      simp [transfer, beginOutbound, one, ackAll]
    have ended := trip.ended
    rw [left] at ended
    exact several.kept pending rfl ended
  · rintro ⟨inside, room⟩
    have fits : Fits a.cfg data := ⟨inside, few.trans_lt cap⟩
    exact roundTrip_of_fits fits send rcfg few (by rw [fits.chunkCount]; exact room)

/-- Two chunks of two bytes, while another transfer under the same id is under way. -/
theorem roundTrip_two_chunks :
    RoundTrip "a" [1, 2, 3, 4] 0
      ([.begin "a" [9, 9, 9]].foldl Flow.step (Flow.start { maxChunkPayloadBytes := 2 })).asm ({} : ChunkAssembler Nat) :=
  (roundTrip_iff { maxChunkPayloadBytes := 2 } {} [.begin "a" [9, 9, 9]] "a" [1, 2, 3, 4] 0 (by decide) (by decide)
    (by decide) (by decide)).2 (by decide)

/-- With the largest chunk size a payload of two bytes is cut into no chunk at all; and a payload of one
chunk leaves the transfer under way under its id, whose next chunk its ack releases. -/
theorem roundTrip_fails :
    ¬RoundTrip "a" [1, 2] 0 ({ cfg := { maxChunkPayloadBytes := 2 ^ 64 - 1 } } : ChunkAssembler Nat) {} ∧
      ¬RoundTrip "a" [1] 0
        ([.begin "a" [9, 9, 9]].foldl Flow.step (Flow.start { maxChunkPayloadBytes := 2 })).asm {} := by
  refine ⟨fun trip => ?_, fun trip => ?_⟩
  · exact absurd trip.payload (by decide)
  · exact absurd trip.ended (by decide)

end ChunkAssembler

end SstCam
