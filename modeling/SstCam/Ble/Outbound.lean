import SstCam.Ble.ChunkAssembler
import SstCam.Lib.Runs

/-!
# Outbound flow control

A run of `BeginOutbound` and `OnAck` calls. The transfers are numbered as they begin, and the
number stands for the closure a transfer sends through; `Flow` keeps what was sent through each.
`Gated` relates the pending entries to it: an entry's cursor is the number of chunks sent. Every call
keeps to the flow control (`Controlled`) exactly where the sum that counts the chunks does not wrap.
-/

namespace SstCam
set_option autoImplicit false

/-! ## Cutting a payload -/

namespace ChunkAssembler

theorem chunkSize_pos (cfg : ChunkAssemblerConfig) : 0 < chunkSize cfg := Nat.lt_of_lt_of_le Nat.one_pos (le_max_right _ _)

/-- The chunks a payload needs: at least one, even for the empty payload. -/
def chunksNeeded (cfg : ChunkAssemblerConfig) (data : Bytes) : Nat :=
  max 1 ((data.length + chunkSize cfg - 1) / chunkSize cfg)

/-- The size sum of `BeginOutbound` stays in `size_t` and its count in `uint32_t`. -/
structure Fits (cfg : ChunkAssemblerConfig) (data : Bytes) : Prop where
  size : data.length + chunkSize cfg ≤ 2 ^ 64
  count : chunksNeeded cfg data < 2 ^ 32

instance (cfg : ChunkAssemblerConfig) (data : Bytes) : Decidable (Fits cfg data) :=
  decidable_of_iff (_ ∧ _) ⟨fun h => ⟨h.1, h.2⟩, fun h => ⟨h.1, h.2⟩⟩

variable {cfg : ChunkAssemblerConfig} {data : Bytes} {id : String}

theorem Fits.chunkCount (fits : Fits cfg data) : chunkCount cfg data = chunksNeeded cfg data := by
  have pos := chunkSize_pos cfg
  have small := fits.count
  unfold ChunkAssembler.chunkCount
  unfold chunksNeeded at small ⊢
  by_cases empty : data = []
  · have none : (chunkSize cfg - 1) / chunkSize cfg = 0 := Nat.div_eq_of_lt (by omega)
    simp [empty, none]
  · have some : 0 < data.length := List.length_pos_iff.2 empty
    have one : 1 ≤ (data.length + chunkSize cfg - 1) / chunkSize cfg := (Nat.one_le_div_iff pos).2 (by omega)
    have inside := fits.size
    rw [if_neg empty, Nat.mod_eq_of_lt (show data.length + chunkSize cfg - 1 < 2 ^ 64 by omega),
      Nat.mod_eq_of_lt (by omega), max_eq_right one]

theorem Fits.pos (fits : Fits cfg data) : 0 < ChunkAssembler.chunkCount cfg data :=
  fits.chunkCount ▸ Nat.lt_of_lt_of_le Nat.one_pos (le_max_left _ _)

theorem Fits.lt (fits : Fits cfg data) : ChunkAssembler.chunkCount cfg data < 2 ^ 32 := fits.chunkCount ▸ fits.count

/-- A size sum past 64 bits wraps below the chunk size: no chunk is cut. -/
theorem chunkCount_wrapped (length : data.length < 2 ^ 64) (size : cfg.maxChunkPayloadBytes < 2 ^ 64)
    (wraps : 2 ^ 64 < data.length + chunkSize cfg) : chunkCount cfg data = 0 := by
  have bound : chunkSize cfg < 2 ^ 64 := max_lt size (by decide)
  have some : data ≠ [] := by
    rintro rfl
    rw [List.length_nil] at wraps
    omega
  have rest : (data.length + chunkSize cfg - 1) % 2 ^ 64 < chunkSize cfg := by omega
  rw [chunkCount, if_neg some, Nat.div_eq_of_lt rest, Nat.zero_mod]

@[simp] theorem chunksOf_length : (chunksOf cfg id data).length = chunkCount cfg data := by simp [chunksOf]

@[simp] theorem chunksOf_indexes : (chunksOf cfg id data).map ChunkedPayload.chunkIndex = List.range (chunkCount cfg data) := by
  simp [chunksOf, Function.comp_def]

theorem chunksOf_getElem {i : Nat} (lt : i < (chunksOf cfg id data).length) :
    ((chunksOf cfg id data)[i]).correlationId = id ∧ ((chunksOf cfg id data)[i]).chunkIndex = i := by
  simp [chunksOf]

/-- Pieces of one size, as many as are taken, are the payload up to there. -/
theorem pieces_flatten (size n : Nat) (data : Bytes) :
    ((List.range n).map fun i => (data.drop (i * size)).take size).flatten = data.take (n * size) := by
  induction n with
  | zero => simp
  | succ n ih =>
    rw [List.range_succ, List.map_append, List.flatten_append, ih, Nat.add_mul, Nat.one_mul, List.take_add]
    simp

/-- What the first chunks carry. -/
theorem chunksOf_take_payload (n : Nat) (le : n ≤ chunkCount cfg data) :
    (((chunksOf cfg id data).take n).map ChunkedPayload.data).flatten = data.take (n * chunkSize cfg) := by
  have firsts : (chunksOf cfg id data).take n = (List.range n).map fun i =>
      { correlationId := id, chunkIndex := i, totalChunks := chunkCount cfg data,
        data := (data.drop (i * chunkSize cfg)).take (chunkSize cfg) } := by
    rw [chunksOf, ← List.map_take, List.take_range, min_eq_left le]
  rw [firsts, List.map_map, ← pieces_flatten]
  rfl

/-- All the chunks carry the whole payload. -/
theorem Fits.payload (fits : Fits cfg data) : ((chunksOf cfg id data).map ChunkedPayload.data).flatten = data := by
  have whole : (((chunksOf cfg id data).take (ChunkAssembler.chunkCount cfg data)).map ChunkedPayload.data).flatten = _ :=
    chunksOf_take_payload _ le_rfl
  rw [List.take_of_length_le (by simp)] at whole
  rw [whole]
  refine List.take_of_length_le ?_
  have pos := chunkSize_pos cfg
  have enough : data.length ≤ (data.length + chunkSize cfg - 1) / chunkSize cfg * chunkSize cfg := by
    have := Nat.div_add_mod (data.length + chunkSize cfg - 1) (chunkSize cfg)
    have := Nat.mod_lt (data.length + chunkSize cfg - 1) pos
    rw [Nat.mul_comm]
    omega
  rw [fits.chunkCount, chunksNeeded]
  exact enough.trans (Nat.mul_le_mul_right _ (le_max_right _ _))

end ChunkAssembler

/-! ## Runs -/

open ChunkAssembler

inductive OutboundEvent where
  | begin (correlationId : String) (data : Bytes)
  | ack (correlationId : String) (chunkIndex : Nat)
  deriving DecidableEq, Repr

structure Transfer where
  correlationId : String
  data : Bytes
  deriving DecidableEq, Repr

def Transfer.chunks (cfg : ChunkAssemblerConfig) (t : Transfer) : List ChunkedPayload :=
  chunksOf cfg t.correlationId t.data

/-- A chunk of a transfer, one of as many as its payload needs. -/
def Transfer.chunk (cfg : ChunkAssemblerConfig) (t : Transfer) (i : Nat) : ChunkedPayload where
  correlationId := t.correlationId
  chunkIndex := i
  totalChunks := chunksNeeded cfg t.data
  data := (t.data.drop (i * chunkSize cfg)).take (chunkSize cfg)

/-- The transfer cut as it should be. -/
def Transfer.cut (cfg : ChunkAssemblerConfig) (t : Transfer) : List ChunkedPayload :=
  (List.range (chunksNeeded cfg t.data)).map (t.chunk cfg)

@[simp] theorem Transfer.cut_length (cfg : ChunkAssemblerConfig) (t : Transfer) :
    (t.cut cfg).length = chunksNeeded cfg t.data := by simp [cut]

theorem Transfer.chunks_eq_cut {cfg : ChunkAssemblerConfig} {t : Transfer} (fits : Fits cfg t.data) :
    t.chunks cfg = t.cut cfg := by
  unfold chunks chunksOf cut
  rw [fits.chunkCount]
  rfl

/-- The assembler with what happened so far: the transfers begun, the one each id was last begun
for, the chunks sent through each, and the ones an ack was answered complete for. -/
structure Flow where
  asm : ChunkAssembler Nat
  begun : List Transfer := []
  current : String → Option Nat := fun _ => none
  sent : List (Nat × ChunkedPayload) := []
  completed : List Nat := []

namespace Flow

def start (cfg : ChunkAssemblerConfig) : Flow := { asm := { cfg } }

/-- The chunks one call sends, each with the number of the transfer it is sent through. -/
def emits (s : Flow) : OutboundEvent → List (Nat × ChunkedPayload)
  | .begin id data => (s.asm.beginOutbound id data s.begun.length).2.2
  | .ack id k => (s.asm.onAck id k).2.2

def step (s : Flow) (e : OutboundEvent) : Flow :=
  match e with
  | .begin id data =>
    { s with
      asm := (s.asm.beginOutbound id data s.begun.length).1
      begun := s.begun ++ [⟨id, data⟩]
      current := Function.update s.current id (some s.begun.length)
      sent := s.sent ++ s.emits e }
  | .ack id k =>
    { s with
      asm := (s.asm.onAck id k).1
      sent := s.sent ++ s.emits e
      completed := if (s.asm.onAck id k).2.1 then s.completed ++ (s.current id).toList else s.completed }

/-- What was sent through a transfer, in the order it was sent. -/
def emitted (s : Flow) (n : Nat) : List ChunkedPayload :=
  s.sent.filterMap fun e => if e.1 = n then some e.2 else none

/-- A transfer begins under an id that is not pending, with a payload of fewer than 2^32 chunks. -/
def Admitted (s : Flow) : OutboundEvent → Prop
  | .begin id data =>
    s.asm.outbound.lookup id = none ∧ data.length < 2 ^ 64 ∧ chunksNeeded s.asm.cfg data < 2 ^ 32
  | .ack _ _ => True

instance (s : Flow) : (e : OutboundEvent) → Decidable (s.Admitted e)
  | .begin _ _ => inferInstanceAs (Decidable (_ ∧ _ ∧ _))
  | .ack _ _ => .isTrue trivial

/-- The sum that counts the chunks stays in `size_t`. -/
def Sized (s : Flow) : OutboundEvent → Prop
  | .begin _ data => data.length + chunkSize s.asm.cfg ≤ 2 ^ 64
  | .ack _ _ => True

instance (s : Flow) : (e : OutboundEvent) → Decidable (s.Sized e)
  | .begin _ _ => inferInstanceAs (Decidable (_ ≤ _))
  | .ack _ _ => .isTrue trivial

@[simp] theorem step_begun_ack (s : Flow) (id : String) (k : Nat) : (s.step (.ack id k)).begun = s.begun := rfl

@[simp] theorem step_cfg (s : Flow) (e : OutboundEvent) : (s.step e).asm.cfg = s.asm.cfg := by
  cases e with
  | begin id data =>
    show (beginOutbound id data s.begun.length s.asm).1.cfg = _
    unfold beginOutbound
    dsimp only
    split <;> rfl
  | ack id k =>
    show (onAck id k s.asm).1.cfg = _
    unfold onAck
    split
    · rfl
    · dsimp only
      split_ifs <;> rfl

theorem step_emitted (s : Flow) (e : OutboundEvent) (n : Nat) :
    (s.step e).emitted n = s.emitted n ++ (s.emits e).filterMap fun e => if e.1 = n then some e.2 else none := by
  cases e <;> exact List.filterMap_append

/-! ### The invariant -/

/-- Transfer `n` is pending: its entry's cursor `m` is the number of chunks sent. -/
structure Pending (s : Flow) (n : Nat) (t : Transfer) (m : Nat) : Prop where
  begun : s.begun[n]? = some t
  entry : s.asm.outbound.lookup t.correlationId =
    some { chunks := t.chunks s.asm.cfg, nextToSend := m, send := n }
  current : s.current t.correlationId = some n
  live : n ∉ s.completed
  several : 1 < chunkCount s.asm.cfg t.data
  sent : s.emitted n = (t.chunks s.asm.cfg).take m
  bounds : 0 < m ∧ m ≤ chunkCount s.asm.cfg t.data

/-- Each entry is a pending transfer's, and a transfer that is not pending is all sent. -/
structure Gated (s : Flow) : Prop where
  fits : ∀ t ∈ s.begun, Fits s.asm.cfg t.data
  sent_lt : ∀ e ∈ s.sent, e.1 < s.begun.length
  completed_lt : ∀ n ∈ s.completed, n < s.begun.length
  nodup : s.completed.Nodup
  pending : ∀ id entry, s.asm.outbound.lookup id = some entry →
    ∃ t, t.correlationId = id ∧ s.Pending entry.send t entry.nextToSend
  sent : ∀ n t, s.begun[n]? = some t → (∃ m, s.Pending n t m) ∨
    s.emitted n = t.chunks s.asm.cfg ∧ (1 < chunkCount s.asm.cfg t.data → n ∈ s.completed)

theorem start_gated (cfg : ChunkAssemblerConfig) : (start cfg).Gated := by
  constructor <;> simp [start]

section
variable {s s' : Flow} {n n' m m' k : Nat} {t t' : Transfer} {id : String}

/-- A pending transfer none of whose data change stays pending. -/
theorem Pending.frame (p : s.Pending n t m) (cfg : s'.asm.cfg = s.asm.cfg) (begun : s'.begun[n]? = s.begun[n]?)
    (entry : s'.asm.outbound.lookup t.correlationId = s.asm.outbound.lookup t.correlationId)
    (current : s'.current t.correlationId = s.current t.correlationId) (live : n ∉ s'.completed)
    (sent : s'.emitted n = s.emitted n) : s'.Pending n t m :=
  ⟨begun.trans p.begun, by rw [entry, cfg]; exact p.entry, current.trans p.current, live, by rw [cfg]; exact p.several,
    by rw [sent, cfg]; exact p.sent, by rw [cfg]; exact p.bounds⟩

/-- One transfer at most is pending under an id. -/
theorem Pending.unique (p : s.Pending n t m) (q : s.Pending n' t' m') (same : t'.correlationId = t.correlationId) :
    n' = n ∧ m' = m := by
  have entry := p.entry.symm.trans (same ▸ q.entry)
  simp only [Option.some_inj, OutboundState.mk.injEq] at entry
  exact ⟨entry.2.2.symm, entry.2.1.symm⟩

theorem Pending.lt (p : s.Pending n t m) : n < s.begun.length :=
  (List.getElem?_eq_some_iff.1 p.begun).1

theorem Pending.same (p : s.Pending n t m) (q : s.Pending n t' m') : t' = t :=
  Option.some_inj.1 (q.begun.symm.trans p.begun)

/-- What an ack comes to. -/
inductive Acked (s : Flow) (id : String) (k : Nat) : ChunkAssembler Nat × Bool × List (Nat × ChunkedPayload) → Prop
  | ignored (why : ∀ n t m, s.Pending n t m → t.correlationId = id → k + 1 ≠ m) : Acked s id k (s.asm, false, [])
  | released (n : Nat) (t : Transfer) (chunk : ChunkedPayload) (p : s.Pending n t (k + 1))
    (here : t.correlationId = id) (next : (t.chunks s.asm.cfg)[k + 1]? = some chunk) :
    Acked s id k
      ({ s.asm with
          outbound := s.asm.outbound.insert id
            { chunks := t.chunks s.asm.cfg, nextToSend := k + 2, send := n } }, false, [(n, chunk)])
  | completed (n : Nat) (t : Transfer) (p : s.Pending n t (k + 1)) (here : t.correlationId = id)
    (last : chunkCount s.asm.cfg t.data = k + 1) :
    Acked s id k ({ s.asm with outbound := s.asm.outbound.erase id }, true, [])

theorem Gated.acked (h : s.Gated) (id : String) (k : Nat) : Acked s id k (s.asm.onAck id k) := by
  unfold onAck
  split
  case h_1 none =>
    refine .ignored fun n t m p here => ?_
    have := p.entry
    rw [here, none] at this
    cases this
  case h_2 entry found =>
    obtain ⟨t, rfl, p⟩ := h.pending id entry found
    have eq : entry = { chunks := t.chunks s.asm.cfg, nextToSend := entry.nextToSend, send := entry.send } :=
      Option.some_inj.1 (found.symm.trans p.entry)
    have count := (h.fits t (List.mem_of_getElem? p.begun)).lt
    obtain ⟨pos, le⟩ := p.bounds
    have size : entry.chunks.length = chunkCount s.asm.cfg t.data := by rw [eq]; exact chunksOf_length
    have cursor : (entry.nextToSend + 2 ^ 32 - 1) % 2 ^ 32 = entry.nextToSend - 1 := by omega
    dsimp only
    rw [cursor, size, Nat.mod_eq_of_lt count]
    split_ifs with other more
    · refine .ignored fun n t' m q same last => other ?_
      have := (p.unique q same).2
      omega
    · have at' : k + 1 = entry.nextToSend := by omega
      have lt : k + 1 < (t.chunks s.asm.cfg).length := by
        rw [at', Transfer.chunks, chunksOf_length]
        exact more
      have next := List.getElem?_eq_getElem lt
      rw [eq, ← at', Nat.mod_eq_of_lt (by omega), next]
      exact .released _ t _ (at' ▸ p) rfl next
    · exact .completed _ t ((show k + 1 = entry.nextToSend by omega) ▸ p) rfl (by omega)

/-- Through a transfer that has not begun nothing was sent. -/
theorem Gated.emitted_eq_nil (h : s.Gated) (le : s.begun.length ≤ n) : s.emitted n = [] := by
  refine List.filterMap_eq_nil_iff.2 fun e he => if_neg fun same => ?_
  have := h.sent_lt e he
  omega

/-- A step that changes one pending transfer only, and leaves it pending or all sent. -/
theorem Gated.touch (h : s.Gated) (p : s.Pending n t m) (cfg : s'.asm.cfg = s.asm.cfg) (begun : s'.begun = s.begun)
    (current : s'.current = s.current)
    (entries : ∀ id ≠ t.correlationId, s'.asm.outbound.lookup id = s.asm.outbound.lookup id)
    (emitted : ∀ n' ≠ n, s'.emitted n' = s.emitted n')
    (completed : ∀ n' ≠ n, n' ∈ s'.completed ↔ n' ∈ s.completed)
    (sent_lt : ∀ e ∈ s'.sent, e.1 < s.begun.length) (nodup : s'.completed.Nodup)
    (own : (∃ m, s'.Pending n t m) ∨
      s'.asm.outbound.lookup t.correlationId = none ∧ s'.emitted n = t.chunks s.asm.cfg ∧ n ∈ s'.completed) :
    s'.Gated := by
  have rest : ∀ n' t' m', n' ≠ n → s.Pending n' t' m' → s'.Pending n' t' m' := fun n' t' m' ne q => by
    have apart : t'.correlationId ≠ t.correlationId := fun e => ne (p.unique q e).1
    exact q.frame cfg (by rw [begun]) (entries _ apart) (by rw [current]) (mt (completed n' ne).1 q.live) (emitted n' ne)
  refine ⟨by rw [cfg, begun]; exact h.fits, by rw [begun]; exact sent_lt, fun n' mem => ?_, nodup,
    fun id entry found => ?_, fun n' t' at' => ?_⟩
  · rw [begun]
    by_cases same : n' = n
    · exact same ▸ p.lt
    · exact h.completed_lt n' ((completed n' same).1 mem)
  · by_cases same : id = t.correlationId
    · subst same
      rcases own with ⟨m', own⟩ | ⟨gone, -⟩
      · obtain rfl := Option.some_inj.1 (own.entry.symm.trans found)
        exact ⟨t, rfl, own⟩
      · cases gone.symm.trans found
    · obtain ⟨t', rfl, q⟩ := h.pending id entry ((entries id same).symm.trans found)
      refine ⟨t', rfl, rest _ t' _ (fun e => same ?_) q⟩
      exact congrArg _ (p.same (e ▸ q))
  · rw [begun] at at'
    by_cases same : n' = n
    · subst same
      obtain rfl : t = t' := Option.some_inj.1 (p.begun.symm.trans at')
      rcases own with own | ⟨-, all, done⟩
      · exact .inl own
      · exact .inr ⟨by rw [cfg]; exact all, fun _ => done⟩
    · rcases h.sent n' t' at' with ⟨m', q⟩ | ⟨all, done⟩
      · exact .inl ⟨m', rest n' t' m' same q⟩
      · exact .inr ⟨by rw [emitted n' same, cfg]; exact all, fun several =>
          (completed n' same).2 (done (by rwa [cfg] at several))⟩

theorem Gated.ack (h : s.Gated) (id : String) (k : Nat) : (s.step (.ack id k)).Gated := by
  have acked := h.acked id k
  unfold step emits
  dsimp only
  generalize s.asm.onAck id k = out at acked
  cases acked with
  | ignored why => simpa using h
  | released n t chunk p here next =>
    subst here
    have lt : k + 1 < chunkCount s.asm.cfg t.data := by
      have := (List.getElem?_eq_some_iff.1 next).1
      rwa [Transfer.chunks, chunksOf_length] at this
    refine h.touch p rfl rfl rfl (fun id ne => AList.lookup_insert_ne ne) (fun n' ne => ?_) (fun _ _ => .rfl)
      (fun e he => ?_) h.nodup (.inl ⟨k + 2, p.begun, AList.lookup_insert _, p.current, p.live, p.several, ?_,
        by omega, lt⟩)
    · simp [emitted, Ne.symm ne]
    · rcases List.mem_append.1 he with old | new
      · exact h.sent_lt e old
      · obtain rfl := List.mem_singleton.1 new
        exact p.lt
    · have sent := p.sent
      unfold emitted at sent ⊢
      simp [sent, List.take_add_one (i := k + 1), next]
  | completed n t p here last =>
    subst here
    have current := p.current
    refine h.touch p rfl rfl rfl (fun id ne => AList.lookup_erase_ne ne) (fun n' _ => ?_) (fun n' ne => ?_)
      (by simpa using h.sent_lt) ?_ (.inr ⟨AList.lookup_erase _ _, ?_, ?_⟩)
    · simp [emitted]
    · simp [current, ne]
    · simpa [current, List.nodup_append] using ⟨h.nodup, fun a ha => ne_of_mem_of_not_mem ha p.live⟩
    · have sent := p.sent
      unfold emitted at sent ⊢
      rw [List.take_of_length_le (by simp [Transfer.chunks, last])] at sent
      simpa using sent
    · simp [current]

theorem begin_lookup_ne (s : Flow) {id : String} (data : Bytes) {other : String} (ne : other ≠ id) :
    (s.step (.begin id data)).asm.outbound.lookup other = s.asm.outbound.lookup other := by
  show (beginOutbound id data s.begun.length s.asm).1.outbound.lookup other = _
  unfold beginOutbound
  dsimp only
  split_ifs
  · exact AList.lookup_insert_ne ne
  · rfl

theorem begin_lookup (s : Flow) (id : String) (data : Bytes) (several : 1 < chunkCount s.asm.cfg data) :
    (s.step (.begin id data)).asm.outbound.lookup id =
      some { chunks := chunksOf s.asm.cfg id data, nextToSend := 1, send := s.begun.length } := by
  show (beginOutbound id data s.begun.length s.asm).1.outbound.lookup id = _
  unfold beginOutbound
  dsimp only
  rw [if_pos several]
  exact AList.lookup_insert _

theorem begin_lookup_single (s : Flow) (id : String) (data : Bytes) (single : ¬1 < chunkCount s.asm.cfg data) :
    (s.step (.begin id data)).asm.outbound.lookup id = s.asm.outbound.lookup id := by
  show (beginOutbound id data s.begun.length s.asm).1.outbound.lookup id = _
  unfold beginOutbound
  dsimp only
  rw [if_neg single]

theorem begin_emitted_ne (s : Flow) (id : String) (data : Bytes) (ne : n ≠ s.begun.length) :
    (s.step (.begin id data)).emitted n = s.emitted n := by
  rw [step_emitted]
  simp [emits, beginOutbound, -List.map_take, List.filterMap_map, Ne.symm ne]

theorem Gated.begin_emitted (h : s.Gated) (id : String) (data : Bytes) :
    (s.step (.begin id data)).emitted s.begun.length = (chunksOf s.asm.cfg id data).take 1 := by
  rw [step_emitted, h.emitted_eq_nil le_rfl]
  simp [emits, beginOutbound, -List.map_take, List.filterMap_map]

theorem Gated.begin (h : s.Gated) (id : String) (data : Bytes) (free : s.asm.outbound.lookup id = none)
    (fits : Fits s.asm.cfg data) : (s.step (.begin id data)).Gated := by
  have begun : (s.step (.begin id data)).begun = s.begun ++ [⟨id, data⟩] := rfl
  have cfg : (s.step (.begin id data)).asm.cfg = s.asm.cfg := step_cfg s _
  -- The transfers pending so far stay so: none of them has the new id.
  have rest : ∀ n t m, s.Pending n t m → (s.step (.begin id data)).Pending n t m := fun n t m p => by
    have apart : t.correlationId ≠ id := fun e => by
      have := p.entry
      rw [e, free] at this
      cases this
    exact p.frame cfg (List.getElem?_append_left p.lt) (begin_lookup_ne s data apart)
      (Function.update_of_ne apart _ _) p.live (begin_emitted_ne s id data p.lt.ne)
  have own : 1 < chunkCount s.asm.cfg data → (s.step (.begin id data)).Pending s.begun.length ⟨id, data⟩ 1 :=
    fun several => by
      refine ⟨by rw [begun]; simp, ?_, Function.update_self _ _ _, fun old => (h.completed_lt _ old).false, ?_, ?_, ?_⟩
      · rw [cfg]
        exact begin_lookup s id data several
      · rwa [cfg]
      · rw [cfg]
        exact h.begin_emitted id data
      · rw [cfg]
        exact ⟨Nat.one_pos, several.le⟩
  refine ⟨fun t ht => ?_, fun e he => ?_, fun n hn => ?_, h.nodup, fun other entry found => ?_, fun n t at' => ?_⟩
  · rw [cfg]
    rcases List.mem_append.1 ht with old | new
    · exact h.fits t old
    · obtain rfl := List.mem_singleton.1 new
      exact fits
  · rw [begun, List.length_append, List.length_singleton]
    rcases List.mem_append.1 he with old | new
    · exact (h.sent_lt e old).trans (Nat.lt_succ_self _)
    · obtain ⟨chunk, -, rfl⟩ := List.mem_map.1 (show e ∈ List.map _ _ from new)
      exact Nat.lt_succ_self _
  · rw [begun, List.length_append]
    exact Nat.lt_add_right _ (h.completed_lt n hn)
  · by_cases same : other = id
    · subst same
      by_cases several : 1 < chunkCount s.asm.cfg data
      · rw [begin_lookup s other data several] at found
        obtain rfl := Option.some_inj.1 found
        exact ⟨_, rfl, own several⟩
      · rw [begin_lookup_single s other data several, free] at found
        cases found
    · rw [begin_lookup_ne s data same] at found
      obtain ⟨t, here, p⟩ := h.pending other entry found
      exact ⟨t, here, rest _ t _ p⟩
  · rw [begun] at at'
    rcases Nat.lt_or_ge n s.begun.length with lt | ge
    · rw [List.getElem?_append_left lt] at at'
      rcases h.sent n t at' with ⟨m, p⟩ | ⟨all, done⟩
      · exact .inl ⟨m, rest n t m p⟩
      · exact .inr ⟨by rw [begin_emitted_ne s id data lt.ne, cfg]; exact all, by rw [cfg]; exact done⟩
    · obtain ⟨rfl, rfl⟩ : n = s.begun.length ∧ t = ⟨id, data⟩ := by
        rw [List.getElem?_append_right ge, List.getElem?_singleton] at at'
        split_ifs at at' with zero
        exact ⟨by omega, (Option.some_inj.1 at').symm⟩
      by_cases several : 1 < chunkCount s.asm.cfg data
      · exact .inl ⟨1, own several⟩
      · refine .inr ⟨?_, fun more => absurd (by rwa [cfg] at more) several⟩
        rw [h.begin_emitted, cfg]
        exact List.take_of_length_le (by rw [chunksOf_length]; omega)

/-- **The step.** -/
theorem Gated.step (h : s.Gated) (e : OutboundEvent) (admitted : s.Admitted e) (sized : s.Sized e) :
    (s.step e).Gated := by
  cases e with
  | begin id data => exact h.begin id data admitted.1 ⟨sized, admitted.2.2⟩
  | ack id k => exact h.ack id k

end

/-! ### Flow control -/

/-- What a call keeps to. -/
structure Controlled (s : Flow) (e : OutboundEvent) : Prop where
  /-- A transfer begins with its first chunk. -/
  begins : ∀ id data, e = .begin id data → s.emits e = [(s.begun.length, Transfer.chunk s.asm.cfg ⟨id, data⟩ 0)]
  /-- The ack of the chunk sent last releases the next one. -/
  advances : ∀ id k, e = .ack id k → ∀ n t, s.begun[n]? = some t → t.correlationId = id →
    (s.emitted n).length = k + 1 → k + 1 < chunksNeeded s.asm.cfg t.data →
      s.emits e = [(n, t.chunk s.asm.cfg (k + 1))] ∧ (s.asm.onAck id k).2.1 = false
  /-- The chunks sent so far are the first ones of the transfer, in the order of their indexes. -/
  ordered : ∀ n t, (s.step e).begun[n]? = some t →
    (s.step e).emitted n <+: t.cut s.asm.cfg ∧
      ((s.step e).emitted n).map ChunkedPayload.chunkIndex = List.range ((s.step e).emitted n).length
  payload : ∀ n t, (s.step e).begun[n]? = some t →
    (((s.step e).emitted n).map ChunkedPayload.data).flatten <+: t.data
  /-- A chunk past the first is sent on the ack of the one before, which was sent earlier. -/
  gated : ∀ n chunk, (n, chunk) ∈ s.emits e →
    (chunk.chunkIndex = 0 ∧ n = s.begun.length ∧ ∃ data, e = .begin chunk.correlationId data) ∨
      ∃ k, chunk.chunkIndex = k + 1 ∧ e = .ack chunk.correlationId k ∧
        ∃ before ∈ s.emitted n, before.chunkIndex = k
  /-- An ack is answered complete when it is the one of the last chunk, of a transfer all sent
  and not completed before. -/
  completes : ∀ id k, e = .ack id k → ((s.asm.onAck id k).2.1 = true ↔
    ∃ n t, s.begun[n]? = some t ∧ t.correlationId = id ∧ 1 < chunksNeeded s.asm.cfg t.data ∧ n ∉ s.completed ∧
      s.emitted n = t.cut s.asm.cfg ∧ k + 1 = chunksNeeded s.asm.cfg t.data)
  /-- Then the whole payload was sent, and the entry is gone. -/
  completed : ∀ id k, e = .ack id k → (s.asm.onAck id k).2.1 = true →
    ∃ n t, s.begun[n]? = some t ∧ t.correlationId = id ∧ (s.step e).completed = s.completed ++ [n] ∧
      ((s.emitted n).map ChunkedPayload.data).flatten = t.data ∧ (s.step e).asm.outbound.lookup id = none
  once : (s.step e).completed.Nodup
  /-- An ack leaves the transfers of other ids alone. -/
  others : ∀ id k, e = .ack id k →
    (∀ other ≠ id, (s.step e).asm.outbound.lookup other = s.asm.outbound.lookup other) ∧
      ∀ n t, s.begun[n]? = some t → t.correlationId ≠ id → (s.step e).emitted n = s.emitted n

variable {s : Flow} {n k : Nat} {t : Transfer} {id : String}

/-- What was sent through a transfer is a first part of its chunks. -/
theorem Gated.emitted_eq_take (h : s.Gated) (begun : s.begun[n]? = some t) :
    ∃ m, m ≤ chunkCount s.asm.cfg t.data ∧ s.emitted n = (t.chunks s.asm.cfg).take m := by
  rcases h.sent n t begun with ⟨m, p⟩ | ⟨all, -⟩
  · exact ⟨m, p.bounds.2, p.sent⟩
  · exact ⟨_, le_rfl, all.trans (List.take_of_length_le (by simp [Transfer.chunks])).symm⟩

theorem Gated.ack_gated (h : s.Gated) {n : Nat} {chunk : ChunkedPayload} (sent : (n, chunk) ∈ s.emits (.ack id k)) :
    chunk.chunkIndex = k + 1 ∧ chunk.correlationId = id ∧ ∃ before ∈ s.emitted n, before.chunkIndex = k := by
  have acked := h.acked id k
  unfold emits at sent
  dsimp only at sent
  generalize s.asm.onAck id k = out at acked sent
  cases acked with
  | ignored why => cases sent
  | completed n t p here last => cases sent
  | released n' t chunk' p here next =>
    obtain ⟨rfl, rfl⟩ := Prod.mk.inj (List.mem_singleton.1 sent)
    obtain ⟨lt, rfl⟩ := List.getElem?_eq_some_iff.1 next
    obtain ⟨named, index⟩ := chunksOf_getElem lt
    refine ⟨index, named.trans here, (t.chunks s.asm.cfg)[k], ?_, (chunksOf_getElem _).2⟩
    rw [p.sent]
    exact List.mem_take_iff_getElem.2 ⟨k, by omega, rfl⟩

theorem Gated.begin_gated {n : Nat} {chunk : ChunkedPayload} {data : Bytes} (sent : (n, chunk) ∈ s.emits (.begin id data)) :
    chunk.chunkIndex = 0 ∧ chunk.correlationId = id ∧ n = s.begun.length := by
  obtain ⟨first, mem, same⟩ := List.mem_map.1 (show (n, chunk) ∈ List.map _ _ from sent)
  obtain ⟨rfl, rfl⟩ := Prod.mk.inj same
  obtain ⟨i, lt, rfl⟩ := List.mem_take_iff_getElem.1 mem
  have bound : i < (chunksOf s.asm.cfg id data).length := by omega
  obtain ⟨named, index⟩ := chunksOf_getElem bound
  exact ⟨by rw [index]; omega, named, rfl⟩

/-- An ack is answered complete on the last chunk of a transfer all sent. -/
theorem Gated.completes (h : s.Gated) (id : String) (k : Nat) : (s.asm.onAck id k).2.1 = true ↔
    ∃ n t, s.begun[n]? = some t ∧ t.correlationId = id ∧ 1 < (t.chunks s.asm.cfg).length ∧ n ∉ s.completed ∧
      s.emitted n = t.chunks s.asm.cfg ∧ k + 1 = (t.chunks s.asm.cfg).length := by
  -- A transfer that meets the right-hand side is pending, with its cursor past its last chunk.
  have pending : ∀ n t, s.begun[n]? = some t → 1 < (t.chunks s.asm.cfg).length → n ∉ s.completed →
      s.emitted n = t.chunks s.asm.cfg → s.Pending n t (t.chunks s.asm.cfg).length := fun n t begun several live all => by
    have count : (t.chunks s.asm.cfg).length = chunkCount s.asm.cfg t.data := chunksOf_length
    rcases h.sent n t begun with ⟨m, p⟩ | ⟨-, done⟩
    · have size := congrArg List.length (p.sent.symm.trans all)
      rw [List.length_take, count, min_eq_left p.bounds.2] at size
      rwa [count, ← size]
    · exact absurd (done (count ▸ several)) live
  have acked := h.acked id k
  generalize s.asm.onAck id k = out at acked
  cases acked with
  | ignored why =>
    refine ⟨nofun, fun ⟨n, t, begun, here, several, live, all, last⟩ => ?_⟩
    exact absurd last (why n t _ (pending n t begun several live all) here)
  | released n t chunk p here next =>
    refine ⟨nofun, fun ⟨n', t', begun, here', several, live, all, last⟩ => ?_⟩
    have lt := (List.getElem?_eq_some_iff.1 next).1
    obtain ⟨rfl, at'⟩ := p.unique (pending n' t' begun several live all) (here'.trans here.symm)
    obtain rfl := p.same (pending _ t' begun several live all)
    omega
  | completed n t p here last =>
    have count : (t.chunks s.asm.cfg).length = chunkCount s.asm.cfg t.data := chunksOf_length
    refine ⟨fun _ => ⟨n, t, p.begun, here, count ▸ p.several, p.live, ?_, by rw [count, last]⟩, fun _ => rfl⟩
    exact p.sent.trans (List.take_of_length_le (by rw [count, last]))

theorem Gated.completed (h : s.Gated) (id : String) (k : Nat) (complete : (s.asm.onAck id k).2.1 = true) :
    ∃ n t, s.begun[n]? = some t ∧ t.correlationId = id ∧ (s.step (.ack id k)).completed = s.completed ++ [n] ∧
      ((s.emitted n).map ChunkedPayload.data).flatten = t.data ∧
      (s.step (.ack id k)).asm.outbound.lookup id = none := by
  have acked := h.acked id k
  unfold Flow.step
  dsimp only
  generalize s.asm.onAck id k = out at acked complete
  cases acked with
  | ignored why => cases complete
  | released n t chunk p here next => cases complete
  | completed n t p here last =>
    subst here
    refine ⟨n, t, p.begun, rfl, by simp [p.current], ?_, AList.lookup_erase _ _⟩
    rw [p.sent, List.take_of_length_le (by simp [Transfer.chunks, last])]
    exact (h.fits t (List.mem_of_getElem? p.begun)).payload

theorem Gated.others (h : s.Gated) (id : String) (k : Nat) :
    (∀ other ≠ id, (s.step (.ack id k)).asm.outbound.lookup other = s.asm.outbound.lookup other) ∧
      ∀ n t, s.begun[n]? = some t → t.correlationId ≠ id → (s.step (.ack id k)).emitted n = s.emitted n := by
  have acked := h.acked id k
  simp only [step_emitted s (.ack id k)]
  unfold Flow.step emits
  dsimp only
  generalize s.asm.onAck id k = out at acked
  cases acked with
  | ignored why => exact ⟨fun _ _ => rfl, by simp⟩
  | completed n t p here last => exact ⟨fun other ne => AList.lookup_erase_ne ne, by simp⟩
  | released n t chunk p here next =>
    refine ⟨fun other ne => AList.lookup_insert_ne ne, fun n' t' begun apart => ?_⟩
    have ne : n ≠ n' := by
      rintro rfl
      exact apart (congrArg _ (Option.some_inj.1 (begun.symm.trans p.begun)) |>.trans here)
    simp [ne]

theorem begin_emits (s : Flow) (id : String) {data : Bytes} (fits : Fits s.asm.cfg data) :
    s.emits (.begin id data) = [(s.begun.length, Transfer.chunk s.asm.cfg ⟨id, data⟩ 0)] := by
  obtain ⟨rest, count⟩ : ∃ rest, chunkCount s.asm.cfg data = rest + 1 := ⟨_, (Nat.succ_pred_eq_of_pos fits.pos).symm⟩
  have needed := fits.chunkCount
  simp [emits, beginOutbound, chunksOf, count, Transfer.chunk, ← needed, List.range_succ_eq_map]

/-- A transfer not all sent is pending behind the chunks sent. -/
theorem Gated.pending_of_lt (h : s.Gated) (begun : s.begun[n]? = some t) (sent : (s.emitted n).length = k + 1)
    (more : k + 1 < chunksNeeded s.asm.cfg t.data) : s.Pending n t (k + 1) := by
  have count := (h.fits t (List.mem_of_getElem? begun)).chunkCount
  rcases h.sent n t begun with ⟨m, p⟩ | ⟨all, -⟩
  · have size := congrArg List.length p.sent
    rw [List.length_take, Transfer.chunks, chunksOf_length, min_eq_left p.bounds.2, sent] at size
    exact size ▸ p
  · rw [all, Transfer.chunks, chunksOf_length, count] at sent
    omega

theorem Gated.advances (h : s.Gated) (begun : s.begun[n]? = some t) (here : t.correlationId = id)
    (sent : (s.emitted n).length = k + 1) (more : k + 1 < chunksNeeded s.asm.cfg t.data) :
    s.emits (.ack id k) = [(n, t.chunk s.asm.cfg (k + 1))] ∧ (s.asm.onAck id k).2.1 = false := by
  have p := h.pending_of_lt begun sent more
  have fits := h.fits t (List.mem_of_getElem? begun)
  have acked := h.acked id k
  unfold emits
  dsimp only
  generalize s.asm.onAck id k = out at acked
  cases acked with
  | ignored why => exact absurd rfl (why n t _ p here)
  | completed n' t' q here' last =>
    obtain ⟨rfl, -⟩ := p.unique q (here'.trans here.symm)
    obtain rfl := p.same q
    rw [fits.chunkCount] at last
    omega
  | released n' t' chunk q here' next =>
    obtain ⟨rfl, -⟩ := p.unique q (here'.trans here.symm)
    obtain rfl := p.same q
    rw [Transfer.chunks_eq_cut fits, Transfer.cut, List.getElem?_map, List.getElem?_range more] at next
    obtain rfl := Option.some_inj.1 next
    exact ⟨rfl, rfl⟩

theorem Gated.controlled (h : s.Gated) (e : OutboundEvent) (admitted : s.Admitted e) (sized : s.Sized e) :
    s.Controlled e := by
  have after := h.step e admitted sized
  have cut : ∀ (n : Nat) (t : Transfer), s.begun[n]? = some t → t.chunks s.asm.cfg = t.cut s.asm.cfg := fun n t begun =>
    Transfer.chunks_eq_cut (h.fits t (List.mem_of_getElem? begun))
  refine ⟨?_, ?_, fun n t begun => ?_, fun n t begun => ?_, fun n chunk sent => ?_, ?_, ?_, after.nodup, ?_⟩
  · rintro id data rfl
    exact begin_emits s id ⟨sized, admitted.2.2⟩
  · rintro id k rfl n t begun here sent more
    exact h.advances begun here sent more
  · have fits := after.fits t (List.mem_of_getElem? begun)
    obtain ⟨m, le, sent⟩ := after.emitted_eq_take begun
    rw [step_cfg] at le sent fits
    rw [sent, Transfer.chunks_eq_cut fits]
    refine ⟨List.take_prefix _ _, ?_⟩
    rw [← Transfer.chunks_eq_cut fits, List.map_take, Transfer.chunks, chunksOf_indexes, List.take_range, List.length_take,
      chunksOf_length]
  · obtain ⟨m, le, sent⟩ := after.emitted_eq_take begun
    rw [sent, Transfer.chunks, chunksOf_take_payload m le]
    exact List.take_prefix _ _
  · cases e with
    | begin id data =>
      obtain ⟨zero, rfl, new⟩ := Gated.begin_gated sent
      exact .inl ⟨zero, new, data, rfl⟩
    | ack id k =>
      obtain ⟨index, rfl, before⟩ := h.ack_gated sent
      exact .inr ⟨k, index, rfl, before⟩
  · rintro id k rfl
    refine (h.completes id k).trans (exists₂_congr fun n t => and_congr_right fun begun => ?_)
    rw [cut n t begun, Transfer.cut_length]
  · rintro id k rfl
    exact h.completed id k
  · rintro id k rfl
    exact h.others id k

/-- A begin whose size sum wraps sends no chunk at all. -/
theorem not_controlled_of_wraps {data : Bytes} (size : s.asm.cfg.maxChunkPayloadBytes < 2 ^ 64)
    (admitted : s.Admitted (.begin id data)) (wraps : ¬s.Sized (.begin id data)) : ¬s.Controlled (.begin id data) := by
  intro controlled
  have none := chunkCount_wrapped admitted.2.1 size (Nat.lt_of_not_le wraps)
  have first := controlled.begins id data rfl
  simp [emits, beginOutbound, chunksOf, none] at first

/-- **Outbound flow control.** Every call of a run keeps to it, whatever is acked, exactly if the size
sum of no transfer begun passes `size_t`. -/
theorem controlled_iff {cfg : ChunkAssemblerConfig} {events : List OutboundEvent}
    (size : cfg.maxChunkPayloadBytes < 2 ^ 64) (admitted : Runs.Along step Admitted (start cfg) events) :
    Runs.Along step Controlled (start cfg) events ↔ Runs.Along step Sized (start cfg) events := by
  refine Runs.along_iff_of_guarded (I := fun s => s.Gated ∧ s.asm.cfg = cfg) (fun s e h admitted => ?_)
    (fun s e h admitted sized => ⟨h.1.step e admitted sized, (step_cfg s e).trans h.2⟩) ⟨start_gated cfg, rfl⟩ admitted
  refine ⟨fun controlled => ?_, h.1.controlled e admitted⟩
  cases e with
  | ack id k => trivial
  | begin id data =>
    by_contra wraps
    exact not_controlled_of_wraps (h.2 ▸ size) admitted wraps controlled

/-- A transfer of two chunks, acked twice at the first, among others: one empty, one unknown. -/
theorem controlled_two_chunks :
    Runs.Along step Controlled (start { maxChunkPayloadBytes := 2 })
      [.begin "a" [1, 2, 3], .begin "b" [], .ack "a" 0, .ack "a" 0, .ack "c" 7, .ack "a" 1, .begin "a" [4, 5, 6, 7]] :=
  (controlled_iff (by decide) (by decide)).2 (by decide)

/-- With the largest chunk size two bytes are cut into no chunk. -/
theorem largest_chunk_size_sends_nothing :
    ¬∀ (cfg : ChunkAssemblerConfig) (events : List OutboundEvent), cfg.maxChunkPayloadBytes < 2 ^ 64 →
      Runs.Along step Admitted (start cfg) events → Runs.Along step Controlled (start cfg) events := by
  intro all
  have controlled := all { maxChunkPayloadBytes := 2 ^ 64 - 1 } [.begin "a" [1, 2]] (by decide) (by decide)
  exact absurd (controlled.1.begins _ _ rfl) (by decide)

end Flow

end SstCam
