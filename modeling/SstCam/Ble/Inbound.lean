import SstCam.Ble.ChunkAssembler
import SstCam.Lib.Reassembly

/-!
# Inbound reassembly

The assembler's inbound maps are a bounded reassembly table: `Represents` reads them as one,
and `offerInbound_represents` says that an offer of a chunk is the offer of a part. The runs
then come from the table's.
-/

namespace SstCam
set_option autoImplicit false

open Reassembly

/-- A message as its sender cuts it. -/
structure Message where
  correlationId : String
  parts : List Bytes
  deriving DecidableEq, Repr

namespace Message

def payload (m : Message) : Bytes := m.parts.flatten

def chunk (m : Message) (i : Nat) : ChunkedPayload where
  correlationId := m.correlationId
  chunkIndex := i
  totalChunks := m.parts.length
  data := m.parts.getD i []

/-- The reassembly of a message of which the chunks `got` arrived. -/
def reassembly (m : Message) (got : Finset ℕ) : InboundState where
  totalChunks := m.parts.length
  received := got.card
  parts := m.parts.mapIdx fun i part => if i ∈ got then part else []
  haves := m.parts.mapIdx fun i _ => decide (i ∈ got)

variable {m : Message} {got : Finset ℕ} {i : ℕ}

@[simp] theorem reassembly_totalChunks : (m.reassembly got).totalChunks = m.parts.length := rfl

theorem reassembly_empty (m : Message) : m.reassembly ∅ = ChunkAssembler.freshInbound m.parts.length := by
  have blank : ∀ {α : Type} (a : α), m.parts.mapIdx (fun _ _ => a) = List.replicate m.parts.length a :=
    fun a => List.ext_getElem (by simp) (by simp)
  simp [reassembly, ChunkAssembler.freshInbound, blank]

theorem reassembly_haves (lt : i < m.parts.length) : (m.reassembly got).haves.getD i false = decide (i ∈ got) := by
  simp [reassembly, List.getD_eq_getElem?_getD, lt]

theorem reassembly_store (lt : i < m.parts.length) (missing : i ∉ got) :
    (m.reassembly got).store i (m.parts.getD i []) = m.reassembly (insert i got) := by
  have parts : (m.reassembly got).parts.set i (m.parts.getD i []) = (m.reassembly (insert i got)).parts := by
    refine List.ext_getElem (by simp [reassembly]) fun j hj _ => ?_
    by_cases same : j = i
    · subst same
      simp [reassembly, List.getD_eq_getElem?_getD, lt]
    · simp [reassembly, List.getElem_set_ne (Ne.symm same), same]
  have haves : (m.reassembly got).haves.set i true = (m.reassembly (insert i got)).haves := by
    refine List.ext_getElem (by simp [reassembly]) fun j hj _ => ?_
    by_cases same : j = i
    · subst same
      simp [reassembly]
    · simp [reassembly, List.getElem_set_ne (Ne.symm same), same]
  rw [InboundState.store, parts, haves, show (m.reassembly got).received + 1 = (m.reassembly (insert i got)).received from
    (Finset.card_insert_of_notMem missing).symm]
  rfl

/-- With every chunk there the parts concatenate to the payload. -/
theorem reassembly_full (m : Message) : (m.reassembly (Finset.range m.parts.length)).parts.flatten = m.payload := by
  have same : (m.reassembly (Finset.range m.parts.length)).parts = m.parts := by
    refine List.ext_getElem (by simp [reassembly]) fun j _ hj => ?_
    simp [reassembly, hj]
  rw [same, payload]

end Message

namespace ChunkAssembler

variable {τ ι : Type} {msgs : ι → Message}

/-- The number of chunks of each message. -/
abbrev total (msgs : ι → Message) (k : ι) : ℕ := (msgs k).parts.length

/-- The chunk a part stands for. -/
def chunkOf (msgs : ι → Message) (p : Part (total msgs)) : ChunkedPayload := (msgs p.key).chunk p.index

/-- The inbound maps hold what the table has collected. -/
structure Represents (msgs : ι → Message) (a : ChunkAssembler τ) (t : Table (total msgs)) : Prop where
  lookup : ∀ k, a.inbound.lookup (msgs k).correlationId =
    if (t.got k).Nonempty then some ((msgs k).reassembly (t.got k)) else none
  order : a.inboundOrder = t.order.map fun k => (msgs k).correlationId
  keys : a.inbound.keys.Perm a.inboundOrder

theorem represents_empty (cfg : ChunkAssemblerConfig) (msgs : ι → Message) :
    Represents msgs ({ cfg } : ChunkAssembler τ) .empty where
  lookup _ := rfl
  order := rfl
  keys := .refl _

/-! ## Eviction -/

/-- The loop drops the oldest keys until there is room for one more. -/
theorem evictLoop_spec (cap : ℕ) {inbound : AList (fun _ : String => InboundState)} {order : List String}
    (keys : inbound.keys.Perm order) :
    (evictLoop cap inbound order).2 = order.drop (order.length + 1 - cap) ∧
      (evictLoop cap inbound order).1.keys.Perm (order.drop (order.length + 1 - cap)) ∧
      ∀ k, (evictLoop cap inbound order).1.lookup k =
        if k ∈ order.take (order.length + 1 - cap) then none else inbound.lookup k := by
  induction order generalizing inbound with
  | nil => simpa [evictLoop] using keys
  | cons victim order ih =>
    have size : inbound.keys.length = order.length + 1 := keys.length_eq
    unfold evictLoop
    by_cases full : inbound.keys.length ≥ cap
    · have rest : (inbound.erase victim).keys.Perm order := by
        rw [AList.keys_erase]
        exact (keys.erase victim).trans (by simp)
      obtain ⟨order', keys', lookup'⟩ := ih rest
      have more : (victim :: order).length + 1 - cap = (order.length + 1 - cap) + 1 := by
        simp only [List.length_cons]
        omega
      rw [if_pos full, more, List.drop_succ_cons, List.take_succ_cons]
      refine ⟨order', keys', fun k => ?_⟩
      rw [lookup' k]
      by_cases same : k = victim
      · subst same
        simp
      · simp [same, AList.lookup_erase_ne same]
    · have none : (victim :: order).length + 1 - cap = 0 := by
        simp only [List.length_cons]
        omega
      rw [if_neg full, none]
      exact ⟨rfl, keys, fun k => by simp⟩

variable [DecidableEq ι]

theorem Represents.evict {a : ChunkAssembler τ} {t : Table (total msgs)}
    (distinct : Function.Injective fun k => (msgs k).correlationId) (h : Represents msgs a t) :
    Represents msgs a.evictOldestInboundIfFull (t.evict a.cfg.maxInflightInbound) := by
  obtain ⟨order, keys, lookup⟩ := evictLoop_spec a.cfg.maxInflightInbound h.keys
  have size : a.inboundOrder.length = t.order.length := by rw [h.order, List.length_map]
  refine ⟨fun k => ?_, ?_, ?_⟩
  · have gone : (msgs k).correlationId ∈ a.inboundOrder.take (a.inboundOrder.length + 1 - a.cfg.maxInflightInbound) ↔
        k ∈ t.order.take (t.order.length + 1 - a.cfg.maxInflightInbound) := by
      rw [size, h.order, ← List.map_take]
      exact List.mem_map_of_injective distinct
    show (evictLoop _ _ _).1.lookup _ = _
    rw [Table.got_evict, lookup, h.lookup]
    by_cases victim : k ∈ t.order.take (t.order.length + 1 - a.cfg.maxInflightInbound)
    · simp [gone.2 victim, victim]
    · simp [mt gone.1 victim, victim]
  · show (evictLoop _ _ _).2 = _
    rw [order, size, h.order]
    exact List.map_drop.symm
  · show (evictLoop _ _ _).1.keys.Perm (evictLoop _ _ _).2
    rw [order]
    exact keys

/-! ## One offer -/

/-- As `Represents`, but message `k` has an entry of any content, in its place in the order. -/
structure Opened (msgs : ι → Message) (k : ι) (a : ChunkAssembler τ) (t : Table (total msgs)) : Prop where
  lookup : ∀ j ≠ k, a.inbound.lookup (msgs j).correlationId =
    if (t.got j).Nonempty then some ((msgs j).reassembly (t.got j)) else none
  order : a.inboundOrder = (if k ∈ t.order then t.order else t.order ++ [k]).map fun j => (msgs j).correlationId
  keys : a.inbound.keys.Perm a.inboundOrder

theorem findInbound_cfg (corr : String) (n : ℕ) (a : ChunkAssembler τ) : (a.findInbound corr n).1.cfg = a.cfg := by
  unfold findInbound
  split
  · rfl
  · split <;> rfl

/-- The entry a chunk goes to holds what is collected of its message, which is now open. -/
theorem Represents.findInbound {a : ChunkAssembler τ} {t : Table (total msgs)}
    (distinct : Function.Injective fun k => (msgs k).correlationId) (h : Represents msgs a t) (k : ι) :
    (a.findInbound (msgs k).correlationId (total msgs k)).2 = (msgs k).reassembly (t.got k) ∧
      Opened msgs k (a.findInbound (msgs k).correlationId (total msgs k)).1 (t.makeRoom a.cfg.maxInflightInbound k) := by
  by_cases opened : k ∈ t.order
  · have entry : a.findInbound (msgs k).correlationId (total msgs k) = (a, (msgs k).reassembly (t.got k)) := by
      simp [ChunkAssembler.findInbound, h.lookup, (t.mem_order k).1 opened]
    rw [entry, Table.makeRoom, if_pos opened]
    exact ⟨rfl, fun j _ => h.lookup j, by rw [if_pos opened]; exact h.order, h.keys⟩
  · have none := Table.got_eq_empty opened
    have evicted := h.evict distinct
    have entry : a.findInbound (msgs k).correlationId (total msgs k) =
        ({ a.evictOldestInboundIfFull with
            inbound := a.evictOldestInboundIfFull.inbound.insert (msgs k).correlationId (freshInbound (total msgs k))
            inboundOrder := a.evictOldestInboundIfFull.inboundOrder ++ [(msgs k).correlationId] },
          freshInbound (total msgs k)) := by
      simp [ChunkAssembler.findInbound, h.lookup, none]
    have unopened : k ∉ (t.evict a.cfg.maxInflightInbound).order := fun kept => opened (List.mem_of_mem_drop kept)
    have unkeyed : (msgs k).correlationId ∉ a.evictOldestInboundIfFull.inbound.keys := by
      rw [evicted.keys.mem_iff, evicted.order]
      exact mt (List.mem_map_of_injective distinct).1 unopened
    rw [entry, Table.makeRoom, if_neg opened, none, Message.reassembly_empty]
    refine ⟨rfl, fun j other => ?_, ?_, ?_⟩
    · rw [AList.lookup_insert_ne (distinct.ne other)]
      exact evicted.lookup j
    · rw [if_neg unopened, List.map_append, ← evicted.order]
      rfl
    · show (AList.insert _ _ _).keys.Perm (_ ++ [_])
      rw [AList.keys_insert, List.erase_of_not_mem unkeyed]
      exact (evicted.keys.cons _).trans (List.perm_append_singleton _ _).symm

theorem Opened.store {a : ChunkAssembler τ} {t : Table (total msgs)} {k : ι} {got : Finset ℕ}
    (distinct : Function.Injective fun k => (msgs k).correlationId) (h : Opened msgs k a t) (some : got.Nonempty)
    (short : got ⊂ Finset.range (total msgs k)) :
    Represents msgs { a with inbound := a.inbound.insert (msgs k).correlationId ((msgs k).reassembly got) }
      (t.collect k got some short) := by
  have keyed : (msgs k).correlationId ∈ a.inbound.keys := by
    rw [h.keys.mem_iff, h.order, List.mem_map_of_injective distinct]
    split_ifs with opened <;> simp [opened]
  refine ⟨fun j => ?_, h.order, ?_⟩
  · by_cases own : j = k
    · subst own
      simp [Table.collect, some]
    · simpa [Table.collect, own, AList.lookup_insert_ne (distinct.ne own)] using h.lookup j own
  · show (AList.insert _ _ _).keys.Perm _
    rw [AList.keys_insert]
    exact (List.perm_cons_erase keyed).symm.trans h.keys

theorem Opened.finish {a : ChunkAssembler τ} {t : Table (total msgs)} {k : ι}
    (distinct : Function.Injective fun k => (msgs k).correlationId) (h : Opened msgs k a t) :
    Represents msgs
      { a with
        inbound := a.inbound.erase (msgs k).correlationId
        inboundOrder := a.inboundOrder.filter (· ≠ (msgs k).correlationId) } (t.close k) := by
  refine ⟨fun j => ?_, ?_, ?_⟩
  · by_cases own : j = k
    · subst own
      simp [Table.close]
    · simpa [Table.close, own, AList.lookup_erase_ne (distinct.ne own)] using h.lookup j own
  · have same : ∀ j, decide ((msgs j).correlationId ≠ (msgs k).correlationId) = decide (j ≠ k) := fun j =>
      decide_eq_decide.2 distinct.ne_iff
    show List.filter _ _ = (t.order.filter _).map _
    rw [h.order, List.filter_map]
    simp only [Function.comp_def, same]
    split_ifs with opened <;> simp
  · show (AList.erase _ _).keys.Perm _
    have only := (h.keys.nodup_iff.1 a.inbound.keys_nodup).erase_eq_filter (msgs k).correlationId
    rw [AList.keys_erase]
    exact (h.keys.erase _).trans (.of_eq (only.trans (List.filter_congr fun j _ => by rw [decide_not]; rfl)))

/-- **One offer.** Offering a chunk of a message is offering a part to the table: it is accepted,
and it returns the message's payload exactly when it is the last one missing. -/
theorem offerInbound_represents {a : ChunkAssembler τ} {t : Table (total msgs)}
    (distinct : Function.Injective fun k => (msgs k).correlationId) (h : Represents msgs a t)
    (p : Part (total msgs)) (fits : total msgs p.key ≤ a.cfg.maxTotalChunks) :
    Represents msgs (a.offerInbound (chunkOf msgs p)).1 (t.offer a.cfg.maxInflightInbound p).1 ∧
      (a.offerInbound (chunkOf msgs p)).2 =
        { accepted := true
          payload := if (t.offer a.cfg.maxInflightInbound p).2 then some (msgs p.key).payload else none } := by
  have lt : p.index < (msgs p.key).parts.length := p.lt
  have framed : ¬((msgs p.key).parts.length = 0 ∨ (msgs p.key).parts.length > a.cfg.maxTotalChunks) := by
    have : (msgs p.key).parts.length ≤ a.cfg.maxTotalChunks := fits
    omega
  obtain ⟨entry, opened⟩ := h.findInbound distinct p.key
  unfold offerInbound Table.offer chunkOf Message.chunk
  dsimp only
  rw [if_neg framed, if_neg (Nat.not_le.2 lt)]
  by_cases single : (msgs p.key).parts.length = 1
  · obtain ⟨part, only⟩ := List.length_eq_one_iff.1 single
    have zero : p.index = 0 := by omega
    rw [if_pos single, if_pos single]
    exact ⟨h, by simp [Message.payload, only, zero]⟩
  rw [if_neg single, if_neg single, entry, Message.reassembly_haves lt]
  by_cases old : p.index ∈ t.got p.key
  · have same : (a.findInbound (msgs p.key).correlationId (msgs p.key).parts.length).1 = a := by
      have some : (t.got p.key).Nonempty := ⟨_, old⟩
      simp [ChunkAssembler.findInbound, h.lookup, some]
    rw [if_pos old, if_pos (decide_eq_true old), same]
    exact ⟨h, rfl⟩
  -- A missing chunk is stored; the last one closes the message.
  rw [if_neg old, if_neg (by simp [old]), Message.reassembly_store lt old, Message.reassembly_totalChunks, Table.add]
  simp only [Table.got_makeRoom_self]
  by_cases full : insert p.index (t.got p.key) = Finset.range (total msgs p.key)
  · have enough : ¬((msgs p.key).reassembly (insert p.index (t.got p.key))).received < (msgs p.key).parts.length := by
      simp [Message.reassembly, full]
    rw [if_neg enough, dif_pos full, full, Message.reassembly_full]
    exact ⟨opened.finish distinct, rfl⟩
  · have short := (t.insert_subset p).ssubset_of_ne full
    have more : ((msgs p.key).reassembly (insert p.index (t.got p.key))).received < (msgs p.key).parts.length := by
      simpa [Message.reassembly] using Finset.card_lt_card short
    rw [if_pos more, dif_neg full]
    exact ⟨opened.store distinct (Finset.insert_nonempty _ _) short, rfl⟩

/-! ## Runs -/

omit [DecidableEq ι] in
theorem offerInbound_cfg (chunk : ChunkedPayload) (a : ChunkAssembler τ) : (a.offerInbound chunk).1.cfg = a.cfg := by
  have found := findInbound_cfg chunk.correlationId chunk.totalChunks a
  unfold offerInbound
  dsimp only
  split_ifs <;> first | rfl | exact found

/-- The chunks offered one after the other, with the results. -/
def offerAll (chunks : List ChunkedPayload) (a : ChunkAssembler τ) : ChunkAssembler τ × List OfferResult :=
  chunks.foldl (fun s chunk => ((s.1.offerInbound chunk).1, s.2 ++ [(s.1.offerInbound chunk).2])) (a, [])

omit [DecidableEq ι] in
theorem offerAll_snoc (chunks : List ChunkedPayload) (chunk : ChunkedPayload) (a : ChunkAssembler τ) :
    offerAll (chunks ++ [chunk]) a =
      (((offerAll chunks a).1.offerInbound chunk).1,
        (offerAll chunks a).2 ++ [((offerAll chunks a).1.offerInbound chunk).2]) := by
  rw [offerAll, List.foldl_append]
  rfl

/-- What comes of a delivery of whole messages: each offer is accepted, and answered with the
payload of its message exactly when it supplies the last missing chunk, which happens once. -/
structure Reassembled (msgs : ι → Message) (xs : List (Part (total msgs)))
    (out : ChunkAssembler τ × List OfferResult) : Prop where
  offers : out.2.length = xs.length
  accepted : ∀ result ∈ out.2, result.accepted = true
  payload : ∀ n p, xs[n]? = some p → out.2[n]?.map OfferResult.payload =
    some (if LastMissing xs n p.key then some (msgs p.key).payload else none)
  once : ∀ k, ∃! n, LastMissing xs n k
  retained : out.1.inbound = ∅ ∧ out.1.inboundOrder = []

/-- The state of an orderly run, and each of its results. -/
theorem offerAll_orderly {cfg : ChunkAssemblerConfig} {xs : List (Part (total msgs))}
    (distinct : Function.Injective fun k => (msgs k).correlationId)
    (fits : ∀ k, total msgs k ≤ cfg.maxTotalChunks) (orderly : Orderly cfg.maxInflightInbound xs) :
    let out := offerAll (xs.map (chunkOf msgs)) ({ cfg } : ChunkAssembler τ)
    out.1.cfg = cfg ∧ Represents msgs out.1 (xs.foldl (Log.step cfg.maxInflightInbound) {}).table ∧
      out.2.length = xs.length ∧
      ∀ (n : ℕ) p, xs[n]? = some p → out.2[n]? = some (OfferResult.mk true
        (if LastMissing xs n p.key then some (msgs p.key).payload else none)) := by
  induction xs using List.reverseRecOn with
  | nil => exact ⟨rfl, represents_empty cfg msgs, rfl, by simp⟩
  | append_singleton xs p ih =>
    have before := orderly.of_prefix (List.prefix_append _ _)
    obtain ⟨cfg', rep, size, results⟩ := ih before
    have run := before.run
    have past := Log.foldl_past cfg.maxInflightInbound xs
    have fresh := (Orderly.step (by rwa [past]) run).1
    have offered := offerInbound_represents distinct rep p (by rw [cfg']; exact fits p.key)
    rw [cfg', run.toFaithful.offer_snd fresh, past] at offered
    simp only [List.map_append, List.map_cons, List.map_nil, offerAll_snoc, List.foldl_append, List.foldl_cons,
      List.foldl_nil]
    refine ⟨by rw [offerInbound_cfg, cfg'], offered.1, by simp [size], fun n q hq => ?_⟩
    rcases Nat.lt_trichotomy n xs.length with lt | rfl | gt
    · rw [List.getElem?_append_left lt] at hq
      have same : LastMissing (xs ++ [p]) n q.key ↔ LastMissing xs n q.key := by
        simp only [LastMissing, List.getElem?_append_left lt, List.take_append_of_le_length lt.le,
          List.take_append_of_le_length (show n + 1 ≤ xs.length from lt)]
      rw [List.getElem?_append_left (size ▸ lt), results n q hq]
      simp only [same]
    · obtain rfl : p = q := by simpa using hq
      have last : LastMissing (xs ++ [p]) xs.length p.key ↔
          seen (xs ++ [p]) p.key = Finset.range (total msgs p.key) := by
        have short := orderly.fresh xs p (List.prefix_refl _)
        have whole : (xs ++ [p]).take (xs.length + 1) = xs ++ [p] := List.take_of_length_le (by simp)
        simp [LastMissing, short, whole]
      rw [List.getElem?_append_right size.le, size, Nat.sub_self, offered.2]
      simp [last]
    · rw [List.getElem?_eq_none (by simp; omega)] at hq
      cases hq

/-- **Inbound reassembly.** Of messages with distinct ids, in an orderly delivery of each of
their chunks, in any order and interleaving and with any repetitions: each message is returned
once, on the chunk that was the last one missing, and nothing is retained at the end. It holds
of messages of one chunk too. -/
theorem offerAll_reassembled {cfg : ChunkAssemblerConfig} {xs : List (Part (total msgs))}
    (distinct : Function.Injective fun k => (msgs k).correlationId)
    (sizes : ∀ k, 0 < total msgs k ∧ total msgs k ≤ cfg.maxTotalChunks)
    (all : ∀ k, ∀ i < total msgs k, ∃ p ∈ xs, p.key = k ∧ p.index = i)
    (orderly : Orderly cfg.maxInflightInbound xs) :
    Reassembled msgs xs (offerAll (xs.map (chunkOf msgs)) ({ cfg } : ChunkAssembler τ)) := by
  obtain ⟨-, rep, size, results⟩ := offerAll_orderly (τ := τ) distinct (fun k => (sizes k).2) orderly
  have whole : ∀ k, seen xs k = Finset.range (total msgs k) := fun k =>
    (seen_subset xs k).antisymm fun i hi => mem_seen.2 (all k i (Finset.mem_range.1 hi))
  have run := orderly.run
  have past := Log.foldl_past cfg.maxInflightInbound xs
  have nothing : (xs.foldl (Log.step cfg.maxInflightInbound) {}).table.order = [] := by
    refine List.eq_nil_iff_forall_not_mem.2 fun k opened => ?_
    have done := run.toFaithful.mem_done (sizes k).1 (by rw [past]; exact whole k)
    have some := (Table.mem_order _ k).1 opened
    simp [run.closed k done] at some
  have order := rep.order
  rw [nothing, List.map_nil] at order
  refine ⟨size, fun result mem => ?_, fun n p hp => by rw [results n p hp]; rfl,
    fun k => existsUnique_lastMissing (sizes k).1 (whole k), ?_, order⟩
  · obtain ⟨n, lt, rfl⟩ := List.getElem_of_mem mem
    have hp : xs[n]? = some xs[n] := List.getElem?_eq_getElem (size ▸ lt)
    have result := results n _ hp
    rw [List.getElem?_eq_getElem lt, Option.some_inj] at result
    rw [result]
  · have keys := rep.keys
    rw [order, List.perm_nil] at keys
    exact AList.ext (List.map_eq_nil_iff.1 keys)

/-- Two messages, each of two chunks. -/
def twoMessages : Bool → Message
  | false => { correlationId := "a", parts := [[1, 2], [3]] }
  | true => { correlationId := "b", parts := [[4], [5, 6]] }

/-- They arrive interleaved, one of them from its end, with a repetition. -/
def twoInterleaved : List (Part (total twoMessages)) :=
  [⟨false, 1, by decide⟩, ⟨true, 0, by decide⟩, ⟨true, 0, by decide⟩, ⟨false, 0, by decide⟩, ⟨true, 1, by decide⟩]

theorem twoInterleaved_orderly : Orderly 2 twoInterleaved :=
  ((((Orderly.nil 2).snoc (p := ⟨false, 1, by decide⟩) (by decide) (by decide)).snoc
    (p := ⟨true, 0, by decide⟩) (by decide) (by decide)).snoc (p := ⟨true, 0, by decide⟩) (by decide)
      (by decide)).snoc (p := ⟨false, 0, by decide⟩) (by decide) (by decide) |>.snoc
        (p := ⟨true, 1, by decide⟩) (by decide) (by decide)

theorem twoInterleaved_reassembled :
    Reassembled twoMessages twoInterleaved
      (offerAll (twoInterleaved.map (chunkOf twoMessages))
        ({ cfg := { maxInflightInbound := 2 } } : ChunkAssembler Unit)) :=
  offerAll_reassembled (by decide) (by decide) (by decide) twoInterleaved_orderly

end ChunkAssembler

end SstCam
