import Mathlib.Data.Fintype.Card
import SstCam.Ble.BluezBleTransport
import SstCam.Ble.Inbound

/-!
# Commands over an at-least-once link

A central repeats a frame whose ack it lost. The assembler forgets a message once it is
complete, and keeps nothing of a message of one chunk, so a repetition may complete a message
again, or open it again and take another's place. `Harmless` excludes the two, on the frames that
arrived before and what the assembler holds of them, and a delivery of harmless frames hands over each
command once (`exactly_once`).
-/

namespace SstCam
set_option autoImplicit false

open Atomic Reassembly ChunkAssembler

variable {ρ γ ι : Type}

/-! ## The sender's side -/

/-- Commands of distinct ids, each cut into frames. The last three say that the codec reads the
frames back. -/
structure Family (codec : Codec) (cfg : ChunkAssemblerConfig) (ι : Type) where
  command : ι → Command
  message : ι → Message
  frame : Part (total message) → Bytes
  distinct : Function.Injective fun k => (command k).correlationId
  sizes : ∀ k, 0 < total message k ∧ total message k ≤ cfg.maxTotalChunks
  named : ∀ k, (message k).correlationId = (command k).correlationId
  parse_frame : ∀ p, codec.parseChunk (frame p) = some (chunkOf message p)
  parse_command : ∀ k, codec.parseCommand (message k).payload = some (command k)

namespace Family

variable {codec : Codec} {cfg : ChunkAssemblerConfig}

/-- What reaches the command characteristic: a frame, or else an ack or noise. -/
inductive Write (F : Family codec cfg ι) where
  | frame (part : Part (total F.message))
  | other (bytes : Bytes)
    (noFrame : ∀ chunk, codec.parseChunk bytes = some chunk → chunk.totalChunks = kChunkAckTotalChunks)

def Write.bytes {F : Family codec cfg ι} : F.Write → Bytes
  | .frame part => F.frame part
  | .other bytes _ => bytes

def Write.part {F : Family codec cfg ι} : F.Write → Option (Part (total F.message))
  | .frame part => some part
  | .other _ _ => none

theorem distinct_message (F : Family codec cfg ι) : Function.Injective fun k => (F.message k).correlationId :=
  fun j k same => F.distinct (by simpa [F.named] using same)

end Family

/-! ## What a frame finds -/

namespace ChunkAssembler

variable {τ : Type}

/-- The chunk is stored in its message's reassembly. -/
def holds (a : ChunkAssembler τ) (id : String) (i : ℕ) : Bool :=
  ((a.inbound.lookup id).map fun state => state.haves.getD i false).getD false

/-- Every other chunk of the message is stored. -/
def lacksOnly (a : ChunkAssembler τ) (chunk : ChunkedPayload) : Bool :=
  (List.range chunk.totalChunks).all fun i => (decide (i = chunk.chunkIndex) != a.holds chunk.correlationId i)

/-- The messages that have to go for a chunk of a message that is not open. -/
def evicted (a : ChunkAssembler τ) (chunk : ChunkedPayload) : List String :=
  if chunk.totalChunks = 1 ∨ (a.inbound.lookup chunk.correlationId).isSome then []
  else a.inboundOrder.take (a.inboundOrder.length + 1 - a.cfg.maxInflightInbound)

variable {msgs : ι → Message}

theorem Represents.holds {a : ChunkAssembler τ} {t : Table (total msgs)} (h : Represents msgs a t) (k : ι) {i : ℕ}
    (lt : i < total msgs k) : a.holds (msgs k).correlationId i = decide (i ∈ t.got k) := by
  unfold ChunkAssembler.holds
  rw [h.lookup]
  rcases (t.got k).eq_empty_or_nonempty with none | some
  · simp [none]
  · simpa [some] using Message.reassembly_haves lt

variable [DecidableEq ι]

/-- The guard's reading of a frame that completes its message. -/
theorem Represents.lacksOnly {a : ChunkAssembler τ} {t : Table (total msgs)} (h : Represents msgs a t) (cap : ℕ)
    (p : Part (total msgs)) : a.lacksOnly (chunkOf msgs p) = (t.offer cap p).2 := by
  rw [Table.offer_snd, Bool.eq_iff_iff, decide_eq_true_iff]
  have each : a.lacksOnly (chunkOf msgs p) = true ↔ ∀ i < total msgs p.key, ¬(i = p.index ↔ i ∈ t.got p.key) := by
    unfold ChunkAssembler.lacksOnly
    rw [List.all_eq_true]
    refine ⟨fun all i lt => ?_, fun all i mem => ?_⟩
    · have here := all i (List.mem_range.2 lt)
      rw [show (chunkOf msgs p).correlationId = (msgs p.key).correlationId from rfl, h.holds p.key lt] at here
      simpa [chunkOf, Message.chunk] using here
    · have lt : i < total msgs p.key := List.mem_range.1 mem
      rw [show (chunkOf msgs p).correlationId = (msgs p.key).correlationId from rfl, h.holds p.key lt]
      simpa [chunkOf, Message.chunk] using all i lt
  rw [each]
  refine ⟨fun all => (t.insert_subset p).antisymm fun i mem => ?_, fun full i lt both => ?_⟩
  · have := all i (Finset.mem_range.1 mem)
    rw [Finset.mem_insert]
    tauto
  · have mem : i ∈ insert p.index (t.got p.key) := full ▸ Finset.mem_range.2 lt
    have held : p.index ∈ t.got p.key := by
      rcases Finset.mem_insert.1 mem with rfl | held
      · exact both.1 rfl
      · exact both.2 held ▸ held
    rw [Finset.insert_eq_of_mem held] at full
    exact (t.missing p.key ⟨_, held⟩).ne full

/-- The guard's reading of the victims. -/
theorem Represents.evicted {a : ChunkAssembler τ} {t : Table (total msgs)} (h : Represents msgs a t)
    (p : Part (total msgs)) :
    a.evicted (chunkOf msgs p) = (t.victims a.cfg.maxInflightInbound p).map fun k => (msgs k).correlationId := by
  have opened : (a.inbound.lookup (msgs p.key).correlationId).isSome = true ↔ p.key ∈ t.order := by
    rw [h.lookup, t.mem_order]
    split_ifs with some <;> simp [some]
  unfold ChunkAssembler.evicted Table.victims
  show (if total msgs p.key = 1 ∨ (a.inbound.lookup (msgs p.key).correlationId).isSome = true then [] else _) = _
  simp only [opened, h.order, List.length_map]
  split_ifs
  · rfl
  · exact List.map_take.symm

end ChunkAssembler

/-! ## Deliveries -/

/-- The system with the frames that have arrived, and the commands handed to the dispatcher so far. -/
structure Exchange {codec : Codec} {cfg : ChunkAssemblerConfig} (F : Family codec cfg ι) (ρ γ : Type) where
  system : System ρ γ
  arrived : List (Part (total F.message)) := []
  handed : List Command := []

namespace Exchange

variable {codec : Codec} {cfg : ChunkAssemblerConfig}

section

variable [DecidableEq ι] {F : Family codec cfg ι}

def start (F : Family codec cfg ι) (recorder : ρ) : Exchange F ρ γ := { system := .start cfg recorder }

/-- Every frame of the message has arrived. -/
def Whole (x : Exchange F ρ γ) (k : ι) : Prop := seen x.arrived k = Finset.range (total F.message k)

instance (x : Exchange F ρ γ) (k : ι) : Decidable (x.Whole k) := inferInstanceAs (Decidable (_ = _))

/-- The frame does not complete a message that was whole before, and evicts no other. -/
def Harmless (x : Exchange F ρ γ) (write : Ports γ × F.Write) : Prop :=
  match write.2 with
  | .frame part =>
    (x.Whole part.key → x.system.ble.assembler.lacksOnly (chunkOf F.message part) = false) ∧
      ∀ k, (F.message k).correlationId ∈ x.system.ble.assembler.evicted (chunkOf F.message part) → x.Whole k
  | .other _ _ => True

instance [Fintype ι] (x : Exchange F ρ γ) : (write : Ports γ × F.Write) → Decidable (x.Harmless write)
  | (_, .frame _) => inferInstanceAs (Decidable (_ ∧ _))
  | (_, .other _ _) => .isTrue trivial

end

variable [IContinuousRecorder ρ] [IPlatformStreamer γ]

def step (F : Family codec cfg ι) (x : Exchange F ρ γ) (write : Ports γ × F.Write) : Exchange F ρ γ where
  system := ((System.onRawCommand codec write.1 write.2.bytes).exec x.system).1
  arrived := x.arrived ++ write.2.part.toList
  handed := x.handed ++ ((System.onRawCommand codec write.1 write.2.bytes).exec x.system).2.toList

variable [DecidableEq ι] (F : Family codec cfg ι)

/-- The transport and the commands handed over, against the log of the parts that arrived: the
assembler represents the table, and what is done was handed over and answered, in that order. -/
structure Follows (ble : BluezBleTransport) (handed : List Command) (l : Log (total F.message)) : Prop where
  cfg : ble.assembler.cfg = cfg
  table : Represents F.message ble.assembler l.table
  handed : handed = l.done.map F.command
  begun : ble.begun.map CommandResponse.correlationId = l.done.map fun k => (F.command k).correlationId
  active : ble.gattApp = true

variable {F} {x : Exchange F ρ γ} {l : Log (total F.message)}

omit [IContinuousRecorder ρ] [IPlatformStreamer γ] [DecidableEq ι] in
theorem start_follows (recorder : ρ) : Follows F (start (γ := γ) F recorder).system.ble [] {} :=
  ⟨rfl, represents_empty cfg F.message, rfl, rfl, rfl⟩

omit [IContinuousRecorder ρ] [IPlatformStreamer γ] in
/-- A harmless frame is a careful part. -/
theorem Follows.careful (h : Follows F x.system.ble x.handed l) (faithful : l.Faithful) (arrived : x.arrived = l.past)
    {p : Ports γ} {part : Part (total F.message)} (harmless : x.Harmless (p, .frame part)) :
    l.Careful cfg.maxInflightInbound part := by
  have evicted := h.table.evicted part
  rw [h.cfg] at evicted
  have whole (k : ι) : x.Whole k ↔ seen l.past k = Finset.range (total F.message k) := by rw [Whole, arrived]
  refine ⟨fun done => ?_, fun k victim => ?_⟩
  · rw [← h.table.lacksOnly]
    exact harmless.1 ((whole _).2 (faithful.complete _ done))
  · have gone := harmless.2 k (by rw [evicted]; exact List.mem_map_of_mem victim)
    exact faithful.mem_done (F.sizes k).1 ((whole k).1 gone)

/-- A frame is a part; a command it completes is handed over and answered. -/
theorem Follows.frame (h : Follows F x.system.ble x.handed l) (p : Ports γ) (part : Part (total F.message)) :
    Follows F (x.step F (p, .frame part)).system.ble (x.step F (p, .frame part)).handed
      (l.step cfg.maxInflightInbound part) := by
  have sizes := F.sizes part.key
  have frame : (chunkOf F.message part).totalChunks ≠ kChunkAckTotalChunks := Nat.pos_iff_ne_zero.1 sizes.1
  obtain ⟨rep, result⟩ := offerInbound_represents F.distinct_message h.table part (by rw [h.cfg]; exact sizes.2)
  obtain ⟨assembler, command, begun, active⟩ := BluezBleTransport.receive_frame codec frame x.system.ble
  obtain ⟨returned, response, echoed, ble⟩ := System.onRawCommand_ble codec p (F.parse_frame part) x.system
  have same := (offerInbound_cfg (chunkOf F.message part) x.system.ble.assembler).trans h.cfg
  rw [h.cfg] at rep result
  rw [result] at command
  rw [← assembler] at rep same
  show Follows F ((System.onRawCommand codec p (F.frame part)).exec x.system).1.ble
    (x.handed ++ ((System.onRawCommand codec p (F.frame part)).exec x.system).2.toList) _
  rw [returned, ble, command]
  generalize (BluezBleTransport.receive codec (chunkOf F.message part) x.system.ble).1 = after at *
  unfold Log.step
  cases done : (l.table.offer cfg.maxInflightInbound part).2 with
  | false => exact ⟨same, rep, by simp [h.handed], by simp [begun, h.begun], active.trans h.active⟩
  | true =>
    obtain ⟨⟨outbound, kept⟩, sent, active⟩ :=
      BluezBleTransport.sendResponse_begun codec (response (F.command part.key)) (active.trans h.active)
    simp only [if_true, Option.bind_some, F.parse_command]
    refine ⟨by rw [kept]; exact same, by rw [kept]; exact ⟨rep.lookup, rep.order, rep.keys⟩, by simp [h.handed], ?_, active⟩
    simp [sent, begun, h.begun, echoed]

omit [DecidableEq ι] in
/-- Anything else leaves the inbound side alone. -/
theorem Follows.other (h : Follows F x.system.ble x.handed l) (p : Ports γ) (bytes : Bytes)
    (noFrame : ∀ chunk, codec.parseChunk bytes = some chunk → chunk.totalChunks = kChunkAckTotalChunks) :
    Follows F (x.step F (p, .other bytes noFrame)).system.ble (x.step F (p, .other bytes noFrame)).handed l := by
  show Follows F ((System.onRawCommand codec p bytes).exec x.system).1.ble
    (x.handed ++ ((System.onRawCommand codec p bytes).exec x.system).2.toList) l
  cases parsed : codec.parseChunk bytes with
  | none =>
    have nothing : System.onRawCommand (ρ := ρ) codec p bytes = pure none := by rw [System.onRawCommand, parsed]
    simpa [nothing] using h
  | some chunk =>
    obtain ⟨⟨outbound, kept⟩, command, begun, active⟩ := BluezBleTransport.receive_ack codec (noFrame chunk parsed) x.system.ble
    obtain ⟨returned, response, -, ble⟩ := System.onRawCommand_ble codec p parsed x.system
    rw [returned, ble, command]
    refine ⟨by simp only [kept]; exact h.cfg, ?_, by simp [h.handed], by simp [begun, h.begun], active.trans h.active⟩
    simp only [kept]
    exact ⟨h.table.lookup, h.table.order, h.table.keys⟩

/-- The parts among the writes. -/
def parts (F : Family codec cfg ι) (writes : List (Ports γ × F.Write)) : List (Part (total F.message)) :=
  writes.filterMap fun write => write.2.part

/-- A run of harmless writes follows a faithful log of their parts. -/
theorem Follows.run (h : Follows F x.system.ble x.handed l) (faithful : l.Faithful) (arrived : x.arrived = l.past)
    (writes : List (Ports γ × F.Write)) (harmless : Runs.Along (step F) Harmless x writes) :
    ∃ l' : Log (total F.message), l'.Faithful ∧ l'.past = l.past ++ parts F writes ∧
      Follows F (writes.foldl (step F) x).system.ble (writes.foldl (step F) x).handed l' := by
  induction writes generalizing x l with
  | nil => exact ⟨l, faithful, by simp [parts], h⟩
  | cons write writes ih =>
    obtain ⟨p, write⟩ := write
    cases write with
    | frame part =>
      have careful := h.careful faithful arrived harmless.1
      obtain ⟨l', faithful', past, follows⟩ :=
        ih (h.frame p part) (faithful.step careful) (congrArg (· ++ [part]) arrived) harmless.2
      exact ⟨l', faithful', by simp [past, parts, Log.step, Family.Write.part], follows⟩
    | other bytes noFrame =>
      obtain ⟨l', faithful', past, follows⟩ :=
        ih (h.other p bytes noFrame) faithful ((List.append_nil _).trans arrived) harmless.2
      exact ⟨l', faithful', by simp [past, parts, Family.Write.part], follows⟩

/-- Every frame of every command is among the writes. -/
def Delivered (F : Family codec cfg ι) (writes : List (Ports γ × F.Write)) : Prop :=
  ∀ k, ∀ i < total F.message k, ∃ part ∈ parts F writes, part.key = k ∧ part.index = i

instance [Fintype ι] (F : Family codec cfg ι) (writes : List (Ports γ × F.Write)) : Decidable (Delivered F writes) :=
  inferInstanceAs (Decidable (∀ k, ∀ i < total F.message k, ∃ part ∈ parts F writes, part.key = k ∧ part.index = i))

/-- How often each command was handed over, and how often a response of its id was begun. -/
def Counts (F : Family codec cfg ι) (x : Exchange F ρ γ) (ok : ℕ → Prop) : Prop :=
  ∀ k, ok (x.handed.count (F.command k)) ∧
    ok ((x.system.ble.begun.map CommandResponse.correlationId).count (F.command k).correlationId)

omit [IContinuousRecorder ρ] [IPlatformStreamer γ] in
theorem Follows.counts (h : Follows F x.system.ble x.handed l) (k : ι) :
    x.handed.count (F.command k) = l.done.count k ∧
      (x.system.ble.begun.map CommandResponse.correlationId).count (F.command k).correlationId = l.done.count k := by
  have injective : Function.Injective F.command := fun j k same => F.distinct (congrArg Command.correlationId same)
  rw [h.handed, h.begun]
  exact ⟨List.count_map_of_injective _ _ injective _, List.count_map_of_injective _ _ F.distinct _⟩

/-- **Exactly once.** In a delivery of harmless writes no command is ever handed over or answered
twice, and with every frame delivered each was handed over and answered once. -/
theorem exactly_once (recorder : ρ) (writes : List (Ports γ × F.Write))
    (harmless : Runs.Along (step F) Harmless (start F recorder) writes) (delivered : Delivered F writes) :
    (∀ n, Counts F ((writes.take n).foldl (step F) (start F recorder)) (· ≤ 1)) ∧
      Counts F (writes.foldl (step F) (start F recorder)) (· = 1) := by
  have follows := start_follows (F := F) (γ := γ) recorder
  refine ⟨fun n k => ?_, fun k => ?_⟩
  · have before := harmless
    rw [← List.take_append_drop n writes, Runs.along_append] at before
    obtain ⟨l, faithful, -, follows⟩ := follows.run Log.faithful_start rfl _ before.1
    rw [(follows.counts k).1, (follows.counts k).2]
    exact ⟨List.nodup_iff_count_le_one.1 faithful.nodup k, List.nodup_iff_count_le_one.1 faithful.nodup k⟩
  · obtain ⟨l, faithful, past, follows⟩ := follows.run Log.faithful_start rfl writes harmless
    have whole : seen l.past k = Finset.range (total F.message k) :=
      (seen_subset _ _).antisymm fun i mem => mem_seen.2 (by
        rw [past]
        exact delivered k i (Finset.mem_range.1 mem))
    have done := List.count_eq_one_of_mem faithful.nodup (faithful.mem_done (F.sizes k).1 whole)
    rw [(follows.counts k).1, (follows.counts k).2]
    exact ⟨done, done⟩

/-! ## Repetitions -/

/-- A codec for the one write there is. -/
def goalCodec : Codec where
  parseChunk bytes := if bytes = [7] then some { correlationId := "goal", totalChunks := 1, data := [1] } else none
  parseCommand data :=
    if data = [1] then some { correlationId := "goal", payload := some (.scoreUpdate { teamId := "A", delta := 1 }) } else none
  serializeChunk _ := []
  serializeAck _ := []
  serializeResponse _ := []

/-- One goal, in one frame. -/
def goalFamily : Family goalCodec {} Unit where
  command _ := { correlationId := "goal", payload := some (.scoreUpdate { teamId := "A", delta := 1 }) }
  message _ := { correlationId := "goal", parts := [[1]] }
  frame _ := [7]
  distinct _ _ _ := rfl
  sizes := by decide
  named _ := rfl
  parse_frame p := by
    obtain ⟨-, index, lt⟩ := p
    obtain rfl : index = 0 := Nat.lt_one_iff.1 lt
    rfl
  parse_command _ := rfl

/-- Its ack is lost, the central repeats the frame, and the goal counts twice. -/
theorem repeated_goal_counts_twice :
    ¬∀ writes : List (Ports StreamerPort × goalFamily.Write), Delivered goalFamily writes →
      (∀ ps, ps <+: parts goalFamily writes → (pending ps).card ≤ 16) →
      Counts goalFamily (writes.foldl (step goalFamily) (start goalFamily ({} : RecorderPort))) (· = 1) := by
  intro all
  have twice := all [({}, .frame ⟨(), 0, by decide⟩), ({}, .frame ⟨(), 0, by decide⟩)] (by decide) (fun ps le => ?_) ()
  · exact absurd twice.1 (by decide)
  · exact (Finset.card_le_univ _).trans (by decide)

/-- A codec for a command in one frame and one in two. -/
def twoCodec : Codec where
  parseChunk bytes :=
    if bytes = [0] then some { correlationId := "info", totalChunks := 1, data := [1] }
    else if bytes = [1] then some { correlationId := "goal", totalChunks := 2, data := [2] }
    else if bytes = [2] then some { correlationId := "goal", chunkIndex := 1, totalChunks := 2, data := [3] }
    else none
  parseCommand data :=
    if data = [1] then some { correlationId := "info", payload := some .getDeviceInfo }
    else if data = [2, 3] then some { correlationId := "goal", payload := some (.scoreUpdate { teamId := "A", delta := 1 }) }
    else none
  serializeChunk _ := []
  serializeAck _ := []
  serializeResponse _ := []

def twoFamily : Family twoCodec {} Bool where
  command
    | false => { correlationId := "info", payload := some .getDeviceInfo }
    | true => { correlationId := "goal", payload := some (.scoreUpdate { teamId := "A", delta := 1 }) }
  message
    | false => { correlationId := "info", parts := [[1]] }
    | true => { correlationId := "goal", parts := [[2], [3]] }
  frame p := [if p.key then 1 + UInt8.ofNat p.index else 0]
  distinct := by decide
  sizes := by decide
  named := by decide
  parse_frame p := by
    obtain ⟨key, index, lt⟩ := p
    cases key with
    | false =>
      obtain rfl : index = 0 := Nat.lt_one_iff.1 lt
      rfl
    | true =>
      obtain first | second := Nat.lt_succ_iff_lt_or_eq.1 lt
      · obtain rfl : index = 0 := Nat.lt_one_iff.1 first
        rfl
      · obtain rfl : index = 1 := second
        rfl
  parse_command := by decide

/-- The second frame comes twice before its message is complete, and once after: no harm. -/
def twoWrites : List (Ports StreamerPort × twoFamily.Write) :=
  [({}, .frame ⟨true, 1, by decide⟩), ({}, .frame ⟨false, 0, by decide⟩), ({}, .frame ⟨true, 1, by decide⟩),
    ({}, .other [] fun _ parsed => by cases parsed), ({}, .frame ⟨true, 0, by decide⟩),
    ({}, .frame ⟨true, 1, by decide⟩)]

theorem twoWrites_exactly_once :
    (∀ n, Counts twoFamily ((twoWrites.take n).foldl (step twoFamily) (start twoFamily ({} : RecorderPort))) (· ≤ 1)) ∧
      Counts twoFamily (twoWrites.foldl (step twoFamily) (start twoFamily ({} : RecorderPort))) (· = 1) :=
  exactly_once ({} : RecorderPort) twoWrites (by decide) (by decide)

end Exchange

end SstCam
