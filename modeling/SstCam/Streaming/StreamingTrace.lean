import SstCam.Lib.MapValues
import SstCam.Lib.Runs
import SstCam.Streaming.StreamingService

/-!
# The calls a StreamingService makes

`StreamingService` with the calls of its ports noted in the order they are made. A streamer is known by
its number among those the factory has made, so two streamers of one id are told apart. Without the
notes it is the service (`service_startPlatformStream` and those after it). Between the calls of the
service its ports may change on their own.
-/

namespace SstCam
set_option autoImplicit false

inductive PortCall where
  | appStart (config : AppStreamConfig)
  | appStop
  | appPush (frame : Frame)
  | create (streamer : Nat)
  | start (streamer : Nat) (config : PlatformStreamConfig)
  | stop (streamer : Nat)
  | push (streamer : Nat) (frame : Frame)
  deriving DecidableEq, Repr

/-- The platform streamer a call is about. -/
def PortCall.streamer : PortCall → Option Nat
  | .create streamer | .start streamer _ | .stop streamer | .push streamer _ => some streamer
  | .appStart _ | .appStop | .appPush _ => none

structure NumberedStreamer (γ : Type) where
  number : Nat
  streamer : γ
  deriving DecidableEq, Repr

structure StreamingTrace (α γ : Type) where
  appStreamServer : α
  platformStreams : AList (fun _ : Int => NumberedStreamer γ) := ∅
  activeNames : AList (fun _ : Int => String) := ∅
  /-- How many streamers the factory has made. -/
  made : Nat := 0
  /-- The calls of the ports, the oldest first. -/
  calls : List PortCall := []

/-- What happens to a service. -/
inductive StreamingOp (α γ : Type) where
  | startAppStream (config : AppStreamConfig) (attaches : Bool)
  | stopAppStream
  | startPlatformStream (config : PlatformStreamConfig) (made : Option γ) (accepts : Bool)
  | stopPlatformStream (streamId : Int)
  | push (frame : Frame)
  /-- The ports change on their own. -/
  | portsMove (server : α → α) (streamer : Nat → γ → γ)

namespace StreamingTrace

variable {α γ : Type}

def startAppStream [IAppStreamServer α] (config : AppStreamConfig) (attaches : Bool) (s : StreamingTrace α γ) :
    StreamingTrace α γ × Bool :=
  if IAppStreamServer.isRunning s.appStreamServer then (s, true)
  else
    ({ s with
        appStreamServer := (IAppStreamServer.start s.appStreamServer config attaches).1
        calls := s.calls ++ [.appStart config] },
      (IAppStreamServer.start s.appStreamServer config attaches).2)

def stopAppStream [IAppStreamServer α] (s : StreamingTrace α γ) : StreamingTrace α γ × Bool :=
  if !IAppStreamServer.isRunning s.appStreamServer then (s, false)
  else
    ({ s with
        appStreamServer := IAppStreamServer.stop s.appStreamServer
        calls := s.calls ++ [.appStop] }, true)

def startPlatformStream [IPlatformStreamer γ] (config : PlatformStreamConfig) (made : Option γ) (accepts : Bool)
    (s : StreamingTrace α γ) : StreamingTrace α γ × Bool :=
  if config.streamId ≤ 0 then (s, false)
  else if config.streamId ∈ s.platformStreams then (s, false)
  else
    match made with
    | none => (s, false)
    | some streamer =>
      let called := { s with made := s.made + 1, calls := s.calls ++ [.create s.made, .start s.made config] }
      if !(IPlatformStreamer.start streamer config accepts).2 then (called, false)
      else
        ({ called with
            activeNames := s.activeNames.insert config.streamId config.name
            platformStreams := s.platformStreams.insert config.streamId
              { number := s.made, streamer := (IPlatformStreamer.start streamer config accepts).1 } }, true)

def stopPlatformStream (streamId : Int) (s : StreamingTrace α γ) : StreamingTrace α γ × Bool :=
  match s.platformStreams.lookup streamId with
  | none => (s, false)
  | some taken =>
    ({ s with
        platformStreams := s.platformStreams.erase streamId
        activeNames := s.activeNames.erase streamId
        calls := s.calls ++ [.stop taken.number] }, true)

/-- The calls of a push: the server's and those of the streamers that run. -/
def pushCalls [IAppStreamServer α] [IPlatformStreamer γ] (frame : Frame) (s : StreamingTrace α γ) : List PortCall :=
  (if IAppStreamServer.isRunning s.appStreamServer then [.appPush frame] else []) ++
    (s.platformStreams.entries.filter fun e => IPlatformStreamer.isRunning e.2.streamer).map fun e => .push e.2.number frame

def push [IAppStreamServer α] [IPlatformStreamer γ] (frame : Frame) (s : StreamingTrace α γ) : StreamingTrace α γ :=
  { s with
    appStreamServer :=
      if IAppStreamServer.isRunning s.appStreamServer then IAppStreamServer.push s.appStreamServer frame
      else s.appStreamServer
    platformStreams := s.platformStreams.mapValues fun n =>
      { n with
        streamer := if IPlatformStreamer.isRunning n.streamer then IPlatformStreamer.push n.streamer frame else n.streamer }
    calls := s.calls ++ s.pushCalls frame }

def portsMove (server : α → α) (streamer : Nat → γ → γ) (s : StreamingTrace α γ) : StreamingTrace α γ :=
  { s with
    appStreamServer := server s.appStreamServer
    platformStreams := s.platformStreams.mapValues fun n => { n with streamer := streamer n.number n.streamer } }

def step [IAppStreamServer α] [IPlatformStreamer γ] (s : StreamingTrace α γ) : StreamingOp α γ → StreamingTrace α γ
  | .startAppStream config attaches => (s.startAppStream config attaches).1
  | .stopAppStream => s.stopAppStream.1
  | .startPlatformStream config made accepts => (s.startPlatformStream config made accepts).1
  | .stopPlatformStream streamId => (s.stopPlatformStream streamId).1
  | .push frame => s.push frame
  | .portsMove server streamer => s.portsMove server streamer

/-! ## The service without the notes -/

def service (s : StreamingTrace α γ) : StreamingService α γ where
  appStreamServer := s.appStreamServer
  platformStreams := s.platformStreams.mapValues (·.streamer)
  activeNames := s.activeNames

variable {s : StreamingTrace α γ}

@[simp] theorem service_appStreamServer : s.service.appStreamServer = s.appStreamServer := rfl

@[simp] theorem mem_service {id : Int} : id ∈ s.service.platformStreams ↔ id ∈ s.platformStreams := AList.mem_mapValues

theorem service_startAppStream [IAppStreamServer α] (config : AppStreamConfig) (attaches : Bool) :
    s.service.startAppStream config attaches =
      ((s.startAppStream config attaches).1.service, (s.startAppStream config attaches).2) := by
  unfold StreamingService.startAppStream startAppStream
  rw [service_appStreamServer]
  by_cases running : IAppStreamServer.isRunning s.appStreamServer = true
  · rw [if_pos running, if_pos running]
  · rw [if_neg running, if_neg running]
    rfl

theorem service_stopAppStream [IAppStreamServer α] : s.service.stopAppStream = (s.stopAppStream.1.service, s.stopAppStream.2) := by
  unfold StreamingService.stopAppStream stopAppStream
  rw [service_appStreamServer]
  by_cases stopped : (!IAppStreamServer.isRunning s.appStreamServer) = true
  · rw [if_pos stopped, if_pos stopped]
  · rw [if_neg stopped, if_neg stopped]
    rfl

theorem service_startPlatformStream [IPlatformStreamer γ] (config : PlatformStreamConfig) (made : Option γ) (accepts : Bool) :
    s.service.startPlatformStream config made accepts =
      ((s.startPlatformStream config made accepts).1.service, (s.startPlatformStream config made accepts).2) := by
  unfold StreamingService.startPlatformStream startPlatformStream
  by_cases invalid : config.streamId ≤ 0
  · rw [if_pos invalid, if_pos invalid]
  rw [if_neg invalid, if_neg invalid]
  by_cases active : config.streamId ∈ s.platformStreams
  · rw [if_pos active, if_pos (mem_service.2 active)]
  rw [if_neg active, if_neg (mt mem_service.1 active)]
  cases made with
  | none => rfl
  | some streamer =>
    dsimp only
    by_cases failed : (!(IPlatformStreamer.start streamer config accepts).2) = true
    · rw [if_pos failed, if_pos failed]
      rfl
    · rw [if_neg failed, if_neg failed]
      simp only [service, AList.mapValues_insert]

theorem service_stopPlatformStream (streamId : Int) : s.service.stopPlatformStream streamId =
    ((s.stopPlatformStream streamId).1.service, (s.stopPlatformStream streamId).2) := by
  unfold StreamingService.stopPlatformStream stopPlatformStream
  cases found : s.platformStreams.lookup streamId with
  | none =>
    have absent := AList.lookup_eq_none.1 found
    rw [if_pos (mt mem_service.1 absent)]
  | some taken =>
    have present : streamId ∈ s.platformStreams := AList.lookup_isSome.1 (by rw [found]; rfl)
    rw [if_neg (not_not.2 (mem_service.2 present))]
    simp only [service, AList.mapValues_erase]

theorem service_push [IAppStreamServer α] [IPlatformStreamer γ] (frame : Frame) : s.service.push frame = (s.push frame).service := by
  simp only [StreamingService.push, push, service, AList.mapValues, List.map_map, Function.comp_def]
  rfl

/-! ## What every step keeps -/

/-- Behind the stop of a streamer no call of it follows. -/
def Quiet (calls : List PortCall) : Prop := calls.Pairwise fun c d => ∀ h, c = .stop h → d.streamer ≠ some h

theorem Quiet.append {calls new : List PortCall} (old : Quiet calls) (later : Quiet new)
    (apart : ∀ c ∈ new, ∀ h, c.streamer = some h → .stop h ∉ calls) : Quiet (calls ++ new) := by
  refine List.pairwise_append.2 ⟨old, later, fun c hc d hd h stops of => ?_⟩
  exact apart d hd h of (stops ▸ hc)

theorem quiet_of_no_stop {calls : List PortCall} (none : ∀ h, .stop h ∉ calls) : Quiet calls := by
  refine List.pairwise_iff_getElem.2 fun i j hi _ _ h stops => ?_
  exact absurd (stops ▸ List.getElem_mem hi) (none h)

/-- The names are those of the active streamers, and these are known by their numbers and not stopped. -/
structure Kept (s : StreamingTrace α γ) : Prop where
  inStep : ∀ id, id ∈ s.activeNames ↔ id ∈ s.platformStreams
  live : ∀ id n, s.platformStreams.lookup id = some n → n.number < s.made ∧ .stop n.number ∉ s.calls
  distinct : ∀ id id' n n', s.platformStreams.lookup id = some n → s.platformStreams.lookup id' = some n' →
    n.number = n'.number → id = id'
  known : ∀ c ∈ s.calls, ∀ h, c.streamer = some h → h < s.made
  quiet : Quiet s.calls

theorem kept_initial (server : α) : Kept ({ appStreamServer := server } : StreamingTrace α γ) := by
  constructor
  · intro id
    exact iff_of_false (AList.notMem_empty id) (AList.notMem_empty id)
  · intro id n found
    cases found
  · intro id id' n n' found
    cases found
  · intro c mem
    cases mem
  · exact .nil

/-- Calls of the server and of active streamers other than to stop them. -/
theorem Kept.call (h : s.Kept) (server : α) (new : List PortCall) (none : ∀ k, .stop k ∉ new)
    (active : ∀ c ∈ new, ∀ k, c.streamer = some k → ∃ id n, s.platformStreams.lookup id = some n ∧ n.number = k) :
    Kept { s with appStreamServer := server, calls := s.calls ++ new } := by
  refine ⟨h.inStep, ?_, h.distinct, ?_, h.quiet.append (quiet_of_no_stop none) ?_⟩
  · intro id n found
    refine ⟨(h.live id n found).1, fun mem => ?_⟩
    rcases List.mem_append.1 mem with old | later
    · exact (h.live id n found).2 old
    · exact none _ later
  · intro c mem k of
    rcases List.mem_append.1 mem with old | later
    · exact h.known c old k of
    · obtain ⟨id, n, found, rfl⟩ := active c later k of
      exact (h.live id n found).1
  · intro c mem k of
    obtain ⟨id, n, found, rfl⟩ := active c mem k of
    exact (h.live id n found).2

/-- Streamers that change but not their numbers. -/
theorem Kept.mapValues (h : s.Kept) {f : NumberedStreamer γ → NumberedStreamer γ} (numbers : ∀ n, (f n).number = n.number) :
    Kept { s with platformStreams := s.platformStreams.mapValues f } := by
  refine ⟨fun id => (h.inStep id).trans AList.mem_mapValues.symm, ?_, ?_, h.known, h.quiet⟩
  · intro id n found
    obtain ⟨n, there, rfl⟩ := AList.lookup_mapValues_eq_some.1 found
    rw [numbers]
    exact h.live id n there
  · intro id id' n n' found found' same
    obtain ⟨n, there, rfl⟩ := AList.lookup_mapValues_eq_some.1 found
    obtain ⟨n', there', rfl⟩ := AList.lookup_mapValues_eq_some.1 found'
    rw [numbers, numbers] at same
    exact h.distinct id id' n n' there there' same

/-- A streamer is made and told to start. -/
theorem Kept.create (h : s.Kept) (config : PlatformStreamConfig) :
    Kept { s with made := s.made + 1, calls := s.calls ++ [.create s.made, .start s.made config] } := by
  refine ⟨h.inStep, ?_, h.distinct, ?_, h.quiet.append (quiet_of_no_stop (by simp)) ?_⟩
  · intro id n found
    obtain ⟨below, live⟩ := h.live id n found
    exact ⟨Nat.lt_succ_of_lt below, by simp [live]⟩
  · intro c mem k of
    rcases List.mem_append.1 mem with old | later
    · exact Nat.lt_succ_of_lt (h.known c old k of)
    · have new : s.made = k := by
        rcases List.mem_pair.1 later with rfl | rfl <;> exact Option.some.inj of
      exact new ▸ Nat.lt_succ_self _
  · intro c mem k of stopped
    have new : s.made = k := by
      rcases List.mem_pair.1 mem with rfl | rfl <;> exact Option.some.inj of
    exact Nat.ne_of_gt (h.known _ stopped k rfl) new

/-- The streamer made last becomes active under a free id. -/
theorem Kept.insert (h : s.Kept) {id : Int} (free : id ∉ s.platformStreams) {number : Nat} (latest : number < s.made)
    (unused : ∀ id' n, s.platformStreams.lookup id' = some n → n.number ≠ number) (live : .stop number ∉ s.calls)
    (name : String) (streamer : γ) :
    Kept { s with
      activeNames := s.activeNames.insert id name
      platformStreams := s.platformStreams.insert id { number, streamer } } := by
  have lookup : ∀ id' n, (s.platformStreams.insert id { number, streamer }).lookup id' = some n →
      (id' = id ∧ n.number = number) ∨ s.platformStreams.lookup id' = some n := by
    intro id' n found
    by_cases here : id' = id
    · subst here
      rw [AList.lookup_insert, Option.some.injEq] at found
      exact .inl ⟨rfl, found ▸ rfl⟩
    · rw [AList.lookup_insert_ne here] at found
      exact .inr found
  refine ⟨fun id' => ?_, ?_, ?_, h.known, h.quiet⟩
  · rw [AList.mem_insert, AList.mem_insert, h.inStep]
  · intro id' n found
    rcases lookup id' n found with ⟨-, new⟩ | old
    · rw [new]
      exact ⟨latest, live⟩
    · exact h.live id' n old
  · intro id₁ id₂ n₁ n₂ found₁ found₂ same
    rcases lookup id₁ n₁ found₁ with ⟨rfl, new₁⟩ | old₁
    · rcases lookup id₂ n₂ found₂ with ⟨rfl, -⟩ | old₂
      · rfl
      · exact absurd (same.symm.trans new₁) (unused id₂ n₂ old₂)
    · rcases lookup id₂ n₂ found₂ with ⟨rfl, new₂⟩ | old₂
      · exact absurd (same.trans new₂) (unused id₁ n₁ old₁)
      · exact h.distinct id₁ id₂ n₁ n₂ old₁ old₂ same

/-- A streamer leaves the maps and is stopped. -/
theorem Kept.stop (h : s.Kept) {id : Int} {taken : NumberedStreamer γ} (found : s.platformStreams.lookup id = some taken) :
    Kept { s with
      platformStreams := s.platformStreams.erase id
      activeNames := s.activeNames.erase id
      calls := s.calls ++ [.stop taken.number] } := by
  obtain ⟨below, live⟩ := h.live id taken found
  have lookup : ∀ id' n, (s.platformStreams.erase id).lookup id' = some n →
      id' ≠ id ∧ s.platformStreams.lookup id' = some n := by
    intro id' n found'
    have ne : id' ≠ id := by
      rintro rfl
      rw [AList.lookup_erase] at found'
      cases found'
    rw [AList.lookup_erase_ne ne] at found'
    exact ⟨ne, found'⟩
  refine ⟨fun id' => ?_, ?_, ?_, ?_, h.quiet.append (List.pairwise_singleton _ _) ?_⟩
  · rw [AList.mem_erase, AList.mem_erase, h.inStep]
  · intro id' n found'
    obtain ⟨ne, there⟩ := lookup id' n found'
    refine ⟨(h.live id' n there).1, fun mem => ?_⟩
    rcases List.mem_append.1 mem with old | later
    · exact (h.live id' n there).2 old
    · exact ne (h.distinct id' id n taken there found (PortCall.stop.inj (List.mem_singleton.1 later)))
  · intro id₁ id₂ n₁ n₂ found₁ found₂ same
    exact h.distinct id₁ id₂ n₁ n₂ (lookup id₁ n₁ found₁).2 (lookup id₂ n₂ found₂).2 same
  · intro c mem k of
    rcases List.mem_append.1 mem with old | later
    · exact h.known c old k of
    · obtain rfl := List.mem_singleton.1 later
      exact Option.some.inj of ▸ below
  · intro c mem k of
    obtain rfl := List.mem_singleton.1 mem
    exact Option.some.inj of ▸ live

theorem Kept.startPlatformStream [IPlatformStreamer γ] (h : s.Kept) (config : PlatformStreamConfig) (made : Option γ)
    (accepts : Bool) :
    (s.startPlatformStream config made accepts).1.Kept := by
  unfold StreamingTrace.startPlatformStream
  split
  · exact h
  split
  · exact h
  case isFalse free =>
    cases made with
    | none => exact h
    | some streamer =>
      have created := h.create config
      dsimp only
      split
      · exact created
      · apply created.insert free (Nat.lt_succ_self _)
        · intro id n found
          exact Nat.ne_of_lt (h.live id n found).1
        · intro mem
          rcases List.mem_append.1 mem with old | later
          · exact Nat.lt_irrefl _ (h.known _ old _ rfl)
          · simp at later

/-- A start that fails leaves the maps. -/
theorem startPlatformStream_failed [IPlatformStreamer γ] {config : PlatformStreamConfig} {made : Option γ} {accepts : Bool}
    (failed : (s.startPlatformStream config made accepts).2 = false) :
    (s.startPlatformStream config made accepts).1.platformStreams = s.platformStreams ∧
      (s.startPlatformStream config made accepts).1.activeNames = s.activeNames := by
  unfold startPlatformStream at failed ⊢
  by_cases invalid : config.streamId ≤ 0
  · rw [if_pos invalid]
    exact ⟨rfl, rfl⟩
  rw [if_neg invalid] at failed ⊢
  by_cases active : config.streamId ∈ s.platformStreams
  · rw [if_pos active]
    exact ⟨rfl, rfl⟩
  rw [if_neg active] at failed ⊢
  cases made with
  | none => exact ⟨rfl, rfl⟩
  | some streamer =>
    dsimp only at failed ⊢
    by_cases refused : (!(IPlatformStreamer.start streamer config accepts).2) = true
    · rw [if_pos refused]
      exact ⟨rfl, rfl⟩
    · rw [if_neg refused] at failed
      cases failed

/-- For an active id the factory is not asked. -/
theorem startPlatformStream_active [IPlatformStreamer γ] {config : PlatformStreamConfig} (made : Option γ) (accepts : Bool)
    (active : config.streamId ∈ s.platformStreams) : s.startPlatformStream config made accepts = (s, false) := by
  unfold startPlatformStream
  rw [if_pos active, ite_self]

theorem startAppStream_maps [IAppStreamServer α] (config : AppStreamConfig) (attaches : Bool) :
    (s.startAppStream config attaches).1.platformStreams = s.platformStreams ∧
      (s.startAppStream config attaches).1.activeNames = s.activeNames := by
  unfold startAppStream
  split <;> exact ⟨rfl, rfl⟩

theorem stopAppStream_maps [IAppStreamServer α] :
    s.stopAppStream.1.platformStreams = s.platformStreams ∧ s.stopAppStream.1.activeNames = s.activeNames := by
  unfold stopAppStream
  split <;> exact ⟨rfl, rfl⟩

section
variable [IAppStreamServer α] [IPlatformStreamer γ]

/-- A push calls the server if it runs, and of the active streamers those that run. -/
theorem mem_pushCalls {frame : Frame} {c : PortCall} : c ∈ s.pushCalls frame ↔
    (IAppStreamServer.isRunning s.appStreamServer = true ∧ c = .appPush frame) ∨
      ∃ id n, s.platformStreams.lookup id = some n ∧ IPlatformStreamer.isRunning n.streamer = true ∧
        c = .push n.number frame := by
  rw [pushCalls, List.mem_append, List.mem_map]
  apply or_congr
  · split <;> simp [*]
  · simp only [← Option.mem_def, AList.mem_lookup_iff, List.mem_filter]
    constructor
    · rintro ⟨e, ⟨mem, running⟩, rfl⟩
      exact ⟨e.1, e.2, mem, running, rfl⟩
    · rintro ⟨id, n, mem, running, rfl⟩
      exact ⟨⟨id, n⟩, ⟨mem, running⟩, rfl⟩

/-- And each of them once. -/
theorem Kept.pushCalls_nodup (h : s.Kept) (frame : Frame) : (s.pushCalls frame).Nodup := by
  have streamers : ((s.platformStreams.entries.filter fun e => IPlatformStreamer.isRunning e.2.streamer).map
      fun e => PortCall.push e.2.number frame).Nodup := by
    have entries : s.platformStreams.entries.Nodup := s.platformStreams.nodupKeys.nodup
    refine (entries.filter _).map_on fun e he e' he' same => ?_
    have found := AList.mem_lookup_iff.2 (List.mem_filter.1 he).1
    have found' := AList.mem_lookup_iff.2 (List.mem_filter.1 he').1
    have id := h.distinct e.1 e'.1 e.2 e'.2 found found' (PortCall.push.inj same).1
    have value : some e.2 = some e'.2 := by rw [← found, ← found', id]
    exact Sigma.ext id (heq_of_eq (Option.some.inj value))
  rw [pushCalls]
  split
  · refine List.nodup_append.2 ⟨List.nodup_singleton _, streamers, ?_⟩
    intro c mem d mem' same
    obtain rfl := List.mem_singleton.1 mem
    obtain ⟨e, -, rfl⟩ := List.mem_map.1 mem'
    cases same
  · rwa [List.nil_append]

theorem Kept.push (h : s.Kept) (frame : Frame) : (s.push frame).Kept := by
  have called : Kept { s with
      appStreamServer :=
        if IAppStreamServer.isRunning s.appStreamServer then IAppStreamServer.push s.appStreamServer frame
        else s.appStreamServer
      calls := s.calls ++ s.pushCalls frame } := by
    apply h.call
    · intro k mem
      rcases mem_pushCalls.1 mem with ⟨-, other⟩ | ⟨id, n, -, -, other⟩
      · cases other
      · cases other
    · intro c mem k of
      rcases mem_pushCalls.1 mem with ⟨-, rfl⟩ | ⟨id, n, found, -, rfl⟩
      · cases of
      · exact ⟨id, n, found, Option.some.inj of⟩
  exact called.mapValues fun _ => rfl

theorem Kept.step (h : s.Kept) (op : StreamingOp α γ) : (s.step op).Kept := by
  cases op with
  | startAppStream config attaches =>
    rw [StreamingTrace.step, StreamingTrace.startAppStream]
    split
    · exact h
    · exact h.call _ _ (by simp) (by simp [PortCall.streamer])
  | stopAppStream =>
    rw [StreamingTrace.step, StreamingTrace.stopAppStream]
    split
    · exact h
    · exact h.call _ _ (by simp) (by simp [PortCall.streamer])
  | startPlatformStream config made accepts => exact h.startPlatformStream config made accepts
  | stopPlatformStream id =>
    rw [StreamingTrace.step, StreamingTrace.stopPlatformStream]
    split
    · exact h
    case h_2 taken found => exact h.stop found
  | push frame => exact h.push frame
  | portsMove server streamer =>
    have same := h.call (server s.appStreamServer) [] (by simp) (by simp)
    rw [List.append_nil] at same
    exact same.mapValues fun _ => rfl

theorem kept_run (server : α) (ops : List (StreamingOp α γ)) :
    (ops.foldl step ({ appStreamServer := server } : StreamingTrace α γ)).Kept :=
  Runs.foldl_inv' (fun _ op h => h.step op) ops (kept_initial server)

/-! ## The law -/

/-- What holds of a service in a state it has come to. -/
structure Law (s : StreamingTrace α γ) : Prop where
  /-- The published ids are those of the active streamers. -/
  inStep : ∀ id, id ∈ s.activeNames ↔ id ∈ s.platformStreams
  /-- Under a free id one streamer is made and started, and is then in both maps, if it starts. -/
  started : ∀ config streamer accepts, 0 < config.streamId → config.streamId ∉ s.platformStreams →
    (IPlatformStreamer.start streamer config accepts).2 = true →
    s.startPlatformStream config (some streamer) accepts =
      ({ s with
          made := s.made + 1
          calls := s.calls ++ [.create s.made, .start s.made config]
          activeNames := s.activeNames.insert config.streamId config.name
          platformStreams := s.platformStreams.insert config.streamId
            { number := s.made, streamer := (IPlatformStreamer.start streamer config accepts).1 } }, true)
  failedStart : ∀ config made accepts, (s.startPlatformStream config made accepts).2 = false →
    (s.startPlatformStream config made accepts).1.platformStreams = s.platformStreams ∧
      (s.startPlatformStream config made accepts).1.activeNames = s.activeNames
  /-- For an active id nothing is made. -/
  activeStart : ∀ config made accepts, config.streamId ∈ s.platformStreams →
    s.startPlatformStream config made accepts = (s, false)
  /-- The preview is none of the maps' business. -/
  preview : ∀ config attaches,
    (s.startAppStream config attaches).1.platformStreams = s.platformStreams ∧
      (s.startAppStream config attaches).1.activeNames = s.activeNames ∧
      s.stopAppStream.1.platformStreams = s.platformStreams ∧ s.stopAppStream.1.activeNames = s.activeNames
  /-- The streamer that is removed is stopped, and was not before. -/
  stopped : ∀ id taken, s.platformStreams.lookup id = some taken →
    s.stopPlatformStream id =
        ({ s with
            platformStreams := s.platformStreams.erase id
            activeNames := s.activeNames.erase id
            calls := s.calls ++ [.stop taken.number] }, true) ∧
      .stop taken.number ∉ s.calls
  unknown : ∀ id, id ∉ s.platformStreams → s.stopPlatformStream id = (s, false)
  /-- No streamer is called behind its stop. -/
  quiet : Quiet s.calls
  pushed : ∀ frame, (s.push frame).calls = s.calls ++ s.pushCalls frame ∧ (s.pushCalls frame).Nodup ∧
    ∀ c, c ∈ s.pushCalls frame ↔
      (IAppStreamServer.isRunning s.appStreamServer = true ∧ c = .appPush frame) ∨
        ∃ id n, s.platformStreams.lookup id = some n ∧ IPlatformStreamer.isRunning n.streamer = true ∧
          c = .push n.number frame

/-- **The streamers and the published list are in step**, whatever is called and however the ports answer. -/
theorem streaming_law (server : α) (ops : List (StreamingOp α γ)) :
    Law (ops.foldl step ({ appStreamServer := server } : StreamingTrace α γ)) := by
  have kept := kept_run server ops
  generalize ops.foldl step ({ appStreamServer := server } : StreamingTrace α γ) = s at kept
  refine ⟨kept.inStep, ?_, ?_, ?_, ?_, ?_, ?_, kept.quiet, ?_⟩
  · intro config streamer accepts valid free starts
    rw [startPlatformStream, if_neg (Int.not_le.2 valid), if_neg free]
    simp only [starts, Bool.not_true, Bool.false_eq_true, if_false]
  · intro config made accepts failed
    exact startPlatformStream_failed failed
  · intro config made accepts active
    exact startPlatformStream_active made accepts active
  · intro config attaches
    exact ⟨(startAppStream_maps config attaches).1, (startAppStream_maps config attaches).2, stopAppStream_maps.1,
      stopAppStream_maps.2⟩
  · intro id taken found
    refine ⟨?_, (kept.live id taken found).2⟩
    rw [stopPlatformStream, found]
  · intro id absent
    rw [stopPlatformStream, AList.lookup_eq_none.2 absent]
  · intro frame
    exact ⟨rfl, kept.pushCalls_nodup frame, fun _ => mem_pushCalls⟩

end

end StreamingTrace

end SstCam
