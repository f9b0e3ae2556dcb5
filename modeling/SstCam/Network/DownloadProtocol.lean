import SstCam.Control.Handlers
import SstCam.Lib.Hex
import SstCam.Network.HttpDownload
import Mathlib.Data.List.TakeWhile

/-!
# Downloads from the offer on

The command link offers a recording: its URL, and a token of random words (`MakeSecureToken`,
`domain/common/utils/uuid.hpp`). The download server serves it, piece by piece where the connection breaks.
Whatever else the server is asked meanwhile, what has arrived is a front of the file, and the first
connection that goes well completes it, as long as there is the memory to read the rest of the file at once
(`resumed_download`).
-/

namespace SstCam
set_option autoImplicit false

open HttpRange (kUnit rangeError rangeError_iff Within parseRangeHeader_from)

/-! ## Tokens -/

/-- `words` are those of the random device. -/
def makeSecureToken (words : Fin 4 → UInt32) : String :=
  String.ofList ((List.ofFn fun i => (words i).toNat).flatMap (Hex.fixed 8))

/-- Different words make different tokens. -/
theorem makeSecureToken_inj {words words' : Fin 4 → UInt32} (same : makeSecureToken words = makeSecureToken words') :
    words = words' := by
  have small (w : Fin 4 → UInt32) : ∀ n ∈ List.ofFn fun i => (w i).toNat, n < 16 ^ 8 := by
    intro n mem
    obtain ⟨i, rfl⟩ := List.mem_ofFn.1 mem
    exact (w i).toNat_lt
  have words_eq := Hex.flatMap_fixed_inj (small words) (small words') (by simp) (String.ofList_inj.1 same)
  funext i
  exact UInt32.toNat_inj.1 (congrFun (List.ofFn_injective words_eq) i)

theorem makeSecureToken_length (words : Fin 4 → UInt32) : (makeSecureToken words).toList.length = 32 := by
  simp [makeSecureToken]

/-! ## The offer -/

/-- `runtime_defaults::kDownloadTokenTtlSeconds`. -/
def kDownloadTokenTtlSeconds : Nat := 3600

/-- A download request over the command link, with the tree and the time that the server finds. -/
def offer (recordingId : String) (root : Option (List FileNode)) (words : Fin 4 → UInt32) (now : Nat) (s : DownloadServer) :
    DownloadServer × CommandResponse :=
  let minted := s.mintToken recordingId kDownloadTokenTtlSeconds root (makeSecureToken words) now
  (minted.1, DownloadHandler.handleDownloadRequest ({ minted := fun _ => minted.2 } : Ports Unit) recordingId)

/-- What stands in front of the path of an offered URL. -/
def kUrlAuthority : String := "http://" ++ groupOwnerIp ++ ":" ++ toString downloadPort

namespace HttpDownloadServer

/-- The line of a client's request for the offered URL, without its end. -/
def requestLine (msg : DownloadTokenMsg) : List Char :=
  "GET ".toList ++ msg.httpUrl.toList.drop kUrlAuthority.toList.length ++ " HTTP/1.1".toList

/-- The request of a client that was offered a recording and has received this much of it, as the server reads it. -/
def rest (msg : DownloadTokenMsg) (received : Nat) : Option HttpRequest :=
  HttpRequest.ofLine (requestLine msg) (some (kBearerPrefix ++ msg.authToken.toList))
    (some (kUnit ++ (Nat.toDigits 10 received ++ ['-'])))

/-! ## The run of a download -/

/-- What others ask of the server. -/
inductive OtherEvent where
  | offer (recordingId : String) (root : Option (List FileNode)) (words : Fin 4 → UInt32) (now : Nat)
  | request (env : Surroundings) (req : HttpRequest) (turns : List Turn)

/-- The server goes down with an exception that no one catches. -/
def serveOther : Option DownloadServer → OtherEvent → Option DownloadServer
  | none, _ => none
  | some s, .offer recordingId root words now => some (SstCam.offer recordingId root words now s).1
  | some s, .request env req turns =>
    match respond env req turns s with
    | (_, .error .threw, _) => none
    | (s, _) => some s

/-- An attempt to download the rest: what the server is asked before, what the request finds, and the turns of
the sending. -/
structure Attempt where
  before : List OtherEvent := []
  env : Surroundings
  turns : List Turn

structure Download where
  server : Option DownloadServer
  received : List UInt8 := []
  /-- A request of the client's own has brought the server down. -/
  broke : Bool := false

/-- Only of a 206 the client keeps what it gets. -/
def Download.attempt (msg : DownloadTokenMsg) (d : Download) (a : Attempt) : Download :=
  match a.before.foldl serveOther d.server with
  | none => { d with server := none }
  | some s =>
    match rest msg d.received.length with
    | none => { d with server := some s }
    | some req =>
      let answered := processRequest a.env req s
      match answered.2 with
      | none => { d with server := none, broke := true }
      | some out =>
        let sending := (sendResponse req out).run ⟨[], a.turns⟩
        let received := if out.response.status = some 206 then d.received ++ sending.2.sent else d.received
        match sending.1 with
        | .error .threw => { server := none, received, broke := true }
        | _ => { server := some answered.1, received, broke := d.broke }

/-! ## A live token -/

/-- The token is there, for the file and until then. -/
def Live (token : String) (path : Path) (expiresAtUnix : Nat) (s : DownloadServer) : Prop :=
  s.tokens token = some { path, expiresAtUnix }

/-- An event that leaves the token be: it comes before the token expires, and draws other words. -/
def OtherEvent.Apart (words : Fin 4 → UInt32) (expiresAtUnix : Nat) : OtherEvent → Prop
  | .offer _ _ words' _ => words' ≠ words
  | .request env _ _ => env.now < expiresAtUnix

variable {token : String} {path : Path} {expiresAtUnix now : Nat} {s : DownloadServer} {env : Surroundings} {req : HttpRequest}

theorem Live.validateToken (live : Live token path expiresAtUnix s) (early : now < expiresAtUnix) :
    s.validateToken token now = (s, some path) := by
  rw [DownloadServer.validateToken, live]
  simp only
  rw [if_neg (by omega)]

theorem Live.validateToken_other (live : Live token path expiresAtUnix s) (early : now < expiresAtUnix) (other : String) :
    Live token path expiresAtUnix (s.validateToken other now).1 := by
  by_cases same : other = token
  · rw [same, live.validateToken early]
    exact live
  · rw [DownloadServer.validateToken]
    split
    · exact live
    · split
      · show (if token = other then none else s.tokens token) = _
        rw [if_neg (Ne.symm same)]
        exact live
      · exact live

theorem Live.processRequest (live : Live token path expiresAtUnix s) (early : env.now < expiresAtUnix) (req : HttpRequest) :
    Live token path expiresAtUnix (processRequest env req s).1 := by
  have served := serve_eq s (.request env req)
  rw [serve] at served
  rw [served, ServerEvent.tokenCalls]
  split
  · exact live.validateToken_other early _
  · exact live

theorem Live.respond (live : Live token path expiresAtUnix s) (early : env.now < expiresAtUnix) (req : HttpRequest)
    (turns : List Turn) : Live token path expiresAtUnix (respond env req turns s).1 := by
  have kept := live.processRequest early req
  unfold HttpDownloadServer.respond
  split
  · next answered => rwa [answered] at kept
  · next answered => rwa [answered] at kept

theorem Live.mintToken {recordingId : String} {ttlSeconds : Nat} {root : Option (List FileNode)} {generated : String}
    (live : Live token path expiresAtUnix s) (apart : generated ≠ token) :
    Live token path expiresAtUnix (s.mintToken recordingId ttlSeconds root generated now).1 := by
  rw [DownloadServer.mintToken]
  split
  · exact live
  · show (if token = generated then _ else s.tokens token) = _
    rw [if_neg (Ne.symm apart)]
    exact live

theorem serveOther_none (events : List OtherEvent) : events.foldl serveOther none = none := by
  induction events with
  | nil => rfl
  | cons event events ih => exact ih

/-- A token that is alive lives on, as long as the server does. -/
theorem Live.serveOther {words : Fin 4 → UInt32} (live : Live (makeSecureToken words) path expiresAtUnix s)
    {events : List OtherEvent} (apart : ∀ event ∈ events, event.Apart words expiresAtUnix) :
    ∀ s', events.foldl serveOther (some s) = some s' → Live (makeSecureToken words) path expiresAtUnix s' := by
  induction events generalizing s with
  | nil =>
    rintro s' ⟨⟩
    exact live
  | cons event events ih =>
    rw [List.forall_mem_cons] at apart
    intro s' standing
    rw [List.foldl_cons] at standing
    cases event with
    | offer recordingId root words' now =>
      have other : makeSecureToken words' ≠ makeSecureToken words := fun same => apart.1 (makeSecureToken_inj same)
      exact ih (live.mintToken other) apart.2 s' standing
    | request env req turns =>
      have kept := live.respond apart.1 req turns
      rw [HttpDownloadServer.serveOther] at standing
      generalize HttpDownloadServer.respond env req turns s = answered at kept standing
      split at standing
      · rw [serveOther_none] at standing
        cases standing
      · exact ih kept apart.2 s' standing

/-! ## An attempt -/

variable {msg : DownloadTokenMsg} {content : List UInt8} {turns : List Turn} {received : Nat}

/-- The same request, once its line has been read. -/
def restAt (path : List Char) (msg : DownloadTokenMsg) (received : Nat) : HttpRequest where
  path
  authorization := some (kBearerPrefix ++ msg.authToken.toList)
  range := some (kUnit ++ (Nat.toDigits 10 received ++ ['-']))

theorem extractBearer_restAt (at_ : List Char) (msg : DownloadTokenMsg) (received : Nat) :
    extractBearer (restAt at_ msg received) = msg.authToken.toList := by
  simp [extractBearer, restAt]

/-- The client's request opens the file that its token is for. -/
theorem Live.opened_restAt {words : Fin 4 → UInt32} (alive : Live (makeSecureToken words) path expiresAtUnix s)
    (named : msg.authToken = makeSecureToken words) (early : env.now < expiresAtUnix) (at_ : List Char) (received : Nat) :
    opened env (restAt at_ msg received) s = some path := by
  have carried : extractBearer (restAt at_ msg received) = (makeSecureToken words).toList := by
    rw [extractBearer_restAt, named]
  have token : tokenOf (restAt at_ msg received) = makeSecureToken words := by
    rw [tokenOf, carried, String.ofList_toList]
  have carries : extractBearer (restAt at_ msg received) ≠ [] := by
    rw [carried]
    intro empty
    have length := makeSecureToken_length words
    rw [empty] at length
    cases length
  rw [opened, if_neg carries, token, alive.validateToken early]

theorem askedRanges_restAt (at_ : List Char) (msg : DownloadTokenMsg) (received : Nat) (fits : received < 2 ^ 63) :
    askedRanges (restAt at_ msg received) = some [((received : Int), -1)] := parseRangeHeader_from fits

theorem rangeError_rest (left : received < content.length) :
    rangeError [((received : Int), -1)] content.length = some [((received : Int), (content.length : Int) - 1)] := by
  have normal : HttpRange.normalize content.length ((received : Int), -1) = ((received : Int), (content.length : Int) - 1) := by
    have at_ : (received : Int) ≠ -1 := by omega
    simp [HttpRange.normalize, at_]
  refine rangeError_iff.2 ⟨by simp [kRangeMaxCount], by rw [List.map_singleton, normal], ?_, by simp, ?_⟩
  · intro range mem
    obtain rfl := List.mem_singleton.1 mem
    refine ⟨?_, ?_, ?_⟩ <;> simp only <;> omega
  · rw [HttpRange.overlaps, HttpRange.overlaps]
    split <;> omega

theorem rangeError_rest_none (all : content.length ≤ received) : rangeError [((received : Int), -1)] content.length = none := by
  cases checked : rangeError [((received : Int), -1)] content.length with
  | none => rfl
  | some ranges =>
    obtain ⟨-, rfl, within, -, -⟩ := rangeError_iff.1 checked
    have at_ : (received : Int) ≠ -1 := by omega
    obtain ⟨low, order, high⟩ := within _ (List.mem_singleton.2 rfl)
    simp only [HttpRange.normalize, at_, false_and, if_false, if_true] at order high
    omega

theorem slice_rest (left : received < content.length) :
    slice content ((received : Int), (content.length : Int) - 1) = content.drop received := by
  have size : (((content.length : Int) - 1) - received + 1).toNat = (content.drop received).length := by
    rw [List.length_drop]
    omega
  rw [slice]
  simp only [Int.toNat_natCast]
  rw [size, List.take_length]

/-- What a client meets that downloads the file with the token: the token is alive, the file as long as it is,
what is read of it is a front of it, and there is the memory for all of it. -/
structure Attempt.Meets (words : Fin 4 → UInt32) (path : Path) (expiresAtUnix : Nat) (content : List UInt8) (a : Attempt) :
    Prop where
  before : ∀ event ∈ a.before, event.Apart words expiresAtUnix
  early : a.env.now < expiresAtUnix
  present : a.env.fileSize path = some content.length
  files : ∀ turn ∈ a.turns, ∀ file, turn.file = some file → file <+: content
  memory : ∀ turn ∈ a.turns, content.length ≤ turn.longestString

/-- A connection that goes well until all is sent. -/
def Attempt.Good (content : List UInt8) (a : Attempt) : Prop := (∀ turn ∈ a.turns, turn.Good content) ∧ 15 ≤ a.turns.length

/-- The request for the rest, while there is some left. -/
theorem processRequest_rest {req : HttpRequest} (get : req.isHead = false) (route : matchesRoute req.path = true)
    (asked : askedRanges req = some [((received : Int), -1)]) (opens : opened env req s = some path)
    (present : env.fileSize path = some content.length) (left : received < content.length) (turns : List Turn)
    (memory : ∀ turn ∈ turns, content.length ≤ turn.longestString) :
    ∃ out, (processRequest env req s).2 = some out ∧ out.response.status = some 206 ∧
      ((sendResponse req out).run ⟨[], turns⟩).1 ≠ .error .threw ∧
      ((∀ turn ∈ turns, ∀ file, turn.file = some file → file <+: content) →
        ((sendResponse req out).run ⟨[], turns⟩).2.sent <+: content.drop received) ∧
      ((∀ turn ∈ turns, turn.Good content) → 15 ≤ turns.length →
        ((sendResponse req out).run ⟨[], turns⟩).2.sent = content.drop received) := by
  have fits := env.fileSize_lt path content.length present
  have checked := rangeError_rest left
  have within := (rangeError_iff.1 checked).2.2.1
  obtain ⟨out, made, d, status⟩ := processRequest_delivers route opens present asked checked
  have body (mark : List Char) :
      bodyOf content mark kVideoType [((received : Int), (content.length : Int) - 1)] = content.drop received := slice_rest left
  have room : ∀ turn ∈ turns,
      ∀ length ∈ wantedLengths content.length [((received : Int), (content.length : Int) - 1)], length ≤ turn.longestString := by
    intro turn mem length wanted
    obtain rfl := List.mem_singleton.1 wanted
    have all := memory turn mem
    simp only
    omega
  refine ⟨out, made, by rw [status, if_neg (List.cons_ne_nil _ _)], fun threw => ?_, fun files => ?_, fun good enough => ?_⟩
  · obtain ⟨-, length, wanted, turn, mem, short⟩ := d.threw within fits threw
    have had := room turn mem length wanted
    omega
  · have front : ((sendResponse req out).run ⟨[], turns⟩).2.sent <+: _ :=
      d.send_prefix (Nat.le_refl 1) within fits (List.prefix_refl content) files
    rwa [body] at front
  · obtain ⟨unused, sent⟩ := d.send get within fits good room enough
    rw [sent, body]

/-- The request of a client that has it all. -/
theorem processRequest_rest_none {req : HttpRequest} (route : matchesRoute req.path = true)
    (asked : askedRanges req = some [((received : Int), -1)]) (opens : opened env req s = some path)
    (present : env.fileSize path = some content.length) (all : content.length = received) (turns : List Turn) :
    ∃ out, (processRequest env req s).2 = some out ∧ out.response.status ≠ some 206 ∧
      ((sendResponse req out).run ⟨[], turns⟩).1 ≠ .error .threw := by
  rw [processRequest_routed route asked, getRecording_opened opens present,
    routed_unsatisfiable (rangeError_rest_none (Nat.le_of_eq all))]
  exact ⟨_, rfl, by simp [writeResponse, addFields], sendResponse_unprovided rfl⟩

/-- A download so far: a front of the file, with the token alive as long as the server is up. -/
structure Sound (token : String) (path : Path) (expiresAtUnix : Nat) (content : List UInt8) (d : Download) : Prop where
  live : ∀ s, d.server = some s → Live token path expiresAtUnix s
  front : d.received <+: content
  kept : d.broke = false

/-- One attempt goes on with the file, and a good one completes it. -/
theorem Sound.attempt {words : Fin 4 → UInt32} {d : Download} {a : Attempt}
    (sound : Sound (makeSecureToken words) path expiresAtUnix content d) (named : msg.authToken = makeSecureToken words)
    {at_ : List Char} (reads : ∀ received, rest msg received = some (restAt at_ msg received))
    (route : matchesRoute at_ = true) (meets : a.Meets words path expiresAtUnix content) :
    Sound (makeSecureToken words) path expiresAtUnix content (d.attempt msg a) ∧
      d.received <+: (d.attempt msg a).received ∧ ((d.attempt msg a).server.isSome → d.server.isSome) ∧
      (a.Good content → (d.attempt msg a).server.isSome → (d.attempt msg a).received = content) := by
  obtain ⟨live, front, kept⟩ := sound
  unfold Download.attempt
  cases standing : a.before.foldl HttpDownloadServer.serveOther d.server with
  | none => exact ⟨⟨nofun, front, kept⟩, List.prefix_refl _, nofun, fun _ => nofun⟩
  | some s =>
    obtain ⟨s₀, up⟩ : ∃ s₀, d.server = some s₀ := by
      cases server : d.server with
      | some s₀ => exact ⟨s₀, rfl⟩
      | none =>
        rw [server, serveOther_none] at standing
        cases standing
    rw [up] at standing
    have alive := (live s₀ up).serveOther meets.before s standing
    have opens := alive.opened_restAt named meets.early at_ d.received.length
    have lives := alive.processRequest meets.early (restAt at_ msg d.received.length)
    obtain ⟨left, whole⟩ := front
    have sizes := congrArg List.length whole
    rw [List.length_append] at sizes
    have drops : content.drop d.received.length = left := by rw [← whole, List.drop_left]
    have fits := a.env.fileSize_lt path content.length meets.present
    have asked := askedRanges_restAt at_ msg d.received.length (by omega)
    have get : (restAt at_ msg d.received.length).isHead = false := rfl
    have route' : matchesRoute (restAt at_ msg d.received.length).path = true := route
    simp only [reads]
    generalize restAt at_ msg d.received.length = req at opens lives asked get route'
    cases left with
    | nil =>
      rw [List.append_nil] at whole
      obtain ⟨out, answered, status, stands⟩ :=
        processRequest_rest_none route' asked opens meets.present (by rw [whole]) a.turns
      simp only [answered, if_neg status]
      refine ⟨⟨?_, by rw [whole], kept⟩, List.prefix_refl _, fun _ => by rw [up]; rfl, fun _ _ => whole⟩
      rintro _ ⟨⟩
      exact lives
    | cons byte left =>
      obtain ⟨out, answered, status, stands, sends, completes⟩ :=
        processRequest_rest get route' asked opens meets.present (by rw [List.length_cons] at sizes; omega) a.turns meets.memory
      rw [drops] at sends completes
      simp only [answered, if_pos status]
      refine ⟨⟨?_, ?_, kept⟩, List.prefix_append _ _, fun _ => by rw [up]; rfl, fun good _ => ?_⟩
      · rintro _ ⟨⟩
        exact lives
      · rw [← whole]
        exact (List.prefix_append_right_inj _).2 (sends meets.files)
      · rw [completes good.1 good.2, whole]

/-- What the attempts come to. -/
theorem Sound.attempts {words : Fin 4 → UInt32} {d : Download} (attempts : List Attempt)
    (sound : Sound (makeSecureToken words) path expiresAtUnix content d) (named : msg.authToken = makeSecureToken words)
    {at_ : List Char} (reads : ∀ received, rest msg received = some (restAt at_ msg received))
    (route : matchesRoute at_ = true) (meets : ∀ a ∈ attempts, a.Meets words path expiresAtUnix content) :
    Sound (makeSecureToken words) path expiresAtUnix content (attempts.foldl (Download.attempt msg) d) ∧
      d.received <+: (attempts.foldl (Download.attempt msg) d).received ∧
      ((attempts.foldl (Download.attempt msg) d).server.isSome → d.server.isSome ∧
        ∀ a ∈ attempts, a.Good content → (attempts.foldl (Download.attempt msg) d).received = content) := by
  induction attempts generalizing d with
  | nil => exact ⟨sound, List.prefix_refl _, fun up => ⟨up, nofun⟩⟩
  | cons a attempts ih =>
    rw [List.forall_mem_cons] at meets
    obtain ⟨sound', grown, up, completes⟩ := sound.attempt named reads route meets.1
    obtain ⟨last, grown', run⟩ := ih sound' meets.2
    rw [List.foldl_cons]
    refine ⟨last, grown.trans grown', fun standing => ?_⟩
    obtain ⟨before, later⟩ := run standing
    refine ⟨up before, List.forall_mem_cons.2 ⟨fun good => ?_, later⟩⟩
    have front := last.front
    have all := completes good before
    rw [all] at grown'
    exact (List.IsPrefix.eq_of_length_le front grown'.length_le)

/-! ## From the offer on -/

/-- A character that stands for itself in a URL and ends nothing there. -/
def Literal (c : Char) : Prop := (33 ≤ c.toNat ∧ c.toNat ≤ 126) ∧ c ≠ '%' ∧ c ≠ '#' ∧ c ≠ '?'

instance : DecidablePred Literal := fun _ => inferInstanceAs (Decidable (_ ∧ _))

theorem Literal.ne {c other : Char} (literal : Literal c) (unprintable : other.toNat < 33) : c ≠ other := by
  rintro rfl
  obtain ⟨⟨low, high⟩, -⟩ := literal
  omega

theorem Literal.of_all {text : List Char} (all : text.all (fun c => decide (Literal c)) = true) : ∀ c ∈ text, Literal c :=
  fun c mem => of_decide_eq_true (List.all_eq_true.1 all c mem)

theorem Literal.isSpaceOrTab {c : Char} (literal : Literal c) : HttpRange.isSpaceOrTab c = false := by
  simp [HttpRange.isSpaceOrTab, literal.ne]

section Line

open HttpRequest (decodeUrl targetPath parseRequestLine)

variable {text : List Char} (literal : ∀ c ∈ text, Literal c)
include literal

theorem dropWhile_literal : text.dropWhile HttpRange.isSpaceOrTab = text := by
  cases text with
  | nil => rfl
  | cons c text => rw [List.dropWhile_cons_of_neg (by simp [(literal c List.mem_cons_self).isSpaceOrTab])]

theorem trim_literal : HttpRange.trim text = text := by
  have back : ∀ c ∈ text.reverse, Literal c := fun c mem => literal c (List.mem_reverse.1 mem)
  rw [HttpRange.trim, dropWhile_literal literal, dropWhile_literal back, List.reverse_reverse]

theorem decodeUrl_literal : decodeUrl 0 text = text := by
  induction text with
  | nil => rfl
  | cons c text ih =>
    rw [List.forall_mem_cons] at literal
    rw [decodeUrl, if_neg literal.1.2.1]
    simp only [ih literal.2]

theorem targetPath_literal (written : text ≠ []) : targetPath text = text := by
  have fragment : text.takeWhile (· != '#') = text :=
    List.takeWhile_eq_self_iff.2 fun c mem => by simp [(literal c mem).2.2.1]
  have query : text.takeWhile (· != '?') = text :=
    List.takeWhile_eq_self_iff.2 fun c mem => by simp [(literal c mem).2.2.2]
  unfold targetPath
  simp only [fragment, query, List.map_cons, trim_literal literal]
  rw [List.find?_cons_of_pos (by simp [written]), Option.getD_some, decodeUrl_literal literal]

omit literal in
theorem split_literal {pieces : List (List Char)} (written : ∀ piece ∈ pieces, piece ≠ []) (there : pieces ≠ [])
    (literal : ∀ piece ∈ pieces, ∀ c ∈ piece, Literal c) : HttpRange.split ' ' ([' '].intercalate pieces) = pieces := by
  have apart : ∀ piece ∈ pieces, ' ' ∉ piece := fun piece mem space => (literal piece mem ' ' space).ne (by decide) rfl
  have trimmed : pieces.map HttpRange.trim = pieces :=
    (List.map_congr_left fun piece mem => trim_literal (literal piece mem)).trans (List.map_id pieces)
  rw [HttpRange.split, List.splitOn_intercalate ' ' apart there, trimmed, List.filter_eq_self.2]
  exact fun piece mem => by simp [written piece mem]

/-- The line of a `GET` for a literal target. -/
theorem parseRequestLine_literal (written : text ≠ []) :
    parseRequestLine ("GET ".toList ++ text ++ " HTTP/1.1".toList) = some ("GET".toList, text) := by
  have pieces : HttpRange.split ' ' ("GET ".toList ++ text ++ " HTTP/1.1".toList) =
      ["GET".toList, text, "HTTP/1.1".toList] := by
    have line : "GET ".toList ++ text ++ " HTTP/1.1".toList =
        [' '].intercalate ["GET".toList, text, "HTTP/1.1".toList] := by
      simp [List.intercalate]
    rw [line]
    refine split_literal ?_ (List.cons_ne_nil _ _) ?_
    · simp [written]
    · simp only [List.forall_mem_cons]
      exact ⟨Literal.of_all (by decide), literal, Literal.of_all (by decide), nofun⟩
  rw [parseRequestLine, pieces]
  simp only
  rw [if_pos (by decide), targetPath_literal literal written]

end Line

theorem matchesRoute_recordings {recordingId : List Char} (literal : ∀ c ∈ recordingId, Literal c) :
    matchesRoute (kRecordingsPath ++ recordingId) = true := by
  rw [matchesRoute, Bool.and_eq_true, List.isPrefixOf_iff_prefix, List.drop_left, List.all_eq_true]
  refine ⟨List.prefix_append _ _, fun c mem => ?_⟩
  simp [(literal c mem).ne]

theorem path_of_url (authority recordingId : String) :
    List.drop authority.toList.length (authority ++ "/recordings/" ++ recordingId).toList =
      kRecordingsPath ++ recordingId.toList := by
  unfold kRecordingsPath
  generalize "/recordings/" = route
  simp

/-- What is offered of a recording that is there. -/
def offered (recordingId : String) (words : Fin 4 → UInt32) (expiresAt : Nat) : DownloadTokenMsg where
  recordingId
  httpUrl := kUrlAuthority ++ "/recordings/" ++ recordingId
  authToken := makeSecureToken words
  expiresAt

theorem offer_eq {recordingId : String} {root : Option (List FileNode)}
    (resolved : DownloadServer.resolveRecordingPath recordingId root = some path) (words : Fin 4 → UInt32) (now : Nat)
    (s : DownloadServer) :
    (offer recordingId root words now s).2 =
        .reply (.downloadToken (offered recordingId words ((now + kDownloadTokenTtlSeconds) % 2 ^ 64))) ∧
      Live (makeSecureToken words) path ((now + kDownloadTokenTtlSeconds) % 2 ^ 64) (offer recordingId root words now s).1 := by
  unfold offer offered DownloadServer.mintToken DownloadHandler.handleDownloadRequest kUrlAuthority
  rw [resolved]
  generalize makeSecureToken words = token
  simp only
  exact ⟨trivial, if_pos rfl⟩

/-- What the server reads off a client's request. -/
theorem rest_eq {recordingId : String} (literal : ∀ c ∈ recordingId.toList, Literal c)
    (short : recordingId.toList.length + 27 ≤ kRequestUriMaxLength) (words : Fin 4 → UInt32) (expiresAt received : Nat) :
    rest (offered recordingId words expiresAt) received =
      some (restAt (kRecordingsPath ++ recordingId.toList) (offered recordingId words expiresAt) received) := by
  have route : ∀ c ∈ kRecordingsPath, Literal c := Literal.of_all (by decide)
  have target : ∀ c ∈ kRecordingsPath ++ recordingId.toList, Literal c := List.forall_mem_append.2 ⟨route, literal⟩
  have line : requestLine (offered recordingId words expiresAt) =
      "GET ".toList ++ (kRecordingsPath ++ recordingId.toList) ++ " HTTP/1.1".toList := by
    rw [requestLine, offered, path_of_url]
  have length : ¬ kRequestUriMaxLength < (requestLine (offered recordingId words expiresAt)).length + 2 := by
    have words : "GET ".toList.length = 4 ∧ kRecordingsPath.length = 12 ∧ " HTTP/1.1".toList.length = 9 := by decide
    rw [line, List.length_append, List.length_append, List.length_append]
    omega
  have written : kRecordingsPath ++ recordingId.toList ≠ [] := List.append_ne_nil_of_left_ne_nil (by decide) _
  rw [rest, HttpRequest.ofLine, if_neg length, line, parseRequestLine_literal target written]
  rfl

/-- **A download.** A recording that is there, and whose id is literal in a URL, is offered under a token.
Before it expires, with the memory for the file and whatever the server is asked meanwhile, a client that asks
for the rest of the file as often as it is cut off has at every time a front of it and never brings the server
down; and as long as nobody else does, one connection that goes well completes the file. -/
theorem resumed_download {recordingId : String} (literal : ∀ c ∈ recordingId.toList, Literal c)
    (short : recordingId.toList.length + 27 ≤ kRequestUriMaxLength) {root : Option (List FileNode)}
    (resolved : DownloadServer.resolveRecordingPath recordingId root = some path)
    (words : Fin 4 → UInt32) (now : Nat) (s : DownloadServer) :
    ∃ msg, (offer recordingId root words now s).2 = .reply (.downloadToken msg) ∧
      msg.expiresAt = (now + kDownloadTokenTtlSeconds) % 2 ^ 64 ∧
      ∀ (content : List UInt8) (attempts : List Attempt), (∀ a ∈ attempts, a.Meets words path msg.expiresAt content) →
        ∀ d, d = attempts.foldl (Download.attempt msg) { server := some (offer recordingId root words now s).1 } →
          d.received <+: content ∧ d.broke = false ∧
            (d.server.isSome → ∀ a ∈ attempts, a.Good content → d.received = content) := by
  obtain ⟨reply, live⟩ := offer_eq resolved words now s
  refine ⟨_, reply, rfl, ?_⟩
  rintro content attempts meets d rfl
  have sound : Sound (makeSecureToken words) path ((now + kDownloadTokenTtlSeconds) % 2 ^ 64) content
      { server := some (offer recordingId root words now s).1 } := by
    refine ⟨?_, List.nil_prefix, rfl⟩
    rintro _ ⟨⟩
    exact live
  obtain ⟨⟨-, front, kept⟩, -, run⟩ :=
    sound.attempts attempts rfl (rest_eq literal short words _) (matchesRoute_recordings literal) meets
  exact ⟨front, kept, fun standing => (run standing).2⟩

/-- A first connection that breaks after two bytes, and a second that goes well. -/
def twoAttempts : List Attempt :=
  [{ env := fourBytes, turns := [{ file := some [1, 2, 3, 4], longestString := 4, fails := some 2 }] },
    { env := fourBytes, turns := List.replicate 15 { file := some [1, 2, 3, 4], longestString := 4 } }]

theorem cut_off_resumed :
    ∃ msg, (offer "g" DownloadServer.oneRecording (fun _ => 0) 5 {}).2 = .reply (.downloadToken msg) ∧ msg.expiresAt = 3605 ∧
      ∀ d, d = twoAttempts.foldl (Download.attempt msg)
          { server := some (offer "g" DownloadServer.oneRecording (fun _ => 0) 5 {}).1 } →
        d.received <+: [1, 2, 3, 4] ∧ d.broke = false ∧ (d.server.isSome → d.received = [1, 2, 3, 4]) := by
  have literal : ∀ c ∈ "g".toList, Literal c := Literal.of_all (by decide)
  have resolved : DownloadServer.resolveRecordingPath "g" DownloadServer.oneRecording = some [['g', '.', 'm', 'p', '4']] := by
    decide +kernel
  obtain ⟨msg, offered, expires, downloads⟩ := resumed_download literal (by decide) resolved (fun _ => 0) 5 {}
  have meets : ∀ a ∈ twoAttempts, a.Meets 0 [['g', '.', 'm', 'p', '4']] msg.expiresAt [1, 2, 3, 4] := by
    rw [expires]
    intro a mem
    simp only [twoAttempts, List.mem_cons, List.not_mem_nil, or_false] at mem
    obtain rfl | rfl := mem
    all_goals
      refine ⟨nofun, by decide, rfl, fun turn mem file read => ?_, fun turn mem => ?_⟩
      all_goals
        simp only [List.mem_singleton, List.mem_replicate] at mem
        first | obtain rfl := mem | obtain ⟨-, rfl⟩ := mem
      · cases read
        exact List.prefix_refl _
      · decide
  have good : Attempt.Good [1, 2, 3, 4]
      { env := fourBytes, turns := List.replicate 15 { file := some [1, 2, 3, 4], longestString := 4 } } := by
    refine ⟨fun turn mem => ?_, by simp⟩
    rw [List.mem_replicate] at mem
    exact ⟨[], mem.2 ▸ ⟨rfl, rfl, rfl, rfl⟩⟩
  refine ⟨msg, offered, expires, fun d ran => ?_⟩
  obtain ⟨front, kept, completes⟩ := downloads [1, 2, 3, 4] twoAttempts meets d ran
  exact ⟨front, kept, fun standing => completes standing _ (by simp [twoAttempts]) good⟩

end HttpDownloadServer

end SstCam
