import SstCam.Network.HttpDelivery

/-!
# Downloads over HTTP

A request with a token that opens a file gets what it asks for of the file, with the head that says so
(`download_delivered`). Which requests reach which file is decided by the tokens minted before
(`download_authorised`). Two things bring the server down (`download_throws_iff`): a request that is refused
is not checked against the length of the refusal, and a slice is read into one string, however long it is.
-/

namespace SstCam
set_option autoImplicit false

open HttpRange (Range rangeError rangeError_iff Within)

namespace HttpDownloadServer

variable {env : Surroundings} {req : HttpRequest} {s : DownloadServer} {path : Path} {content : List UInt8}
  {asked ranges : List Range} {out : Outgoing} {boundary : List Char}

/-- The response delivers these ranges of the file. -/
structure Delivers (content : List UInt8) (path : Path) (asked : List Range) (mark : List Char) (out : Outgoing) : Prop where
  body : out.response.body = []
  contentLength : out.response.contentLength = content.length
  provider : out.response.contentProvider = if content = [] then none else some path
  ranges : out.ranges = asked
  boundary : out.boundary = mark
  partType : 1 < asked.length → out.partType = kVideoType
  type : out.response.contentType =
    some (if 1 < asked.length then kMultipartType ++ mark else kVideoType)
  field : out.response.contentLengthField = some (bodyOf content mark kVideoType asked).length
  range : ∀ range, asked = [range] → out.response.contentRange = some (contentRange content.length range)

theorem slice_length {range : Range} (within : Within content.length range) :
    (slice content range).length = (range.2 - range.1 + 1).toNat := by
  obtain ⟨low, order, high⟩ := within
  rw [slice, List.length_take, List.length_drop]
  omega

/-- The length that is counted for a multipart body is the length it has. -/
theorem multipartRangesDataLength_within {contentType : List Char} (several : 1 < ranges.length) (typed : contentType ≠ [])
    (within : ∀ range ∈ ranges, Within content.length range) (fits : content.length < 2 ^ 63) :
    multipartRangesDataLength ranges boundary contentType content.length =
      (bodyOf content boundary contentType ranges).length := by
  rw [multipartRangesDataLength_eq, ← items_bytes several typed within fits, List.length_flatMap]
  congr 1
  refine List.map_congr_left fun item mem => ?_
  exact (Item.bytes_length (items_inside within fits item mem)).symm

section TypeOfParts

variable (res : HttpResponse)

@[simp] theorem typeOfParts_body : (typeOfParts ranges boundary res).body = res.body := by
  unfold typeOfParts
  split <;> rfl

@[simp] theorem typeOfParts_contentLength : (typeOfParts ranges boundary res).contentLength = res.contentLength := by
  unfold typeOfParts
  split <;> rfl

@[simp] theorem typeOfParts_contentProvider : (typeOfParts ranges boundary res).contentProvider = res.contentProvider := by
  unfold typeOfParts
  split <;> rfl

theorem typeOfParts_few (few : ¬ 1 < ranges.length) : typeOfParts ranges boundary res = res := if_neg few

end TypeOfParts

/-- Without content there is nothing to add. -/
theorem applyRanges_nil_empty {res : HttpResponse} (body : res.body = []) (zero : res.contentLength = 0) :
    applyRanges [] boundary res = some { response := res, boundary } := by
  simp [applyRanges, typeOfParts_few, body, zero]

section ApplyRanges

variable {res : HttpResponse} (body : res.body = []) (pos : 0 < res.contentLength)
include body pos

theorem applyRanges_nil_provided :
    applyRanges [] boundary res =
      some { response := { res with contentLengthField := some res.contentLength }, boundary } := by
  simp [applyRanges, typeOfParts_few, body, pos]

theorem applyRanges_singleton (range : Range) :
    applyRanges [range] boundary res =
      some
        { response :=
            { res with
              contentRange :=
                some (contentRangeField (rangeOffsetAndLength range).1 (rangeOffsetAndLength range).2 res.contentLength)
              contentLengthField := some (rangeOffsetAndLength range).2 }
          ranges := [range]
          boundary } := by
  simp [applyRanges, typeOfParts_few, body, pos]

theorem applyRanges_several (several : 1 < ranges.length) :
    applyRanges ranges boundary res =
      some
        { response :=
            { res with
              contentType := some (kMultipartType ++ boundary)
              contentLengthField :=
                some (multipartRangesDataLength ranges boundary (res.contentType.getD []) res.contentLength) }
          ranges
          boundary
          partType := res.contentType.getD [] } := by
  match ranges, several with
  | first :: second :: rest, several => simp only [applyRanges, typeOfParts, body, pos, several, if_true]

end ApplyRanges

/-- The response to the ranges of a file that is there. -/
theorem routed_provided (fits : content.length < 2 ^ 63) (checked : rangeError asked content.length = some ranges) :
    ∃ out, routed env req asked (({} : HttpResponse).setContentProvider content.length kVideoType path) = some out ∧
      Delivers content path ranges (kBoundaryPrefix ++ env.random) out ∧
      out.response.status = some (if asked = [] then 200 else 206) := by
  obtain ⟨-, same, within, -⟩ := rangeError_iff.1 checked
  have status : 200 ≤ (if asked = [] then 200 else 206) ∧ (if asked = [] then 200 else 206) < 300 := by split <;> decide
  have length : (if content.length ≠ 0 then content.length else ([] : List UInt8).length) = content.length := by
    split
    · rfl
    · simp_all
  unfold routed HttpResponse.setContentProvider
  simp only [Option.getD_none, if_pos status, length, checked, writeResponseWithContent]
  generalize (if asked = [] then 200 else 206) = status
  generalize kBoundaryPrefix ++ env.random = mark
  have provider : (if 0 < content.length then some path else none) = if content = [] then none else some path := by
    cases content <;> rfl
  rw [provider]
  match ranges, within with
  | [], _ =>
    by_cases empty : content = []
    · subst empty
      rw [applyRanges_nil_empty rfl rfl]
      refine ⟨_, rfl, ?_, rfl⟩
      constructor <;> simp [addFields, bodyOf]
    · have pos := List.length_pos_iff.2 empty
      rw [applyRanges_nil_provided rfl pos]
      refine ⟨_, rfl, ?_, rfl⟩
      constructor <;> simp [addFields, bodyOf]
  | [range], within =>
    have here := within range List.mem_cons_self
    have pos : 0 < content.length := by
      obtain ⟨low, order, high⟩ := here
      omega
    rw [applyRanges_singleton rfl pos, rangeOffsetAndLength_within here fits]
    refine ⟨_, rfl, ?_, rfl⟩
    constructor
    case range =>
      rintro _ ⟨⟩
      exact congrArg some (contentRangeField_within here fits)
    case field => simp [addFields, bodyOf, slice_length here]
    all_goals simp [addFields]
  | first :: second :: rest, within =>
    have several : 1 < (first :: second :: rest).length := by simp
    have pos : 0 < content.length := by
      obtain ⟨low, order, high⟩ := within first List.mem_cons_self
      omega
    have counted : multipartRangesDataLength (first :: second :: rest) mark kVideoType content.length = _ :=
      multipartRangesDataLength_within several (by decide) within fits
    rw [applyRanges_several rfl pos several]
    refine ⟨_, rfl, ?_, rfl⟩
    constructor
    case field =>
      simp only [addFields]
      rw [if_neg (by simp)]
      exact congrArg some counted
    all_goals simp [addFields]

/-- The response to ranges that the file does not have. -/
theorem routed_unsatisfiable {size : Nat} (refused : rangeError asked size = none) :
    routed env req asked (({} : HttpResponse).setContentProvider size kVideoType path) =
      some (writeResponse req { status := some 416, contentType := some kVideoType }) := by
  have status : 200 ≤ (if asked = [] then 200 else 206) ∧ (if asked = [] then 200 else 206) < 300 := by split <;> decide
  have length : (if size ≠ 0 then size else ([] : List UInt8).length) = size := by
    split
    · rfl
    · simp_all
  unfold routed HttpResponse.setContentProvider
  simp only [Option.getD_none, if_pos status, length, refused]

/-! ## Sending a delivery -/

section Sending

variable {turns : List Turn} {whole : List UInt8} {mark : List Char}

/-- The body goes out by its items. -/
theorem Delivers.sendResponse_eq (d : Delivers content path ranges mark out) (get : req.isHead = false)
    (within : ∀ range ∈ ranges, Within content.length range) (fits : content.length < 2 ^ 63) :
    sendResponse req out =
      if content = [] then pure true
      else handItems sendToken sendContent (bodyItems mark kVideoType content.length ranges) := by
  unfold sendResponse
  rw [if_neg (by simp [get]), if_neg (by simp [d.body])]
  by_cases empty : content = []
  · rw [if_neg (by simp [d.provider, empty]), if_pos empty]
  · rw [if_pos (by simp [d.provider, empty]), if_neg empty]
    unfold sendProvided
    rw [d.ranges, d.contentLength, d.boundary]
    rcases ranges with _ | ⟨first, _ | ⟨second, rest⟩⟩
    case nil =>
      rw [bodyItems, handItems_singleton]
    case cons.nil =>
      simp only [rangeOffsetAndLength_within (within first List.mem_cons_self) fits]
      rw [bodyItems, handItems_singleton]
    case cons.cons =>
      simp only [d.partType (by simp)]
      exact processMultipartRangesData_eq (m := WireM) mark kVideoType content.length _

/-- An empty file has no ranges. -/
theorem ranges_of_nil (within : ∀ range ∈ ranges, Within ([] : List UInt8).length range) : ranges = [] := by
  cases ranges with
  | nil => rfl
  | cons range ranges =>
    obtain ⟨low, order, high⟩ := within range List.mem_cons_self
    simp only [List.length_nil] at high
    omega

/-- On a connection that goes well the whole body arrives, while the file grows at most and each slice of it
finds the memory it needs. -/
theorem Delivers.send (d : Delivers content path ranges mark out) (get : req.isHead = false)
    (within : ∀ range ∈ ranges, Within content.length range) (fits : content.length < 2 ^ 63)
    (good : ∀ turn ∈ turns, turn.Good content)
    (room : ∀ turn ∈ turns, ∀ length ∈ wantedLengths content.length ranges, length ≤ turn.longestString)
    (enough : 12 * ranges.length + 3 ≤ turns.length) :
    ∃ left, (sendResponse req out).run ⟨[], turns⟩ = (.ok true, ⟨bodyOf content mark kVideoType ranges, left⟩) := by
  rw [d.sendResponse_eq get within fits]
  by_cases empty : content = []
  · subst empty
    obtain rfl := ranges_of_nil within
    exact ⟨turns, rfl⟩
  · rw [if_neg empty]
    have memory : ∀ item ∈ bodyItems mark kVideoType content.length ranges, ∀ turn ∈ turns,
        item.wanted ≤ turn.longestString := by
      intro item mem turn listed
      by_contra short
      obtain ⟨length, wanted, less⟩ := (bodyItems_wanted_iff within fits).1 ⟨item, mem, Nat.lt_of_not_le short⟩
      have had := room turn listed length wanted
      omega
    have sends := handItems_send [] (bodyItems_inside empty within fits) good memory (Nat.le_trans bodyItems_length enough)
    rw [List.nil_append, bodyItems_bytes (by decide) within fits] at sends
    exact ⟨_, sends⟩

/-- An exception while the body is sent comes of a slice that a turn has no memory for. -/
theorem Delivers.threw (d : Delivers content path ranges mark out)
    (within : ∀ range ∈ ranges, Within content.length range) (fits : content.length < 2 ^ 63)
    (threw : ((sendResponse req out).run ⟨[], turns⟩).1 = .error .threw) :
    req.isHead = false ∧ ∃ length ∈ wantedLengths content.length ranges, ∃ turn ∈ turns, turn.longestString < length := by
  cases head : req.isHead with
  | true =>
    rw [sendResponse, if_pos head] at threw
    cases threw
  | false =>
    rw [d.sendResponse_eq head within fits] at threw
    by_cases empty : content = []
    · rw [if_pos empty] at threw
      cases threw
    · rw [if_neg empty] at threw
      obtain ⟨item, mem, turn, listed, short⟩ := handItems_threw [] threw
      obtain ⟨length, wanted, less⟩ := (bodyItems_wanted_iff within fits).1 ⟨item, mem, short⟩
      exact ⟨rfl, length, wanted, turn, listed, less⟩

/-- On a connection that goes well, with the same memory at every turn, it comes exactly of a slice that is longer. -/
theorem Delivers.threw_iff {longest : Nat} (d : Delivers content path ranges mark out)
    (within : ∀ range ∈ ranges, Within content.length range) (fits : content.length < 2 ^ 63)
    (good : ∀ turn ∈ turns, turn.Good content) (same : ∀ turn ∈ turns, turn.longestString = longest)
    (enough : 12 * ranges.length + 3 ≤ turns.length) :
    ((sendResponse req out).run ⟨[], turns⟩).1 = .error .threw ↔
      req.isHead = false ∧ ∃ length ∈ wantedLengths content.length ranges, longest < length := by
  constructor
  · intro threw
    obtain ⟨get, length, wanted, turn, listed, short⟩ := d.threw within fits threw
    rw [same turn listed] at short
    exact ⟨get, length, wanted, short⟩
  · rintro ⟨get, short⟩
    have written : content ≠ [] := by
      rintro rfl
      obtain rfl := ranges_of_nil within
      simp [wantedLengths] at short
    rw [d.sendResponse_eq get within fits, if_neg written]
    exact handItems_starved [] (bodyItems_inside written within fits) good same ((bodyItems_wanted_iff within fits).2 short)
      (Nat.le_trans bodyItems_length enough)

/-- Whatever happens on the way, what arrives of one slice is a front of it. -/
theorem Delivers.send_prefix (d : Delivers content path ranges mark out) (one : ranges.length ≤ 1)
    (within : ∀ range ∈ ranges, Within content.length range) (fits : content.length < 2 ^ 63) (grown : content <+: whole)
    (files : ∀ turn ∈ turns, ∀ file, turn.file = some file → file <+: whole) :
    ((sendResponse req out).run ⟨[], turns⟩).2.sent <+: bodyOf content mark kVideoType ranges := by
  have single : ∀ {offset length : Nat}, offset + length ≤ content.length →
      ((sendContent offset length).run ⟨[], turns⟩).2.sent <+: (content.drop offset).take length := by
    intro offset length inside
    obtain ⟨more, rfl⟩ := grown
    have sent : (writeContent offset (offset + length) turns).sent <+: _ := (writeContent_front files).1
    rw [Nat.add_sub_cancel_left, List.drop_append_of_le_length (by omega),
      List.take_append_of_le_length (by rw [List.length_drop]; omega)] at sent
    exact sent
  cases head : req.isHead with
  | true =>
    rw [sendResponse, if_pos head]
    exact List.nil_prefix
  | false =>
    rw [d.sendResponse_eq head within fits]
    split
    · exact List.nil_prefix
    · match ranges, within, one with
      | [], _, _ =>
        have all := single (Nat.le_of_eq (Nat.zero_add content.length))
        rw [List.drop_zero, List.take_length] at all
        rw [bodyItems, handItems_singleton]
        exact all
      | [range], within, _ =>
        obtain ⟨low, order, high⟩ := within range List.mem_cons_self
        rw [bodyItems, handItems_singleton]
        exact single (by omega)

end Sending

/-! ## What a request gets -/

/-- The token that a request carries. -/
def tokenOf (req : HttpRequest) : String := String.ofList (extractBearer req)

/-- The file that the request's token opens. -/
def opened (env : Surroundings) (req : HttpRequest) (s : DownloadServer) : Option Path :=
  if extractBearer req = [] then none else (s.validateToken (tokenOf req) env.now).2

theorem getRecording_opened (opens : opened env req s = some path) {size : Nat} (present : env.fileSize path = some size)
    (res : HttpResponse) : (getRecording env req res s).2 = res.setContentProvider size kVideoType path := by
  unfold opened at opens
  unfold getRecording
  split at opens
  · cases opens
  case isFalse carries =>
    simp only [if_neg carries]
    rw [← tokenOf, opens]
    simp only [present]

/-- The status and the text of a refusal. -/
def refusal (env : Surroundings) (req : HttpRequest) (s : DownloadServer) : Option (Nat × List Char) :=
  match opened env req s with
  | none => some (kHttpUnauthorized, "unauthorized".toList)
  | some path => if env.fileSize path = none then some (kHttpNotFound, "not found".toList) else none

theorem getRecording_refused {status : Nat} {text : List Char} (refused : refusal env req s = some (status, text))
    (res : HttpResponse) :
    (getRecording env req res s).2 = { res with status := some status }.setContent text kTextType := by
  have answer : (if extractBearer req = [] then (s, none) else s.validateToken (String.ofList (extractBearer req)) env.now).2 =
      opened env req s := by
    unfold opened
    split <;> rfl
  unfold refusal at refused
  unfold getRecording
  simp only [answer]
  cases opens : opened env req s with
  | none =>
    rw [opens] at refused
    cases refused
    rfl
  | some path =>
    simp only [opens] at refused ⊢
    split at refused
    case isTrue missing =>
      cases refused
      rw [missing]
    case isFalse => cases refused

theorem processRequest_routed (route : matchesRoute req.path = true) (parsed : askedRanges req = some asked) :
    (processRequest env req s).2 = routed env req asked (getRecording env req {} s).2 := by
  rw [processRequest, parsed]
  simp only [route, if_true]

/-- The response to ranges that the file has. -/
theorem processRequest_delivers (route : matchesRoute req.path = true) (opens : opened env req s = some path)
    (present : env.fileSize path = some content.length) (parsed : askedRanges req = some asked)
    (checked : rangeError asked content.length = some ranges) :
    ∃ out, (processRequest env req s).2 = some out ∧ Delivers content path ranges (kBoundaryPrefix ++ env.random) out ∧
      out.response.status = some (if asked = [] then 200 else 206) := by
  rw [processRequest_routed route parsed, getRecording_opened opens present]
  exact routed_provided (env.fileSize_lt path content.length present) checked

/-- **A download.** A request whose token opens a file gets the ranges it asks for, if they lie in the
file and ascend: all of the body that the head announces, on a connection that goes well and with the memory
for each slice, and of one range never anything but a front. For other ranges it gets no content at all. -/
theorem download_delivered (route : matchesRoute req.path = true) (opens : opened env req s = some path)
    (present : env.fileSize path = some content.length) (parsed : askedRanges req = some asked) :
    (∀ ranges, rangeError asked content.length = some ranges →
      ∃ out, (processRequest env req s).2 = some out ∧ out.response.status = some (if asked = [] then 200 else 206) ∧
        Delivers content path ranges (kBoundaryPrefix ++ env.random) out ∧
        (∀ turns : List Turn, req.isHead = false → (∀ turn ∈ turns, turn.Good content) →
          (∀ turn ∈ turns, ∀ length ∈ wantedLengths content.length ranges, length ≤ turn.longestString) →
          12 * ranges.length + 3 ≤ turns.length →
          ∃ left, (sendResponse req out).run ⟨[], turns⟩ =
            (.ok true, ⟨bodyOf content (kBoundaryPrefix ++ env.random) kVideoType ranges, left⟩)) ∧
        ∀ (turns : List Turn) (whole : List UInt8), ranges.length ≤ 1 → content <+: whole →
          (∀ turn ∈ turns, ∀ file, turn.file = some file → file <+: whole) →
          ((sendResponse req out).run ⟨[], turns⟩).2.sent <+: bodyOf content (kBoundaryPrefix ++ env.random) kVideoType ranges) ∧
    (rangeError asked content.length = none →
      ∃ out, (processRequest env req s).2 = some out ∧ out.response.status = some 416 ∧
        out.response.contentLengthField = some 0 ∧
        ∀ turns, (sendResponse req out).run ⟨[], turns⟩ = (.ok true, ⟨[], turns⟩)) := by
  have fits := env.fileSize_lt path content.length present
  constructor
  · intro ranges checked
    have within := (rangeError_iff.1 checked).2.2.1
    obtain ⟨out, made, d, status⟩ := processRequest_delivers route opens present parsed checked
    exact ⟨out, made, status, d, fun turns get good room enough => d.send get within fits good room enough,
      fun turns whole one grown files => d.send_prefix one within fits grown files⟩
  · intro refused
    rw [processRequest_routed route parsed, getRecording_opened opens present, routed_unsatisfiable refused]
    refine ⟨_, rfl, rfl, by simp [writeResponse, addFields], fun turns => ?_⟩
    unfold sendResponse
    split
    · rfl
    · rw [if_neg (by simp [writeResponse, addFields]), if_neg (by simp [writeResponse, addFields])]
      rfl

/-- One file of four bytes. -/
def fourBytes : Surroundings where
  now := 64
  fileSize path := if path = [['g', '.', 'm', 'p', '4']] then some 4 else none
  fileSize_lt path size present := by
    split at present <;> cases present
    decide

/-- A request for the middle of it. -/
def middle : HttpRequest where
  path := "/recordings/g".toList
  authorization := some "Bearer t".toList
  range := some "bytes=1-2".toList

/-- The middle arrives in one turn of the loop. -/
theorem middle_delivered :
    ∃ out,
      (processRequest fourBytes middle (DownloadServer.mintToken "g" 60 DownloadServer.oneRecording "t" 5 {}).1).2 = some out ∧
      out.response.status = some 206 ∧
      ∃ left, (sendResponse middle out).run ⟨[], List.replicate 15 { file := some [1, 2, 3, 4], longestString := 2 }⟩ =
        (.ok true, ⟨[2, 3], left⟩) := by
  have served := @download_delivered fourBytes middle (DownloadServer.mintToken "g" 60 DownloadServer.oneRecording "t" 5 {}).1
    [['g', '.', 'm', 'p', '4']] [1, 2, 3, 4] [(1, 2)] (by decide +kernel) (by decide +kernel) (by decide +kernel)
    (by decide +kernel)
  obtain ⟨out, made, status, -, sends, -⟩ := served.1 [(1, 2)] (by decide)
  refine ⟨out, made, status, sends _ rfl ?_ ?_ (by simp)⟩
  · intro turn mem
    rw [List.mem_replicate] at mem
    exact ⟨[], mem.2 ▸ ⟨rfl, rfl, rfl, rfl⟩⟩
  · intro turn mem
    rw [List.mem_replicate] at mem
    rw [mem.2]
    decide

/-! ## Refusals -/

theorem substr_eq_none_iff {data : List UInt8} {offset length : Nat} :
    substr data offset length = none ↔ data.length < offset := by
  unfold substr
  split
  · exact ⟨nofun, fun far => by omega⟩
  · exact ⟨fun _ => by omega, fun _ => rfl⟩

/-- `substr` throws where there is a body and a range begins behind it. -/
theorem applyRanges_eq_none_iff {res : HttpResponse} :
    applyRanges ranges boundary res = none ↔
      res.body ≠ [] ∧ ∃ range ∈ ranges, res.body.length < (rangeOffsetAndLength range).1 := by
  have same : (typeOfParts ranges boundary res).body = res.body := typeOfParts_body res
  rw [← same]
  unfold applyRanges
  generalize typeOfParts ranges boundary res = typed
  simp only
  split
  case isTrue body =>
    refine iff_of_false ?_ (fun far => far.1 body)
    split
    · split <;> exact nofun
    · exact nofun
  case isFalse body =>
    match ranges with
    | [] => simp
    | [range] => simp [substr_eq_none_iff, body]
    | first :: second :: rest =>
      rw [Option.map_eq_none_iff, makeMultipartRangesData_eq_none_iff]
      exact ⟨fun far => ⟨body, far⟩, And.right⟩

theorem applyRanges_contentProvider {res : HttpResponse} (made : applyRanges ranges boundary res = some out) :
    out.response.contentProvider = res.contentProvider := by
  have kept : (typeOfParts ranges boundary res).contentProvider = res.contentProvider := typeOfParts_contentProvider res
  rw [← kept]
  unfold applyRanges at made
  simp only at made
  generalize typeOfParts ranges boundary res = typed at made ⊢
  split at made
  · split at made
    · split at made <;> obtain rfl := Option.some.inj made <;> rfl
    · obtain rfl := Option.some.inj made
      rfl
  · split at made
    · obtain rfl := Option.some.inj made
      rfl
    all_goals
      obtain ⟨cut, -, rfl⟩ := Option.map_eq_some_iff.1 made
      rfl

/-- A refusal is written with the ranges as the header has them. -/
theorem routed_refused {status : Nat} {text : List Char} (refused : refusal env req s = some (status, text)) :
    routed env req asked (({ status := some status } : HttpResponse).setContent text kTextType) =
      writeResponseWithContent req asked (kBoundaryPrefix ++ env.random)
        (({ status := some status } : HttpResponse).setContent text kTextType) := by
  have failed : ¬ (200 ≤ status ∧ status < 300) := by
    unfold refusal at refused
    split at refused
    · cases refused
      decide
    · split at refused <;> cases refused
      decide
  unfold routed HttpResponse.setContent
  simp only [Option.getD_some, if_neg failed]

theorem refusal_text {status : Nat} {text : List Char} (refused : refusal env req s = some (status, text)) :
    text ≠ [] ∧ text.length < 2 ^ 63 := by
  unfold refusal at refused
  split at refused
  · cases refused
    decide
  · split at refused <;> cases refused
    decide

/-- A response that comes with the file never throws. -/
theorem routed_provided_ne_none (size : Nat) :
    routed env req asked (({} : HttpResponse).setContentProvider size kVideoType path) ≠ none := by
  unfold routed HttpResponse.setContentProvider
  simp only
  generalize (if 200 ≤ _ ∧ _ < 300 then _ else _ : Option (List Range)) = checked
  cases checked with
  | none => exact nofun
  | some ranges =>
    intro throws
    have none := (applyRanges_eq_none_iff.1 (Option.map_eq_none_iff.1 throws)).1
    exact none rfl

/-- A request for a recording that is refused, with a range that begins behind the text of the refusal or
leaves its begin out. -/
def BehindRefusal (env : Surroundings) (req : HttpRequest) (s : DownloadServer) : Prop :=
  matchesRoute req.path = true ∧
    ∃ asked status text, askedRanges req = some asked ∧ refusal env req s = some (status, text) ∧
      ∃ range ∈ asked, range.1 = -1 ∨ (text.length : Int) < range.1

/-- A refusal may throw. -/
theorem processRequest_throws_iff : (processRequest env req s).2 = none ↔ BehindRefusal env req s := by
  unfold BehindRefusal
  cases parsed : askedRanges req with
  | none => simp [processRequest, parsed]
  | some asked =>
    by_cases route : matchesRoute req.path = true
    · have bounds : ∀ range ∈ asked, -1 ≤ range.1 ∧ range.1 < 2 ^ 63 := by
        unfold askedRanges at parsed
        split at parsed
        · cases parsed
          exact nofun
        · exact HttpRange.parseRangeHeader_bounds parsed
      rw [processRequest_routed route parsed]
      cases refused : refusal env req s with
      | none =>
        refine iff_of_false (fun none => ?_) (by simp)
        unfold refusal at refused
        split at refused
        · cases refused
        case h_2 path opens =>
          split at refused
          · cases refused
          case isFalse there =>
            obtain ⟨size, present⟩ := Option.ne_none_iff_exists'.1 there
            rw [getRecording_opened opens present] at none
            exact routed_provided_ne_none size none
      | some refused' =>
        obtain ⟨status, text⟩ := refused'
        obtain ⟨written, short⟩ := refusal_text refused
        have body : asciiBytes text ≠ [] := fun empty => written (List.map_eq_nil_iff.1 empty)
        rw [getRecording_refused refused, routed_refused refused, writeResponseWithContent, Option.map_eq_none_iff,
          applyRanges_eq_none_iff]
        have far : ∀ range ∈ asked, text.length < (rangeOffsetAndLength range).1 ↔
            range.1 = -1 ∨ (text.length : Int) < range.1 := by
          intro range mem
          have bound := bounds range mem
          unfold rangeOffsetAndLength
          omega
        constructor
        · rintro ⟨-, range, mem, behind⟩
          rw [HttpResponse.setContent, asciiBytes_length, far range mem] at behind
          exact ⟨route, asked, status, text, rfl, rfl, range, mem, behind⟩
        · rintro ⟨-, _, _, _, ⟨⟩, ⟨⟩, range, mem, behind⟩
          refine ⟨body, range, mem, ?_⟩
          rw [HttpResponse.setContent, asciiBytes_length, far range mem]
          exact behind
    · simp [processRequest, parsed, route]

/-- Anyone may send this. -/
example : (processRequest fourBytes { path := "/recordings/".toList, range := some "bytes=13-".toList } {}).2.isNone = true := by
  decide +kernel

/-! ## Runs -/

/-- What happens to the server: a token is minted, or a request comes in. -/
inductive ServerEvent where
  | mint (recordingId : String) (ttlSeconds : Nat) (root : Option (List FileNode)) (generated : String) (now : Nat)
  | request (env : Surroundings) (req : HttpRequest)

def serve (s : DownloadServer) : ServerEvent → DownloadServer
  | .mint recordingId ttlSeconds root generated now => (s.mintToken recordingId ttlSeconds root generated now).1
  | .request env req => (processRequest env req s).1

/-- The calls that an event makes on the tokens: a request asks about the token it carries, if it gets as far. -/
def ServerEvent.tokenCalls : ServerEvent → List TokenCall
  | .mint recordingId ttlSeconds root generated now => [.mint recordingId ttlSeconds root generated now]
  | .request env req =>
    if askedRanges req ≠ none ∧ matchesRoute req.path = true ∧ extractBearer req ≠ [] then
      [.validate (tokenOf req) env.now]
    else []

theorem getRecording_tokens (res : HttpResponse) :
    (getRecording env req res s).1 = if extractBearer req = [] then s else (s.validateToken (tokenOf req) env.now).1 := by
  have answer : (if extractBearer req = [] then (s, none) else s.validateToken (String.ofList (extractBearer req)) env.now).1 =
      if extractBearer req = [] then s else (s.validateToken (tokenOf req) env.now).1 := by
    split <;> rfl
  unfold getRecording
  simp only
  rw [← answer]
  split
  · rfl
  · split <;> rfl

/-- An event does to the tokens what its calls do. -/
theorem serve_eq (s : DownloadServer) (event : ServerEvent) : serve s event = event.tokenCalls.foldl DownloadServer.step s := by
  cases event with
  | mint => rfl
  | request env req =>
    simp only [serve, processRequest, ServerEvent.tokenCalls]
    cases parsed : askedRanges req with
    | none => simp
    | some asked =>
      by_cases route : matchesRoute req.path = true
      · by_cases carries : extractBearer req = []
        · simp [route, getRecording_tokens, carries]
        · simp [route, getRecording_tokens, carries, DownloadServer.step]
      · simp [route]

theorem serve_run (events : List ServerEvent) :
    events.foldl serve {} = (events.flatMap ServerEvent.tokenCalls).foldl DownloadServer.step {} := by
  have run : ∀ s : DownloadServer,
      events.foldl serve s = (events.flatMap ServerEvent.tokenCalls).foldl DownloadServer.step s := by
    induction events with
    | nil => exact fun s => rfl
    | cons event events ih =>
      intro s
      rw [List.foldl_cons, List.flatMap_cons, List.foldl_append, ← serve_eq, ih]
  exact run {}

/-- The file of a response to ranges that pass. -/
theorem routed_provider {size : Nat} (fits : size < 2 ^ 63) (checked : rangeError asked size = some ranges) :
    ∃ out, routed env req asked (({} : HttpResponse).setContentProvider size kVideoType path) = some out ∧
      out.response.contentProvider = if size = 0 then none else some path := by
  have long : (List.replicate size (0 : UInt8)).length = size := List.length_replicate
  rw [← long] at fits checked
  obtain ⟨out, made, d, -⟩ := routed_provided fits checked
  rw [long] at made
  exact ⟨out, made, by simp [d.provider, List.replicate_eq_nil_iff]⟩

/-- A file goes out only with a response that was asked for it. -/
theorem processRequest_provides_iff :
    (∃ out, (processRequest env req s).2 = some out ∧ out.response.contentProvider = some path) ↔
      matchesRoute req.path = true ∧ opened env req s = some path ∧
        ∃ size asked, env.fileSize path = some size ∧ 0 < size ∧ askedRanges req = some asked ∧
          (rangeError asked size).isSome = true := by
  constructor
  · rintro ⟨out, made, provides⟩
    cases parsed : askedRanges req with
    | none =>
      simp only [processRequest, parsed] at made
      cases made
      cases provides
    | some asked =>
      by_cases route : matchesRoute req.path = true
      · rw [processRequest_routed route parsed] at made
        refine ⟨route, ?_⟩
        cases refused : refusal env req s with
        | some refused' =>
          rw [getRecording_refused refused, routed_refused refused] at made
          obtain ⟨bare, applied, rfl⟩ := Option.map_eq_some_iff.1 made
          have kept := applyRanges_contentProvider applied
          exact absurd (kept.symm.trans provides) nofun
        | none =>
          unfold refusal at refused
          split at refused
          · cases refused
          case h_2 other opens =>
            split at refused
            · cases refused
            case isFalse there =>
              obtain ⟨size, present⟩ := Option.ne_none_iff_exists'.1 there
              rw [getRecording_opened opens present] at made
              cases checked : rangeError asked size with
              | none =>
                rw [routed_unsatisfiable checked] at made
                cases made
                cases provides
              | some ranges =>
                obtain ⟨served, made', provider⟩ := routed_provider (env.fileSize_lt other size present) checked
                obtain rfl := Option.some.inj (made'.symm.trans made)
                rw [provider] at provides
                split at provides
                case isTrue => cases provides
                case isFalse pos =>
                  obtain rfl := Option.some.inj provides
                  exact ⟨opens, size, asked, present, Nat.pos_of_ne_zero pos, rfl, by simp [checked]⟩
      · simp only [processRequest, parsed, route] at made
        cases made
        cases provides
  · rintro ⟨route, opens, size, asked, present, pos, parsed, passes⟩
    obtain ⟨ranges, checked⟩ := Option.isSome_iff_exists.1 passes
    obtain ⟨out, made, provider⟩ := routed_provider (env.fileSize_lt path size present) checked
    rw [processRequest_routed route parsed, getRecording_opened opens present]
    exact ⟨out, made, by rw [provider, if_neg (by omega)]⟩

/-- **Who gets a file.** After any run of mints and requests, a request is answered out of a file exactly if
it carries a token that was minted for the file and has not expired, and asks for what the file has. -/
theorem download_authorised {events : List ServerEvent}
    (orderly : Orderly (events.flatMap ServerEvent.tokenCalls ++ [.validate (tokenOf req) env.now])) :
    (∃ out, (processRequest env req (events.foldl serve {})).2 = some out ∧ out.response.contentProvider = some path) ↔
      matchesRoute req.path = true ∧ extractBearer req ≠ [] ∧
        (∃ g ∈ grants (events.flatMap ServerEvent.tokenCalls),
          g.token = tokenOf req ∧ g.path = path ∧ env.now < g.mintedAt + g.ttlSeconds) ∧
        ∃ size asked, env.fileSize path = some size ∧ 0 < size ∧ askedRanges req = some asked ∧
          (rangeError asked size).isSome = true := by
  rw [processRequest_provides_iff, ← DownloadServer.validateToken_iff orderly, ← serve_run]
  unfold opened
  by_cases carries : extractBearer req = []
  · simp [carries]
  · simp [carries]

/-- A request in the last second of a token. -/
theorem minted_provides :
    ∃ out, (processRequest fourBytes middle
        ([.mint "g" 60 DownloadServer.oneRecording "t" 5, .request fourBytes middle].foldl serve {})).2 = some out ∧
      out.response.contentProvider = some [['g', '.', 'm', 'p', '4']] := by
  have orderly : Orderly ([ServerEvent.mint "g" 60 DownloadServer.oneRecording "t" 5, .request fourBytes middle].flatMap
      ServerEvent.tokenCalls ++ [.validate (tokenOf middle) fourBytes.now]) :=
    ⟨by decide +kernel, by decide +kernel, by decide +kernel⟩
  refine (download_authorised orderly).2 ⟨by decide +kernel, by decide +kernel, ?_, 4, [(1, 2)], ?_⟩
  · exact ⟨⟨"t", [['g', '.', 'm', 'p', '4']], 5, 60⟩, by decide +kernel, by decide +kernel, rfl, by decide⟩
  · exact ⟨by decide +kernel, by decide, by decide +kernel, by decide⟩

/-! ## Exceptions -/

/-- The request is answered with slices of a file, and one of them has this length. -/
def Wants (env : Surroundings) (req : HttpRequest) (s : DownloadServer) (length : Nat) : Prop :=
  req.isHead = false ∧ matchesRoute req.path = true ∧
    ∃ path size asked ranges, opened env req s = some path ∧ env.fileSize path = some size ∧ askedRanges req = some asked ∧
      rangeError asked size = some ranges ∧ length ∈ wantedLengths size ranges

/-- Only a file is sent with exceptions. -/
theorem sendResponse_unprovided {turns : List Turn} (bare : out.response.contentProvider = none) :
    ((sendResponse req out).run ⟨[], turns⟩).1 ≠ .error .threw := by
  unfold sendResponse
  split
  · exact nofun
  · split
    · cases turns <;> exact nofun
    · rw [if_neg (by simp [bare])]
      exact nofun

/-- An exception leaves before the sending or out of it. -/
theorem respond_threw_iff {turns : List Turn} : (respond env req turns s).2.1 = .error .threw ↔ BehindRefusal env req s ∨
    ∃ out, (processRequest env req s).2 = some out ∧ ((sendResponse req out).run ⟨[], turns⟩).1 = .error .threw := by
  rw [← processRequest_throws_iff]
  unfold respond
  rcases processRequest env req s with ⟨s', _ | out⟩
  · simp
  · simp

/-- A sending that throws wants more of a turn than it has the memory for. -/
theorem wants_of_threw {turns : List Turn} (made : (processRequest env req s).2 = some out)
    (threw : ((sendResponse req out).run ⟨[], turns⟩).1 = .error .threw) :
    ∃ length, Wants env req s length ∧ ∃ turn ∈ turns, turn.longestString < length := by
  cases provides : out.response.contentProvider with
  | none => exact absurd threw (sendResponse_unprovided provides)
  | some path =>
    obtain ⟨route, opens, size, asked, present, pos, parsed, passes⟩ :=
      processRequest_provides_iff.1 ⟨out, made, provides⟩
    obtain ⟨ranges, checked⟩ := Option.isSome_iff_exists.1 passes
    -- any content of this size will do: what is sent of it does not matter
    have long : (List.replicate size (0 : UInt8)).length = size := List.length_replicate
    have fits := env.fileSize_lt path size present
    rw [← long] at present checked fits
    obtain ⟨out', made', d, -⟩ := processRequest_delivers route opens present parsed checked
    obtain rfl := Option.some.inj (made'.symm.trans made)
    obtain ⟨get, length, wanted, starved⟩ := d.threw (rangeError_iff.1 checked).2.2.1 fits threw
    exact ⟨length, ⟨get, route, path, _, asked, ranges, opens, present, parsed, checked, wanted⟩, starved⟩

/-- **What brings the server down.** Whatever the connection does, an exception that leaves the answer to a
request comes of a range behind a refusal, or of a slice that a turn has no memory for; and on a connection
that goes well, with the same memory at every turn, exactly of these. -/
theorem download_throws_iff (env : Surroundings) (req : HttpRequest) (s : DownloadServer) (turns : List Turn) :
    ((respond env req turns s).2.1 = .error .threw →
        BehindRefusal env req s ∨ ∃ length, Wants env req s length ∧ ∃ turn ∈ turns, turn.longestString < length) ∧
      ∀ longest, (∀ turn ∈ turns, turn.longestString = longest) → 12 * kRangeMaxCount + 3 ≤ turns.length →
        (∀ path size, opened env req s = some path → env.fileSize path = some size →
          ∃ content : List UInt8, content.length = size ∧ ∀ turn ∈ turns, turn.Good content) →
        ((respond env req turns s).2.1 = .error .threw ↔
          BehindRefusal env req s ∨ ∃ length, Wants env req s length ∧ longest < length) := by
  rw [respond_threw_iff]
  refine ⟨?_, fun longest same enough goes => or_congr_right ⟨?_, ?_⟩⟩
  · rintro (behind | ⟨out, made, threw⟩)
    · exact .inl behind
    · exact .inr (wants_of_threw made threw)
  · rintro ⟨out, made, threw⟩
    obtain ⟨length, wants, turn, listed, starved⟩ := wants_of_threw made threw
    rw [same turn listed] at starved
    exact ⟨length, wants, starved⟩
  · rintro ⟨length, ⟨get, route, path, size, asked, ranges, opens, present, parsed, checked, wanted⟩, starved⟩
    obtain ⟨content, rfl, good⟩ := goes path size opens present
    obtain ⟨few, normal, within, -⟩ := rangeError_iff.1 checked
    obtain ⟨out, made, d, -⟩ := processRequest_delivers route opens present parsed checked
    have fits := env.fileSize_lt path content.length present
    have count : ranges.length = asked.length := by rw [normal, List.length_map]
    exact ⟨out, made, (d.threw_iff within fits good same (by omega)).2 ⟨get, length, wanted, starved⟩⟩

/-- The middle of the file where not even two bytes can be had. -/
theorem middle_throws :
    (respond fourBytes middle (List.replicate 12291 { file := some [1, 2, 3, 4], longestString := 1 })
      (DownloadServer.mintToken "g" 60 DownloadServer.oneRecording "t" 5 {}).1).2.1 = .error .threw := by
  refine ((download_throws_iff _ _ _ _).2 1 ?_ ?_ ?_).2 (.inr ⟨2, ?_, by decide⟩)
  · intro turn mem
    rw [(List.mem_replicate.1 mem).2]
  · rw [List.length_replicate]
    decide
  · intro path size opens present
    refine ⟨[1, 2, 3, 4], ?_, fun turn mem => ⟨[], (List.mem_replicate.1 mem).2 ▸ ⟨rfl, rfl, rfl, rfl⟩⟩⟩
    simp only [fourBytes] at present
    split at present <;> cases present
    rfl
  · exact ⟨rfl, by decide +kernel, _, 4, [(1, 2)], [(1, 2)], rfl, by decide +kernel, by decide +kernel, by decide, by decide⟩

end HttpDownloadServer

end SstCam
