import SstCam.Network.DownloadServer
import SstCam.Network.HttpRange

/-!
# HttpDownloadServer

The request handler of `adapters/network/http/http-download-server.cpp` and what the HTTP library does
around it: the ranges, the head of the response, and the loop that sends a file. Assertions are compiled
out, as in a release build. What a request finds is an input: the time, the sizes of the files, the
random part of a boundary; and for the sending, turn by turn, the connection, the file and the memory.
A character of a request stands for a byte.
-/

namespace SstCam
set_option autoImplicit false

open HttpRange (Range parseRangeHeader rangeError)

def kBearerPrefix : List Char := "Bearer ".toList

def kHttpUnauthorized : Nat := 401

def kHttpNotFound : Nat := 404

/-- `"/recordings/(.*)"` up to its group. -/
def kRecordingsPath : List Char := "/recordings/".toList

def kBoundaryPrefix : List Char := "--cpp-httplib-multipart-data-".toList

def kVideoType : List Char := "video/mp4".toList

def kTextType : List Char := "text/plain".toList

def kRangeUnit : List Char := "bytes".toList

def kMultipartType : List Char := "multipart/byteranges; boundary=".toList

def kCrLf : List Char := ['\r', '\n']

/-- The bytes of an ASCII text. -/
def asciiBytes (text : List Char) : List UInt8 := text.map fun c => UInt8.ofNat c.toNat

/-- `CPPHTTPLIB_REQUEST_URI_MAX_LENGTH`. -/
def kRequestUriMaxLength : Nat := 8192

def kMethods : List (List Char) :=
  ["GET".toList, "HEAD".toList, "POST".toList, "PUT".toList, "DELETE".toList, "CONNECT".toList, "OPTIONS".toList,
    "TRACE".toList, "PATCH".toList, "PRI".toList]

def kVersions : List (List Char) := ["HTTP/1.1".toList, "HTTP/1.0".toList]

/-- A `GET`, or a `HEAD`; of a header that is repeated the first counts. -/
structure HttpRequest where
  isHead : Bool := false
  path : List Char
  authorization : Option (List Char) := none
  range : Option (List Char) := none

namespace HttpRequest

/-- `is_hex`. -/
def hexValue (c : Char) : Option Nat :=
  if '0' ≤ c ∧ c ≤ '9' then some (c.toNat - '0'.toNat)
  else if 'A' ≤ c ∧ c ≤ 'F' then some (c.toNat - 'A'.toNat + 10)
  else if 'a' ≤ c ∧ c ≤ 'f' then some (c.toNat - 'a'.toNat + 10)
  else none

/-- `from_hex_to_i`. -/
def fromHex (count : Nat) (s : List Char) : Option Nat :=
  if count ≤ s.length then (s.take count).foldlM (fun val c => (hexValue c).map (val * 16 + ·)) 0 else none

/-- `to_utf8` of a number of four digits; nothing for half of a surrogate pair. -/
def toUtf8 (code : Nat) : List Char :=
  if code < 0x80 then [Char.ofNat code]
  else if code < 0x800 then [Char.ofNat (0xC0 + code / 64), Char.ofNat (0x80 + code % 64)]
  else if 0xD800 ≤ code ∧ code < 0xE000 then []
  else [Char.ofNat (0xE0 + code / 4096), Char.ofNat (0x80 + code / 64 % 64), Char.ofNat (0x80 + code % 64)]

/-- The escape that goes on behind a `%`: what it stands for, and how long it is. -/
def escape : List Char → Option (List Char × Nat)
  | 'u' :: s => (fromHex 4 s).map fun code => (toUtf8 code, 5)
  | s => (fromHex 2 s).map fun code => ([Char.ofNat code], 2)

/-- `decode_url`, where a plus stays; the first of the characters have been decoded already. -/
def decodeUrl : Nat → List Char → List Char
  | _, [] => []
  | decoded + 1, _ :: s => decodeUrl decoded s
  | 0, c :: s =>
    match if c = '%' then escape s else none with
    | some (text, length) => text ++ decodeUrl length s
    | none => c :: decodeUrl 0 s

/-- The path of a target, without its fragment and its query. -/
def targetPath (target : List Char) : List Char :=
  let target := target.takeWhile (· != '#')
  let pieces := [target.takeWhile (· != '?'), (target.dropWhile (· != '?')).drop 1]
  decodeUrl 0 (((pieces.map HttpRange.trim).find? fun piece => !piece.isEmpty).getD [])

/-- `parse_request_line`: the method and the path. -/
def parseRequestLine (line : List Char) : Option (List Char × List Char) :=
  match HttpRange.split ' ' line with
  | [method, target, version] =>
    if kMethods.contains method && kVersions.contains version then some (method, targetPath target) else none
  | _ => none

/-- The request of a line, without its end, and of its headers; nothing where the line alone is answered. -/
def ofLine (line : List Char) (authorization range : Option (List Char)) : Option HttpRequest :=
  if kRequestUriMaxLength < line.length + 2 then none
  else
    match parseRequestLine line with
    | none => none
    | some (method, path) =>
      if method = "GET".toList ∨ method = "HEAD".toList then
        some { isHead := decide (method = "HEAD".toList), path, authorization, range }
      else none

end HttpRequest

structure HttpResponse where
  status : Option Nat := none
  contentType : Option (List Char) := none
  contentRange : Option (List Char) := none
  contentLengthField : Option Nat := none
  acceptRanges : Option (List Char) := none
  body : List UInt8 := []
  /-- `content_length_`. -/
  contentLength : Nat := 0
  /-- The file that the content provider reads. -/
  contentProvider : Option Path := none

namespace HttpResponse

def setContent (text type : List Char) (res : HttpResponse) : HttpResponse :=
  { res with body := asciiBytes text, contentType := some type }

/-- Without a length there is no provider. -/
def setContentProvider (length : Nat) (type : List Char) (file : Path) (res : HttpResponse) : HttpResponse :=
  { res with
    contentType := some type
    contentLength := length
    contentProvider := if 0 < length then some file else res.contentProvider }

end HttpResponse

namespace HttpDownloadServer

/-- What a request finds. -/
structure Surroundings where
  now : Nat
  /-- `fs::file_size`, nothing on an error. -/
  fileSize : Path → Option Nat
  /-- An `off_t` holds it. -/
  fileSize_lt : ∀ path size, fileSize path = some size → size < 2 ^ 63
  /-- `random_string`. -/
  random : List Char := []

def extractBearer (req : HttpRequest) : List Char :=
  match req.authorization with
  | none => []
  | some auth => if kBearerPrefix <+: auth then auth.drop kBearerPrefix.length else []

/-- The handler of `/recordings/(.*)`. -/
def getRecording (env : Surroundings) (req : HttpRequest) (res : HttpResponse) (s : DownloadServer) :
    DownloadServer × HttpResponse :=
  let token := extractBearer req
  let answer := if token = [] then (s, none) else s.validateToken (String.ofList token) env.now
  match answer.2 with
  | none => (answer.1, { res with status := some kHttpUnauthorized }.setContent "unauthorized".toList kTextType)
  | some path =>
    match env.fileSize path with
    | none => (answer.1, { res with status := some kHttpNotFound }.setContent "not found".toList kTextType)
    | some size => (answer.1, res.setContentProvider size kVideoType path)

/-- The path matches the route; `.` is no line break. -/
def matchesRoute (path : List Char) : Bool :=
  kRecordingsPath.isPrefixOf path && (path.drop kRecordingsPath.length).all fun c => c != '\n' && c != '\r'

/-- `get_range_offset_and_length`; both are a `size_t`. -/
def rangeOffsetAndLength (range : Range) : Nat × Nat :=
  ((range.1 % 2 ^ 64).toNat, ((range.2 - range.1 + 1) % 2 ^ 64).toNat)

/-- `make_content_range_header_field`. -/
def contentRangeField (offset length contentLength : Nat) : List Char :=
  "bytes ".toList ++ Nat.toDigits 10 offset ++ ['-'] ++
    Nat.toDigits 10 ((offset + length + (2 ^ 64 - 1)) % 2 ^ 64) ++ ['/'] ++ Nat.toDigits 10 contentLength

/-- `substr`, nothing where it throws. -/
def substr (data : List UInt8) (offset length : Nat) : Option (List UInt8) :=
  if offset ≤ data.length then some ((data.drop offset).take length) else none

/-- `process_multipart_ranges_data`: its callers count, collect or send what it hands over. -/
def processMultipartRangesData {m : Type → Type} [Monad m] (boundary contentType : List Char) (contentLength : Nat)
    (token : List Char → m Unit) (content : Nat → Nat → m Bool) : List Range → m Bool
  | [] => do
    token "--".toList
    token boundary
    token "--".toList
    return true
  | range :: ranges => do
    token "--".toList
    token boundary
    token kCrLf
    if contentType ≠ [] then
      token "Content-Type: ".toList
      token contentType
      token kCrLf
    let slice := rangeOffsetAndLength range
    token "Content-Range: ".toList
    token (contentRangeField slice.1 slice.2 contentLength)
    token kCrLf
    token kCrLf
    if ← content slice.1 slice.2 then
      token kCrLf
      processMultipartRangesData boundary contentType contentLength token content ranges
    else
      return false

/-- `make_multipart_ranges_data`, nothing where `substr` throws. -/
def makeMultipartRangesData (body : List UInt8) (ranges : List Range) (boundary contentType : List Char) :
    Option (List UInt8) :=
  let made : StateT (List UInt8) Option Bool :=
    processMultipartRangesData boundary contentType body.length
      (fun token data => some ((), data ++ asciiBytes token))
      (fun offset length data => (substr body offset length).map fun part => (true, data ++ part)) ranges
  (made []).map Prod.snd

def multipartRangesDataLength (ranges : List Range) (boundary contentType : List Char) (contentLength : Nat) : Nat :=
  let counted : StateM Nat Bool :=
    processMultipartRangesData boundary contentType contentLength
      (fun token n => ((), n + token.length)) (fun _ length n => (true, n + length)) ranges
  (counted 0).2

/-- A response on its way out: the ranges its body is written by, their boundary, and the type of a part. -/
structure Outgoing where
  response : HttpResponse
  ranges : List Range := []
  boundary : List Char := []
  partType : List Char := []

/-- For several ranges the type is that of the parts. -/
def typeOfParts (ranges : List Range) (boundary : List Char) (res : HttpResponse) : HttpResponse :=
  if 1 < ranges.length then { res with contentType := some (kMultipartType ++ boundary) } else res

/-- Nothing where `substr` throws. -/
def applyRanges (ranges : List Range) (boundary : List Char) (res : HttpResponse) : Option Outgoing :=
  let partType := if 1 < ranges.length then res.contentType.getD [] else []
  let res := typeOfParts ranges boundary res
  let outgoing (res : HttpResponse) : Outgoing := { response := res, ranges, boundary, partType }
  if res.body = [] then
    if 0 < res.contentLength then
      match ranges with
      | [] => some (outgoing { res with contentLengthField := some res.contentLength })
      | [range] =>
        let slice := rangeOffsetAndLength range
        some (outgoing
          { res with
            contentRange := some (contentRangeField slice.1 slice.2 res.contentLength)
            contentLengthField := some slice.2 })
      | _ =>
        some (outgoing
          { res with contentLengthField := some (multipartRangesDataLength ranges boundary partType res.contentLength) })
    else some (outgoing res)
  else
    let measured (res : HttpResponse) : Outgoing := outgoing { res with contentLengthField := some res.body.length }
    match ranges with
    | [] => some (measured res)
    | [range] =>
      let slice := rangeOffsetAndLength range
      let res := { res with contentRange := some (contentRangeField slice.1 slice.2 res.body.length) }
      (substr res.body slice.1 slice.2).map fun body => measured { res with body }
    | _ => (makeMultipartRangesData res.body ranges boundary partType).map fun body => measured { res with body }

/-- The header fields that `write_response_core` adds where they are not there. -/
def addFields (req : HttpRequest) (res : HttpResponse) : HttpResponse :=
  { res with
    contentType :=
      if res.contentType = none ∧ (res.body ≠ [] ∨ 0 < res.contentLength ∨ res.contentProvider ≠ none) then
        some kTextType
      else res.contentType
    contentLengthField :=
      if res.contentLengthField = none ∧ res.body = [] ∧ res.contentLength = 0 ∧ res.contentProvider = none then some 0
      else res.contentLengthField
    acceptRanges := if res.acceptRanges = none ∧ req.isHead = true then some kRangeUnit else res.acceptRanges }

/-- `write_response`: no ranges apply. -/
def writeResponse (req : HttpRequest) (res : HttpResponse) : Outgoing := { response := addFields req res }

/-- `write_response_with_content`. -/
def writeResponseWithContent (req : HttpRequest) (ranges : List Range) (boundary : List Char) (res : HttpResponse) :
    Option Outgoing :=
  (applyRanges ranges boundary res).map fun outgoing => { outgoing with response := addFields req outgoing.response }

/-- The response of a handler that has run. -/
def routed (env : Surroundings) (req : HttpRequest) (ranges : List Range) (res : HttpResponse) : Option Outgoing :=
  let status := res.status.getD (if ranges = [] then 200 else 206)
  let res := { res with status := some status }
  let length := if res.contentLength ≠ 0 then res.contentLength else res.body.length
  -- `range_error` leaves the ranges of any other response as the header has them
  let checked := if 200 ≤ status ∧ status < 300 then rangeError ranges length else some ranges
  match checked with
  | none => some (writeResponse req { res with body := [], contentLength := 0, contentProvider := none, status := some 416 })
  | some ranges => writeResponseWithContent req ranges (kBoundaryPrefix ++ env.random) res

/-- The ranges a request asks for, nothing on a header that does not parse. -/
def askedRanges (req : HttpRequest) : Option (List Range) :=
  match req.range with
  | none => some []
  | some text => parseRangeHeader text

/-- `process_request` up to the sending: no response where an exception leaves it, which no one catches. -/
def processRequest (env : Surroundings) (req : HttpRequest) (s : DownloadServer) : DownloadServer × Option Outgoing :=
  match askedRanges req with
  | none => (s, some (writeResponse req { status := some 416 }))
  | some ranges =>
    if matchesRoute req.path then
      let handled := getRecording env req {} s
      (handled.1, routed env req ranges handled.2)
    else (s, some (writeResponse req { status := some 404 }))

/-! ## Sending -/

/-- What a turn of the sending loop finds, or a write of a token. -/
structure Turn where
  shuttingDown : Bool := false
  writable : Bool := true
  /-- The file, if it opens. -/
  file : Option (List UInt8) := none
  /-- The longest string that can be made: a longer one throws, for want of memory or past `max_size`. -/
  longestString : Nat := 0
  /-- How many bytes the connection takes before it fails, if it fails; none if it is not writable. -/
  fails : Option Nat := none

/-- What goes out of the data, and whether it went out whole. -/
def Turn.write (turn : Turn) (data : List UInt8) : List UInt8 × Bool :=
  match turn.fails with
  | none => (data, true)
  | some taken => if taken = 0 ∨ taken < data.length then (data.take taken, false) else (data, true)

/-- Why a sending has returned nothing: its turns have not all come yet, or an exception has left it. -/
inductive Unreturned where
  | pending
  | threw

structure Sending where
  sent : List UInt8 := []
  returned : Except Unreturned Bool
  /-- The turns it did not take. -/
  turns : List Turn

/-- The loop of `write_content`, with the content provider of the handler in place. -/
def writeContent (offset endOffset : Nat) : List Turn → Sending
  | [] => { returned := if offset < endOffset then .error .pending else .ok true, turns := [] }
  | turn :: turns =>
    if ¬ (offset < endOffset ∧ turn.shuttingDown = false) then { returned := .ok true, turns := turn :: turns }
    else if turn.writable = false then { returned := .ok false, turns }
    else
      match turn.file with
      | none => { returned := .ok false, turns }
      | some file =>
        -- the buffer is made for all that is left, whatever the file has of it
        if turn.longestString < endOffset - offset then { returned := .error .threw, turns }
        else
          let written := turn.write ((file.drop offset).take (endOffset - offset))
          if written.2 then
            let rest := writeContent (offset + written.1.length) endOffset turns
            { rest with sent := written.1 ++ rest.sent }
          else { sent := written.1, returned := .ok false, turns }

/-- What went out so far, and the turns to come. -/
structure Wire where
  sent : List UInt8 := []
  turns : List Turn

/-- A computation on the wire. -/
abbrev WireM := ExceptT Unreturned (StateM Wire)

/-- `strm.write` of a token; no one looks at what it returns. -/
def sendToken (token : List Char) : WireM Unit :=
  ExceptT.mk fun wire =>
    match wire.turns with
    | [] => (.error .pending, wire)
    | turn :: turns =>
      (.ok (), { sent := wire.sent ++ (asciiBytes token).take (turn.fails.getD token.length), turns })

def sendContent (offset length : Nat) : WireM Bool :=
  ExceptT.mk fun wire =>
    let sending := writeContent offset (offset + length) wire.turns
    (sending.returned, { sent := wire.sent ++ sending.sent, turns := sending.turns })

def sendBody (body : List UInt8) : WireM Bool :=
  ExceptT.mk fun wire =>
    match wire.turns with
    | [] => (.error .pending, wire)
    | turn :: turns => (.ok (turn.write body).2, { sent := wire.sent ++ (turn.write body).1, turns })

/-- `write_content_with_provider`. -/
def sendProvided (out : Outgoing) : WireM Bool :=
  match out.ranges with
  | [] => sendContent 0 out.response.contentLength
  | [range] => sendContent (rangeOffsetAndLength range).1 (rangeOffsetAndLength range).2
  | ranges =>
    processMultipartRangesData out.boundary out.partType out.response.contentLength sendToken sendContent ranges

/-- The body of a response, after its head. -/
def sendResponse (req : HttpRequest) (out : Outgoing) : WireM Bool :=
  if req.isHead then pure true
  else if out.response.body ≠ [] then sendBody out.response.body
  else if out.response.contentProvider ≠ none then sendProvided out
  else pure true

/-- All of `process_request`: what it returns, and what has gone out of the body. -/
def respond (env : Surroundings) (req : HttpRequest) (turns : List Turn) (s : DownloadServer) :
    DownloadServer × Except Unreturned Bool × Wire :=
  match processRequest env req s with
  | (s, none) => (s, .error .threw, { turns })
  | (s, some out) => (s, (sendResponse req out).run { turns })

end HttpDownloadServer

end SstCam
