import SstCam.Network.DownloadTokens
import SstCam.Network.HttpDownloadServer
import Mathlib.Algebra.GroupWithZero.Nat
import Mathlib.Data.List.Infix

/-!
# What a download delivers

A multipart body is a list of items, tokens and slices of the content; counting, collecting and sending
it run over the same items. The sending loop sends a prefix of what it was asked for, whatever the
connection does and however far the file has been written (`writeContent_front`).
-/

namespace SstCam
set_option autoImplicit false

open HttpRange (Range parseRangeHeader rangeError)

namespace HttpDownloadServer

/-! ## The items of a multipart body -/

inductive Item where
  | token (text : List Char)
  | content (offset length : Nat)

def closing (boundary : List Char) : List Item := [.token "--".toList, .token boundary, .token "--".toList]

def typeItems (contentType : List Char) : List Item :=
  if contentType ≠ [] then [.token "Content-Type: ".toList, .token contentType, .token kCrLf] else []

def part (boundary contentType : List Char) (contentLength : Nat) (range : Range) : List Item :=
  let slice := rangeOffsetAndLength range
  [.token "--".toList, .token boundary, .token kCrLf] ++ typeItems contentType ++
    [.token "Content-Range: ".toList, .token (contentRangeField slice.1 slice.2 contentLength), .token kCrLf, .token kCrLf,
      .content slice.1 slice.2, .token kCrLf]

def items (boundary contentType : List Char) (contentLength : Nat) (ranges : List Range) : List Item :=
  ranges.flatMap (part boundary contentType contentLength) ++ closing boundary

section Items

variable {m : Type → Type} [Monad m] {token : List Char → m Unit} {content : Nat → Nat → m Bool}

/-- The items in order, until one that fails. -/
def handItems (token : List Char → m Unit) (content : Nat → Nat → m Bool) : List Item → m Bool
  | [] => return true
  | .token text :: rest => do
    token text
    handItems token content rest
  | .content offset length :: rest => do
    if ← content offset length then handItems token content rest else return false

theorem handItems_singleton [LawfulMonad m] (offset length : Nat) :
    handItems token content [.content offset length] = content offset length := by
  have pass : (fun all : Bool => if all = true then (pure true : m Bool) else pure false) = pure := by
    funext all
    cases all <;> rfl
  simp only [handItems, pass, bind_pure]

theorem processMultipartRangesData_eq [LawfulMonad m] (boundary contentType : List Char) (contentLength : Nat)
    (ranges : List Range) :
    processMultipartRangesData boundary contentType contentLength token content ranges =
      handItems token content (items boundary contentType contentLength ranges) := by
  induction ranges with
  | nil => rfl
  | cons range ranges ih =>
    have split : items boundary contentType contentLength (range :: ranges) =
        part boundary contentType contentLength range ++ items boundary contentType contentLength ranges := by
      rw [items, List.flatMap_cons, List.append_assoc, ← items]
    rw [processMultipartRangesData, ih, split]
    simp only [part, typeItems]
    by_cases typed : contentType ≠ []
    · simp [typed, handItems]
    · simp [typed, handItems]

end Items

/-- The size of what an item stands for. -/
def Item.size : Item → Nat
  | .token text => text.length
  | .content _ length => length

theorem multipartRangesDataLength_eq (ranges : List Range) (boundary contentType : List Char) (contentLength : Nat) :
    multipartRangesDataLength ranges boundary contentType contentLength =
      ((items boundary contentType contentLength ranges).map Item.size).sum := by
  have counted : ∀ (rest : List Item) (n : Nat),
      (handItems (m := StateM Nat) (fun token n => ((), n + token.length)) (fun _ length n => (true, n + length)) rest n).2 =
        n + (rest.map Item.size).sum := by
    intro rest
    induction rest with
    | nil => exact fun n => rfl
    | cons item rest ih =>
      intro n
      rw [List.map_cons, List.sum_cons, ← Nat.add_assoc]
      cases item <;> exact ih _
  rw [multipartRangesDataLength, processMultipartRangesData_eq, counted, Nat.zero_add]

/-- The bytes of an item, where they can be had. -/
def Item.collected (source : List UInt8) : Item → Option (List UInt8)
  | .token text => some (asciiBytes text)
  | .content offset length => substr source offset length

theorem makeMultipartRangesData_eq (body : List UInt8) (ranges : List Range) (boundary contentType : List Char) :
    makeMultipartRangesData body ranges boundary contentType =
      ((items boundary contentType body.length ranges).mapM (Item.collected body)).map List.flatten := by
  have collects : ∀ (rest : List Item) (data : List UInt8),
      ((handItems (m := StateT (List UInt8) Option) (fun token data => some ((), data ++ asciiBytes token))
        (fun offset length data => (substr body offset length).map fun part => (true, data ++ part)) rest) data).map Prod.snd =
        (rest.mapM (Item.collected body)).map fun parts => data ++ parts.flatten := by
    intro rest
    induction rest with
    | nil => exact fun data => congrArg some (List.append_nil data).symm
    | cons item rest ih =>
      intro data
      rw [List.mapM_cons]
      cases item with
      | token text =>
        refine (ih (data ++ asciiBytes text)).trans ?_
        cases rest.mapM (Item.collected body) <;> simp [Item.collected]
      | content offset length =>
        rw [Item.collected]
        simp only [handItems]
        cases had : substr body offset length with
        | none => simp [bind, StateT.bind]
        | some slice =>
          have onward := ih (data ++ slice)
          simp only [bind, StateT.bind, Option.map_some, Option.bind_some, if_true] at onward ⊢
          rw [onward]
          cases rest.mapM (Item.collected body) <;> simp
  rw [makeMultipartRangesData, processMultipartRangesData_eq, collects]
  rfl

/-- The slices among the items are those of the ranges. -/
theorem content_mem_items {ranges : List Range} {boundary contentType : List Char} {contentLength offset length : Nat} :
    .content offset length ∈ items boundary contentType contentLength ranges ↔
      ∃ range ∈ ranges, rangeOffsetAndLength range = (offset, length) := by
  have one (range : Range) : .content offset length ∈ part boundary contentType contentLength range ↔
      rangeOffsetAndLength range = (offset, length) := by
    simp only [part, typeItems]
    split <;> simp [Prod.ext_iff, eq_comm]
  simp only [items, List.mem_append, List.mem_flatMap, one]
  simp [closing]

/-- Collecting fails exactly where a slice begins behind the end. -/
theorem makeMultipartRangesData_eq_none_iff {body : List UInt8} {ranges : List Range} {boundary contentType : List Char} :
    makeMultipartRangesData body ranges boundary contentType = none ↔
      ∃ range ∈ ranges, body.length < (rangeOffsetAndLength range).1 := by
  have failing : ∀ rest : List Item, rest.mapM (Item.collected body) = none ↔ ∃ item ∈ rest, item.collected body = none := by
    intro rest
    induction rest with
    | nil => simp
    | cons item rest ih =>
      rw [List.mapM_cons, List.exists_mem_cons_iff, ← ih]
      cases item.collected body with
      | none => simp
      | some bytes => cases rest.mapM (Item.collected body) <;> simp
  rw [makeMultipartRangesData_eq, Option.map_eq_none_iff, failing]
  have behind : ∀ offset length, (Item.content offset length).collected body = none ↔ body.length < offset := by
    intro offset length
    rw [Item.collected, substr]
    split
    case isTrue within => exact ⟨nofun, fun far => absurd within (by omega)⟩
    case isFalse far => exact ⟨fun _ => by omega, fun _ => rfl⟩
  constructor
  · rintro ⟨item, mem, fails⟩
    cases item with
    | token text => cases fails
    | content offset length =>
      obtain ⟨range, asked, slice⟩ := content_mem_items.1 mem
      exact ⟨range, asked, by rw [slice]; exact (behind offset length).1 fails⟩
  · rintro ⟨range, mem, far⟩
    exact ⟨_, content_mem_items.2 ⟨range, mem, rfl⟩, (behind _ _).2 far⟩

/-! ## The sending loop -/

variable {content whole : List UInt8} {offset endOffset : Nat} {turn : Turn} {turns : List Turn}

theorem writeContent_done (done : endOffset ≤ offset) (turns : List Turn) :
    writeContent offset endOffset turns = { returned := .ok true, turns } := by
  cases turns with
  | nil => rw [writeContent, if_neg (by omega)]
  | cons turn turns => rw [writeContent, if_pos (by omega)]

/-- What goes out is a front of the data, and all of it if it went out whole. -/
theorem Turn.write_spec (turn : Turn) (data : List UInt8) :
    (turn.write data).1 <+: data ∧ ((turn.write data).2 = true → (turn.write data).1 = data) := by
  rw [Turn.write]
  split
  case h_1 => exact ⟨List.prefix_rfl, fun _ => rfl⟩
  case h_2 =>
    split
    · exact ⟨List.take_prefix _ _, nofun⟩
    · exact ⟨List.prefix_rfl, fun _ => rfl⟩

/-- A slice is any front of it and what goes on from there. -/
theorem slice_split {front : List UInt8} {n : Nat} (starts : front <+: (whole.drop offset).take n) :
    (whole.drop offset).take n = front ++ (whole.drop (offset + front.length)).take (n - front.length) := by
  have bound := starts.length_le
  rw [List.length_take] at bound
  have cut : front = (whole.drop offset).take front.length := by
    have same := List.prefix_iff_eq_take.1 starts
    rw [List.take_take, Nat.min_eq_left (by omega)] at same
    exact same
  have total : n = front.length + (n - front.length) := by omega
  rw [total, List.take_add, ← cut, List.drop_drop, Nat.add_sub_cancel_left]

/-- Whatever the connection does, and however far the file has been written at each turn, what went out
is a front of the slice; and it is the slice if the loop succeeds, unless the server was shutting down. -/
theorem writeContent_front (files : ∀ turn ∈ turns, ∀ file, turn.file = some file → file <+: whole) :
    (writeContent offset endOffset turns).sent <+: (whole.drop offset).take (endOffset - offset) ∧
      ((writeContent offset endOffset turns).returned = .ok true →
        (writeContent offset endOffset turns).sent = (whole.drop offset).take (endOffset - offset) ∨
          ∃ turn ∈ turns, turn.shuttingDown = true) := by
  induction turns generalizing offset with
  | nil =>
    rw [writeContent]
    refine ⟨List.nil_prefix, fun returned => .inl ?_⟩
    split at returned
    case isTrue => cases returned
    case isFalse done => simp [Nat.sub_eq_zero_of_le (Nat.not_lt.1 done)]
  | cons turn turns ih =>
    rw [List.forall_mem_cons] at files
    rw [writeContent]
    split
    case isTrue finished =>
      refine ⟨List.nil_prefix, fun _ => ?_⟩
      by_cases done : endOffset ≤ offset
      · exact .inl (by simp [Nat.sub_eq_zero_of_le done])
      · refine .inr ⟨turn, List.mem_cons_self, ?_⟩
        rw [not_and] at finished
        simpa using finished (by omega)
    case isFalse =>
      split
      case isTrue => exact ⟨List.nil_prefix, nofun⟩
      case isFalse =>
        cases opened : turn.file with
        | none => exact ⟨List.nil_prefix, nofun⟩
        | some file =>
          have front : (file.drop offset).take (endOffset - offset) <+: (whole.drop offset).take (endOffset - offset) :=
            List.IsPrefix.take (List.IsPrefix.drop (files.1 file opened) offset) _
          have written := (turn.write_spec ((file.drop offset).take (endOffset - offset))).1.trans front
          simp only
          generalize turn.write ((file.drop offset).take (endOffset - offset)) = out at written ⊢
          split
          case isTrue => exact ⟨List.nil_prefix, nofun⟩
          case isFalse =>
            split
            case isTrue =>
              obtain ⟨sent, success⟩ := @ih (offset + out.1.length) files.2
              rw [Nat.sub_add_eq] at sent success
              rw [slice_split written]
              refine ⟨(List.prefix_append_right_inj _).2 sent, fun returned => ?_⟩
              rcases success returned with rest | ⟨later, mem, shutting⟩
              · exact .inl (by rw [rest])
              · exact .inr ⟨later, List.mem_cons_of_mem _ mem, shutting⟩
            case isFalse => exact ⟨written, nofun⟩

/-- What the loop leaves of the turns; and where it throws, a turn has had no memory for what was left. -/
theorem writeContent_turns (offset endOffset : Nat) (turns : List Turn) :
    (writeContent offset endOffset turns).turns <:+ turns ∧
      ((writeContent offset endOffset turns).returned = .error .threw →
        ∃ turn ∈ turns, turn.longestString < endOffset - offset) := by
  induction turns generalizing offset with
  | nil =>
    rw [writeContent]
    refine ⟨List.suffix_rfl, fun threw => ?_⟩
    split at threw <;> cases threw
  | cons turn turns ih =>
    rw [writeContent]
    split
    · exact ⟨List.suffix_rfl, nofun⟩
    split
    · exact ⟨List.suffix_cons _ _, nofun⟩
    split
    · exact ⟨List.suffix_cons _ _, nofun⟩
    split
    case isTrue short => exact ⟨List.suffix_cons _ _, fun _ => ⟨turn, List.mem_cons_self, short⟩⟩
    case isFalse =>
      simp only
      generalize turn.write _ = out
      split
      · obtain ⟨left, short⟩ := ih (offset + out.1.length)
        refine ⟨left.trans (List.suffix_cons _ _), fun threw => ?_⟩
        obtain ⟨later, mem, less⟩ := short threw
        exact ⟨later, List.mem_cons_of_mem _ mem, by omega⟩
      · exact ⟨List.suffix_cons _ _, nofun⟩

/-- A turn that goes well, with this in the file. -/
structure Turn.Sound (turn : Turn) (file : List UInt8) : Prop where
  up : turn.shuttingDown = false
  writable : turn.writable = true
  opens : turn.file = some file
  takes : turn.fails = none

/-- One turn of the loop that goes well. -/
theorem writeContent_sound {file : List UInt8} (sound : turn.Sound file) (room : endOffset - offset ≤ turn.longestString)
    (open' : offset < endOffset) (turns : List Turn) :
    writeContent offset endOffset (turn :: turns) =
      let written := (file.drop offset).take (endOffset - offset)
      let rest := writeContent (offset + written.length) endOffset turns
      { rest with sent := written ++ rest.sent } := by
  have goes : ∀ data, turn.write data = (data, true) := fun data => by rw [Turn.write, sound.takes]
  rw [writeContent, if_neg (not_not.2 ⟨open', sound.up⟩), if_neg (by simp [sound.writable]), sound.opens]
  simp only [if_neg (Nat.not_lt.2 room), goes, if_true]

/-- One turn that goes well but for its memory. -/
theorem writeContent_starved {file : List UInt8} (sound : turn.Sound file) (short : turn.longestString < endOffset - offset)
    (turns : List Turn) : writeContent offset endOffset (turn :: turns) = { returned := .error .threw, turns } := by
  have open' : offset < endOffset := by omega
  rw [writeContent, if_neg (not_not.2 ⟨open', sound.up⟩), if_neg (by simp [sound.writable]), sound.opens]
  simp only [if_pos short]

/-- How far the loop has come after turns that went well, up to its end. -/
def reached (offset : Nat) (turns : List Turn) : Nat :=
  turns.foldl (fun offset turn => max offset (turn.file.getD []).length) offset

/-- A property of every turn and of those before it. -/
theorem forall_split_cons {α : Type} {x : α} {xs : List α} {p : List α → α → Prop} :
    (∀ before y after, x :: xs = before ++ y :: after → p before y) ↔
      p [] x ∧ ∀ before y after, xs = before ++ y :: after → p (x :: before) y := by
  constructor
  · exact fun all => ⟨all [] x xs rfl, fun before y after same => all (x :: before) y after (by rw [same, List.cons_append])⟩
  · rintro ⟨first, later⟩ before y after same
    cases before with
    | nil =>
      obtain ⟨rfl, -⟩ := List.cons.inj same
      exact first
    | cons x' before =>
      obtain ⟨rfl, rest⟩ := List.cons.inj same
      exact later before y after rest

/-- While every turn goes well the loop is still at it exactly if no turn found the file long enough, and each
had the memory for what was left: it polls a file that has been cut short for ever. -/
theorem writeContent_pending_iff (open' : offset < endOffset) (sound : ∀ turn ∈ turns, ∃ file, turn.Sound file) :
    (writeContent offset endOffset turns).returned = .error .pending ↔
      ∀ before turn after, turns = before ++ turn :: after →
        (∀ file, turn.file = some file → file.length < endOffset) ∧ endOffset - reached offset before ≤ turn.longestString := by
  induction turns generalizing offset with
  | nil => simp [writeContent, open']
  | cons turn turns ih =>
    rw [List.forall_mem_cons] at sound
    obtain ⟨⟨file, here⟩, later⟩ := sound
    have first : reached offset [] = offset := rfl
    have next (before : List Turn) : reached offset (turn :: before) = reached (max offset file.length) before := by
      simp only [reached, List.foldl_cons, here.opens, Option.getD_some]
    rw [forall_split_cons, here.opens, first]
    simp only [Option.some.injEq, forall_eq', next]
    by_cases room : endOffset - offset ≤ turn.longestString
    · rw [writeContent_sound here room open']
      simp only [List.length_take, List.length_drop]
      by_cases short : file.length < endOffset
      · have on : offset + min (endOffset - offset) (file.length - offset) = max offset file.length := by omega
        rw [on, ih (by omega) later]
        exact ⟨fun rest => ⟨⟨short, room⟩, rest⟩, And.right⟩
      · rw [writeContent_done (by omega)]
        exact ⟨nofun, fun all => absurd all.1.1 short⟩
    · rw [writeContent_starved here (Nat.lt_of_not_le room)]
      exact ⟨nofun, fun all => absurd all.1.2 room⟩

/-- A file that has been cut short to two bytes, and a request for four. -/
theorem cut_short_pending :
    (writeContent 0 4 [{ file := some [1, 2], longestString := 4 }, { file := some [1, 2], longestString := 2 }]).returned =
      .error .pending := by
  have sound : ∀ turn ∈ [({ file := some [1, 2], longestString := 4 } : Turn), { file := some [1, 2], longestString := 2 }],
      ∃ file, turn.Sound file := by
    intro turn mem
    simp only [List.mem_cons, List.not_mem_nil, or_false] at mem
    rcases mem with rfl | rfl <;> exact ⟨[1, 2], ⟨rfl, rfl, rfl, rfl⟩⟩
  refine (writeContent_pending_iff (by decide) sound).2 ?_
  rw [forall_split_cons, forall_split_cons]
  exact ⟨by decide, by decide, by simp⟩

/-- A turn that goes well on a file that has at most grown. -/
def Turn.Good (content : List UInt8) (turn : Turn) : Prop := ∃ more, turn.Sound (content ++ more)

theorem writeContent_good (good : turn.Good content) (room : endOffset - offset ≤ turn.longestString)
    (open' : offset < endOffset) (within : endOffset ≤ content.length) (turns : List Turn) :
    writeContent offset endOffset (turn :: turns) =
      { sent := (content.drop offset).take (endOffset - offset), returned := .ok true, turns } := by
  obtain ⟨more, sound⟩ := good
  have same : ((content ++ more).drop offset).take (endOffset - offset) = (content.drop offset).take (endOffset - offset) := by
    rw [List.drop_append_of_le_length (by omega), List.take_append_of_le_length (by rw [List.length_drop]; omega)]
  rw [writeContent_sound sound room open', same]
  simp only
  rw [writeContent_done (by rw [List.length_take, List.length_drop]; omega)]
  simp

/-! ## Sending the items -/

/-- What an item stands for. -/
def Item.bytes (content : List UInt8) : Item → List UInt8
  | .token text => asciiBytes text
  | .content offset length => (content.drop offset).take length

/-- A slice that is not empty and lies in the content. -/
def Item.Inside (contentLength : Nat) : Item → Prop
  | .token _ => True
  | .content offset length => 0 < length ∧ offset + length ≤ contentLength

@[simp] theorem asciiBytes_length (text : List Char) : (asciiBytes text).length = text.length := List.length_map _

theorem Item.bytes_length {item : Item} (inside : item.Inside content.length) : (item.bytes content).length = item.size := by
  cases item with
  | token text => exact asciiBytes_length text
  | content offset length =>
    rw [Item.bytes, List.length_take, List.length_drop, Item.size]
    have within := inside.2
    omega

/-- The string that the content provider makes for an item. -/
def Item.wanted : Item → Nat
  | .token _ => 0
  | .content _ length => length

section Hand

variable {rest : List Item} (sent : List UInt8)

theorem handItems_token (text : List Char) (turn : Turn) (turns : List Turn) :
    (handItems sendToken sendContent (.token text :: rest)).run ⟨sent, turn :: turns⟩ =
      (handItems sendToken sendContent rest).run ⟨sent ++ (asciiBytes text).take (turn.fails.getD text.length), turns⟩ :=
  rfl

theorem handItems_content (offset length : Nat) (turns : List Turn) :
    (handItems sendToken sendContent (.content offset length :: rest)).run ⟨sent, turns⟩ =
      let sending := writeContent offset (offset + length) turns
      let wire : Wire := ⟨sent ++ sending.sent, sending.turns⟩
      match sending.returned with
      | .ok true => (handItems sendToken sendContent rest).run wire
      | .ok false => (.ok false, wire)
      | .error why => (.error why, wire) := by
  simp only [handItems, sendContent, ExceptT.run, bind, ExceptT.bind, ExceptT.mk, StateT.bind]
  cases (writeContent offset (offset + length) turns).returned with
  | ok all => cases all <;> rfl
  | error why => rfl

/-- On a connection that goes well the items arrive as they are, one turn each. -/
theorem handItems_send (inside : ∀ item ∈ rest, item.Inside content.length) (good : ∀ turn ∈ turns, turn.Good content)
    (room : ∀ item ∈ rest, ∀ turn ∈ turns, item.wanted ≤ turn.longestString) (enough : rest.length ≤ turns.length) :
    (handItems sendToken sendContent rest).run ⟨sent, turns⟩ =
      (.ok true, ⟨sent ++ rest.flatMap (Item.bytes content), turns.drop rest.length⟩) := by
  induction rest generalizing turns sent with
  | nil =>
    rw [List.flatMap_nil, List.append_nil]
    rfl
  | cons item rest ih =>
    cases turns with
    | nil => simp at enough
    | cons turn turns =>
      rw [List.forall_mem_cons] at inside good room
      have later : ∀ item ∈ rest, ∀ turn ∈ turns, item.wanted ≤ turn.longestString :=
        fun item mem => (List.forall_mem_cons.1 (room.2 item mem)).2
      have onward := ih (sent ++ item.bytes content) inside.2 good.2 later (Nat.le_of_succ_le_succ enough)
      rw [List.flatMap_cons, ← List.append_assoc, List.length_cons, List.drop_succ_cons, ← onward]
      cases item with
      | token text =>
        obtain ⟨more, sound⟩ := good.1
        have entire : (asciiBytes text).take text.length = asciiBytes text := List.take_of_length_le (by simp)
        rw [handItems_token, sound.takes, Option.getD_none, entire, Item.bytes]
      | content offset length =>
        obtain ⟨pos, within⟩ := inside.1
        have memory : offset + length - offset ≤ turn.longestString := by
          have had := room.1 turn List.mem_cons_self
          rw [Item.wanted] at had
          omega
        rw [handItems_content, writeContent_good good.1 memory (by omega) within turns, Nat.add_sub_cancel_left, Item.bytes]

/-- The same connection without the memory for one of the items. -/
theorem handItems_starved {longest : Nat} (inside : ∀ item ∈ rest, item.Inside content.length)
    (good : ∀ turn ∈ turns, turn.Good content) (same : ∀ turn ∈ turns, turn.longestString = longest)
    (short : ∃ item ∈ rest, longest < item.wanted) (enough : rest.length ≤ turns.length) :
    ((handItems sendToken sendContent rest).run ⟨sent, turns⟩).1 = .error .threw := by
  induction rest generalizing turns sent with
  | nil => simp at short
  | cons item rest ih =>
    cases turns with
    | nil => simp at enough
    | cons turn turns =>
      rw [List.forall_mem_cons] at inside good same
      have onward := fun sent short => ih sent inside.2 good.2 same.2 short (Nat.le_of_succ_le_succ enough)
      rw [List.exists_mem_cons_iff] at short
      cases item with
      | token text =>
        rw [handItems_token]
        exact onward _ (short.resolve_left (Nat.not_lt_zero _))
      | content offset length =>
        rw [handItems_content]
        by_cases starved : longest < length
        · obtain ⟨more, sound⟩ := good.1
          rw [writeContent_starved sound (by rw [same.1]; omega) turns]
        · obtain ⟨pos, within⟩ := inside.1
          rw [writeContent_good good.1 (by rw [same.1]; omega) (by omega) within turns]
          exact onward _ (short.resolve_left starved)

/-- On any connection an exception comes of an item that a turn has no memory for. -/
theorem handItems_threw (threw : ((handItems sendToken sendContent rest).run ⟨sent, turns⟩).1 = .error .threw) :
    ∃ item ∈ rest, ∃ turn ∈ turns, turn.longestString < item.wanted := by
  induction rest generalizing turns sent with
  | nil => cases threw
  | cons item rest ih =>
    rw [List.exists_mem_cons_iff]
    cases item with
    | token text =>
      cases turns with
      | nil => cases threw
      | cons turn turns =>
        rw [handItems_token] at threw
        obtain ⟨item, mem, late, listed, short⟩ := ih _ threw
        exact .inr ⟨item, mem, late, List.mem_cons_of_mem _ listed, short⟩
    | content offset length =>
      rw [handItems_content] at threw
      obtain ⟨left, starved⟩ := writeContent_turns offset (offset + length) turns
      simp only at threw
      split at threw
      · obtain ⟨item, mem, late, listed, short⟩ := ih _ threw
        exact .inr ⟨item, mem, late, left.subset listed, short⟩
      · cases threw
      case h_3 why returned =>
        obtain rfl : why = .threw := Except.error.inj threw
        obtain ⟨turn, mem, short⟩ := starved returned
        exact .inl ⟨turn, mem, by rw [Item.wanted]; omega⟩

end Hand

/-! ## The body of a response -/

open HttpRange (Within)

/-- How many bytes the content provider is asked for at a time: the content, or each of the ranges. -/
def wantedLengths (contentLength : Nat) : List Range → List Nat
  | [] => [contentLength]
  | ranges => ranges.map fun range => (range.2 - range.1 + 1).toNat

/-- The bytes of a range, both ends included. -/
def slice (content : List UInt8) (range : Range) : List UInt8 :=
  (content.drop range.1.toNat).take (range.2 - range.1 + 1).toNat

/-- `Content-Range` of a range. -/
def contentRange (contentLength : Nat) (range : Range) : List Char :=
  "bytes ".toList ++ Nat.toDigits 10 range.1.toNat ++ ['-'] ++ Nat.toDigits 10 range.2.toNat ++ ['/'] ++
    Nat.toDigits 10 contentLength

/-- What stands before the bytes of a part. -/
def partHead (boundary contentType : List Char) (contentLength : Nat) (range : Range) : List Char :=
  "--".toList ++ boundary ++ kCrLf ++ "Content-Type: ".toList ++ contentType ++ kCrLf ++
    "Content-Range: ".toList ++ contentRange contentLength range ++ kCrLf ++ kCrLf

/-- The body that answers the ranges of the content: all of it, a slice, or a part for each. -/
def bodyOf (content : List UInt8) (boundary contentType : List Char) : List Range → List UInt8
  | [] => content
  | [range] => slice content range
  | ranges =>
    (ranges.flatMap fun range =>
      asciiBytes (partHead boundary contentType content.length range) ++ slice content range ++ asciiBytes kCrLf) ++
      asciiBytes ("--".toList ++ boundary ++ "--".toList)

section Body

variable {range : Range} {ranges : List Range} {boundary contentType : List Char}

theorem rangeOffsetAndLength_within (within : Within content.length range) (fits : content.length < 2 ^ 63) :
    rangeOffsetAndLength range = (range.1.toNat, (range.2 - range.1 + 1).toNat) := by
  obtain ⟨low, order, high⟩ := within
  have first : range.1 % 2 ^ 64 = range.1 := by omega
  have length : (range.2 - range.1 + 1) % 2 ^ 64 = range.2 - range.1 + 1 := by omega
  simp only [rangeOffsetAndLength, first, length]

theorem contentRangeField_within (within : Within content.length range) (fits : content.length < 2 ^ 63) :
    contentRangeField range.1.toNat (range.2 - range.1 + 1).toNat content.length = contentRange content.length range := by
  obtain ⟨low, order, high⟩ := within
  have last : (range.1.toNat + (range.2 - range.1 + 1).toNat + (2 ^ 64 - 1)) % 2 ^ 64 = range.2.toNat := by omega
  unfold contentRangeField contentRange
  rw [last]

theorem part_inside (within : Within content.length range) (fits : content.length < 2 ^ 63) :
    ∀ item ∈ part boundary contentType content.length range, item.Inside content.length := by
  simp only [part, rangeOffsetAndLength_within within fits, typeItems]
  obtain ⟨low, order, high⟩ := within
  have inside : 0 < (range.2 - range.1 + 1).toNat ∧ range.1.toNat + (range.2 - range.1 + 1).toNat ≤ content.length := by omega
  split <;> simp only [List.mem_append, List.mem_cons, List.not_mem_nil, or_false] <;> rintro item listed
  · rcases listed with ((rfl | rfl | rfl) | rfl | rfl | rfl) | rfl | rfl | rfl | rfl | rfl | rfl <;> trivial
  · rcases listed with (rfl | rfl | rfl) | rfl | rfl | rfl | rfl | rfl | rfl <;> trivial

theorem part_bytes (typed : contentType ≠ []) (within : Within content.length range) (fits : content.length < 2 ^ 63) :
    (part boundary contentType content.length range).flatMap (Item.bytes content) =
      asciiBytes (partHead boundary contentType content.length range) ++ slice content range ++ asciiBytes kCrLf := by
  have field := contentRangeField_within within fits
  unfold part typeItems partHead
  rw [rangeOffsetAndLength_within within fits, if_pos typed]
  simp only [field]
  generalize contentRange content.length range = field
  simp only [List.flatMap_append, List.flatMap_cons, List.flatMap_nil, Item.bytes, slice, asciiBytes, List.map_append,
    List.append_assoc, List.append_nil]

theorem items_inside (within : ∀ range ∈ ranges, Within content.length range) (fits : content.length < 2 ^ 63) :
    ∀ item ∈ items boundary contentType content.length ranges, item.Inside content.length := by
  intro item mem
  rw [items, List.mem_append, List.mem_flatMap] at mem
  obtain ⟨range, mem, listed⟩ | listed := mem
  · exact part_inside (within range mem) fits item listed
  · simp only [closing, List.mem_cons, List.not_mem_nil, or_false] at listed
    rcases listed with rfl | rfl | rfl <;> trivial

/-- The items of several ranges are the body. -/
theorem items_bytes (several : 1 < ranges.length) (typed : contentType ≠ [])
    (within : ∀ range ∈ ranges, Within content.length range) (fits : content.length < 2 ^ 63) :
    (items boundary contentType content.length ranges).flatMap (Item.bytes content) =
      bodyOf content boundary contentType ranges := by
  have parts : (ranges.flatMap (part boundary contentType content.length)).flatMap (Item.bytes content) =
      ranges.flatMap fun range =>
        asciiBytes (partHead boundary contentType content.length range) ++ slice content range ++ asciiBytes kCrLf := by
    rw [List.flatMap_assoc]
    exact List.flatMap_congr fun range mem => part_bytes typed (within range mem) fits
  rw [items, List.flatMap_append, parts]
  match ranges, several with
  | _ :: _ :: _, _ => simp [bodyOf, closing, Item.bytes, asciiBytes]

theorem items_length (ranges : List Range) :
    (items boundary contentType content.length ranges).length ≤ 12 * ranges.length + 3 := by
  induction ranges with
  | nil => simp [items, closing]
  | cons range ranges ih =>
    have here : (part boundary contentType content.length range).length ≤ 12 := by
      simp only [part, typeItems]
      split <;> simp
    rw [items, List.flatMap_cons, List.append_assoc, ← items, List.length_append, List.length_cons]
    omega

/-- What a body is sent by. -/
def bodyItems (boundary contentType : List Char) (contentLength : Nat) : List Range → List Item
  | [] => [.content 0 contentLength]
  | [range] => [.content range.1.toNat (range.2 - range.1 + 1).toNat]
  | ranges => items boundary contentType contentLength ranges

theorem bodyItems_inside (written : content ≠ []) (within : ∀ range ∈ ranges, Within content.length range)
    (fits : content.length < 2 ^ 63) :
    ∀ item ∈ bodyItems boundary contentType content.length ranges, item.Inside content.length := by
  match ranges, within with
  | [], _ =>
    intro item mem
    obtain rfl := List.mem_singleton.1 mem
    exact ⟨List.length_pos_iff.2 written, Nat.le_of_eq (Nat.zero_add _)⟩
  | [range], within =>
    intro item mem
    obtain rfl := List.mem_singleton.1 mem
    obtain ⟨low, order, high⟩ := within range List.mem_cons_self
    simp only [Item.Inside]
    omega
  | _ :: _ :: _, within => exact items_inside within fits

theorem bodyItems_bytes (typed : contentType ≠ []) (within : ∀ range ∈ ranges, Within content.length range)
    (fits : content.length < 2 ^ 63) :
    (bodyItems boundary contentType content.length ranges).flatMap (Item.bytes content) =
      bodyOf content boundary contentType ranges := by
  match ranges, within with
  | [], _ => simp [bodyItems, Item.bytes, bodyOf]
  | [range], _ => simp [bodyItems, Item.bytes, bodyOf, slice]
  | _ :: _ :: _, within => exact items_bytes (by simp) typed within fits

theorem bodyItems_length : (bodyItems boundary contentType content.length ranges).length ≤ 12 * ranges.length + 3 := by
  match ranges with
  | [] => simp [bodyItems]
  | [range] => simp [bodyItems]
  | _ :: _ :: _ => exact items_length _

/-- The strings for the items are those for the ranges. -/
theorem bodyItems_wanted_iff (within : ∀ range ∈ ranges, Within content.length range) (fits : content.length < 2 ^ 63)
    {longest : Nat} :
    (∃ item ∈ bodyItems boundary contentType content.length ranges, longest < item.wanted) ↔
      ∃ length ∈ wantedLengths content.length ranges, longest < length := by
  match ranges, within with
  | [], _ => simp [bodyItems, wantedLengths, Item.wanted]
  | [range], _ => simp [bodyItems, wantedLengths, Item.wanted]
  | first :: second :: rest, within =>
    have sent : bodyItems boundary contentType content.length (first :: second :: rest) =
        items boundary contentType content.length (first :: second :: rest) := rfl
    have lengths : wantedLengths content.length (first :: second :: rest) =
        (first :: second :: rest).map fun range => (range.2 - range.1 + 1).toNat := rfl
    rw [sent, lengths]
    generalize first :: second :: rest = ranges at within
    simp only [List.mem_map, exists_exists_and_eq_and]
    constructor
    · rintro ⟨item, mem, short⟩
      cases item with
      | token => exact absurd short (Nat.not_lt_zero _)
      | content offset length =>
        obtain ⟨range, listed, slice⟩ := content_mem_items.1 mem
        rw [rangeOffsetAndLength_within (within range listed) fits] at slice
        exact ⟨range, listed, by rw [(Prod.mk.inj slice).2]; exact short⟩
    · rintro ⟨range, listed, short⟩
      exact ⟨_, content_mem_items.2 ⟨range, listed, rangeOffsetAndLength_within (within range listed) fits⟩, short⟩

end Body

end HttpDownloadServer

end SstCam
