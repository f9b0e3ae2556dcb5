import SstCam.Lib.Decimal
import Mathlib.Algebra.Group.Int.Defs
import Mathlib.Data.List.Pairwise

/-!
# Range headers

How the download server's HTTP library reads a `Range` header (`detail::parse_range_header`) and what
it makes of the ranges once the length of the content is known (`detail::range_error`). A position is
an `ssize_t`, -1 where the header leaves it out.
-/

namespace SstCam
set_option autoImplicit false

/-- `CPPHTTPLIB_RANGE_MAX_COUNT`. -/
def kRangeMaxCount : Nat := 1024

namespace HttpRange

abbrev Range := Int × Int

/-- The class `\s` of a regular expression. -/
def isSpace (c : Char) : Bool := c == ' ' || decide (9 ≤ c.toNat ∧ c.toNat ≤ 13)

/-- `is_space_or_tab`. -/
def isSpaceOrTab (c : Char) : Bool := c == ' ' || c == '\t'

/-- The match of `(\d*)-(\d*)`, with `\s*` in front where it may stand: the two runs of digits. -/
def matchRange (spaces : Bool) (s : List Char) : Option (List Char × List Char) :=
  let s := if spaces then s.dropWhile isSpace else s
  match s.dropWhile Char.isDigit with
  | '-' :: last => if last.all Char.isDigit then some (s.takeWhile Char.isDigit, last) else none
  | _ => none

/-- The match of `\d*-\d*(?:,\s*\d*-\d*)*`. -/
def isRangeSet (s : List Char) : Bool :=
  match s.splitOn ',' with
  | [] => false
  | first :: rest => (matchRange false first).isSome && rest.all fun piece => (matchRange true piece).isSome

/-- `trim`. -/
def trim (s : List Char) : List Char :=
  ((s.dropWhile isSpaceOrTab).reverse.dropWhile isSpaceOrTab).reverse

/-- -1 for no digits; `std::stoll` throws where the value does not fit. -/
def position (digits : List Char) : Option Int :=
  if digits = [] then some (-1)
  else if Decimal.value digits < 2 ^ 63 then some (Decimal.value digits)
  else none

/-- The range of two runs of digits, unless one throws or they are the wrong way round. -/
def rangeOf (first last : List Char) : Option Range :=
  match position first, position last with
  | some first, some last => if first ≠ -1 ∧ last ≠ -1 ∧ last < first then none else some (first, last)
  | _, _ => none

/-- What a piece of the header adds to the ranges. -/
def addRange (piece : List Char) : Option (List Range) :=
  match matchRange true piece with
  | none => some []
  | some (first, last) => (rangeOf first last).map fun range => [range]

/-- `split`: the pieces between separators, trimmed; an empty one is passed over. -/
def split (sep : Char) (s : List Char) : List (List Char) :=
  ((s.splitOn sep).map trim).filter fun piece => !piece.isEmpty

def pieces (s : List Char) : List (List Char) := split ',' s

def kUnit : List Char := ['b', 'y', 't', 'e', 's', '=']

def parseRangeHeader (s : List Char) : Option (List Range) :=
  if kUnit <+: s ∧ isRangeSet (s.drop kUnit.length) = true then
    ((pieces (s.drop kUnit.length)).mapM addRange).map List.flatten
  else none

/-- The positions that a range stands for in content of this length. -/
def normalize (contentLen : Int) (range : Range) : Range :=
  let range := if range.1 = -1 ∧ range.2 = -1 then (0, contentLen) else range
  let range := if range.1 = -1 then (contentLen - range.2, contentLen - 1) else range
  if range.2 = -1 then (range.1, contentLen - 1) else range

/-- The loop of `range_error` over the ranges: nothing on an error, else the ranges as it leaves them. -/
def checkRanges (contentLen : Int) (prevFirst prevLast : Int) (overlapping : Nat) : List Range → Option (List Range)
  | [] => some []
  | range :: ranges =>
    let range := normalize contentLen range
    if ¬ (0 ≤ range.1 ∧ range.1 ≤ range.2 ∧ range.2 ≤ contentLen - 1) then none
    else if range.1 ≤ prevFirst then none
    else
      let overlapping := if range.1 ≤ prevLast then overlapping + 1 else overlapping
      if range.1 ≤ prevLast ∧ 2 < overlapping then none
      else (checkRanges contentLen (max prevFirst range.1) (max prevLast range.2) overlapping ranges).map (range :: ·)

/-- `range_error` of a response that has succeeded so far. -/
def rangeError (ranges : List Range) (contentLen : Nat) : Option (List Range) :=
  if ranges = [] then some []
  else if kRangeMaxCount < ranges.length then none
  else checkRanges contentLen (-1) (-1) 0 ranges

/-! ## The text of a header -/

/-- One range as a header writes it. -/
structure RangeText where
  space : List Char := []
  first : List Char := []
  last : List Char := []

namespace RangeText

def text (t : RangeText) : List Char := t.space ++ t.first ++ '-' :: t.last

structure WellFormed (t : RangeText) : Prop where
  space : ∀ c ∈ t.space, isSpace c = true
  first : ∀ c ∈ t.first, c.isDigit = true
  last : ∀ c ∈ t.last, c.isDigit = true

end RangeText

theorem isSpace_of_isSpaceOrTab {c : Char} (h : isSpaceOrTab c = true) : isSpace c = true := by
  simp only [isSpaceOrTab, isSpace, Bool.or_eq_true, beq_iff_eq, decide_eq_true_eq] at h ⊢
  rcases h with rfl | rfl
  · exact .inl rfl
  · exact .inr (by decide)

theorem not_isDigit_of_isSpace {c : Char} (h : isSpace c = true) : c.isDigit = false := by
  rw [Bool.eq_false_iff]
  intro digit
  have bounds := Char.isDigit_iff_toNat.1 digit
  simp only [Char.reduceToNat] at bounds
  simp only [isSpace, Bool.or_eq_true, beq_iff_eq, decide_eq_true_eq] at h
  rcases h with rfl | h
  · simp at bounds
  · omega

theorem not_isSpace_of_isDigit {c : Char} (h : c.isDigit = true) : isSpace c = false := by
  rw [Bool.eq_false_iff]
  intro space
  simp [not_isDigit_of_isSpace space] at h

/-- What follows the spaces of a range's text begins with none. -/
theorem dropWhile_space {first last : List Char} (digits : ∀ c ∈ first, c.isDigit = true) {p : Char → Bool}
    (space : ∀ c, p c = true → isSpace c = true) : (first ++ '-' :: last).dropWhile p = first ++ '-' :: last := by
  have solid : ∀ c, isSpace c = false → ¬ p c = true := fun c no yes => by simp [space c yes] at no
  cases first with
  | nil => rw [List.nil_append, List.dropWhile_cons_of_neg (solid _ rfl)]
  | cons c first =>
    rw [List.cons_append, List.dropWhile_cons_of_neg (solid _ (not_isSpace_of_isDigit (digits c List.mem_cons_self)))]

theorem matchRange_text (spaces : Bool) {t : RangeText} (h : t.WellFormed) (tight : spaces = false → t.space = []) :
    matchRange spaces t.text = some (t.first, t.last) := by
  have start : (if spaces then t.text.dropWhile isSpace else t.text) = t.first ++ '-' :: t.last := by
    cases spaces with
    | true =>
      rw [if_pos rfl, RangeText.text, List.append_assoc, List.dropWhile_append_of_pos h.space,
        dropWhile_space h.first fun _ => id]
    | false => simp [RangeText.text, tight rfl]
  have behind : (t.first ++ '-' :: t.last).dropWhile Char.isDigit = '-' :: t.last := by
    rw [List.dropWhile_append_of_pos h.first]
    rfl
  have front : (t.first ++ '-' :: t.last).takeWhile Char.isDigit = t.first := by
    rw [List.takeWhile_append_of_pos h.first]
    simp
  simp only [matchRange, start, behind, front]
  rw [if_pos (List.all_eq_true.2 h.last)]

/-- A piece matches only as the text of a range. -/
theorem text_of_matchRange {spaces : Bool} {s : List Char} (found : (matchRange spaces s).isSome = true) :
    ∃ t : RangeText, t.WellFormed ∧ t.text = s ∧ (spaces = false → t.space = []) := by
  obtain ⟨space, rest, split, spaced, tight, start⟩ : ∃ space rest, space ++ rest = s ∧ (∀ c ∈ space, isSpace c = true) ∧
      (spaces = false → space = []) ∧ (if spaces then s.dropWhile isSpace else s) = rest := by
    cases spaces with
    | true =>
      exact ⟨_, _, List.takeWhile_append_dropWhile, List.all_eq_true.1 List.all_takeWhile, nofun, rfl⟩
    | false => exact ⟨[], s, rfl, nofun, fun _ => rfl, rfl⟩
  simp only [matchRange, start] at found
  split at found
  case h_1 last behind =>
    split at found
    case isTrue digits =>
      refine ⟨⟨space, rest.takeWhile Char.isDigit, last⟩, ⟨spaced, ?_, List.all_eq_true.1 digits⟩, ?_, tight⟩
      · exact List.all_eq_true.1 List.all_takeWhile
      · rw [RangeText.text, List.append_assoc, ← behind, List.takeWhile_append_dropWhile, split]
    case isFalse => simp at found
  case h_2 => simp at found

/-- A text ends in a digit or in the dash. -/
theorem exists_text_eq_concat {t : RangeText} (h : t.WellFormed) :
    ∃ front c, t.text = front ++ [c] ∧ isSpaceOrTab c = false := by
  cases last : t.last.reverse with
  | nil =>
    rw [List.reverse_eq_nil_iff] at last
    exact ⟨t.space ++ t.first, '-', by simp [RangeText.text, last], rfl⟩
  | cons c front =>
    have split : t.last = front.reverse ++ [c] := by
      rw [← List.reverse_reverse t.last, last, List.reverse_cons]
    refine ⟨t.space ++ t.first ++ '-' :: front.reverse, c, by simp [RangeText.text, split], ?_⟩
    rw [Bool.eq_false_iff]
    intro space
    have digit := h.last c (by simp [split])
    simp [not_isDigit_of_isSpace (isSpace_of_isSpaceOrTab space)] at digit

/-- Trimming takes spaces from the front of a text only. -/
theorem trim_text {t : RangeText} (h : t.WellFormed) :
    ∃ t' : RangeText, t'.WellFormed ∧ trim t.text = t'.text ∧ t'.first = t.first ∧ t'.last = t.last := by
  let t' : RangeText := { t with space := t.space.dropWhile isSpaceOrTab }
  have spaces : ∀ c ∈ t'.space, isSpace c = true := fun c mem => h.space c ((List.dropWhile_sublist _).mem mem)
  have h' : t'.WellFormed := ⟨spaces, h.first, h.last⟩
  have left : t.text.dropWhile isSpaceOrTab = t'.text := by
    rw [RangeText.text, List.append_assoc, List.dropWhile_append,
      dropWhile_space h.first fun _ => isSpace_of_isSpaceOrTab]
    split
    case isTrue empty => simp [t', RangeText.text, List.isEmpty_iff.1 empty]
    case isFalse => simp [t', RangeText.text]
  refine ⟨t', h', ?_, rfl, rfl⟩
  obtain ⟨front, c, split, solid⟩ := exists_text_eq_concat h'
  rw [trim, left, split, List.reverse_concat, List.dropWhile_cons_of_neg (by simp [solid]), List.reverse_cons,
    List.reverse_reverse]

theorem addRange_trim {t : RangeText} (h : t.WellFormed) :
    addRange (trim t.text) = (rangeOf t.first t.last).map fun range => [range] := by
  obtain ⟨t', h', trimmed, first, last⟩ := trim_text h
  rw [addRange, trimmed, matchRange_text true h' nofun, first, last]

theorem trim_ne_nil {t : RangeText} (h : t.WellFormed) : trim t.text ≠ [] := by
  obtain ⟨t', -, trimmed, -⟩ := trim_text h
  rw [trimmed]
  simp [RangeText.text]

/-- No comma stands in a range. -/
theorem comma_not_mem {t : RangeText} (h : t.WellFormed) : ',' ∉ t.text := by
  have digit : ',' ∉ t.first ∧ ',' ∉ t.last := ⟨fun mem => by simpa using h.first _ mem, fun mem => by simpa using h.last _ mem⟩
  have space : ',' ∉ t.space := fun mem => by simpa [isSpace] using h.space _ mem
  simp [RangeText.text, digit, space]

/-- The ranges as a header lists them. -/
def headerText (ts : List RangeText) : List Char := [','].intercalate (ts.map RangeText.text)

/-- The texts of a header: none before which the first has a space. -/
structure WellFormedHeader (ts : List RangeText) : Prop where
  each : ∀ t ∈ ts, t.WellFormed
  tight : ∃ t ts', ts = t :: ts' ∧ t.space = []

theorem splitOn_headerText {ts : List RangeText} (h : WellFormedHeader ts) :
    (headerText ts).splitOn ',' = ts.map RangeText.text := by
  obtain ⟨t, ts', rfl, -⟩ := h.tight
  refine List.splitOn_intercalate ',' (fun text mem => ?_) (by simp)
  obtain ⟨t', mem', rfl⟩ := List.mem_map.1 mem
  exact comma_not_mem (h.each t' mem')

/-- A set of ranges is recognised exactly as the text of a header. -/
theorem isRangeSet_iff {s : List Char} : isRangeSet s = true ↔ ∃ ts, WellFormedHeader ts ∧ headerText ts = s := by
  constructor
  · intro set
    have joined := @List.intercalate_splitOn Char s _ _ ','
    rw [isRangeSet] at set
    cases parts : s.splitOn ',' with
    | nil => simp [parts] at set
    | cons first rest =>
      rw [parts] at set joined
      simp only [Bool.and_eq_true, List.all_eq_true] at set
      obtain ⟨matched, others⟩ := set
      obtain ⟨t, h, text, tight⟩ := text_of_matchRange matched
      obtain ⟨ts, texts, hs⟩ : ∃ ts : List RangeText, ts.map RangeText.text = rest ∧ ∀ t ∈ ts, t.WellFormed := by
        clear parts joined
        induction rest with
        | nil => exact ⟨[], rfl, nofun⟩
        | cons piece rest ih =>
          rw [List.forall_mem_cons] at others
          obtain ⟨t, h, text, -⟩ := text_of_matchRange others.1
          obtain ⟨ts, texts, hs⟩ := ih others.2
          exact ⟨t :: ts, by rw [List.map_cons, text, texts], List.forall_mem_cons.2 ⟨h, hs⟩⟩
      refine ⟨t :: ts, ⟨List.forall_mem_cons.2 ⟨h, hs⟩, t, ts, rfl, tight rfl⟩, ?_⟩
      rw [headerText, List.map_cons, text, texts, joined]
  · rintro ⟨ts, h, rfl⟩
    rw [isRangeSet, splitOn_headerText h]
    obtain ⟨t, ts', rfl, tight⟩ := h.tight
    rw [List.map_cons]
    simp only [Bool.and_eq_true, List.all_eq_true, List.forall_mem_map]
    have each := List.forall_mem_cons.1 h.each
    exact ⟨by rw [matchRange_text false each.1 fun _ => tight]; rfl,
      fun t mem => by rw [matchRange_text true (each.2 t mem) nofun]; rfl⟩

theorem pieces_headerText {ts : List RangeText} (h : WellFormedHeader ts) :
    pieces (headerText ts) = ts.map fun t => trim t.text := by
  rw [pieces, split, splitOn_headerText h, List.map_map, List.filter_eq_self.2]
  · rfl
  · intro piece mem
    obtain ⟨t, mem', rfl⟩ := List.mem_map.1 mem
    simp [trim_ne_nil (h.each t mem')]

theorem parseRangeHeader_headerText {ts : List RangeText} (h : WellFormedHeader ts) :
    parseRangeHeader (kUnit ++ headerText ts) = ts.mapM fun t => rangeOf t.first t.last := by
  have ranged : ∀ ts : List RangeText, (∀ t ∈ ts, t.WellFormed) →
      ((ts.map fun t => trim t.text).mapM addRange).map List.flatten = ts.mapM fun t => rangeOf t.first t.last := by
    intro ts each
    induction ts with
    | nil => rfl
    | cons t ts ih =>
      rw [List.forall_mem_cons] at each
      have rest := ih each.2
      rw [List.map_cons, List.mapM_cons, List.mapM_cons, addRange_trim each.1, ← rest]
      cases rangeOf t.first t.last with
      | none => rfl
      | some range => cases (ts.map fun t => trim t.text).mapM addRange <;> rfl
  rw [parseRangeHeader, List.drop_left, if_pos ⟨List.prefix_append _ _, isRangeSet_iff.2 ⟨ts, h, rfl⟩⟩,
    pieces_headerText h, ranged ts h.each]

/-- A header is accepted exactly if it is `bytes=` before a list of ranges, each two runs of digits with a
dash between, no value past an `ssize_t` and no range the wrong way round; and it then stands for these
ranges, in order. -/
theorem parseRangeHeader_iff {s : List Char} {ranges : List Range} :
    parseRangeHeader s = some ranges ↔
      ∃ ts, WellFormedHeader ts ∧ s = kUnit ++ headerText ts ∧ ts.mapM (fun t => rangeOf t.first t.last) = some ranges := by
  constructor
  · intro parsed
    have accepted : kUnit <+: s ∧ isRangeSet (s.drop kUnit.length) = true := by
      by_contra refused
      rw [parseRangeHeader, if_neg refused] at parsed
      cases parsed
    obtain ⟨unit, set⟩ := accepted
    obtain ⟨ts, h, text⟩ := isRangeSet_iff.1 set
    have whole : s = kUnit ++ headerText ts := by
      rw [text]
      exact (List.prefix_iff_eq_append.1 unit).symm
    rw [whole, parseRangeHeader_headerText h] at parsed
    exact ⟨ts, h, whole, parsed⟩
  · rintro ⟨ts, h, rfl, ranges⟩
    rw [parseRangeHeader_headerText h, ranges]

/-- A header for everything from a position on. -/
theorem parseRangeHeader_from {first : Nat} (fits : first < 2 ^ 63) :
    parseRangeHeader (kUnit ++ (Nat.toDigits 10 first ++ ['-'])) = some [((first : Int), -1)] := by
  have numeral := Decimal.isNumeral_toDigits first
  have h : WellFormedHeader [{ first := Nat.toDigits 10 first }] := by
    refine ⟨fun t mem => ?_, _, _, rfl, rfl⟩
    obtain rfl := List.mem_singleton.1 mem
    exact ⟨nofun, numeral.isDigit, nofun⟩
  have text : headerText [{ first := Nat.toDigits 10 first }] = Nat.toDigits 10 first ++ ['-'] := by
    simp [headerText, RangeText.text]
  have begins : position (Nat.toDigits 10 first) = some (first : Int) := by
    rw [position, if_neg numeral.nonempty, Decimal.value_toDigits, if_pos fits]
  have read : rangeOf (Nat.toDigits 10 first) [] = some ((first : Int), -1) := by
    have open' : position [] = some (-1) := rfl
    rw [rangeOf, begins, open']
    simp
  rw [← text, parseRangeHeader_headerText h, List.mapM_cons, read]
  rfl

theorem position_bounds {digits : List Char} {value : Int} (read : position digits = some value) :
    -1 ≤ value ∧ value < 2 ^ 63 := by
  unfold position at read
  split at read
  · cases read
    decide
  · split at read
    · cases read
      omega
    · cases read

/-- The positions of a range that is read are an `ssize_t`, at least -1. -/
theorem parseRangeHeader_bounds {s : List Char} {ranges : List Range} (parsed : parseRangeHeader s = some ranges) :
    ∀ range ∈ ranges, -1 ≤ range.1 ∧ range.1 < 2 ^ 63 := by
  have added : ∀ {piece : List Char} {ranges : List Range}, addRange piece = some ranges →
      ∀ range ∈ ranges, -1 ≤ range.1 ∧ range.1 < 2 ^ 63 := by
    intro piece ranges read range mem
    unfold addRange at read
    split at read
    case h_1 =>
      cases read
      cases mem
    case h_2 first last _ =>
      obtain ⟨made, ranged, rfl⟩ := Option.map_eq_some_iff.1 read
      rw [List.mem_singleton] at mem
      subst mem
      unfold rangeOf at ranged
      split at ranged
      case h_1 low _ lowRead _ =>
        split at ranged
        · cases ranged
        · cases ranged
          exact position_bounds lowRead
      case h_2 => cases ranged
  have all : ∀ (pieces : List (List Char)) {lists : List (List Range)}, pieces.mapM addRange = some lists →
      ∀ range ∈ lists.flatten, -1 ≤ range.1 ∧ range.1 < 2 ^ 63 := by
    intro pieces
    induction pieces with
    | nil =>
      rintro lists read range mem
      cases read
      cases mem
    | cons piece pieces ih =>
      intro lists read range mem
      rw [List.mapM_cons] at read
      obtain ⟨here, first, rest⟩ := Option.bind_eq_some_iff.1 read
      obtain ⟨later, onward, made⟩ := Option.bind_eq_some_iff.1 rest
      cases made
      rw [List.flatten_cons, List.mem_append] at mem
      exact mem.elim (added first range) (ih onward range)
  unfold parseRangeHeader at parsed
  split at parsed
  · obtain ⟨lists, read, rfl⟩ := Option.map_eq_some_iff.1 parsed
    exact all _ read
  · cases parsed

/-! ## The check against the content -/

/-- A range of positions in content of this length. -/
def Within (contentLen : Int) (range : Range) : Prop :=
  0 ≤ range.1 ∧ range.1 ≤ range.2 ∧ range.2 ≤ contentLen - 1

/-- How many ranges begin no later than an earlier one ends. -/
def overlaps : Int → List Range → Nat
  | _, [] => 0
  | prevLast, range :: ranges => (if range.1 ≤ prevLast then 1 else 0) + overlaps (max prevLast range.2) ranges

theorem checkRanges_iff {contentLen prevFirst prevLast : Int} {overlapping : Nat} {ranges checked : List Range}
    (few : overlapping ≤ 2) :
    checkRanges contentLen prevFirst prevLast overlapping ranges = some checked ↔
      checked = ranges.map (normalize contentLen) ∧ (∀ range ∈ checked, Within contentLen range) ∧
        (prevFirst :: checked.map Prod.fst).Pairwise (· < ·) ∧ overlapping + overlaps prevLast checked ≤ 2 := by
  induction ranges generalizing prevFirst prevLast overlapping checked with
  | nil =>
    simp only [checkRanges, Option.some.injEq, List.map_nil]
    constructor
    · rintro rfl
      simpa [overlaps] using few
    · rintro ⟨rfl, -⟩
      rfl
  | cons range ranges ih =>
    simp only [checkRanges, List.map_cons]
    generalize normalize contentLen range = positions
    have rest : ∀ counted ≤ 2,
        (checkRanges contentLen (max prevFirst positions.1) (max prevLast positions.2) counted ranges).map (positions :: ·) =
            some checked ↔
          ∃ checked', positions :: checked' = checked ∧ checked' = ranges.map (normalize contentLen) ∧
            (∀ range ∈ checked', Within contentLen range) ∧
            (max prevFirst positions.1 :: checked'.map Prod.fst).Pairwise (· < ·) ∧
            counted + overlaps (max prevLast positions.2) checked' ≤ 2 := by
      intro counted few
      rw [Option.map_eq_some_iff]
      exact exists_congr fun checked' => by rw [ih few, and_comm]
    have tally : overlapping + (if positions.1 ≤ prevLast then 1 else 0) =
        if positions.1 ≤ prevLast then overlapping + 1 else overlapping := by
      split <;> rfl
    have under : ¬ positions.1 ≤ prevLast → (if positions.1 ≤ prevLast then overlapping + 1 else overlapping) ≤ 2 :=
      fun apart => by rw [if_neg apart]; exact few
    constructor
    · generalize made : (if positions.1 ≤ prevLast then overlapping + 1 else overlapping) = counted at tally under ⊢
      intro passed
      split at passed
      case isTrue => simp at passed
      case isFalse within =>
        split at passed
        case isTrue => simp at passed
        case isFalse ascends =>
          split at passed
          case isTrue => simp at passed
          case isFalse =>
            rw [rest counted (by omega)] at passed
            obtain ⟨checked', rfl, rfl, inside, increasing, many⟩ := passed
            rw [Int.max_eq_right (by omega)] at increasing
            refine ⟨rfl, List.forall_mem_cons.2 ⟨not_not.1 within, inside⟩, ?_, by rw [overlaps]; omega⟩
            rw [List.map_cons, List.pairwise_cons_cons_iff_of_trans]
            exact ⟨by omega, increasing⟩
    · rintro ⟨rfl, inside, increasing, many⟩
      rw [List.forall_mem_cons] at inside
      rw [List.map_cons, List.pairwise_cons_cons_iff_of_trans] at increasing
      rw [overlaps, ← Nat.add_assoc, tally] at many
      generalize (if positions.1 ≤ prevLast then overlapping + 1 else overlapping) = counted at under many ⊢
      obtain ⟨here, behind⟩ := inside
      rw [Within] at here
      rw [if_neg (not_not.2 here), if_neg (by omega), if_neg (by omega), rest counted (by omega)]
      refine ⟨_, rfl, rfl, behind, ?_, many⟩
      rw [Int.max_eq_right (by omega)]
      exact increasing.2

/-- Ranges pass exactly if they are not too many, lie in the content, ascend, and at most two of them begin
before an earlier one ends. -/
theorem rangeError_iff {asked checked : List Range} {contentLen : Nat} :
    rangeError asked contentLen = some checked ↔
      asked.length ≤ kRangeMaxCount ∧ checked = asked.map (normalize contentLen) ∧
        (∀ range ∈ checked, Within contentLen range) ∧ (checked.map Prod.fst).Pairwise (· < ·) ∧ overlaps (-1) checked ≤ 2 := by
  rw [rangeError]
  split
  case isTrue none =>
    subst none
    simp only [Option.some.injEq, List.length_nil, Nat.zero_le, List.map_nil, true_and]
    constructor
    · rintro rfl
      exact ⟨rfl, nofun, List.Pairwise.nil, Nat.zero_le _⟩
    · rintro ⟨rfl, -⟩
      rfl
  case isFalse =>
    split
    case isTrue many => exact ⟨nofun, fun passed => absurd passed.1 (by omega)⟩
    case isFalse few =>
      rw [checkRanges_iff (Nat.zero_le _), List.pairwise_cons, Nat.zero_add]
      constructor
      · rintro ⟨same, inside, ⟨-, ascend⟩, rest⟩
        exact ⟨by omega, same, inside, ascend, rest⟩
      · rintro ⟨-, same, inside, ascend, rest⟩
        refine ⟨same, inside, ⟨?_, ascend⟩, rest⟩
        intro first mem
        obtain ⟨range, listed, rfl⟩ := List.mem_map.1 mem
        have low := (inside range listed).1
        omega

end HttpRange

end SstCam
