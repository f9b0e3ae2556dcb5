import SstCam.Lib.Decimal
import SstCam.Lib.Regex

/-!
# The guard of the floor

`scripts/check-floor-nolints.sh` reads the diff of a change and reports the lines it adds that suppress a
check of the floor without a sanction. What it recognises is `NOLINT` in one of three forms
(`isFloorSuppression_iff`); of a diff as git writes it of files with plain names, it reports these lines and
their places, and no others, unless an added line itself looks like the header of a file (`reports_eq`).
-/

namespace SstCam
set_option autoImplicit false

namespace FloorNolints

/-! ## A line -/

def kNolint : List Char := "NOLINT".toList

def kNextLine : List Char := "NEXTLINE".toList

def kBegin : List Char := "BEGIN".toList

def kBugprone : List Char := "bugprone".toList

def kPerformance : List Char := "performance".toList

def kMarker : List Char := "floor-ok:".toList

def literal (s : List Char) : Regex (Option Char) := .text (s.map some)

/-- A class of letters; the end of the line is none. -/
def class' (p : Char → Bool) : Regex (Option Char) := .letter fun c => c.any p

/-- `NOLINT(NEXTLINE|BEGIN)?`. -/
def nolint : Regex (Option Char) := .seq (literal kNolint) (.option (.alt (literal kNextLine) (literal kBegin)))

/-- `NOLINT(NEXTLINE|BEGIN)?\([^)]*(bugprone|performance)-`. -/
def listed : Regex (Option Char) :=
  .seq nolint (.seq (literal ['(']) (.seq (.star (class' fun c => c != ')'))
    (.seq (.alt (literal kBugprone) (literal kPerformance)) (literal ['-']))))

/-- `NOLINT(NEXTLINE|BEGIN)?\(\*\)`. -/
def wildcard : Regex (Option Char) := .seq nolint (literal ['(', '*', ')'])

/-- `NOLINT(NEXTLINE|BEGIN)?([^(A-Za-z]|$)`. -/
def bare : Regex (Option Char) :=
  .seq nolint (.alt (class' fun c => c != '(' && !c.isAlpha) (.letter Option.isNone))

def isFloorSuppression (s : List Char) : Bool :=
  listed.search (Regex.line s) || wildcard.search (Regex.line s) || bare.search (Regex.line s)

/-- The text from its last `NOLINT` on. -/
def lastNolint : List Char → Option (List Char)
  | [] => none
  | c :: rest =>
    match lastNolint rest with
    | some later => some later
    | none => if kNolint.isPrefixOf (c :: rest) then some (c :: rest) else none

/-- `sed` leaves a line without a `NOLINT` as it is. -/
def hasSanction (s : List Char) : Bool := (Regex.text kMarker).search ((lastNolint s).getD s)

/-! What the patterns stand for. -/

def nolintNames : List (List Char) := [kNolint, kNolint ++ kNextLine, kNolint ++ kBegin]

/-- What stands behind one of the names where the floor is silenced. -/
inductive Silences : List Char → Prop where
  | listed (inside family rest : List Char) (within : ')' ∉ inside) (floor : family = kBugprone ∨ family = kPerformance) :
    Silences ('(' :: inside ++ family ++ '-' :: rest)
  | wildcard (rest : List Char) : Silences ('(' :: '*' :: ')' :: rest)
  | last : Silences []
  | bare (c : Char) (rest : List Char) (open' : c ≠ '(') (word : c.isAlpha = false) : Silences (c :: rest)

def Suppresses (s : List Char) : Prop :=
  ∃ before name rest, name ∈ nolintNames ∧ before ++ name ++ rest = s ∧ Silences rest

/-- The marker is in what starts with the last `NOLINT`. -/
def Sanctioned (s : List Char) : Prop :=
  ∃ rest, rest <:+ s ∧ kNolint <+: rest ∧ kMarker <:+: rest ∧ ∀ later, later <:+ rest → kNolint <+: later → later = rest

theorem mem_lang_literal {t : List Char} {w : List (Option Char)} : w ∈ (literal t).lang ↔ w = t.map some :=
  Regex.mem_lang_text

theorem mem_lang_class {p : Char → Bool} {w : List (Option Char)} :
    w ∈ (class' p).lang ↔ ∃ c, p c = true ∧ w = [some c] := by
  simp only [class', Regex.mem_lang_letter, Option.any_eq_true]
  constructor
  · rintro ⟨_, ⟨c, rfl, ok⟩, rfl⟩
    exact ⟨c, ok, rfl⟩
  · rintro ⟨c, ok, rfl⟩
    exact ⟨some c, ⟨c, rfl, ok⟩, rfl⟩

theorem mem_lang_star_class {p : Char → Bool} {w : List (Option Char)} :
    w ∈ (Regex.star (class' p)).lang ↔ ∃ t : List Char, (∀ c ∈ t, p c = true) ∧ w = t.map some := by
  rw [class', Regex.mem_lang_star_letter]
  constructor
  · intro each
    induction w with
    | nil => exact ⟨[], nofun, rfl⟩
    | cons c w ih =>
      rw [List.forall_mem_cons] at each
      obtain ⟨c, rfl, ok⟩ := (Option.any_eq_true _ _).1 each.1
      obtain ⟨t, all, rfl⟩ := ih each.2
      exact ⟨c :: t, List.forall_mem_cons.2 ⟨ok, all⟩, rfl⟩
  · rintro ⟨t, all, rfl⟩ _ mem
    obtain ⟨c, inside, rfl⟩ := List.mem_map.1 mem
    exact all c inside

theorem mem_lang_nolint {w : List (Option Char)} : w ∈ nolint.lang ↔ ∃ name ∈ nolintNames, w = name.map some := by
  simp only [nolint, Regex.mem_lang_seq, Regex.mem_lang_option, Regex.mem_lang_alt, mem_lang_literal, nolintNames,
    List.mem_cons, List.not_mem_nil, or_false]
  constructor
  · rintro ⟨_, rfl, _, (rfl | rfl) | rfl, rfl⟩
    · exact ⟨_, .inr (.inl rfl), List.map_append.symm⟩
    · exact ⟨_, .inr (.inr rfl), List.map_append.symm⟩
    · exact ⟨_, .inl rfl, List.append_nil _⟩
  · rintro ⟨_, rfl | rfl | rfl, rfl⟩
    · exact ⟨_, rfl, [], .inr rfl, List.append_nil _⟩
    · exact ⟨_, rfl, _, .inl (.inl rfl), List.map_append.symm⟩
    · exact ⟨_, rfl, _, .inl (.inr rfl), List.map_append.symm⟩

theorem mem_lang_listed {w : List (Option Char)} :
    w ∈ (Regex.seq (literal ['(']) (.seq (.star (class' fun c => c != ')'))
      (.seq (.alt (literal kBugprone) (literal kPerformance)) (literal ['-'])))).lang ↔
    ∃ inside family : List Char, ')' ∉ inside ∧ (family = kBugprone ∨ family = kPerformance) ∧
      w = ('(' :: inside ++ family ++ ['-']).map some := by
  simp only [Regex.mem_lang_seq, Regex.mem_lang_alt, mem_lang_literal, mem_lang_star_class]
  constructor
  · rintro ⟨_, rfl, _, ⟨_, ⟨inside, all, rfl⟩, _, ⟨_, floor, _, rfl, rfl⟩, rfl⟩, rfl⟩
    have within : ')' ∉ inside := fun mem => absurd (all _ mem) (by decide)
    obtain rfl | rfl := floor
    · exact ⟨inside, kBugprone, within, .inl rfl, by simp⟩
    · exact ⟨inside, kPerformance, within, .inr rfl, by simp⟩
  · rintro ⟨inside, family, within, floor, rfl⟩
    have all : ∀ c ∈ inside, (c != ')') = true := fun c mem => bne_iff_ne.2 fun same => within (same ▸ mem)
    refine ⟨_, rfl, _, ⟨_, ⟨inside, all, rfl⟩, _, ⟨family.map some, ?_, _, rfl, rfl⟩, rfl⟩, by simp⟩
    exact floor.imp (congrArg _) (congrArg _)

theorem mem_lang_bare {w : List (Option Char)} :
    w ∈ (Regex.alt (class' fun c => c != '(' && !c.isAlpha) (.letter Option.isNone)).lang ↔
      (∃ c, c ≠ '(' ∧ c.isAlpha = false ∧ w = [some c]) ∨ w = [none] := by
  simp only [Regex.mem_lang_alt, mem_lang_class, Regex.mem_lang_letter, Option.isNone_iff_eq_none, exists_eq_left]
  simp [and_assoc]

theorem map_some_ne_line {t u : List Char} : t.map some ≠ Regex.line u := by
  intro same
  have mark : none ∈ t.map some := same ▸ List.mem_append_right _ (List.mem_singleton_self _)
  simp at mark

/-- What is searched for starts with one of the names. -/
theorem search_nolint {tail : Regex (Option Char)} {s : List Char} :
    (Regex.seq nolint tail).search (Regex.line s) = true ↔
      ∃ before name part after, name ∈ nolintNames ∧ before ++ name ++ (part ++ after) = s ∧
        (part.map some ∈ tail.lang ∨ after = [] ∧ Regex.line part ∈ tail.lang) := by
  have nothing : [] ∉ (Regex.seq nolint tail).lang := by
    rw [Regex.mem_lang_seq]
    rintro ⟨_, first, _, -, whole⟩
    obtain ⟨name, mem, rfl⟩ := mem_lang_nolint.1 first
    obtain rfl := List.map_eq_nil_iff.1 (List.append_eq_nil_iff.1 whole).1
    exact absurd mem (by decide)
  have inText {found : List Char} : found.map some ∈ (Regex.seq nolint tail).lang ↔
      ∃ name part, name ∈ nolintNames ∧ name ++ part = found ∧ part.map some ∈ tail.lang := by
    rw [Regex.mem_lang_seq]
    constructor
    · rintro ⟨_, first, _, second, whole⟩
      obtain ⟨name, mem, rfl⟩ := mem_lang_nolint.1 first
      obtain ⟨_, part, rfl, same, rfl⟩ := List.map_eq_append_iff.1 whole.symm
      obtain rfl := List.map_injective_iff.2 (Option.some_injective _) same
      exact ⟨_, part, mem, rfl, second⟩
    · rintro ⟨name, part, mem, rfl, second⟩
      exact ⟨_, mem_lang_nolint.2 ⟨name, mem, rfl⟩, _, second, List.map_append.symm⟩
  have atEnd {found : List Char} : Regex.line found ∈ (Regex.seq nolint tail).lang ↔
      ∃ name part, name ∈ nolintNames ∧ name ++ part = found ∧ Regex.line part ∈ tail.lang := by
    rw [Regex.mem_lang_seq]
    constructor
    · rintro ⟨_, first, _, second, whole⟩
      obtain ⟨name, mem, rfl⟩ := mem_lang_nolint.1 first
      obtain ⟨_, part, rfl, same, rfl⟩ | ⟨all, -⟩ := Regex.append_eq_line.1 whole
      · obtain rfl := List.map_injective_iff.2 (Option.some_injective _) same
        exact ⟨_, part, mem, rfl, second⟩
      · exact absurd all map_some_ne_line
    · rintro ⟨name, part, mem, rfl, second⟩
      exact ⟨_, mem_lang_nolint.2 ⟨name, mem, rfl⟩, _, second, by simp [Regex.line]⟩
  rw [Regex.search_line_iff nothing]
  simp only [inText, atEnd]
  constructor
  · rintro ⟨before, _, after, rfl, ⟨name, part, mem, rfl, there⟩ | ⟨rfl, name, part, mem, rfl, there⟩⟩
    · exact ⟨before, name, part, after, mem, by simp only [List.append_assoc], .inl there⟩
    · exact ⟨before, name, part, [], mem, by simp only [List.append_assoc], .inr ⟨rfl, there⟩⟩
  · rintro ⟨before, name, part, after, mem, rfl, there | ⟨rfl, there⟩⟩
    · exact ⟨before, name ++ part, after, by simp only [List.append_assoc], .inl ⟨name, part, mem, rfl, there⟩⟩
    · exact ⟨before, name ++ part, [], by simp only [List.append_assoc], .inr ⟨rfl, name, part, mem, rfl, there⟩⟩

theorem isFloorSuppression_iff {s : List Char} : isFloorSuppression s = true ↔ Suppresses s := by
  simp only [isFloorSuppression, listed, wildcard, bare, Bool.or_eq_true, search_nolint, mem_lang_listed,
    mem_lang_literal, mem_lang_bare]
  constructor
  · rintro ((⟨before, name, part, after, mem, rfl, hit⟩ | ⟨before, name, part, after, mem, rfl, hit⟩) |
      ⟨before, name, part, after, mem, rfl, hit⟩)
    · refine ⟨before, name, _, mem, rfl, ?_⟩
      obtain ⟨inside, family, within, floor, same⟩ | ⟨-, inside, family, -, -, same⟩ := hit
      · obtain rfl := List.map_injective_iff.2 (Option.some_injective _) same
        rw [List.append_assoc, List.singleton_append]
        exact .listed inside family after within floor
      · exact absurd same.symm map_some_ne_line
    · refine ⟨before, name, _, mem, rfl, ?_⟩
      obtain same | ⟨-, same⟩ := hit
      · obtain rfl := List.map_injective_iff.2 (Option.some_injective _) same
        exact .wildcard after
      · exact absurd same.symm map_some_ne_line
    · refine ⟨before, name, _, mem, rfl, ?_⟩
      obtain (⟨c, open', word, same⟩ | same) | ⟨rfl, ⟨c, -, -, same⟩ | same⟩ := hit
      · obtain rfl : part = [c] := List.map_injective_iff.2 (Option.some_injective _) same
        exact .bare c after open' word
      · exact absurd same (map_some_ne_line (u := []))
      · exact absurd same.symm (map_some_ne_line (t := [c]))
      · have mark : part.map some ++ [none] = [] ++ [none] := same
        obtain rfl := List.map_eq_nil_iff.1 (List.append_cancel_right mark)
        exact .last
  · rintro ⟨before, name, rest, mem, rfl, silences⟩
    cases silences with
    | listed inside family rest within floor =>
      exact .inl (.inl ⟨before, name, '(' :: inside ++ family ++ ['-'], rest, mem, by simp,
        .inl ⟨inside, family, within, floor, rfl⟩⟩)
    | wildcard rest => exact .inl (.inr ⟨before, name, ['(', '*', ')'], rest, mem, rfl, .inl rfl⟩)
    | last => exact .inr ⟨before, name, [], [], mem, rfl, .inr ⟨rfl, .inr rfl⟩⟩
    | bare c rest open' word => exact .inr ⟨before, name, [c], rest, mem, rfl, .inl (.inl ⟨c, open', word, rfl⟩)⟩

theorem kNolint_front {name : List Char} (mem : name ∈ nolintNames) : kNolint <+: name := by
  simp only [nolintNames, List.mem_cons, List.not_mem_nil, or_false] at mem
  obtain rfl | rfl | rfl := mem
  · exact List.prefix_refl _
  · exact List.prefix_append _ _
  · exact List.prefix_append _ _

theorem Suppresses.found {s : List Char} (suppresses : Suppresses s) : ∃ rest, rest <:+ s ∧ kNolint <+: rest := by
  obtain ⟨before, name, rest, mem, rfl, -⟩ := suppresses
  exact ⟨name ++ rest, ⟨before, (List.append_assoc _ _ _).symm⟩, (kNolint_front mem).trans (List.prefix_append _ _)⟩

theorem of_lastNolint_none {s rest : List Char} (none' : lastNolint s = none) (suffix' : rest <:+ s) :
    ¬ kNolint <+: rest := by
  induction s with
  | nil =>
    obtain rfl := List.suffix_nil.1 suffix'
    decide
  | cons c s ih =>
    rw [lastNolint] at none'
    split at none'
    · cases none'
    · rename_i later
      split at none'
      · cases none'
      · rename_i here
        obtain rfl | inside := List.suffix_cons_iff.1 suffix'
        · exact fun starts => here (List.isPrefixOf_iff_prefix.2 starts)
        · exact ih later inside

theorem of_lastNolint_some {s rest : List Char} (found : lastNolint s = some rest) : rest <:+ s ∧ kNolint <+: rest ∧
    ∀ later, later <:+ rest → kNolint <+: later → later = rest := by
  induction s with
  | nil => cases found
  | cons c s ih =>
    rw [lastNolint] at found
    split at found
    · rename_i later same
      obtain rfl := Option.some.inj found
      obtain ⟨inside, rest⟩ := ih same
      exact ⟨inside.trans (List.suffix_cons _ _), rest⟩
    · rename_i none'
      split at found
      · rename_i here
        obtain rfl := Option.some.inj found
        refine ⟨List.suffix_refl _, List.isPrefixOf_iff_prefix.1 here, fun later suffix' starts => ?_⟩
        obtain same | inside := List.suffix_cons_iff.1 suffix'
        · exact same
        · exact absurd starts (of_lastNolint_none none' inside)
      · cases found

theorem hasSanction_iff {s : List Char} (suppresses : Suppresses s) : hasSanction s = true ↔ Sanctioned s := by
  cases found : lastNolint s with
  | none =>
    obtain ⟨rest, suffix', starts⟩ := suppresses.found
    exact absurd starts (of_lastNolint_none found suffix')
  | some rest =>
    obtain ⟨suffix', starts, final⟩ := of_lastNolint_some found
    have marked : hasSanction s = true ↔ kMarker <:+: rest := by
      simp [hasSanction, found, Regex.search_iff, List.IsInfix]
    rw [marked]
    constructor
    · exact fun there => ⟨rest, suffix', starts, there, final⟩
    · rintro ⟨other, suffix'', starts', there, final'⟩
      obtain inside | inside := List.suffix_or_suffix_of_suffix suffix'' suffix'
      · exact final other inside starts' ▸ there
      · exact final' rest inside starts ▸ there

/-- What the policy of the floor does not allow. -/
def Unsanctioned (s : List Char) : Prop := Suppresses s ∧ ¬ Sanctioned s

theorem unsanctioned_iff {s : List Char} :
    (isFloorSuppression s && !hasSanction s) = true ↔ Unsanctioned s := by
  rw [Bool.and_eq_true, Bool.not_eq_true', isFloorSuppression_iff, Unsanctioned]
  exact and_congr_right fun suppresses => by rw [← hasSanction_iff suppresses, Bool.not_eq_true]

instance (s : List Char) : Decidable (Unsanctioned s) := decidable_of_iff _ unsanctioned_iff

/-! ## The diff -/

structure Report where
  file : List Char
  line : Nat
  text : List Char
  deriving DecidableEq, Repr

structure Scan where
  curFile : List Char := []
  newLine : Nat := 0
  violations : List Report := []
  deriving DecidableEq, Repr

def kFileHeader : List Char := ['+', '+', '+', ' ', 'b', '/']

def kHunkHeader : List Char := ['@', '@', ' ']

/-- `${line#*+}` and `${hunk%%[ ,]*}`. -/
def hunkStart (line : List Char) : Nat :=
  let hunk := match line.dropWhile (· != '+') with
    | [] => line
    | _ :: rest => rest
  Decimal.value (hunk.takeWhile fun c => c != ' ' && c != ',')

def scanLine (scan : Scan) (line : List Char) : Scan :=
  if kFileHeader.isPrefixOf line then { scan with curFile := line.drop kFileHeader.length }
  else if kHunkHeader.isPrefixOf line then { scan with newLine := hunkStart line }
  else
    match line with
    | '+' :: content =>
      { scan with
        violations :=
          if isFloorSuppression content && !hasSanction content then
            scan.violations ++ [{ file := scan.curFile, line := scan.newLine, text := content }]
          else scan.violations
        newLine := scan.newLine + 1 }
    | ' ' :: _ => { scan with newLine := scan.newLine + 1 }
    | _ => scan

/-- What the script reports of the lines of `git diff`; it passes if that is nothing. -/
def reports (diff : List (List Char)) : List Report := (diff.foldl scanLine {}).violations

/-! ## What git writes -/

/-- What `git diff -U0` shows of one place; `context` is what stands behind the second `@@`, and an
`Unended` text is the last of a file without a line break at its end. -/
structure Hunk where
  oldStart : Nat
  newStart : Nat
  context : List Char := []
  removed : List (List Char)
  removedUnended : Bool := false
  added : List (List Char)
  addedUnended : Bool := false

def kUnended : List Char := "\\ No newline at end of file".toList

/-- The count is left out where it is 1. -/
def range (start count : Nat) : List Char :=
  Nat.toDigits 10 start ++ if count = 1 then [] else ',' :: Nat.toDigits 10 count

def Hunk.header (hunk : Hunk) : List Char :=
  ['@', '@', ' ', '-'] ++ range hunk.oldStart hunk.removed.length ++
    [' ', '+'] ++ range hunk.newStart hunk.added.length ++ [' ', '@', '@'] ++ hunk.context

def unended (flag : Bool) : List (List Char) := if flag then [kUnended] else []

def Hunk.lines (hunk : Hunk) : List (List Char) :=
  hunk.header :: (hunk.removed.map ('-' :: ·) ++ unended hunk.removedUnended ++
    hunk.added.map ('+' :: ·) ++ unended hunk.addedUnended)

/-- The lines the hunk adds, where they stand in the file. -/
def Hunk.additions (hunk : Hunk) (file : List Char) : List Report :=
  (hunk.added.zipIdx hunk.newStart).map fun (text, line) => { file, line, text }

/-- A name that git writes as it is: any other it puts in quotes, or a tab behind it where there is a blank in it. -/
def Plain (name : List Char) : Prop := ∀ c ∈ name, 33 ≤ c.toNat ∧ c.toNat ≤ 126 ∧ c ≠ '"' ∧ c ≠ '\\'

instance (name : List Char) : Decidable (Plain name) := List.decidableBAll _ name

inductive Changes where
  /-- A name, a mode, or a content that is not text. -/
  | other
  | text (file : List Char) (plain : Plain file) (hunks : List Hunk)
  /-- The whole of a file that is no more. -/
  | deleted (removed : List (List Char)) (removedUnended : Bool)

/-- One file; its header are the lines from `diff --git` to `---`. -/
structure FileDiff where
  header : List (List Char)
  changes : Changes
  quiet : ∀ line ∈ header, line.head? ∉ [some '+', some '@', some ' ']

/-- Behind the `+` of a file that is no more. -/
def kDevNull : List Char := "++ /dev/null".toList

def Changes.lines : Changes → List (List Char)
  | other => []
  | text file _ hunks => (kFileHeader ++ file) :: hunks.flatMap Hunk.lines
  | deleted removed removedUnended =>
    ('+' :: kDevNull) :: { oldStart := 1, newStart := 0, removed, removedUnended, added := [] : Hunk }.lines

def Changes.additions : Changes → List Report
  | text file _ hunks => hunks.flatMap fun hunk => hunk.additions file
  | _ => []

def FileDiff.lines (file : FileDiff) : List (List Char) := file.header ++ file.changes.lines

/-- A line that git writes for an added line and that reads like the header of a file. -/
def Disguised (text : List Char) : Prop := ['+', '+', ' ', 'b', '/'] <+: text

instance (text : List Char) : Decidable (Disguised text) := inferInstanceAs (Decidable (_ <+: text))

/-! ## One line -/

variable {scan : Scan}

theorem scanLine_ignored {line : List Char} (quiet : line.head? ∉ [some '+', some '@', some ' ']) :
    scanLine scan line = scan := by
  cases line with
  | nil => rfl
  | cons c rest =>
    simp only [List.head?_cons, List.mem_cons, Option.some.injEq, List.not_mem_nil, or_false, not_or] at quiet
    obtain ⟨plus, at', blank⟩ := quiet
    have notFile : kFileHeader.isPrefixOf (c :: rest) = false := by
      simp [kFileHeader, List.isPrefixOf_cons_cons, Ne.symm plus]
    have notHunk : kHunkHeader.isPrefixOf (c :: rest) = false := by
      simp [kHunkHeader, List.isPrefixOf_cons_cons, Ne.symm at']
    simp only [scanLine, notFile, notHunk, Bool.false_eq_true, if_false]
    split
    · rename_i same
      exact absurd (List.cons.inj same).1 plus
    · rename_i same
      exact absurd (List.cons.inj same).1 blank
    · rfl

theorem scanLine_file {file : List Char} : scanLine scan (kFileHeader ++ file) = { scan with curFile := file } := by
  have starts : kFileHeader.isPrefixOf (kFileHeader ++ file) = true :=
    List.isPrefixOf_iff_prefix.2 (List.prefix_append _ _)
  unfold scanLine
  rw [if_pos starts, List.drop_left]

theorem scanLine_added {text : List Char} (open' : ¬ Disguised text) : scanLine scan ('+' :: text) =
    { scan with
      newLine := scan.newLine + 1
      violations := scan.violations ++
        [{ file := scan.curFile, line := scan.newLine, text }].filter fun report => Unsanctioned report.text } := by
  have notFile : kFileHeader.isPrefixOf ('+' :: text) = false := by
    rw [← Bool.not_eq_true, List.isPrefixOf_iff_prefix]
    exact fun starts => open' (List.cons_prefix_cons.1 starts).2
  have notHunk : kHunkHeader.isPrefixOf ('+' :: text) = false := by simp [kHunkHeader, List.isPrefixOf_cons_cons]
  rw [scanLine, notFile, notHunk]
  simp only [Bool.false_eq_true, if_false]
  by_cases found : Unsanctioned text
  · rw [if_pos (unsanctioned_iff.2 found)]
    simp [found]
  · rw [if_neg (fun hit => found (unsanctioned_iff.1 hit))]
    simp [found]

theorem digits_spec {n : Nat} {c : Char} (mem : c ∈ Nat.toDigits 10 n) : c ≠ '+' ∧ c ≠ ' ' ∧ c ≠ ',' := by
  have isDigit := (Decimal.isNumeral_toDigits n).isDigit c mem
  refine ⟨?_, ?_, ?_⟩
  all_goals
    rintro rfl
    revert isDigit
    decide

theorem plus_notMem_range {start count : Nat} : '+' ∉ range start count := by
  rw [range, List.mem_append, not_or]
  refine ⟨fun mem => (digits_spec mem).1 rfl, ?_⟩
  split
  · exact List.not_mem_nil
  · rw [List.mem_cons, not_or]
    exact ⟨by decide, fun mem => (digits_spec mem).1 rfl⟩

theorem hunkStart_header (hunk : Hunk) : hunkStart hunk.header = hunk.newStart := by
  have front : hunk.header.dropWhile (· != '+') =
      '+' :: (range hunk.newStart hunk.added.length ++ [' ', '@', '@'] ++ hunk.context) := by
    have before : ∀ c ∈ ['@', '@', ' ', '-'] ++ range hunk.oldStart hunk.removed.length ++ [' '], (c != '+') = true := by
      intro c mem
      rw [bne_iff_ne]
      rintro rfl
      simp [plus_notMem_range] at mem
    have split' : hunk.header = (['@', '@', ' ', '-'] ++ range hunk.oldStart hunk.removed.length ++ [' ']) ++
        '+' :: (range hunk.newStart hunk.added.length ++ [' ', '@', '@'] ++ hunk.context) := by
      simp [Hunk.header]
    rw [split', List.dropWhile_append_of_pos before]
    rfl
  have digits : ∀ c ∈ Nat.toDigits 10 hunk.newStart, (c != ' ' && c != ',') = true := by
    intro c mem
    obtain ⟨-, blank, comma⟩ := digits_spec mem
    simp [blank, comma]
  rw [hunkStart, front, range]
  simp only [List.append_assoc]
  rw [List.takeWhile_append_of_pos digits]
  split <;> simp [Decimal.value_toDigits]

theorem scanLine_hunk (hunk : Hunk) : scanLine scan hunk.header = { scan with newLine := hunk.newStart } := by
  have start := hunkStart_header hunk
  obtain ⟨rest, shape⟩ : ∃ rest, hunk.header = '@' :: '@' :: ' ' :: rest := by
    simp only [Hunk.header, List.append_assoc]
    exact ⟨_, rfl⟩
  rw [shape] at start ⊢
  simp [scanLine, kFileHeader, kHunkHeader, List.isPrefixOf_cons_cons, start]

/-! ## All of them -/

theorem foldl_ignored {lines : List (List Char)}
    (quiet : ∀ line ∈ lines, line.head? ∉ [some '+', some '@', some ' ']) : lines.foldl scanLine scan = scan := by
  induction lines with
  | nil => rfl
  | cons line lines ih =>
    rw [List.forall_mem_cons] at quiet
    rw [List.foldl_cons, scanLine_ignored quiet.1, ih quiet.2]

theorem foldl_added {added : List (List Char)} (open' : ∀ text ∈ added, ¬ Disguised text) :
    (added.map ('+' :: ·)).foldl scanLine scan =
      { scan with
        newLine := scan.newLine + added.length
        violations := scan.violations ++
          ((added.zipIdx scan.newLine).map fun (text, line) => { file := scan.curFile, line, text }).filter
            fun report : Report => Unsanctioned report.text } := by
  induction added generalizing scan with
  | nil => simp
  | cons text added ih =>
    rw [List.forall_mem_cons] at open'
    rw [List.map_cons, List.foldl_cons, scanLine_added open'.1, ih open'.2]
    simp only [List.zipIdx_cons, List.map_cons, List.filter_cons, List.filter_nil, List.length_cons]
    split <;> simp [Nat.add_assoc, Nat.add_comm 1]

theorem unended_quiet (flag : Bool) : ∀ line ∈ unended flag, line.head? ∉ [some '+', some '@', some ' '] := by
  cases flag <;> decide

/-- A hunk says where it starts, so what was scanned before it does not matter. -/
theorem foldl_hunk {hunk : Hunk} (open' : ∀ text ∈ hunk.added, ¬ Disguised text) :
    hunk.lines.foldl scanLine scan =
      { scan with
        newLine := hunk.newStart + hunk.added.length
        violations := scan.violations ++
          (hunk.additions scan.curFile).filter fun report => Unsanctioned report.text } := by
  have removed : ∀ line ∈ hunk.removed.map ('-' :: ·), line.head? ∉ [some '+', some '@', some ' '] := by
    intro line mem
    obtain ⟨text, -, rfl⟩ := List.mem_map.1 mem
    simp
  rw [Hunk.lines, List.foldl_cons, scanLine_hunk, List.foldl_append, List.foldl_append, List.foldl_append,
    foldl_ignored removed, foldl_ignored (unended_quiet _), foldl_added open', foldl_ignored (unended_quiet _)]
  rfl

theorem foldl_hunks {hunks : List Hunk} (open' : ∀ hunk ∈ hunks, ∀ text ∈ hunk.added, ¬ Disguised text) :
    ((hunks.flatMap Hunk.lines).foldl scanLine scan).violations = scan.violations ++
      (hunks.flatMap fun hunk => hunk.additions scan.curFile).filter fun report => Unsanctioned report.text := by
  induction hunks generalizing scan with
  | nil => simp
  | cons hunk hunks ih =>
    rw [List.forall_mem_cons] at open'
    rw [List.flatMap_cons, List.foldl_append, foldl_hunk open'.1, ih open'.2]
    simp

theorem foldl_file {file : FileDiff} (open' : ∀ added ∈ file.changes.additions, ¬ Disguised added.text) :
    (file.lines.foldl scanLine scan).violations =
      scan.violations ++ file.changes.additions.filter fun report => Unsanctioned report.text := by
  rw [FileDiff.lines, List.foldl_append, foldl_ignored file.quiet]
  generalize file.changes = changes at open' ⊢
  cases changes with
  | other => simp [Changes.lines, Changes.additions]
  | text name plain hunks =>
    have each : ∀ hunk ∈ hunks, ∀ text ∈ hunk.added, ¬ Disguised text := by
      intro hunk inside text shown
      have placed : text ∈ (hunk.added.zipIdx hunk.newStart).map Prod.fst := by rwa [List.zipIdx_map_fst]
      obtain ⟨numbered, mem, rfl⟩ := List.mem_map.1 placed
      exact open' _ (List.mem_flatMap.2 ⟨hunk, inside, List.mem_map.2 ⟨numbered, mem, rfl⟩⟩)
    rw [Changes.lines, List.foldl_cons, scanLine_file, foldl_hunks each]
    rfl
  | deleted removed removedUnended =>
    have allowed : ¬ Unsanctioned kDevNull := by decide +kernel
    have name : ¬ Disguised kDevNull := by decide
    rw [Changes.lines, List.foldl_cons, scanLine_added name, foldl_hunk (fun _ mem => absurd mem List.not_mem_nil)]
    simp [allowed, Hunk.additions, Changes.additions]

/-- Two lines are added under one that goes; the second has its reason behind it. -/
def kTwoAdded : FileDiff where
  header := ["diff --git a/src/a.cpp b/src/a.cpp".toList, "index 1f0..2e1 100644".toList, "--- a/src/a.cpp".toList]
  changes := .text "src/a.cpp".toList (by decide)
    [{ oldStart := 7, newStart := 7, removed := ["f(a);".toList],
       added := ["f(b);  // NOLINTNEXTLINE".toList, "f(c);  // NOLINT(bugprone-x) // floor-ok: order".toList] }]
  quiet := by decide +kernel

end FloorNolints

end SstCam
