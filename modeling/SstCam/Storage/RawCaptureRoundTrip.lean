import SstCam.Lib.Decimal
import SstCam.Storage.RawCaptureNaming

/-!
# What the raw-capture names give back

The parser accepts the names laid out as the encoder lays them out, with any run of digits for the
index (`parseFileName_eq_some_iff`): no marker stands behind the last one, as neither the digits nor
the extension have an underscore. So a name gives back the identity it was written for, whatever the
group is. The converse needs the digits to be the ones the encoder writes (`Written`).
-/

namespace SstCam
set_option autoImplicit false

open Decimal

/-- The last of the numbers below `n` that pass. -/
theorem find?_reverse_range {p : Nat → Bool} {n i : Nat} :
    (List.range n).reverse.find? p = some i ↔ i < n ∧ p i = true ∧ ∀ j, i < j → j < n → p j = false := by
  induction n with
  | zero => simp
  | succ n ih =>
    rw [List.range_succ, List.reverse_append, List.reverse_singleton, List.singleton_append]
    cases top : p n with
    | true =>
      rw [List.find?_cons_of_pos top, Option.some.injEq]
      constructor
      · rintro rfl
        exact ⟨Nat.lt_succ_self n, top, fun j above below => absurd below (by omega)⟩
      · rintro ⟨below, -, last⟩
        by_contra ne
        simp [last n (by omega) (Nat.lt_succ_self n)] at top
    | false =>
      rw [List.find?_cons_of_neg (by simp [top]), ih]
      constructor
      · rintro ⟨below, here, last⟩
        refine ⟨by omega, here, fun j above under => ?_⟩
        rcases Nat.lt_succ_iff_lt_or_eq.1 under with lower | rfl
        · exact last j above lower
        · exact top
      · rintro ⟨below, here, last⟩
        have ne : i ≠ n := fun same => by simp [same, top] at here
        exact ⟨by omega, here, fun j above under => last j above (by omega)⟩

theorem rfind_eq_some_iff {text pattern : List Char} {i : Nat} :
    rfind text pattern = some i ↔
      i ≤ text.length ∧ pattern <+: text.drop i ∧ ∀ j, i < j → j ≤ text.length → ¬ pattern <+: text.drop j := by
  rw [rfind, find?_reverse_range]
  simp only [Nat.lt_succ_iff, List.isPrefixOf_iff_prefix, ← Bool.not_eq_true]

namespace RawCaptureNaming

/-- A name laid out as the encoder does, with these digits for the index. -/
def layout (group digits : List Char) : List Char :=
  kPrefix ++ group ++ kCameraMarker ++ digits ++ kExtension

theorem fileName_eq (id : RawCaptureIdentity) : fileName id = layout id.captureGroupId (Nat.toDigits 10 id.cameraIndex) := rfl

/-! ## The index -/

theorem parseIndex_eq_some_iff {digits : List Char} {index : Nat} :
    parseIndex digits = some index ↔ (∀ c ∈ digits, c.isDigit) ∧ index = value digits % 2 ^ 32 := by
  have run : ∀ n : Nat, digits.foldlM
      (fun index digit => if digit < '0' ∨ '9' < digit then none
        else some ((index * 10 + (digit.toNat - '0'.toNat)) % 2 ^ 32)) (n % 2 ^ 32) = some index ↔
      (∀ c ∈ digits, c.isDigit) ∧ index = Nat.ofDigitChars 10 digits n % 2 ^ 32 := by
    induction digits with
    | nil =>
      intro n
      rw [List.foldlM_nil, Option.pure_def, Option.some.injEq, Nat.ofDigitChars_nil]
      exact ⟨fun same => ⟨fun c mem => absurd mem List.not_mem_nil, same.symm⟩, fun same => same.2.symm⟩
    | cons c cs ih =>
      intro n
      rw [List.foldlM_cons, List.forall_mem_cons, isDigit_iff]
      by_cases outside : c < '0' ∨ '9' < c
      · have notDigit : ¬ ('0' ≤ c ∧ c ≤ '9') := by
          rw [not_and_or, Char.not_le, Char.not_le]
          exact outside
        rw [if_pos outside]
        simp [notDigit]
      · have isDigit : '0' ≤ c ∧ c ≤ '9' := by
          rw [not_or, Char.not_lt, Char.not_lt] at outside
          exact outside
        rw [if_neg outside, mul_add_mod, Option.bind_eq_bind, Option.bind_some, ih, Nat.ofDigitChars_cons, and_iff_right isDigit]
  exact run 0

/-! ## Where the marker stands -/

theorem underscore_not_mem_digits {digits : List Char} (h : ∀ c ∈ digits, c.isDigit) : '_' ∉ digits :=
  fun mem => absurd (h _ mem) (by decide)

/-- The marker before the index is the last one. -/
theorem rfind_layout (group : List Char) {digits : List Char} (h : ∀ c ∈ digits, c.isDigit) :
    rfind (layout group digits) kCameraMarker = some (kPrefix.length + group.length) := by
  have marker : kCameraMarker = '_' :: '_' :: "cam".toList := by decide
  have split : layout group digits = (kPrefix ++ group) ++ '_' :: '_' :: ("cam".toList ++ digits ++ kExtension) := by
    rw [layout, marker, List.append_assoc, List.append_assoc (kPrefix ++ group), List.append_assoc "cam".toList]
    rfl
  have clear : '_' ∉ "cam".toList ++ digits ++ kExtension := by
    rw [List.mem_append, List.mem_append, not_or, not_or]
    exact ⟨⟨by decide, underscore_not_mem_digits h⟩, by decide⟩
  generalize tail : "cam".toList ++ digits ++ kExtension = rest at split clear
  have first : kCameraMarker <+: '_' :: '_' :: rest :=
    ⟨digits ++ kExtension, by rw [← tail, marker, List.append_assoc]; rfl⟩
  rw [rfind_eq_some_iff, split, ← List.length_append]
  refine ⟨?_, by rwa [List.drop_left], fun j above _ stands => ?_⟩
  · exact (List.prefix_append _ _).length_le
  obtain ⟨k, rfl⟩ : ∃ k, j = (kPrefix ++ group).length + (k + 1) := ⟨j - (kPrefix ++ group).length - 1, by omega⟩
  rw [List.drop_length_add_append, List.drop_succ_cons] at stands
  obtain ⟨behind, same⟩ := stands
  -- the marker begins with two underscores, and behind its own there is at most one
  have underscores : '_' :: '_' :: ("cam".toList ++ behind) = ('_' :: rest).drop k := by
    rw [← same, marker]
    rfl
  cases k with
  | zero =>
    rw [List.drop_zero, List.cons_eq_cons] at underscores
    exact clear (underscores.2 ▸ List.mem_cons_self)
  | succ k =>
    rw [List.drop_succ_cons] at underscores
    exact clear (List.mem_of_mem_drop (underscores ▸ List.mem_cons_self))

/-- A slice extends the characters before it. -/
theorem take_append_slice {α : Type} {l : List α} {a b : Nat} (h : a ≤ b) : l.take a ++ (l.drop a).take (b - a) = l.take b := by
  rw [← List.take_add, Nat.add_sub_cancel' h]

/-- The parts of a name laid out, by the positions the parser cuts it at. -/
theorem layout_parts (group digits : List Char) :
    (layout group digits).take kPrefix.length = kPrefix ∧
      (layout group digits).drop ((layout group digits).length - kExtension.length) = kExtension ∧
      ((layout group digits).drop kPrefix.length).take (kPrefix.length + group.length - kPrefix.length) = group ∧
      ((layout group digits).drop (kPrefix.length + group.length + kCameraMarker.length)).take
        ((layout group digits).length - kExtension.length - (kPrefix.length + group.length + kCameraMarker.length)) = digits := by
  have length : (layout group digits).length =
      (kPrefix ++ group ++ kCameraMarker ++ digits).length + kExtension.length := by
    rw [layout, List.length_append]
  have digitsLength : (kPrefix ++ group ++ kCameraMarker ++ digits).length - (kPrefix ++ group ++ kCameraMarker).length =
      digits.length := by
    rw [List.length_append, Nat.add_sub_cancel_left]
  refine ⟨?_, ?_, ?_, ?_⟩
  · rw [layout, List.append_assoc, List.append_assoc, List.append_assoc, List.take_left]
  · rw [length, Nat.add_sub_cancel, layout, List.drop_left]
  · rw [Nat.add_sub_cancel_left, layout, List.append_assoc, List.append_assoc, List.append_assoc, List.drop_left,
      List.take_left]
  · rw [length, Nat.add_sub_cancel, ← List.length_append, ← List.length_append, digitsLength, layout,
      List.append_assoc _ digits, List.drop_left, List.take_left]

/-- A name laid out is accepted. -/
theorem parseFileName_layout {group digits : List Char} (nonempty : group ≠ []) (numeral : IsNumeral digits) :
    parseFileName (layout group digits) = some { captureGroupId := group, cameraIndex := value digits % 2 ^ 32 } := by
  obtain ⟨front, back, middle, indexStr⟩ := layout_parts group digits
  have long : kExtension.length ≤ (layout group digits).length := by
    simp only [layout, List.length_append]
    omega
  have behind : kPrefix.length < kPrefix.length + group.length :=
    Nat.lt_add_of_pos_right (List.length_pos_iff.2 nonempty)
  rw [parseFileName, if_neg (not_not.2 front), if_neg (not_or.2 ⟨Nat.not_lt.2 long, not_not.2 back⟩),
    rfind_layout group numeral.isDigit]
  dsimp only
  rw [if_neg (Nat.not_le.2 behind), middle, indexStr, if_neg (not_or.2 ⟨nonempty, numeral.nonempty⟩),
    parseIndex_eq_some_iff.2 ⟨numeral.isDigit, rfl⟩, Option.map_some]

/-- Nothing else is. -/
theorem layout_of_parseFileName {name : List Char} {id : RawCaptureIdentity} (accepted : parseFileName name = some id) :
    ∃ digits, name = layout id.captureGroupId digits ∧ id.captureGroupId ≠ [] ∧ IsNumeral digits ∧
      id.cameraIndex = value digits % 2 ^ 32 := by
  unfold parseFileName at accepted
  split at accepted
  · exact absurd accepted (by simp)
  rename_i front
  split at accepted
  · exact absurd accepted (by simp)
  rename_i back
  rw [not_or, not_not, Nat.not_lt] at back
  rw [not_not] at front
  cases found : rfind name kCameraMarker with
  | none => simp [found] at accepted
  | some markerPos =>
    simp only [found] at accepted
    split at accepted
    · exact absurd accepted (by simp)
    rename_i behind
    split at accepted
    · exact absurd accepted (by simp)
    rename_i nonempty
    rw [not_or] at nonempty
    obtain ⟨index, parsed, rfl⟩ := Option.map_eq_some_iff.1 accepted
    obtain ⟨isDigit, rfl⟩ := parseIndex_eq_some_iff.1 parsed
    refine ⟨_, ?_, nonempty.1, ⟨nonempty.2, isDigit⟩, rfl⟩
    have marker := (rfind_eq_some_iff.1 found).2.1
    rw [List.prefix_iff_eq_take] at marker
    have index : 0 < name.length - kExtension.length - (markerPos + kCameraMarker.length) :=
      Nat.pos_of_ne_zero fun zero => nonempty.2 (by rw [zero, List.take_zero])
    calc name = name.take (name.length - kExtension.length) ++ name.drop (name.length - kExtension.length) :=
          (List.take_append_drop _ name).symm
      _ = name.take (markerPos + kCameraMarker.length) ++ _ ++ kExtension := by
          rw [back.2, ← take_append_slice (Nat.le_of_lt (Nat.lt_of_sub_pos index))]
      _ = name.take markerPos ++ kCameraMarker ++ _ ++ kExtension := by
          rw [← take_append_slice (Nat.le_add_right markerPos _), Nat.add_sub_cancel_left, ← marker]
      _ = kPrefix ++ _ ++ kCameraMarker ++ _ ++ kExtension := by
          rw [← take_append_slice (Nat.le_of_lt (Nat.not_le.1 behind)), front]

/-- The names the parser accepts and what it makes of them. -/
theorem parseFileName_eq_some_iff {name : List Char} {id : RawCaptureIdentity} :
    parseFileName name = some id ↔
      ∃ digits, name = layout id.captureGroupId digits ∧ id.captureGroupId ≠ [] ∧ IsNumeral digits ∧
        id.cameraIndex = value digits % 2 ^ 32 := by
  constructor
  · exact layout_of_parseFileName
  · rintro ⟨digits, rfl, nonempty, numeral, index⟩
    rw [parseFileName_layout nonempty numeral, ← index]

/-! ## Round trips -/

theorem layout_inj {group group' digits digits' : List Char} (h : ∀ c ∈ digits, c.isDigit) (h' : ∀ c ∈ digits', c.isDigit)
    (same : layout group digits = layout group' digits') : group = group' ∧ digits = digits' := by
  have marker := same ▸ rfind_layout group h
  rw [rfind_layout group' h', Option.some.injEq] at marker
  simp only [layout, List.append_assoc, List.append_cancel_left_eq] at same
  obtain ⟨rfl, rest⟩ := List.append_inj same (by omega)
  exact ⟨rfl, List.append_cancel_right (List.append_cancel_left rest)⟩

theorem fileName_injective : Function.Injective fileName := by
  rintro ⟨group, index⟩ ⟨group', index'⟩ same
  obtain ⟨rfl, digits⟩ := layout_inj (isNumeral_toDigits _).isDigit (isNumeral_toDigits _).isDigit same
  have indices := congrArg value digits
  rw [value_toDigits, value_toDigits] at indices
  rw [RawCaptureIdentity.mk.injEq]
  exact ⟨rfl, indices⟩

/-- A name gives back the identity it was written for, and no two identities share a name. -/
theorem parseFileName_fileName :
    (∀ id : RawCaptureIdentity, id.captureGroupId ≠ [] → id.cameraIndex < 2 ^ 32 → parseFileName (fileName id) = some id) ∧
      ∀ id id' : RawCaptureIdentity, fileName id = fileName id' → id = id' := by
  refine ⟨fun id nonempty range => ?_, fun _ _ same => fileName_injective same⟩
  rw [fileName_eq, parseFileName_layout nonempty (isNumeral_toDigits _), value_toDigits, Nat.mod_eq_of_lt range]

theorem marker_in_group_round_trip :
    parseFileName (fileName { captureGroupId := "a__cam7.nv12__".toList, cameraIndex := 4294967295 }) =
      some { captureGroupId := "a__cam7.nv12__".toList, cameraIndex := 4294967295 } :=
  parseFileName_fileName.1 _ (by decide) (by decide)

/-- The digits between the last marker and the extension are those of a `uint32` as it is written. -/
def Written (name : List Char) : Prop :=
  ∀ group digits, name = layout group digits → group ≠ [] → IsNumeral digits →
    NoLeadingZero digits ∧ value digits < 2 ^ 32

/-- Where a parsed name is not the one of its identity. -/
theorem parseFileName_written {name : List Char} {id : RawCaptureIdentity} (parsed : parseFileName name = some id) :
    fileName id = name ↔ Written name := by
  obtain ⟨digits, rfl, nonempty, numeral, index⟩ := parseFileName_eq_some_iff.1 parsed
  have only : Written (layout id.captureGroupId digits) ↔ NoLeadingZero digits ∧ value digits < 2 ^ 32 := by
    constructor
    · intro written
      exact written _ _ rfl nonempty numeral
    · intro holds group digits' same _ numeral'
      rwa [← (layout_inj numeral.isDigit numeral'.isDigit same).2]
  rw [only, ← toDigits_value_iff numeral, fileName_eq, index]
  constructor
  · intro same
    have written := (layout_inj (isNumeral_toDigits _).isDigit numeral.isDigit same).2
    have range := congrArg value written
    rw [value_toDigits] at range
    exact ⟨range ▸ written, range ▸ Nat.mod_lt _ (by decide)⟩
  · rintro ⟨written, range⟩
    rw [Nat.mod_eq_of_lt range, written]

/-- The parser gives back the name of its identity exactly for the names with an index as it is
written, and no other of these is parsed alike. -/
theorem fileName_parseFileName_iff (name : List Char) :
    ((∀ id, parseFileName name = some id → fileName id = name) ↔ Written name) ∧
      (Written name → ∀ name', Written name' → name ≠ name' →
        ∀ id, parseFileName name = some id → parseFileName name' ≠ some id) := by
  constructor
  · constructor
    · intro back group digits same nonempty numeral
      have parsed := same ▸ parseFileName_layout nonempty numeral
      exact (parseFileName_written parsed).1 (back _ parsed) group digits same nonempty numeral
    · intro written id parsed
      exact (parseFileName_written parsed).2 written
  · intro written name' written' ne id parsed parsed'
    rw [← (parseFileName_written parsed).2 written, ← (parseFileName_written parsed').2 written'] at ne
    exact ne rfl

def paddedIndex : List Char := "raw__g__cam01.nv12".toList

def plainIndex : List Char := "raw__g__cam1.nv12".toList

def wrappedIndex : List Char := "raw__g__cam4294967297.nv12".toList

/-- Three names of camera 1 of a group, of which the encoder writes one. -/
theorem three_names_parse_alike :
    (∀ name ∈ [paddedIndex, plainIndex, wrappedIndex],
      parseFileName name = some { captureGroupId := "g".toList, cameraIndex := 1 }) ∧
    fileName { captureGroupId := "g".toList, cameraIndex := 1 } = plainIndex ∧
    paddedIndex ≠ plainIndex ∧ wrappedIndex ≠ plainIndex := by
  decide +kernel

theorem written_names_differ :
    ∀ id, parseFileName plainIndex = some id → parseFileName "raw__g__cam2.nv12".toList ≠ some id := by
  refine (fileName_parseFileName_iff _).2 ?_ _ ?_ (by decide)
  · refine (fileName_parseFileName_iff _).1.1 fun id parsed => ?_
    have read : parseFileName plainIndex = some { captureGroupId := "g".toList, cameraIndex := 1 } := by decide +kernel
    rw [← Option.some.inj (read.symm.trans parsed)]
    decide +kernel
  · refine (fileName_parseFileName_iff _).1.1 fun id parsed => ?_
    have read : parseFileName "raw__g__cam2.nv12".toList = some { captureGroupId := "g".toList, cameraIndex := 2 } := by
      decide +kernel
    rw [← Option.some.inj (read.symm.trans parsed)]
    decide +kernel

end RawCaptureNaming

end SstCam
