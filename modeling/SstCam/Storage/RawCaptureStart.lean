import SstCam.Storage.FilesystemRawCaptureSink

/-!
# Starting a raw capture

`Start` opens the files of the cameras in turn and empties each; it gives up at the first that does
not open. What it opened before stays as it is then: nothing is put back. So a start that fails leaves
the disk alone, and one that succeeds spares what was there, only where there was nothing to lose
(`start_spares_iff`).
-/

namespace SstCam
set_option autoImplicit false

namespace RawCapture

variable {group : List Char}

/-- The file of a camera of the group. -/
def cameraFile (group : List Char) (camera : Nat) : List Char :=
  RawCaptureNaming.fileName { captureGroupId := group, cameraIndex := camera }

theorem cameraFile_inj {i j : Nat} : cameraFile group i = cameraFile group j ↔ i = j :=
  ⟨RawCaptureNaming.fileName_cameraIndex, fun same => same ▸ rfl⟩

/-- A writer as it is made. -/
def created (group : List Char) (camera : Nat) : CameraWriter := { file := { name := cameraFile group camera } }

end RawCapture

namespace FilesystemRawCaptureSink

open RawCapture

variable {group : List Char} {opens : Nat → Bool} {disk : Disk} {sink : FilesystemRawCaptureSink} {hasDir : Bool}

/-- The disk once the files of some cameras have been opened. -/
def emptied (group : List Char) (cameras : List Nat) (disk : Disk) : Disk := fun name =>
  if ∃ i ∈ cameras, name = cameraFile group i then some [] else disk name

@[simp] theorem emptied_nil : emptied group [] disk = disk := by
  funext name
  simp [emptied]

theorem emptied_cons (i : Nat) (is : List Nat) :
    emptied group (i :: is) disk = emptied group is (disk.set (cameraFile group i) []) := by
  funext name
  by_cases later : ∃ j ∈ is, name = cameraFile group j
  · simp [emptied, later]
  · by_cases here : name = cameraFile group i <;> simp [emptied, later, here, Disk.set]

/-- The files that are opened are those before the first that does not open. -/
theorem openWriters_eq (is : List Nat) : openWriters group opens disk is =
    (emptied group (is.takeWhile opens) disk, if is.all opens then some (is.map (created group)) else none) := by
  induction is generalizing disk with
  | nil => simp [openWriters]
  | cons i is ih =>
    cases opened : opens i with
    | false => simp [openWriters, opened]
    | true =>
      rw [openWriters, ih]
      by_cases all : is.all opens
      · simp [opened, all, emptied_cons, created, cameraFile]
      · simp [opened, all, emptied_cons, cameraFile]

/-- The cameras whose files are opened. -/
theorem mem_opened {camera : Nat} : camera ∈ (List.range sink.cameraCount).takeWhile opens ↔
    camera < sink.cameraCount ∧ ∀ earlier ≤ camera, opens earlier = true := by
  have sorted : ∀ is : List Nat, is.Pairwise (· < ·) →
      (camera ∈ is.takeWhile opens ↔ camera ∈ is ∧ ∀ i ∈ is, i ≤ camera → opens i = true) := by
    intro is increasing
    induction is with
    | nil => simp
    | cons i is ih =>
      rw [List.pairwise_cons] at increasing
      cases opened : opens i with
      | false =>
        rw [List.takeWhile_cons_of_neg (by simp [opened])]
        constructor
        · exact fun none => absurd none List.not_mem_nil
        · rintro ⟨mem, each⟩
          have first : i ≤ camera := by
            obtain rfl | later := List.mem_cons.1 mem
            · exact Nat.le_refl _
            · exact Nat.le_of_lt (increasing.1 camera later)
          exact absurd (each i List.mem_cons_self first) (by simp [opened])
      | true =>
        rw [List.takeWhile_cons_of_pos opened, List.mem_cons, ih increasing.2, List.mem_cons, List.forall_mem_cons]
        constructor
        · rintro (rfl | ⟨mem, each⟩)
          · exact ⟨.inl rfl, fun _ => opened, fun j hj le => absurd (increasing.1 j hj) (Nat.not_lt.2 le)⟩
          · exact ⟨.inr mem, fun _ => opened, each⟩
        · rintro ⟨rfl | mem, -, each⟩
          · exact .inl rfl
          · exact .inr ⟨mem, each⟩
  rw [sorted _ List.pairwise_lt_range, List.mem_range]
  apply and_congr_right
  intro within
  constructor
  · intro each earlier le
    exact each earlier (List.mem_range.2 (Nat.lt_of_le_of_lt le within)) le
  · intro each i _ le
    exact each i le

/-! ## Start -/

/-- `Start` comes to opening the files. -/
structure Opens (sink : FilesystemRawCaptureSink) (group : List Char) (hasDir : Bool) : Prop where
  idle : sink.capturing = false
  group : group ≠ []
  hasDir : hasDir = true

theorem start_eq (sink : FilesystemRawCaptureSink) (group : List Char) (hasDir : Bool) (opens : Nat → Bool) (disk : Disk) :
    sink.Opens group hasDir ∧
        (sink.start group hasDir opens disk).1 =
          emptied group ((List.range sink.cameraCount).takeWhile opens) disk ∧
        (sink.start group hasDir opens disk).2 =
          (if (List.range sink.cameraCount).all opens then
            ({ sink with
                writers := (List.range sink.cameraCount).map (created group)
                captureGroupId := group
                capturing := true }, true)
          else (sink, false)) ∨
      ¬ sink.Opens group hasDir ∧ sink.start group hasDir opens disk = (disk, sink, false) := by
  unfold start
  split
  case isTrue capturing => exact .inr ⟨fun h => absurd (capturing.symm.trans h.idle) (by decide), rfl⟩
  case isFalse idle =>
    split
    case isTrue unnamed => exact .inr ⟨fun h => h.group unnamed, rfl⟩
    case isFalse named =>
      split
      case isTrue noDir => exact .inr ⟨fun h => by simp [h.hasDir] at noDir, rfl⟩
      case isFalse dir =>
        refine .inl ⟨⟨by simpa using idle, named, by simpa using dir⟩, ?_⟩
        rw [openWriters_eq]
        by_cases all : (List.range sink.cameraCount).all opens <;> simp [all]

/-- A start that fails changes no file; one that succeeds keeps what any file held. -/
structure Spares (sink : FilesystemRawCaptureSink) (group : List Char) (hasDir : Bool) (opens : Nat → Bool) (disk : Disk) :
    Prop where
  failed : (sink.start group hasDir opens disk).2.2 = false → (sink.start group hasDir opens disk).1 = disk
  succeeded : (sink.start group hasDir opens disk).2.2 = true →
    ∀ name content, disk name = some content → (sink.start group hasDir opens disk).1 name = some content

/-- There is nothing to lose: each file that is opened is there and empty, or all are opened and it
is not there. -/
def NothingToLose (cameraCount : Nat) (group : List Char) (opens : Nat → Bool) (disk : Disk) : Prop :=
  ∀ camera < cameraCount, (∀ earlier ≤ camera, opens earlier = true) →
    disk (cameraFile group camera) = some [] ∨
      disk (cameraFile group camera) = none ∧ ∀ other < cameraCount, opens other = true

theorem emptied_self {cameras : List Nat} {camera : Nat} (opened : camera ∈ cameras) :
    emptied group cameras disk (cameraFile group camera) = some [] := if_pos ⟨camera, opened, rfl⟩

theorem emptied_eq_iff {cameras : List Nat} :
    emptied group cameras disk = disk ↔ ∀ camera ∈ cameras, disk (cameraFile group camera) = some [] := by
  constructor
  · intro same camera opened
    rw [← same, emptied_self opened]
  · intro empty
    funext name
    rw [emptied]
    split
    case isTrue opened =>
      obtain ⟨camera, mem, rfl⟩ := opened
      exact (empty camera mem).symm
    case isFalse => rfl

theorem emptied_keeps_iff {cameras : List Nat} :
    (∀ name content, disk name = some content → emptied group cameras disk name = some content) ↔
      ∀ camera ∈ cameras, disk (cameraFile group camera) = some [] ∨ disk (cameraFile group camera) = none := by
  constructor
  · intro keeps camera opened
    cases there : disk (cameraFile group camera) with
    | none => exact .inr rfl
    | some content =>
      have kept := keeps _ content there
      rw [emptied_self opened] at kept
      exact .inl kept.symm
  · intro empty name content there
    rw [emptied]
    split
    case isTrue opened =>
      obtain ⟨camera, mem, rfl⟩ := opened
      obtain hollow | missing := empty camera mem
      · exact hollow.symm.trans there
      · rw [missing] at there
        cases there
    case isFalse => exact there

/-- **When a start is atomic and spares what is there.** Exactly where it does not come to opening
files, or has nothing to lose in those it opens. -/
theorem start_spares_iff (sink : FilesystemRawCaptureSink) (group : List Char) (hasDir : Bool) (opens : Nat → Bool)
    (disk : Disk) : sink.Spares group hasDir opens disk ↔
      (sink.Opens group hasDir → NothingToLose sink.cameraCount group opens disk) := by
  obtain ⟨reached, files, outcome⟩ | ⟨refused, unchanged⟩ := sink.start_eq group hasDir opens disk
  · have all_iff : (List.range sink.cameraCount).all opens = true ↔ ∀ other < sink.cameraCount, opens other = true := by
      simp only [List.all_eq_true, List.mem_range]
    by_cases all : (List.range sink.cameraCount).all opens = true
    · rw [if_pos all] at outcome
      have spares : sink.Spares group hasDir opens disk ↔ ∀ name content, disk name = some content →
          emptied group ((List.range sink.cameraCount).takeWhile opens) disk name = some content := by
        rw [← files]
        exact ⟨fun h => h.succeeded (by rw [outcome]), fun keeps => ⟨by simp [outcome], fun _ => keeps⟩⟩
      have every := all_iff.1 all
      rw [spares, emptied_keeps_iff]
      simp only [mem_opened, and_imp]
      constructor
      · intro h _ camera within earlier
        exact (h camera within earlier).imp_right fun missing => ⟨missing, every⟩
      · intro h camera within earlier
        exact (h reached camera within earlier).imp_right And.left
    · rw [if_neg all] at outcome
      have spares : sink.Spares group hasDir opens disk ↔
          emptied group ((List.range sink.cameraCount).takeWhile opens) disk = disk := by
        rw [← files]
        exact ⟨fun h => h.failed (by rw [outcome]), fun same => ⟨fun _ => same, by simp [outcome]⟩⟩
      rw [spares, emptied_eq_iff]
      simp only [mem_opened, NothingToLose, mt all_iff.2 all, and_false, or_false, and_imp]
      exact ⟨fun h _ => h, fun h => h reached⟩
  · have spared : sink.Spares group hasDir opens disk := by
      constructor
      · rw [unchanged]
        exact fun _ => rfl
      · rw [unchanged]
        exact fun ok => absurd ok Bool.false_ne_true
    exact ⟨fun _ reached => absurd reached refused, fun _ => spared⟩

/-- The file of an earlier capture of the group is emptied although the second camera's does not open. -/
theorem start_empties_earlier_capture :
    ¬ ({ cameraCount := 2 } : FilesystemRawCaptureSink).Spares ['g'] true (· = 0)
      (fun name => if name = cameraFile ['g'] 0 then some [1] else none) := by
  intro spares
  have disk := spares.failed (by decide)
  exact absurd (congrFun disk (cameraFile ['g'] 0)) (by decide)

end FilesystemRawCaptureSink

end SstCam
