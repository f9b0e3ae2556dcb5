import SstCam.Pipeline.PipelineOrchestrator

/-!
# Crops in the frame

The postprocessor tests a crop by sums of `uint32`s, which wrap, and hands OpenCV the same numbers as
`int`s. A sum that wraps below the size of the frame passes the test with an offset or a length that
is negative as an `int`, and OpenCV's assertion throws (`process_fits_iff`). The decision of the repository
takes the whole frame, of which no region is outside (`static_process_within`).
-/

namespace SstCam
set_option autoImplicit false

/-- The fields of a crop are `uint32`s. -/
structure CropRect.InRange (crop : CropRect) : Prop where
  x : crop.x < 2 ^ 32
  y : crop.y < 2 ^ 32
  width : crop.width < 2 ^ 32
  height : crop.height < 2 ^ 32

/-- The sizes of a frame are `uint32`s. -/
def FrameGeometry.InRange (geometry : FrameGeometry) : Prop := geometry.width < 2 ^ 32 ∧ geometry.height < 2 ^ 32

/-- The crop ends in the frame. -/
def CropRect.Fits (crop : CropRect) (source : Frame) : Prop :=
  crop.x + crop.width ≤ source.geometry.width ∧ crop.y + crop.height ≤ source.geometry.height

instance (crop : CropRect) (source : Frame) : Decidable (crop.Fits source) := inferInstanceAs (Decidable (_ ∧ _))

/-- Along one axis: behind the wrapping test only the sum that did not wrap passes the assertion. -/
theorem castInt_within_iff {start length size : Nat} (hs : start < 2 ^ 32) (hl : length < 2 ^ 32) (int : size < 2 ^ 31)
    (tested : (start + length) % 2 ^ 32 ≤ size) :
    (0 ≤ castInt start ∧ 0 ≤ castInt length ∧ castInt start + castInt length ≤ size) ↔ start + length < 2 ^ 32 := by
  have start_cases : castInt start = start ∧ start < 2 ^ 31 ∨ castInt start < 0 ∧ 2 ^ 31 ≤ start := by
    unfold castInt
    split <;> omega
  have length_cases : castInt length = length ∧ length < 2 ^ 31 ∨ castInt length < 0 ∧ 2 ^ 31 ≤ length := by
    unfold castInt
    split <;> omega
  constructor
  · rintro ⟨hstart, hlength, -⟩
    rcases start_cases with ⟨-, below⟩ | ⟨negative, -⟩
    · rcases length_cases with ⟨-, below'⟩ | ⟨negative, -⟩
      · omega
      · omega
    · omega
  · intro plain
    rw [Nat.mod_eq_of_lt plain] at tested
    omega

/-- The sums of the crop test do not wrap. -/
def CropRect.Plain (crop : CropRect) : Prop :=
  crop.x + crop.width < 2 ^ 32 ∧ crop.y + crop.height < 2 ^ 32

theorem CropRect.within_iff [OpenCvAssertions] {crop : CropRect} (range : crop.InRange) {width height : Nat}
    (hw : width < 2 ^ 31) (hh : height < 2 ^ 31) (tx : (crop.x + crop.width) % 2 ^ 32 ≤ width)
    (ty : (crop.y + crop.height) % 2 ^ 32 ≤ height) :
    OpenCvAssertions.within crop.toRect width height = true ↔ crop.Plain := by
  have ends : ∀ {start length size : Nat}, start < 2 ^ 32 → length < 2 ^ 32 → size < 2 ^ 31 →
      (start + length) % 2 ^ 32 ≤ size → castInt start + castInt length < 2 ^ 31 := by
    intro start length size hs hl int tested
    unfold castInt
    split <;> split <;> omega
  rw [Plain, ← castInt_within_iff range.x range.width hw tx, ← castInt_within_iff range.y range.height hh ty,
    OpenCvAssertions.within_iff _ _ _ (ends range.x range.width hw tx) (ends range.y range.height hh ty)]
  simp only [CvRect.Inside, toRect]
  tauto

/-- A frame that is wrapped has sizes that are `int`s. -/
theorem matFits_of_wrapNv12 {mem : Memory} {frame : Frame} {m : Mat} (h : wrapNv12 mem frame = .ok (some m)) :
    matFits frame.geometry.width frame.geometry.height = true := by
  unfold wrapNv12 at h
  by_contra large
  rw [Bool.not_eq_true] at large
  simp only [large, Bool.not_false, if_true] at h
  repeat' split at h
  all_goals cases h

/-- A frame that is not wrapped has sizes that are not. -/
theorem wrapNv12_error {mem : Memory} {frame : Frame} {why : CvException} (h : wrapNv12 mem frame = .error why) :
    why = .size := by
  unfold wrapNv12 at h
  dsimp only at h
  repeat' split at h
  all_goals cases h
  rfl

namespace OpenCvPostprocessor

/-- What the postprocessor refuses before it takes the region: what it tests, and frames that cannot
be wrapped. -/
def Refuses (config : PostprocessConfig) (mem : Memory) (source : Frame) (crop : CropRect) : Prop :=
  source.memory ≠ .cpu ∨ source.geometry.width = 0 ∨ source.geometry.height = 0 ∨ crop.width = 0 ∨ crop.height = 0 ∨
    (crop.x + crop.width) % 2 ^ 32 > source.geometry.width ∨ (crop.y + crop.height) % 2 ^ 32 > source.geometry.height ∨
    config.outputWidth = 0 ∨ config.outputHeight = 0 ∨ outputChannels config.outputFormat = none ∨
    wrapNv12 mem source = .ok none

section

variable [OpenCvAssertions] {config : PostprocessConfig} {mem : Memory} {buf : Nat} {source : Frame} {crop : CropRect}

theorem process_refused (h : Refuses config mem source crop) : process config mem buf source crop = .ok none := by
  unfold process
  by_cases nv12 : source.format ≠ .nv12
  · rw [if_pos nv12]
  rw [if_neg nv12]
  by_cases cpu : source.memory ≠ .cpu
  · rw [if_pos cpu]
  rw [if_neg cpu]
  by_cases size : source.geometry.width = 0 ∨ source.geometry.height = 0
  · rw [if_pos size]
  rw [if_neg size]
  by_cases tested : crop.width = 0 ∨ crop.height = 0 ∨ (crop.x + crop.width) % 2 ^ 32 > source.geometry.width ∨
      (crop.y + crop.height) % 2 ^ 32 > source.geometry.height
  · rw [if_pos tested]
  rw [if_neg tested]
  by_cases output : config.outputWidth = 0 ∨ config.outputHeight = 0
  · rw [if_pos output]
  rw [if_neg output]
  cases supported : outputChannels config.outputFormat with
  | none => rfl
  | some channels =>
    have unwrapped : wrapNv12 mem source = .ok none := by
      simp only [Refuses, supported] at h
      tauto
    simp [unwrapped]

/-- What passes the tests comes down to the matrix and to the assertion. -/
theorem process_passed (nv12 : source.format = .nv12) (h : ¬ Refuses config mem source crop) :
    process config mem buf source crop = .error .size ∨
      (∃ m, wrapNv12 mem source = .ok (some m)) ∧
        ∃ out, out ≠ .ok none ∧ out ≠ .error .regionOfInterest ∧ process config mem buf source crop =
          if OpenCvAssertions.within crop.toRect source.geometry.width source.geometry.height then out
          else .error .regionOfInterest := by
  simp only [Refuses, not_or, not_not] at h
  obtain ⟨cpu, width, height, cropWidth, cropHeight, tx, ty, outWidth, outHeight, format, wraps⟩ := h
  obtain ⟨channels, supported⟩ := Option.ne_none_iff_exists'.1 format
  unfold process
  simp only [nv12, cpu, width, height, cropWidth, cropHeight, tx, ty, outWidth, outHeight, supported]
  rcases wrapped : wrapNv12 mem source with why | _ | m
  · obtain rfl := wrapNv12_error wrapped
    exact .inl rfl
  · exact absurd wrapped wraps
  · refine .inr ⟨⟨m, rfl⟩,
      if !intSizes config.outputWidth config.outputHeight then .error .size
      else .ok (some (makeOwnedFrame config.outputWidth config.outputHeight channels config.outputFormat source.frameId
        source.capturedAt buf)), ?_, ?_, ?_⟩
    · split <;> simp
    · split <;> simp
    · cases OpenCvAssertions.within crop.toRect source.geometry.width source.geometry.height <;> rfl

/-- The postprocessor takes no region outside the frame: it returns no frame or the crop fits, and OpenCV's
assertion holds. So it is exactly if the sums do not wrap or the crop is refused before the region is taken. -/
theorem process_fits_iff (nv12 : source.format = .nv12) (geometry : source.geometry.InRange) (range : crop.InRange) :
    (process config mem buf source crop = .ok none ∨ crop.Fits source) ∧
        process config mem buf source crop ≠ .error .regionOfInterest ↔
      crop.Plain ∨ Refuses config mem source crop := by
  by_cases refused : Refuses config mem source crop
  · have none : process config mem buf source crop = .ok none := process_refused refused
    exact iff_of_true ⟨.inl none, by simp [none]⟩ (.inr refused)
  have tested := refused
  simp only [Refuses, not_or, not_not, Nat.not_lt, gt_iff_lt] at tested
  obtain ⟨-, -, -, -, -, tx, ty, -, -, -, -⟩ := tested
  have fits : crop.Fits source ↔ crop.Plain := by
    obtain ⟨width, height⟩ := geometry
    simp only [CropRect.Fits, CropRect.Plain]
    omega
  rw [or_iff_left refused, ← fits]
  obtain size | ⟨⟨m, wrapped⟩, out, returns, stays, passed⟩ := @process_passed _ config mem buf source crop nv12 refused
  · simp [size]
  · have int := matFits_of_wrapNv12 wrapped
    simp only [matFits, Bool.and_eq_true, decide_eq_true_eq] at int
    have within := CropRect.within_iff range int.2 (by omega) tx ty
    rw [← fits] at within
    rw [passed]
    by_cases inside : crop.Fits source
    · rw [if_pos (within.2 inside)]
      exact iff_of_true ⟨.inr inside, stays⟩ inside
    · rw [if_neg (mt within.1 inside)]
      exact iff_of_false (fun holds => holds.2 rfl) inside

/-- The whole frame is a crop that fits, so the decision of the repository takes no region outside. -/
theorem static_process_within {cameras : List (Option FrameBundle)} {choice : CameraChoice} {bundle : FrameBundle}
    (decided : StaticDecision.decide cameras = some choice) (chosen : cameras[choice.cameraIndex]? = some (some bundle))
    (geometry : bundle.sourceFrame.geometry.InRange) :
    process config mem buf bundle.sourceFrame choice.crop ≠ .error .regionOfInterest := by
  have whole : choice.crop = { width := bundle.sourceFrame.geometry.width, height := bundle.sourceFrame.geometry.height } := by
    unfold StaticDecision.decide at decided
    split at decided
    case h_1 =>
      split at decided
      · cases decided
      · cases decided
        cases chosen
        rfl
    case h_2 => cases decided
  by_cases nv12 : bundle.sourceFrame.format = .nv12
  · obtain ⟨width, height⟩ := geometry
    have range : choice.crop.InRange := by
      rw [whole]
      constructor <;> dsimp only <;> omega
    have plain : choice.crop.Plain := by
      rw [whole, CropRect.Plain]
      dsimp only
      omega
    exact ((process_fits_iff nv12 ⟨width, height⟩ range).2 (.inl plain)).2
  · rw [process, if_pos nv12]
    exact nofun

end

/-- A picture of four by four pixels. -/
def smallPicture : Frame where
  format := .nv12
  memory := .cpu
  geometry := { width := 4, height := 4 }
  planes := [{ stride := 4, data := some 4096, size := 16 }, { stride := 4, data := some 4112, size := 8 }]

/-- A crop in the middle of it. -/
theorem middle_crop_fits :
    (process {} (fun _ => 0) 0 smallPicture { x := 1, y := 1, width := 2, height := 2 } = .ok none ∨
        CropRect.Fits { x := 1, y := 1, width := 2, height := 2 } smallPicture) ∧
      process {} (fun _ => 0) 0 smallPicture { x := 1, y := 1, width := 2, height := 2 } ≠ .error .regionOfInterest :=
  (process_fits_iff rfl ⟨by decide, by decide⟩ (by constructor <;> decide)).2 (.inl (by unfold CropRect.Plain; decide))

/-- A crop that begins at the last `uint32` and is two pixels wide ends, by the test, at 1. -/
theorem wrapped_crop_throws :
    process {} (fun _ => 0) 0 smallPicture { x := 4294967295, y := 0, width := 2, height := 2 } = .error .regionOfInterest ∧
      ¬ CropRect.Fits { x := 4294967295, y := 0, width := 2, height := 2 } smallPicture :=
  ⟨rfl, by decide⟩

end OpenCvPostprocessor

end SstCam
