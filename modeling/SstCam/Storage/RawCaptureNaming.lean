import Mathlib.Algebra.Group.Nat.Defs
import Mathlib.Data.List.Basic

/-!
# Raw-capture file names

The names of raw-capture files, `raw__<capture_group_id>__cam<N>.nv12`
(`domain/storage/services/raw-capture-naming.hpp`): the sink writes them and the download server
reads them back. A `std::string` is the list of its characters.
-/

namespace SstCam
set_option autoImplicit false

/-- The last position at which the pattern occurs. -/
def rfind (text pattern : List Char) : Option Nat :=
  (List.range (text.length + 1)).reverse.find? fun i => pattern.isPrefixOf (text.drop i)

structure RawCaptureIdentity where
  captureGroupId : List Char
  cameraIndex : Nat := 0
  deriving DecidableEq, Repr

namespace RawCaptureNaming

def kPrefix : List Char := "raw__".toList

def kCameraMarker : List Char := "__cam".toList

def kExtension : List Char := ".nv12".toList

def fileName (id : RawCaptureIdentity) : List Char :=
  kPrefix ++ id.captureGroupId ++ kCameraMarker ++ Nat.toDigits 10 id.cameraIndex ++ kExtension

/-- The index is a `uint32`. -/
def parseIndex (digits : List Char) : Option Nat :=
  digits.foldlM
    (fun index digit => if digit < '0' ∨ '9' < digit then none else some ((index * 10 + (digit.toNat - '0'.toNat)) % 2 ^ 32)) 0

/-- Where the marker is found it ends before the extension, with which it shares no character. -/
def parseFileName (fileName : List Char) : Option RawCaptureIdentity :=
  if fileName.take kPrefix.length ≠ kPrefix then none
  else if fileName.length < kExtension.length ∨ fileName.drop (fileName.length - kExtension.length) ≠ kExtension then none
  else
    match rfind fileName kCameraMarker with
    | none => none
    | some markerPos =>
      if markerPos ≤ kPrefix.length then none
      else
        let groupStart := kPrefix.length
        let group := (fileName.drop groupStart).take (markerPos - groupStart)
        let indexStart := markerPos + kCameraMarker.length
        let indexStr := (fileName.drop indexStart).take (fileName.length - kExtension.length - indexStart)
        if group = [] ∨ indexStr = [] then none
        else (parseIndex indexStr).map fun cameraIndex => { captureGroupId := group, cameraIndex }

/-- Two cameras of a group have different files. -/
theorem fileName_cameraIndex {group : List Char} {i j : Nat}
    (same : fileName { captureGroupId := group, cameraIndex := i } = fileName { captureGroupId := group, cameraIndex := j }) :
    i = j := by
  simp only [fileName, List.append_assoc, List.append_cancel_left_eq] at same
  have digits := List.append_cancel_right same
  have value := congrArg (Nat.ofDigitChars 10 · 0) digits
  simpa using value

example : fileName { captureGroupId := "abc-123-def".toList, cameraIndex := 1 } = "raw__abc-123-def__cam1.nv12".toList := by
  decide +kernel

example : parseFileName "raw__grp__cam12.nv12".toList = some { captureGroupId := "grp".toList, cameraIndex := 12 } := by
  decide +kernel

end RawCaptureNaming

end SstCam
