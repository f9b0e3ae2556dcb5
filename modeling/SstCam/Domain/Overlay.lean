import Mathlib.Data.Rat.Init
import Mathlib.Algebra.Field.Rat

/-!
# Overlay models

The declarative overlay design and the resolved scene (`domain/overlay/models`). The `float`
fields are only stored, compared and formatted by the modelled code; they are rationals here.
-/

namespace SstCam
set_option autoImplicit false

inductive OverlayShape where
  | unknown
  | rect
  | text
  | circle
  deriving DecidableEq, Repr

def OverlayShape.toNat : OverlayShape → Nat
  | .unknown => 0
  | .rect => 1
  | .text => 2
  | .circle => 3

inductive OverlayBinding where
  | static
  | scoreA
  | scoreB
  | scoreVs
  | teamAName
  | teamBName
  | matchClock
  | periodLabel
  deriving DecidableEq, Repr

inductive TextAlign where
  | left
  | center
  | right
  deriving DecidableEq, Repr

inductive FontWeight where
  | normal
  | bold
  deriving DecidableEq, Repr

inductive PeriodLabelState where
  | inPlay
  | halfTime
  | fullTime
  deriving DecidableEq, Repr

structure OverlayRect where
  x1 : ℚ := 0
  y1 : ℚ := 0
  x2 : ℚ := 0
  y2 : ℚ := 0
  z : Nat := 0
  deriving DecidableEq, Repr

structure OverlayStyle where
  fillColor : String := ""
  textColor : String := ""
  opacity : ℚ := 1
  cornerRadius : ℚ := 0
  fontFamily : String := ""
  fontSize : ℚ := 0
  textAlign : TextAlign := .left
  fontWeight : FontWeight := .normal
  staticText : String := ""
  deriving DecidableEq, Repr

structure OverlayElement where
  id : String := ""
  shape : OverlayShape := .unknown
  bounds : OverlayRect := {}
  style : OverlayStyle := {}
  binding : OverlayBinding := .static
  visible : Bool := true
  deriving DecidableEq, Repr

/-- An event-triggered template; its static texts may carry `{{param}}` placeholders. -/
structure OverlayTemplate where
  eventType : String := ""
  durationMs : Nat := 0
  elements : List OverlayElement := []
  deriving DecidableEq, Repr

structure OverlayLayout where
  canvasWidth : Nat := 0
  canvasHeight : Nat := 0
  elements : List OverlayElement := []
  templates : List OverlayTemplate := []
  deriving DecidableEq, Repr

/-- Live values that text bindings resolve against. -/
structure BindingData where
  scoreA : Nat := 0
  scoreB : Nat := 0
  period : Nat := 0
  clockSeconds : Nat := 0
  periodState : PeriodLabelState := .inPlay
  teamAName : String := ""
  teamBName : String := ""
  deriving DecidableEq, Repr

/-- A resolved element: its binding is evaluated to concrete text. -/
structure RenderElement where
  shape : OverlayShape := .unknown
  bounds : OverlayRect := {}
  style : OverlayStyle := {}
  text : String := ""
  deriving DecidableEq, Repr

/-- The flat scene handed to the renderer, its elements sorted by `bounds.z`. -/
structure RenderScene where
  canvasWidth : Nat := 0
  canvasHeight : Nat := 0
  elements : List RenderElement := []
  deriving DecidableEq, Repr

end SstCam
