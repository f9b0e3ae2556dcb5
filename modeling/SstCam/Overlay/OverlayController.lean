import SstCam.Overlay.FloatFormat
import SstCam.Overlay.OverlayScene

/-!
# OverlayController

Push-on-change over the scene (`app/overlay/services/overlay_controller`). Each method runs
under the controller's lock. The renderer is a function of the scene and of a fixed output
size, and the caching sink keeps the last frame pushed, so `frame` is the scene that was last
rendered: what the compositor blends onto every final frame. How `fmt` writes a `float` and how the
compiler casts one to `int` is a parameter (`FloatFormat`).
-/

namespace SstCam
set_option autoImplicit false

structure OverlayController where
  scene : OverlayScene := {}
  lastSignature : String := ""
  pushedOnce : Bool := false
  frame : Option RenderScene := none
  deriving DecidableEq, Repr

namespace OverlayController

section
variable [FloatFormat]

def elementSignature (e : RenderElement) : String :=
  toString e.shape.toNat ++ ";" ++ FloatFormat.text e.bounds.x1 ++ "," ++ FloatFormat.text e.bounds.y1 ++ "," ++
    FloatFormat.text e.bounds.x2 ++ "," ++ FloatFormat.text e.bounds.y2 ++ "," ++ toString e.bounds.z ++ ";" ++
    e.text ++ ";" ++ e.style.fillColor ++ ";" ++ e.style.textColor ++
    ";" ++ FloatFormat.text e.style.opacity ++ ";" ++ toString (FloatFormat.toInt e.style.cornerRadius) ++ "|"

def signature (scene : RenderScene) : String :=
  scene.elements.foldl (fun sig e => sig ++ elementSignature e)
    (toString scene.canvasWidth ++ "x" ++ toString scene.canvasHeight ++ "|")

end

def setLayout (layout : OverlayLayout) (c : OverlayController) : OverlayController :=
  { c with scene := c.scene.setLayout layout }

def setBindingData (data : BindingData) (c : OverlayController) : OverlayController :=
  { c with scene := c.scene.setBindingData data }

def activateBanner (templateId : String) (params : List (String × String)) (durationSOverride nowMs : Nat)
    (c : OverlayController) : OverlayController × Bool :=
  ({ c with scene := (c.scene.activateBanner templateId params durationSOverride nowMs).1 },
    (c.scene.activateBanner templateId params durationSOverride nowMs).2)

/-- Rebuilds the scene and pushes a frame only when the signature changed. -/
def refresh [FloatFormat] (nowMs : Nat) (c : OverlayController) : OverlayController × Bool :=
  let built := c.scene.build nowMs
  let sig := signature built.2
  if c.pushedOnce ∧ sig = c.lastSignature then ({ c with scene := built.1 }, false)
  else ({ scene := built.1, lastSignature := sig, pushedOnce := true, frame := some built.2 }, true)

/-- The data that text bindings resolve against. -/
def bindingData (c : OverlayController) : BindingData := c.scene.data

@[simp] theorem bindingData_setBindingData (data : BindingData) (c : OverlayController) :
    (c.setBindingData data).bindingData = data := rfl

@[simp] theorem bindingData_setLayout (layout : OverlayLayout) (c : OverlayController) :
    (c.setLayout layout).bindingData = c.bindingData := rfl

@[simp] theorem bindingData_refresh [FloatFormat] (nowMs : Nat) (c : OverlayController) :
    (c.refresh nowMs).1.bindingData = c.bindingData := by
  unfold refresh
  dsimp only
  split <;> rfl

@[simp] theorem bindingData_activateBanner (templateId : String) (params : List (String × String))
    (durationSOverride nowMs : Nat) (c : OverlayController) :
    (c.activateBanner templateId params durationSOverride nowMs).1.bindingData = c.bindingData :=
  OverlayScene.activateBanner_data templateId params durationSOverride nowMs c.scene

end OverlayController

end SstCam
