import SstCam.Proto.Messages

/-!
# Overlay proto mapper

The wire layout mapped to the domain layout (`app/overlay/overlay-proto-mapper.cpp`).
-/

namespace SstCam
set_option autoImplicit false

def mapShape : Proto.OverlayShape → OverlayShape
  | .rect => .rect
  | .text => .text
  | .circle => .circle
  | .unrecognized _ => .unknown

def mapBinding : Proto.OverlayBinding → OverlayBinding
  | .scoreA => .scoreA
  | .scoreB => .scoreB
  | .scoreVs => .scoreVs
  | .teamAName => .teamAName
  | .teamBName => .teamBName
  | .matchClock => .matchClock
  | .periodLabel => .periodLabel
  | .unrecognized _ => .static

def mapAlign : Proto.TextAlign → TextAlign
  | .center => .center
  | .right => .right
  | .unrecognized _ => .left

def mapWeight : Proto.FontWeight → FontWeight
  | .bold => .bold
  | .unrecognized _ => .normal

/-- An absent opacity is opaque, and the value is clamped to `[0, 1]`. -/
def mapStyle (style : Proto.OverlayStyle) : OverlayStyle where
  fillColor := style.fillColor
  textColor := style.textColor
  opacity := max 0 (min (style.opacity.getD 1) 1)
  cornerRadius := style.cornerRadius
  fontFamily := style.fontFamily
  fontSize := style.fontSize
  textAlign := mapAlign style.textAlign
  fontWeight := mapWeight style.fontWeight
  staticText := style.staticText

def mapElement (element : Proto.OverlayElement) : OverlayElement where
  id := element.id
  shape := mapShape element.shape
  bounds := element.bounds
  style := mapStyle element.style
  binding := mapBinding element.binding
  visible := element.visible.getD true

def mapLayoutFromProto (proto : Proto.OverlayLayout) : OverlayLayout where
  canvasWidth := proto.canvasWidth
  canvasHeight := proto.canvasHeight
  elements := proto.elements.map mapElement
  templates := proto.templates.map fun tmpl =>
    { eventType := tmpl.eventType, durationMs := tmpl.durationMs, elements := tmpl.elements.map mapElement }

end SstCam
