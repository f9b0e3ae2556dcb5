import Mathlib.Data.List.Sort
import SstCam.Domain.Overlay
import SstCam.Domain.Session

/-!
# OverlayScene

The active layout, the binding data and the banners in flight, resolved into a flat scene
sorted by `z` (`app/overlay/services/overlay_scene`), and the binding data a session gives rise
to (`app/overlay/binding-sync.hpp`). Times are `uint64` milliseconds.
-/

namespace SstCam
set_option autoImplicit false

/-- Replaces each occurrence of the token, scanning on behind the value put in. `skip`
characters are still to be dropped of the occurrence last replaced. -/
def replaceToken (token value : List Char) : Nat → List Char → List Char
  | _, [] => []
  | skip + 1, _ :: cs => replaceToken token value skip cs
  | 0, c :: cs =>
    if token.isPrefixOf (c :: cs) then value ++ replaceToken token value (token.length - 1) cs
    else c :: replaceToken token value 0 cs

/-- The parameters come out of the map in key order. -/
def substituteParams (text : String) (params : List (String × String)) : String :=
  (params.insertionSort fun p q => p.1 ≤ q.1).foldl (fun text p =>
    String.ofList (replaceToken ("\x7b\x7b" ++ p.1 ++ "\x7d\x7d").toList p.2.toList 0 text.toList)) text

structure ActiveBanner where
  expiresAtMs : Nat := 0
  elements : List OverlayElement := []
  deriving DecidableEq, Repr

structure OverlayScene where
  layout : OverlayLayout := {}
  hasLayout : Bool := false
  data : BindingData := {}
  banners : List ActiveBanner := []
  deriving DecidableEq, Repr

namespace OverlayScene

/-- A new layout invalidates the banners in flight. -/
def setLayout (layout : OverlayLayout) (s : OverlayScene) : OverlayScene :=
  { s with layout, hasLayout := true, banners := [] }

def setBindingData (data : BindingData) (s : OverlayScene) : OverlayScene :=
  { s with data }

def activateBanner (templateId : String) (params : List (String × String)) (durationSOverride nowMs : Nat)
    (s : OverlayScene) : OverlayScene × Bool :=
  if !s.hasLayout then (s, false)
  else
    match s.layout.templates.find? (·.eventType = templateId) with
    | none => (s, false)
    | some tmpl =>
      let durationMs := if durationSOverride > 0 then durationSOverride * 1000 else tmpl.durationMs
      let elements := tmpl.elements.map fun e =>
        { e with visible := true, style := { e.style with staticText := substituteParams e.style.staticText params } }
      ({ s with banners := s.banners ++ [{ expiresAtMs := (nowMs + durationMs) % 2 ^ 64, elements }] }, true)

def expireBanners (nowMs : Nat) (s : OverlayScene) : OverlayScene :=
  { s with banners := s.banners.filter fun b => !decide (b.expiresAtMs ≤ nowMs) }

/-- `fmt`'s `:02` of a number. -/
def twoDigits (n : Nat) : String :=
  if n < 10 then "0" ++ toString n else toString n

def resolveText (data : BindingData) (element : OverlayElement) : String :=
  if element.shape ≠ .text then ""
  else
    match element.binding with
    | .static => element.style.staticText
    | .scoreA => toString data.scoreA
    | .scoreB => toString data.scoreB
    | .scoreVs => toString data.scoreA ++ " – " ++ toString data.scoreB
    | .teamAName => data.teamAName
    | .teamBName => data.teamBName
    | .matchClock => twoDigits (data.clockSeconds / 60) ++ ":" ++ twoDigits (data.clockSeconds % 60)
    | .periodLabel =>
      match data.periodState with
      | .halfTime => "HT"
      | .fullTime => "FT"
      | .inPlay => "P" ++ toString data.period

/-- The elements the scene shows, before the sort: the layout's, then each banner's. -/
def shown (s : OverlayScene) : List RenderElement :=
  ((s.layout.elements ++ s.banners.flatMap ActiveBanner.elements).filter (·.visible)).map fun e =>
    { shape := e.shape, bounds := e.bounds, style := e.style, text := resolveText s.data e }

/-- Expires the lapsed banners and resolves the scene. The insertion sort is stable, as
`std::stable_sort` is. -/
def build (nowMs : Nat) (s : OverlayScene) : OverlayScene × RenderScene :=
  let s := s.expireBanners nowMs
  (s, { canvasWidth := s.layout.canvasWidth
        canvasHeight := s.layout.canvasHeight
        elements := s.shown.insertionSort fun l r => l.bounds.z ≤ r.bounds.z })

@[simp] theorem setBindingData_data (data : BindingData) (s : OverlayScene) :
    (s.setBindingData data).data = data := rfl

@[simp] theorem setLayout_data (layout : OverlayLayout) (s : OverlayScene) :
    (s.setLayout layout).data = s.data := rfl

@[simp] theorem build_data (nowMs : Nat) (s : OverlayScene) : (s.build nowMs).1.data = s.data := rfl

@[simp] theorem activateBanner_data (templateId : String) (params : List (String × String))
    (durationSOverride nowMs : Nat) (s : OverlayScene) :
    (s.activateBanner templateId params durationSOverride nowMs).1.data = s.data := by
  unfold activateBanner
  split
  · rfl
  · split <;> rfl

end OverlayScene

/-- Binding data of a session: the names from its configuration, the rest from the live match. -/
def buildBindingData (state : SessionState) : BindingData where
  teamAName := (state.config.map (·.teamAName)).getD ""
  teamBName := (state.config.map (·.teamBName)).getD ""
  scoreA := state.liveMatch.scoreA
  scoreB := state.liveMatch.scoreB
  period := state.liveMatch.period
  clockSeconds := state.liveMatch.clockSeconds
  periodState :=
    match state.liveMatch.segment with
    | .halfTime => .halfTime
    | .fullTime => .fullTime
    | .inPlay => .inPlay

end SstCam
