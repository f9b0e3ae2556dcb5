import SstCam.Lib.Delimited
import SstCam.Lib.Runs
import SstCam.Overlay.OverlayLook

/-!
# What push-on-change sees

`OverlayController::Refresh` renders only when the signature of the scene changed. The renderer
reads more of an element than the signature holds. Where no text carries a separator, the
signature tells exactly the `signed` fields (`signature_eq_iff`); what the renderer reads beyond
them, the font, the alignment and the fraction of the corner radius, may change unseen, and every
change is shown exactly where none of them changes alone (`push_on_change_iff`).
-/

namespace SstCam
set_option autoImplicit false

open Delimited

/-! ## What the renderer reads -/

/-- What the Cairo renderer reads of an element. -/
structure PaintedElement where
  shape : OverlayShape
  x1 : ℚ
  y1 : ℚ
  x2 : ℚ
  y2 : ℚ
  fillColor : String
  textColor : String
  opacity : ℚ
  cornerRadius : ℚ
  text : String
  fontFamily : String
  fontSize : ℚ
  fontWeight : FontWeight
  textAlign : TextAlign
  deriving DecidableEq, Repr

structure PaintedScene where
  canvasWidth : Nat
  canvasHeight : Nat
  elements : List PaintedElement
  deriving DecidableEq, Repr

structure OutputSize where
  width : Nat := 0
  height : Nat := 0
  deriving DecidableEq, Repr

def RenderElement.painted (e : RenderElement) : PaintedElement where
  shape := e.shape
  x1 := e.bounds.x1
  y1 := e.bounds.y1
  x2 := e.bounds.x2
  y2 := e.bounds.y2
  fillColor := e.style.fillColor
  textColor := e.style.textColor
  opacity := e.style.opacity
  cornerRadius := e.style.cornerRadius
  text := e.text
  fontFamily := e.style.fontFamily
  fontSize := e.style.fontSize
  fontWeight := e.style.fontWeight
  textAlign := e.style.textAlign

def RenderScene.painted (scene : RenderScene) : PaintedScene where
  canvasWidth := scene.canvasWidth
  canvasHeight := scene.canvasHeight
  elements := scene.elements.map RenderElement.painted

/-! ## What the signature tells -/

structure SignedElement where
  shape : OverlayShape
  x1 : ℚ
  y1 : ℚ
  x2 : ℚ
  y2 : ℚ
  z : Nat
  text : String
  fillColor : String
  textColor : String
  opacity : ℚ
  cornerRadius : Int
  deriving DecidableEq, Repr

def RenderElement.signed [FloatFormat] (e : RenderElement) : SignedElement where
  shape := e.shape
  x1 := e.bounds.x1
  y1 := e.bounds.y1
  x2 := e.bounds.x2
  y2 := e.bounds.y2
  z := e.bounds.z
  text := e.text
  fillColor := e.style.fillColor
  textColor := e.style.textColor
  opacity := e.style.opacity
  cornerRadius := FloatFormat.toInt e.style.cornerRadius

structure SignedScene where
  canvasWidth : Nat
  canvasHeight : Nat
  elements : List SignedElement
  deriving DecidableEq, Repr

def RenderScene.signed [FloatFormat] (scene : RenderScene) : SignedScene where
  canvasWidth := scene.canvasWidth
  canvasHeight := scene.canvasHeight
  elements := scene.elements.map RenderElement.signed

/-- What the renderer reads and the signature does not tell. -/
structure Typeset where
  cornerRadius : ℚ
  fontFamily : String
  fontSize : ℚ
  fontWeight : FontWeight
  textAlign : TextAlign
  deriving DecidableEq, Repr

def RenderElement.typeset (e : RenderElement) : Typeset where
  cornerRadius := e.style.cornerRadius
  fontFamily := e.style.fontFamily
  fontSize := e.style.fontSize
  fontWeight := e.style.fontWeight
  textAlign := e.style.textAlign

section
variable [FloatFormat]

/-- The signed fields and the others together are what the renderer reads. -/
theorem RenderElement.painted_eq_iff {d e : RenderElement} (same : d.signed = e.signed) :
    d.painted = e.painted ↔ d.typeset = e.typeset := by
  simp only [signed, SignedElement.mk.injEq] at same
  simp only [painted, typeset, PaintedElement.mk.injEq, Typeset.mk.injEq]
  tauto

theorem map_painted_eq_iff {es fs : List RenderElement} (same : es.map RenderElement.signed = fs.map RenderElement.signed) :
    es.map RenderElement.painted = fs.map RenderElement.painted ↔ es.map RenderElement.typeset = fs.map RenderElement.typeset := by
  induction es generalizing fs with
  | nil =>
    obtain rfl := List.map_eq_nil_iff.1 same.symm
    simp
  | cons d es ih =>
    cases fs with
    | nil => exact absurd same (by simp)
    | cons e fs =>
      simp only [List.map_cons, List.cons.injEq] at same ⊢
      rw [RenderElement.painted_eq_iff same.1, ih same.2]

theorem RenderScene.painted_eq_iff {a b : RenderScene} (same : a.signed = b.signed) :
    a.painted = b.painted ↔ a.elements.map RenderElement.typeset = b.elements.map RenderElement.typeset := by
  simp only [signed, SignedScene.mk.injEq] at same
  obtain ⟨width, height, elements⟩ := same
  simp only [painted, PaintedScene.mk.injEq, width, height, true_and]
  exact map_painted_eq_iff elements

end

namespace OverlayController

open FloatFormat (nat_digits int_digits nat_inj int_inj)

/-! ## The signature as delimited text -/

def canvasText (scene : RenderScene) : List Char :=
  (toString scene.canvasWidth).toList ++ 'x' :: (toString scene.canvasHeight).toList

theorem canvasText_bar (scene : RenderScene) : '|' ∉ canvasText scene := by
  intro bar
  rw [canvasText, List.mem_append, List.mem_cons] at bar
  obtain width | cross | height := bar
  · exact absurd (nat_digits width) (by decide)
  · exact absurd cross (by decide)
  · exact absurd (nat_digits height) (by decide)

theorem canvasText_inj {a b : RenderScene} :
    canvasText a = canvasText b ↔ a.canvasWidth = b.canvasWidth ∧ a.canvasHeight = b.canvasHeight := by
  have cross : ∀ n : Nat, 'x' ∉ (toString n).toList := by
    intro n h
    exact absurd (nat_digits h) (by decide)
  rw [canvasText, canvasText, field_inj (cross _) (cross _), String.toList_inj, String.toList_inj, nat_inj, nat_inj]

section
variable [FloatFormat]

theorem text_eq_iff {p q : ℚ} : FloatFormat.text p = FloatFormat.text q ↔ p = q :=
  ⟨FloatFormat.text_inj, congrArg _⟩

def boundsText (e : SignedElement) : List Char :=
  terminated ',' [(FloatFormat.text e.x1).toList, (FloatFormat.text e.y1).toList, (FloatFormat.text e.x2).toList,
    (FloatFormat.text e.y2).toList] ++ (toString e.z).toList

def elementText (e : SignedElement) : List Char :=
  terminated ';' [(toString e.shape.toNat).toList, boundsText e, e.text.toList, e.fillColor.toList, e.textColor.toList,
    (FloatFormat.text e.opacity).toList] ++ (toString e.cornerRadius).toList

theorem elementSignature_toList (e : RenderElement) : (elementSignature e).toList = elementText e.signed ++ ['|'] := by
  have semicolon : (";" : String).toList = [';'] := rfl
  have comma : ("," : String).toList = [','] := rfl
  have bar : ("|" : String).toList = ['|'] := rfl
  unfold elementSignature elementText boundsText RenderElement.signed
  simp only [String.toList_append, terminated_cons, terminated_nil, semicolon, comma, bar, List.append_assoc,
    List.cons_append, List.nil_append]

theorem signature_toList (scene : RenderScene) :
    (signature scene).toList = canvasText scene ++ '|' :: terminated '|' (scene.signed.elements.map elementText) := by
  have elements : ∀ (es : List RenderElement) (sig : String),
      (es.foldl (fun sig e => sig ++ elementSignature e) sig).toList =
        sig.toList ++ terminated '|' ((es.map RenderElement.signed).map elementText) := by
    intro es
    induction es with
    | nil => simp
    | cons e es ih =>
      intro sig
      rw [List.foldl_cons, ih, String.toList_append, elementSignature_toList]
      simp
  rw [signature, elements]
  simp [canvasText, RenderScene.signed]

theorem text_semicolon (q : ℚ) : ';' ∉ (FloatFormat.text q).toList := fun h => (FloatFormat.text_plain h).1 rfl

theorem text_comma (q : ℚ) : ',' ∉ (FloatFormat.text q).toList := fun h => (FloatFormat.text_plain h).2.1 rfl

theorem text_bar (q : ℚ) : '|' ∉ (FloatFormat.text q).toList := fun h => (FloatFormat.text_plain h).2.2 rfl

theorem boundsText_semicolon (e : SignedElement) : ';' ∉ boundsText e := by
  have z : ';' ∉ (toString e.z).toList := fun h => absurd (nat_digits h) (by decide)
  simp [boundsText, -Nat.toString_eq_repr, text_semicolon, z]

theorem boundsText_bar (e : SignedElement) : '|' ∉ boundsText e := by
  have z : '|' ∉ (toString e.z).toList := fun h => absurd (nat_digits h) (by decide)
  simp [boundsText, -Nat.toString_eq_repr, text_bar, z]

theorem boundsText_inj {d e : SignedElement} :
    boundsText d = boundsText e ↔ (d.x1 = e.x1 ∧ d.y1 = e.y1 ∧ d.x2 = e.x2 ∧ d.y2 = e.y2) ∧ d.z = e.z := by
  unfold boundsText
  rw [terminated_append_inj (by simp [text_comma]) (by simp [text_comma]) (by rfl)]
  simp only [List.cons.injEq, String.toList_inj, text_eq_iff, nat_inj, and_true]

/-- No text of an element carries a separator of the signature. -/
structure Plain (e : SignedElement) : Prop where
  text : ';' ∉ e.text.toList ∧ '|' ∉ e.text.toList
  fillColor : ';' ∉ e.fillColor.toList ∧ '|' ∉ e.fillColor.toList
  textColor : ';' ∉ e.textColor.toList ∧ '|' ∉ e.textColor.toList

instance (e : SignedElement) : Decidable (Plain e) :=
  decidable_of_iff (_ ∧ _ ∧ _) ⟨fun h => ⟨h.1, h.2.1, h.2.2⟩, fun h => ⟨h.1, h.2, h.3⟩⟩

theorem elementText_bar {e : SignedElement} (h : Plain e) : '|' ∉ elementText e := by
  intro bar
  simp only [elementText, terminated_cons, terminated_nil, List.append_assoc, List.cons_append, List.nil_append,
    List.mem_append, List.mem_cons, Char.reduceEq, false_or] at bar
  obtain shape | bounds | text | fill | color | opacity | radius := bar
  · exact absurd (nat_digits shape) (by decide)
  · exact boundsText_bar e bounds
  · exact h.text.2 text
  · exact h.fillColor.2 fill
  · exact h.textColor.2 color
  · exact text_bar _ opacity
  · exact absurd (int_digits radius) (by decide)

theorem elementText_inj {d e : SignedElement} (hd : Plain d) (he : Plain e) : elementText d = elementText e ↔ d = e := by
  have free : ∀ {e : SignedElement}, Plain e → ∀ x ∈ [(toString e.shape.toNat).toList, boundsText e, e.text.toList,
      e.fillColor.toList, e.textColor.toList, (FloatFormat.text e.opacity).toList], ';' ∉ x := by
    intro e h
    simp only [List.forall_mem_cons, List.not_mem_nil, false_implies, implies_true, and_true]
    refine ⟨?_, ?_, h.text.1, h.fillColor.1, h.textColor.1, ?_⟩
    · intro semicolon
      exact absurd (nat_digits semicolon) (by decide)
    · exact boundsText_semicolon _
    · exact text_semicolon _
  have shape : ∀ {s t : OverlayShape}, s.toNat = t.toNat ↔ s = t := by
    intro s t
    cases s <;> cases t <;> decide
  unfold elementText
  rw [terminated_append_inj (free hd) (free he) (by rfl)]
  simp only [List.cons.injEq, String.toList_inj, nat_inj, shape, boundsText_inj, text_eq_iff, int_inj, and_true]
  constructor
  · rintro ⟨⟨hs, ⟨⟨hx1, hy1, hx2, hy2⟩, hz⟩, ht, hf, hc, ho⟩, hr⟩
    obtain ⟨⟩ := d
    simp_all
  · rintro rfl
    simp

/-- **What the signature tells.** Free of separators, two scenes have the same signature exactly
when their signed fields agree. -/
theorem signature_eq_iff {a b : RenderScene} (ha : ∀ e ∈ a.signed.elements, Plain e)
    (hb : ∀ e ∈ b.signed.elements, Plain e) : signature a = signature b ↔ a.signed = b.signed := by
  have elements := terminated_map_inj (fun e he => elementText_bar (ha e he)) (fun e he => elementText_bar (hb e he))
    (fun d hd e he => (elementText_inj (ha d hd) (hb e he)).1)
  rw [← String.toList_inj, signature_toList, signature_toList, field_inj (canvasText_bar a) (canvasText_bar b), elements,
    canvasText_inj]
  unfold RenderScene.signed
  rw [SignedScene.mk.injEq, and_assoc]

/-- What stays hidden of scenes free of separators: the fields the signature leaves out. -/
theorem hidden_iff {a b : RenderScene} (ha : ∀ e ∈ a.signed.elements, Plain e)
    (hb : ∀ e ∈ b.signed.elements, Plain e) :
    signature a = signature b ∧ a.painted ≠ b.painted ↔
      a.signed = b.signed ∧ a.elements.map RenderElement.typeset ≠ b.elements.map RenderElement.typeset := by
  rw [signature_eq_iff ha hb]
  exact and_congr_right fun same => not_congr (RenderScene.painted_eq_iff same)

end

end OverlayController

/-! ## Runs -/

/-- A call of the controller. -/
inductive OverlayCall where
  | setLayout (layout : OverlayLayout)
  | setBindingData (data : BindingData)
  | activateBanner (templateId : String) (params : List (String × String)) (durationSOverride nowMs : Nat)
  | refresh (nowMs : Nat)
  deriving DecidableEq, Repr

namespace OverlayController

section
variable [FloatFormat]

def call (c : OverlayController) : OverlayCall → OverlayController
  | .setLayout layout => c.setLayout layout
  | .setBindingData data => c.setBindingData data
  | .activateBanner templateId params durationSOverride nowMs => (c.activateBanner templateId params durationSOverride nowMs).1
  | .refresh nowMs => (c.refresh nowMs).1

variable {Image : Type}

/-- The image pushed last: what the renderer makes of the fields it reads. -/
def image (render : PaintedScene → OutputSize → Image) (size : OutputSize) (c : OverlayController) : Option Image :=
  c.frame.map fun f => render f.painted size

/-- After a refresh the image pushed last is that of the scene built at the time. -/
def ShowsBuilt (render : PaintedScene → OutputSize → Image) (size : OutputSize) (c : OverlayController) :
    OverlayCall → Prop
  | .refresh nowMs => (c.refresh nowMs).1.image render size = some (render (c.scene.build nowMs).2.painted size)
  | _ => True

/-- A refresh finds no scene pushed last that has the signature of the scene built now and is
drawn otherwise. -/
def Unhidden (c : OverlayController) : OverlayCall → Prop
  | .refresh nowMs =>
    ∀ f ∈ c.frame, signature f = signature (c.scene.build nowMs).2 → f.painted = (c.scene.build nowMs).2.painted
  | _ => True

theorem Pushed.call {c : OverlayController} (h : c.Pushed) (e : OverlayCall) : (c.call e).Pushed := by
  cases e with
  | setLayout | setBindingData | activateBanner => exact h
  | refresh nowMs => exact h.refresh nowMs

theorem standing_painted {frame : Option RenderScene} {built : RenderScene} :
    (standing frame built).painted = built.painted ↔
      ∀ f ∈ frame, signature f = signature built → f.painted = built.painted := by
  unfold standing
  cases frame with
  | none => simp
  | some f => by_cases same : signature f = signature built <;> simp [Option.filter, same]

/-- A refresh shows what it built exactly when nothing is hidden. -/
theorem showsBuilt_iff {c : OverlayController} (h : c.Pushed) (e : OverlayCall) :
    ShowsBuilt (fun scene _ => scene) {} c e ↔ Unhidden c e := by
  cases e with
  | setLayout | setBindingData | activateBanner => exact Iff.rfl
  | refresh nowMs =>
    rw [ShowsBuilt, image, refresh_frame nowMs h, Option.map_some, Option.some.injEq, standing_painted]
    rfl

/-- The renderer that gives back what it reads tells the scenes apart as well as any. -/
theorem ShowsBuilt.of_painted {c : OverlayController} {e : OverlayCall} (h : ShowsBuilt (fun scene _ => scene) {} c e)
    (render : PaintedScene → OutputSize → Image) (size : OutputSize) : ShowsBuilt render size c e := by
  cases e with
  | setLayout | setBindingData | activateBanner => trivial
  | refresh nowMs =>
    have shown := congrArg (Option.map (render · size)) h
    simpa [ShowsBuilt, image, Function.comp_def] using shown

/-- Whatever the renderer makes of the fields it reads, every refresh of a run leaves the image of the
scene built at the time. -/
def AlwaysShowsBuilt (calls : List OverlayCall) : Prop :=
  ∀ (Image : Type) (render : PaintedScene → OutputSize → Image) (size : OutputSize),
    Runs.Along call (ShowsBuilt render size) {} calls

/-- It does exactly when no refresh finds the same signature on a scene that is drawn otherwise. -/
theorem alwaysShowsBuilt_iff (calls : List OverlayCall) : AlwaysShowsBuilt calls ↔ Runs.Along call Unhidden {} calls := by
  have exact_guard : Runs.Along call (ShowsBuilt (fun scene _ => scene) {}) {} calls ↔ Runs.Along call Unhidden {} calls := by
    apply Runs.along_iff (I := Pushed)
    · intro c e h
      exact showsBuilt_iff h e
    · intro c e h _
      exact h.call e
    · rfl
  constructor
  · intro every
    exact exact_guard.1 (every PaintedScene (fun scene _ => scene) {})
  · intro unhidden Image render size
    apply (exact_guard.2 unhidden).mono
    intro c e shows
    exact shows.of_painted render size

/-! ## Scenes free of separators -/

/-- The scene a refresh builds carries no separator in a text. -/
def BuildsPlain (c : OverlayController) : OverlayCall → Prop
  | .refresh nowMs => ∀ e ∈ (c.scene.build nowMs).2.signed.elements, Plain e
  | _ => True

/-- A refresh finds no scene pushed last that differs from the scene built now in what the
signature leaves out alone. -/
def TypesetKept (c : OverlayController) : OverlayCall → Prop
  | .refresh nowMs =>
    ∀ f ∈ c.frame, f.signed = (c.scene.build nowMs).2.signed →
      f.elements.map RenderElement.typeset = (c.scene.build nowMs).2.elements.map RenderElement.typeset
  | _ => True

instance (c : OverlayController) : (e : OverlayCall) → Decidable (BuildsPlain c e)
  | .refresh _ => inferInstanceAs (Decidable (∀ e ∈ _, Plain e))
  | .setLayout _ | .setBindingData _ | .activateBanner .. => .isTrue trivial

instance (c : OverlayController) : (e : OverlayCall) → Decidable (TypesetKept c e)
  | .refresh _ => inferInstanceAs (Decidable (∀ f ∈ c.frame, _ → _))
  | .setLayout _ | .setBindingData _ | .activateBanner .. => .isTrue trivial

def FramePlain (c : OverlayController) : Prop := ∀ f ∈ c.frame, ∀ e ∈ f.signed.elements, Plain e

theorem FramePlain.call {c : OverlayController} {e : OverlayCall} (h : c.FramePlain) (builds : BuildsPlain c e) :
    (c.call e).FramePlain := by
  cases e with
  | setLayout | setBindingData | activateBanner => exact h
  | refresh nowMs =>
    unfold OverlayController.call refresh FramePlain
    dsimp only
    split
    · exact h
    · intro f pushed
      obtain rfl := Option.some.inj pushed
      exact builds

theorem unhidden_iff {c : OverlayController} {e : OverlayCall} (h : c.FramePlain) (builds : BuildsPlain c e) :
    Unhidden c e ↔ TypesetKept c e := by
  cases e with
  | setLayout | setBindingData | activateBanner => exact Iff.rfl
  | refresh nowMs =>
    apply forall₂_congr
    intro f pushed
    have hidden := hidden_iff (h f pushed) builds
    rw [← not_iff_not, Classical.not_imp, Classical.not_imp]
    exact hidden

/-- Along a run whose scenes are free of separators, a change is hidden where the font, the
alignment or the fraction of the corner radius changes alone. -/
theorem along_unhidden_iff {c : OverlayController} (h : c.FramePlain) {calls : List OverlayCall}
    (builds : Runs.Along call BuildsPlain c calls) :
    Runs.Along call Unhidden c calls ↔ Runs.Along call TypesetKept c calls := by
  induction calls generalizing c with
  | nil => exact Iff.rfl
  | cons e calls ih =>
    rw [Runs.along_cons, Runs.along_cons, unhidden_iff h builds.1, ih (h.call builds.1) builds.2]

/-- **When push-on-change hides nothing.** Along a run whose scenes carry no separator in a text, every
refresh leaves the image of the scene built at the time exactly when none finds a scene that differs from
the one pushed last in the font, the alignment or the fraction of a corner radius alone. With separators
in the texts, it is when none finds a scene that is drawn otherwise and has the same signature. -/
theorem push_on_change_iff (calls : List OverlayCall) :
    (Runs.Along call BuildsPlain {} calls → (AlwaysShowsBuilt calls ↔ Runs.Along call TypesetKept {} calls)) ∧
      (AlwaysShowsBuilt calls ↔ Runs.Along call Unhidden {} calls) := by
  refine ⟨fun builds => ?_, alwaysShowsBuilt_iff calls⟩
  rw [alwaysShowsBuilt_iff]
  exact along_unhidden_iff (by simp [FramePlain]) builds

/-- A corner radius that an `int` holds: what is behind its point is not in the signature. -/
theorem fraction_hidden {e : RenderElement} {radius : ℚ} (above : -(2 ^ 31) - 1 < radius)
    (below : radius < 2 ^ 31) (whole : FloatFormat.toInt e.style.cornerRadius = radius.num.tdiv radius.den) :
    elementSignature { e with style := { e.style with cornerRadius := radius } } = elementSignature e := by
  unfold elementSignature
  rw [FloatFormat.toInt_eq above below, whole]

end

/-- A scoreboard of one text, set in a font of some size. -/
def scoreboard (fontSize : ℚ) : OverlayLayout :=
  { canvasWidth := 1920, canvasHeight := 1080,
    elements := [{ shape := .text, bounds := { x2 := 200, y2 := 50 },
                   style := { textColor := "#FFFFFF", fontSize, staticText := "HOME" } }] }

/-- A new text in the same font is shown. -/
theorem score_shown : AlwaysShowsBuilt
    [.setLayout { scoreboard 20 with elements := [{ shape := .text, binding := .scoreA }] }, .refresh 0,
      .setBindingData { scoreA := 1 }, .refresh 33] :=
  ((push_on_change_iff _).1 (by decide +kernel)).2 (by decide +kernel)

/-- A larger font is pushed as a new layout and never shown, however numbers are written. -/
theorem larger_font_unseen [FloatFormat] : ¬ Runs.Along call (ShowsBuilt (fun scene _ => scene) {}) {}
    [.setLayout (scoreboard 20), .refresh 0, .setLayout (scoreboard 40), .refresh 33] := by
  intro h
  have pushed : Pushed ([.setLayout (scoreboard 20), .refresh 0, .setLayout (scoreboard 40)].foldl call {}) :=
    Runs.foldl_inv' (fun c e h => h.call e) _ rfl
  have unhidden := (showsBuilt_iff pushed (.refresh 33)).1 h.2.2.2.1
  have painted : ((OverlayScene.setLayout (scoreboard 20) {}).build 0).2.painted =
      ((OverlayScene.setLayout (scoreboard 40) {}).build 33).2.painted := unhidden _ rfl rfl
  exact absurd painted (by decide)

theorem larger_font_hidden : ¬ AlwaysShowsBuilt
    [.setLayout (scoreboard 20), .refresh 0, .setLayout (scoreboard 40), .refresh 33] :=
  fun shows => larger_font_unseen (shows PaintedScene (fun scene _ => scene) {})

end OverlayController
end SstCam
