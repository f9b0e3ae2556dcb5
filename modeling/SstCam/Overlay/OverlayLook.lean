import SstCam.Overlay.OverlayController

/-!
# What an overlay shows

What the compositor draws of a controller is the scene that was pushed last. What may come onto
the frames after that depends on the layout, the banners in flight and the templates, each as it
resolves under some binding data. Two controllers are `Alike` if neither tells them apart; the
operations keep this, and a refresh draws the same from both (`Matched.refresh`).
-/

namespace SstCam
set_option autoImplicit false

/-- An element on the canvas it is placed on. -/
structure DrawnElement where
  canvasWidth : Nat := 0
  canvasHeight : Nat := 0
  element : RenderElement := {}
  deriving DecidableEq, Repr

def RenderScene.drawn (scene : RenderScene) : List DrawnElement :=
  scene.elements.map fun element => { canvasWidth := scene.canvasWidth, canvasHeight := scene.canvasHeight, element }

theorem RenderScene.drawn_eq_nil {scene : RenderScene} : scene.drawn = [] ↔ scene.elements = [] := List.map_eq_nil_iff

/-- A scene that draws anything is known by what it draws. -/
theorem RenderScene.eq_of_drawn {a b : RenderScene} (same : a.drawn = b.drawn) (some : a.elements ≠ []) : a = b := by
  have elements : a.elements = b.elements := by
    simpa [drawn, Function.comp_def] using congrArg (List.map DrawnElement.element) same
  obtain ⟨width, height, _ | ⟨e, es⟩⟩ := a
  · exact absurd rfl some
  · obtain ⟨width', height', _⟩ := b
    cases elements
    simp only [drawn, List.map_cons, List.cons.injEq, DrawnElement.mk.injEq] at same
    obtain ⟨⟨rfl, rfl, _⟩, _⟩ := same
    rfl

/-! ## Signatures -/

namespace OverlayController

theorem toDigits_count_bar (n : Nat) : (Nat.toDigits 10 n).count '|' = 0 := by
  rw [List.count_eq_zero]
  intro bar
  have digit := Nat.isDigit_of_mem_toDigits (by decide) (by decide) bar
  exact absurd digit (by decide)

theorem canvas_count_bar (width height : Nat) :
    (toString width ++ "x" ++ toString height ++ "|").toList.count '|' = 1 := by
  simp [toDigits_count_bar]

section
variable [FloatFormat]

/-- Each element adds a bar to the signature. -/
theorem signature_count_bar (elements : List RenderElement) (sig : String) :
    sig.toList.count '|' + elements.length ≤
      (elements.foldl (fun sig e => sig ++ elementSignature e) sig).toList.count '|' := by
  induction elements generalizing sig with
  | nil => exact Nat.le_refl _
  | cons e es ih =>
    have bar : 1 ≤ (elementSignature e).toList.count '|' := by
      unfold elementSignature
      rw [String.toList_append, List.count_append]
      exact Nat.le_add_left _ _
    have rest := ih (sig ++ elementSignature e)
    rw [String.toList_append, List.count_append] at rest
    rw [List.foldl_cons, List.length_cons]
    omega

/-- A signature tells whether the scene has elements. -/
theorem elements_eq_nil_of_signature {a b : RenderScene} (same : signature a = signature b) (none : a.elements = []) :
    b.elements = [] := by
  have bars := canvas_count_bar a.canvasWidth a.canvasHeight
  have canvas := canvas_count_bar b.canvasWidth b.canvasHeight
  have more := signature_count_bar b.elements (toString b.canvasWidth ++ "x" ++ toString b.canvasHeight ++ "|")
  unfold signature at same
  rw [none, List.foldl_nil] at same
  rw [← same] at more
  exact List.eq_nil_of_length_eq_zero (by omega)

end

end OverlayController

/-! ## Scenes -/

def OverlayElement.resolve (data : BindingData) (e : OverlayElement) : RenderElement :=
  { shape := e.shape, bounds := e.bounds, style := e.style, text := OverlayScene.resolveText data e }

/-- The elements of a banner, its parameters put in. -/
def OverlayTemplate.instantiate (params : List (String × String)) (tmpl : OverlayTemplate) : List OverlayElement :=
  tmpl.elements.map fun e =>
    { e with visible := true, style := { e.style with staticText := substituteParams e.style.staticText params } }

namespace OverlayScene

/-- What elements come to on the canvas of the scene, under some data. -/
def drawn (s : OverlayScene) (data : BindingData) (elements : List OverlayElement) : List DrawnElement :=
  RenderScene.drawn
    { canvasWidth := s.layout.canvasWidth
      canvasHeight := s.layout.canvasHeight
      elements := (elements.filter (·.visible)).map (·.resolve data) }

theorem drawn_append (s : OverlayScene) (data : BindingData) (es fs : List OverlayElement) :
    s.drawn data (es ++ fs) = s.drawn data es ++ s.drawn data fs := by
  simp [drawn, RenderScene.drawn]

theorem drawn_flatMap (s : OverlayScene) (data : BindingData) (banners : List ActiveBanner) :
    s.drawn data (banners.flatMap ActiveBanner.elements) = banners.flatMap fun b => s.drawn data b.elements := by
  induction banners with
  | nil => rfl
  | cons b banners ih => rw [List.flatMap_cons, List.flatMap_cons, drawn_append, ih]

/-- The template a banner event asks for. -/
def template (s : OverlayScene) (templateId : String) : Option OverlayTemplate :=
  if s.hasLayout then s.layout.templates.find? (·.eventType = templateId) else none

/-- The banner of a template activated now. -/
def banner (params : List (String × String)) (durationSOverride nowMs : Nat) (tmpl : OverlayTemplate) : ActiveBanner where
  expiresAtMs := (nowMs + if durationSOverride > 0 then durationSOverride * 1000 else tmpl.durationMs) % 2 ^ 64
  elements := tmpl.instantiate params

theorem activateBanner_banners (templateId : String) (params : List (String × String)) (durationSOverride nowMs : Nat)
    (s : OverlayScene) :
    (s.activateBanner templateId params durationSOverride nowMs).1 =
      { s with banners := s.banners ++ ((s.template templateId).map (banner params durationSOverride nowMs)).toList } := by
  obtain ⟨layout, hasLayout, data, banners⟩ := s
  unfold activateBanner template
  cases hasLayout with
  | false => simp
  | true =>
    cases layout.templates.find? (·.eventType = templateId) <;> simp [banner, OverlayTemplate.instantiate]

/-- One scene under some data comes to the same as another under other data: its layout, its banners
and every banner it may activate. -/
structure ShowsAlike (s t : OverlayScene) (ds dt : BindingData) : Prop where
  layout : s.drawn ds s.layout.elements = t.drawn dt t.layout.elements
  banners : s.banners.map (fun b => (b.expiresAtMs, s.drawn ds b.elements)) =
    t.banners.map fun b => (b.expiresAtMs, t.drawn dt b.elements)
  templates : ∀ templateId params,
    (s.template templateId).map (fun m => (m.durationMs, s.drawn ds (m.instantiate params))) =
      (t.template templateId).map fun m => (m.durationMs, t.drawn dt (m.instantiate params))

variable {s t : OverlayScene} {ds dt : BindingData}

theorem ShowsAlike.refl (s : OverlayScene) (data : BindingData) : s.ShowsAlike s data data := ⟨rfl, rfl, fun _ _ => rfl⟩

/-- The data a scene holds is read nowhere but in what it is resolved under. -/
theorem ShowsAlike.setBindingData (h : s.ShowsAlike t ds dt) (data : BindingData) :
    (s.setBindingData data).ShowsAlike (t.setBindingData data) ds dt := ⟨h.layout, h.banners, h.templates⟩

theorem unexpired_eq (nowMs : Nat) (data : BindingData) (s : OverlayScene) :
    ((s.expireBanners nowMs).banners.map fun b => (b.expiresAtMs, s.drawn data b.elements)) =
      (s.banners.map fun b => (b.expiresAtMs, s.drawn data b.elements)).filter fun b => !decide (b.1 ≤ nowMs) := by
  rw [List.filter_map]
  rfl

theorem ShowsAlike.expireBanners (h : s.ShowsAlike t ds dt) (nowMs : Nat) :
    (s.expireBanners nowMs).ShowsAlike (t.expireBanners nowMs) ds dt where
  layout := h.layout
  banners := (unexpired_eq nowMs ds s).trans (h.banners ▸ (unexpired_eq nowMs dt t).symm)
  templates := h.templates

theorem banner_eq (data : BindingData) (params : List (String × String)) (durationSOverride nowMs : Nat)
    (s : OverlayScene) (templateId : String) :
    ((s.template templateId).map (banner params durationSOverride nowMs)).map
        (fun b => (b.expiresAtMs, s.drawn data b.elements)) =
      ((s.template templateId).map fun m => (m.durationMs, s.drawn data (m.instantiate params))).map fun m =>
        ((nowMs + if durationSOverride > 0 then durationSOverride * 1000 else m.1) % 2 ^ 64, m.2) := by
  cases s.template templateId <;> rfl

theorem ShowsAlike.activateBanner (h : s.ShowsAlike t ds dt) (templateId : String) (params : List (String × String))
    (durationSOverride nowMs : Nat) :
    (s.activateBanner templateId params durationSOverride nowMs).1.ShowsAlike
      (t.activateBanner templateId params durationSOverride nowMs).1 ds dt := by
  have added := banner_eq ds params durationSOverride nowMs s templateId
  rw [h.templates, ← banner_eq dt] at added
  rw [activateBanner_banners, activateBanner_banners]
  refine ⟨h.layout, ?_, h.templates⟩
  rw [List.map_append, List.map_append, ← Option.toList_map, ← Option.toList_map]
  exact congrArg₂ (· ++ ·) h.banners (congrArg Option.toList added)

theorem build_drawn (nowMs : Nat) (s : OverlayScene) :
    (s.build nowMs).2.drawn =
      (s.drawn s.data s.layout.elements ++
        ((s.expireBanners nowMs).banners.map fun b => (b.expiresAtMs, s.drawn s.data b.elements)).flatMap Prod.snd).insertionSort
          fun l r => l.element.bounds.z ≤ r.element.bounds.z := by
  rw [List.flatMap_map, ← drawn_flatMap, ← drawn_append]
  exact List.map_insertionSort _ _ _ _ fun _ _ _ _ => Iff.rfl

theorem ShowsAlike.build (h : s.ShowsAlike t s.data t.data) (nowMs : Nat) :
    (s.build nowMs).2.drawn = (t.build nowMs).2.drawn := by
  rw [build_drawn, build_drawn, h.layout]
  have banners := (h.expireBanners nowMs).banners
  exact banners ▸ rfl

end OverlayScene

/-! ## Controllers -/

namespace OverlayController

/-- What the compositor draws: the scene pushed last. -/
def drawn (c : OverlayController) : List DrawnElement := (c.frame.map RenderScene.drawn).getD []

/-- Both draw the same, and neither scene can come to anything the other does not come to, under
the data each has and under new data. -/
structure Alike (c d : OverlayController) : Prop where
  drawn : c.drawn = d.drawn
  shown : c.scene.ShowsAlike d.scene c.scene.data d.scene.data
  bound : ∀ data, c.scene.ShowsAlike d.scene data data

theorem Alike.refl (c : OverlayController) : c.Alike c := ⟨rfl, .refl _ _, fun _ => .refl _ _⟩

/-- A frame that stands before a scene with elements stands on both sides. -/
theorem frame_eq_of_drawn {f g : Option RenderScene} (same : (f.map RenderScene.drawn).getD [] = (g.map RenderScene.drawn).getD [])
    {x : RenderScene} (some : x.elements ≠ []) (left : f = .some x) : g = .some x := by
  subst left
  cases g with
  | none => exact absurd (RenderScene.drawn_eq_nil.1 same) some
  | some y => exact congrArg Option.some (RenderScene.eq_of_drawn same some).symm

section
variable [FloatFormat]

/-- The signature kept is that of the scene pushed last. -/
def Pushed (c : OverlayController) : Prop :=
  c.frame.map signature = if c.pushedOnce then some c.lastSignature else none

/-- Alike, both with the signature of what they draw. -/
structure Matched (c d : OverlayController) : Prop extends Alike c d where
  left : c.Pushed
  right : d.Pushed

theorem Pushed.matched {c : OverlayController} (h : c.Pushed) : c.Matched c := ⟨.refl c, h, h⟩

/-- The scene that stands after one was built: the one before, if the signature is the same. -/
def standing (frame : Option RenderScene) (built : RenderScene) : RenderScene :=
  (frame.filter fun f => signature f = signature built).getD built

theorem refresh_frame (nowMs : Nat) {c : OverlayController} (h : c.Pushed) :
    (c.refresh nowMs).1.frame = some (standing c.frame (c.scene.build nowMs).2) := by
  obtain ⟨scene, lastSignature, pushedOnce, frame⟩ := c
  unfold refresh standing
  cases pushedOnce with
  | false =>
    have none : frame = none := by simpa [Pushed] using h
    simp [none]
  | true =>
    obtain ⟨f, rfl, rfl⟩ : ∃ f, frame = some f ∧ signature f = lastSignature := by simpa [Pushed] using h
    by_cases same : signature (scene.build nowMs).2 = signature f
    · simp [same, Option.filter]
    · simp [same, Option.filter, Ne.symm same]

theorem refresh_scene (nowMs : Nat) (c : OverlayController) :
    (c.refresh nowMs).1.scene = c.scene.expireBanners nowMs := by
  unfold refresh
  dsimp only
  split <;> rfl

theorem Pushed.refresh {c : OverlayController} (h : c.Pushed) (nowMs : Nat) : (c.refresh nowMs).1.Pushed := by
  unfold OverlayController.refresh
  dsimp only
  split
  · exact h
  · rfl

/-- Nothing to draw stays nothing to draw. -/
theorem standing_empty (frame : Option RenderScene) {built : RenderScene} (empty : built.elements = []) :
    (standing frame built).drawn = [] := by
  rw [RenderScene.drawn_eq_nil, standing]
  cases kept : frame.filter fun f => signature f = signature built with
  | none => exact empty
  | some f =>
    have same : signature f = signature built := by simpa using (Option.filter_eq_some_iff.1 kept).2
    exact elements_eq_nil_of_signature same.symm empty

theorem standing_drawn {f g : Option RenderScene} {a b : RenderScene}
    (frames : (f.map RenderScene.drawn).getD [] = (g.map RenderScene.drawn).getD []) (built : a.drawn = b.drawn) :
    (standing f a).drawn = (standing g b).drawn := by
  by_cases empty : a.elements = []
  · have empty' : b.elements = [] := RenderScene.drawn_eq_nil.1 (built ▸ RenderScene.drawn_eq_nil.2 empty)
    rw [standing_empty f empty, standing_empty g empty']
  · obtain rfl := RenderScene.eq_of_drawn built empty
    have drawn : ∀ x, signature x = signature a → x.elements ≠ [] := fun x same none =>
      empty (elements_eq_nil_of_signature same none)
    have stands : (f.filter fun x => signature x = signature a) = g.filter fun x => signature x = signature a := by
      ext x
      simp only [Option.filter_eq_some_iff, decide_eq_true_eq]
      exact and_congr_left fun same =>
        ⟨frame_eq_of_drawn frames (drawn x same), frame_eq_of_drawn frames.symm (drawn x same)⟩
    rw [standing, standing, stands]

variable {c d : OverlayController}

/-- **A refresh draws the same from controllers that match.** -/
theorem Matched.refresh (h : c.Matched d) (nowMs : Nat) : (c.refresh nowMs).1.Matched (d.refresh nowMs).1 where
  drawn := by
    rw [OverlayController.drawn, OverlayController.drawn, refresh_frame nowMs h.left, refresh_frame nowMs h.right]
    exact standing_drawn h.drawn (h.shown.build nowMs)
  shown := by
    rw [refresh_scene, refresh_scene]
    exact h.shown.expireBanners nowMs
  bound data := by
    rw [refresh_scene, refresh_scene]
    exact (h.bound data).expireBanners nowMs
  left := h.left.refresh nowMs
  right := h.right.refresh nowMs

theorem Matched.setBindingData (h : c.Matched d) (data : BindingData) :
    (c.setBindingData data).Matched (d.setBindingData data) :=
  ⟨⟨h.drawn, (h.bound data).setBindingData data, fun data' => (h.bound data').setBindingData data⟩, h.left, h.right⟩

/-- A new layout, once it has its data, replaces the whole scene. -/
theorem Matched.setLayout (h : c.Matched d) (layout : OverlayLayout) (data : BindingData) :
    ((c.setLayout layout).setBindingData data).Matched ((d.setLayout layout).setBindingData data) :=
  ⟨⟨h.drawn, .refl _ _, fun _ => .refl _ _⟩, h.left, h.right⟩

theorem Matched.activateBanner (h : c.Matched d) (templateId : String) (params : List (String × String))
    (durationSOverride nowMs : Nat) :
    (c.activateBanner templateId params durationSOverride nowMs).1.Matched
      (d.activateBanner templateId params durationSOverride nowMs).1 where
  drawn := h.drawn
  shown := by
    have shown := h.shown.activateBanner templateId params durationSOverride nowMs
    simpa [OverlayController.activateBanner] using shown
  bound data := (h.bound data).activateBanner templateId params durationSOverride nowMs
  left := h.left
  right := h.right

end

end OverlayController

end SstCam
