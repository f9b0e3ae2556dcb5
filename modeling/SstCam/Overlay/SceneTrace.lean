import Mathlib.Data.List.Induction
import SstCam.Lib.StableSort
import SstCam.Overlay.OverlayLook
import SstCam.Overlay.ParamSubstitution

/-!
# What a scene comes to over a history of calls

`OverlayScene::Build` prunes the lapsed banners and reads the rest. `SceneHistory` prunes nothing:
it is the last layout, the last data and every banner activated since that layout. `Reads` says what
an element reads under some data, binding by binding. A build at some time is the stable sort of the
elements of the history at that time, each with what it reads (`build_history`), so the builds before
it do not matter.
-/

namespace SstCam
set_option autoImplicit false

open StableSort

/-- A call of the scene. -/
inductive SceneCall where
  | setLayout (layout : OverlayLayout)
  | setBindingData (data : BindingData)
  | activateBanner (templateId : String) (params : List (String × String)) (durationSOverride nowMs : Nat)
  | build (nowMs : Nat)
  deriving DecidableEq, Repr

namespace SceneCall

/-- The time a call is given. -/
def time : SceneCall → Option Nat
  | .setLayout _ => none
  | .setBindingData _ => none
  | .activateBanner _ _ _ nowMs => some nowMs
  | .build nowMs => some nowMs

def isBuild : SceneCall → Bool
  | .build _ => true
  | _ => false

end SceneCall

/-- No call is earlier than one before it. -/
def Chronological (calls : List SceneCall) : Prop := (calls.filterMap SceneCall.time).Pairwise (· ≤ ·)

instance (calls : List SceneCall) : Decidable (Chronological calls) :=
  inferInstanceAs (Decidable ((calls.filterMap SceneCall.time).Pairwise (· ≤ ·)))

theorem Chronological.split {calls : List SceneCall} {c : SceneCall} (h : Chronological (calls ++ [c])) :
    Chronological calls ∧ ∀ now ∈ c.time, ∀ t ∈ calls.filterMap SceneCall.time, t ≤ now := by
  rw [Chronological, List.filterMap_append, List.pairwise_append] at h
  refine ⟨h.1, fun now at_now t ht => h.2.2 t ht now ?_⟩
  exact List.mem_filterMap.2 ⟨c, List.mem_singleton_self c, at_now⟩

theorem Chronological.filter {calls : List SceneCall} {nowMs : Nat} (h : Chronological (calls ++ [.build nowMs]))
    (keep : SceneCall → Bool) : Chronological (calls.filter keep ++ [.build nowMs]) := by
  apply List.Pairwise.sublist _ h
  exact ((List.filter_sublist).append_right _).filterMap _

def OverlayScene.call (s : OverlayScene) : SceneCall → OverlayScene
  | .setLayout layout => s.setLayout layout
  | .setBindingData data => s.setBindingData data
  | .activateBanner templateId params durationSOverride nowMs => (s.activateBanner templateId params durationSOverride nowMs).1
  | .build nowMs => (s.build nowMs).1

/-- The scene after the calls. -/
def OverlayScene.after (calls : List SceneCall) : OverlayScene := calls.foldl call {}

/-! ## Texts -/

/-- A number in decimal digits, two of them at least. -/
def atLeastTwoDigits (n : Nat) : String := String.ofList ((Nat.toDigits 10 n).leftpad 2 '0')

/-- What an element reads under the data. -/
inductive Reads (data : BindingData) (e : OverlayElement) : String → Prop where
  | nothing (shape : e.shape ≠ .text) : Reads data e ""
  | static (shape : e.shape = .text) (binding : e.binding = .static) : Reads data e e.style.staticText
  | scoreA (shape : e.shape = .text) (binding : e.binding = .scoreA) : Reads data e (toString data.scoreA)
  | scoreB (shape : e.shape = .text) (binding : e.binding = .scoreB) : Reads data e (toString data.scoreB)
  | scoreVs (shape : e.shape = .text) (binding : e.binding = .scoreVs) :
    Reads data e (toString data.scoreA ++ " – " ++ toString data.scoreB)
  | teamAName (shape : e.shape = .text) (binding : e.binding = .teamAName) : Reads data e data.teamAName
  | teamBName (shape : e.shape = .text) (binding : e.binding = .teamBName) : Reads data e data.teamBName
  | matchClock (shape : e.shape = .text) (binding : e.binding = .matchClock) (minutes seconds : Nat)
    (inMinute : seconds < 60) (clock : data.clockSeconds = 60 * minutes + seconds) :
    Reads data e (atLeastTwoDigits minutes ++ ":" ++ atLeastTwoDigits seconds)
  | halfTime (shape : e.shape = .text) (binding : e.binding = .periodLabel) (state : data.periodState = .halfTime) :
    Reads data e "HT"
  | fullTime (shape : e.shape = .text) (binding : e.binding = .periodLabel) (state : data.periodState = .fullTime) :
    Reads data e "FT"
  | inPlay (shape : e.shape = .text) (binding : e.binding = .periodLabel) (state : data.periodState = .inPlay) :
    Reads data e ("P" ++ toString data.period)

theorem twoDigits_eq (n : Nat) : OverlayScene.twoDigits n = atLeastTwoDigits n := by
  unfold OverlayScene.twoDigits atLeastTwoDigits
  rw [Nat.toString_eq_ofList_toDigits]
  split
  case isTrue one =>
    rw [Nat.toDigits_of_lt_base one]
    simp [List.leftpad]
  case isFalse several =>
    have long : 2 ≤ (Nat.toDigits 10 n).length := by
      by_contra short
      have one : (Nat.toDigits 10 n).length ≤ 1 := by omega
      exact several ((Nat.length_toDigits_le_iff (by decide) Nat.one_pos).1 one)
    rw [List.leftpad, Nat.sub_eq_zero_of_le long]
    rfl

theorem reads_resolveText (data : BindingData) (e : OverlayElement) : Reads data e (OverlayScene.resolveText data e) := by
  unfold OverlayScene.resolveText
  split
  case isTrue other => exact .nothing other
  case isFalse text =>
    have shape : e.shape = .text := by simpa using text
    split
    case h_1 binding => exact .static shape binding
    case h_2 binding => exact .scoreA shape binding
    case h_3 binding => exact .scoreB shape binding
    case h_4 binding => exact .scoreVs shape binding
    case h_5 binding => exact .teamAName shape binding
    case h_6 binding => exact .teamBName shape binding
    case h_7 binding =>
      rw [twoDigits_eq, twoDigits_eq]
      exact .matchClock shape binding _ _ (Nat.mod_lt _ (by decide)) (Nat.div_add_mod _ _).symm
    case h_8 binding =>
      split
      case h_1 state => exact .halfTime shape binding state
      case h_2 state => exact .fullTime shape binding state
      case h_3 state => exact .inPlay shape binding state

/-- The element as the renderer gets it. -/
structure Rendered (data : BindingData) (e : OverlayElement) (r : RenderElement) : Prop where
  shape : r.shape = e.shape
  bounds : r.bounds = e.bounds
  style : r.style = e.style
  text : Reads data e r.text

theorem rendered_resolve (data : BindingData) (e : OverlayElement) : Rendered data e (e.resolve data) :=
  ⟨rfl, rfl, rfl, reads_resolveText data e⟩

/-! ## Histories -/

/-- A banner that was activated. -/
structure Activation where
  template : OverlayTemplate
  params : List (String × String)
  durationSOverride : Nat
  activatedAtMs : Nat
  deriving DecidableEq, Repr

namespace Activation

def durationMs (a : Activation) : Nat :=
  if a.durationSOverride > 0 then a.durationSOverride * 1000 else a.template.durationMs

def expiresAtMs (a : Activation) : Nat := a.activatedAtMs + a.durationMs

/-- The template's elements, with its parameters filled in. -/
def elements (a : Activation) : List OverlayElement :=
  a.template.elements.map fun e =>
    { e with visible := true, style := { e.style with staticText := filledIn e.style.staticText a.params } }

/-- The banner the scene keeps of it. -/
def banner (a : Activation) : ActiveBanner := OverlayScene.banner a.params a.durationSOverride a.activatedAtMs a.template

theorem banner_elements (a : Activation) : a.banner.elements = a.elements := by
  show a.template.instantiate a.params = _
  simp only [OverlayTemplate.instantiate, elements, substituteParams_eq_filledIn]

theorem banner_expiresAtMs {a : Activation} (fits : a.expiresAtMs < 2 ^ 64) : a.banner.expiresAtMs = a.expiresAtMs :=
  Nat.mod_eq_of_lt fits

theorem elements_visible (a : Activation) : a.elements.filter (·.visible) = a.elements := by
  rw [List.filter_eq_self]
  intro e he
  obtain ⟨e', -, rfl⟩ := List.mem_map.1 he
  rfl

end Activation

/-- The last layout, the last data, and the banners activated since the layout came. -/
structure SceneHistory where
  layout : Option OverlayLayout := none
  data : BindingData := {}
  activations : List Activation := []
  deriving DecidableEq, Repr

namespace SceneHistory

/-- The first template of the event. -/
def template (h : SceneHistory) (templateId : String) : Option OverlayTemplate :=
  h.layout.bind fun layout => layout.templates.find? (·.eventType = templateId)

def record (h : SceneHistory) : SceneCall → SceneHistory
  | .setLayout layout => { h with layout := some layout, activations := [] }
  | .setBindingData data => { h with data }
  | .activateBanner templateId params durationSOverride nowMs =>
    { h with
      activations := h.activations ++ ((h.template templateId).map fun template =>
        { template, params, durationSOverride, activatedAtMs := nowMs }).toList }
  | .build _ => h

/-- The history of the calls. -/
def of (calls : List SceneCall) : SceneHistory := calls.foldl record {}

theorem of_concat (calls : List SceneCall) (c : SceneCall) : of (calls ++ [c]) = (of calls).record c := by
  rw [of, List.foldl_append]
  rfl

/-- The banners that have not lapsed. -/
def live (h : SceneHistory) (nowMs : Nat) : List Activation := h.activations.filter fun a => nowMs < a.expiresAtMs

/-- The visible elements of the layout, then those of each banner. -/
def elements (h : SceneHistory) (nowMs : Nat) : List OverlayElement :=
  ((h.layout.map (·.elements)).getD []).filter (·.visible) ++ (h.live nowMs).flatMap Activation.elements

/-- The elements of the history with what each reads under the last data. -/
def Shows (h : SceneHistory) (nowMs : Nat) (shown : List RenderElement) : Prop :=
  List.Forall₂ (Rendered h.data) (h.elements nowMs) shown

theorem shows_resolve (h : SceneHistory) (nowMs : Nat) : h.Shows nowMs ((h.elements nowMs).map (·.resolve h.data)) :=
  List.forall₂_map_right_iff.2 (List.forall₂_same.2 fun e _ => rendered_resolve h.data e)

/-- Every banner lapses at a time that a `uint64` holds. -/
def Fits (h : SceneHistory) : Prop := ∀ a ∈ h.activations, a.expiresAtMs < 2 ^ 64

instance (h : SceneHistory) : Decidable h.Fits := inferInstanceAs (Decidable (∀ a ∈ h.activations, _))

/-- Builds leave no mark on the history. -/
theorem of_filter (calls : List SceneCall) : of (calls.filter fun c => !c.isBuild) = of calls := by
  induction calls using List.reverseRecOn with
  | nil => rfl
  | append_singleton calls c ih =>
    rw [List.filter_append, of_concat]
    cases c with
    | build nowMs => rw [List.filter_cons_of_neg (by simp [SceneCall.isBuild]), List.filter_nil, List.append_nil, ih, record]
    | setLayout | setBindingData | activateBanner =>
      rw [List.filter_cons_of_pos (by simp [SceneCall.isBuild]), List.filter_nil, of_concat, ih]

end SceneHistory

/-! ## The scene follows its history -/

namespace OverlayScene

open SceneHistory (of)

theorem after_concat (calls : List SceneCall) (c : SceneCall) : after (calls ++ [c]) = (after calls).call c := by
  rw [after, List.foldl_append]
  rfl

/-- The scene holds the layout and the data of its history. -/
structure Follows (s : OverlayScene) (h : SceneHistory) : Prop where
  layout : s.layout = h.layout.getD {}
  hasLayout : s.hasLayout = h.layout.isSome
  data : s.data = h.data

theorem Follows.template {s : OverlayScene} {h : SceneHistory} (follows : s.Follows h) (templateId : String) :
    s.template templateId = h.template templateId := by
  rw [OverlayScene.template, SceneHistory.template, follows.layout, follows.hasLayout]
  cases h.layout <;> rfl

theorem Follows.call {s : OverlayScene} {h : SceneHistory} (follows : s.Follows h) (c : SceneCall) :
    (s.call c).Follows (h.record c) := by
  cases c with
  | setLayout layout => exact ⟨rfl, rfl, follows.data⟩
  | setBindingData data => exact ⟨follows.layout, follows.hasLayout, rfl⟩
  | activateBanner templateId params durationSOverride nowMs =>
    rw [OverlayScene.call, activateBanner_banners]
    exact ⟨follows.layout, follows.hasLayout, follows.data⟩
  | build nowMs => exact ⟨follows.layout, follows.hasLayout, follows.data⟩

theorem after_follows (calls : List SceneCall) : (after calls).Follows (of calls) := by
  induction calls using List.reverseRecOn with
  | nil => exact ⟨rfl, rfl, rfl⟩
  | append_singleton calls c ih =>
    rw [after_concat, SceneHistory.of_concat]
    exact ih.call c

theorem live_append (nowMs : Nat) (h : SceneHistory) (more : List Activation) :
    { h with activations := h.activations ++ more }.live nowMs = h.live nowMs ++ more.filter fun a => nowMs < a.expiresAtMs :=
  List.filter_append ..

/-- **Pruning loses nothing that is still live.** From the time of the last call on, the banners
the scene kept and the banners of its history come to the same. -/
theorem live_banners (calls : List SceneCall) (ordered : Chronological calls) (fits : (of calls).Fits) (nowMs : Nat)
    (later : ∀ t ∈ calls.filterMap SceneCall.time, t ≤ nowMs) :
    ((after calls).banners.filter fun b => nowMs < b.expiresAtMs) = ((of calls).live nowMs).map Activation.banner := by
  induction calls using List.reverseRecOn with
  | nil => rfl
  | append_singleton calls c ih =>
    obtain ⟨prior, before⟩ := ordered.split
    have follows := after_follows calls
    have earlier : ∀ t ∈ calls.filterMap SceneCall.time, t ≤ nowMs := fun t ht =>
      later t (by rw [List.filterMap_append]; exact List.mem_append_left _ ht)
    rw [SceneHistory.of_concat] at fits
    rw [after_concat, SceneHistory.of_concat]
    cases c with
    | setLayout layout => rfl
    | setBindingData data => exact ih prior fits earlier
    | activateBanner templateId params durationSOverride activatedAtMs =>
      rw [call, activateBanner_banners, follows.template]
      cases found : (of calls).template templateId with
      | none =>
        have same : (of calls).record (.activateBanner templateId params durationSOverride activatedAtMs) = of calls := by
          simp [SceneHistory.record, found]
        rw [same] at fits ⊢
        simpa using ih prior fits earlier
      | some template =>
        let added : Activation := { template, params, durationSOverride, activatedAtMs }
        have grown : (of calls).record (.activateBanner templateId params durationSOverride activatedAtMs) =
            { of calls with activations := (of calls).activations ++ [added] } := by
          simp [SceneHistory.record, found, added]
        rw [grown] at fits ⊢
        have fits_old : (of calls).Fits := fun a ha => fits a (List.mem_append_left _ ha)
        have fits_new : added.expiresAtMs < 2 ^ 64 := fits added (List.mem_append_right _ (List.mem_singleton_self _))
        rw [live_append, List.map_append, ← ih prior fits_old earlier]
        show List.filter _ (_ ++ [added.banner]) = _
        rw [List.filter_append]
        congr 1
        rw [List.filter_singleton, List.filter_singleton, Activation.banner_expiresAtMs fits_new]
        cases decide (nowMs < added.expiresAtMs) <;> rfl
    | build builtAtMs =>
      have built : builtAtMs ≤ nowMs := later builtAtMs (by simp [SceneCall.time])
      have same : (of calls).record (.build builtAtMs) = of calls := rfl
      have pruned : ((after calls).call (.build builtAtMs)).banners =
          (after calls).banners.filter fun b => !decide (b.expiresAtMs ≤ builtAtMs) := rfl
      rw [same, pruned, ← ih prior fits earlier, List.filter_filter]
      apply List.filter_congr
      intro b _
      have order : nowMs < b.expiresAtMs → ¬ b.expiresAtMs ≤ builtAtMs := by omega
      simpa using order

/-- What a build collects before the sort is what the history shows. -/
theorem shown_history (calls : List SceneCall) (nowMs : Nat) (ordered : Chronological (calls ++ [.build nowMs]))
    (fits : (of calls).Fits) :
    ((after calls).expireBanners nowMs).shown = ((of calls).elements nowMs).map (·.resolve (of calls).data) := by
  obtain ⟨prior, before⟩ := ordered.split
  have follows := after_follows calls
  have kept : ((after calls).expireBanners nowMs).banners = ((of calls).live nowMs).map Activation.banner := by
    rw [← live_banners calls prior fits nowMs (before nowMs rfl)]
    apply List.filter_congr
    intro b _
    by_cases lapsed : b.expiresAtMs ≤ nowMs
    · simp [lapsed]
    · have alive : nowMs < b.expiresAtMs := Nat.lt_of_not_le lapsed
      simp [lapsed, alive]
  have layout : (after calls).layout.elements = ((of calls).layout.map (·.elements)).getD [] := by
    rw [follows.layout]
    cases (of calls).layout <;> rfl
  have visible : ((of calls).live nowMs).flatMap (fun a => a.banner.elements.filter (·.visible)) =
      ((of calls).live nowMs).flatMap Activation.elements :=
    List.flatMap_congr fun a _ => a.banner_elements.symm ▸ a.elements_visible
  unfold OverlayScene.shown SceneHistory.elements
  rw [kept, List.flatMap_map, List.filter_append, List.filter_flatMap]
  show List.map (OverlayElement.resolve (after calls).data)
    ((after calls).layout.elements.filter (·.visible) ++
      ((of calls).live nowMs).flatMap fun a : Activation => a.banner.elements.filter (·.visible)) = _
  rw [visible, layout, follows.data]

/-- A build is the stable sort by `z` of the elements of the history, resolved. -/
theorem build_history (calls : List SceneCall) (nowMs : Nat) (ordered : Chronological (calls ++ [.build nowMs]))
    (fits : (of calls).Fits) :
    IsStableSort (fun e : RenderElement => e.bounds.z) (((of calls).elements nowMs).map (·.resolve (of calls).data))
      ((after calls).build nowMs).2.elements := by
  rw [← shown_history calls nowMs ordered fits]
  exact insertionSort_isStableSort _ _

/-- A banner comes up exactly for an event the last layout has a template of. -/
theorem activateBanner_snd (s : OverlayScene) (templateId : String) (params : List (String × String))
    (durationSOverride nowMs : Nat) :
    (s.activateBanner templateId params durationSOverride nowMs).2 = (s.template templateId).isSome := by
  unfold activateBanner template
  cases s.hasLayout with
  | false => rfl
  | true => cases s.layout.templates.find? (·.eventType = templateId) <;> rfl

/-- What holds of a build at some time after the calls, and of the banners asked for then. -/
structure TraceLaw (calls : List SceneCall) (nowMs : Nat) : Prop where
  canvas : ((after calls).build nowMs).2.canvasWidth = ((of calls).layout.getD {}).canvasWidth ∧
    ((after calls).build nowMs).2.canvasHeight = ((of calls).layout.getD {}).canvasHeight
  sorted : ∃ shown, (of calls).Shows nowMs shown ∧
    IsStableSort (fun e : RenderElement => e.bounds.z) shown ((after calls).build nowMs).2.elements ∧
    ((after calls).build nowMs).2.elements.Perm shown
  lapsed : ∀ a : Activation, a.expiresAtMs ≤ nowMs → ∀ (more : List SceneCall) (laterMs : Nat),
    Chronological (calls ++ .build nowMs :: more ++ [.build laterMs]) →
      a ∉ (of (calls ++ .build nowMs :: more)).live laterMs
  undisturbed : ((after (calls.filter fun c => !c.isBuild)).build nowMs).2 = ((after calls).build nowMs).2
  accepted : ∀ templateId params durationSOverride,
    ((after calls).activateBanner templateId params durationSOverride nowMs).2 = ((of calls).template templateId).isSome
  refused : ∀ templateId params durationSOverride, (of calls).template templateId = none →
    (after calls).activateBanner templateId params durationSOverride nowMs = (after calls, false)

/-- **The trace law.** -/
theorem trace_law (calls : List SceneCall) (nowMs : Nat) (ordered : Chronological (calls ++ [.build nowMs]))
    (fits : (of calls).Fits) : TraceLaw calls nowMs := by
  have follows := after_follows calls
  have sorted := build_history calls nowMs ordered fits
  constructor
  · exact ⟨congrArg OverlayLayout.canvasWidth follows.layout, congrArg OverlayLayout.canvasHeight follows.layout⟩
  · exact ⟨_, SceneHistory.shows_resolve _ _, sorted, sorted.perm⟩
  · intro a lapsed more laterMs ordered' live
    obtain ⟨-, before⟩ := ordered'.split
    have passed : nowMs ≤ laterMs := before laterMs rfl nowMs (by simp [SceneCall.time])
    have alive : laterMs < a.expiresAtMs := by simpa using (List.mem_filter.1 live).2
    omega
  · have follows' := after_follows (calls.filter fun c => !c.isBuild)
    have sorted' := build_history (calls.filter fun c => !c.isBuild) nowMs (ordered.filter _)
      (by rw [SceneHistory.of_filter]; exact fits)
    rw [SceneHistory.of_filter] at follows' sorted'
    have elements := sorted'.unique sorted
    have layout := follows'.layout.trans follows.layout.symm
    calc ((after (calls.filter fun c => !c.isBuild)).build nowMs).2
        = { canvasWidth := (after (calls.filter fun c => !c.isBuild)).layout.canvasWidth
            canvasHeight := (after (calls.filter fun c => !c.isBuild)).layout.canvasHeight
            elements := ((after (calls.filter fun c => !c.isBuild)).build nowMs).2.elements } := rfl
      _ = { canvasWidth := (after calls).layout.canvasWidth
            canvasHeight := (after calls).layout.canvasHeight
            elements := ((after calls).build nowMs).2.elements } := by rw [layout, elements]
  · intro templateId params durationSOverride
    rw [activateBanner_snd, follows.template]
  · intro templateId params durationSOverride unknown
    apply Prod.ext
    · rw [activateBanner_banners, follows.template, unknown]
      simp
    · rw [activateBanner_snd, follows.template, unknown]
      rfl

/-- A scoreboard that shows the match clock, with a banner of three seconds for a scorer and the score,
activated for the template's own time and, a second later, for five seconds. -/
def goalBanners : List SceneCall :=
  [.setLayout { elements := [{ shape := .text, binding := .matchClock, bounds := { z := 2 } }],
                templates := [{ eventType := "goal", durationMs := 3000,
                                elements := [{ shape := .text, bounds := { z := 1 },
                                               style := { staticText := "GOAL {{by}}" } },
                                             { shape := .text, binding := .scoreVs, bounds := { z := 1 } }] }] },
    .activateBanner "goal" [("by", "A")] 0 1000,
    .setBindingData { scoreA := 1, clockSeconds := 600 },
    .activateBanner "goal" [("by", "B")] 5 2000,
    .build 3999,
    .setBindingData { scoreA := 1, scoreB := 1, clockSeconds := 605 }]

/-- At the fourth second the first banner is gone. -/
theorem goalBanners_trace :
    TraceLaw goalBanners 4000 ∧
      ((after goalBanners).build 4000).2.elements.map RenderElement.text = ["GOAL B", "1 – 1", "10:05"] :=
  ⟨trace_law goalBanners 4000 (by decide) (by decide), by decide +kernel⟩

end OverlayScene

end SstCam
