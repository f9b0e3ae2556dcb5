import SstCam.Lib.Delimited
import SstCam.Lib.Substitution
import SstCam.Overlay.OverlayScene

/-!
# The parameters of a banner

A banner's texts are gone over once for each parameter, in key order (`substituteParams`), each pass
leaving alone the value it has just put in. A later pass does not know that value from the text,
so `{{a}}`, with `{{b}}` for `a`, comes out as the value of `b`. The texts a banner shows are the
template's with all parameters put in at once exactly if the values of the parameters before each
make no further place for it (`activateBanner_text_iff`).
-/

namespace SstCam
set_option autoImplicit false
open Substitution

/-- The parameters as the map holds them. -/
def inKeyOrder (params : List (String × String)) : List (String × String) :=
  params.insertionSort fun p q => p.1 ≤ q.1

/-- What stands in a text for the parameter. -/
def placeholder (p : String × String) : Binding Char where
  token := ("\x7b\x7b" ++ p.1 ++ "\x7d\x7d").toList
  value := p.2.toList
  token_ne := by simp

/-- A key that can be told from the braces around it. -/
def BraceFree (key : String) : Prop :=
  '\x7b' ∉ key.toList ∧ '\x7d' ∉ key.toList

instance (key : String) : Decidable (BraceFree key) :=
  inferInstanceAs (Decidable (_ ∧ _))

/-- What the text becomes when each placeholder in it is replaced by its value and nothing else is
touched: every pass replaces placeholders of the text itself, and the result is the one scan for all
parameters, whatever their order. -/
def SubstitutedAtOnce (text : String) (params : List (String × String)) (result : String) : Prop :=
  OnlyOriginal ((inKeyOrder params).map placeholder) text.toList ∧
    ∀ order : List (String × String), order.Perm params →
      result.toList = substitute (order.map placeholder) text.toList

/-- With the parameters before it put in at once, no parameter has more placeholders than in the text. -/
def NoPlaceholderArises (text : String) (params : List (String × String)) : Prop :=
  NoneArises ((inKeyOrder params).map placeholder) text.toList

theorem placeholder_token (p : String × String) :
    (placeholder p).token = '\x7b' :: '\x7b' :: (p.1.toList ++ ['\x7d', '\x7d']) := by
  simp [placeholder]

theorem replaceToken_eq_scan (b : Binding Char) (skip : Nat) (text : List Char) :
    replaceToken b.token b.value skip text = scan id id [b] skip text := by
  induction text generalizing skip with
  | nil => cases skip <;> rfl
  | cons c text ih =>
    cases skip with
    | succ skip => exact ih skip
    | zero =>
      have reads : ((c :: text).map id) = c :: text := List.map_id _
      rw [replaceToken, ih, ih]
      by_cases stands : b.token <+: c :: text
      · rw [if_pos (List.isPrefixOf_iff_prefix.2 stands)]
        rw [scan_hit_cons (b := b) (by rw [reads, hit_single, if_pos stands])]
        rfl
      · rw [if_neg fun there => stands (List.isPrefixOf_iff_prefix.1 there)]
        rw [scan_miss (by rw [reads, hit_single, if_neg stands])]

/-- The code's passes are those of the marked text. -/
theorem substituteParams_eq (text : String) (params : List (String × String)) :
    (substituteParams text params).toList =
      (passes ((inKeyOrder params).map placeholder) (mark 0 text.toList)).map Prod.fst := by
  rw [map_fst_passes, map_fst_mark, substituteParams, ← inKeyOrder]
  induction inKeyOrder params generalizing text with
  | nil => rfl
  | cons p ps ih =>
    rw [List.foldl_cons, List.map_cons, List.foldl_cons, ih, String.toList_ofList]
    congr 1
    exact replaceToken_eq_scan (placeholder p) 0 text.toList

/-- The text with the placeholders of one parameter after the other replaced, in key order. -/
def filledIn (text : String) (params : List (String × String)) : String :=
  String.ofList (((inKeyOrder params).map placeholder).foldl (fun text b => substitute [b] text) text.toList)

theorem substituteParams_eq_filledIn (text : String) (params : List (String × String)) :
    substituteParams text params = filledIn text params := by
  rw [substituteParams, filledIn, ← inKeyOrder]
  induction inKeyOrder params generalizing text with
  | nil => simp
  | cons p ps ih =>
    rw [List.foldl_cons, List.map_cons, List.foldl_cons, ih, String.toList_ofList]
    congr 2
    exact replaceToken_eq_scan (placeholder p) 0 text.toList

/-! ## Placeholders never overlap -/

/-- Past the braces that open it a placeholder has none that could open another. -/
theorem not_opened {key : String} (h : BraceFree key) {d : Nat} {more rest : List Char}
    (inside : d < (key.toList ++ ['\x7d', '\x7d']).length) :
    ¬ '\x7b' :: more <+: (key.toList ++ ['\x7d', '\x7d']).drop d ++ rest := by
  rw [List.drop_eq_getElem_cons inside, List.cons_append, List.cons_prefix_cons]
  rintro ⟨brace, -⟩
  have mem : '\x7b' ∈ key.toList ++ ['\x7d', '\x7d'] := by
    rw [brace]
    exact List.getElem_mem inside
  rcases List.mem_append.1 mem with key_brace | closing
  · exact h.1 key_brace
  · revert closing
    decide

theorem apart_placeholders {p q : String × String} (hp : BraceFree p.1) (hq : BraceFree q.1) :
    Apart (placeholder p).token (placeholder q).token := by
  rintro s d hd ⟨rest, rfl⟩ there
  rw [List.drop_append_of_le_length (Nat.le_of_lt hd)] at there
  rw [placeholder_token p] at hd there ⊢
  rw [placeholder_token q] at there ⊢
  match d with
  | 0 =>
    obtain ⟨rest', same⟩ := there
    simp only [List.drop_zero, List.cons_append, List.append_assoc, List.cons.injEq, true_and, List.nil_append] at same
    have keys := ((Delimited.field_inj hq.2 hp.2).1 same).1
    rw [keys]
    exact ⟨rfl, rfl⟩
  | 1 =>
    rw [List.drop_succ_cons, List.drop_zero, List.cons_append, List.cons_prefix_cons] at there
    refine absurd there.2 (not_opened (d := 0) hp ?_)
    simp
  | d + 2 =>
    rw [List.drop_succ_cons, List.drop_succ_cons] at there
    rw [List.length_cons, List.length_cons] at hd
    exact absurd there (not_opened hp (by omega))

theorem separate_placeholders {params : List (String × String)} (distinct : (params.map Prod.fst).Nodup)
    (plain : ∀ p ∈ params, BraceFree p.1) : Separate (params.map placeholder) where
  apart := by
    intro b hb c hc
    obtain ⟨p, hp, rfl⟩ := List.mem_map.1 hb
    obtain ⟨q, hq, rfl⟩ := List.mem_map.1 hc
    exact apart_placeholders (plain p hp) (plain q hq)
  nodup := by
    have keys : (params.map placeholder).map Binding.token =
        (params.map Prod.fst).map fun key => '\x7b' :: '\x7b' :: (key.toList ++ ['\x7d', '\x7d']) := by
      simp [Function.comp_def, placeholder_token]
    rw [keys]
    refine List.Nodup.map ?_ distinct
    intro key key' same
    have chars : key.toList = key'.toList := by simpa using same
    exact String.toList_inj.1 chars

theorem inKeyOrder_perm (params : List (String × String)) : (inKeyOrder params).Perm params :=
  List.perm_insertionSort _ params

/-- A text is rewritten as if all at once exactly if no placeholder arises on the way. -/
theorem substituteParams_iff (text : String) {params : List (String × String)} (distinct : (params.map Prod.fst).Nodup)
    (plain : ∀ p ∈ params, BraceFree p.1) :
    SubstitutedAtOnce text params (substituteParams text params) ↔ NoPlaceholderArises text params := by
  have sorted := (inKeyOrder_perm params).map placeholder
  have here := separate_placeholders distinct plain
  have there : Separate ((inKeyOrder params).map placeholder) := by
    refine separate_placeholders (((inKeyOrder_perm params).map Prod.fst).nodup_iff.2 distinct) ?_
    intro p hp
    exact plain p ((inKeyOrder_perm params).mem_iff.1 hp)
  rw [NoPlaceholderArises, ← passes_iff there, SubstitutedAtOnce, substituteParams_eq]
  refine and_congr_right fun _ => ⟨fun all => ?_, fun once order listed => ?_⟩
  · exact all _ (inKeyOrder_perm params)
  · rw [once, substitute_perm here sorted, substitute_perm here (listed.map placeholder)]

/-- **The texts of a banner.** Each element of an activated banner shows its template's text, gone over in
passes; the passes are one substitution of all parameters exactly if no placeholder arises on the way. -/
theorem OverlayScene.activateBanner_text_iff {s s' : OverlayScene} {templateId : String}
    {params : List (String × String)} {durationSOverride nowMs : Nat}
    (activated : s.activateBanner templateId params durationSOverride nowMs = (s', true))
    (distinct : (params.map Prod.fst).Nodup) (plain : ∀ p ∈ params, BraceFree p.1) :
    ∃ tmpl banner, s.layout.templates.find? (·.eventType = templateId) = some tmpl ∧
      s'.banners = s.banners ++ [banner] ∧
      List.Forall₂ (fun template shown : OverlayElement =>
        shown.style.staticText.toList =
            (passes ((inKeyOrder params).map placeholder) (mark 0 template.style.staticText.toList)).map Prod.fst ∧
          (SubstitutedAtOnce template.style.staticText params shown.style.staticText ↔
            NoPlaceholderArises template.style.staticText params))
        tmpl.elements banner.elements := by
  unfold OverlayScene.activateBanner at activated
  split at activated
  · simp at activated
  · split at activated
    · simp at activated
    · rename_i tmpl found
      simp only [Prod.mk.injEq, and_true] at activated
      subst activated
      refine ⟨tmpl, _, found, rfl, ?_⟩
      simp only [List.forall₂_map_right_iff]
      refine List.forall₂_same.2 ?_
      intro e _
      exact ⟨substituteParams_eq _ params, substituteParams_iff _ distinct plain⟩

/-- A scene with one template, of one text. -/
def bannerScene (text : String) : OverlayScene :=
  let goal : OverlayTemplate :=
    { eventType := "goal", durationMs := 5000, elements := [{ style := { staticText := text } }] }
  { hasLayout := true, layout := { templates := [goal] } }

/-- Two names, one of them a brace fragment. -/
theorem activateBanner_text_names : ∃ banner : ActiveBanner,
    ((bannerScene "\x7b\x7bhome\x7d\x7d - \x7b\x7baway\x7d\x7d").activateBanner "goal"
      [("home", "\x7b\x7b"), ("away", "B")] 0 0).1.banners = [banner] ∧
    ∀ shown ∈ banner.elements, SubstitutedAtOnce "\x7b\x7bhome\x7d\x7d - \x7b\x7baway\x7d\x7d"
      [("home", "\x7b\x7b"), ("away", "B")] shown.style.staticText := by
  have arises : NoPlaceholderArises "\x7b\x7bhome\x7d\x7d - \x7b\x7baway\x7d\x7d"
      [("home", "\x7b\x7b"), ("away", "B")] := by
    have order : inKeyOrder [("home", "\x7b\x7b"), ("away", "B")] = [("away", "B"), ("home", "\x7b\x7b")] := by decide
    rw [NoPlaceholderArises, order]
    refine (@forall_split_concat Char _ [placeholder ("away", "B")] _).2 ⟨?_, by decide⟩
    exact (@forall_split_concat Char _ [] _).2 ⟨fun _ _ _ split => absurd split (by simp), by decide⟩
  have activated : (bannerScene "\x7b\x7bhome\x7d\x7d - \x7b\x7baway\x7d\x7d").activateBanner "goal"
      [("home", "\x7b\x7b"), ("away", "B")] 0 0 = (_, true) := rfl
  obtain ⟨tmpl, banner, found, added, texts⟩ := OverlayScene.activateBanner_text_iff activated (by decide) (by decide)
  refine ⟨banner, added, ?_⟩
  obtain rfl := Option.some.inj found
  obtain ⟨shown, rest, text, none, elements⟩ := List.forall₂_cons_left_iff.1 texts
  rw [List.forall₂_nil_left_iff.1 none] at elements
  intro e he
  rw [elements, List.mem_singleton] at he
  rw [he]
  exact text.2.2 arises

/-- A value that reads as another placeholder is replaced in its turn. -/
theorem substituted_twice :
    (bannerScene "\x7b\x7ba\x7d\x7d").activateBanner "goal" [("a", "\x7b\x7bb\x7d\x7d"), ("b", "x")] 0 0 =
        ({ bannerScene "\x7b\x7ba\x7d\x7d" with
            banners := [{ expiresAtMs := 5000, elements := [{ style := { staticText := "x" } }] }] }, true) ∧
      ¬ SubstitutedAtOnce "\x7b\x7ba\x7d\x7d" [("a", "\x7b\x7bb\x7d\x7d"), ("b", "x")] "x" := by
  refine ⟨by decide, ?_⟩
  rintro ⟨-, once⟩
  exact absurd (once _ (List.Perm.refl _)) (by decide)

end SstCam
