import Mathlib.Computability.Language
import Mathlib.Data.List.Infix

/-!
# Regular expressions over classes of letters

What an expression stands for is a language; a text is matched by derivatives (`accepts_iff`), and
searched for a part that matches (`search_iff`). A letter is any of a class, so an alphabet need not be
finite. A line has a mark behind its last letter, which the anchor `$` stands for (`search_line_iff`).
-/

set_option autoImplicit false

inductive Regex (α : Type) where
  | empty
  | epsilon
  | letter (p : α → Bool)
  | seq (r s : Regex α)
  | alt (r s : Regex α)
  | star (r : Regex α)

namespace Regex

variable {α : Type}

def lang : Regex α → Language α
  | empty => 0
  | epsilon => 1
  | letter p => {w | ∃ a, p a = true ∧ w = [a]}
  | seq r s => r.lang * s.lang
  | alt r s => r.lang + s.lang
  | star r => KStar.kstar r.lang

/-- Letter by letter. -/
def text [DecidableEq α] : List α → Regex α
  | [] => epsilon
  | a :: w => seq (letter fun b => decide (b = a)) (text w)

def option (r : Regex α) : Regex α := alt r epsilon

variable {r s : Regex α} {w : List α}

@[simp] theorem mem_lang_empty : w ∉ (empty : Regex α).lang := Language.notMem_zero w

@[simp] theorem mem_lang_epsilon : w ∈ (epsilon : Regex α).lang ↔ w = [] := Language.mem_one w

@[simp] theorem mem_lang_letter {p : α → Bool} : w ∈ (letter p).lang ↔ ∃ a, p a = true ∧ w = [a] := Iff.rfl

theorem mem_lang_seq : w ∈ (seq r s).lang ↔ ∃ u ∈ r.lang, ∃ v ∈ s.lang, u ++ v = w := Language.mem_mul

@[simp] theorem mem_lang_alt : w ∈ (alt r s).lang ↔ w ∈ r.lang ∨ w ∈ s.lang := Language.mem_add _ _ _

@[simp] theorem mem_lang_text [DecidableEq α] {t : List α} : w ∈ (text t).lang ↔ w = t := by
  induction t generalizing w with
  | nil => rw [text, mem_lang_epsilon]
  | cons a t ih =>
    rw [text, mem_lang_seq]
    constructor
    · rintro ⟨_, ⟨b, same, rfl⟩, v, there, rfl⟩
      rw [ih] at there
      rw [of_decide_eq_true same, there, List.singleton_append]
    · rintro rfl
      exact ⟨[a], ⟨a, decide_eq_true rfl, rfl⟩, t, ih.2 rfl, rfl⟩

@[simp] theorem mem_lang_option : w ∈ (option r).lang ↔ w ∈ r.lang ∨ w = [] := by
  rw [option, mem_lang_alt, mem_lang_epsilon]

/-- Any number of letters of a class. -/
theorem mem_lang_star_letter {p : α → Bool} : w ∈ (star (letter p)).lang ↔ ∀ a ∈ w, p a = true := by
  rw [lang, Language.mem_kstar]
  constructor
  · rintro ⟨parts, rfl, each⟩ a mem
    obtain ⟨part, inside, mem⟩ := List.mem_flatten.1 mem
    obtain ⟨b, ok, rfl⟩ := each part inside
    obtain rfl := List.mem_singleton.1 mem
    exact ok
  · intro each
    refine ⟨w.map fun a => [a], List.flatMap_singleton' w |>.symm.trans List.flatMap_def, fun part mem => ?_⟩
    obtain ⟨a, inside, rfl⟩ := List.mem_map.1 mem
    exact ⟨a, each a inside, rfl⟩

/-! ## Matching -/

def nullable : Regex α → Bool
  | empty => false
  | epsilon => true
  | letter _ => false
  | seq r s => r.nullable && s.nullable
  | alt r s => r.nullable || s.nullable
  | star _ => true

/-- What may follow the letter. -/
def deriv (a : α) : Regex α → Regex α
  | empty => empty
  | epsilon => empty
  | letter p => if p a then epsilon else empty
  | seq r s => if r.nullable then alt (seq (r.deriv a) s) (s.deriv a) else seq (r.deriv a) s
  | alt r s => alt (r.deriv a) (s.deriv a)
  | star r => seq (r.deriv a) (star r)

def accepts (r : Regex α) (w : List α) : Bool := (w.foldl (fun r a => r.deriv a) r).nullable

/-- Some part of the text is accepted. -/
def search (r : Regex α) (w : List α) : Bool := w.tails.any fun rest => rest.inits.any r.accepts

theorem nullable_iff : r.nullable = true ↔ [] ∈ r.lang := by
  induction r with
  | empty => simp [nullable]
  | epsilon => simp [nullable]
  | letter p => simp [nullable]
  | seq r s ihr ihs => simp [nullable, mem_lang_seq, ihr, ihs]
  | alt r s ihr ihs => simp [nullable, ihr, ihs]
  | star r ih => simp [nullable, lang, Language.nil_mem_kstar]

/-- The first of some parts, if there is a letter in them. -/
theorem cons_mem_kstar {l : Language α} {a : α} :
    a :: w ∈ KStar.kstar l ↔ ∃ u, a :: u ∈ l ∧ ∃ v ∈ KStar.kstar l, u ++ v = w := by
  constructor
  · intro mem
    obtain ⟨parts, whole, each⟩ := Language.mem_kstar_iff_exists_nonempty.1 mem
    cases parts with
    | nil => cases whole
    | cons part parts =>
      rw [List.forall_mem_cons] at each
      obtain ⟨⟨first, some⟩, rest⟩ := each
      cases part with
      | nil => exact absurd rfl some
      | cons b u =>
        rw [List.flatten_cons, List.cons_append, List.cons.injEq] at whole
        obtain ⟨rfl, rfl⟩ := whole
        exact ⟨u, first, parts.flatten, Language.join_mem_kstar fun y mem => (rest y mem).1, rfl⟩
  · rintro ⟨u, first, v, rest, rfl⟩
    obtain ⟨parts, rfl, each⟩ := Language.mem_kstar.1 rest
    exact Language.mem_kstar.2 ⟨(a :: u) :: parts, rfl, List.forall_mem_cons.2 ⟨first, each⟩⟩

/-- The first letter is one of the first part, or the first part is empty. -/
theorem cons_mem_lang_seq {a : α} : a :: w ∈ (seq r s).lang ↔
    (∃ u, a :: u ∈ r.lang ∧ ∃ v ∈ s.lang, u ++ v = w) ∨ [] ∈ r.lang ∧ a :: w ∈ s.lang := by
  rw [mem_lang_seq]
  constructor
  · rintro ⟨u, first, v, second, whole⟩
    cases u with
    | nil => exact .inr ⟨first, whole ▸ second⟩
    | cons b u =>
      rw [List.cons_append, List.cons.injEq] at whole
      obtain ⟨rfl, rfl⟩ := whole
      exact .inl ⟨u, first, v, second, rfl⟩
  · rintro (⟨u, first, v, second, rfl⟩ | ⟨first, second⟩)
    · exact ⟨a :: u, first, v, second, rfl⟩
    · exact ⟨[], first, a :: w, second, rfl⟩

theorem mem_lang_deriv {a : α} : w ∈ (r.deriv a).lang ↔ a :: w ∈ r.lang := by
  induction r generalizing w with
  | empty => simp [deriv]
  | epsilon => simp [deriv]
  | letter p => by_cases ok : p a = true <;> simp [deriv, ok]
  | seq r s ihr ihs =>
    have front : w ∈ (seq (r.deriv a) s).lang ↔ ∃ u, a :: u ∈ r.lang ∧ ∃ v ∈ s.lang, u ++ v = w := by
      simp only [mem_lang_seq, ihr]
    rw [cons_mem_lang_seq, deriv]
    by_cases skips : r.nullable = true
    · rw [if_pos skips, mem_lang_alt, front, ihs]
      simp [nullable_iff.1 skips]
    · rw [if_neg skips, front]
      have never : [] ∉ r.lang := fun there => skips (nullable_iff.2 there)
      simp [never]
  | alt r s ihr ihs => simp [deriv, ihr, ihs]
  | star r ih =>
    rw [deriv, mem_lang_seq, lang, cons_mem_kstar]
    simp only [ih]

theorem accepts_iff : r.accepts w = true ↔ w ∈ r.lang := by
  induction w generalizing r with
  | nil => exact nullable_iff
  | cons a w ih => exact ih.trans mem_lang_deriv

theorem search_iff : r.search w = true ↔ ∃ before part after, part ∈ r.lang ∧ before ++ part ++ after = w := by
  simp only [search, List.any_eq_true, List.mem_tails, List.mem_inits, accepts_iff]
  constructor
  · rintro ⟨rest, ⟨before, rfl⟩, part, ⟨after, rfl⟩, there⟩
    exact ⟨before, part, after, there, List.append_assoc _ _ _⟩
  · rintro ⟨before, part, after, there, rfl⟩
    exact ⟨part ++ after, ⟨before, (List.append_assoc _ _ _).symm⟩, part, List.prefix_append _ _, there⟩

/-! ## Lines -/

/-- The letters, and the mark of the end. -/
def line (w : List α) : List (Option α) := w.map some ++ [none]

/-- Where a line is cut: in the text, or behind the mark. -/
theorem append_eq_line {u v : List (Option α)} :
    u ++ v = line w ↔ (∃ a b, a ++ b = w ∧ u = a.map some ∧ v = line b) ∨ u = line w ∧ v = [] := by
  constructor
  · intro whole
    obtain ⟨more, letters, rest⟩ | ⟨more, rfl, mark⟩ := List.append_eq_append_iff.1 whole
    · obtain ⟨a, b, rfl, rfl, rfl⟩ := List.map_eq_append_iff.1 letters
      exact .inl ⟨a, b, rfl, rfl, rest⟩
    · cases more with
      | nil =>
        obtain rfl : v = [none] := mark.symm
        exact .inl ⟨w, [], List.append_nil w, by rw [List.append_nil], rfl⟩
      | cons c more =>
        obtain ⟨rfl, rest⟩ := List.cons.inj mark
        obtain ⟨rfl, rfl⟩ := List.append_eq_nil_iff.1 rest.symm
        exact .inr ⟨rfl, rfl⟩
  · rintro (⟨a, b, rfl, rfl, rfl⟩ | ⟨rfl, rfl⟩)
    · simp [line]
    · exact List.append_nil _

/-- What is found in a line that is not found in nothing: a part of the text, or one that ends with the line. -/
theorem search_line_iff {r : Regex (Option α)} (some' : [] ∉ r.lang) :
    r.search (line w) = true ↔ ∃ before part after, before ++ part ++ after = w ∧
      (part.map some ∈ r.lang ∨ after = [] ∧ line part ∈ r.lang) := by
  rw [search_iff]
  constructor
  · rintro ⟨before, part, after, there, whole⟩
    obtain ⟨front, a, rfl, letters, rfl⟩ | ⟨all, rfl⟩ := append_eq_line.1 whole
    · obtain ⟨b, p, rfl, rfl, rfl⟩ := List.map_eq_append_iff.1 letters.symm
      exact ⟨b, p, a, rfl, .inl there⟩
    · obtain ⟨b, p, rfl, rfl, rfl⟩ | ⟨-, rfl⟩ := append_eq_line.1 all
      · exact ⟨b, p, [], List.append_nil _, .inr ⟨rfl, there⟩⟩
      · exact absurd there some'
  · rintro ⟨before, part, after, rfl, there | ⟨rfl, there⟩⟩
    · exact ⟨before.map some, part.map some, line after, there, by simp [line]⟩
    · exact ⟨before.map some, line part, [], there, by simp [line]⟩

end Regex
