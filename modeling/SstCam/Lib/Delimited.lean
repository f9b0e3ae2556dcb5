import Mathlib.Data.List.Basic

/-!
# Delimited text

Fields written one after another, each with a separator behind it. The text is unambiguous when
no field carries the separator: it gives back the fields (`terminated_inj`), before a last part
that may be anything the fields and the last part (`terminated_append_inj`), and the records an
encoding was applied to (`terminated_map_inj`).

A mark whose last character stands nowhere else in it is looked for (`after`) from one occurrence of
that character to the next: either the mark ends there (`after_here`) or it does not
(`after_skip`).
-/

namespace Delimited
set_option autoImplicit false

variable {α : Type} {sep : α} {xs ys : List (List α)}

/-- The fields, each followed by the separator. -/
def terminated (sep : α) (fields : List (List α)) : List α := fields.flatMap (· ++ [sep])

@[simp] theorem terminated_nil : terminated sep [] = [] := rfl

@[simp] theorem terminated_cons (x : List α) : terminated sep (x :: xs) = x ++ sep :: terminated sep xs := by
  simp [terminated]

/-- The first separator ends the first field. -/
theorem field_inj {x y rest rest' : List α} (hx : sep ∉ x) (hy : sep ∉ y) :
    x ++ sep :: rest = y ++ sep :: rest' ↔ x = y ∧ rest = rest' := by
  constructor
  · intro same
    induction x generalizing y with
    | nil =>
      cases y with
      | nil => simpa using same
      | cons c y => exact absurd (List.cons.inj same).1 fun h => hy (h ▸ List.mem_cons_self)
    | cons c x ih =>
      cases y with
      | nil => exact absurd (List.cons.inj same).1.symm fun h => hx (h ▸ List.mem_cons_self)
      | cons d y =>
        obtain ⟨rfl, tail⟩ := List.cons.inj same
        obtain ⟨rfl, rest⟩ := ih (fun h => hx (List.mem_cons_of_mem _ h)) (fun h => hy (List.mem_cons_of_mem _ h)) tail
        exact ⟨rfl, rest⟩
  · rintro ⟨rfl, rfl⟩
    rfl

theorem takeWhile_field [DecidableEq α] {x rest : List α} (hx : sep ∉ x) :
    (x ++ sep :: rest).takeWhile (· ≠ sep) = x := by
  induction x with
  | nil => simp
  | cons c x ih =>
    have ne : c ≠ sep := fun h => hx (h ▸ List.mem_cons_self)
    rw [List.cons_append, List.takeWhile_cons_of_pos (by simpa using ne), ih fun h => hx (List.mem_cons_of_mem _ h)]

theorem terminated_append_inj {last last' : List α} (hx : ∀ x ∈ xs, sep ∉ x) (hy : ∀ y ∈ ys, sep ∉ y)
    (length : xs.length = ys.length) :
    terminated sep xs ++ last = terminated sep ys ++ last' ↔ xs = ys ∧ last = last' := by
  induction xs generalizing ys with
  | nil =>
    obtain rfl := List.length_eq_zero_iff.1 length.symm
    simp
  | cons x xs ih =>
    cases ys with
    | nil => simp at length
    | cons y ys =>
      rw [List.forall_mem_cons] at hx hy
      rw [terminated_cons, terminated_cons, List.append_assoc, List.append_assoc, List.cons_append, List.cons_append,
        field_inj hx.1 hy.1, ih hx.2 hy.2 (Nat.succ.inj length), List.cons_eq_cons, and_assoc]

theorem terminated_inj (hx : ∀ x ∈ xs, sep ∉ x) (hy : ∀ y ∈ ys, sep ∉ y) :
    terminated sep xs = terminated sep ys ↔ xs = ys := by
  induction xs generalizing ys with
  | nil => cases ys <;> simp
  | cons x xs ih =>
    cases ys with
    | nil => simp
    | cons y ys =>
      rw [List.forall_mem_cons] at hx hy
      rw [terminated_cons, terminated_cons, field_inj hx.1 hy.1, ih hx.2 hy.2, List.cons_eq_cons]

/-- Records written by an encoding that tells them apart. -/
theorem terminated_map_inj {β : Type} {encode : β → List α} {as bs : List β} (ha : ∀ a ∈ as, sep ∉ encode a)
    (hb : ∀ b ∈ bs, sep ∉ encode b) (inj : ∀ a ∈ as, ∀ b ∈ bs, encode a = encode b → a = b) :
    terminated sep (as.map encode) = terminated sep (bs.map encode) ↔ as = bs := by
  rw [terminated_inj (List.forall_mem_map.2 ha) (List.forall_mem_map.2 hb)]
  constructor
  · intro same
    induction as generalizing bs with
    | nil => exact (List.map_eq_nil_iff.1 same.symm).symm
    | cons a as ih =>
      cases bs with
      | nil => exact absurd same (by simp)
      | cons b bs =>
        rw [List.map_cons, List.map_cons, List.cons_eq_cons] at same
        rw [List.forall_mem_cons] at ha hb
        obtain rfl := inj a List.mem_cons_self b List.mem_cons_self same.1
        have rest := ih ha.2 hb.2 (fun x hx y hy => inj x (List.mem_cons_of_mem _ hx) y (List.mem_cons_of_mem _ hy)) same.2
        rw [rest]
  · rintro rfl
    rfl

/-! ## Looking for a mark -/

/-- What stands behind the first occurrence of the mark. -/
def after [DecidableEq α] (mark : List α) : List α → Option (List α)
  | [] => if mark = [] then some [] else none
  | c :: cs => if mark.isPrefixOf (c :: cs) then some ((c :: cs).drop mark.length) else after mark cs

section after
variable [DecidableEq α] {body x rest : List α}

theorem after_cons_of_not {mark : List α} {c : α} {cs : List α} (h : ¬ mark <+: c :: cs) :
    after mark (c :: cs) = after mark cs :=
  if_neg fun stands => h (List.isPrefixOf_iff_prefix.1 stands)

theorem after_append {mark : List α} (ne : mark ≠ []) (rest : List α) : after mark (mark ++ rest) = some rest := by
  cases mark with
  | nil => exact absurd rfl ne
  | cons c cs =>
    have stands : (c :: cs).isPrefixOf ((c :: cs) ++ rest) = true :=
      List.isPrefixOf_iff_prefix.2 (List.prefix_append _ _)
    rw [List.cons_append] at stands ⊢
    rw [after, if_pos stands, ← List.cons_append, List.drop_left]

/-- What cannot begin the mark is passed. -/
theorem after_past {c : α} {cs : List α} (hx : c ∉ x) : after (c :: cs) (x ++ rest) = after (c :: cs) rest := by
  induction x with
  | nil => rfl
  | cons d x ih =>
    rw [List.cons_append, after_cons_of_not, ih fun h => hx (List.mem_cons_of_mem _ h)]
    rw [List.cons_prefix_cons]
    rintro ⟨rfl, -⟩
    exact hx List.mem_cons_self

/-- An occurrence of the last character that does not end the mark. -/
theorem after_skip (hb : sep ∉ body) (hx : sep ∉ x) (away : ¬ body <:+ x) :
    after (body ++ [sep]) (x ++ sep :: rest) = after (body ++ [sep]) rest := by
  induction x with
  | nil =>
    refine after_cons_of_not ?_
    rintro ⟨tail, same⟩
    rw [List.append_assoc, List.singleton_append] at same
    have nil := ((field_inj hb List.not_mem_nil).1 same).1
    exact away (nil ▸ List.nil_suffix)
  | cons c x ih =>
    have away' : ¬ body <:+ x := fun h => away (h.trans (List.suffix_cons c x))
    rw [List.cons_append, after_cons_of_not, ih (fun h => hx (List.mem_cons_of_mem _ h)) away']
    rintro ⟨tail, same⟩
    rw [List.append_assoc, List.singleton_append, ← List.cons_append] at same
    exact away (((field_inj hb hx).1 same).1 ▸ List.suffix_refl _)

/-- The first occurrence of the last character, and it ends the mark. -/
theorem after_here (hb : sep ∉ body) (hx : sep ∉ x) :
    after (body ++ [sep]) (x ++ (body ++ sep :: rest)) = some rest := by
  induction x with
  | nil =>
    have whole : body ++ sep :: rest = body ++ [sep] ++ rest := by rw [List.append_assoc, List.singleton_append]
    rw [List.nil_append, whole]
    exact after_append (by simp) rest
  | cons c x ih =>
    rw [List.cons_append, after_cons_of_not, ih fun h => hx (List.mem_cons_of_mem _ h)]
    rintro ⟨tail, same⟩
    have inside : sep ∉ c :: (x ++ body) := by
      rw [← List.cons_append, List.mem_append, not_or]
      exact ⟨hx, hb⟩
    rw [List.append_assoc, List.singleton_append, ← List.append_assoc, ← List.cons_append] at same
    have short := congrArg List.length ((field_inj hb inside).1 same).1
    simp only [List.length_cons, List.length_append] at short
    omega

end after

end Delimited
