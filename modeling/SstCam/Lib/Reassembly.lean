import Mathlib.Data.Finset.Card
import Mathlib.Data.Finset.Range
import Mathlib.Data.Finset.Dedup
import Mathlib.Data.Nat.Find
import SstCam.Lib.Runs

/-!
# Bounded reassembly

Messages arrive in parts, each with its index; `total k` is the number of parts of message `k`.
A `Table` holds what has been collected of the messages that are open, oldest first. `offer`
takes one part: it completes its message when it is the last one missing. Opening a message
where the table is full evicts the oldest ones (`victims`).

Two facts carry every proof: what an offer does to its own message does not depend on the rest
(`offer_snd`, `offer_got_self`), and the only others it changes are the victims
(`offer_got_other`).

A `Log` runs a table and remembers the past. Where nothing incomplete is evicted and nothing is
completed twice (`Careful`), what is collected of a message not done yet is all that was seen of
it (`Faithful`), so every message delivered whole is done, once.
-/

namespace Reassembly
set_option autoImplicit false

variable {κ : Type} {total : κ → ℕ}

/-- A part of a message. -/
structure Part (total : κ → ℕ) where
  key : κ
  index : ℕ
  lt : index < total key

/-- What is collected of the open messages, which stand in `order`, oldest first. None of them
is complete. -/
structure Table (total : κ → ℕ) where
  got : κ → Finset ℕ
  order : List κ
  nodup : order.Nodup
  mem_order : ∀ k, k ∈ order ↔ (got k).Nonempty
  missing : ∀ k, (got k).Nonempty → got k ⊂ Finset.range (total k)

namespace Table

def empty : Table total where
  got _ := ∅
  order := []
  nodup := List.nodup_nil
  mem_order := by simp
  missing := by simp

theorem got_eq_empty {t : Table total} {k : κ} (h : k ∉ t.order) : t.got k = ∅ :=
  Finset.not_nonempty_iff_eq_empty.1 fun some => h ((t.mem_order k).2 some)

theorem got_subset (t : Table total) (k : κ) : t.got k ⊆ Finset.range (total k) := by
  rcases (t.got k).eq_empty_or_nonempty with none | some
  · simp [none]
  · exact (t.missing k some).subset

/-- No message of one part is ever open. -/
theorem got_single (t : Table total) {k : κ} (h : total k = 1) : t.got k = ∅ := by
  refine Finset.not_nonempty_iff_eq_empty.1 fun some => ?_
  have small := Finset.card_lt_card (t.missing k some)
  rw [Finset.card_range, h] at small
  exact absurd (Finset.card_pos.2 some) (by omega)

theorem insert_subset (t : Table total) (p : Part total) :
    insert p.index (t.got p.key) ⊆ Finset.range (total p.key) :=
  Finset.insert_subset (Finset.mem_range.2 p.lt) (t.got_subset p.key)

variable [DecidableEq κ]

/-- The table without a message. -/
def close (k : κ) (t : Table total) : Table total where
  got := Function.update t.got k ∅
  order := t.order.filter (· ≠ k)
  nodup := t.nodup.filter _
  mem_order j := by by_cases h : j = k <;> simp [h, t.mem_order]
  missing j some := by
    by_cases h : j = k
    · simp [h] at some
    · simpa [h] using t.missing j (by simpa [h] using some)

/-- The table with what is now collected of a message, opened as the youngest if it was not open. -/
def collect (k : κ) (parts : Finset ℕ) (some : parts.Nonempty) (short : parts ⊂ Finset.range (total k))
    (t : Table total) : Table total where
  got := Function.update t.got k parts
  order := if k ∈ t.order then t.order else t.order ++ [k]
  nodup := by
    split
    · exact t.nodup
    case isFalse fresh => exact List.nodup_append.2 ⟨t.nodup, by simp, by rintro a ha b hb rfl; simp_all⟩
  mem_order j := by
    by_cases h : j = k
    · subst h
      split <;> simp_all
    · split <;> simp [h, t.mem_order]
  missing j some := by
    by_cases h : j = k
    · subst h
      simpa using short
    · simpa [h] using t.missing j (by simpa [h] using some)

/-- Drops the oldest messages until there is room for one more. -/
def evict (cap : ℕ) (t : Table total) : Table total where
  got k := if k ∈ t.order.drop (t.order.length + 1 - cap) then t.got k else ∅
  order := t.order.drop (t.order.length + 1 - cap)
  nodup := t.nodup.sublist (List.drop_sublist _ _)
  mem_order k := by
    split
    case isTrue kept => exact ⟨fun _ => (t.mem_order k).1 (List.mem_of_mem_drop kept), fun _ => kept⟩
    case isFalse gone => simp [gone]
  missing k some := by
    by_cases kept : k ∈ t.order.drop (t.order.length + 1 - cap)
    · rw [if_pos kept] at some ⊢
      exact t.missing k some
    · rw [if_neg kept] at some
      exact absurd some Finset.not_nonempty_empty

/-- A message that is not open yet takes the place of the oldest. -/
def makeRoom (cap : ℕ) (k : κ) (t : Table total) : Table total :=
  if k ∈ t.order then t else t.evict cap

/-- A part not collected before is collected; the last one missing closes its message. -/
def add (p : Part total) (t : Table total) : Table total × Bool :=
  if full : insert p.index (t.got p.key) = Finset.range (total p.key) then (t.close p.key, true)
  else
    (t.collect p.key (insert p.index (t.got p.key)) (Finset.insert_nonempty _ _)
      ((t.insert_subset p).ssubset_of_ne full), false)

/-- One part arrives. The answer tells whether it completes its message. -/
def offer (cap : ℕ) (p : Part total) (t : Table total) : Table total × Bool :=
  if total p.key = 1 then (t, true)
  else if p.index ∈ t.got p.key then (t, false)
  else (t.makeRoom cap p.key).add p

/-- The messages an offer evicts. -/
def victims (cap : ℕ) (p : Part total) (t : Table total) : List κ :=
  if total p.key = 1 ∨ p.key ∈ t.order then [] else t.order.take (t.order.length + 1 - cap)

theorem got_evict (cap : ℕ) (t : Table total) (k : κ) :
    (t.evict cap).got k = if k ∈ t.order.take (t.order.length + 1 - cap) then ∅ else t.got k := by
  show (if k ∈ t.order.drop _ then t.got k else ∅) = _
  have split := t.nodup
  rw [← List.take_append_drop (t.order.length + 1 - cap) t.order, List.nodup_append] at split
  by_cases gone : k ∈ t.order.take (t.order.length + 1 - cap)
  · rw [if_pos gone, if_neg fun kept => split.2.2 k gone k kept rfl]
  · rw [if_neg gone]
    split_ifs with kept
    · rfl
    · refine (got_eq_empty fun opened => ?_).symm
      rw [← List.take_append_drop (t.order.length + 1 - cap) t.order, List.mem_append] at opened
      exact opened.elim gone kept

theorem got_makeRoom (cap : ℕ) (j : κ) (t : Table total) (k : κ) :
    (t.makeRoom cap j).got k =
      if k ∈ (if j ∈ t.order then [] else t.order.take (t.order.length + 1 - cap)) then ∅ else t.got k := by
  unfold makeRoom
  split_ifs with opened gone gone
  · exact absurd gone List.not_mem_nil
  · rfl
  · rw [got_evict, if_pos gone]
  · rw [got_evict, if_neg gone]

/-- The message room was made for is never a victim itself. -/
@[simp] theorem got_makeRoom_self (cap : ℕ) (k : κ) (t : Table total) : (t.makeRoom cap k).got k = t.got k := by
  by_cases opened : k ∈ t.order
  · simp [got_makeRoom, opened]
  · rw [got_makeRoom, got_eq_empty opened, ite_self]

@[simp] theorem add_snd (p : Part total) (t : Table total) :
    (t.add p).2 = decide (insert p.index (t.got p.key) = Finset.range (total p.key)) := by
  unfold add
  split <;> simp [*]

@[simp] theorem add_got_self (p : Part total) (t : Table total) :
    (t.add p).1.got p.key =
      if insert p.index (t.got p.key) = Finset.range (total p.key) then ∅ else insert p.index (t.got p.key) := by
  unfold add
  split <;> simp [*, close, collect]

theorem add_got_other (p : Part total) (t : Table total) {k : κ} (h : k ≠ p.key) :
    (t.add p).1.got k = t.got k := by
  unfold add
  split <;> simp [close, collect, h]

/-- A part completes its message exactly when it is the last one missing. -/
theorem offer_snd (cap : ℕ) (p : Part total) (t : Table total) :
    (t.offer cap p).2 = decide (insert p.index (t.got p.key) = Finset.range (total p.key)) := by
  unfold offer
  split_ifs with single old
  · have zero : p.index = 0 := by have := p.lt; omega
    simp [t.got_single single, single, zero]
  · have short := (t.missing p.key ⟨_, old⟩).ne
    simp [Finset.insert_eq_of_mem old, short]
  · simp

/-- What is collected of a part's message afterwards: nothing once it is complete. -/
theorem offer_got_self (cap : ℕ) (p : Part total) (t : Table total) :
    (t.offer cap p).1.got p.key =
      if insert p.index (t.got p.key) = Finset.range (total p.key) then ∅ else insert p.index (t.got p.key) := by
  unfold offer
  by_cases single : total p.key = 1
  · have zero : p.index = 0 := by have := p.lt; omega
    simp [t.got_single single, single, zero]
  · by_cases old : p.index ∈ t.got p.key
    · have short := (t.missing p.key ⟨_, old⟩).ne
      simp [single, old, Finset.insert_eq_of_mem old, short]
    · simp [single, old]

/-- The other messages keep what is collected of them, but for the victims. -/
theorem offer_got_other (cap : ℕ) (p : Part total) (t : Table total) {k : κ} (h : k ≠ p.key) :
    (t.offer cap p).1.got k = if k ∈ t.victims cap p then ∅ else t.got k := by
  unfold offer victims
  by_cases single : total p.key = 1
  · simp [single]
  · by_cases old : p.index ∈ t.got p.key
    · have opened : p.key ∈ t.order := (t.mem_order p.key).2 ⟨_, old⟩
      simp [single, old, opened]
    · rw [if_neg single, if_neg old, add_got_other p _ h, got_makeRoom]
      simp only [single, false_or]

/-- With room left nobody is evicted. -/
theorem victims_eq_nil {cap : ℕ} {p : Part total} {t : Table total} (room : t.order.length < cap) :
    t.victims cap p = [] := by
  unfold victims
  split
  · rfl
  · rw [Nat.sub_eq_zero_of_le room, List.take_zero]

/-- Nobody is evicted for a message that is open already. -/
theorem victims_of_open {cap : ℕ} {p : Part total} {t : Table total} (opened : (t.got p.key).Nonempty) :
    t.victims cap p = [] :=
  if_pos (.inr ((t.mem_order p.key).2 opened))

end Table

/-! ## Histories -/

variable [DecidableEq κ]

/-- The indexes of a message among the parts that arrived. -/
def seen (xs : List (Part total)) (k : κ) : Finset ℕ :=
  ((xs.filter (·.key = k)).map Part.index).toFinset

/-- The messages started but incomplete. -/
def pending (xs : List (Part total)) : Finset κ :=
  (xs.map Part.key).toFinset.filter fun k => seen xs k ≠ Finset.range (total k)

@[simp] theorem seen_nil (k : κ) : seen ([] : List (Part total)) k = ∅ := rfl

theorem seen_snoc (xs : List (Part total)) (p : Part total) (k : κ) :
    seen (xs ++ [p]) k = if p.key = k then insert p.index (seen xs k) else seen xs k := by
  ext i
  by_cases h : p.key = k <;> simp [seen, h]

theorem seen_snoc_self (xs : List (Part total)) (p : Part total) :
    seen (xs ++ [p]) p.key = insert p.index (seen xs p.key) := by
  rw [seen_snoc, if_pos rfl]

theorem mem_seen {xs : List (Part total)} {k : κ} {i : ℕ} :
    i ∈ seen xs k ↔ ∃ p ∈ xs, p.key = k ∧ p.index = i := by
  simp [seen, and_assoc]

theorem seen_subset (xs : List (Part total)) (k : κ) : seen xs k ⊆ Finset.range (total k) := by
  intro i hi
  obtain ⟨p, -, rfl, rfl⟩ := mem_seen.1 hi
  exact Finset.mem_range.2 p.lt

theorem seen_mono {xs ys : List (Part total)} (h : ys ⊆ xs) (k : κ) : seen ys k ⊆ seen xs k := by
  intro i hi
  obtain ⟨p, hp, rest⟩ := mem_seen.1 hi
  exact mem_seen.2 ⟨p, h hp, rest⟩

/-- A message complete once stays complete. -/
theorem seen_full_mono {xs ys : List (Part total)} {k : κ} (h : ys ⊆ xs)
    (full : seen ys k = Finset.range (total k)) : seen xs k = Finset.range (total k) :=
  (seen_subset xs k).antisymm (full ▸ seen_mono h k)

theorem mem_pending {xs : List (Part total)} {k : κ} :
    k ∈ pending xs ↔ (seen xs k).Nonempty ∧ seen xs k ≠ Finset.range (total k) := by
  have started : k ∈ (xs.map Part.key).toFinset ↔ (seen xs k).Nonempty := by
    simp [seen, List.toFinset_nonempty_iff]
  rw [pending, Finset.mem_filter, started]

/-- The part at place `n` is the last one of message `k` that was missing. -/
def LastMissing (xs : List (Part total)) (n : ℕ) (k : κ) : Prop :=
  xs[n]?.map Part.key = some k ∧ seen (xs.take n) k ≠ Finset.range (total k) ∧
    seen (xs.take (n + 1)) k = Finset.range (total k)

instance (xs : List (Part total)) (n : ℕ) (k : κ) : Decidable (LastMissing xs n k) :=
  inferInstanceAs (Decidable (_ ∧ _ ∧ _))

/-- Exactly one part is the last one missing of a message delivered whole. -/
theorem existsUnique_lastMissing {xs : List (Part total)} {k : κ} (pos : 0 < total k)
    (all : seen xs k = Finset.range (total k)) : ∃! n, LastMissing xs n k := by
  classical
  have ends : ∃ n, seen (xs.take n) k = Finset.range (total k) := ⟨xs.length, by rwa [List.take_length]⟩
  have starts : seen (xs.take 0) k ≠ Finset.range (total k) := fun none => by
    have some : 0 ∈ Finset.range (total k) := Finset.mem_range.2 pos
    rw [← none] at some
    simp at some
  obtain ⟨n, hn⟩ : ∃ n, Nat.find ends = n + 1 :=
    Nat.exists_eq_succ_of_ne_zero fun zero => starts (zero ▸ Nat.find_spec ends)
  have full : seen (xs.take (n + 1)) k = Finset.range (total k) := hn ▸ Nat.find_spec ends
  have short : seen (xs.take n) k ≠ Finset.range (total k) := Nat.find_min ends (by omega)
  refine ⟨n, ⟨?_, short, full⟩, fun m hm => ?_⟩
  · cases at' : xs[n]? with
    | none => exact absurd (by rwa [List.take_add_one, at', Option.toList_none, List.append_nil] at full) short
    | some p =>
      refine congrArg some (by_contra fun other => short ?_)
      rwa [List.take_add_one, at', Option.toList_some, seen_snoc, if_neg other] at full
  · obtain ⟨-, short', full'⟩ := hm
    have le : ∀ {i j : ℕ}, seen (xs.take i) k = Finset.range (total k) →
        seen (xs.take j) k ≠ Finset.range (total k) → j < i := fun fi sj =>
      Nat.lt_of_not_le fun h => sj (seen_full_mono (List.take_subset_take_left xs h) fi)
    have := le full' short
    have := le full short'
    omega

/-! ## Logs -/

/-- A table, the parts that arrived and the messages completed. -/
structure Log (total : κ → ℕ) where
  table : Table total := .empty
  past : List (Part total) := []
  done : List κ := []

namespace Log

def step (cap : ℕ) (l : Log total) (p : Part total) : Log total where
  table := (l.table.offer cap p).1
  past := l.past ++ [p]
  done := if (l.table.offer cap p).2 then l.done ++ [p.key] else l.done

/-- The part completes no message again, and whatever is evicted for it is done already. -/
structure Careful (cap : ℕ) (l : Log total) (p : Part total) : Prop where
  once : p.key ∈ l.done → (l.table.offer cap p).2 = false
  victims : ∀ k ∈ l.table.victims cap p, k ∈ l.done

/-- No message is done twice, and of those not done nothing that arrived is lost. -/
structure Faithful (l : Log total) : Prop where
  nodup : l.done.Nodup
  kept : ∀ k, k ∉ l.done → l.table.got k = seen l.past k
  complete : ∀ k ∈ l.done, seen l.past k = Finset.range (total k)

theorem faithful_start : ({} : Log total).Faithful where
  nodup := List.nodup_nil
  kept _ _ := rfl
  complete _ h := absurd h List.not_mem_nil

/-- A message is done by the part that is the last one missing. -/
theorem Faithful.offer_snd {cap : ℕ} {l : Log total} {p : Part total} (h : l.Faithful) (fresh : p.key ∉ l.done) :
    (l.table.offer cap p).2 = decide (seen (l.past ++ [p]) p.key = Finset.range (total p.key)) := by
  rw [Table.offer_snd, seen_snoc_self, h.kept _ fresh]

theorem Faithful.step {cap : ℕ} {l : Log total} {p : Part total} (h : l.Faithful) (careful : l.Careful cap p) :
    (l.step cap p).Faithful := by
  have later : l.past ⊆ l.past ++ [p] := List.subset_append_left _ _
  cases done : (l.table.offer cap p).2 with
  | true =>
    have fresh : p.key ∉ l.done := fun old => by simp [careful.once old] at done
    have full := (h.offer_snd fresh).symm.trans done
    refine ⟨?_, fun k hk => ?_, fun k hk => ?_⟩
    · simpa [Log.step, done, List.nodup_append] using ⟨h.nodup, fun k hk => ne_of_mem_of_not_mem hk fresh⟩
    · have apart : k ∉ l.done ∧ k ≠ p.key := by simpa [Log.step, done] using hk
      have spared : k ∉ l.table.victims cap p := fun victim => apart.1 (careful.victims k victim)
      simp only [Log.step, Table.offer_got_other cap p l.table apart.2, if_neg spared, seen_snoc,
        if_neg apart.2.symm, h.kept k apart.1]
    · have either : k ∈ l.done ∨ k = p.key := by simpa [Log.step, done] using hk
      rcases either with old | rfl
      · exact seen_full_mono later (h.complete k old)
      · exact of_decide_eq_true full
  | false =>
    refine ⟨by simpa [Log.step, done] using h.nodup, fun k hk => ?_, fun k hk => ?_⟩
    · have apart : k ∉ l.done := by simpa [Log.step, done] using hk
      by_cases own : k = p.key
      · subst own
        have short : insert p.index (seen l.past p.key) ≠ Finset.range (total p.key) := by
          simpa [h.offer_snd apart, seen_snoc_self] using done
        simp only [Log.step, Table.offer_got_self, seen_snoc_self, h.kept _ apart, if_neg short]
      · have spared : k ∉ l.table.victims cap p := fun victim => apart (careful.victims k victim)
        simp only [Log.step, Table.offer_got_other cap p l.table own, if_neg spared, seen_snoc,
          if_neg (Ne.symm own), h.kept k apart]
    · exact seen_full_mono later (h.complete k (by simpa [Log.step, done] using hk))

/-- **Exactly once.** A message all of whose parts arrived is done. -/
theorem Faithful.mem_done {l : Log total} (h : l.Faithful) {k : κ} (pos : 0 < total k)
    (all : seen l.past k = Finset.range (total k)) : k ∈ l.done := by
  by_contra fresh
  have whole : l.table.got k = Finset.range (total k) := by rw [h.kept k fresh, all]
  have some : (l.table.got k).Nonempty := by rw [whole]; exact ⟨0, Finset.mem_range.2 pos⟩
  exact (l.table.missing k some).ne whole

end Log

/-! ## Orderly deliveries -/

/-- No part comes after its message is complete, and at no moment are more than `cap` messages
started but incomplete. -/
structure Orderly (cap : ℕ) (xs : List (Part total)) : Prop where
  fresh : ∀ ys p, ys ++ [p] <+: xs → seen ys p.key ≠ Finset.range (total p.key)
  room : ∀ ys, ys <+: xs → (pending ys).card ≤ cap

theorem Orderly.of_prefix {cap : ℕ} {xs ys : List (Part total)} (h : Orderly cap xs) (le : ys <+: xs) :
    Orderly cap ys :=
  ⟨fun zs p hz => h.fresh zs p (hz.trans le), fun zs hz => h.room zs (hz.trans le)⟩

theorem Orderly.nil (cap : ℕ) : Orderly cap ([] : List (Part total)) := by
  refine ⟨fun ys p h => ?_, fun ys h => ?_⟩
  · simp at h
  · rw [List.prefix_nil.1 h]
    exact Nat.zero_le _

theorem Orderly.snoc {cap : ℕ} {xs : List (Part total)} {p : Part total} (h : Orderly cap xs)
    (fresh : seen xs p.key ≠ Finset.range (total p.key)) (room : (pending (xs ++ [p])).card ≤ cap) :
    Orderly cap (xs ++ [p]) := by
  refine ⟨fun ys q hq => ?_, fun ys hy => ?_⟩
  · rcases List.prefix_concat_iff.1 hq with same | earlier
    · obtain ⟨rfl, rfl⟩ : ys = xs ∧ q = p := by simpa using List.append_inj' same rfl
      exact fresh
    · exact h.fresh ys q earlier
  · rcases List.prefix_concat_iff.1 hy with rfl | earlier
    · exact room
    · exact h.room ys earlier

/-- What is collected after an orderly delivery: all that was seen of the incomplete messages,
and nothing else. -/
structure Orderly.Result (l : Log total) : Prop extends l.Faithful where
  closed : ∀ k ∈ l.done, l.table.got k = ∅

/-- In an orderly delivery nobody is ever evicted. -/
theorem Orderly.victims {cap : ℕ} {l : Log total} {p : Part total} (orderly : Orderly cap (l.past ++ [p]))
    (h : Orderly.Result l) (fresh : p.key ∉ l.done) : l.table.victims cap p = [] := by
  by_cases single : total p.key = 1
  · exact if_pos (.inl single)
  rcases (l.table.got p.key).eq_empty_or_nonempty with none | some
  · refine Table.victims_eq_nil ?_
    have unopened : p.key ∉ l.table.order := by simp [l.table.mem_order, none]
    have short : seen (l.past ++ [p]) p.key ≠ Finset.range (total p.key) := by
      rw [seen_snoc_self, ← h.kept _ fresh, none]
      intro one
      have := congrArg Finset.card one
      simp at this
      omega
    have sub : insert p.key l.table.order.toFinset ⊆ pending (l.past ++ [p]) := by
      intro k hk
      rw [mem_pending, seen_snoc]
      rcases Finset.mem_insert.1 hk with rfl | opened
      · rw [if_pos rfl, ← seen_snoc_self]
        exact ⟨⟨p.index, by simp [seen_snoc_self]⟩, short⟩
      · have hk := List.mem_toFinset.1 opened
        have other : p.key ≠ k := fun e => unopened (e ▸ hk)
        have some := (l.table.mem_order k).1 hk
        have undone : k ∉ l.done := fun d => by simp [h.closed k d] at some
        rw [if_neg other, ← h.kept k undone]
        exact ⟨some, (l.table.missing k some).ne⟩
    have count := (Finset.card_le_card sub).trans (orderly.room _ (List.prefix_refl _))
    rw [Finset.card_insert_of_notMem (by simpa using unopened), List.toFinset_card_of_nodup l.table.nodup] at count
    exact count
  · exact Table.victims_of_open some

theorem Orderly.step {cap : ℕ} {l : Log total} {p : Part total} (orderly : Orderly cap (l.past ++ [p]))
    (h : Orderly.Result l) : p.key ∉ l.done ∧ Orderly.Result (l.step cap p) := by
  have fresh : p.key ∉ l.done := fun old =>
    orderly.fresh l.past p (List.prefix_refl _) (h.complete _ old)
  have none := Orderly.victims orderly h fresh
  have careful : l.Careful cap p := ⟨fun old => absurd old fresh, by simp [none]⟩
  have faithful := h.toFaithful.step careful
  refine ⟨fresh, faithful, fun k hk => ?_⟩
  by_cases own : k = p.key
  · subst own
    have full := faithful.complete _ hk
    rw [show (l.step cap p).past = l.past ++ [p] from rfl, seen_snoc_self, ← h.kept _ fresh] at full
    show (l.table.offer cap p).1.got p.key = ∅
    rw [Table.offer_got_self, if_pos full]
  · have old : k ∈ l.done := by
      unfold Log.step at hk
      dsimp only at hk
      split at hk
      · simpa [own] using hk
      · exact hk
    show (l.table.offer cap p).1.got k = ∅
    rw [Table.offer_got_other cap p l.table own, h.closed k old, ite_self]

theorem Log.foldl_past (cap : ℕ) (xs : List (Part total)) :
    (xs.foldl (Log.step cap) {}).past = xs := by
  induction xs using List.reverseRecOn with
  | nil => rfl
  | append_singleton xs p ih => rw [List.foldl_append, List.foldl_cons, List.foldl_nil, Log.step, ih]

/-- **The orderly run.** -/
theorem Orderly.run {cap : ℕ} {xs : List (Part total)} (orderly : Orderly cap xs) :
    Orderly.Result (xs.foldl (Log.step cap) {}) := by
  induction xs using List.reverseRecOn with
  | nil => exact ⟨Log.faithful_start, fun _ h => absurd h List.not_mem_nil⟩
  | append_singleton xs p ih =>
    have before := ih (orderly.of_prefix (List.prefix_append _ _))
    rw [List.foldl_append]
    exact (Orderly.step (by rwa [Log.foldl_past]) before).2

end Reassembly
