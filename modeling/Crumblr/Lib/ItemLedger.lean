import Mathlib.Algebra.Group.Defs
import Mathlib.Data.List.Basic
import Mathlib.Data.List.Nodup
import Mathlib.Tactic.Common

/-!
# A ledger of numbered items

An item is opened under the next number and settled under it, and what it is settled for is added
to a balance. Over any history each number is opened once and settled at most once, and the balance
is what it was with every settlement added in turn.
-/

structure ItemLedger (α : Type) where
  balance : α
  next : Int
  /-- What is open, by number. -/
  standing : List Int
  /-- What was settled, and for how much, in turn. -/
  settled : List (Int × α)

namespace ItemLedger

variable {α : Type}

def opening (balance : α) (first : Int) : ItemLedger α := ⟨balance, first, [], []⟩

variable [Add α]

def openItem (l : ItemLedger α) : ItemLedger α :=
  { l with next := l.next + 1, standing := l.standing ++ [l.next] }

def settle (l : ItemLedger α) (item : Int) (amount : α) : ItemLedger α :=
  { l with
    balance := l.balance + amount
    standing := l.standing.filter (· ≠ item)
    settled := l.settled ++ [(item, amount)] }

/-- Several settlements, one after another. -/
def settleAll (l : ItemLedger α) (items : List (Int × α)) : ItemLedger α :=
  items.foldl (fun l item => l.settle item.1 item.2) l

theorem settleAll_append (l : ItemLedger α) (items items' : List (Int × α)) :
    l.settleAll (items ++ items') = (l.settleAll items).settleAll items' :=
  List.foldl_append

theorem standing_settleAll (l : ItemLedger α) (items : List (Int × α)) :
    (l.settleAll items).standing.Sublist l.standing := by
  induction items generalizing l with
  | nil => exact List.Sublist.refl _
  | cons item items ih => exact (ih (l.settle item.1 item.2)).trans List.filter_sublist

/-- The ledgers that come of one, with the numbers opened on the way. -/
inductive History (l₀ : ItemLedger α) : List Int → ItemLedger α → Prop
  | start : History l₀ [] l₀
  | openItem {opened l} (h : History l₀ opened l) : History l₀ (opened ++ [l.next]) l.openItem
  | settle {opened l item} (amount : α) (h : History l₀ opened l) (hitem : item ∈ l.standing) :
      History l₀ opened (l.settle item amount)

/-- What is standing can be settled, each item once. -/
theorem History.settleAll {l₀ : ItemLedger α} {opened : List Int} {items : List (Int × α)} {l : ItemLedger α}
    (h : History l₀ opened l) (hnodup : (items.map Prod.fst).Nodup)
    (hstanding : ∀ item ∈ items, item.1 ∈ l.standing) : History l₀ opened (l.settleAll items) := by
  induction items generalizing l with
  | nil => exact h
  | cons item items ih =>
      obtain ⟨hnew, hnodup⟩ := List.nodup_cons.mp hnodup
      refine ih (h.settle item.2 (hstanding item List.mem_cons_self)) hnodup fun other hother => ?_
      refine List.mem_filter.mpr ⟨hstanding other (List.mem_cons_of_mem _ hother), ?_⟩
      have hne : other.1 ≠ item.1 := by
        intro heq
        exact hnew (heq ▸ List.mem_map_of_mem hother)
      exact decide_eq_true hne

/-- What holds of a ledger whose history is known. -/
structure Kept (balance : α) (opened : List Int) (l : ItemLedger α) : Prop where
  balance : l.balance = l.settled.foldl (fun balance item => balance + item.2) balance
  nodup : opened.Nodup
  below : ∀ item ∈ opened, item < l.next
  /-- Each item is standing or settled, and not twice. -/
  accounted : (l.standing ++ l.settled.map Prod.fst).Perm opened

theorem Kept.standing_nodup {balance : α} {opened : List Int} {l : ItemLedger α}
    (h : Kept balance opened l) : l.standing.Nodup :=
  (h.accounted.nodup_iff.mpr h.nodup).of_append_left

theorem Kept.settled_nodup {balance : α} {opened : List Int} {l : ItemLedger α}
    (h : Kept balance opened l) : (l.settled.map Prod.fst).Nodup :=
  (h.accounted.nodup_iff.mpr h.nodup).of_append_right

/-- What is taken out of a list without repetition can be put at its end. -/
theorem perm_filter_append {items : List Int} (hnodup : items.Nodup) {item : Int}
    (hitem : item ∈ items) : (items.filter (· ≠ item) ++ [item]).Perm items := by
  have herase : items.filter (· ≠ item) = items.erase item := by
    rw [hnodup.erase_eq_filter]
    exact List.filter_congr fun x _ => by by_cases hx : x = item <;> simp [hx]
  rw [herase]
  exact (List.perm_append_singleton _ _).trans (List.perm_cons_erase hitem).symm

theorem Kept.openItem {balance : α} {opened : List Int} {l : ItemLedger α}
    (h : Kept balance opened l) : Kept balance (opened ++ [l.next]) l.openItem where
  balance := h.balance
  nodup := by
    refine List.nodup_append.mpr ⟨h.nodup, List.nodup_singleton _, fun item hitem next hnext => ?_⟩
    rw [List.mem_singleton.mp hnext]
    exact Int.ne_of_lt (h.below item hitem)
  below := by
    intro item hitem
    change item < l.next + 1
    rcases List.mem_append.mp hitem with hitem | hitem
    · have := h.below item hitem
      omega
    · rw [List.mem_singleton.mp hitem]
      omega
  accounted := by
    change ((l.standing ++ [l.next]) ++ l.settled.map Prod.fst).Perm _
    rw [List.append_assoc]
    refine (List.Perm.append_left _ List.perm_append_comm).trans ?_
    rw [← List.append_assoc]
    exact h.accounted.append_right _

theorem Kept.settle {balance : α} {opened : List Int} {l : ItemLedger α} {item : Int}
    (h : Kept balance opened l) (amount : α) (hitem : item ∈ l.standing) :
    Kept balance opened (l.settle item amount) where
  balance := by
    change l.balance + amount = (l.settled ++ [(item, amount)]).foldl _ _
    rw [List.foldl_append, ← h.balance]
    rfl
  nodup := h.nodup
  below := h.below
  accounted := by
    change (l.standing.filter (· ≠ item) ++ (l.settled ++ [(item, amount)]).map Prod.fst).Perm _
    rw [List.map_append, List.map_singleton]
    refine (List.Perm.append_left _ List.perm_append_comm).trans ?_
    rw [← List.append_assoc]
    exact ((perm_filter_append h.standing_nodup hitem).append_right _).trans h.accounted

/-- **Every history keeps its accounts.** -/
theorem kept {balance : α} {first : Int} {opened : List Int} {l : ItemLedger α}
    (h : History (opening balance first) opened l) : Kept balance opened l := by
  induction h with
  | start => exact ⟨rfl, List.nodup_nil, fun _ h => absurd h List.not_mem_nil, .refl _⟩
  | openItem _ ih => exact ih.openItem
  | settle amount _ hitem ih => exact ih.settle amount hitem

end ItemLedger
