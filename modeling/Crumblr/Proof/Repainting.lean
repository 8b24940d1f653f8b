import Crumblr.TradingAgent.Structure
import Mathlib.Data.List.Basic

/-!
# Structure is never repainted

What a series of bars says about its own past does not change when bars are added to it. The swings
of the longer series that were known inside the shorter one are those of the shorter one, so a bar is
read against the same swings in both.
-/

namespace Crumblr

variable {bars later : List Bar} {strength : Nat} {isHigh : Bool}

theorem index_swingAt {i : Nat} {swing : SwingPoint}
    (h : swingAt bars strength isHigh i = some swing) : swing.index = i := by
  obtain ⟨centre, -, h⟩ := Option.bind_eq_some_iff.mp h
  dsimp only at h
  split at h
  all_goals
    split at h
    · cases h
      rfl
    · cases h

/-- A turning point is seen in the bars up to `strength` after it. -/
theorem swingAt_append {i : Nat} (hfirst : strength ≤ i) (hlast : i + strength < bars.length) :
    swingAt (bars ++ later) strength isHigh i = swingAt bars strength isHigh i := by
  have hcentre : (bars ++ later)[i]? = bars[i]? := List.getElem?_append_left (by omega)
  have hwindow : ((bars ++ later).drop (i - strength)).take (2 * strength + 1)
      = (bars.drop (i - strength)).take (2 * strength + 1) := by
    rw [List.drop_append_of_le_length (by omega), List.take_append_of_le_length]
    rw [List.length_drop]
    omega
  unfold swingAt
  rw [hcentre, hwindow]

/-- The turning points of one kind, oldest first. -/
def swingsOf (bars : List Bar) (strength : Nat) (isHigh : Bool) : List SwingPoint :=
  (List.range' strength (bars.length - 2 * strength)).filterMap (swingAt bars strength isHigh)

theorem findSwings_eq (bars : List Bar) (strength : Int) :
    findSwings bars strength
      = if strength < 1 then
          .error ⟨.value, s!"swing strength must be at least 1, got {strength}"⟩
        else .ok (swingsOf bars strength.toNat true, swingsOf bars strength.toNat false) := by
  unfold findSwings swingsOf
  split
  · rfl
  · dsimp only
    split
    · rename_i hshort
      rw [Nat.sub_eq_zero_of_le (by omega)]
      rfl
    · rfl

/-- **The swings of a series** are those of any longer one that were known inside it. -/
theorem swingsOf_append (bars later : List Bar) (strength : Nat) (isHigh : Bool) :
    swingsOf bars strength isHigh
      = (swingsOf (bars ++ later) strength isHigh).filter
          fun swing => swing.index + strength < bars.length := by
  have hlength : (bars ++ later).length - 2 * strength
      = (bars.length - 2 * strength)
        + ((bars ++ later).length - 2 * strength - (bars.length - 2 * strength)) := by
    rw [List.length_append]
    omega
  unfold swingsOf
  rw [hlength, ← List.range'_append_1, List.filterMap_append, List.filter_append]
  have hknown : (List.range' strength (bars.length - 2 * strength)).filterMap
        (swingAt (bars ++ later) strength isHigh)
      = (List.range' strength (bars.length - 2 * strength)).filterMap
        (swingAt bars strength isHigh) := by
    refine List.filterMap_congr fun i hi => ?_
    obtain ⟨hfirst, hlast⟩ := List.mem_range'_1.mp hi
    exact swingAt_append hfirst (by omega)
  have hkept : ((List.range' strength (bars.length - 2 * strength)).filterMap
        (swingAt bars strength isHigh)).filter
          (fun swing => swing.index + strength < bars.length)
      = (List.range' strength (bars.length - 2 * strength)).filterMap
        (swingAt bars strength isHigh) := by
    refine List.filter_eq_self.mpr fun swing hswing => ?_
    obtain ⟨i, hi, hat⟩ := List.mem_filterMap.mp hswing
    obtain ⟨hfirst, hlast⟩ := List.mem_range'_1.mp hi
    rw [index_swingAt hat]
    exact decide_eq_true (by omega)
  have hunknown : ((List.range' (strength + (bars.length - 2 * strength))
        ((bars ++ later).length - 2 * strength - (bars.length - 2 * strength))).filterMap
          (swingAt (bars ++ later) strength isHigh)).filter
            (fun swing => swing.index + strength < bars.length) = [] := by
    refine List.filter_eq_nil_iff.mpr fun swing hswing => ?_
    obtain ⟨i, hi, hat⟩ := List.mem_filterMap.mp hswing
    obtain ⟨hfirst, hlast⟩ := List.mem_range'_1.mp hi
    rw [index_swingAt hat, decide_eq_true_eq]
    omega
  rw [hknown, hkept, hunknown, List.append_nil]

/-- So what was known before a bar of it is. -/
theorem confirmedBefore_append {index : Nat} (hindex : index < bars.length) :
    confirmedBefore (swingsOf (bars ++ later) strength isHigh) strength index
      = confirmedBefore (swingsOf bars strength isHigh) strength index := by
  rw [swingsOf_append bars later strength isHigh]
  unfold confirmedBefore
  rw [List.filter_filter]
  refine List.filter_congr fun swing _ => ?_
  rw [← Bool.decide_and]
  exact decide_eq_decide.mpr ⟨fun h => ⟨h, by omega⟩, And.left⟩

theorem closesBeyond_append {index : Nat} (hindex : index < bars.length) (upward : Bool) :
    closesBeyond (bars ++ later) (swingsOf (bars ++ later) strength isHigh) strength upward index
      = closesBeyond bars (swingsOf bars strength isHigh) strength upward index := by
  unfold closesBeyond
  rw [confirmedBefore_append hindex, List.getElem?_append_left hindex]

theorem stateBefore_append {index : Nat} (hindex : index < bars.length) :
    stateBefore (swingsOf (bars ++ later) strength true) (swingsOf (bars ++ later) strength false)
        (some index) strength
      = stateBefore (swingsOf bars strength true) (swingsOf bars strength false) (some index)
        strength := by
  unfold stateBefore
  dsimp only
  rw [confirmedBefore_append hindex, confirmedBefore_append hindex]

/-- How a series of bars is read at one of its bars: whether it closed beyond the swing that was
current then, upward and downward, and how structure read just before it. -/
structure ReadAt where
  closesAbove : Bool
  closesBelow : Bool
  prior : StructureState
  deriving DecidableEq

/-- The reading at a bar, with the swings that were found. -/
def readAt (bars : List Bar) (swings : List SwingPoint × List SwingPoint) (strength index : Nat) :
    ReadAt where
  closesAbove := closesBeyond bars swings.1 strength true index
  closesBelow := closesBeyond bars swings.2 strength false index
  prior := stateBefore swings.1 swings.2 (some index) strength

/-- **Structure is never repainted.** The swings of a series are those of every extension of it that
have `strength` bars after them inside the series, and every bar of it is read alike in both: what it
closes beyond, and the structure before it, which makes that a continuation or a shift. -/
theorem structure_never_repainted (bars later : List Bar) (strength : Int) :
    findSwings bars strength
        = (findSwings (bars ++ later) strength).map (fun swings =>
          (swings.1.filter fun swing => swing.index + strength.toNat < bars.length,
            swings.2.filter fun swing => swing.index + strength.toNat < bars.length))
      ∧ ∀ swings swings', findSwings bars strength = .ok swings →
        findSwings (bars ++ later) strength = .ok swings' →
          ∀ index < bars.length, readAt (bars ++ later) swings' strength.toNat index
            = readAt bars swings strength.toNat index := by
  rw [findSwings_eq, findSwings_eq]
  by_cases hstrength : strength < 1
  · rw [if_pos hstrength, if_pos hstrength]
    refine ⟨rfl, ?_⟩
    intro swings swings' h
    cases h
  · rw [if_neg hstrength, if_neg hstrength]
    refine ⟨?_, ?_⟩
    · rw [swingsOf_append bars later strength.toNat true,
        swingsOf_append bars later strength.toNat false]
      rfl
    · intro swings swings' h h' index hindex
      cases h
      cases h'
      unfold readAt
      rw [closesBeyond_append hindex, closesBeyond_append hindex, stateBefore_append hindex]

end Crumblr
