import Mathlib.Logic.Function.Basic

/-!
# Hashes computed by a fold

A hash that mixes in one symbol after the other.  When a step can be undone for
a known symbol, a common suffix tells nothing apart and hides nothing; when it
also separates the symbols, so does the whole hash at any one position.
-/

namespace Library

namespace FoldHash

variable {σ α : Type*} {mix : σ → α → σ}

/-- A step that can be undone carries over to the fold over any suffix. -/
theorem foldl_injective (undo : ∀ symbol, Function.Injective (mix · symbol))
    (suffix : List α) : Function.Injective (suffix.foldl mix) := by
  induction suffix with
  | nil => exact fun _ _ same => same
  | cons symbol symbols induction =>
      intro left right same
      exact undo symbol (induction same)

/-- Texts that differ at one position at most hash alike only when they are
equal. -/
theorem foldl_position_iff (undo : ∀ symbol, Function.Injective (mix · symbol))
    (separate : ∀ state, Function.Injective (mix state)) (start : σ)
    (before after : List α) (left right : α) :
    (before ++ left :: after).foldl mix start =
        (before ++ right :: after).foldl mix start ↔ left = right := by
  simp only [List.foldl_append, List.foldl_cons]
  rw [(foldl_injective undo after).eq_iff]
  exact (separate _).eq_iff

end FoldHash

end Library
