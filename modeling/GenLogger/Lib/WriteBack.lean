import Mathlib.Data.Set.Function
import Mathlib.Logic.Function.Basic

/-!
# A block held in front of a store

A store of blocks, and one of them in a buffer that may be newer (`Held`). What a reader is owed is
the `view`: the block in the buffer, and the store everywhere else. The store may have blocks that
nobody reads through the buffer, copies of others for one (`X`); what is said here is about the rest.

Results:
* `view_stored`: a block written back, also by a write that failed, does not change the view.
* `view_fetched`: nor does another block that is fetched.
* `view_edited`: an edit of the buffer changes the view in one block.
* `view_eqOn_store`: nothing is missing in the store once the buffer is written back.
-/

namespace GenLogger.Lib

/-- The store, and the buffer in front of it. -/
structure Held (κ β : Type) where
  store : κ → β
  /-- The block that is in the buffer. -/
  key : κ
  buffer : β
  /-- The buffer is newer than the store. -/
  dirty : Bool

namespace Held

variable {κ β : Type} [DecidableEq κ] {h h' : Held κ β} {X : Set κ}

/-- The blocks as a reader is owed them. -/
def view (h : Held κ β) : κ → β := Function.update h.store h.key h.buffer

/-- A buffer that is not dirty is what the store has. -/
def Coherent (X : Set κ) (h : Held κ β) : Prop :=
  h.dirty = false → h.key ∉ X → h.store h.key = h.buffer

@[simp] theorem view_key (h : Held κ β) : h.view h.key = h.buffer := Function.update_self ..

theorem view_of_ne {k : κ} (hk : k ≠ h.key) : h.view k = h.store k := Function.update_of_ne hk ..

/-- Nothing is missing in the store once the buffer is written back. -/
theorem view_eqOn_store (hcoh : h.Coherent X) (hclean : h.dirty = false) :
    Set.EqOn h.view h.store Xᶜ := by
  intro k hk
  by_cases hkey : k = h.key
  · subst hkey
    rw [view_key, hcoh hclean hk]
  · exact view_of_ne hkey

/-- The view does not depend on what the store has of the block in the buffer. -/
theorem view_stored (hkey : h'.key = h.key) (hbuffer : h'.buffer = h.buffer)
    (hstore : ∀ k ∉ X, k ≠ h.key → h'.store k = h.store k) : Set.EqOn h'.view h.view Xᶜ := by
  intro k hk
  by_cases hne : k = h.key
  · subst hne
    rw [view_key, ← hkey, view_key, hbuffer]
  · rw [view_of_ne hne, view_of_ne (hkey ▸ hne), hstore k hk hne]

/-- Another block takes the place of one that is not dirty. -/
theorem view_fetched (hcoh : h.Coherent X) (hclean : h.dirty = false)
    (hstore : h'.store = h.store) (hbuffer : h'.key ∉ X → h'.buffer = h.store h'.key) :
    Set.EqOn h'.view h.view Xᶜ := by
  intro k hk
  rw [view_eqOn_store hcoh hclean hk]
  by_cases hkey : k = h'.key
  · subst hkey
    rw [view_key, hbuffer hk]
  · rw [view_of_ne hkey, hstore]

theorem view_edited (hstore : h'.store = h.store) (hkey : h'.key = h.key) :
    h'.view = Function.update h.view h.key h'.buffer := by
  unfold view
  rw [hstore, hkey, Function.update_idem]

end Held

end GenLogger.Lib
