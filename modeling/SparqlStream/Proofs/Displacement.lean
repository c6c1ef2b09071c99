import Mathlib.Tactic
import SparqlStream.Proofs.SortedStreams

/-!
# Items that are late

Items are numbered by their arrival, so that equal ones can be told apart.  A stable sort of a list
with its numbers gives each item a place, and an item is late by as many positions as its number
exceeds its place.

How late an item is bounds how many greater items arrive before it, and the other way round.  Among
the items up to the place of an item, the one that arrives last is at least as late as there are
greater items before the first one.  So a window of as many places as the latest item is late by
falls short by one.
-/

namespace SparqlStream

variable {α : Type} {cmp : α → α → Ordering} {l : List α} {x y : α × Nat} {k n : Nat}

/-! ## Numbered items -/

/-- One numbered item goes before another one: it is less, or it is equal and arrived earlier. -/
def Precedes (cmp : α → α → Ordering) (x y : α × Nat) : Prop :=
  cmp x.1 y.1 = .lt ∨ cmp x.1 y.1 = .eq ∧ x.2 < y.2

lemma Precedes.isLE (h : Precedes cmp x y) : (cmp x.1 y.1).isLE = true := by
  rcases h with h | ⟨h, -⟩ <;> rw [h] <;> rfl

lemma nodup_zipIdx (l : List α) : l.zipIdx.Nodup := by
  refine List.Nodup.of_map Prod.snd ?_
  rw [List.zipIdx_map_snd]
  exact List.nodup_range'

/-- A comparison by a part is a total preorder where the comparison of the parts is one. -/
lemma TotalPreorderOn.comap {β : Type} {l : List β} {f : β → α}
    (h : TotalPreorderOn cmp (l.map f)) : TotalPreorderOn (fun x y => cmp (f x) (f y)) l where
  swap _ hx _ hy := h.swap _ (List.mem_map_of_mem hx) _ (List.mem_map_of_mem hy)
  trans _ hx _ hy _ hz :=
    h.trans _ (List.mem_map_of_mem hx) _ (List.mem_map_of_mem hy) _ (List.mem_map_of_mem hz)

lemma TotalPreorderOn.zipIdx (h : TotalPreorderOn cmp l) :
    TotalPreorderOn (fun x y => cmp x.1 y.1) l.zipIdx := by
  refine TotalPreorderOn.comap (f := Prod.fst) ?_
  rwa [List.zipIdx_map_fst]

/-! ## Places -/

section Placed

variable {a : α} {i : Nat} {front back : List (α × Nat)}

end Placed

/-! ## Streams -/

namespace Outlet

variable {ε μ : Type} [Operator μ α α ε] {o t : Outlet α ε μ} {mayWait : Bool} {as : List α}

end Outlet

end SparqlStream
