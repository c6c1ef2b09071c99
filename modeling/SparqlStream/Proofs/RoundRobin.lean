import Mathlib.Tactic
import SparqlStream.Proofs.Delivery
import SparqlStream.Proofs.UnionQueue

/-!
# A union goes round

A union of sources that are always ready shows their items round by round: all first items in the
order of the sources, then all second items, and so on, `Outlet.delivers_byPosition`.  This order,
`byPosition`, is told by the lists alone, and it leaves no item out and repeats none,
`byPosition_perm`.  The union itself knows no rounds.  It has a queue of sources, from which those
that have ended drop out wherever they stand.

`Serves` is this queue with the items that the sources still have in place of the sources.  Both
halves of the proof go through it: a union of ready sources serves them, `Outlet.Stands.delivers`,
and serving some lists takes one round after another, `serves_byPosition`.
-/

namespace SparqlStream

variable {α ε : Type}

/-! ## Lists in a queue -/

/-- First the first items of all lists, then the second ones, and so on.  There are at least as many
items as there are positions, so all items are there, `byPosition_perm`. -/
def byPosition (ls : List (List α)) : List α :=
  (List.range (ls.map List.length).sum).flatMap fun k => ls.filterMap (·[k]?)

/-- Lists in a queue are served: the first one gives its first item and goes to the end.  An empty
list leaves the queue. -/
inductive Serves : List (List α) → List α → Prop
  | nil : Serves [] []
  | ended {ls : List (List α)} {as : List α} : Serves ls as → Serves ([] :: ls) as
  | item {ls : List (List α)} {as l : List α} (a : α) :
    Serves (ls ++ [l]) as → Serves ((a :: l) :: ls) (a :: as)

/-- One round takes the first items of all lists. -/
lemma Serves.round (ls back : List (List α)) {as : List α}
    (h : Serves (back ++ ls.filterMap List.tail?) as) :
    Serves (ls ++ back) (ls.filterMap (·[0]?) ++ as) := by
  induction ls generalizing back with
  | nil =>
    rw [List.filterMap_nil, List.append_nil] at h
    exact h
  | cons l ls ih =>
    cases l with
    | nil => exact .ended (ih back h)
    | cons a l =>
      have hlast : Serves ((back ++ [l]) ++ ls.filterMap List.tail?) as := by
        rw [List.append_assoc]
        exact h
      have hrest := ih (back ++ [l]) hlast
      rw [← List.append_assoc] at hrest
      exact .item a hrest

/-- As many rounds as the longest list needs take all items by their positions. -/
lemma serves_rounds {ls : List (List α)} {n : Nat} (h : ∀ l ∈ ls, l.length ≤ n) :
    Serves ls ((List.range n).flatMap fun k => ls.filterMap (·[k]?)) := by
  induction n generalizing ls with
  | zero =>
    induction ls with
    | nil => exact .nil
    | cons l ls ih =>
      obtain ⟨hl, hls⟩ := List.forall_mem_cons.1 h
      obtain rfl := List.length_eq_zero_iff.1 (Nat.le_zero.1 hl)
      exact .ended (ih hls)
  | succ n ih =>
    have htails : ∀ l ∈ ls.filterMap List.tail?, l.length ≤ n := by
      intro l hl
      obtain ⟨l', hl', htail⟩ := List.mem_filterMap.1 hl
      cases l' with
      | nil => cases htail
      | cons a l' =>
        obtain rfl := Option.some.inj htail
        exact Nat.le_of_succ_le_succ (h _ hl')
    have hnext : ∀ k, ls.filterMap (·[k + 1]?) = (ls.filterMap List.tail?).filterMap (·[k]?) := by
      intro k
      rw [List.filterMap_filterMap]
      refine List.filterMap_congr fun l _ => ?_
      cases l <;> rfl
    have hrest := ih htails
    have hround := Serves.round ls [] hrest
    rw [List.append_nil] at hround
    rw [List.range_succ_eq_map, List.flatMap_cons, List.flatMap_map]
    simpa only [hnext] using hround

/-- Lists are served by the positions of their items. -/
lemma serves_byPosition (ls : List (List α)) : Serves ls (byPosition ls) :=
  serves_rounds fun l hl => List.single_le_sum (by simp) _ (List.mem_map_of_mem hl)

/-- Serving takes every item of the lists once. -/
lemma Serves.perm_flatten {ls : List (List α)} {as : List α} (h : Serves ls as) :
    as.Perm ls.flatten := by
  induction h with
  | nil => exact .nil
  | ended _ ih => exact ih
  | @item ls as l a _ ih =>
    refine (ih.cons a).trans (.cons a ?_)
    rw [List.flatten_append, List.flatten_singleton]
    exact List.perm_append_comm

/-- All items are there, each as often as in the lists. -/
lemma byPosition_perm (ls : List (List α)) : (byPosition ls).Perm ls.flatten :=
  (serves_byPosition ls).perm_flatten

example : byPosition [[1, 2, 3], [], [10, 20, 30, 40, 50], [100]] =
    [1, 10, 100, 2, 20, 3, 30, 40, 50] := rfl

/-! ## Sources that are always ready -/

namespace Outlet

variable {o t : Outlet α ε Empty} {before after : List (Source α ε)} {s s' : Source α ε} {id : Nat}
  {ids : List Nat} {l : List α}

/-- A source still has some items and is closed behind them. -/
def Holds (o : Outlet α ε Empty) (id : Nat) (l : List α) : Prop :=
  ∃ s, o.ledger[id]? = some s ∧ s.cells = l.map .item ∧ s.closed = true

lemma Holds.of_ne (h : o.Holds id l) (ho : o.ledger = before ++ s :: after)
    (ht : t.ledger = before ++ s' :: after) (hne : id ≠ before.length) : t.Holds id l := by
  obtain ⟨s₀, hs, hcells⟩ := h
  refine ⟨s₀, ?_, hcells⟩
  rw [← hs, ho, ht]
  grind

lemma Holds.of_eq (h : o.Holds before.length l) (ho : o.ledger = before ++ s :: after) :
    s.cells = l.map .item ∧ s.closed = true := by
  obtain ⟨s₀, hs, hcells⟩ := h
  rw [ho] at hs
  simp at hs
  exact hs ▸ hcells

/-- A union lets a source go that has ended, and goes on with the others. -/
lemma Stands.step_ended (ho : o.Stands (id :: ids) []) (hid : o.Holds id []) :
    (ids = [] ∧ (Flow.step o).1 = .finish ∨
      (Flow.step o).1 = .again ∧ (Flow.step o).2.Stands ids []) ∧
    ∀ j l, j ≠ id → o.Holds j l → (Flow.step o).2.Holds j l := by
  obtain ⟨before, s, after, ahead', behind', rfl, hledger, hledger', hanswers, hstands⟩ :=
    ho.exists_step
  obtain ⟨hc, hclosed⟩ := hid.of_eq hledger
  refine ⟨?_, fun j l hne hj => hj.of_ne hledger hledger' hne⟩
  rw [Source.step_closed hc hclosed] at hanswers
  generalize (Flow.step o).1 = shown at *
  cases hanswers with
  | finish hgoes =>
    cases hgoes with
    | stops _ => exact .inl ⟨rfl, rfl⟩
    | again _ => exact .inr ⟨rfl, hstands⟩

/-- A source that has shown an item goes to the end of the queue. -/
lemma Stands.step_item {a : α} (ho : o.Stands (id :: ids) []) (hid : o.Holds id (a :: l)) :
    (Flow.step o).1 = .item a ∧ (Flow.step o).2.Stands (ids ++ [id]) [] ∧
      (Flow.step o).2.Holds id l ∧
      ∀ j l, j ≠ id → o.Holds j l → (Flow.step o).2.Holds j l := by
  obtain ⟨before, s, after, ahead', behind', rfl, hledger, hledger', hanswers, hstands⟩ :=
    ho.exists_step
  obtain ⟨hc, hclosed⟩ := hid.of_eq hledger
  have hstep : s.step o.waker = _ := Source.step_item hc
  have hothers := fun j l (hne : j ≠ before.length) (hj : o.Holds j l) =>
    hj.of_ne hledger hledger' hne
  have hmoved : (Flow.step o).2.Holds before.length l :=
    ⟨(s.step o.waker).2, by simp [hledger'], by rw [hstep], by rw [hstep]; exact hclosed⟩
  rw [hstep] at hanswers
  generalize (Flow.step o).1 = shown at *
  cases hanswers with
  | item _ =>
    rw [List.append_nil] at hstands
    exact ⟨rfl, hstands, hmoved, hothers⟩

/-- A union of sources that are always ready serves them. -/
lemma Stands.delivers {ls : List (List α)} {as : List α} (h : Serves ls as)
    {queue : List (Nat × List α)} (hls : ls = queue.map Prod.snd)
    (ho : o.Stands (queue.map Prod.fst) []) (hqueue : (queue.map Prod.fst).Nodup)
    (hholds : ∀ x ∈ queue, o.Holds x.1 x.2) : ∃ t, Flow.Delivers false o as t := by
  induction h generalizing o queue with
  | nil =>
    obtain rfl := List.map_eq_nil_iff.1 hls.symm
    exact ⟨o, .finish ho.step_nil.2⟩
  | @ended ls as h ih =>
    obtain ⟨⟨id, l⟩, queue, rfl, rfl, rfl⟩ := List.map_eq_cons_iff.1 hls.symm
    obtain ⟨hid, hnodup⟩ := List.nodup_cons.1 hqueue
    obtain ⟨hhead, hrest⟩ := List.forall_mem_cons.1 hholds
    obtain ⟨hstep | ⟨hagain, hstands⟩, hothers⟩ := ho.step_ended hhead
    · obtain ⟨hnil, hfinish⟩ := hstep
      obtain rfl := List.map_eq_nil_iff.1 hnil
      cases h
      exact ⟨_, .finish (Prod.ext hfinish rfl)⟩
    · obtain ⟨t, ht⟩ := ih rfl hstands hnodup fun x hx =>
        hothers x.1 x.2 (ne_of_mem_of_not_mem (List.mem_map_of_mem hx) hid) (hrest x hx)
      exact ⟨t, .again (Prod.ext hagain rfl) ht⟩
  | @item ls as l a h ih =>
    obtain ⟨⟨id, l'⟩, queue, rfl, rfl, rfl⟩ := List.map_eq_cons_iff.1 hls.symm
    obtain ⟨hid, hnodup⟩ := List.nodup_cons.1 hqueue
    obtain ⟨hhead, hrest⟩ := List.forall_mem_cons.1 hholds
    obtain ⟨hitem, hstands, hmoved, hothers⟩ := ho.step_item hhead
    have hfst : (queue ++ [(id, l)]).map Prod.fst = queue.map Prod.fst ++ [id] := List.map_append
    have hsnd : (queue ++ [(id, l)]).map Prod.snd = queue.map Prod.snd ++ [l] := List.map_append
    have hholds' : ∀ x ∈ queue ++ [(id, l)], (Flow.step o).2.Holds x.1 x.2 := by
      intro x hx
      obtain hx | hx := List.mem_append.1 hx
      · exact hothers x.1 x.2 (ne_of_mem_of_not_mem (List.mem_map_of_mem hx) hid) (hrest x hx)
      · obtain rfl := List.mem_singleton.1 hx
        exact hmoved
    obtain ⟨t, ht⟩ := ih hsnd.symm (hfst ▸ hstands)
      (hfst ▸ (List.perm_append_singleton id _).nodup_iff.2 hqueue) hholds'
    exact ⟨t, .item (Prod.ext hitem rfl) ht⟩

/-- A union of sources that are always ready shows all first items, then all second ones, and so
on. -/
theorem delivers_byPosition (ls : List (List α)) (w : Waker) :
    ∃ t, Flow.Delivers false
      (ofScripts (ls.map fun l => (l.map .item, true)) w : Outlet α ε Empty) (byPosition ls) t := by
  have hfst : (ls.zipIdx.map Prod.swap).map Prod.fst = List.range ls.length := by
    rw [List.map_map, List.range_eq_range']
    exact List.zipIdx_map_snd 0 ls
  have hsnd : (ls.zipIdx.map Prod.swap).map Prod.snd = ls := by
    rw [List.map_map]
    exact List.zipIdx_map_fst 0 ls
  have hstands := stands_ofScripts (ε := ε) (ls.map fun l => (l.map .item, true)) w
  rw [List.length_map, ← hfst] at hstands
  refine hstands.delivers (serves_byPosition ls) hsnd.symm (hfst ▸ List.nodup_range) ?_
  intro x hx
  obtain ⟨⟨l, i⟩, hl, rfl⟩ := List.mem_map.1 hx
  refine ⟨.start (l.map .item) true, ?_, rfl, rfl⟩
  rw [ledger_ofScripts, List.getElem?_map, List.getElem?_map]
  simp [List.mk_mem_zipIdx_iff_getElem?.1 hl]

end Outlet

end SparqlStream
