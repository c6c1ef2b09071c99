import Mathlib.Tactic
import SparqlStream.Proofs.StableSort
import SparqlStream.Stream.Sorter

/-!
# A buffer keeps itself sorted

The buffer of a sorter finds the place of a new item by binary search.  As long as the comparison
is a total preorder on what is held, the items that are greater than the new one come last, the
search finds where they begin, and the buffer stays the stable sort of what has been put into it.

If the comparison is none, the search still ends between two items of which only the second one is
greater than the new one.  So neighbours in the buffer stay in order, as long as the comparison is
reversed when its arguments are.
-/

namespace SparqlStream

namespace Sorter

/-! ## Binary search -/

/-- An index where a condition changes: it holds in front of the index and fails there, as far as
there is anything. -/
structure Borders (before : Nat → Bool) (n k : Nat) : Prop where
  le : k ≤ n
  front : k = 0 ∨ before (k - 1) = true
  behind : k = n ∨ before k = false

/-- Whatever the condition is, a search ends at a border.  It always keeps an index that fails at
the end of its interval, or one index earlier, as an odd size is rounded up. -/
lemma searchBetween_borders {before : Nat → Bool} {base size n : Nat} (hsize : 0 < size)
    (hle : base + size ≤ n) (hlow : base = 0 ∨ before base = true)
    (hhigh : base + size = n ∨ before (base + size) = false ∨ before (base + size - 1) = false) :
    Borders before n (searchBetween before base size) := by
  induction size using Nat.strong_induction_on generalizing base with
  | h size ih =>
    rw [searchBetween]
    by_cases hone : 1 < size
    · rw [dif_pos hone]
      dsimp only
      by_cases hmiddle : before (base + size / 2) = true
      · have hend : base + size / 2 + (size - size / 2) = base + size := by omega
        rw [if_pos hmiddle]
        refine ih (size - size / 2) (by omega) (by omega) (by omega) (.inr hmiddle) ?_
        rwa [hend]
      · rw [if_neg hmiddle]
        rw [Bool.not_eq_true] at hmiddle
        refine ih (size - size / 2) (by omega) (by omega) (by omega) hlow (.inr ?_)
        rcases Nat.mod_two_eq_zero_or_one size with heven | hodd
        · have hend : base + (size - size / 2) = base + size / 2 := by omega
          exact .inl (by rwa [hend])
        · have hend : base + (size - size / 2) - 1 = base + size / 2 := by omega
          exact .inr (by rwa [hend])
    · obtain rfl : size = 1 := by omega
      rw [dif_neg hone]
      cases hbase : before base with
      | true =>
        refine ⟨hle, .inr ?_, hhigh.imp_right fun h => h.resolve_right ?_⟩
        · exact hbase
        · rw [Nat.add_sub_cancel, hbase]
          simp
      | false =>
        refine ⟨by simp; omega, .inl ?_, .inr ?_⟩
        · simpa using hlow.resolve_right (by rw [hbase]; exact Bool.false_ne_true)
        · exact hbase

lemma partitionPoint_borders (before : Nat → Bool) (n : Nat) :
    Borders before n (partitionPoint before n) := by
  rw [partitionPoint]
  split
  · next hzero => exact ⟨Nat.zero_le n, .inl rfl, .inl hzero.symm⟩
  · refine searchBetween_borders (by omega) (by omega) (.inl rfl) (.inl (by omega))

/-- If the indices that satisfy the condition come first, there is only one border. -/
lemma partitionPoint_eq {before : Nat → Bool} {n k : Nat}
    (hbefore : ∀ i < n, before i = decide (i < k)) (hk : k ≤ n) : partitionPoint before n = k := by
  obtain ⟨hle, hfront, hbehind⟩ := partitionPoint_borders before n
  generalize partitionPoint before n = i at hle hfront hbehind
  refine le_antisymm ?_ ?_
  · rcases hfront with rfl | hfront
    · exact Nat.zero_le k
    · by_contra hlt
      rw [hbefore (i - 1) (by omega), decide_eq_true_iff] at hfront
      omega
  · rcases hbehind with rfl | hbehind
    · exact hk
    · by_contra hlt
      rw [hbefore i (by omega), decide_eq_false_iff_not] at hbehind
      omega

/-! ## Placing an item -/

variable {α : Type} {cmp : α → α → Ordering} {window : Window} {l held low high : List α}
  {a : α}

/-- Whatever the comparison says, placing an item loses nothing. -/
lemma held_insert_perm (s : Sorter α) (a : α) : (s.insert a).held.Perm (a :: s.held) := by
  rw [insert]
  dsimp only
  refine List.perm_middle.trans ?_
  rw [List.take_append_drop]

/-- Seen from the last item, the greater ones come first. -/
lemma greater_eq (hlow : ∀ b ∈ low, cmp b a ≠ .gt) (hhigh : ∀ b ∈ high, cmp b a = .gt) {i : Nat}
    (hi : i < (low ++ high).length) :
    (match (low ++ high).reverse[i]? with
      | some held => cmp held a == .gt
      | none => false) = decide (i < high.length) := by
  rw [List.length_append] at hi
  rw [List.reverse_append]
  by_cases hk : i < high.length
  · have hlt : i < high.reverse.length := by rwa [List.length_reverse]
    have hmem := List.mem_reverse.1 (List.getElem_mem hlt)
    rw [List.getElem?_append_left hlt, List.getElem?_eq_getElem hlt, decide_eq_true hk]
    exact beq_iff_eq.2 (hhigh _ hmem)
  · have hle : high.reverse.length ≤ i := by
      rw [List.length_reverse]
      omega
    have hlt : i - high.reverse.length < low.reverse.length := by
      rw [List.length_reverse, List.length_reverse]
      omega
    have hmem := List.mem_reverse.1 (List.getElem_mem hlt)
    rw [List.getElem?_append_right hle, List.getElem?_eq_getElem hlt, decide_eq_false hk]
    exact beq_eq_false_iff_ne.2 (hlow _ hmem)

/-- An item is placed between those that are not greater and those that are greater. -/
lemma insert_eq (hlow : ∀ b ∈ low, cmp b a ≠ .gt) (hhigh : ∀ b ∈ high, cmp b a = .gt) :
    (Sorter.mk cmp window (low ++ high)).insert a = ⟨cmp, window, low ++ a :: high⟩ := by
  have hle : high.length ≤ (low ++ high).length := by rw [List.length_append]; omega
  have hplace : (Sorter.mk cmp window (low ++ high)).place a = low.length := by
    refine (congrArg ((low ++ high).length - ·)
      (partitionPoint_eq (fun i hi => greater_eq hlow hhigh hi) hle)).trans ?_
    rw [List.length_append, Nat.add_sub_cancel]
  rw [insert, hplace]
  dsimp only
  rw [List.take_left, List.drop_left]

/-- A list in order splits into what is not greater than an item and what is greater. -/
lemma exists_split (h : TotalPreorderOn cmp (held ++ [a]))
    (hsorted : held.Pairwise fun b c => (cmp b c).isLE = true) :
    ∃ low high, held = low ++ high ∧ (∀ b ∈ low, cmp b a ≠ .gt) ∧ ∀ b ∈ high, cmp b a = .gt := by
  induction held with
  | nil => exact ⟨[], [], rfl, List.forall_mem_nil _, List.forall_mem_nil _⟩
  | cons b held ih =>
    by_cases hb : cmp b a = .gt
    · refine ⟨[], b :: held, rfl, List.forall_mem_nil _, fun c hc => ?_⟩
      have hbmem : b ∈ b :: held ++ [a] := List.mem_append_left _ List.mem_cons_self
      have hcmem : c ∈ b :: held ++ [a] := List.mem_append_left _ hc
      have hamem : a ∈ b :: held ++ [a] := List.mem_append_right _ List.mem_cons_self
      rcases List.mem_cons.1 hc with rfl | hc
      · exact hb
      · have hbc := List.rel_of_pairwise_cons hsorted hc
        cases hca : cmp c a with
        | gt => rfl
        | lt | eq =>
          have hba := h.trans b hbmem c hcmem a hamem hbc (by rw [hca]; rfl)
          rw [hb] at hba
          cases hba
    · obtain ⟨low, high, rfl, hlow, hhigh⟩ :=
        ih (h.subset fun c hc => List.mem_cons_of_mem b hc) hsorted.of_cons
      exact ⟨b :: low, high, rfl, List.forall_mem_cons.2 ⟨hb, hlow⟩, hhigh⟩

/-! ## Neighbours are in order -/

/-- Whatever the comparison says, an item is placed next to items between which it belongs. -/
lemma exists_insert (s : Sorter α) (a : α) :
    ∃ low high, s.held = low ++ high ∧ (s.insert a).held = low ++ a :: high ∧
      (∀ b ∈ low.getLast?, s.compare b a ≠ .gt) ∧ ∀ b ∈ high.head?, s.compare b a = .gt := by
  let greater (i : Nat) : Bool :=
    match s.held.reverse[i]? with
    | some held => s.compare held a == .gt
    | none => false
  obtain ⟨hle, hfront, hbehind⟩ := partitionPoint_borders greater s.held.length
  have hplace : s.place a = s.held.length - partitionPoint greater s.held.length := rfl
  generalize partitionPoint greater s.held.length = k at hle hfront hbehind hplace
  have hgreater : ∀ i < s.held.length, ∀ b ∈ s.held[s.held.length - 1 - i]?,
      greater i = (s.compare b a == .gt) := by
    intro i hi b hb
    simp only [greater]
    rw [List.getElem?_reverse hi, Option.mem_def.1 hb]
  refine ⟨s.held.take (s.place a), s.held.drop (s.place a), (List.take_append_drop ..).symm, rfl,
    fun b hb => ?_, fun b hb => ?_⟩
  · rw [List.getLast?_take] at hb
    split at hb
    · cases hb
    · next hne =>
      rw [hplace] at hne hb
      have hlt : k < s.held.length := by omega
      have hindex : s.held.length - k - 1 = s.held.length - 1 - k := by omega
      rw [hindex, List.getElem?_eq_getElem (by omega), Option.some_or] at hb
      have hcompare := hgreater k hlt b (by rwa [List.getElem?_eq_getElem (by omega)])
      rw [hbehind.resolve_left hlt.ne] at hcompare
      exact beq_eq_false_iff_ne.1 hcompare.symm
  · rw [List.head?_drop, hplace] at hb
    obtain ⟨hlt, -⟩ := List.getElem?_eq_some_iff.1 (Option.mem_def.1 hb)
    have hindex : s.held.length - k = s.held.length - 1 - (k - 1) := by omega
    rw [hindex] at hb
    have hcompare := hgreater (k - 1) (by omega) b hb
    rw [hfront.resolve_left (by omega)] at hcompare
    exact beq_iff_eq.1 hcompare.symm

/-- Placing an item keeps neighbours in order. -/
lemma isChain_insert (s : Sorter α) (hswap : ∀ a b, s.compare b a = (s.compare a b).swap) (a : α)
    (h : s.held.IsChain fun a b => s.compare a b ≠ .gt) :
    (s.insert a).held.IsChain fun a b => s.compare a b ≠ .gt := by
  obtain ⟨low, high, hheld, hinsert, hlow, hhigh⟩ := s.exists_insert a
  rw [hheld, List.isChain_append] at h
  rw [hinsert, List.isChain_append, List.isChain_cons]
  refine ⟨h.1, ⟨fun b hb => ?_, h.2.1⟩, fun b hb c hc => ?_⟩
  · rw [hswap, hhigh b hb]
    decide
  · obtain rfl := Option.some.inj hc
    exact hlow b hb

lemma isChain_foldl (s : Sorter α) (hswap : ∀ a b, s.compare b a = (s.compare a b).swap)
    (l : List α) (h : s.held.IsChain fun a b => s.compare a b ≠ .gt) :
    (l.foldl insert s).held.IsChain fun a b => s.compare a b ≠ .gt := by
  induction l generalizing s with
  | nil => exact h
  | cons a l ih => exact ih (s.insert a) hswap (s.isChain_insert hswap a h)

/-! ## The buffer is sorted -/

/-- Placing an item keeps the buffer stably sorted. -/
theorem stablySorted_insert (window : Window) (h : TotalPreorderOn cmp (l ++ [a]))
    (hl : StablySorted cmp l held) :
    StablySorted cmp (l ++ [a]) ((Sorter.mk cmp window held).insert a).held := by
  have hsub : ∀ b ∈ held ++ [a], b ∈ l ++ [a] := fun b hb =>
    ((hl.perm.append_right [a]).mem_iff).1 hb
  obtain ⟨low, high, rfl, hlow, hhigh⟩ := exists_split (h.subset hsub) hl.sorted
  rw [insert_eq hlow hhigh]
  have ha : a ∈ l ++ [a] := List.mem_append_right _ List.mem_cons_self
  have hmem : ∀ b ∈ low ++ high, b ∈ l ++ [a] := fun b hb => hsub b (List.mem_append_left _ hb)
  refine ⟨?_, ?_, fun c hc => ?_⟩
  -- nothing is lost
  · refine List.perm_middle.trans ?_
    exact ((List.perm_cons a).2 hl.perm).trans (List.perm_append_singleton a l).symm
  · obtain ⟨hlows, hhighs, hacross⟩ := List.pairwise_append.1 hl.sorted
    refine List.pairwise_append.2 ⟨hlows, List.pairwise_cons.2 ⟨fun b hb => ?_, hhighs⟩, ?_⟩
    · rw [h.swap b (hmem b (List.mem_append_right _ hb)) a ha, hhigh b hb]
      rfl
    · intro b hb c hc
      rcases List.mem_cons.1 hc with rfl | hc
      · have hne := hlow b hb
        cases hbc : cmp b c <;> simp_all
      · exact hacross b hb c hc
  · have hheld := hl.filter_eq (a := c) (h.subset fun b hb => ?_)
    · rw [List.filter_append, List.filter_append, ← hheld, List.filter_append, List.append_assoc]
      refine congrArg _ ?_
      by_cases hca : cmp c a = .eq
      -- the new item is equal to `c`, and nothing behind it is
      · have hnone : ∀ b ∈ high, (cmp c b == .eq) = false := by
          intro b hb
          refine beq_eq_false_iff_ne.2 fun hcb => ?_
          have hba := h.congr_left hc (hmem b (List.mem_append_right _ hb)) ha hcb
          rw [hca, hhigh b hb] at hba
          cases hba
        rw [List.filter_cons, List.filter_congr hnone, List.filter_false]
        simp [hca]
      · simp [hca]
    · rcases List.mem_cons.1 hb with rfl | hb
      · exact hc
      · exact List.mem_append_left _ hb

/-- A buffer into which a list has been put holds the stable sort of the list. -/
theorem stablySorted_foldl (window : Window) (h : TotalPreorderOn cmp l) :
    ∃ held, l.foldl insert (start cmp window) = ⟨cmp, window, held⟩ ∧ StablySorted cmp l held := by
  induction l using List.reverseRecOn with
  | nil => exact ⟨[], rfl, .refl _, List.Pairwise.nil, List.forall_mem_nil _⟩
  | append_singleton l a ih =>
    obtain ⟨held, hheld, hl⟩ := ih (h.subset fun b hb => List.mem_append_left _ hb)
    refine ⟨_, ?_, stablySorted_insert window h hl⟩
    rw [List.foldl_append, hheld]
    rfl

end Sorter

end SparqlStream
