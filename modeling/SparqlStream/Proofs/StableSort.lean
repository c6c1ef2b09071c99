import Mathlib.Data.List.Sort
import Mathlib.Tactic

/-!
# Stable sorting

A stable sort of a list puts its elements in order and leaves those that compare equal in the order
in which they were.  The comparison has to be a total preorder, but only on the elements of the
list: nothing is asked of it elsewhere.

`StablySorted` says when one list is the stable sort of another one.  There is exactly one such
list, `stableSort` finds it, and a stable sort by one key after a stable sort by another one is the
stable sort by both keys, the later one first.
-/

namespace SparqlStream

variable {α : Type} {cmp cmp' : α → α → Ordering} {l l' l₁ l₂ : List α}

/-! ## Comparisons -/

/-- A comparison is a total preorder on the elements of a list. -/
structure TotalPreorderOn (cmp : α → α → Ordering) (l : List α) : Prop where
  swap : ∀ a ∈ l, ∀ b ∈ l, cmp b a = (cmp a b).swap
  trans : ∀ a ∈ l, ∀ b ∈ l, ∀ c ∈ l,
    (cmp a b).isLE = true → (cmp b c).isLE = true → (cmp a c).isLE = true

namespace TotalPreorderOn

variable {a b c : α}

lemma subset (h : TotalPreorderOn cmp l) (hsub : ∀ a ∈ l', a ∈ l) : TotalPreorderOn cmp l' where
  swap a ha b hb := h.swap a (hsub a ha) b (hsub b hb)
  trans a ha b hb c hc := h.trans a (hsub a ha) b (hsub b hb) c (hsub c hc)

lemma refl (h : TotalPreorderOn cmp l) (ha : a ∈ l) : cmp a a = .eq := by
  have hswap := h.swap a ha a ha
  cases hc : cmp a a <;> rw [hc] at hswap <;> simp at hswap

lemma total (h : TotalPreorderOn cmp l) (ha : a ∈ l) (hb : b ∈ l) :
    (cmp a b).isLE = true ∨ (cmp b a).isLE = true := by
  rw [h.swap a ha b hb]
  cases cmp a b <;> simp

lemma eq_of_isLE (h : TotalPreorderOn cmp l) (ha : a ∈ l) (hb : b ∈ l)
    (hab : (cmp a b).isLE = true) (hba : (cmp b a).isLE = true) : cmp a b = .eq := by
  rw [h.swap a ha b hb] at hba
  cases hc : cmp a b <;> simp_all

/-- What is equal to an element compares with the others as it does. -/
lemma congr_left (h : TotalPreorderOn cmp l) (ha : a ∈ l) (hb : b ∈ l) (hc : c ∈ l)
    (hab : cmp a b = .eq) : cmp a c = cmp b c := by
  have hle : (cmp a b).isLE = true := by rw [hab]; rfl
  have hge : (cmp b a).isLE = true := by rw [h.swap a ha b hb, hab]; rfl
  have hto : (cmp a c).isLE = true ↔ (cmp b c).isLE = true :=
    ⟨h.trans b hb a ha c hc hge, h.trans a ha b hb c hc hle⟩
  have hfrom : (cmp c a).isLE = true ↔ (cmp c b).isLE = true :=
    ⟨fun hca => h.trans c hc a ha b hb hca hle, fun hcb => h.trans c hc b hb a ha hcb hge⟩
  rw [h.swap a ha c hc, h.swap b hb c hc] at hfrom
  cases hac : cmp a c <;> cases hbc : cmp b c <;> simp_all

end TotalPreorderOn

/-! ## Stable sorts -/

/-- The elements of a list in order, with equal ones as they were. -/
def stableSort (cmp : α → α → Ordering) (l : List α) : List α :=
  l.mergeSort fun a b => (cmp a b).isLE

/-- One list is the stable sort of another one: a permutation in order, which lists the elements
that are equal to any given one as they were listed before. -/
structure StablySorted (cmp : α → α → Ordering) (l l' : List α) : Prop where
  perm : l'.Perm l
  sorted : l'.Pairwise fun a b => (cmp a b).isLE = true
  stable : ∀ a ∈ l, l'.filter (cmp a · == .eq) = l.filter (cmp a · == .eq)

/-- A stable sort also keeps the order of the elements that are equal to another one. -/
lemma StablySorted.filter_eq {a : α} (h : TotalPreorderOn cmp (a :: l))
    (hl : StablySorted cmp l l') :
    l'.filter (cmp a · == .eq) = l.filter (cmp a · == .eq) := by
  by_cases hsome : ∃ b ∈ l, cmp a b = .eq
  · obtain ⟨b, hb, hab⟩ := hsome
    have hclass : ∀ c ∈ l, (cmp a c == .eq) = (cmp b c == .eq) := fun c hc => by
      rw [h.congr_left List.mem_cons_self (List.mem_cons_of_mem a hb) (List.mem_cons_of_mem a hc)
        hab]
    rw [List.filter_congr fun c hc => hclass c (hl.perm.mem_iff.1 hc), List.filter_congr hclass]
    exact hl.stable b hb
  · have hnone : ∀ c ∈ l, (cmp a c == .eq) = false := fun c hc =>
      beq_eq_false_iff_ne.2 fun hac => hsome ⟨c, hc, hac⟩
    rw [List.filter_congr fun c hc => hnone c (hl.perm.mem_iff.1 hc), List.filter_congr hnone,
      List.filter_false, List.filter_false]

/-- A stable sort is stable on a type where the comparison is a total preorder. -/
lemma filter_mergeSort {le : α → α → Bool} {keeps : α → Bool}
    (htrans : ∀ a b c, le a b = true → le b c = true → le a c = true)
    (htotal : ∀ a b, (le a b || le b a) = true)
    (hkeeps : ∀ a b, keeps a = true → keeps b = true → le a b = true) (l : List α) :
    (l.mergeSort le).filter keeps = l.filter keeps := by
  have hpair : (l.filter keeps).Pairwise fun a b => le a b = true := by
    rw [List.pairwise_filter]
    exact List.pairwise_of_forall fun a b ha hb => hkeeps a b ha hb
  have hsub := (List.sublist_mergeSort htrans htotal hpair List.filter_sublist).filter keeps
  rw [List.filter_filter, List.filter_congr fun a _ => Bool.and_self (keeps a)] at hsub
  exact (hsub.eq_of_length ((List.mergeSort_perm l le).filter keeps).length_eq.symm).symm

/-- There is a stable sort. -/
theorem stablySorted_stableSort (h : TotalPreorderOn cmp l) :
    StablySorted cmp l (stableSort cmp l) := by
  -- the comparison is a total preorder on the type of the elements of the list
  let le : {a // a ∈ l} → {a // a ∈ l} → Bool := fun a b => (cmp a b).isLE
  have htrans : ∀ a b c, le a b = true → le b c = true → le a c = true :=
    fun a b c => h.trans a a.2 b b.2 c c.2
  have htotal : ∀ a b, (le a b || le b a) = true := by
    intro a b
    rw [Bool.or_eq_true]
    exact h.total a.2 b.2
  have hval : (l.attach.mergeSort le).map Subtype.val = stableSort cmp l := by
    rw [List.map_mergeSort (s := fun a b => (cmp a b).isLE) fun a _ b _ => rfl,
      List.attach_map_subtype_val, stableSort]
  refine ⟨List.mergeSort_perm _ _, ?_, fun a ha => ?_⟩
  · rw [← hval, List.pairwise_map]
    exact List.pairwise_mergeSort htrans htotal l.attach
  · let keeps : {a // a ∈ l} → Bool := fun b => cmp a b == .eq
    have hkeeps : ∀ b c, keeps b = true → keeps c = true → le b c = true := by
      intro b c hb hc
      rw [beq_iff_eq] at hb hc
      have heq := h.congr_left ha b.2 c.2 hb
      rw [hc] at heq
      exact congrArg Ordering.isLE heq.symm
    have hmap := congrArg (List.map Subtype.val) (filter_mergeSort htrans htotal hkeeps l.attach)
    have hcomp : keeps = (cmp a · == .eq) ∘ Subtype.val := rfl
    rw [hcomp, ← List.filter_map, ← List.filter_map, hval, List.attach_map_subtype_val] at hmap
    exact hmap

/-- The first elements of two lists in order are equal, if each one occurs in the other list. -/
lemma eq_of_heads {a b : α} (h : TotalPreorderOn cmp (a :: l₁)) (hb : b ∈ a :: l₁)
    (ha : a ∈ b :: l₂) (h₁ : (a :: l₁).Pairwise fun a b => (cmp a b).isLE = true)
    (h₂ : (b :: l₂).Pairwise fun a b => (cmp a b).isLE = true) : cmp a b = .eq := by
  have hrefl : (cmp a a).isLE = true := by rw [h.refl List.mem_cons_self]; rfl
  have hab : (cmp a b).isLE = true := by
    rcases List.mem_cons.1 hb with rfl | hb
    · exact hrefl
    · exact List.rel_of_pairwise_cons h₁ hb
  have hba : (cmp b a).isLE = true := by
    rcases List.mem_cons.1 ha with rfl | ha
    · exact hrefl
    · exact List.rel_of_pairwise_cons h₂ ha
  exact h.eq_of_isLE List.mem_cons_self hb hab hba

/-- Two lists in order are the same, if they list the elements equal to any one in the same way. -/
lemma eq_of_sorted (h : TotalPreorderOn cmp l₁) (hperm : l₁.Perm l₂)
    (h₁ : l₁.Pairwise fun a b => (cmp a b).isLE = true)
    (h₂ : l₂.Pairwise fun a b => (cmp a b).isLE = true)
    (hfilter : ∀ a ∈ l₁, l₁.filter (cmp a · == .eq) = l₂.filter (cmp a · == .eq)) : l₁ = l₂ := by
  induction l₁ generalizing l₂ with
  | nil => rw [hperm.nil_eq]
  | cons a l₁ ih =>
    cases l₂ with
    | nil => exact absurd hperm.eq_nil (List.cons_ne_nil a l₁)
    | cons b l₂ =>
      have hb : b ∈ a :: l₁ := hperm.mem_iff.2 List.mem_cons_self
      have ha : a ∈ b :: l₂ := hperm.mem_iff.1 List.mem_cons_self
      have hrefl : (cmp a a == .eq) = true := beq_iff_eq.2 (h.refl List.mem_cons_self)
      have hab : (cmp a b == .eq) = true := beq_iff_eq.2 (eq_of_heads h hb ha h₁ h₂)
      have hclass := hfilter a List.mem_cons_self
      rw [List.filter_cons, if_pos hrefl, List.filter_cons, if_pos hab] at hclass
      obtain ⟨rfl, -⟩ := List.cons.inj hclass
      refine congrArg (a :: ·) (ih (h.subset fun c hc => List.mem_cons_of_mem a hc)
        ((List.perm_cons a).1 hperm) h₁.of_cons h₂.of_cons fun c hc => ?_)
      have hclass := hfilter c (List.mem_cons_of_mem a hc)
      rw [List.filter_cons, List.filter_cons] at hclass
      split at hclass
      · exact (List.cons.inj hclass).2
      · exact hclass

/-- There is only one stable sort. -/
theorem StablySorted.eq_stableSort (h : TotalPreorderOn cmp l) (hl : StablySorted cmp l l') :
    l' = stableSort cmp l := by
  have hsort := stablySorted_stableSort h
  refine eq_of_sorted (h.subset fun a ha => hl.perm.mem_iff.1 ha) (hl.perm.trans hsort.perm.symm)
    hl.sorted hsort.sorted fun a ha => ?_
  have hmem := hl.perm.mem_iff.1 ha
  rw [hl.stable a hmem, hsort.stable a hmem]

lemma StablySorted.unique (h : TotalPreorderOn cmp l) (h₁ : StablySorted cmp l l₁)
    (h₂ : StablySorted cmp l l₂) : l₁ = l₂ := by
  rw [h₁.eq_stableSort h, h₂.eq_stableSort h]

/-! ## Several keys -/

section Lex

variable (cmp cmp')

lemma isLE_compareLex {a b : α} : (compareLex cmp cmp' a b).isLE = true ↔
    (cmp a b).isLE = true ∧ (cmp a b = .eq → (cmp' a b).isLE = true) := by
  rw [compareLex]
  cases cmp a b <;> simp

lemma compareLex_eq_beq {a b : α} :
    (compareLex cmp cmp' a b == .eq) = (cmp a b == .eq && cmp' a b == .eq) := by
  rw [compareLex]
  cases cmp a b <;> simp

variable {cmp cmp'}

lemma TotalPreorderOn.lex (h : TotalPreorderOn cmp l) (h' : TotalPreorderOn cmp' l) :
    TotalPreorderOn (compareLex cmp cmp') l where
  swap a ha b hb := by
    rw [compareLex, compareLex, h.swap a ha b hb, h'.swap a ha b hb]
    cases cmp a b <;> rfl
  trans a ha b hb c hc hab hbc := by
    rw [isLE_compareLex] at hab hbc ⊢
    refine ⟨h.trans a ha b hb c hc hab.1 hbc.1, fun hac => ?_⟩
    -- if the ends are equal then so are their neighbours in between
    have hca : (cmp c a).isLE = true := by
      rw [h.swap a ha c hc, hac]
      rfl
    have hba := h.trans b hb c hc a ha hbc.1 hca
    have hcb := h.trans c hc a ha b hb hca hab.1
    exact h'.trans a ha b hb c hc (hab.2 (h.eq_of_isLE ha hb hab.1 hba))
      (hbc.2 (h.eq_of_isLE hb hc hbc.1 hcb))

/-- A stable sort by one key after a stable sort by another one sorts by both keys. -/
theorem StablySorted.lex (h : TotalPreorderOn cmp l) (h' : StablySorted cmp' l l₁)
    (hl : StablySorted cmp l₁ l₂) : StablySorted (compareLex cmp cmp') l l₂ where
  perm := hl.perm.trans h'.perm
  sorted := by
    rw [List.pairwise_iff_forall_sublist]
    intro a b hab
    rw [isLE_compareLex]
    refine ⟨List.pairwise_iff_forall_sublist.1 hl.sorted hab, fun heq => ?_⟩
    -- two elements with the same first key are in the order of the sort before
    have ha : a ∈ l₁ := hl.perm.mem_iff.1 (hab.subset List.mem_cons_self)
    have hrefl : cmp a a = .eq := h.refl (h'.perm.mem_iff.1 ha)
    have hpair := hab.filter (cmp a · == .eq)
    rw [hl.stable a ha] at hpair
    have hself : [a, b].filter (cmp a · == .eq) = [a, b] := by simp [hrefl, heq]
    rw [hself] at hpair
    exact List.pairwise_iff_forall_sublist.1 h'.sorted (hpair.trans List.filter_sublist)
  stable a ha := by
    have hsplit : ∀ l : List α, l.filter (compareLex cmp cmp' a · == .eq) =
        (l.filter (cmp' a · == .eq)).filter (cmp a · == .eq) := by
      intro l
      rw [List.filter_filter]
      exact List.filter_congr fun b _ => compareLex_eq_beq cmp cmp'
    rw [hsplit, hsplit, List.filter_comm, hl.stable a (h'.perm.mem_iff.2 ha), List.filter_comm,
      h'.stable a ha]

lemma stableSort_compareLex (h : TotalPreorderOn cmp l) (h' : TotalPreorderOn cmp' l) :
    stableSort (compareLex cmp cmp') l = stableSort cmp (stableSort cmp' l) := by
  have hfirst := stablySorted_stableSort h'
  have hsub := h.subset fun a ha => hfirst.perm.mem_iff.1 ha
  have hboth := hfirst.lex h (stablySorted_stableSort hsub)
  exact (hboth.eq_stableSort (h.lex h')).symm

end Lex

/-- The lexicographic order by some comparisons, the first of which is the most significant one. -/
def compareAll (cmps : List (α → α → Ordering)) : α → α → Ordering :=
  cmps.foldr compareLex fun _ _ => .eq

section CompareAll

variable {cmps : List (α → α → Ordering)}

lemma totalPreorderOn_compareAll (h : ∀ cmp ∈ cmps, TotalPreorderOn cmp l) :
    TotalPreorderOn (compareAll cmps) l := by
  induction cmps with
  | nil => exact ⟨fun _ _ _ _ => rfl, fun _ _ _ _ _ _ _ _ => rfl⟩
  | cons cmp cmps ih =>
    obtain ⟨hfirst, hrest⟩ := List.forall_mem_cons.1 h
    exact hfirst.lex (ih hrest)

/-- To sort by some comparisons at once one sorts by one after another, the last one first. -/
theorem stableSort_compareAll (h : ∀ cmp ∈ cmps, TotalPreorderOn cmp l) :
    stableSort (compareAll cmps) l = cmps.foldr stableSort l := by
  induction cmps with
  | nil =>
    have hsame : StablySorted (compareAll []) l l :=
      ⟨.refl l, List.pairwise_of_forall fun _ _ => rfl, fun _ _ => rfl⟩
    exact (hsame.eq_stableSort (totalPreorderOn_compareAll h)).symm
  | cons cmp cmps ih =>
    obtain ⟨hfirst, hrest⟩ := List.forall_mem_cons.1 h
    rw [List.foldr_cons, ← ih hrest]
    exact stableSort_compareLex hfirst (totalPreorderOn_compareAll hrest)

end CompareAll

end SparqlStream
