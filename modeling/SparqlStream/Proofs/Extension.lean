import Mathlib.Tactic
import SparqlStream.Matcher.Search

/-!
# Bindings that grow

A search binds the variables of its slots in the order in which it meets them.  `Binding.Grows`
says that one binding extends another by exactly the variables that some slots leave open.  It
splits along an appended list of slots, and so a match of three positions, and a match of several
patterns after each other, are described by the binding in which they end.
-/

namespace SparqlStream

/-! ## First occurrences -/

section EraseDups

variable {α β : Type} [BEq α] [LawfulBEq α] [BEq β] [LawfulBEq β]

lemma nodup_eraseDups (l : List α) : l.eraseDups.Nodup := by
  match l with
  | [] => exact List.nodup_nil
  | a :: l =>
    rw [List.eraseDups_cons, List.nodup_cons]
    refine ⟨?_, nodup_eraseDups _⟩
    rw [List.mem_eraseDups, List.mem_filter]
    simp
termination_by l.length
decreasing_by
  have hle := List.length_filter_le (fun b => !b == a) l
  simp only [List.length_cons]
  omega

lemma map_eraseDups (f : α → β) (l : List α)
    (hf : ∀ a ∈ l, ∀ b ∈ l, f a = f b → a = b) : (l.eraseDups).map f = (l.map f).eraseDups := by
  match l with
  | [] => rfl
  | a :: l =>
    have hfilter : (l.filter fun b => !b == a).map f = (l.map f).filter fun b => !b == f a := by
      rw [List.filter_map]
      congr 1
      refine List.filter_congr fun b hb => ?_
      have hiff : f b = f a ↔ b = a :=
        ⟨hf b (List.mem_cons_of_mem _ hb) a List.mem_cons_self, congrArg f⟩
      rw [Function.comp_apply, Bool.eq_iff_iff]
      simp [hiff]
    have hrest := map_eraseDups f (l.filter fun b => !b == a) fun b hb c hc =>
      hf b (List.mem_cons_of_mem _ (List.mem_filter.1 hb).1) c
        (List.mem_cons_of_mem _ (List.mem_filter.1 hc).1)
    rw [List.eraseDups_cons, List.map_cons, hrest, hfilter, List.map_cons, List.eraseDups_cons]
termination_by l.length
decreasing_by
  have hle := List.length_filter_le (fun b => !b == a) l
  simp only [List.length_cons]
  omega

lemma filter_eraseDups (keeps : α → Bool) (l : List α) :
    l.eraseDups.filter keeps = (l.filter keeps).eraseDups := by
  match l with
  | [] => rfl
  | a :: l =>
    have hrest := filter_eraseDups keeps (l.filter fun b => !b == a)
    rw [List.eraseDups_cons]
    cases ha : keeps a with
    | true =>
      rw [List.filter_cons_of_pos ha, List.filter_cons_of_pos ha, List.eraseDups_cons, hrest,
        List.filter_comm]
    | false =>
      have hne : (l.filter fun b => !b == a).filter keeps = l.filter keeps := by
        rw [List.filter_filter]
        refine List.filter_congr fun b _ => ?_
        by_cases hb : b = a <;> simp [hb, ha]
      rw [List.filter_cons_of_neg (by rw [ha]; simp), List.filter_cons_of_neg (by rw [ha]; simp),
        hrest, hne]
termination_by l.length
decreasing_by
  have hle := List.length_filter_le (fun b => !b == a) l
  simp only [List.length_cons]
  omega

end EraseDups

/-! ## Looking up variables -/

namespace Binding

variable {b b' b₁ : Binding} {v : Variable} {t : Term}

lemma contains_iff : b.contains v = true ↔ v ∈ b.domain := by
  rw [contains, get?, List.lookup_isSome_iff, domain, List.mem_map]
  constructor
  · rintro ⟨e, he, hv⟩
    exact ⟨e, he, (beq_iff_eq.1 hv).symm⟩
  · rintro ⟨e, he, hv⟩
    exact ⟨e, he, beq_iff_eq.2 hv.symm⟩

lemma contains_eq_false : b.contains v = false ↔ v ∉ b.domain := by
  rw [← contains_iff, Bool.not_eq_true]

lemma get?_eq_none : b.get? v = none ↔ v ∉ b.domain := by
  rw [← contains_eq_false, contains, Option.isSome_eq_false_iff, Option.isNone_iff_eq_none]

lemma domain_append (b : Binding) (a : List (Variable × Term)) :
    domain ⟨b.entries ++ a⟩ = b.domain ++ a.map Prod.fst := List.map_append

lemma get?_append (b : Binding) (a : List (Variable × Term)) (v : Variable) :
    get? ⟨b.entries ++ a⟩ v = (b.get? v).or (a.lookup v) := List.lookup_append

lemma get?_restrict (b : Binding) (keep : Variable → Bool) (v : Variable) :
    (b.restrict keep).get? v = if keep v then b.get? v else none := by
  obtain ⟨entries⟩ := b
  induction entries with
  | nil => cases keep v <;> rfl
  | cons e entries ih =>
    obtain ⟨w, t⟩ := e
    simp only [restrict, get?, List.filter_cons] at ih ⊢
    by_cases hw : v = w
    · subst hw
      cases hkeep : keep v with
      | true => simp
      | false => simpa [hkeep] using ih
    · cases keep w <;> simpa [List.lookup_cons, beq_false_of_ne hw] using ih

end Binding

/-! ## Variables that some slots leave open -/

/-- The variable of a slot. -/
def Slot.var? : Slot → Option Variable
  | constant _ => none
  | var v => some v

/-- The variables of some slots that a binding leaves open, in the order in which they first
occur. -/
def openVariables (ss : List Slot) (b : Binding) : List Variable :=
  ((ss.filterMap (·.var?)).filter (!b.contains ·)).eraseDups

/-- One binding extends another by the variables that some slots leave open. -/
def Binding.Grows (ss : List Slot) (b b' : Binding) : Prop :=
  ∃ a : List (Variable × Term), b' = ⟨b.entries ++ a⟩ ∧ a.map Prod.fst = openVariables ss b

section Grows

variable {b b' b₁ : Binding} {s : Slot} {ss ss' : List Slot} {v : Variable} {t : Term}

lemma mem_openVariables :
    v ∈ openVariables ss b ↔ (∃ s ∈ ss, s.var? = some v) ∧ v ∉ b.domain := by
  rw [openVariables, List.mem_eraseDups, List.mem_filter, List.mem_filterMap, Bool.not_eq_true',
    Binding.contains_eq_false]

lemma openVariables_isPrefix (ss ss' : List Slot) (b : Binding) :
    openVariables ss b <+: openVariables (ss ++ ss') b := by
  rw [openVariables, openVariables, List.filterMap_append, List.filter_append,
    List.eraseDups_append]
  exact List.prefix_append _ _

/-- Further slots leave open what the binding extended by the first slots does not bind. -/
lemma openVariables_append {a : List (Variable × Term)}
    (ha : a.map Prod.fst = openVariables ss b) : openVariables (ss ++ ss') b =
      openVariables ss b ++ openVariables ss' ⟨b.entries ++ a⟩ := by
  have hrest : ((ss'.filterMap (·.var?)).filter (!b.contains ·)).removeAll
        ((ss.filterMap (·.var?)).filter (!b.contains ·)) =
      (ss'.filterMap (·.var?)).filter (!Binding.contains ⟨b.entries ++ a⟩ ·) := by
    rw [List.removeAll, List.filter_filter]
    refine List.filter_congr fun v _ => ?_
    have hmem : v ∈ a.map Prod.fst ↔ v ∈ (ss.filterMap (·.var?)).filter (!b.contains ·) := by
      rw [ha, openVariables, List.mem_eraseDups]
    rw [Bool.eq_iff_iff]
    simp only [Bool.and_eq_true, Bool.not_eq_true', Binding.contains_eq_false,
      Binding.domain_append, List.mem_append, not_or, hmem, List.elem_eq_mem,
      decide_eq_false_iff_not]
    exact and_comm
  rw [openVariables, List.filterMap_append, List.filter_append, List.eraseDups_append, hrest]
  rfl

lemma Binding.grows_nil : Binding.Grows [] b b' ↔ b' = b := by
  constructor
  · rintro ⟨a, rfl, ha⟩
    have hnil : a = [] := List.map_eq_nil_iff.1 ha
    rw [hnil, List.append_nil]
  · rintro rfl
    exact ⟨[], by rw [List.append_nil], rfl⟩

/-- A binding grows along an appended list of slots in two steps. -/
lemma Binding.grows_append :
    Binding.Grows (ss ++ ss') b b' ↔ ∃ b₁, Binding.Grows ss b b₁ ∧ Binding.Grows ss' b₁ b' := by
  constructor
  · rintro ⟨a, rfl, ha⟩
    obtain ⟨more, hmore⟩ := openVariables_isPrefix ss ss' b
    rw [← hmore] at ha
    obtain ⟨a₁, a₂, rfl, ha₁, ha₂⟩ := List.map_eq_append_iff.1 ha
    refine ⟨⟨b.entries ++ a₁⟩, ⟨a₁, rfl, ha₁⟩, a₂, by rw [List.append_assoc], ?_⟩
    rw [openVariables_append ha₁] at hmore
    rw [ha₂, List.append_cancel_left hmore]
  · rintro ⟨_, ⟨a₁, rfl, ha₁⟩, a₂, rfl, ha₂⟩
    refine ⟨a₁ ++ a₂, by rw [List.append_assoc], ?_⟩
    rw [List.map_append, openVariables_append ha₁, ha₁, ha₂]

lemma Binding.Grows.get? (hg : Binding.Grows ss b b') (hv : b.get? v = some t) :
    b'.get? v = some t := by
  obtain ⟨a, rfl, -⟩ := hg
  rw [Binding.get?_append, hv, Option.some_or]

lemma Binding.Grows.value? (hg : Binding.Grows ss b b') (hs : s.value? b = some t) :
    s.value? b' = some t := by
  cases s with
  | constant c => exact hs
  | var v => exact hg.get? hs

/-- After growing along a slot, a binding restricts it. -/
lemma Binding.Grows.value?_ne_none (hg : Binding.Grows ss b b') (hs : s ∈ ss) :
    s.value? b' ≠ none := by
  cases s with
  | constant c => exact Option.some_ne_none c
  | var v =>
    obtain ⟨a, rfl, ha⟩ := hg
    intro hnone
    rw [Slot.value?, Binding.get?_eq_none, Binding.domain_append, ha, List.mem_append,
      mem_openVariables, not_or] at hnone
    exact hnone.2 ⟨⟨.var v, hs, rfl⟩, hnone.1⟩

/-- What a slot is matched with does not change any more. -/
lemma Binding.Grows.value?_eq (hg : Binding.Grows ss b b₁) (hs : s ∈ ss)
    (hg' : Binding.Grows ss' b₁ b') : s.value? b' = s.value? b₁ := by
  obtain ⟨t, ht⟩ := Option.ne_none_iff_exists'.1 (hg.value?_ne_none hs)
  rw [ht, hg'.value? ht]

/-! ## Matching slots -/

/-- A slot is matched by binding its variable, if it is open, and comparing terms. -/
lemma Slot.matchTerm_eq_some :
    s.matchTerm b t = some b' ↔ Binding.Grows [s] b b' ∧ s.value? b' = some t := by
  cases s with
  | constant c =>
    have hgrows : Binding.Grows [.constant c] b b' ↔ b' = b := Binding.grows_nil
    rw [hgrows, Slot.matchTerm, Slot.value?, Option.some_inj]
    by_cases hc : c = t <;> simp [hc, eq_comm]
  | var v =>
    rw [Slot.matchTerm, Slot.value?, Binding.extend]
    cases hv : b.get? v with
    | none =>
      have hopen : openVariables [.var v] b = [v] := by
        simp [openVariables, Slot.var?, Binding.contains, hv, List.eraseDups_cons]
      constructor
      · rintro ⟨⟩
        refine ⟨⟨[(v, t)], rfl, by rw [hopen]; rfl⟩, ?_⟩
        rw [Binding.get?_append, hv, Option.none_or, List.lookup_cons_self]
      · rintro ⟨⟨a, rfl, ha⟩, hval⟩
        rw [hopen] at ha
        obtain ⟨⟨w, u⟩, rfl, rfl⟩ := List.map_eq_singleton_iff.1 ha
        rw [Binding.get?_append, hv, Option.none_or, List.lookup_cons_self] at hval
        cases hval
        rfl
    | some u =>
      have hopen : openVariables [.var v] b = [] := by
        simp [openVariables, Slot.var?, Binding.contains, hv]
      have hgrows : Binding.Grows [.var v] b b' ↔ b' = b := by
        rw [← Binding.grows_nil]
        exact exists_congr fun a => and_congr_right fun _ => by rw [hopen]; rfl
      rw [hgrows]
      by_cases hu : u = t
      · subst hu
        simp only [if_true, Except.toOption, Option.some_inj]
        exact ⟨fun h => ⟨h.symm, h ▸ hv⟩, fun h => h.1.symm⟩
      · simp only [if_neg hu, Except.toOption, reduceCtorEq, false_iff, not_and]
        rintro rfl hval
        rw [hv] at hval
        exact hu (Option.some.inj hval)

end Grows

end SparqlStream
