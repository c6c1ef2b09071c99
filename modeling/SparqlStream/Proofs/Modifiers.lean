import Mathlib.Tactic
import SparqlStream.Proofs.Extension
import SparqlStream.Proofs.Insertion
import SparqlStream.Proofs.Operation
import SparqlStream.Query.Run

/-!
# What the operators of a query yield

Each operator of a query as a function on lists.  A sorter yields the stable sort of its input, a
slice drops and takes, repetitions are removed by key, a projection maps, and a template shows its
ground triples and then those of one binding after another.

Some of this is left if the input comes in another order.  A sorter yields a permutation of its
input, however it compares and whatever its window is; a slice of as many items is as long; and as
many items are left without repetitions, the same ones if the keys tell all items apart.
-/

namespace SparqlStream

open Operator

/-! ## Slices -/

namespace Slice

variable {α ε : Type}

/-- The part of a list that a slice shows. -/
def part (s : Slice) (l : List α) : List α :=
  match s.left with
  | none => l.drop s.toSkip
  | some n => (l.drop s.toSkip).take n

lemma isPatient : IsPatient Slice α α ε := ⟨fun _ => rfl, fun _ => rfl⟩

/-- A slice that shows anything shows its part. -/
lemma yields (s : Slice) (hs : s.left ≠ some 0) (l : List α) : Yields ε s l (s.part l) := by
  induction l generalizing s with
  | nil =>
    have hpart : s.part ([] : List α) = [] := by
      cases hleft : s.left <;> simp [part, hleft]
    rw [hpart]
    exact .finish rfl rfl
  | cons a l ih =>
    obtain ⟨toSkip, left⟩ := s
    cases toSkip with
    | succ n => exact .skip rfl rfl (ih ⟨n, left⟩ hs)
    | zero =>
      cases left with
      | none => exact .item rfl rfl (ih ⟨0, none⟩ hs)
      | some left =>
        match left with
        | 0 => exact absurd rfl hs
        | 1 => exact .last rfl rfl (.nothing rfl)
        | left + 2 => exact .item rfl rfl (ih ⟨0, some (left + 1)⟩ (by simp))

@[simp] lemma part_whole (l : List α) : (Slice.mk 0 none).part l = l := by
  rw [part, List.drop_zero]

lemma part_sublist (s : Slice) (l : List α) : (s.part l).Sublist l := by
  rw [part]
  cases s.left with
  | none => exact List.drop_sublist _ l
  | some n => exact (List.take_sublist n _).trans (List.drop_sublist _ l)

lemma part_map {β : Type} (s : Slice) (f : α → β) (l : List α) :
    s.part (l.map f) = (s.part l).map f := by
  rw [part, part]
  cases s.left with
  | none => rw [List.map_drop]
  | some n => rw [List.map_take, List.map_drop]

/-- Neighbours in a part are neighbours in the whole. -/
lemma isChain_part {R : α → α → Prop} (s : Slice) {l : List α} (h : l.IsChain R) :
    (s.part l).IsChain R := by
  rw [part]
  cases s.left with
  | none => exact h.drop _
  | some n => exact (h.drop _).take n

/-- How much a slice shows depends only on how much there is. -/
lemma length_part_congr (s : Slice) {l l' : List α} (h : l.length = l'.length) :
    (s.part l).length = (s.part l').length := by
  rw [part, part]
  cases s.left with
  | none => rw [List.length_drop, List.length_drop, h]
  | some n => rw [List.length_take, List.length_take, List.length_drop, List.length_drop, h]

lemma part_eq_nil {s : Slice} (hs : s.left = some 0) (l : List α) : s.part l = [] := by
  rw [part, hs]
  exact List.take_zero

end Slice

/-! ## Repetitions -/

/-- The first item of each key. -/
def firsts {α κ : Type} [BEq κ] (key : α → κ) (l : List α) : List α :=
  l.eraseDupsBy fun a b => key a == key b

section Firsts

variable {α κ κ' : Type} [BEq κ] [BEq κ'] {key : α → κ} {key' : α → κ'}

lemma firsts_cons (a : α) (l : List α) :
    firsts key (a :: l) = a :: firsts key (l.filter fun b => !(key b == key a)) := by
  have hfilter : (l.filter fun b => decide ((key b == key a) = false)) =
      l.filter fun b => !(key b == key a) := List.filter_congr fun b _ => by simp
  rw [firsts, List.eraseDupsBy_cons, hfilter, firsts]

lemma firsts_sublist (key : α → κ) (l : List α) : (firsts key l).Sublist l := by
  match l with
  | [] => exact .slnil
  | a :: l =>
    rw [firsts_cons]
    exact ((firsts_sublist key (l.filter fun b => !(key b == key a))).trans
      List.filter_sublist).cons_cons a
termination_by l.length
decreasing_by
  have hle := List.length_filter_le (fun b => !(key b == key a)) l
  simp only [List.length_cons]
  omega

/-- Keys that tell the same items apart have the same first items. -/
lemma firsts_congr [LawfulBEq κ] [LawfulBEq κ'] (l : List α)
    (h : ∀ a ∈ l, ∀ b ∈ l, key a = key b ↔ key' a = key' b) : firsts key l = firsts key' l := by
  match l with
  | [] => rfl
  | a :: l =>
    have hfilter : (l.filter fun b => !(key b == key a)) =
        l.filter fun b => !(key' b == key' a) := by
      refine List.filter_congr fun b hb => ?_
      have hiff := h b (List.mem_cons_of_mem a hb) a List.mem_cons_self
      rw [Bool.eq_iff_iff]
      simp [hiff]
    have hrest := firsts_congr (l.filter fun b => !(key b == key a)) fun b hb c hc =>
      h b (List.mem_cons_of_mem a (List.mem_filter.1 hb).1) c
        (List.mem_cons_of_mem a (List.mem_filter.1 hc).1)
    rw [firsts_cons, firsts_cons, hrest, hfilter]
termination_by l.length
decreasing_by
  have hle := List.length_filter_le (fun b => !(key b == key a)) l
  simp only [List.length_cons]
  omega

/-- Each key occurs once among the keys of the first items. -/
lemma map_firsts [LawfulBEq κ] (key : α → κ) (l : List α) :
    (firsts key l).map key = (l.map key).eraseDups := by
  match l with
  | [] => rfl
  | a :: l =>
    have hrest := map_firsts key (l.filter fun b => !(key b == key a))
    rw [firsts_cons, List.map_cons, hrest, List.map_cons, List.eraseDups_cons, List.filter_map]
    rfl
termination_by l.length
decreasing_by
  have hle := List.length_filter_le (fun b => !(key b == key a)) l
  simp only [List.length_cons]
  omega

end Firsts

section Reordered

variable {α κ : Type} [BEq κ] [LawfulBEq κ] {key : α → κ} {l l' : List α}

lemma eraseDups_perm {l l' : List κ} (h : l.Perm l') : l.eraseDups.Perm l'.eraseDups := by
  refine (List.perm_ext_iff_of_nodup (nodup_eraseDups l) (nodup_eraseDups l')).2 fun a => ?_
  rw [List.mem_eraseDups, List.mem_eraseDups, h.mem_iff]

/-- In another order, as many items are the first ones of their keys. -/
lemma length_firsts_perm (h : l.Perm l') : (firsts key l).length = (firsts key l').length := by
  have hkeys : ((firsts key l).map key).length = ((firsts key l').map key).length := by
    rw [map_firsts, map_firsts]
    exact (eraseDups_perm (h.map key)).length_eq
  rwa [List.length_map, List.length_map] at hkeys

/-- If different items have different keys, the same items are the first ones in another order. -/
lemma firsts_perm [DecidableEq α] (hkey : ∀ a ∈ l, ∀ b ∈ l, key a = key b → a = b)
    (h : l.Perm l') : (firsts key l).Perm (firsts key l') := by
  have hself : firsts key l = firsts id l :=
    firsts_congr l fun a ha b hb => ⟨hkey a ha b hb, congrArg key⟩
  have hother : firsts key l' = firsts id l' :=
    firsts_congr l' fun a ha b hb =>
      ⟨hkey a (h.mem_iff.2 ha) b (h.mem_iff.2 hb), congrArg key⟩
  rw [hself, hother]
  exact eraseDups_perm h

end Reordered

namespace Distinct

variable {α ε : Type}

lemma isPatient : IsPatient (Distinct α) α α ε := ⟨fun _ => rfl, fun _ => rfl⟩

/-- What is not remembered is shown once for each digest. -/
lemma yields_seen (key : α → String) (seen : List String) (l : List α) :
    Yields ε (Distinct.mk key seen) l
      (firsts (fun a => sha1 (key a)) (l.filter fun a => !seen.contains (sha1 (key a)))) := by
  induction l generalizing seen with
  | nil => exact .finish rfl rfl
  | cons a l ih =>
    cases hseen : seen.contains (sha1 (key a)) with
    | true =>
      rw [List.filter_cons_of_neg (by simp only [hseen]; simp)]
      refine .skip rfl ?_ (ih seen)
      show Distinct.react _ _ = _
      rw [react, accept, if_pos hseen]
    | false =>
      have hrest := ih (sha1 (key a) :: seen)
      have hfilter : (l.filter fun b => !(sha1 (key a) :: seen).contains (sha1 (key b))) =
          (l.filter fun b => !seen.contains (sha1 (key b))).filter
            fun b => !(sha1 (key b) == sha1 (key a)) := by
        rw [List.filter_filter]
        refine List.filter_congr fun b _ => ?_
        rw [List.contains_cons, Bool.not_or]
      rw [List.filter_cons_of_pos (by simp only [hseen]; rfl), firsts_cons, ← hfilter]
      refine .item rfl ?_ hrest
      show Distinct.react _ _ = _
      rw [react, accept, if_neg (by rw [hseen]; simp)]

/-- The first item of each digest is shown. -/
lemma yields (key : α → String) (l : List α) :
    Yields ε (Distinct.start key) l (firsts (fun a => sha1 (key a)) l) := by
  have hall := yields_seen (ε := ε) key [] l
  have hself : (l.filter fun a => !([] : List String).contains (sha1 (key a))) = l :=
    List.filter_eq_self.2 fun a _ => rfl
  rw [hself] at hall
  exact hall

/-- If no two keys have the same digest, the first item of each digest is the first of its key. -/
lemma firsts_digest {key : α → String} {l : List α}
    (h : ∀ a ∈ l, ∀ b ∈ l, sha1 (key a) = sha1 (key b) → key a = key b) :
    firsts (fun a => sha1 (key a)) l = firsts key l :=
  firsts_congr l fun a ha b hb => ⟨h a ha b hb, congrArg sha1⟩

end Distinct

/-! ## Operators that may be missing -/

section Missing

variable {σ α ε : Type} [Operator σ α α ε]

lemma embeds_some : Embeds α ε (some : σ → Option σ) := ⟨fun _ _ => rfl, fun _ _ => rfl⟩

lemma isPatient_option (h : IsPatient σ α α ε) : IsPatient (Option σ) α α ε where
  pending op := by
    cases op with
    | none => rfl
    | some op => rw [embeds_some.react, h.pending]; rfl
  again op := by
    cases op with
    | none => rfl
    | some op => rw [embeds_some.react, h.again]; rfl

/-- Without an operator everything passes. -/
lemma yields_none (l : List α) : Yields ε (none : Option σ) l l := by
  induction l with
  | nil => exact .finish rfl rfl
  | cons a l ih => exact .item rfl rfl ih

end Missing

/-! ## Projections and answers -/

lemma Projection.isPatient {ε : Type} : IsPatient Projection Binding Solution ε :=
  ⟨fun _ => rfl, fun _ => rfl⟩

lemma Projection.yields {ε : Type} (p : Projection) (l : List Binding) :
    Yields ε p l (l.map p.solution) := by
  induction l with
  | nil => exact .finish rfl rfl
  | cons b l ih => exact .item rfl rfl ih

lemma HasItem.isPatient {α ε : Type} : IsPatient HasItem α Bool ε := ⟨fun _ => rfl, fun _ => rfl⟩

lemma HasItem.yields {α ε : Type} (l : List α) : Yields ε HasItem.mk l [!l.isEmpty] := by
  cases l with
  | nil => exact .answer rfl rfl (.nothing rfl)
  | cons a l => exact .last rfl rfl (.nothing rfl)

/-! ## Orders -/

namespace Sorter

variable {α ε : Type}

lemma isPatient : IsPatient (Sorter α) α α ε := ⟨fun _ => rfl, fun _ => rfl⟩

/-- After its input has ended a sorter shows what it holds. -/
lemma drains (cmp : α → α → Ordering) (window : Window) (held : List α) :
    Drains α ε (Sorter.mk cmp window held) held := by
  induction held with
  | nil => exact .finish rfl
  | cons a held ih => exact .item rfl ih

/-- What a sorter shows of what it holds and of its input.  A full buffer shows its first item
before it takes another one, and what it holds in the end comes last. -/
def shown (cmp : α → α → Ordering) (window : Window) (held l : List α) : List α :=
  if (Sorter.mk cmp window held).isFull then
    match held with
    | [] => []
    | a :: held => a :: shown cmp window held l
  else
    match l with
    | [] => held
    | a :: l => shown cmp window ((Sorter.mk cmp window held).insert a).held l
termination_by (l.length, held.length)

lemma idle_full {cmp : α → α → Ordering} {window : Window} {a : α} {held : List α}
    (hfull : (Sorter.mk cmp window (a :: held)).isFull = true) :
    ((Sorter.mk cmp window (a :: held)).idle true : Option (Reaction (Sorter α) α ε)) =
      some (.keep ⟨cmp, window, held⟩ (.item a)) := by
  rw [Sorter.idle, hfull]
  rfl

lemma idle_not_full {s : Sorter α} (hfull : ¬s.isFull = true) :
    (s.idle true : Option (Reaction (Sorter α) α ε)) = none := by
  rw [Sorter.idle, Bool.eq_false_iff.2 hfull]
  rfl

lemma yields_shown (cmp : α → α → Ordering) (window : Window) (held l : List α) :
    Yields ε (Sorter.mk cmp window held) l (shown cmp window held l) := by
  fun_induction shown cmp window held l with
  | case1 l hfull => rw [isFull_of_held_eq_nil rfl] at hfull; cases hfull
  | case2 l a held hfull ih => exact .own (idle_full hfull) ih
  | case3 held hfull => exact .drain (idle_not_full hfull) rfl (drains cmp window held)
  | case4 held hfull a l ih => exact .skip (idle_not_full hfull) rfl ih

/-- However it compares and whatever its window is, a sorter loses nothing. -/
lemma shown_perm (cmp : α → α → Ordering) (window : Window) (held l : List α) :
    (shown cmp window held l).Perm (held ++ l) := by
  fun_induction shown cmp window held l with
  | case1 l hfull => rw [isFull_of_held_eq_nil rfl] at hfull; cases hfull
  | case2 l a held hfull ih => exact ih.cons a
  | case3 held hfull => rw [List.append_nil]
  | case4 held hfull a l ih =>
    exact ih.trans (((held_insert_perm _ a).append_right l).trans List.perm_middle.symm)

/-- Without a window a sorter shows nothing before its input has ended. -/
lemma shown_none (cmp : α → α → Ordering) (held l : List α) :
    shown cmp none held l = (l.foldl insert ⟨cmp, none, held⟩).held := by
  have hfull : ∀ held, ¬(Sorter.mk cmp none held).isFull = true := fun _ => Bool.false_ne_true
  induction l generalizing held with
  | nil =>
    rw [shown.eq_def, if_neg (hfull held)]
    rfl
  | cons a l ih =>
    rw [shown.eq_def, if_neg (hfull held)]
    exact ih _

/-- Without a window a sorter shows the stable sort of its input. -/
lemma stablySorted_shown {cmp : α → α → Ordering} {l : List α} (h : TotalPreorderOn cmp l) :
    StablySorted cmp l (shown cmp none [] l) := by
  obtain ⟨held, hheld, hsorted⟩ := stablySorted_foldl none h
  rw [start] at hheld
  rw [shown_none, hheld]
  exact hsorted

/-- Without a window a sorter shows neighbours in order, as far as the comparison is reversed when
its arguments are. -/
lemma isChain_shown {cmp : α → α → Ordering} (hswap : ∀ a b, cmp b a = (cmp a b).swap)
    (l : List α) : (shown cmp none [] l).IsChain fun a b => cmp a b ≠ .gt := by
  rw [shown_none]
  exact isChain_foldl ⟨cmp, none, []⟩ hswap l .nil

end Sorter

/-! ## Templates -/

namespace Template

variable {ε : Type}

lemma isPatient : IsPatient Template Binding Triple ε := ⟨fun _ => rfl, fun _ => rfl⟩

/-- The triples that a template makes of bindings, of which the first one is number `i`. -/
def instances (t : Template) (i : Nat) (l : List Binding) : List Triple :=
  (l.mapIdx fun j b => t.patterns.filterMap <|
    triple? b fun n => t.supply ((i + j) * t.nodes.length + t.nodes.idxOf n)).flatten

/-- A pattern makes a triple of the values at its positions. -/
lemma triple?_eq_some {b : Binding} {rename : BlankNode → BlankNode} {p : TriplePattern}
    {x : Triple} : triple? b rename p = some x ↔
      value? b rename p.subject = some x.subject.toTerm ∧
        predicate? b p.predicate = some x.predicate ∧ value? b rename p.object = some x.object := by
  obtain ⟨s, i, o⟩ := x
  simp only [triple?, Option.bind_eq_bind, Option.bind_eq_some_iff, Option.some.injEq,
    Triple.mk.injEq, Term.toSubject?_eq_some]
  constructor
  · rintro ⟨_, hs, _, rfl, _, hi, _, ho, rfl, rfl, rfl⟩
    exact ⟨hs, hi, ho⟩
  · rintro ⟨hs, hi, ho⟩
    exact ⟨_, hs, s, rfl, i, hi, o, ho, rfl, rfl, rfl⟩

lemma mem_instances {t : Template} {i : Nat} {l : List Binding} {x : Triple} :
    x ∈ t.instances i l ↔ ∃ (j : Nat) (h : j < l.length), ∃ p ∈ t.patterns,
      triple? l[j] (fun n => t.supply ((i + j) * t.nodes.length + t.nodes.idxOf n)) p = some x := by
  rw [instances, List.mem_flatten]
  constructor
  · rintro ⟨made, hmade, hx⟩
    obtain ⟨j, hj, rfl⟩ := List.mem_mapIdx.1 hmade
    exact ⟨j, hj, List.mem_filterMap.1 hx⟩
  · rintro ⟨j, hj, hx⟩
    exact ⟨_, List.mem_mapIdx.2 ⟨j, hj, rfl⟩, List.mem_filterMap.2 hx⟩

/-- A template shows what is ready before it takes a binding. -/
lemma yields_ready (t : Template) (ready : List Triple) {l : List Binding} {ts : List Triple}
    (h : Yields ε { t with ready := [] } l ts) :
    Yields ε { t with ready := ready } l (ready ++ ts) := by
  induction ready with
  | nil => exact h
  | cons x ready ih => exact .own rfl ih

lemma instances_cons (t : Template) (i : Nat) (hused : t.used = i * t.nodes.length) (b : Binding)
    (l : List Binding) :
    t.instances i (b :: l) = (t.instantiate b).ready ++ (t.instantiate b).instances (i + 1) l := by
  have hrename : (fun n => t.supply ((i + 0) * t.nodes.length + t.nodes.idxOf n)) = t.rename := by
    funext n
    rw [rename, hused, Nat.add_zero]
  have hshift : ∀ j, i + 1 + j = i + (j + 1) := fun j => by omega
  rw [instances, List.mapIdx_cons, List.flatten_cons, hrename, instances]
  simp only [hshift]
  rfl

/-- A template shows what is ready, and then the triples of one binding after another. -/
lemma yields_instances (t : Template) (i : Nat) (hused : t.used = i * t.nodes.length)
    (l : List Binding) : Yields ε t l (t.ready ++ t.instances i l) := by
  induction l generalizing t i with
  | nil => exact yields_ready t t.ready (.finish rfl rfl)
  | cons b l ih =>
    have hused' : (t.instantiate b).used = (i + 1) * (t.instantiate b).nodes.length := by
      show t.used + t.nodes.length = (i + 1) * t.nodes.length
      rw [hused, Nat.succ_mul]
    rw [instances_cons t i hused]
    exact yields_ready t t.ready (.skip rfl rfl (ih (t.instantiate b) (i + 1) hused'))

end Template

end SparqlStream
