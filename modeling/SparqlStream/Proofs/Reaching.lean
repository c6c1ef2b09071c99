import Mathlib.Tactic
import SparqlStream.Proofs.Spent

/-!
# Leaves that are reached

Whoever reads a leaf reaches it, and whoever reads a branch reaches what is below its hub.  As long
as no leaf is forgotten, so that every leaf that is there is read by an end or by a stage below a
hub (`Supply.Carries`), every one of them is reached from an end: a hub with a stage below it has a
live branch, and going from branch to branch leads to higher and higher hubs
(`Supply.Carries.reaches`).

A spent stage reaches no source (`Stage.IsSpent.not_reaches`).
-/

namespace SparqlStream

variable {α ε : Type}

namespace Supply

variable {μ : Type} {S S' : Supply α ε μ} {ls ls' before after : List Leaf} {l : Leaf}

/-- Whoever reads some leaves reaches a leaf, at once or through hubs with live branches. -/
inductive Reaches (S : Supply α ε μ) : List Leaf → Leaf → Prop
  | leaf {ls : List Leaf} {l : Leaf} : l ∈ ls → Reaches S ls l
  | through {ls : List Leaf} {l : Leaf} {k slot position : Nat} {h : Hub α (Stage α μ)} :
    .branch k slot ∈ ls → S.hubs[k]? = some h → h.position? slot = some position →
      Reaches S h.inputLeaves l → Reaches S ls l

/-- The leaves below the hub of a branch that is reached are reached. -/
lemma Reaches.extend {k slot position : Nat} {h : Hub α (Stage α μ)}
    (hreach : S.Reaches ls (.branch k slot)) (hh : S.hubs[k]? = some h)
    (hp : h.position? slot = some position) (hl : l ∈ h.inputLeaves) : S.Reaches ls l := by
  generalize hbranch : Leaf.branch k slot = b at hreach
  induction hreach with
  | leaf hmem =>
    subst hbranch
    exact .through hmem hh hp (.leaf hl)
  | through hmem hh' hp' _ ih => exact .through hmem hh' hp' (ih hbranch)

/-- The hubs of a plant are layered, and every leaf that is there is one of the given leaves or is
read by a stage below a hub. -/
structure Carries (S : Supply α ε μ) (ls : List Leaf) : Prop where
  layered : S.Layered
  below : ∀ l ∈ ls, l.Below S.hubs.length
  cover : ∀ l, S.Present l → l ∈ ls ∨ l ∈ S.inputLeaves S.hubs.length

lemma Carries.congr (h : S.Carries ls) (hmem : ∀ l, l ∈ ls' ↔ l ∈ ls) : S.Carries ls' where
  layered := h.layered
  below l hl := h.below l ((hmem l).1 hl)
  cover l hl := (h.cover l hl).imp_left (hmem l).2

/-- Something is done to a stage that reads some of the leaves. -/
lemma Carries.frame (h : S.Carries (ls ++ after)) (hframe : Frame S.hubs.length S S' ls ls') :
    S'.Carries (ls' ++ after) := by
  have hall := hframe.among [] after
  refine ⟨hall.layered, fun l hl => ?_, fun l hl => ?_⟩
  · rw [hall.length]
    exact h.below l (hall.subset hl)
  · rw [hall.length]
    exact hall.kept l hl (h.cover l (hall.ages.present l hl))

/-- Leaves that are read below a hub need not be kept in mind. -/
lemma Carries.forget (h : S.Carries (ls ++ after)) (hin : ls ⊆ S.inputLeaves S.hubs.length) :
    S.Carries after where
  layered := h.layered
  below l hl := h.below l (List.mem_append_right _ hl)
  cover l hl := by
    rcases h.cover l hl with hmem | hmem
    · rcases List.mem_append.1 hmem with hmem | hmem
      · exact .inr (hin hmem)
      · exact .inl hmem
    · exact .inr hmem

lemma Carries.addSource (h : S.Carries ls) (s : Source α ε) :
    (⟨S.sources ++ [s], S.hubs⟩ : Supply α ε μ).Carries (ls ++ [.source S.sources.length]) where
  layered := h.layered
  below l hl := by
    rcases List.mem_append.1 hl with hl | hl
    · exact h.below l hl
    · obtain rfl := List.mem_singleton.1 hl
      trivial
  cover l hl := by
    cases l with
    | branch k slot =>
      exact (h.cover (.branch k slot) hl).imp_left (List.mem_append_left _)
    | source id =>
      obtain ⟨t, ht, hlive⟩ := hl
      rcases Nat.lt_or_ge id S.sources.length with hlt | hge
      · rw [List.getElem?_append_left hlt] at ht
        exact (h.cover (.source id) ⟨t, ht, hlive⟩).imp_left (List.mem_append_left _)
      · obtain ⟨hlt, -⟩ := List.getElem?_eq_some_iff.1 ht
        rw [List.length_append, List.length_singleton] at hlt
        obtain rfl : id = S.sources.length := by omega
        exact .inl (List.mem_append_right _ List.mem_cons_self)

/-- The branches of a new hub are leaves, and the leaves of its input are now read below it. -/
lemma Carries.addHub {input : Stage α μ} (h : S.Carries ls) (hinput : input.leaves ⊆ ls)
    (count : Nat) :
    (S.addHub input count).Carries (ls ++ branchesFrom S.hubs.length 0 count) where
  layered := h.layered.addHub (fun l hl => h.below l (hinput hl)) count
  below l hl := by
    rw [Supply.addHub, List.length_append, List.length_singleton]
    rcases List.mem_append.1 hl with hl | hl
    · exact (h.below l hl).mono (Nat.le_succ _)
    · obtain ⟨slot, -, rfl⟩ := List.mem_map.1 hl
      exact Nat.lt_succ_self _
  cover l hl := by
    have hold : S.Present l → l ∈ ls ++ branchesFrom S.hubs.length 0 count ∨
        l ∈ (S.addHub input count).inputLeaves (S.addHub input count).hubs.length := by
      intro hpresent
      rcases h.cover l hpresent with hmem | hmem
      · exact .inl (List.mem_append_left _ hmem)
      · obtain ⟨k, hub, hk, hhub, hin⟩ := mem_inputLeaves.1 hmem
        refine .inr (mem_inputLeaves_of (k := k) (h := hub) ?_ ?_ hin)
        · rw [Supply.addHub, List.length_append]
          omega
        · rwa [Supply.addHub, List.getElem?_append_left hk]
    cases l with
    | source id => exact hold hl
    | branch k slot =>
      obtain ⟨hub, position, hhub, hp⟩ := hl
      rcases Nat.lt_or_ge k S.hubs.length with hlt | hge
      · rw [Supply.addHub, List.getElem?_append_left hlt] at hhub
        exact hold ⟨hub, position, hhub, hp⟩
      · obtain ⟨hlt, -⟩ := List.getElem?_eq_some_iff.1 hhub
        rw [Supply.addHub, List.length_append, List.length_singleton] at hlt
        obtain rfl : k = S.hubs.length := by omega
        obtain rfl := Option.some.inj (getElem?_addHub.symm.trans hhub)
        rw [Hub.position?_start] at hp
        split at hp
        case isFalse => cases hp
        case isTrue hslot =>
          refine .inl (List.mem_append_right _ (List.mem_map.2 ⟨slot, ?_, rfl⟩))
          rw [List.mem_range']
          exact ⟨slot, hslot, by omega⟩

/-- A branch that is there is reached.  The hub above it has a live branch as well. -/
lemma Carries.reaches_branch (h : S.Carries ls) (d : Nat) {k slot : Nat}
    (hd : S.hubs.length ≤ k + d) (hpresent : S.Present (.branch k slot)) :
    S.Reaches ls (.branch k slot) := by
  induction d generalizing k slot with
  | zero =>
    obtain ⟨hub, -, hhub, -⟩ := hpresent
    obtain ⟨hlt, -⟩ := List.getElem?_eq_some_iff.1 hhub
    omega
  | succ d ih =>
    rcases h.cover _ hpresent with hmem | hmem
    · exact .leaf hmem
    · obtain ⟨j, hub, hj, hhub, hin⟩ := mem_inputLeaves.1 hmem
      have horderly := h.layered j hub hhub
      have hlt : k < j := horderly.below _ hin
      obtain ⟨i, position, hp⟩ := horderly.attended fun hnone => by
        rw [Hub.inputLeaves_of_none hnone] at hin
        cases hin
      exact (ih (by omega) ⟨hub, position, hhub, hp⟩).extend hhub hp hin

/-- Every leaf that is there is reached. -/
theorem Carries.reaches (h : S.Carries ls) (hpresent : S.Present l) : S.Reaches ls l := by
  rcases h.cover l hpresent with hmem | hmem
  · exact .leaf hmem
  · obtain ⟨k, hub, hk, hhub, hin⟩ := mem_inputLeaves.1 hmem
    obtain ⟨slot, position, hp⟩ := (h.layered k hub hhub).attended fun hnone => by
      rw [Hub.inputLeaves_of_none hnone] at hin
      cases hin
    exact (h.reaches_branch S.hubs.length (Nat.le_add_left _ _) ⟨hub, position, hhub, hp⟩).extend
      hhub hp hin

/-- What several read together is reached by one of them. -/
lemma Reaches.exists_of_flatMap {β : Type} {l : List β} {f : β → List Leaf} {leaf : Leaf}
    (hreach : S.Reaches (l.flatMap f) leaf) : ∃ b ∈ l, S.Reaches (f b) leaf := by
  cases hreach with
  | leaf hmem =>
    obtain ⟨b, hb, hmem⟩ := List.mem_flatMap.1 hmem
    exact ⟨b, hb, .leaf hmem⟩
  | through hmem hh hp hreach =>
    obtain ⟨b, hb, hmem⟩ := List.mem_flatMap.1 hmem
    exact ⟨b, hb, .through hmem hh hp hreach⟩

end Supply

/-- A spent stage reaches no source. -/
lemma Stage.IsSpent.not_reaches {S : Supply α ε Empty} {s : Stage α Empty} (hs : s.IsSpent S)
    (id : Nat) : ¬ S.Reaches s.leaves (.source id) := by
  intro hreach
  cases s with
  | source id => exact hs
  | operator op input => exact hs
  | drained op =>
    cases hreach with
    | leaf hmem => cases hmem
    | through hmem _ _ _ => cases hmem
  | union inputs round =>
    obtain rfl := hs
    cases hreach with
    | leaf hmem => cases hmem
    | through hmem _ _ _ => cases hmem
  | branch k slot =>
    cases hreach with
    | leaf hmem =>
      rw [Stage.leaves, List.mem_singleton] at hmem
      cases hmem
    | through hmem hh hp hreach =>
      rw [Stage.leaves, List.mem_singleton] at hmem
      cases hmem
      rw [Hub.inputLeaves_of_none (hs _ hh _ hp).1] at hreach
      cases hreach with
      | leaf hmem => cases hmem
      | through hmem _ _ _ => cases hmem

end SparqlStream
