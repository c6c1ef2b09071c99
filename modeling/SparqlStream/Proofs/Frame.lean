import Mathlib.Tactic
import SparqlStream.Proofs.Supply

/-!
# What a change of a plant leaves alone

Whatever is done to a stage is done to its leaves, and to what lies below their hubs.
`Supply.Frame` says so, in terms of the leaves that the stage reads before and after the change.
It holds for every plant whose hubs are layered, with any sources and any operators: the hubs from
the level of the stage on are untouched, no leaf comes to life, nothing comes from a leaf to which
nothing more was to come, and a leaf that is still there has not been forgotten.

Changes that follow each other compose (`Frame.trans`), and so do changes below a hub and a change
of the hub itself (`Frame.through_hub`).
-/

namespace SparqlStream

/-! ## Hubs that get older -/

namespace Hub

section Ages

variable {α ι : Type} {h h' : Hub α ι} {slot position : Nat}

/-- Nothing more comes from a branch.  Unless it has been dropped, the hub has let go of its input
and the branch has read the buffer. -/
def Spent (h : Hub α ι) (slot : Nat) : Prop :=
  ∀ p, h.position? slot = some p → h.input = none ∧ h.unread p = []

/-- A hub gets older: no branch comes to life, and a branch that is spent stays so. -/
structure Ages (h h' : Hub α ι) : Prop where
  live : ∀ i p, h'.position? i = some p → ∃ q, h.position? i = some q
  spent : ∀ i, h.Spent i → h'.Spent i

/-- As long as a hub has an input, no live branch is spent. -/
lemma Ages.of_input (hin : h.input ≠ none)
    (hlive : ∀ i p, h'.position? i = some p → ∃ q, h.position? i = some q) : h.Ages h' where
  live := hlive
  spent i hspent p hp := by
    obtain ⟨q, hq⟩ := hlive i p hp
    exact absurd (hspent q hq).1 hin

/-- A branch that moves on was live before. -/
lemma live_of_moved {x : Nat} (hp : h.position? slot = some position)
    (hmoved : ∀ i, h'.position? i = if i = slot then some x else h.position? i) (i p : Nat)
    (hi : h'.position? i = some p) : ∃ q, h.position? i = some q := by
  rw [hmoved] at hi
  by_cases heq : i = slot
  · subst heq
    exact ⟨position, hp⟩
  · rw [if_neg heq] at hi
    exact ⟨p, hi⟩

lemma ages_advance (hb : h.InBounds) (hp : h.position? slot = some position) {a : α}
    (ha : h.itemAt? position = some a) : h.Ages (h.advance slot position) where
  live := live_of_moved hp (advance_position? hp)
  spent i hspent p hi := by
    have hle := (hb.of_position? hp).1
    have hlt := lt_of_itemAt?_eq_some hle ha
    have hread := advance_unread hb hp hlt hi
    rw [advance_position? hp] at hi
    by_cases heq : i = slot
    · -- The branch that reads had something to read.
      subst heq
      have hnil := (hspent position hp).2
      rw [unread_eq_cons hle ha] at hnil
      cases hnil
    · rw [if_neg heq] at hi
      rw [advance_input hp, hread]
      exact hspent p hi

lemma ages_drop (hb : h.InBounds) : h.Ages ((h.drop slot).forgetOthers slot) where
  live i p hi := by
    rw [forgetOthers_position?, drop_position?] at hi
    by_cases heq : i = slot
    · rw [if_pos heq] at hi
      cases hi
    · rw [if_neg heq] at hi
      exact ⟨p, hi⟩
  spent i hspent p hi := by
    rw [forgetOthers_position?] at hi
    rw [forgetOthers_input, forgetOthers_unread, drop_unread hb hi]
    rw [drop_position?] at hi
    by_cases heq : i = slot
    · rw [if_pos heq] at hi
      cases hi
    · rw [if_neg heq] at hi
      obtain ⟨hin, hread⟩ := hspent p hi
      refine ⟨?_, hread⟩
      rcases drop_input_cases h slot with hsame | ⟨hnone, -⟩
      · rw [hsame, hin]
      · exact hnone

lemma ages_ended : h.Ages (h.ended slot) where
  live _ p hi := ⟨p, hi⟩
  spent _ hspent p hi := ⟨rfl, (hspent p hi).2⟩

end Ages

variable {α μ : Type} {h h' : Hub α (Stage α μ)} {k slot : Nat}

/-- A hub that is at its place: its branches are within the buffer, somebody reads what it lets
through, and the stage below reads from hubs of lower levels only. -/
structure IsOrderly (h : Hub α (Stage α μ)) (k : Nat) : Prop where
  inBounds : h.InBounds
  attended : h.input ≠ none → ∃ slot p, h.position? slot = some p
  below : ∀ l ∈ h.inputLeaves, l.Below k

lemma inputLeaves_of_some {below : Stage α μ} (hin : h.input = some below) :
    h.inputLeaves = below.leaves := by
  rw [inputLeaves, hin]
  rfl

lemma inputLeaves_of_none (hin : h.input = none) : h.inputLeaves = [] := by
  rw [inputLeaves, hin]
  rfl

/-- A hub whose branches have read nothing. -/
lemma isOrderly_start {input : Stage α μ} (hbelow : ∀ l ∈ input.leaves, l.Below k) (count : Nat) :
    (start input count : Hub α (Stage α μ)).IsOrderly k where
  inBounds := (retains_start input count).inBounds
  attended hne := by
    have hcount : count ≠ 0 := fun hzero => hne (if_pos hzero)
    exact ⟨0, 0, by rw [position?_start, if_pos (Nat.pos_of_ne_zero hcount)]⟩
  below l hl := by
    by_cases hcount : count = 0
    · rw [inputLeaves_of_none (if_pos hcount)] at hl
      cases hl
    · rw [inputLeaves_of_some (if_neg hcount)] at hl
      exact hbelow l hl

/-- A branch that leaves a hub leaves it at its place. -/
lemma IsOrderly.drop (h₀ : h.IsOrderly k) : ((h.drop slot).forgetOthers slot).IsOrderly k where
  inBounds := drop_inBounds h₀.inBounds
  attended hne := by
    rw [forgetOthers_input] at hne
    by_contra hdead
    have hnone : (h.drop slot).livePositions = [] := by
      rw [List.eq_nil_iff_forall_not_mem]
      intro p hp
      obtain ⟨i, hi⟩ := mem_livePositions.1 hp
      exact hdead ⟨i, p, hi⟩
    rw [Hub.drop, trim_livePositions] at hnone
    rw [Hub.drop, trim_of_dead hnone] at hne
    exact hne rfl
  below l hl := by
    rcases drop_input_cases h slot with hin | ⟨hin, -⟩
    · rw [inputLeaves_of_input (h := h) (by rw [forgetOthers_input, hin])] at hl
      exact h₀.below l hl
    · rw [inputLeaves_of_none (by rw [forgetOthers_input, hin])] at hl
      cases hl

lemma IsOrderly.ended (h₀ : h.IsOrderly k) : (h.ended slot).IsOrderly k where
  inBounds := h₀.inBounds
  attended hne := absurd rfl hne
  below l hl := by cases hl

end Hub

/-! ## Supplies that get older -/

namespace Supply

variable {α ε μ : Type} {S S' S₁ S₂ : Supply α ε μ} {n k slot : Nat} {h h' : Hub α (Stage α μ)}
  {ls ls' ls₁ ls₂ others : List Leaf} {l : Leaf}

/-- Each hub of a plant is at its place. -/
def Layered (S : Supply α ε μ) : Prop :=
  ∀ k (h : Hub α (Stage α μ)), S.hubs[k]? = some h → h.IsOrderly k

/-- Nothing more comes from a leaf. -/
def Exhausted (S : Supply α ε μ) : Leaf → Prop
  | .source id => ∀ s, S.sources[id]? = some s → s.cells = [] ∧ s.closed = true
  | .branch k slot => ∀ h, S.hubs[k]? = some h → h.Spent slot

/-- A plant gets older: no leaf comes to life, and nothing comes from a leaf that is exhausted. -/
structure Ages (S S' : Supply α ε μ) : Prop where
  present : ∀ l, S'.Present l → S.Present l
  exhausted : ∀ l, S.Exhausted l → S'.Exhausted l

lemma Ages.refl (S : Supply α ε μ) : S.Ages S := ⟨fun _ => id, fun _ => id⟩

lemma Ages.trans (h : S.Ages S₁) (h' : S₁.Ages S₂) : S.Ages S₂ where
  present l hl := h.present l (h'.present l hl)
  exhausted l hl := h'.exhausted l (h.exhausted l hl)

lemma ages_setHub (hh : S.hubs[k]? = some h) (hages : h.Ages h') : S.Ages (S.setHub k h') where
  present l hl := by
    cases l with
    | source id => exact hl
    | branch j i =>
      obtain ⟨hub, p, hhub, hp⟩ := hl
      by_cases hj : j = k
      · subst hj
        obtain rfl := Option.some.inj ((getElem?_setHub_self hh).symm.trans hhub)
        obtain ⟨q, hq⟩ := hages.live i p hp
        exact ⟨h, q, hh, hq⟩
      · exact ⟨hub, p, by rwa [getElem?_setHub_ne hj] at hhub, hp⟩
  exhausted l hl := by
    cases l with
    | source id => exact hl
    | branch j i =>
      intro hub hhub
      by_cases hj : j = k
      · subst hj
        obtain rfl := Option.some.inj ((getElem?_setHub_self hh).symm.trans hhub)
        exact hages.spent i (hl h hh)
      · exact hl hub (by rwa [getElem?_setHub_ne hj] at hhub)

lemma getElem?_setSource_self {id : Nat} {s s' : Source α ε} (hs : S.sources[id]? = some s) :
    (S.setSource id s').sources[id]? = some s' := by
  obtain ⟨hlt, -⟩ := List.getElem?_eq_some_iff.1 hs
  exact List.getElem?_set_self hlt

lemma ages_setSource {id : Nat} {s s' : Source α ε} (hs : S.sources[id]? = some s)
    (hlive : s'.isLive = true → s.isLive = true)
    (hcells : s.cells = [] → s.closed = true → s'.cells = [] ∧ s'.closed = true) :
    S.Ages (S.setSource id s') where
  present l hl := by
    cases l with
    | branch j i => exact hl
    | source i =>
      obtain ⟨t, ht, htlive⟩ := hl
      by_cases hi : id = i
      · subst hi
        obtain rfl := Option.some.inj ((getElem?_setSource_self hs).symm.trans ht)
        exact ⟨s, hs, hlive htlive⟩
      · exact ⟨t, by rwa [setSource, List.getElem?_set_ne hi] at ht, htlive⟩
  exhausted l hl := by
    cases l with
    | branch j i => exact hl
    | source i =>
      intro t ht
      by_cases hi : id = i
      · subst hi
        obtain rfl := Option.some.inj ((getElem?_setSource_self hs).symm.trans ht)
        exact hcells (hl s hs).1 (hl s hs).2
      · exact hl t (by rwa [setSource, List.getElem?_set_ne hi] at ht)

lemma Layered.setHub (hS : S.Layered) (horderly : h'.IsOrderly k) : (S.setHub k h').Layered := by
  intro j hub hhub
  by_cases hj : j = k
  · subst hj
    obtain ⟨hlt, -⟩ := List.getElem?_eq_some_iff.1 hhub
    rw [Supply.setHub, List.length_set] at hlt
    rw [Supply.setHub, List.getElem?_set_self hlt] at hhub
    obtain rfl := Option.some.inj hhub
    exact horderly
  · exact hS j hub (by rwa [getElem?_setHub_ne hj] at hhub)

lemma Layered.addHub (hS : S.Layered) {input : Stage α μ}
    (hbelow : ∀ l ∈ input.leaves, l.Below S.hubs.length) (count : Nat) :
    (S.addHub input count).Layered := by
  intro k hub hhub
  rcases Nat.lt_or_ge k S.hubs.length with hlt | hge
  · rw [Supply.addHub, List.getElem?_append_left hlt] at hhub
    exact hS k hub hhub
  · obtain rfl : k = S.hubs.length := by
      obtain ⟨hlt, -⟩ := List.getElem?_eq_some_iff.1 hhub
      rw [Supply.addHub, List.length_append, List.length_singleton] at hlt
      omega
    obtain rfl := Option.some.inj (getElem?_addHub.symm.trans hhub)
    exact Hub.isOrderly_start hbelow count

lemma mem_inputLeaves_of (hk : k < n) (hh : S.hubs[k]? = some h) (hl : l ∈ h.inputLeaves) :
    l ∈ S.inputLeaves n :=
  mem_inputLeaves.2 ⟨k, h, hk, hh, hl⟩

/-! ## Frames -/

/-- What is done to a stage that reads some leaves and then reads others. -/
structure Frame (n : Nat) (S S' : Supply α ε μ) (ls ls' : List Leaf) : Prop where
  layered : S'.Layered
  length : S'.hubs.length = S.hubs.length
  beyond : ∀ k, n ≤ k → S'.hubs[k]? = S.hubs[k]?
  ages : S.Ages S'
  subset : ls' ⊆ ls
  kept : ∀ l, S'.Present l → l ∈ ls ∨ l ∈ S.inputLeaves n → l ∈ ls' ∨ l ∈ S'.inputLeaves n

lemma Frame.refl (hS : S.Layered) (n : Nat) (ls : List Leaf) : Frame n S S ls ls where
  layered := hS
  length := rfl
  beyond _ _ := rfl
  ages := .refl S
  subset := List.Subset.refl ls
  kept _ _ hl := hl

lemma Frame.trans (h : Frame n S S₁ ls ls₁) (h' : Frame n S₁ S₂ ls₁ ls₂) :
    Frame n S S₂ ls ls₂ where
  layered := h'.layered
  length := h'.length.trans h.length
  beyond k hk := (h'.beyond k hk).trans (h.beyond k hk)
  ages := h.ages.trans h'.ages
  subset := List.Subset.trans h'.subset h.subset
  kept l hl hmem := h'.kept l hl (h.kept l (h'.ages.present l hl) hmem)

/-- Whoever reads other leaves as well still reads them. -/
lemma Frame.among (h : Frame n S S' ls ls') (before after : List Leaf) :
    Frame n S S' (before ++ (ls ++ after)) (before ++ (ls' ++ after)) where
  layered := h.layered
  length := h.length
  beyond := h.beyond
  ages := h.ages
  subset l hl := by
    simp only [List.mem_append] at hl ⊢
    rcases hl with hl | hl | hl
    · exact .inl hl
    · exact .inr (.inl (h.subset hl))
    · exact .inr (.inr hl)
  kept l hl hmem := by
    have hkept := h.kept l hl
    simp only [List.mem_append] at hmem ⊢
    tauto

/-- A source changes, and nobody reads it any more if it has been dropped. -/
lemma Frame.setSource {id : Nat} {s s' : Source α ε} (hS : S.Layered)
    (hs : S.sources[id]? = some s) (hlive : s'.isLive = true → s.isLive = true)
    (hcells : s.cells = [] → s.closed = true → s'.cells = [] ∧ s'.closed = true)
    (hls : ls' ⊆ [.source id]) (hkept : s'.isLive = true → .source id ∈ ls') :
    Frame n S (S.setSource id s') [.source id] ls' where
  layered := hS
  length := rfl
  beyond _ _ := rfl
  ages := ages_setSource hs hlive hcells
  subset := hls
  kept l hl hmem := by
    rcases hmem with hmem | hmem
    · rw [List.mem_singleton] at hmem
      subst hmem
      obtain ⟨t, ht, htlive⟩ := hl
      obtain rfl := Option.some.inj ((getElem?_setSource_self hs).symm.trans ht)
      exact .inl (hkept htlive)
    · exact .inr hmem

/-- A branch reads its hub or leaves it.  First something may happen below the hub, then the hub
changes, and then the hub may let go of what was below it. -/
lemma Frame.through_hub (hk : k < n) (hh : S.hubs[k]? = some h)
    (hbefore : Frame k S S₁ h.inputLeaves ls₁) (horderly : h'.IsOrderly k) (hages : h.Ages h')
    (hcover : ls₁ ⊆ h'.inputLeaves ++ ls₂) (hafter : Frame k (S₁.setHub k h') S' ls₂ [])
    (hls : ls' ⊆ [.branch k slot])
    (hkept : ∀ p, h'.position? slot = some p → .branch k slot ∈ ls') :
    Frame n S S' [.branch k slot] ls' := by
  have hh₁ : S₁.hubs[k]? = some h := by rw [hbefore.beyond k le_rfl, hh]
  have hh' : S'.hubs[k]? = some h' := by rw [hafter.beyond k le_rfl, getElem?_setHub_self hh₁]
  have hbeyond : ∀ j, k < j → S'.hubs[j]? = S.hubs[j]? := by
    intro j hj
    rw [hafter.beyond j hj.le, getElem?_setHub_ne hj.ne', hbefore.beyond j hj.le]
  have hages' : S₁.Ages S' := (ages_setHub hh₁ hages).trans hafter.ages
  -- A leaf from below the hub is now read there, or it has been let go of.
  have hbelow : ∀ l, S'.Present l → l ∈ h.inputLeaves ∨ l ∈ S.inputLeaves k →
      l ∈ S'.inputLeaves n := by
    intro l hl hmem
    have hset : l ∈ ls₂ ∨ l ∈ (S₁.setHub k h').inputLeaves k → l ∈ S'.inputLeaves n := by
      intro hmem
      obtain ⟨j, hub, hj, hhub, hin⟩ :=
        mem_inputLeaves.1 ((hafter.kept l hl hmem).resolve_left List.not_mem_nil)
      exact mem_inputLeaves_of (hj.trans hk) hhub hin
    rcases hbefore.kept l (hages'.present l hl) hmem with hls₁ | hin
    · rcases List.mem_append.1 (hcover hls₁) with hin | hls₂
      · exact mem_inputLeaves_of hk hh' hin
      · exact hset (.inl hls₂)
    · exact hset (.inr (by rwa [inputLeaves_setHub]))
  refine ⟨hafter.layered, ?_, ?_, hbefore.ages.trans hages', hls, ?_⟩
  · rw [hafter.length, setHub, List.length_set, hbefore.length]
  · intro j hj
    exact hbeyond j (hk.trans_le hj)
  · intro l hl hmem
    rcases hmem with hmem | hmem
    · rw [List.mem_singleton] at hmem
      subst hmem
      obtain ⟨hub, p, hhub, hp⟩ := hl
      obtain rfl := Option.some.inj (hh'.symm.trans hhub)
      exact .inl (hkept p hp)
    · obtain ⟨j, hub, hj, hhub, hin⟩ := mem_inputLeaves.1 hmem
      rcases Nat.lt_trichotomy j k with hlt | rfl | hgt
      · exact .inr (hbelow l hl (.inr (mem_inputLeaves_of hlt hhub hin)))
      · obtain rfl := Option.some.inj (hh.symm.trans hhub)
        exact .inr (hbelow l hl (.inl hin))
      · exact .inr (mem_inputLeaves_of hj (by rw [hbeyond j hgt, hhub]) hin)

end Supply

end SparqlStream
