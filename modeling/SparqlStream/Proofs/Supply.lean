import Mathlib.Logic.Function.Basic
import Mathlib.Tactic
import SparqlStream.Proofs.Expansion
import SparqlStream.Proofs.Hub

/-!
# What a plant supplies

A tree of stages reads at its leaves: from sources, and from branches of hubs.  Each leaf is read
at one place only, either by a stage below a hub or by a stage that is being asked.  Given what is
due at every leaf, `Stage.due` computes what is due from a stage.

`Supply.Sound` says that the dues of the leaves agree with the plant: a source holds what is due
from it, and what is due at a branch is what the branch has not read of the buffer of its hub,
followed by what is due from the stage below.  A stage at one level reads from hubs of lower
levels only.  `Supply.Leads` is what every change of a plant at some level guarantees: the plant
stays sound, hubs of higher levels are untouched, and so are the leaves that the change does not
own.
-/

namespace SparqlStream

/-! ## Leaves -/

/-- A place at which a tree of stages reads. -/
inductive Leaf where
  | source (id : Nat)
  | branch (hub slot : Nat)
  deriving DecidableEq, Repr

namespace Leaf

/-- Whether a leaf is a source or a branch of one of the first hubs. -/
def Below (n : Nat) : Leaf → Prop
  | source _ => True
  | branch hub _ => hub < n

lemma Below.mono {n m : Nat} {l : Leaf} (h : l.Below n) (hnm : n ≤ m) : l.Below m := by
  cases l with
  | source id => trivial
  | branch hub slot => exact Nat.lt_of_lt_of_le h hnm

lemma not_below_branch {n slot : Nat} : ¬ (branch n slot).Below n := Nat.lt_irrefl n

lemma Below.ne_branch {n slot : Nat} {l : Leaf} (h : l.Below n) : l ≠ branch n slot := by
  rintro rfl
  exact not_below_branch h

end Leaf

namespace Stage

variable {α μ : Type}

mutual

/-- The leaves of a stage. -/
def leaves : Stage α μ → List Leaf
  | source id => [.source id]
  | branch hub slot => [.branch hub slot]
  | operator _ input => leaves input
  | drained _ => []
  | union inputs _ => leavesOf inputs

/-- The leaves of some stages. -/
def leavesOf : List (Stage α μ) → List Leaf
  | [] => []
  | s :: rest => leaves s ++ leavesOf rest

end

mutual

/-- What is due from a stage, given what is due at the leaves. -/
def due (X : Expansion (Op α μ) α) (Φ : Leaf → Due α) : Stage α μ → Due α
  | source id => Φ (.source id)
  | branch hub slot => Φ (.branch hub slot)
  | operator op input => X.held op + (due X Φ input).through (X.image op)
  | drained op => X.held op
  | union inputs _ => dueOf X Φ inputs

/-- What is due from some stages together. -/
def dueOf (X : Expansion (Op α μ) α) (Φ : Leaf → Due α) : List (Stage α μ) → Due α
  | [] => 0
  | s :: rest => due X Φ s + .tick + dueOf X Φ rest

end

mutual

/-- A stage with operators that expand items.  A union in the middle of a round still has to ask
every one of its inputs. -/
def IsValid (X : Expansion (Op α μ) α) : Stage α μ → Prop
  | source _ | branch .. => True
  | operator op input => X.IsValid op ∧ IsValid X input
  | drained op => X.IsValid op
  | union inputs round => inputs.length ≤ round.remaining inputs.length ∧ AreValid X inputs

/-- Stages with operators that expand items. -/
def AreValid (X : Expansion (Op α μ) α) : List (Stage α μ) → Prop
  | [] => True
  | s :: rest => IsValid X s ∧ AreValid X rest

end

/-- Induction over a stage, with a hypothesis for each input of a union. -/
theorem induction {motive : Stage α μ → Prop} (source : ∀ id, motive (.source id))
    (branch : ∀ hub slot, motive (.branch hub slot))
    (operator : ∀ op input, motive input → motive (.operator op input))
    (drained : ∀ op, motive (.drained op))
    (union : ∀ inputs round, (∀ s ∈ inputs, motive s) → motive (.union inputs round))
    (s : Stage α μ) : motive s :=
  Stage.rec (motive_1 := motive) (motive_2 := fun inputs => ∀ s ∈ inputs, motive s) source branch
    operator drained union (List.forall_mem_nil _)
    (fun _ _ hs hrest => List.forall_mem_cons.2 ⟨hs, hrest⟩) s

variable {X : Expansion (Op α μ) α} {Φ Φ' : Leaf → Due α}

lemma leavesOf_append (l r : List (Stage α μ)) : leavesOf (l ++ r) = leavesOf l ++ leavesOf r := by
  induction l with
  | nil => rfl
  | cons s l ih => rw [List.cons_append, leavesOf, ih, leavesOf, List.append_assoc]

lemma dueOf_append (l r : List (Stage α μ)) : dueOf X Φ (l ++ r) = dueOf X Φ l + dueOf X Φ r := by
  induction l with
  | nil => rw [List.nil_append, dueOf, zero_add]
  | cons s l ih => rw [List.cons_append, dueOf, ih, dueOf, add_assoc, add_assoc, add_assoc]

lemma areValid_append {l r : List (Stage α μ)} :
    AreValid X (l ++ r) ↔ AreValid X l ∧ AreValid X r := by
  induction l with
  | nil => simp [AreValid]
  | cons s l ih => rw [List.cons_append, AreValid, ih, AreValid, and_assoc]

/-- What is due from a stage depends on its leaves only. -/
lemma due_congr {s : Stage α μ} (h : ∀ l ∈ s.leaves, Φ' l = Φ l) : s.due X Φ' = s.due X Φ := by
  induction s using Stage.induction with
  | source id => exact h _ List.mem_cons_self
  | branch hub slot => exact h _ List.mem_cons_self
  | operator op input ih => rw [due, due, ih h]
  | drained op => rfl
  | union inputs round ih =>
    rw [due, due]
    rw [leaves] at h
    induction inputs with
    | nil => rfl
    | cons s rest ihrest =>
      obtain ⟨hs, hrest⟩ := List.forall_mem_append.1 h
      obtain ⟨ihs, ihall⟩ := List.forall_mem_cons.1 ih
      rw [dueOf, dueOf, ihs hs, ihrest ihall hrest]

lemma dueOf_congr {l : List (Stage α μ)} (h : ∀ x ∈ leavesOf l, Φ' x = Φ x) :
    dueOf X Φ' l = dueOf X Φ l :=
  due_congr (s := .union l .start) h

end Stage

/-! ## Supplies -/

/-- The sources and the hubs of a plant, without logs and wake-ups. -/
structure Supply (α ε μ : Type) where
  sources : List (Source α ε)
  hubs : List (Hub α (Stage α μ))

/-- What the stages of a plant read from. -/
def Plant.supply {α ε μ : Type} (p : Plant α ε μ) : Supply α ε μ := ⟨p.sources, p.hubs⟩

/-- A live source holds what is due from it, and nothing else. -/
def Source.Supplies {α ε : Type} (s : Source α ε) (d : Due α) : Prop :=
  ∃ as : List α, s.cells = as.map .item ∧ s.closed = true ∧ d = ⟨as, as.length⟩

namespace Hub

variable {α μ : Type}

/-- The leaves of the stage below a hub. -/
def inputLeaves (h : Hub α (Stage α μ)) : List Leaf := h.input.elim [] (·.leaves)

/-- What is due from the stage below a hub. -/
def inputDue (X : Expansion (Op α μ) α) (Φ : Leaf → Due α) (h : Hub α (Stage α μ)) : Due α :=
  h.input.elim 0 (·.due X Φ)

lemma inputLeaves_of_input {h h' : Hub α (Stage α μ)} (hin : h'.input = h.input) :
    h'.inputLeaves = h.inputLeaves := by
  rw [inputLeaves, hin, inputLeaves]

lemma inputDue_of_input {X : Expansion (Op α μ) α} {Φ : Leaf → Due α}
    {h h' : Hub α (Stage α μ)} (hin : h'.input = h.input) :
    h'.inputDue X Φ = h.inputDue X Φ := by
  rw [inputDue, hin, inputDue]

end Hub

namespace Supply

variable {α ε μ : Type}

/-- Changes a source. -/
def setSource (S : Supply α ε μ) (id : Nat) (s : Source α ε) : Supply α ε μ :=
  { S with sources := S.sources.set id s }

/-- Changes a hub. -/
def setHub (S : Supply α ε μ) (k : Nat) (h : Hub α (Stage α μ)) : Supply α ε μ :=
  { S with hubs := S.hubs.set k h }

/-- A leaf that can be read: a source that is not dropped, or a branch that is not dropped. -/
def Present (S : Supply α ε μ) : Leaf → Prop
  | .source id => ∃ s, S.sources[id]? = some s ∧ s.isLive = true
  | .branch k slot => ∃ h position, S.hubs[k]? = some h ∧ h.position? slot = some position

/-- The leaves of the stages below the first hubs. -/
def inputLeaves (S : Supply α ε μ) (n : Nat) : List Leaf :=
  (S.hubs.take n).flatMap (·.inputLeaves)

/-- What is due at the branches of a hub agrees with the hub. -/
structure HubSound (S : Supply α ε μ) (X : Expansion (Op α μ) α) (Φ : Leaf → Due α) (k : Nat)
    (h : Hub α (Stage α μ)) : Prop where
  inBounds : h.InBounds
  valid : ∀ below, h.input = some below → below.IsValid X
  leaves : ∀ l ∈ h.inputLeaves, l.Below k ∧ S.Present l
  due : ∀ slot position, h.position? slot = some position →
    (Φ (.branch k slot)).items = ↑(h.unread position) + (h.inputDue X Φ).items ∧
      (h.unread position).length + (h.inputDue X Φ).work ≤ (Φ (.branch k slot)).work

/-- What is due at the leaves agrees with the sources and the first hubs. -/
structure Sound (S : Supply α ε μ) (X : Expansion (Op α μ) α) (Φ : Leaf → Due α) (n : Nat) :
    Prop where
  sources : ∀ id (s : Source α ε), S.sources[id]? = some s → s.isLive = true →
    s.Supplies (Φ (.source id))
  hubs : ∀ k h, k < n → S.hubs[k]? = some h → S.HubSound X Φ k h

/-- Some leaves can be read, and nobody else reads them. -/
structure Owns (S : Supply α ε μ) (n : Nat) (ls : List Leaf) : Prop where
  below : ∀ l ∈ ls, l.Below n
  present : ∀ l ∈ ls, S.Present l
  nodup : (S.inputLeaves n ++ ls).Nodup

/-- What a change of a plant guarantees that has the right to touch some leaves and the stages
below the first hubs. -/
structure Leads (X : Expansion (Op α μ) α) (n : Nat) (S S' : Supply α ε μ) (Φ Φ' : Leaf → Due α)
    (touched : List Leaf) : Prop where
  sound : S'.Sound X Φ' n
  length : S'.hubs.length = S.hubs.length
  beyond : ∀ k, n ≤ k → S'.hubs[k]? = S.hubs[k]?
  inputs : (S'.inputLeaves n).Sublist (S.inputLeaves n)
  due : ∀ l, l ∉ touched → l ∉ S.inputLeaves n → Φ' l = Φ l
  present : ∀ l, l ∉ touched → l ∉ S.inputLeaves n → S.Present l → S'.Present l

variable {X : Expansion (Op α μ) α} {n k slot : Nat} {S S' S₁ S₂ : Supply α ε μ}
  {Φ Φ' Φ₁ Φ₂ : Leaf → Due α} {ls ls' touched others : List Leaf}

/-! ### Ownership -/

lemma Owns.sublist (h : S.Owns n ls) (hsub : ls'.Sublist ls) : S.Owns n ls' where
  below l hl := h.below l (hsub.subset hl)
  present l hl := h.present l (hsub.subset hl)
  nodup := h.nodup.sublist ((List.Sublist.refl _).append hsub)

lemma Owns.perm (h : S.Owns n ls) (hperm : ls.Perm ls') : S.Owns n ls' where
  below l hl := h.below l (hperm.mem_iff.2 hl)
  present l hl := h.present l (hperm.mem_iff.2 hl)
  nodup := (hperm.append_left _).nodup_iff.1 h.nodup

lemma Owns.not_mem_inputs (h : S.Owns n ls) {l : Leaf} (hl : l ∈ ls) : l ∉ S.inputLeaves n :=
  fun hmem => (List.nodup_append.1 h.nodup).2.2 l hmem l hl rfl

lemma Owns.not_mem_left (h : S.Owns n (touched ++ others)) {l : Leaf} (hl : l ∈ others) :
    l ∉ touched := by
  have hnodup := (List.nodup_append.1 h.nodup).2.1
  exact fun hmem => (List.nodup_append.1 hnodup).2.2 l hmem l hl rfl

/-- What others own does not change. -/
lemma Leads.due_eq (h : Leads X n S S' Φ Φ' touched) (hown : S.Owns n (touched ++ others))
    {l : Leaf} (hl : l ∈ others) : Φ' l = Φ l :=
  h.due l (hown.not_mem_left hl) (hown.not_mem_inputs (List.mem_append_right _ hl))

/-- What others own stays owned, together with touched leaves that can still be read. -/
lemma Leads.owns (h : Leads X n S S' Φ Φ' touched) (hown : S.Owns n (touched ++ others))
    (hsub : ls.Sublist touched) (hpresent : ∀ l ∈ ls, S'.Present l) :
    S'.Owns n (ls ++ others) where
  below l hl := hown.below l ((hsub.append (List.Sublist.refl _)).subset hl)
  present l hl := by
    rcases List.mem_append.1 hl with hl | hl
    · exact hpresent l hl
    · exact h.present l (hown.not_mem_left hl) (hown.not_mem_inputs (List.mem_append_right _ hl))
        (hown.present l (List.mem_append_right _ hl))
  nodup := hown.nodup.sublist (h.inputs.append (hsub.append (List.Sublist.refl _)))

/-! ### Changes -/

lemma Leads.refl (h : S.Sound X Φ n) : Leads X n S S Φ Φ [] where
  sound := h
  length := rfl
  beyond _ _ := rfl
  inputs := .refl _
  due _ _ _ := rfl
  present _ _ _ := id

lemma Leads.mono (h : Leads X n S S' Φ Φ' touched) (hsub : touched ⊆ ls) :
    Leads X n S S' Φ Φ' ls where
  sound := h.sound
  length := h.length
  beyond := h.beyond
  inputs := h.inputs
  due l hl := h.due l fun hmem => hl (hsub hmem)
  present l hl := h.present l fun hmem => hl (hsub hmem)

lemma Leads.trans (h : Leads X n S S₁ Φ Φ₁ ls) (h' : Leads X n S₁ S₂ Φ₁ Φ₂ ls') :
    Leads X n S S₂ Φ Φ₂ (ls ++ ls') where
  sound := h'.sound
  length := h'.length.trans h.length
  beyond k hk := (h'.beyond k hk).trans (h.beyond k hk)
  inputs := h'.inputs.trans h.inputs
  due l hl hin := by
    rw [List.mem_append, not_or] at hl
    have hin' : l ∉ S₁.inputLeaves n := fun hmem => hin (h.inputs.subset hmem)
    exact (h'.due l hl.2 hin').trans (h.due l hl.1 hin)
  present l hl hin hpresent := by
    rw [List.mem_append, not_or] at hl
    have hin' : l ∉ S₁.inputLeaves n := fun hmem => hin (h.inputs.subset hmem)
    exact h'.present l hl.2 hin' (h.present l hl.1 hin hpresent)

/-! ### The stages below the first hubs -/

section Inputs

variable {h h' : Hub α (Stage α μ)} {l : Leaf}

lemma getElem?_take_eq_some {β : Type} {l : List β} {a : β} :
    (l.take n)[k]? = some a ↔ k < n ∧ l[k]? = some a := by
  rw [List.getElem?_take]
  split <;> simp [*]

lemma mem_inputLeaves :
    l ∈ S.inputLeaves n ↔ ∃ k h, k < n ∧ S.hubs[k]? = some h ∧ l ∈ h.inputLeaves := by
  rw [inputLeaves, List.mem_flatMap]
  constructor
  · rintro ⟨h, hmem, hl⟩
    obtain ⟨k, hk⟩ := List.mem_iff_getElem?.1 hmem
    obtain ⟨hlt, hk⟩ := getElem?_take_eq_some.1 hk
    exact ⟨k, h, hlt, hk, hl⟩
  · rintro ⟨k, h, hlt, hk, hl⟩
    exact ⟨h, List.mem_iff_getElem?.2 ⟨k, getElem?_take_eq_some.2 ⟨hlt, hk⟩⟩, hl⟩

/-- The leaves of the stages below the first hubs, split at one of the hubs. -/
lemma inputLeaves_eq (hk : k < n) (hh : S.hubs[k]? = some h) :
    S.inputLeaves n = S.inputLeaves k ++ (h.inputLeaves ++
      ((S.hubs.drop (k + 1)).take (n - k - 1)).flatMap (·.inputLeaves)) := by
  obtain ⟨hlt, rfl⟩ := List.getElem?_eq_some_iff.1 hh
  have htake : S.hubs.take n =
      S.hubs.take k ++ S.hubs[k] :: (S.hubs.drop (k + 1)).take (n - k - 1) := by
    obtain ⟨m, rfl⟩ : ∃ m, n = k + (m + 1) := ⟨n - k - 1, by omega⟩
    rw [List.take_add, List.drop_eq_getElem_cons hlt, List.take_succ_cons]
    congr 3
    omega
  rw [inputLeaves, htake, List.flatMap_append, List.flatMap_cons, inputLeaves]

lemma Sound.below (hS : S.Sound X Φ n) (hl : l ∈ S.inputLeaves n) : l.Below n := by
  obtain ⟨k, h, hk, hh, hl⟩ := mem_inputLeaves.1 hl
  exact (((hS.hubs k h hk hh).leaves l hl).1).mono hk.le

lemma Sound.mono (hS : S.Sound X Φ n) (hk : k ≤ n) : S.Sound X Φ k where
  sources := hS.sources
  hubs j h hj := hS.hubs j h (hj.trans_le hk)

lemma inputDue_congr (hin : ∀ l ∈ h.inputLeaves, Φ' l = Φ l) :
    h.inputDue X Φ' = h.inputDue X Φ := by
  rw [Hub.inputDue, Hub.inputDue]
  rw [Hub.inputLeaves] at hin
  cases hinput : h.input with
  | none => rfl
  | some below =>
    rw [hinput] at hin
    exact Stage.due_congr hin

lemma HubSound.congr (hs : S.HubSound X Φ k h)
    (hbranch : ∀ slot, Φ' (.branch k slot) = Φ (.branch k slot))
    (hin : ∀ l ∈ h.inputLeaves, Φ' l = Φ l)
    (hpresent : ∀ l ∈ h.inputLeaves, S.Present l → S'.Present l) : S'.HubSound X Φ' k h where
  inBounds := hs.inBounds
  valid := hs.valid
  leaves l hl := ⟨(hs.leaves l hl).1, hpresent l hl (hs.leaves l hl).2⟩
  due slot position hp := by
    rw [hbranch, inputDue_congr hin]
    exact hs.due slot position hp

end Inputs

/-! ### Changing a source -/

lemma present_setSource {id : Nat} {s' : Source α ε} {l : Leaf} (hl : l ≠ .source id)
    (hpresent : S.Present l) : (S.setSource id s').Present l := by
  cases l with
  | branch k slot => exact hpresent
  | source i =>
    obtain ⟨s, hs, hlive⟩ := hpresent
    have hne : id ≠ i := fun heq => hl (by rw [heq])
    exact ⟨s, by rwa [setSource, List.getElem?_set_ne hne], hlive⟩

lemma Leads.setSource {id : Nat} (s' : Source α ε) (d : Due α) (hS : S.Sound X Φ n)
    (hown : S.Owns n [.source id]) (hs' : s'.isLive = true → s'.Supplies d) :
    Leads X n S (S.setSource id s') Φ (Function.update Φ (.source id) d) [.source id] where
  sound := by
    have hnot : .source id ∉ S.inputLeaves n := hown.not_mem_inputs List.mem_cons_self
    refine ⟨?_, ?_⟩
    · intro i s hs hlive
      by_cases hi : id = i
      · subst hi
        obtain ⟨hlt, -⟩ := List.getElem?_eq_some_iff.1 hs
        rw [Supply.setSource, List.length_set] at hlt
        rw [Supply.setSource, List.getElem?_set_self hlt] at hs
        obtain rfl := Option.some.inj hs
        rw [Function.update_self]
        exact hs' hlive
      · have hne : (Leaf.source i) ≠ .source id := fun heq => hi (Leaf.source.inj heq).symm
        rw [Supply.setSource, List.getElem?_set_ne hi] at hs
        rw [Function.update_of_ne hne]
        exact hS.sources i s hs hlive
    · intro k h hk hh
      have hin : ∀ l ∈ h.inputLeaves, l ≠ .source id := by
        rintro l hl rfl
        exact hnot (mem_inputLeaves.2 ⟨k, h, hk, hh, hl⟩)
      exact (hS.hubs k h hk hh).congr (fun _ => Function.update_of_ne (by simp) _ _)
        (fun l hl => Function.update_of_ne (hin l hl) _ _)
        (fun l hl => present_setSource (hin l hl))
  length := rfl
  beyond _ _ := rfl
  inputs := .refl _
  due l hl _ := Function.update_of_ne (fun heq => hl (List.mem_singleton.2 heq)) _ _
  present l hl _ := present_setSource fun heq => hl (List.mem_singleton.2 heq)

/-! ### Changing a hub -/

section SetHub

variable {h h' : Hub α (Stage α μ)} {l : Leaf} {d : Due α}

lemma getElem?_setHub_self (hh : S.hubs[k]? = some h) : (S.setHub k h').hubs[k]? = some h' := by
  obtain ⟨hlt, -⟩ := List.getElem?_eq_some_iff.1 hh
  exact List.getElem?_set_self hlt

lemma getElem?_setHub_ne {j : Nat} (hj : j ≠ k) : (S.setHub k h').hubs[j]? = S.hubs[j]? :=
  List.getElem?_set_ne hj.symm

lemma present_setHub (hh : S.hubs[k]? = some h)
    (hpos : ∀ i, i ≠ slot → h'.position? i = h.position? i) (hl : l ≠ .branch k slot)
    (hpresent : S.Present l) : (S.setHub k h').Present l := by
  cases l with
  | source id => exact hpresent
  | branch j i =>
    obtain ⟨hub, position, hhub, hposition⟩ := hpresent
    by_cases hj : j = k
    · subst hj
      obtain rfl := Option.some.inj (hh.symm.trans hhub)
      have hi : i ≠ slot := fun heq => hl (by rw [heq])
      exact ⟨h', position, getElem?_setHub_self hh, by rw [hpos i hi, hposition]⟩
    · exact ⟨hub, position, by rwa [getElem?_setHub_ne hj], hposition⟩

lemma present_setHub_of_below (hl : l.Below k) (hpresent : S.Present l) :
    (S.setHub k h').Present l := by
  cases l with
  | source id => exact hpresent
  | branch j i =>
    obtain ⟨hub, position, hhub, hposition⟩ := hpresent
    have hj : j < k := hl
    exact ⟨hub, position, by rwa [getElem?_setHub_ne hj.ne], hposition⟩

/-- A hub that is changed itself is not one of those below. -/
lemma Sound.setHub (hS : S.Sound X Φ k) (slot : Nat) (h' : Hub α (Stage α μ)) (d : Due α) :
    (S.setHub k h').Sound X (Function.update Φ (.branch k slot) d) k where
  sources id s hs hlive := by
    rw [Function.update_of_ne (by simp)]
    exact hS.sources id s hs hlive
  hubs j hub hj hhub := by
    rw [getElem?_setHub_ne hj.ne] at hhub
    have hsound := hS.hubs j hub hj hhub
    have hbelow : ∀ l ∈ hub.inputLeaves, l.Below k := fun l hl =>
      (hsound.leaves l hl).1.mono hj.le
    have hbranch : ∀ i, Leaf.branch j i ≠ .branch k slot := by
      rintro i heq
      exact hj.ne (Leaf.branch.inj heq).1
    exact hsound.congr (fun i => Function.update_of_ne (hbranch i) _ _)
      (fun l hl => Function.update_of_ne (hbelow l hl).ne_branch _ _)
      (fun l hl => present_setHub_of_below (hbelow l hl))

/-- Setting one hub does not concern the hubs before it. -/
lemma inputLeaves_setHub : (S.setHub k h').inputLeaves k = S.inputLeaves k := by
  rw [inputLeaves, setHub, List.take_set_of_le le_rfl, inputLeaves]

lemma Owns.setHub (hown : S.Owns k ls) (h' : Hub α (Stage α μ)) : (S.setHub k h').Owns k ls where
  below := hown.below
  present l hl := present_setHub_of_below (hown.below l hl) (hown.present l hl)
  nodup := by
    rw [inputLeaves_setHub]
    exact hown.nodup

/-- Whoever reads a branch of a hub has the right to touch what is below the hub. -/
lemma Sound.owns_inputs (hS : S.Sound X Φ n) (hown : S.Owns n [.branch k slot])
    (hh : S.hubs[k]? = some h) : S.Owns k h.inputLeaves where
  below l hl := ((hS.hubs k h (hown.below _ List.mem_cons_self) hh).leaves l hl).1
  present l hl := ((hS.hubs k h (hown.below _ List.mem_cons_self) hh).leaves l hl).2
  nodup := by
    have hnodup := (List.nodup_append.1 hown.nodup).1
    rw [inputLeaves_eq (hown.below _ List.mem_cons_self) hh, ← List.append_assoc] at hnodup
    exact (List.nodup_append.1 hnodup).1

/-- A hub that has changed agrees with what is due at its branches. -/
lemma hubSound_update (hb : h'.InBounds) (hvalid : ∀ below, h'.input = some below → below.IsValid X)
    (hleaves : ∀ l ∈ h'.inputLeaves, l.Below k ∧ S'.Present l)
    (hothers : ∀ i position, i ≠ slot → h'.position? i = some position →
      (Φ (.branch k i)).items = ↑(h'.unread position) + (h'.inputDue X Φ).items ∧
        (h'.unread position).length + (h'.inputDue X Φ).work ≤ (Φ (.branch k i)).work)
    (hself : ∀ position, h'.position? slot = some position →
      d.items = ↑(h'.unread position) + (h'.inputDue X Φ).items ∧
        (h'.unread position).length + (h'.inputDue X Φ).work ≤ d.work) :
    S'.HubSound X (Function.update Φ (.branch k slot) d) k h' where
  inBounds := hb
  valid := hvalid
  leaves := hleaves
  due i position hp := by
    have hin : ∀ l ∈ h'.inputLeaves, Function.update Φ (.branch k slot) d l = Φ l :=
      fun l hl => Function.update_of_ne (hleaves l hl).1.ne_branch _ _
    rw [inputDue_congr hin]
    by_cases hi : i = slot
    · subst hi
      rw [Function.update_self]
      exact hself position hp
    · have hne : Leaf.branch k i ≠ .branch k slot := fun heq => hi (Leaf.branch.inj heq).2
      rw [Function.update_of_ne hne]
      exact hothers i position hi hp

/-- A branch reads its hub or leaves it.  First something may happen below the hub, then the hub
changes, and then something may happen below it again. -/
lemma Leads.through_hub (h' : Hub α (Stage α μ)) (hS : S.Sound X Φ n)
    (hown : S.Owns n [.branch k slot]) (hh : S.hubs[k]? = some h)
    (hbefore : Leads X k S S₁ Φ Φ₁ h.inputLeaves)
    (hafter : Leads X k (S₁.setHub k h') S' (Function.update Φ₁ (.branch k slot) d)
      (Function.update Φ₁ (.branch k slot) d) h.inputLeaves)
    (hpos : ∀ i, i ≠ slot → h'.position? i = h.position? i)
    (hsub : h'.inputLeaves.Sublist h.inputLeaves)
    (hsound : S'.HubSound X (Function.update Φ₁ (.branch k slot) d) k h') :
    Leads X n S S' Φ (Function.update Φ₁ (.branch k slot) d) [.branch k slot] := by
  have hk : k < n := hown.below _ List.mem_cons_self
  have hh₁ : S₁.hubs[k]? = some h := by rw [hbefore.beyond k le_rfl, hh]
  have hh' : S'.hubs[k]? = some h' := by
    rw [hafter.beyond k le_rfl, getElem?_setHub_self hh₁]
  have hbeyond : ∀ j, k < j → S'.hubs[j]? = S.hubs[j]? := by
    intro j hj
    rw [hafter.beyond j hj.le, getElem?_setHub_ne hj.ne', hbefore.beyond j hj.le]
  have hdrop : S'.hubs.drop (k + 1) = S.hubs.drop (k + 1) := by
    refine List.ext_getElem? fun i => ?_
    rw [List.getElem?_drop, List.getElem?_drop, hbeyond _ (by omega)]
  have hsplit := inputLeaves_eq hk hh
  have hsplit' := inputLeaves_eq hk hh'
  have hinputs : (S'.inputLeaves k).Sublist (S.inputLeaves k) := by
    have hsub' := hafter.inputs
    rw [inputLeaves_setHub] at hsub'
    exact hsub'.trans hbefore.inputs
  -- Away from the hub nothing but the stages below it has changed.
  have hframe : ∀ l, l ≠ .branch k slot → l ∉ h.inputLeaves → l ∉ S.inputLeaves k →
      Function.update Φ₁ (.branch k slot) d l = Φ l ∧ (S.Present l → S'.Present l) := by
    intro l hl hin hin'
    have hin₁ : l ∉ (S₁.setHub k h').inputLeaves k := by
      rw [inputLeaves_setHub]
      exact fun hmem => hin' (hbefore.inputs.subset hmem)
    refine ⟨?_, fun hpresent => ?_⟩
    · rw [Function.update_of_ne hl]
      exact hbefore.due l hin hin'
    · exact hafter.present l hin hin₁ (present_setHub hh₁ hpos hl
        (hbefore.present l hin hin' hpresent))
  have hnot : ∀ l, l ∉ S.inputLeaves n → l ∉ h.inputLeaves ∧ l ∉ S.inputLeaves k := by
    intro l hl
    rw [hsplit, List.mem_append, List.mem_append, not_or, not_or] at hl
    exact ⟨hl.2.1, hl.1⟩
  refine ⟨⟨hafter.sound.sources, ?_⟩, ?_, ?_, ?_, ?_, ?_⟩
  · intro j hub hj hhub
    rcases Nat.lt_trichotomy j k with hlt | rfl | hgt
    · exact hafter.sound.hubs j hub hlt hhub
    · obtain rfl := Option.some.inj (hh'.symm.trans hhub)
      exact hsound
    · rw [hbeyond j hgt] at hhub
      -- A later hub is fed by leaves of its own, and its branches feed nobody below.
      have hout : ∀ l ∈ hub.inputLeaves, l ∉ h.inputLeaves ∧ l ∉ S.inputLeaves k := by
        intro l hl
        have hnodup := (List.nodup_append.1 hown.nodup).1
        rw [hsplit] at hnodup
        have hmem : l ∈ ((S.hubs.drop (k + 1)).take (n - k - 1)).flatMap (·.inputLeaves) := by
          refine List.mem_flatMap.2 ⟨hub, List.mem_iff_getElem?.2 ⟨j - k - 1, ?_⟩, hl⟩
          rw [getElem?_take_eq_some, List.getElem?_drop]
          refine ⟨by omega, ?_⟩
          rw [← hhub]
          congr 1
          omega
        obtain ⟨-, hrest, hdisjoint⟩ := List.nodup_append.1 hnodup
        refine ⟨fun hin => ?_, fun hin => ?_⟩
        · exact (List.nodup_append.1 hrest).2.2 l hin l hmem rfl
        · exact hdisjoint l hin l (List.mem_append_right _ hmem) rfl
      have hne : ∀ l ∈ hub.inputLeaves, l ≠ .branch k slot := by
        rintro l hl rfl
        exact hown.not_mem_inputs List.mem_cons_self (mem_inputLeaves.2 ⟨j, hub, hj, hhub, hl⟩)
      have hbranch : ∀ i,
          Function.update Φ₁ (.branch k slot) d (.branch j i) = Φ (.branch j i) := by
        intro i
        have hnotBelow : ¬ (Leaf.branch j i).Below k := fun hbelow => Nat.lt_asymm hgt hbelow
        refine (hframe _ ?_ ?_ ?_).1
        · intro heq
          exact hgt.ne' (Leaf.branch.inj heq).1
        · intro hin
          exact hnotBelow ((hS.hubs k h hk hh).leaves _ hin).1
        · intro hin
          exact hnotBelow ((hS.mono hk.le).below hin)
      exact (hS.hubs j hub hj hhub).congr hbranch
        (fun l hl => (hframe l (hne l hl) (hout l hl).1 (hout l hl).2).1)
        (fun l hl => (hframe l (hne l hl) (hout l hl).1 (hout l hl).2).2)
  · rw [hafter.length, setHub, List.length_set, hbefore.length]
  · intro j hj
    exact hbeyond j (hk.trans_le hj)
  · rw [hsplit, hsplit', hdrop]
    exact hinputs.append (hsub.append (.refl _))
  · intro l hl hin
    exact (hframe l (fun heq => hl (List.mem_singleton.2 heq)) (hnot l hin).1 (hnot l hin).2).1
  · intro l hl hin
    exact (hframe l (fun heq => hl (List.mem_singleton.2 heq)) (hnot l hin).1 (hnot l hin).2).2

end SetHub

/-! ### A new hub -/

section AddHub

variable {input : Stage α μ} {count : Nat}

/-- A hub whose branches have read nothing. -/
abbrev newHub (input : Stage α μ) (count : Nat) : Hub α (Stage α μ) := .start input count

/-- Adds a hub behind all others. -/
def addHub (S : Supply α ε μ) (input : Stage α μ) (count : Nat) : Supply α ε μ :=
  { S with hubs := S.hubs ++ [newHub input count] }

/-- The branches of a hub from one on. -/
def branchesFrom (k slot count : Nat) : List Leaf := (List.range' slot count).map (.branch k)

/-- What is due when the branches of a hub owe what is due from the stage below. -/
def withHub (Φ : Leaf → Due α) (k : Nat) (d : Due α) : Leaf → Due α
  | .source id => Φ (.source id)
  | .branch j slot => if j = k then d else Φ (.branch j slot)

lemma withHub_branch {d : Due α} : withHub Φ k d (.branch k slot) = d := if_pos rfl

lemma withHub_of_below {d : Due α} {l : Leaf} (hl : l.Below k) : withHub Φ k d l = Φ l := by
  cases l with
  | source id => rfl
  | branch j slot =>
    have hj : j < k := hl
    exact if_neg hj.ne

lemma present_addHub {l : Leaf} (hpresent : S.Present l) : (S.addHub input count).Present l := by
  cases l with
  | source id => exact hpresent
  | branch j i =>
    obtain ⟨h, position, hh, hp⟩ := hpresent
    obtain ⟨hlt, -⟩ := List.getElem?_eq_some_iff.1 hh
    exact ⟨h, position, by rwa [addHub, List.getElem?_append_left hlt], hp⟩

lemma getElem?_addHub :
    (S.addHub input count).hubs[S.hubs.length]? = some (newHub input count) := by
  rw [addHub, List.getElem?_append_right le_rfl, Nat.sub_self]
  rfl

lemma inputLeaves_start (hcount : count ≠ 0) :
    (newHub input count).inputLeaves = input.leaves := by
  rw [Hub.inputLeaves, newHub, Hub.start, if_neg hcount]
  rfl

lemma inputLeaves_addHub (hcount : count ≠ 0) :
    (S.addHub input count).inputLeaves (S.hubs.length + 1) =
      S.inputLeaves S.hubs.length ++ input.leaves := by
  rw [inputLeaves, inputLeaves, addHub, List.take_of_length_le (by simp), List.take_length,
    List.flatMap_append, List.flatMap_singleton, inputLeaves_start hcount]

lemma Sound.addHub (hS : S.Sound X Φ S.hubs.length) (hcount : count ≠ 0)
    (hown : S.Owns S.hubs.length input.leaves) (hvalid : input.IsValid X) :
    (S.addHub input count).Sound X (withHub Φ S.hubs.length (input.due X Φ))
      (S.hubs.length + 1) where
  sources := hS.sources
  hubs j h hj hh := by
    have hsame : ∀ l ∈ input.leaves, withHub Φ S.hubs.length (input.due X Φ) l = Φ l :=
      fun l hl => withHub_of_below (hown.below l hl)
    rcases Nat.lt_succ_iff_lt_or_eq.1 hj with hj | rfl
    · rw [Supply.addHub, List.getElem?_append_left hj] at hh
      have hsound := hS.hubs j h hj hh
      have hbelow : ∀ l ∈ h.inputLeaves, l.Below S.hubs.length := fun l hl =>
        (hsound.leaves l hl).1.mono hj.le
      exact hsound.congr (fun i => withHub_of_below hj) (fun l hl => withHub_of_below (hbelow l hl))
        (fun l hl => present_addHub)
    · obtain rfl := Option.some.inj (getElem?_addHub.symm.trans hh)
      have hin : (newHub input count).input = some input := if_neg hcount
      refine ⟨?_, ?_, ?_, ?_⟩
      · exact (Hub.retains_start input count).inBounds
      · intro below hbelow
        obtain rfl := Option.some.inj (hin.symm.trans hbelow)
        exact hvalid
      · rw [inputLeaves_start hcount]
        exact fun l hl => ⟨hown.below l hl, present_addHub (hown.present l hl)⟩
      · intro slot position _
        have hdue : (newHub input count).inputDue X
            (withHub Φ S.hubs.length (input.due X Φ)) = input.due X Φ := by
          rw [Hub.inputDue, hin]
          exact Stage.due_congr hsame
        have hread : (newHub input count).unread position = [] := List.drop_nil
        rw [withHub_branch, hdue, hread]
        simp

lemma Owns.addHub (hS : S.Sound X Φ S.hubs.length) (hcount : count ≠ 0)
    (hown : S.Owns S.hubs.length (input.leaves ++ others)) :
    (S.addHub input count).Owns (S.hubs.length + 1)
      (branchesFrom S.hubs.length 0 count ++ others) where
  below l hl := by
    rcases List.mem_append.1 hl with hl | hl
    · obtain ⟨slot, -, rfl⟩ := List.mem_map.1 hl
      exact Nat.lt_succ_self _
    · exact (hown.below l (List.mem_append_right _ hl)).mono (Nat.le_succ _)
  present l hl := by
    rcases List.mem_append.1 hl with hl | hl
    · obtain ⟨slot, hslot, rfl⟩ := List.mem_map.1 hl
      have hlt : slot < count := by simpa using hslot
      exact ⟨_, 0, getElem?_addHub, by rw [Hub.position?_start, if_pos hlt]⟩
    · exact present_addHub (hown.present l (List.mem_append_right _ hl))
  nodup := by
    have hnew : ∀ l ∈ branchesFrom S.hubs.length 0 count,
        l ∉ S.inputLeaves S.hubs.length ++ (input.leaves ++ others) := by
      intro l hl hmem
      obtain ⟨slot, -, rfl⟩ := List.mem_map.1 hl
      rcases List.mem_append.1 hmem with hmem | hmem
      · exact Leaf.not_below_branch (hS.below hmem)
      · exact Leaf.not_below_branch (hown.below _ hmem)
    have hbranches : (branchesFrom S.hubs.length 0 count).Nodup :=
      List.Nodup.map (fun _ _ heq => (Leaf.branch.inj heq).2) List.nodup_range'
    have hall : (branchesFrom S.hubs.length 0 count ++
        (S.inputLeaves S.hubs.length ++ (input.leaves ++ others))).Nodup :=
      List.nodup_append.2 ⟨hbranches, hown.nodup, fun l hl l' hl' heq => hnew l hl (heq ▸ hl')⟩
    rw [inputLeaves_addHub hcount]
    refine (List.Perm.nodup_iff ?_).1 hall
    rw [← List.append_assoc (S.inputLeaves S.hubs.length)]
    exact List.perm_append_comm_assoc _ _ _

end AddHub

end Supply

end SparqlStream
