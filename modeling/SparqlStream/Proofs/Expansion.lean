import Mathlib.Tactic
import SparqlStream.Stream.Stage
import SparqlStream.Proofs.Delivery
import SparqlStream.Proofs.Matching

/-!
# Operators that expand items

Some operators treat each item of their input alone: a filter shows it or not, and a search shows
its matches.  An `Expansion` says what such an operator makes of an item, and what it still has to
show of the items that it has taken already.  `Expansion.Lawful` says that the operator does what
its expansion promises, whatever it is asked.

A search tries one triple at a time, in whatever frame comes first.  `Search.Tries` says what that
does to the bindings that are left to show and to the work that is left, and everything else about
runs of a search follows from it.
-/

namespace SparqlStream

/-- What an operator makes of its input, item by item. -/
structure Expansion (σ α : Type) where
  /-- The states for which this is said. -/
  IsValid : σ → Prop
  /-- What is due before the next item of the input is taken. -/
  held : σ → Due α
  /-- What becomes due with an item of the input. -/
  image : σ → α → Due α

namespace Expansion

variable {σ α ε : Type}

/-- An operator shows a part of what is due.  It keeps its input and goes on as before. -/
structure Continues (X : Expansion σ α) (s : σ) (d : Due α) (r : Reaction σ α ε) : Prop where
  keepsInput : r.keepsInput = true
  isValid : X.IsValid r.state
  image_eq : X.image r.state = X.image s
  shows : d.Shows r.shows (X.held r.state)
  ne_finish : r.shows ≠ .finish

lemma Continues.keep_item {X : Expansion σ α} {s s' : σ} {d : Due α} {a : α}
    (hvalid : X.IsValid s') (himage : X.image s' = X.image s)
    (hitems : d.items = a ::ₘ (X.held s').items) (hwork : (X.held s').work < d.work) :
    X.Continues s d (.keep s' (.item a) : Reaction σ α ε) :=
  ⟨rfl, hvalid, himage, ⟨hitems, hwork⟩, by simp [Reaction.keep]⟩

lemma Continues.keep_again {X : Expansion σ α} {s s' : σ} {d : Due α}
    (hvalid : X.IsValid s') (himage : X.image s' = X.image s)
    (hitems : d.items = (X.held s').items) (hwork : (X.held s').work < d.work) :
    X.Continues s d (.keep s' .again : Reaction σ α ε) :=
  ⟨rfl, hvalid, himage, ⟨hitems, hwork⟩, by simp [Reaction.keep]⟩

/-- An operator does what its expansion says. -/
structure Lawful (X : Expansion σ α) (ε : Type) [Operator σ α α ε] : Prop where
  idle_some {s : σ} {hasInput : Bool} {r : Reaction σ α ε} : X.IsValid s →
    (Operator.idle α s hasInput : Option (Reaction σ α ε)) = some r → X.Continues s (X.held s) r
  idle_none {s : σ} {hasInput : Bool} : X.IsValid s →
    (Operator.idle α s hasInput : Option (Reaction σ α ε)) = none → (X.held s).items = 0
  item {s : σ} (a : α) : X.IsValid s →
    (Operator.idle α s true : Option (Reaction σ α ε)) = none →
    X.Continues s (X.held s + X.image s a + .tick) (Operator.react s (.item a) : Reaction σ α ε)
  again (s : σ) : X.IsValid s →
    (Operator.react s (.again : Signal α ε) : Reaction σ α ε) = .keep s .again
  finish (s : σ) : X.IsValid s →
    (Operator.react s (.finish : Signal α ε) : Reaction σ α ε) = .close s .finish

/-! ## Filters and matchers -/

/-- The expansions of filters and matchers.  The other operators compare or count items. -/
def op {μ : Type} (X : Expansion μ α) : Expansion (Op α μ) α where
  IsValid
    | .filter _ => True
    | .matcher _ m => X.IsValid m
    | _ => False
  held
    | .matcher _ m => X.held m
    | _ => 0
  image
    | .filter f => fun a => ⟨if f.keeps a then {a} else 0, 0⟩
    | .matcher _ m => X.image m
    | _ => fun _ => 0

lemma Continues.matcher {μ : Type} {X : Expansion μ α} {m : μ} {d : Due α} {r : Reaction μ α ε}
    (h : X.Continues m d r) (k : Nat) : X.op.Continues (.matcher k m) d (r.map (.matcher k)) :=
  ⟨h.keepsInput, h.isValid, h.image_eq, h.shows, h.ne_finish⟩

theorem Lawful.op {μ : Type} [Operator μ α α ε] {X : Expansion μ α} (hX : X.Lawful ε) :
    X.op.Lawful ε where
  idle_some {s hasInput r} hs hidle := by
    cases s with
    | matcher k m =>
      obtain ⟨r', hr', rfl⟩ := Option.map_eq_some_iff.1 hidle
      exact (hX.idle_some hs hr').matcher k
    | filter f => cases hidle
    | distinct | slice | sort => exact hs.elim
  idle_none {s hasInput} hs hidle := by
    cases s with
    | matcher k m => exact hX.idle_none hs (Option.map_eq_none_iff.1 hidle)
    | filter f => rfl
    | distinct | slice | sort => exact hs.elim
  item {s} a hs hidle := by
    cases s with
    | matcher k m => exact (hX.item a hs (Option.map_eq_none_iff.1 hidle)).matcher k
    | filter f =>
      have hreact : (Operator.react (.filter f : Op α μ) (.item a) : Reaction (Op α μ) α ε) =
          .keep (.filter f) (if f.keeps a then .item a else .again) := rfl
      rw [hreact]
      by_cases hkeeps : f.keeps a = true
      · rw [if_pos hkeeps]
        exact .keep_item trivial rfl (by simp [Expansion.op, hkeeps]) (by simp [Expansion.op])
      · rw [if_neg hkeeps]
        exact .keep_again trivial rfl (by simp [Expansion.op, hkeeps]) (by simp [Expansion.op])
    | distinct | slice | sort => exact hs.elim
  again s hs := by
    cases s with
    | matcher k m =>
      show (Operator.react m (.again : Signal α ε) : Reaction μ α ε).map (Op.matcher k) = _
      rw [hX.again m hs]
      rfl
    | filter f => rfl
    | distinct | slice | sort => exact hs.elim
  finish s hs := by
    cases s with
    | matcher k m =>
      show (Operator.react m (.finish : Signal α ε) : Reaction μ α ε).map (Op.matcher k) = _
      rw [hX.finish m hs]
      rfl
    | filter f => rfl
    | distinct | slice | sort => exact hs.elim

end Expansion

/-! ## Searches -/

/-- The bindings in which the tries that are left for a pattern end. -/
def Frame.found (index : TripleIndex) (f : Frame) : List Binding :=
  f.candidates.flatMap fun t =>
    (f.pattern.matchTriple f.binding t).elim [] (foundFrom index f.later)

/-- How often a search for some patterns is asked. -/
def effort (index : TripleIndex) : List SlotPattern → Binding → Nat
  | [], _ => 0
  | p :: later, b => ((p.candidates index b).map fun t =>
    (p.matchTriple b t).elim 0 (effort index later) + 1).sum + 1

/-- How often a search is asked for the tries that are left for a pattern. -/
def Frame.effort (index : TripleIndex) (f : Frame) : Nat :=
  (f.candidates.map fun t =>
    (f.pattern.matchTriple f.binding t).elim 0 (SparqlStream.effort index f.later) + 1).sum + 1

namespace Search

variable {ε : Type}

/-- What is shown for a binding: what has been found for it or, failing that, what is kept. -/
def orUnmatched (found : List Binding) (unmatched : Option Binding) : List Binding :=
  if found.isEmpty then unmatched.toList else found

/-- What is kept of a binding without a match. -/
def kept (s : Search) (b : Binding) : Option Binding := if s.optional then some b else none

/-- What the frames of a search will find, as it is shown. -/
def foundByFrames (s : Search) : List Binding :=
  (s.frames.flatMap (Frame.found s.index)).map (·.restrict (· ∉ s.hidden))

/-- What a search shows for a binding. -/
def matchesOf (s : Search) (b : Binding) : List Binding :=
  match s.patterns with
  | [] => [b]
  | ps =>
    orUnmatched ((foundFrom s.index ps b).map (·.restrict (· ∉ s.hidden))) (s.kept b)

/-- What a search still shows before it takes another binding. -/
def left (s : Search) : List Binding := orUnmatched s.foundByFrames s.unmatched

/-- How often a search is asked, at most, before it takes another binding. -/
def work (s : Search) : Nat :=
  (s.frames.map (Frame.effort s.index)).sum + s.unmatched.toList.length

/-- A search that has shown everything. -/
def spent (s : Search) : Search := { s with frames := [], unmatched := none }

/-- The expansion of a search. -/
def expansion : Expansion Search Binding where
  IsValid _ := True
  held s := ⟨orUnmatched s.foundByFrames s.unmatched,
    (s.frames.map (Frame.effort s.index)).sum + s.unmatched.toList.length⟩
  image s b := ⟨s.matchesOf b,
    match s.patterns with
    | [] => 0
    | ps => effort s.index ps b + (s.kept b).toList.length⟩

lemma orUnmatched_none (found : List Binding) : orUnmatched found none = found := by
  cases found <;> rfl

lemma orUnmatched_cons (b : Binding) (found : List Binding) (unmatched : Option Binding) :
    orUnmatched (b :: found) unmatched = b :: found := rfl

/-- What a search may do without taking a binding: it shows the first binding that is left, or
nothing.  In either case less work is left, and the patterns stay as they are. -/
inductive Tries (s : Search) : Reaction Search Binding ε → Prop
  | item {s' : Search} {b : Binding} : s.left = b :: s'.left → s'.spent = s.spent →
    s'.work < s.work → Tries s (.keep s' (.item b))
  | again {s' : Search} : s.left = s'.left → s'.spent = s.spent → s'.work < s.work →
    Tries s (.keep s' .again)

variable {s : Search} {f : Frame} {below : List Frame} {b : Binding}

/-- What a search makes of a binding does not depend on what it is trying. -/
lemma image_eq_of_spent {s' : Search} (h : s'.spent = s.spent) :
    expansion.image s' = expansion.image s := by
  show expansion.image s'.spent = expansion.image s.spent
  rw [h]

lemma Tries.continues {r : Reaction Search Binding ε} (h : s.Tries r) :
    expansion.Continues s (expansion.held s) r := by
  cases h with
  | item hleft hspent hwork =>
    exact .keep_item trivial (image_eq_of_spent hspent) (congrArg Multiset.ofList hleft) hwork
  | again hleft hspent hwork =>
    exact .keep_again trivial (image_eq_of_spent hspent) (congrArg Multiset.ofList hleft) hwork

/-- Trying a triple shows a part of what the frames find. -/
lemma tries_advance (hf : s.frames = f :: below) :
    s.Tries (s.advance f below : Reaction Search Binding ε) := by
  obtain ⟨binding, pattern, candidates, later⟩ := f
  cases candidates with
  | nil =>
    refine .again ?_ rfl ?_
    · simp [left, foundByFrames, hf, Frame.found]
    · simp [work, hf, Frame.effort]
  | cons t rest =>
    cases hmatch : pattern.matchTriple binding t with
    | none =>
      simp only [advance, hmatch]
      refine .again ?_ rfl ?_
      · simp [left, foundByFrames, hf, Frame.found, hmatch]
      · simp [work, hf, Frame.effort, hmatch]
    | some b =>
      cases later with
      | nil =>
        simp only [advance, hmatch]
        refine .item ?_ rfl ?_
        · simp [left, foundByFrames, hf, Frame.found, visible, hmatch, orUnmatched_none,
            foundFrom, orUnmatched_cons]
        · simp [work, hf, Frame.effort, hmatch, effort]
          omega
      | cons p later =>
        simp only [advance, hmatch]
        refine .again (congrArg (orUnmatched · s.unmatched) (congrArg (List.map _) ?_)) rfl ?_
        · simp [hf, Frame.found, hmatch, enter, foundFrom]
        · simp [work, hf, Frame.effort, hmatch, effort, enter]
          omega

/-- A search that has something to do tries it. -/
lemma tries_of_idle {r : Reaction Search Binding ε} (h : s.idle = some r) : s.Tries r := by
  unfold idle at h
  split at h
  · next f below _ hf =>
    obtain rfl := Option.some.inj h
    exact tries_advance hf
  · next b hf hb =>
    obtain rfl := Option.some.inj h
    refine .item ?_ rfl ?_
    · simp [left, foundByFrames, hf, hb, orUnmatched]
    · simp [work, hf, hb]
  · cases h

/-- A search that has nothing to do is spent. -/
lemma spent_eq_self (h : (s.idle : Option (Reaction Search Binding ε)) = none) : s.spent = s := by
  unfold idle at h
  split at h
  · cases h
  · cases h
  · next hf hb => rw [spent, ← hf, ← hb]

lemma idle_spent (s : Search) : (s.spent.idle : Option (Reaction Search Binding ε)) = none := rfl

lemma left_spent (s : Search) : s.spent.left = [] := rfl

/-- A spent search shows a binding at once, or begins to search for its matches. -/
lemma begin_cases (hs : s.spent = s) (b : Binding) :
    s.matchesOf b = [b] ∧ (s.begin b : Reaction Search Binding ε) = .keep s (.item b) ∨
      ∃ s', (s.begin b : Reaction Search Binding ε) = .keep s' .again ∧ s'.spent = s ∧
        s'.left = s.matchesOf b ∧ s'.work < (expansion.image s b).work + 1 := by
  obtain ⟨index, patterns, hidden, optional, frames, unmatched⟩ := s
  obtain ⟨rfl, rfl⟩ : frames = [] ∧ unmatched = none :=
    ⟨(congrArg Search.frames hs).symm, (congrArg Search.unmatched hs).symm⟩
  cases patterns with
  | nil => exact .inl ⟨rfl, rfl⟩
  | cons p later =>
    refine .inr ⟨_, rfl, rfl, congrArg (orUnmatched · _) (congrArg (List.map _) ?_), ?_⟩
    · simp [enter, Frame.found, foundFrom]
    · simp [work, expansion, enter, kept, Frame.effort, effort]

/-- Its expansion says what a search does. -/
theorem lawful : expansion.Lawful ε where
  idle_some _ hidle := (tries_of_idle hidle).continues
  idle_none {s hasInput} _ hidle := by
    have hleft : s.left = [] := by rw [← spent_eq_self hidle, left_spent]
    exact congrArg Multiset.ofList hleft
  item {s} b _ hidle := by
    have hs : s.spent = s := spent_eq_self hidle
    have hheld : expansion.held s = 0 := by rw [← hs]; rfl
    have hbegin : expansion.Continues s (expansion.image s b + .tick)
        (s.begin b : Reaction Search Binding ε) := by
      rcases begin_cases hs b with ⟨himage, hbegin⟩ | ⟨s', hbegin, hs', hleft, hwork⟩
      · rw [hbegin]
        refine .keep_item trivial rfl ?_ ?_
        · rw [hheld, Due.add_items, Due.tick_items, add_zero]
          exact congrArg Multiset.ofList himage
        · rw [hheld]
          exact Nat.succ_pos _
      · rw [hbegin]
        refine .keep_again trivial (image_eq_of_spent (hs'.trans hs.symm)) ?_ hwork
        rw [Due.add_items, Due.tick_items, add_zero]
        exact congrArg Multiset.ofList hleft.symm
    rw [hheld, zero_add]
    exact hbegin
  again _ _ := rfl
  finish _ _ := rfl

end Search

end SparqlStream
