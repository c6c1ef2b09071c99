import Mathlib.Tactic
import SparqlStream.Query.Wiring

/-!
# What matchers are asked for

Laying out groups asks for a matcher where it meets a basic graph pattern.  Whether the matcher has
to keep bindings without a match is decided on the way to the pattern: an optional group says yes, a
sequence and a union say no, and a filter leaves it as it is.

`Group.at?` and `Group.around` say without a layout what stands at a position of a tree and what is
around it.  `Wiring.asks_patterns` compares the two: the calls of a layout, in the order in which
they are made, belong to the positions of the patterns from left to right, one call to each, and a
call is optional if the nearest group around the position is an optional group, filters apart.  The
network holds the matcher of every call once, and no other one that was not there before.
-/

namespace SparqlStream

/-! ## Positions in trees of groups -/

namespace Group

/-- The groups directly inside a group, from left to right. -/
def children : Group → List Group
  | pattern _ => []
  | sequence children | optional children | union children => children
  | filter _ inner => [inner]

/-- The group at a position, which says at each level which of the children is meant. -/
def at? (g : Group) : List Nat → Option Group
  | [] => some g
  | i :: rest => g.children[i]?.bind (·.at? rest)

/-- The groups around a position, from the inside to the outside. -/
def around (g : Group) : List Nat → List Group
  | [] => []
  | i :: rest => g.children[i]?.elim [] (·.around rest) ++ [g]

/-- The group at a position of a list of trees. -/
def find? (gs : List Group) : List Nat → Option Group
  | [] => none
  | i :: rest => gs[i]?.bind (·.at? rest)

/-- The groups around a position of a list of trees, from the inside to the outside. -/
def enclosing (gs : List Group) : List Nat → List Group
  | [] => []
  | i :: rest => gs[i]?.elim [] (·.around rest)

def isFilter : Group → Bool
  | filter .. => true
  | _ => false

def isOptional : Group → Bool
  | optional _ => true
  | _ => false

/-- Whether patterns inside some groups are optional, given whether they are outside of them. -/
def makesOptional (outside : Bool) (groups : List Group) : Bool :=
  (groups.find? (!·.isFilter)).elim outside isOptional

mutual

/-- The positions of the basic graph patterns of a group from left to right. -/
def positions : Group → List (List Nat)
  | pattern _ => [[]]
  | sequence children | optional children | union children => positionsFrom 0 children
  | filter _ inner => inner.positions.map (0 :: ·)

/-- The positions of the basic graph patterns of some groups, of which the first has a number. -/
def positionsFrom (number : Nat) : List Group → List (List Nat)
  | [] => []
  | g :: rest => g.positions.map (number :: ·) ++ positionsFrom (number + 1) rest

end

mutual

/-- What is asked for the patterns of a group from left to right. -/
def asks (optional : Bool) : Group → List MatcherCall
  | .pattern ps => [⟨ps, optional⟩]
  | .sequence children | .union children => asksAll false children
  | .optional children => asksAll true children
  | .filter _ inner => inner.asks optional

/-- What is asked for the patterns of some groups from left to right. -/
def asksAll (optional : Bool) : List Group → List MatcherCall
  | [] => []
  | g :: rest => g.asks optional ++ asksAll optional rest

end

variable {g : Group} {gs : List Group} {p : List Nat} {number : Nat} {outside : Bool}

/-! ### Groups that are no patterns -/

/-- A group with children has the positions of its children. -/
lemma positions_eq (hg : ∀ ps, g ≠ .pattern ps) : g.positions = positionsFrom 0 g.children := by
  cases g with
  | pattern ps => exact absurd rfl (hg ps)
  | sequence | optional | union => rw [positions, children]
  | filter condition inner =>
    rw [positions, children, positionsFrom, positionsFrom, List.append_nil]

/-- A group with children asks for what its children ask for. -/
lemma asks_eq (outside : Bool) (hg : ∀ ps, g ≠ .pattern ps) :
    g.asks outside = asksAll (makesOptional outside [g]) g.children := by
  cases g with
  | pattern ps => exact absurd rfl (hg ps)
  | sequence children => rw [asks]; rfl
  | optional children => rw [asks]; rfl
  | union children => rw [asks]; rfl
  | filter condition inner =>
    rw [asks, children, asksAll, asksAll, List.append_nil]
    rfl

/-- Induction over a group, with a hypothesis for each child. -/
theorem induction {motive : Group → Prop} (pattern : ∀ ps, motive (.pattern ps))
    (node : ∀ g, (∀ ps, g ≠ .pattern ps) → (∀ c ∈ g.children, motive c) → motive g) (g : Group) :
    motive g :=
  Group.rec (motive_1 := motive) (motive_2 := fun gs => ∀ c ∈ gs, motive c) pattern
    (fun _ h => node _ (by simp) h) (fun _ h => node _ (by simp) h)
    (fun _ h => node _ (by simp) h)
    (fun _ _ h => node _ (by simp) (List.forall_mem_singleton.2 h))
    (List.forall_mem_nil _) (fun _ _ hg hrest => List.forall_mem_cons.2 ⟨hg, hrest⟩) g

lemma at?_cons (g : Group) (i : Nat) (p : List Nat) : g.at? (i :: p) = find? g.children (i :: p) :=
  rfl

lemma around_cons (g : Group) (i : Nat) (p : List Nat) :
    g.around (i :: p) = enclosing g.children (i :: p) ++ [g] := rfl

lemma makesOptional_concat (outside : Bool) (inner : List Group) (g : Group) :
    makesOptional outside (inner ++ [g]) = makesOptional (makesOptional outside [g]) inner := by
  rw [makesOptional, makesOptional, List.find?_append]
  cases inner.find? (!·.isFilter) with
  | none => rfl
  | some h => rfl

lemma makesOptional_eq_true :
    makesOptional false gs = true ↔
      ∃ children, gs.find? (!·.isFilter) = some (.optional children) := by
  rw [makesOptional]
  cases hfind : gs.find? (!·.isFilter) with
  | none => simp
  | some g => cases g <;> simp [isOptional]

/-! ### Patterns from left to right -/

section Forest

variable {all : List Group}

lemma getElem?_of_drop (h : all.drop number = g :: gs) : all[number]? = some g := by
  have hzero : (all.drop number)[0]? = some g := by rw [h, List.getElem?_cons_zero]
  rwa [List.getElem?_drop, Nat.add_zero] at hzero

lemma drop_succ_of_drop (h : all.drop number = g :: gs) : all.drop (number + 1) = gs := by
  rw [← List.drop_drop, h, List.drop_one, List.tail_cons]

/-- Positions are read off groups one after another, the number being that of the next one. -/
lemma mem_positionsFrom (hall : ∀ g ∈ all, ∀ q, q ∈ g.positions ↔ ∃ ps, g.at? q = some (.pattern ps))
    (hgs : all.drop number = gs) :
    p ∈ positionsFrom number gs ↔
      ∃ i q, p = i :: q ∧ number ≤ i ∧ ∃ ps, find? all p = some (.pattern ps) := by
  induction gs generalizing number with
  | nil =>
    rw [positionsFrom]
    refine iff_of_false List.not_mem_nil ?_
    rintro ⟨i, q, rfl, hi, ps, hfind⟩
    have hnone : all[i]? = none :=
      List.getElem?_eq_none ((List.drop_eq_nil_iff.1 hgs).trans hi)
    rw [find?, hnone] at hfind
    cases hfind
  | cons g gs ih =>
    have hget := getElem?_of_drop hgs
    rw [positionsFrom, List.mem_append, List.mem_map, ih (drop_succ_of_drop hgs)]
    constructor
    · rintro (⟨q, hq, rfl⟩ | ⟨i, q, rfl, hi, hfind⟩)
      · refine ⟨number, q, rfl, le_rfl, ?_⟩
        rw [find?, hget, Option.bind_some]
        exact (hall g (List.mem_of_getElem? hget) q).1 hq
      · exact ⟨i, q, rfl, by omega, hfind⟩
    · rintro ⟨i, q, rfl, hi, hfind⟩
      rcases Nat.eq_or_lt_of_le hi with rfl | hlt
      · rw [find?, hget, Option.bind_some] at hfind
        exact .inl ⟨q, (hall g (List.mem_of_getElem? hget) q).2 hfind, rfl⟩
      · exact .inr ⟨i, q, rfl, hlt, hfind⟩

lemma mem_positionsFrom_zero
    (hall : ∀ g ∈ all, ∀ q, q ∈ g.positions ↔ ∃ ps, g.at? q = some (.pattern ps)) :
    p ∈ positionsFrom 0 all ↔ ∃ ps, find? all p = some (.pattern ps) := by
  rw [mem_positionsFrom hall List.drop_zero]
  constructor
  · rintro ⟨i, q, -, -, hfind⟩
    exact hfind
  · rintro ⟨ps, hfind⟩
    cases p with
    | nil => cases hfind
    | cons i q => exact ⟨i, q, rfl, Nat.zero_le i, ps, hfind⟩

/-- Positions of earlier groups come before those of later ones. -/
lemma pairwise_positionsFrom (hgs : ∀ g ∈ gs, g.positions.Pairwise (· < ·)) :
    (positionsFrom number gs).Pairwise (· < ·) ∧
      ∀ p ∈ positionsFrom number gs, ∃ i q, p = i :: q ∧ number ≤ i := by
  induction gs generalizing number with
  | nil =>
    rw [positionsFrom]
    exact ⟨.nil, List.forall_mem_nil _⟩
  | cons g gs ih =>
    obtain ⟨hg, hrest⟩ := List.forall_mem_cons.1 hgs
    rw [positionsFrom]
    obtain ⟨hsorted, hheads⟩ : (positionsFrom (number + 1) gs).Pairwise (· < ·) ∧
        ∀ p ∈ positionsFrom (number + 1) gs, ∃ i q, p = i :: q ∧ number + 1 ≤ i := ih hrest
    refine ⟨List.pairwise_append.2 ⟨?_, hsorted, fun p hp q hq => ?_⟩,
      List.forall_mem_append.2 ⟨fun p hp => ?_, fun p hp => ?_⟩⟩
    · exact hg.map _ fun p q h => List.cons_lt_cons_iff.2 (.inr ⟨rfl, h⟩)
    · obtain ⟨p', -, rfl⟩ := List.mem_map.1 hp
      obtain ⟨i, q', rfl, hi⟩ := hheads q hq
      exact List.cons_lt_cons_iff.2 (.inl hi)
    · obtain ⟨p', -, rfl⟩ := List.mem_map.1 hp
      exact ⟨number, p', rfl, le_rfl⟩
    · obtain ⟨i, q, rfl, hi⟩ := hheads p hp
      exact ⟨i, q, rfl, by omega⟩

/-- A call asks for the patterns at a position, and whether they are optional is decided by the
groups around them. -/
def IsCallAt (gs : List Group) (outside : Bool) (p : List Nat) (c : MatcherCall) : Prop :=
  find? gs p = some (.pattern c.patterns) ∧ c.optional = makesOptional outside (enclosing gs p)

lemma forall₂_positionsFrom
    (hall : ∀ g ∈ all, List.Forall₂ (fun q c => g.at? q = some (.pattern c.patterns) ∧
      c.optional = makesOptional outside (g.around q)) g.positions (g.asks outside))
    (hgs : all.drop number = gs) :
    List.Forall₂ (IsCallAt all outside) (positionsFrom number gs) (asksAll outside gs) := by
  induction gs generalizing number with
  | nil =>
    rw [positionsFrom, asksAll]
    exact .nil
  | cons g gs ih =>
    have hget := getElem?_of_drop hgs
    rw [positionsFrom, asksAll]
    refine List.rel_append ?_ (ih (drop_succ_of_drop hgs))
    rw [List.forall₂_map_left_iff]
    refine (hall g (List.mem_of_getElem? hget)).imp fun q c hcall => ?_
    rw [IsCallAt, find?, enclosing, hget, Option.bind_some, Option.elim_some]
    exact hcall

end Forest

theorem mem_positions (g : Group) (p : List Nat) :
    p ∈ g.positions ↔ ∃ ps, g.at? p = some (.pattern ps) := by
  induction g using Group.induction generalizing p with
  | pattern ps =>
    rw [positions, List.mem_singleton]
    cases p with
    | nil => exact iff_of_true rfl ⟨ps, rfl⟩
    | cons i q => exact iff_of_false (List.cons_ne_nil i q) (by rintro ⟨ps', ⟨⟩⟩)
  | node g hg ih =>
    rw [positions_eq hg, mem_positionsFrom_zero ih]
    cases p with
    | nil =>
      refine iff_of_false ?_ ?_
      · rintro ⟨ps, ⟨⟩⟩
      · rintro ⟨ps, hat⟩
        exact hg ps (Option.some.inj hat)
    | cons i q => rw [at?_cons]

theorem pairwise_positions (g : Group) : g.positions.Pairwise (· < ·) := by
  induction g using Group.induction with
  | pattern ps =>
    rw [positions]
    exact List.pairwise_singleton _ _
  | node g hg ih =>
    rw [positions_eq hg]
    exact (pairwise_positionsFrom ih).1

/-- What is asked for, position by position. -/
theorem forall₂_positions (g : Group) (outside : Bool) :
    List.Forall₂ (fun p c => g.at? p = some (.pattern c.patterns) ∧
      c.optional = makesOptional outside (g.around p)) g.positions (g.asks outside) := by
  induction g using Group.induction generalizing outside with
  | pattern ps =>
    rw [positions, asks]
    exact .cons ⟨rfl, rfl⟩ .nil
  | node g hg ih =>
    rw [positions_eq hg, asks_eq outside hg]
    have hcalls : List.Forall₂ (IsCallAt g.children (makesOptional outside [g])) _ _ :=
      forall₂_positionsFrom (fun c hc => ih c hc _) List.drop_zero
    refine hcalls.imp fun p c hcall => ?_
    cases p with
    | nil => cases hcall.1
    | cons i q =>
      rw [at?_cons, around_cons, makesOptional_concat]
      exact hcall

end Group

/-! ## Layouts -/

namespace Op

variable {α μ : Type}

/-- The matcher of an operator with its number, if it has one. -/
def matchers : Op α μ → Multiset (Nat × μ)
  | matcher number m => {(number, m)}
  | _ => 0

end Op

namespace Stage

variable {α μ : Type}

mutual

/-- The matchers of a stage with their numbers. -/
def matchers : Stage α μ → Multiset (Nat × μ)
  | source _ | branch .. => 0
  | operator op input => matchers input + op.matchers
  | drained op => op.matchers
  | union inputs _ => matchersOf inputs

/-- The matchers of some stages with their numbers. -/
def matchersOf : List (Stage α μ) → Multiset (Nat × μ)
  | [] => 0
  | s :: rest => matchers s + matchersOf rest

end

end Stage

namespace Wiring

variable {μ : Type}

/-- The matchers below the hubs. -/
def matchers (w : Wiring μ) : Multiset (Nat × μ) :=
  (w.hubs.map fun h => h.input.elim 0 Stage.matchers).sum

/-- The matchers that are supplied for some calls, of which the first has a number. -/
def supplied (supply : MatcherSupply μ) (number : Nat) (calls : List MatcherCall) :
    Multiset (Nat × μ) :=
  (calls.zipIdx number).map fun (call, k) => (k, supply k call)

/-- A layout has gone on: some calls have been made, and the matchers of the stages at hand and of
those below the hubs are those that were there before and those supplied for these calls. -/
structure Consults (supply : MatcherSupply μ) (w : Wiring μ) (before : Multiset (Nat × μ))
    (w' : Wiring μ) (after : Multiset (Nat × μ)) (calls : List MatcherCall) : Prop where
  calls_eq : w'.calls = w.calls ++ calls
  matchers_eq : w'.matchers + after =
    w.matchers + before + supplied supply w.calls.length calls

variable {supply : MatcherSupply μ} {w w' w₁ w₂ : Wiring μ}
  {before after m m₁ m₂ : Multiset (Nat × μ)} {calls calls' : List MatcherCall}

lemma supplied_append (supply : MatcherSupply μ) (number : Nat) (calls calls' : List MatcherCall) :
    supplied supply number (calls ++ calls') =
      supplied supply number calls + supplied supply (number + calls.length) calls' := by
  rw [supplied, List.zipIdx_append, List.map_append, ← Multiset.coe_add]
  rfl

lemma Consults.refl (supply : MatcherSupply μ) (w : Wiring μ) (m : Multiset (Nat × μ)) :
    Consults supply w m w m [] where
  calls_eq := (List.append_nil _).symm
  matchers_eq := (add_zero _).symm

lemma Consults.trans (h : Consults supply w m w₁ m₁ calls)
    (h' : Consults supply w₁ m₁ w₂ m₂ calls') : Consults supply w m w₂ m₂ (calls ++ calls') where
  calls_eq := by rw [h'.calls_eq, h.calls_eq, List.append_assoc]
  matchers_eq := by
    rw [h'.matchers_eq, h.matchers_eq, supplied_append, h.calls_eq, List.length_append, add_assoc]

/-- Stages that are set aside keep their matchers. -/
lemma Consults.frame (h : Consults supply w before w' after calls) (m : Multiset (Nat × μ)) :
    Consults supply w (m + before) w' (m + after) calls where
  calls_eq := h.calls_eq
  matchers_eq := by
    rw [add_left_comm, h.matchers_eq, add_left_comm w.matchers, add_assoc m]

lemma consults_addMatcher (supply : MatcherSupply μ) (call : MatcherCall) (input : Stage Binding μ)
    (w : Wiring μ) :
    Consults supply w input.matchers (addMatcher supply call input w).2
      (addMatcher supply call input w).1.matchers [call] where
  calls_eq := rfl
  matchers_eq := by
    have hmatchers : (addMatcher supply call input w).1.matchers =
        input.matchers + {(w.calls.length, supply w.calls.length call)} := rfl
    rw [hmatchers, ← add_assoc]
    rfl

/-- The stage at hand becomes the input of a hub, of which nothing has been read. -/
lemma consults_addHub (supply : MatcherSupply μ) (input : Stage Binding μ) (w : Wiring μ)
    (count : Nat) :
    Consults supply w input.matchers { w with hubs := w.hubs ++ [.start input (count + 1)] } 0
      [] where
  calls_eq := (List.append_nil _).symm
  matchers_eq := by
    have hhub : (Hub.start (α := Binding) input (count + 1)).input = some input := rfl
    have hsupplied : supplied supply w.calls.length [] = 0 := rfl
    rw [matchers, List.map_append, List.sum_append, List.map_singleton, List.sum_singleton, hhub,
      Option.elim_some, add_zero, hsupplied, add_zero]
    rfl

variable (eval : Evaluator)

mutual

/-- Laying out a group makes its calls. -/
theorem consults_addGroup (supply : MatcherSupply μ) (optional : Bool) (input : Stage Binding μ)
    (w : Wiring μ) : (g : Group) →
      Consults supply w input.matchers (addGroup supply eval optional input w g).2
        (addGroup supply eval optional input w g).1.matchers (g.asks optional)
  | .pattern patterns => by
    rw [addGroup, Group.asks]
    exact consults_addMatcher supply ⟨patterns, optional⟩ input w
  | .sequence children => by
    rw [addGroup, Group.asks]
    exact consults_addGroups supply false input w children
  | .optional children => by
    rw [addGroup, Group.asks]
    exact consults_addGroups supply true input w children
  | .union [] => by
    rw [addGroup, Group.asks, Group.asksAll]
    exact .refl supply w _
  | .union (first :: rest) => by
    have hbranches := consults_addBranches supply w.hubs.length 0
      { w with hubs := w.hubs ++ [.start input (rest.length + 1)] } (first :: rest)
    rw [addGroup, Group.asks]
    exact (consults_addHub supply input w rest.length).trans hbranches
  | .filter condition inner => by
    have hinner := consults_addGroup supply optional input w inner
    have hop : (Op.filter ⟨condition.holds eval⟩ : Op Binding μ).matchers = 0 := rfl
    rw [addGroup, Group.asks, Stage.matchers, hop, add_zero]
    exact hinner

/-- Laying out groups one after another makes the calls of each. -/
theorem consults_addGroups (supply : MatcherSupply μ) (optional : Bool) (input : Stage Binding μ)
    (w : Wiring μ) : (groups : List Group) →
      Consults supply w input.matchers (addGroups supply eval optional input w groups).2
        (addGroups supply eval optional input w groups).1.matchers (Group.asksAll optional groups)
  | [] => by
    rw [addGroups, Group.asksAll]
    exact .refl supply w _
  | first :: rest => by
    rw [addGroups, Group.asksAll]
    exact (consults_addGroup supply optional input w first).trans
      (consults_addGroups supply optional _ _ rest)

/-- Laying out groups behind the branches of a hub makes the calls of each. -/
theorem consults_addBranches (supply : MatcherSupply μ) (hub slot : Nat) (w : Wiring μ) :
    (groups : List Group) →
      Consults supply w 0 (addBranches supply eval hub slot w groups).2
        (Stage.matchersOf (addBranches supply eval hub slot w groups).1)
        (Group.asksAll false groups)
  | [] => by
    rw [addBranches, Group.asksAll]
    exact .refl supply w _
  | first :: rest => by
    have hfirst := consults_addGroup supply false (.branch hub slot) w first
    have hrest := (consults_addBranches supply hub (slot + 1)
      (addGroup supply eval false (.branch hub slot) w first).2 rest).frame
        (addGroup supply eval false (.branch hub slot) w first).1.matchers
    rw [add_zero] at hrest
    rw [addBranches, Group.asksAll]
    exact hfirst.trans hrest

end

/-- **What matchers are asked for.**  Laying out some groups makes one call for each of their basic
graph patterns, from left to right, with the triple patterns that stand there.  A call is optional if
around its pattern there is a group that is not a filter, and the nearest such group is optional.
The matchers that are added to the network are those that are supplied for these calls. -/
theorem asks_patterns (supply : MatcherSupply μ) (input : Stage Binding μ) (w : Wiring μ)
    (groups : List Group) :
    ∃ positions calls,
      positions.Pairwise (· < ·) ∧
      (∀ p, p ∈ positions ↔ ∃ patterns, Group.find? groups p = some (.pattern patterns)) ∧
      List.Forall₂ (fun p (call : MatcherCall) =>
        Group.find? groups p = some (.pattern call.patterns) ∧
          (call.optional = true ↔ ∃ children,
            (Group.enclosing groups p).find? (!·.isFilter) = some (.optional children)))
        positions calls ∧
      (addGroups supply eval false input w groups).2.calls = w.calls ++ calls ∧
      (addGroups supply eval false input w groups).2.matchers +
          (addGroups supply eval false input w groups).1.matchers =
        w.matchers + input.matchers + supplied supply w.calls.length calls := by
  obtain ⟨hcalls, hmatchers⟩ := consults_addGroups eval supply false input w groups
  refine ⟨Group.positionsFrom 0 groups, Group.asksAll false groups, ?_, fun p => ?_, ?_, hcalls,
    hmatchers⟩
  · exact (Group.pairwise_positionsFrom fun g _ => g.pairwise_positions).1
  · exact Group.mem_positionsFrom_zero fun g _ => g.mem_positions
  · refine (Group.forall₂_positionsFrom (fun g _ => g.forall₂_positions false)
      List.drop_zero).imp fun p call hcall => ⟨hcall.1, ?_⟩
    rw [hcall.2, Group.makesOptional_eq_true]

/-- Of the patterns in an optional group, those below a sequence or a union are not optional. -/
example (condition : Expression) :
    (Group.asksAll false [.pattern [], .optional [.pattern [], .filter condition (.pattern []),
      .sequence [.pattern []], .union [.pattern [], .optional [.pattern []]]]]).map (·.optional) =
      [false, true, true, false, false, true] := rfl

end Wiring

end SparqlStream
