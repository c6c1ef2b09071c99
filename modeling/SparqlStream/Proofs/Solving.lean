import Mathlib.Tactic
import SparqlStream.Proofs.Expansion

/-!
# Solving groups

A group combines what its basic graph patterns make of bindings, and does not look at the graph
itself.  `Group.solutionsBy` is a group as a function of the way in which patterns are answered.
Answered from a graph, a group has the solutions of its meaning; answered by the searches of an
index, it has the bindings that a pipeline shows.

Two ways to answer patterns that agree up to the order give permuted solutions:
`Group.solutionsBy_perm`.  It is enough that they agree on some kind of patterns and bindings, as
long as the answers stay of that kind.
-/

namespace SparqlStream

/-- A way to answer patterns: what they make of a binding, given whether they are optional. -/
abbrev Answering := List TriplePattern → Bool → Binding → List Binding

/-! ## Groups -/

namespace Group

mutual

/-- What a group makes of a binding, if its patterns are answered in a given way. -/
def solutionsBy (answer : Answering) (eval : Evaluator) (optional : Bool) (b : Binding) :
    Group → List Binding
  | pattern ps => answer ps optional b
  | sequence children => solutionsInTurnBy answer eval false b children
  | .optional children => solutionsInTurnBy answer eval true b children
  | union [] => [b]
  | union (first :: rest) =>
    solutionsBy answer eval false b first ++ solutionsAsideBy answer eval b rest
  | filter condition inner =>
    (solutionsBy answer eval optional b inner).filter (condition.holds eval)

/-- What some groups make of a binding, one after another. -/
def solutionsInTurnBy (answer : Answering) (eval : Evaluator) (optional : Bool) (b : Binding) :
    List Group → List Binding
  | [] => [b]
  | first :: rest =>
    (solutionsBy answer eval optional b first).flatMap fun b =>
      solutionsInTurnBy answer eval optional b rest

/-- What some groups make of the same binding, side by side. -/
def solutionsAsideBy (answer : Answering) (eval : Evaluator) (b : Binding) :
    List Group → List Binding
  | [] => []
  | first :: rest => solutionsBy answer eval false b first ++ solutionsAsideBy answer eval b rest

end

/-! ### Answers from a graph -/

mutual

lemma solutionsBy_solutions (g : Graph) (eval : Evaluator) (optional : Bool) (b : Binding) :
    (group : Group) →
      group.solutionsBy g.solutions eval optional b = group.solutions g eval optional b
  | .pattern ps => by rw [solutionsBy, solutions]
  | .sequence children => by
    rw [solutionsBy, solutions]
    exact solutionsInTurnBy_solutions g eval false b children
  | .optional children => by
    rw [solutionsBy, solutions]
    exact solutionsInTurnBy_solutions g eval true b children
  | .union [] => by rw [solutionsBy, solutions]
  | .union (first :: rest) => by
    rw [solutionsBy, solutions, solutionsBy_solutions g eval false b first,
      solutionsAsideBy_solutions g eval b rest]
  | .filter condition inner => by
    rw [solutionsBy, solutions, solutionsBy_solutions g eval optional b inner]

lemma solutionsInTurnBy_solutions (g : Graph) (eval : Evaluator) (optional : Bool) (b : Binding) :
    (groups : List Group) →
      solutionsInTurnBy g.solutions eval optional b groups =
        solutionsInTurn g eval optional b groups
  | [] => by rw [solutionsInTurnBy, solutionsInTurn]
  | first :: rest => by
    rw [solutionsInTurnBy, solutionsInTurn, solutionsBy_solutions g eval optional b first]
    exact List.flatMap_congr fun b' _ => solutionsInTurnBy_solutions g eval optional b' rest

lemma solutionsAsideBy_solutions (g : Graph) (eval : Evaluator) (b : Binding) :
    (groups : List Group) →
      solutionsAsideBy g.solutions eval b groups = solutionsAside g eval b groups
  | [] => by rw [solutionsAsideBy, solutionsAside]
  | first :: rest => by
    rw [solutionsAsideBy, solutionsAside, solutionsBy_solutions g eval false b first,
      solutionsAsideBy_solutions g eval b rest]

end

end Group

/-! ## Kinds of patterns and bindings -/

namespace Answering

variable {R : TriplePattern → Prop} {P : Binding → Prop} {answer answer' : Answering}

/-- Patterns of a kind make bindings of a kind of such bindings. -/
def Keeps (R : TriplePattern → Prop) (P : Binding → Prop) (answer : Answering) : Prop :=
  ∀ ⦃ps optional b b'⦄, (∀ p ∈ ps, R p) → P b → b' ∈ answer ps optional b → P b'

/-- Patterns of a kind are answered alike for bindings of a kind, up to the order. -/
def Agrees (R : TriplePattern → Prop) (P : Binding → Prop) (answer answer' : Answering) : Prop :=
  ∀ ⦃ps optional b⦄, (∀ p ∈ ps, R p) → P b → (answer ps optional b).Perm (answer' ps optional b)

end Answering

namespace Group

open Answering

section Keeps

variable {R : TriplePattern → Prop} {P : Binding → Prop} {answer : Answering} {eval : Evaluator}

mutual

/-- What groups make of bindings of a kind is of this kind, if their patterns keep it. -/
theorem kept_solutionsBy (h : Keeps R P answer) {optional : Bool} {b b' : Binding} (hb : P b) :
    (group : Group) → (∀ p ∈ group.triplePatterns, R p) →
      b' ∈ group.solutionsBy answer eval optional b → P b'
  | .pattern ps, hps, hb' => by
    rw [solutionsBy] at hb'
    exact h hps hb hb'
  | .sequence children, hps, hb' => by
    rw [solutionsBy] at hb'
    exact kept_solutionsInTurnBy h hb children hps hb'
  | .optional children, hps, hb' => by
    rw [solutionsBy] at hb'
    exact kept_solutionsInTurnBy h hb children hps hb'
  | .union [], hps, hb' => by
    rw [solutionsBy, List.mem_singleton] at hb'
    rwa [hb']
  | .union (first :: rest), hps, hb' => by
    rw [solutionsBy, List.mem_append] at hb'
    rw [triplePatterns, allTriplePatterns, List.forall_mem_append] at hps
    rcases hb' with hb' | hb'
    · exact kept_solutionsBy h hb first hps.1 hb'
    · exact kept_solutionsAsideBy h hb rest hps.2 hb'
  | .filter condition inner, hps, hb' => by
    rw [solutionsBy] at hb'
    exact kept_solutionsBy h hb inner hps (List.mem_filter.1 hb').1

theorem kept_solutionsInTurnBy (h : Keeps R P answer) {optional : Bool} {b b' : Binding}
    (hb : P b) : (groups : List Group) → (∀ p ∈ allTriplePatterns groups, R p) →
      b' ∈ solutionsInTurnBy answer eval optional b groups → P b'
  | [], _, hb' => by
    rw [solutionsInTurnBy, List.mem_singleton] at hb'
    rwa [hb']
  | first :: rest, hps, hb' => by
    rw [solutionsInTurnBy] at hb'
    rw [allTriplePatterns, List.forall_mem_append] at hps
    obtain ⟨b₁, hb₁, hb'⟩ := List.mem_flatMap.1 hb'
    exact kept_solutionsInTurnBy h (kept_solutionsBy h hb first hps.1 hb₁) rest hps.2 hb'

theorem kept_solutionsAsideBy (h : Keeps R P answer) {b b' : Binding} (hb : P b) :
    (groups : List Group) → (∀ p ∈ allTriplePatterns groups, R p) →
      b' ∈ solutionsAsideBy answer eval b groups → P b'
  | [], _, hb' => by
    rw [solutionsAsideBy] at hb'
    cases hb'
  | first :: rest, hps, hb' => by
    rw [solutionsAsideBy, List.mem_append] at hb'
    rw [allTriplePatterns, List.forall_mem_append] at hps
    rcases hb' with hb' | hb'
    · exact kept_solutionsBy h hb first hps.1 hb'
    · exact kept_solutionsAsideBy h hb rest hps.2 hb'

end

end Keeps

section Agrees

variable {R : TriplePattern → Prop} {P : Binding → Prop} {answer answer' : Answering}

mutual

/-- Groups make the same of bindings, up to the order, if their patterns do. -/
theorem solutionsBy_perm (hkeeps : Keeps R P answer) (h : Agrees R P answer answer')
    (eval : Evaluator) (optional : Bool) {b : Binding} (hb : P b) :
    (group : Group) → (∀ p ∈ group.triplePatterns, R p) →
      (group.solutionsBy answer eval optional b).Perm
        (group.solutionsBy answer' eval optional b)
  | .pattern ps, hps => by
    rw [solutionsBy, solutionsBy]
    exact h hps hb
  | .sequence children, hps => by
    rw [solutionsBy, solutionsBy]
    exact solutionsInTurnBy_perm hkeeps h eval false hb children hps
  | .optional children, hps => by
    rw [solutionsBy, solutionsBy]
    exact solutionsInTurnBy_perm hkeeps h eval true hb children hps
  | .union [], _ => by rw [solutionsBy, solutionsBy]
  | .union (first :: rest), hps => by
    rw [triplePatterns, allTriplePatterns, List.forall_mem_append] at hps
    rw [solutionsBy, solutionsBy]
    exact (solutionsBy_perm hkeeps h eval false hb first hps.1).append
      (solutionsAsideBy_perm hkeeps h eval hb rest hps.2)
  | .filter condition inner, hps => by
    rw [solutionsBy, solutionsBy]
    exact (solutionsBy_perm hkeeps h eval optional hb inner hps).filter _

theorem solutionsInTurnBy_perm (hkeeps : Keeps R P answer) (h : Agrees R P answer answer')
    (eval : Evaluator) (optional : Bool) {b : Binding} (hb : P b) :
    (groups : List Group) → (∀ p ∈ allTriplePatterns groups, R p) →
      (solutionsInTurnBy answer eval optional b groups).Perm
        (solutionsInTurnBy answer' eval optional b groups)
  | [], _ => by rw [solutionsInTurnBy, solutionsInTurnBy]
  | first :: rest, hps => by
    rw [allTriplePatterns, List.forall_mem_append] at hps
    rw [solutionsInTurnBy, solutionsInTurnBy]
    have hfirst := solutionsBy_perm hkeeps h eval optional hb first hps.1
    -- the rest is solved for bindings that the first group shows
    have hrest := List.Perm.flatMap_left (solutionsBy answer eval optional b first) fun b' hb' =>
      solutionsInTurnBy_perm hkeeps h eval optional (kept_solutionsBy hkeeps hb first hps.1 hb')
        rest hps.2
    exact hrest.trans (hfirst.flatMap_right _)

theorem solutionsAsideBy_perm (hkeeps : Keeps R P answer) (h : Agrees R P answer answer')
    (eval : Evaluator) {b : Binding} (hb : P b) :
    (groups : List Group) → (∀ p ∈ allTriplePatterns groups, R p) →
      (solutionsAsideBy answer eval b groups).Perm (solutionsAsideBy answer' eval b groups)
  | [], _ => by rw [solutionsAsideBy, solutionsAsideBy]
  | first :: rest, hps => by
    rw [allTriplePatterns, List.forall_mem_append] at hps
    rw [solutionsAsideBy, solutionsAsideBy]
    exact (solutionsBy_perm hkeeps h eval false hb first hps.1).append
      (solutionsAsideBy_perm hkeeps h eval hb rest hps.2)

end

end Agrees

end Group

/-! ## Plain bindings -/

section Plain

variable {g : Graph} {b b' : Binding} {ps : List TriplePattern}

/-- A pattern with variables whose names are not reserved. -/
def TriplePattern.IsPlain (p : TriplePattern) : Prop := ∀ v ∈ p.variables, v.isReserved = false

lemma plainPatterns_iff : PlainPatterns ps ↔ ∀ p ∈ ps, p.IsPlain := List.forall_mem_flatMap

lemma isPlain_of_mem_extensions (hps : PlainPatterns ps) (hb : b.IsPlain)
    (hb' : b' ∈ g.extensions ps b) : b'.IsPlain := by
  obtain ⟨a, ha, rfl⟩ := List.mem_map.1 hb'
  intro v hv
  rw [Binding.extendBy, Binding.domain_append, List.mem_append] at hv
  rcases hv with hv | hv
  · exact hb v hv
  · obtain ⟨⟨v', t⟩, he, rfl⟩ := List.mem_map.1 hv
    obtain ⟨⟨u, t'⟩, hmem, hu⟩ := List.mem_filterMap.1 he
    obtain ⟨v'', hv'', heq⟩ := Option.map_eq_some_iff.1 hu
    obtain ⟨rfl, rfl⟩ := Prod.mk.inj heq
    have hplain := isPlain_of_mem_satisfying hps ha _ hmem
    cases u with
    | var w =>
      obtain rfl := Option.some.inj hv''
      exact hplain
    | blank n => cases hv''

/-- The solutions of patterns have no reserved variables of their own. -/
lemma Graph.keeps_solutions (g : Graph) :
    Answering.Keeps TriplePattern.IsPlain Binding.IsPlain g.solutions := by
  intro ps optional b b' hps hb hb'
  rw [Graph.solutions] at hb'
  split at hb'
  · rw [List.mem_singleton] at hb'
    rwa [hb']
  · exact isPlain_of_mem_extensions (plainPatterns_iff.2 hps) hb hb'

end Plain

/-! ## Answers of searches -/

/-- How the searches of an index answer patterns. -/
def TripleIndex.answers (index : TripleIndex) : Answering :=
  fun ps optional => (Search.start index ps optional).matchesOf

namespace TripleIndex

open Answering

variable {g : Graph} {index index' : TripleIndex}

lemma orUnmatched_perm {found found' : List Binding} (h : found.Perm found')
    (unmatched : Option Binding) :
    (Search.orUnmatched found unmatched).Perm (Search.orUnmatched found' unmatched) := by
  rw [Search.orUnmatched, Search.orUnmatched, h.isEmpty_eq]
  split
  · exact .refl _
  · exact h

lemma answers_nil (optional : Bool) (b : Binding) : index.answers [] optional b = [b] := rfl

lemma answers_cons (p : TriplePattern) (ps : List TriplePattern) (optional : Bool) (b : Binding) :
    index.answers (p :: ps) optional b =
      Search.orUnmatched ((foundFrom index ((p :: ps).map .ofPattern) b).map
        (·.restrict (· ∉ (p :: ps).flatMap (·.hiddenVariables))))
        (if optional then some b else none) := rfl

/-- A search in a graph shows the solutions of its patterns, as long as nothing is named like the
blank nodes of these. -/
theorem answers_perm (hindex : index.Lists g) {ps : List TriplePattern} {b : Binding}
    (h : HiddenApart ps b) (optional : Bool) :
    (index.answers ps optional b).Perm (g.solutions ps optional b) := by
  have hfound := visible_foundFrom_perm hindex h
  cases ps with
  | nil =>
    rw [answers_nil, Graph.solutions, Graph.extensions_nil]
    simp
  | cons p ps =>
    have hor : g.solutions (p :: ps) optional b =
        Search.orUnmatched (g.extensions (p :: ps) b) (if optional then some b else none) := by
      rw [Graph.solutions, Search.orUnmatched]
      cases optional <;> cases hempty : g.extensions (p :: ps) b <;> rfl
    rw [answers_cons, hor]
    exact orUnmatched_perm hfound _

lemma agrees_solutions (hindex : index.Lists g) :
    Agrees TriplePattern.IsPlain Binding.IsPlain g.solutions index.answers :=
  fun _ optional _ hps hb =>
    (answers_perm hindex ((plainPatterns_iff.2 hps).hiddenApart hb) optional).symm

/-- Searches in the same graph agree, in whatever order its triples are listed. -/
theorem agrees_answers (hindex : index.Lists g) (hindex' : index'.Lists g) :
    Agrees (fun _ => True) (fun _ => True) index.answers index'.answers := by
  intro ps optional b _ _
  cases ps with
  | nil => exact .refl _
  | cons p ps =>
    rw [answers_cons, answers_cons]
    exact orUnmatched_perm ((foundFrom_perm_of_lists hindex hindex').map _) _

end TripleIndex

end SparqlStream
