import Mathlib.Tactic
import SparqlStream.Proofs.Rewriting

/-!
# Which patterns become groups, and which groups they become

A query can be evaluated if what its modifiers leave of its pattern is built from five kinds of
patterns only.  Three facts are needed for that, and each of them is independent of the others.

* The modifiers are taken off from the outside to the inside, each kind at most once and in one
  order.  `GraphPattern.Leaves` says what is left of a pattern without saying how it is found, and
  `AlgebraQuery.leaves_core` finds it.
* A pattern becomes a group by the rules of `GraphPattern.GroupsInto`, which know the five kinds
  (`Group.groupsInto_of_ofPattern`), or a part of it is of another kind
  (`Group.ofPattern_eq_error_iff`).
* What the rules make is in normal form and keeps the triple patterns in their order:
  `GraphPattern.GroupsInto.isNormal`, `GraphPattern.GroupsInto.triplePatterns_eq`.

Flattening splices the members of one group into another one, which is only right if those are in
normal form already.  So the induction carries the whole normal form, and the two kinds of splicing
are the lemmas `Group.IsNormal.members` and `Group.IsNormal.alternatives`.
-/

namespace SparqlStream

/-! ## Parts of patterns -/

namespace GraphPattern

/-- The patterns of which a pattern is built, itself included.  Patterns inside of expressions do
not count. -/
def subpatterns (p : GraphPattern) : List GraphPattern :=
  p :: match p with
    | bgp _ | path .. | values _ => []
    | join l r | leftJoin l r _ | union l r | minus l r => l.subpatterns ++ r.subpatterns
    | filter _ inner | graph _ inner | extend inner _ _ | service _ inner | group inner _ _
    | orderBy inner _ | project inner _ | distinct inner | reduced inner | slice inner _ _ =>
      inner.subpatterns

/-- Whether groups can express a pattern of this kind, if they can express its parts. -/
def isSupported : GraphPattern → Bool
  | bgp _ | join .. | leftJoin .. | filter .. | union .. => true
  | _ => false

/-- The triple patterns of a pattern from left to right. -/
def triplePatterns : GraphPattern → List TriplePattern
  | bgp patterns => patterns
  | path .. | values _ => []
  | join l r | leftJoin l r _ | union l r | minus l r => l.triplePatterns ++ r.triplePatterns
  | filter _ inner | graph _ inner | extend inner _ _ | service _ inner | group inner _ _
  | orderBy inner _ | project inner _ | distinct inner | reduced inner | slice inner _ _ =>
    inner.triplePatterns

end GraphPattern

/-! ## What modifiers leave -/

/-- A part of a query that stands around the pattern of its condition. -/
inductive Modifier where
  | slice (start : Nat) (length : Option Nat)
  | distinct
  | reduced
  | project (vars : List Variable)
  | orderBy (keys : List OrderKey)
  | constant (var : Variable) (value : Iri)

namespace Modifier

/-- A pattern with a modifier around it. -/
def around : Modifier → GraphPattern → GraphPattern
  | slice start length, p => .slice p start length
  | distinct, p => .distinct p
  | reduced, p => .reduced p
  | project vars, p => .project p vars
  | orderBy keys, p => .orderBy p keys
  | constant v i, p => .extend p v (.iri i)

/-- The place of a modifier in the order in which modifiers are nested, from the outside. -/
def place : Modifier → Nat
  | slice .. => 0
  | distinct | reduced => 1
  | project _ => 2
  | orderBy _ => 3
  | constant .. => 4

/-- The first place that is free inside of a modifier.  There can be many constants, and at most one
of each other modifier. -/
def next : Modifier → Nat
  | constant .. => 4
  | m => m.place + 1

/-- Whether a modifier may stand at a place or behind it.  Constants belong to descriptions. -/
def MayStand (describes : Prop) (n : Nat) (m : Modifier) : Prop :=
  n ≤ m.place ∧ (m.place = 4 → describes)

variable {m m' : Modifier} {p p' : GraphPattern}

lemma around_inj (h : m.around p = m'.around p') : m = m' ∧ p = p' := by
  cases m <;> cases m' <;> cases h <;> exact ⟨rfl, rfl⟩

lemma triplePatterns_around (m : Modifier) (p : GraphPattern) :
    (m.around p).triplePatterns = p.triplePatterns := by
  cases m <;> rfl

end Modifier

namespace GraphPattern

/-- `p.Leaves describes n core` says that `core` is left of `p` after all modifiers have been taken
off that stand around it in their order, from place `n` on. -/
inductive Leaves (describes : Prop) : Nat → GraphPattern → GraphPattern → Prop
  | nothing {n : Nat} {p : GraphPattern}
      (h : ∀ (m : Modifier) (inner : GraphPattern), p = m.around inner → ¬ m.MayStand describes n) :
      Leaves describes n p p
  | modifier {n : Nat} {m : Modifier} {p core : GraphPattern} (hm : m.MayStand describes n)
      (h : Leaves describes m.next p core) : Leaves describes n (m.around p) core

variable {describes : Prop} {n : Nat} {p core core' : GraphPattern}

/-- There is only one pattern that modifiers can leave. -/
theorem Leaves.unique (h : Leaves describes n p core) (h' : Leaves describes n p core') :
    core = core' := by
  induction h with
  | nothing hnone =>
    cases h' with
    | nothing _ => rfl
    | modifier hm _ => exact absurd hm (hnone _ _ rfl)
  | @modifier n m inner core hm _ ih =>
    generalize hp : m.around inner = p at h'
    cases h' with
    | nothing hnone => exact absurd hm (hnone _ _ hp.symm)
    | modifier _ h' =>
      obtain ⟨rfl, rfl⟩ := Modifier.around_inj hp
      exact ih h'

/-- Modifiers add no triple patterns. -/
lemma Leaves.triplePatterns_eq (h : Leaves describes n p core) :
    core.triplePatterns = p.triplePatterns := by
  induction h with
  | nothing _ => rfl
  | modifier _ _ ih => rw [ih, Modifier.triplePatterns_around]

/-- A place at which no modifier stands can be skipped. -/
lemma Leaves.skip (h : Leaves describes (n + 1) p core)
    (hp : ∀ (m : Modifier) (inner : GraphPattern), p = m.around inner → m.place ≠ n) :
    Leaves describes n p core := by
  cases h with
  | nothing hnone =>
    refine .nothing fun m inner heq hm => hnone m inner heq ⟨?_, hm.2⟩
    have hne := hp m inner heq
    have hle := hm.1
    omega
  | modifier hm h => exact .modifier ⟨Nat.le_of_succ_le hm.1, hm.2⟩ h

lemma leaves_of_peelSlice (h : Leaves describes 1 p.peelSlice.2.2 core) :
    Leaves describes 0 p core := by
  unfold peelSlice at h
  split at h
  · next inner start length =>
    exact .modifier (m := .slice start length) ⟨le_rfl, nofun⟩ h
  · next hother =>
    refine h.skip fun m inner heq hplace => ?_
    cases m with
    | slice _ _ => exact hother _ _ _ heq
    | _ => cases hplace

lemma leaves_of_peelDistinct (h : Leaves describes 2 p.peelDistinct.2 core) :
    Leaves describes 1 p core := by
  unfold peelDistinct at h
  split at h
  · exact .modifier (m := .distinct) ⟨le_rfl, nofun⟩ h
  · exact .modifier (m := .reduced) ⟨le_rfl, nofun⟩ h
  · next hdistinct hreduced =>
    refine h.skip fun m inner heq hplace => ?_
    cases m with
    | distinct => exact hdistinct _ heq
    | reduced => exact hreduced _ heq
    | _ => cases hplace

lemma leaves_of_peelProject (h : Leaves describes 3 p.peelProject.2 core) :
    Leaves describes 2 p core := by
  unfold peelProject at h
  split at h
  · next inner vars =>
    exact .modifier (m := .project vars) ⟨le_rfl, nofun⟩ h
  · next hother =>
    refine h.skip fun m inner heq hplace => ?_
    cases m with
    | project _ => exact hother _ _ heq
    | _ => cases hplace

lemma leaves_of_peelOrder (h : Leaves describes 4 p.peelOrder.2 core) :
    Leaves describes 3 p core := by
  unfold peelOrder at h
  split at h
  · next inner keys =>
    exact .modifier (m := .orderBy keys) ⟨le_rfl, nofun⟩ h
  · next hother =>
    refine h.skip fun m inner heq hplace => ?_
    cases m with
    | orderBy _ => exact hother _ _ heq
    | _ => cases hplace

lemma leaves_of_peelModifiers (h : Leaves describes 4 p.peelModifiers.pattern core) :
    Leaves describes 0 p core :=
  leaves_of_peelSlice (leaves_of_peelDistinct (leaves_of_peelProject (leaves_of_peelOrder h)))

/-- From place 4 on, only constants can stand around a pattern. -/
lemma leaves_self
    (h : describes → ∀ (v : Variable) (i : Iri) (inner : GraphPattern),
      p ≠ extend inner v (.iri i)) : Leaves describes 4 p p := by
  refine .nothing fun m inner heq hm => ?_
  cases m with
  | constant v i => exact h (hm.2 rfl) v i inner heq
  | _ => exact absurd hm.1 (by simp [Modifier.place])

lemma leaves_peelConstants (h : describes) (p : GraphPattern) :
    Leaves describes 4 p p.peelConstants.2 := by
  fun_induction peelConstants p with
  | case1 inner v i constants p heq ih =>
    rw [heq] at ih
    exact .modifier (m := .constant v i) ⟨le_rfl, fun _ => h⟩ ih
  | case2 p hother => exact leaves_self fun _ v i inner heq => hother inner v i heq

end GraphPattern

/-- What is left of the pattern of a query without its modifiers. -/
def AlgebraQuery.core (q : AlgebraQuery) : GraphPattern :=
  if q.form = .describe then q.pattern.peelModifiers.pattern.peelConstants.2
  else q.pattern.peelModifiers.pattern

lemma AlgebraQuery.leaves_core (q : AlgebraQuery) :
    q.pattern.Leaves (q.form = .describe) 0 q.core := by
  refine GraphPattern.leaves_of_peelModifiers ?_
  rw [core]
  split
  · next hdescribe => exact GraphPattern.leaves_peelConstants hdescribe _
  · next hother => exact GraphPattern.leaves_self fun hdescribe => absurd hdescribe hother

/-! ## Groups in normal form -/

namespace Group

def isSequence : Group → Bool
  | sequence _ => true
  | _ => false

def isUnion : Group → Bool
  | union _ => true
  | _ => false

/-- Groups are in normal form if none of them is empty where it need not be, and none can be spliced
into the group around it. -/
inductive IsNormal : Group → Prop
  | pattern {ps : List TriplePattern} (hne : ps ≠ []) : IsNormal (.pattern ps)
  | sequence {gs : List Group} (hflat : ∀ g ∈ gs, g.isSequence = false)
      (h : ∀ g ∈ gs, IsNormal g) : IsNormal (.sequence gs)
  | optional {g : Group} (h : IsNormal g) : IsNormal (.optional [g])
  | union {gs : List Group} (hlen : 2 ≤ gs.length) (hflat : ∀ g ∈ gs, g.isUnion = false)
      (h : ∀ g ∈ gs, IsNormal g) : IsNormal (.union gs)
  | filter {e : Expression} {g : Group} (h : IsNormal g) : IsNormal (.filter e g)

variable {g : Group}

/-- The members of a group in normal form can be spliced into a sequence. -/
lemma IsNormal.members (h : g.IsNormal) :
    ∀ g' ∈ g.members, g'.isSequence = false ∧ g'.IsNormal := by
  cases h with
  | sequence hflat h => exact fun g' hg' => ⟨hflat g' hg', h g' hg'⟩
  | pattern hne => exact List.forall_mem_singleton.2 ⟨rfl, .pattern hne⟩
  | optional h => exact List.forall_mem_singleton.2 ⟨rfl, .optional h⟩
  | union hlen hflat h => exact List.forall_mem_singleton.2 ⟨rfl, .union hlen hflat h⟩
  | filter h => exact List.forall_mem_singleton.2 ⟨rfl, .filter h⟩

/-- The alternatives of a group in normal form can be spliced into a union, and there is one. -/
lemma IsNormal.alternatives (h : g.IsNormal) :
    0 < g.alternatives.length ∧ ∀ g' ∈ g.alternatives, g'.isUnion = false ∧ g'.IsNormal := by
  cases h with
  | union hlen hflat h => exact ⟨Nat.lt_of_lt_of_le zero_lt_two hlen,
      fun g' hg' => ⟨hflat g' hg', h g' hg'⟩⟩
  | pattern hne => exact ⟨zero_lt_one, List.forall_mem_singleton.2 ⟨rfl, .pattern hne⟩⟩
  | sequence hflat h => exact ⟨zero_lt_one, List.forall_mem_singleton.2 ⟨rfl, .sequence hflat h⟩⟩
  | optional h => exact ⟨zero_lt_one, List.forall_mem_singleton.2 ⟨rfl, .optional h⟩⟩
  | filter h => exact ⟨zero_lt_one, List.forall_mem_singleton.2 ⟨rfl, .filter h⟩⟩

/-- Groups that can be spliced into a sequence make one in normal form. -/
lemma isNormal_sequence {gs : List Group} (h : ∀ g ∈ gs, g.isSequence = false ∧ g.IsNormal) :
    (Group.sequence gs).IsNormal :=
  .sequence (fun g hg => (h g hg).1) fun g hg => (h g hg).2

lemma isNormal_filterBy (condition : Option Expression) (h : g.IsNormal) :
    (g.filterBy condition).IsNormal := by
  cases condition with
  | none => exact h
  | some e => exact .filter h

lemma triplePatterns_filterBy (condition : Option Expression) (g : Group) :
    (g.filterBy condition).triplePatterns = g.triplePatterns := by
  cases condition with
  | none => rfl
  | some e => rw [filterBy, triplePatterns]

end Group

/-! ## Patterns that become groups -/

namespace GraphPattern

/-- The group that a pattern becomes, with one rule for each kind of pattern that can be
expressed. -/
inductive GroupsInto : GraphPattern → Group → Prop
  | nothing : GroupsInto (.bgp []) (.sequence [])
  | bgp {ps : List TriplePattern} (hne : ps ≠ []) : GroupsInto (.bgp ps) (.pattern ps)
  | join {l r : GraphPattern} {left right : Group} (hl : GroupsInto l left)
      (hr : GroupsInto r right) :
      GroupsInto (.join l r) (.sequence (left.members ++ right.members))
  | leftJoin {l r : GraphPattern} {left right : Group} (condition : Option Expression)
      (hl : GroupsInto l left) (hr : GroupsInto r right) :
      GroupsInto (.leftJoin l r condition)
        (.sequence (left.members ++ [.optional [right.filterBy condition]]))
  | filter {p : GraphPattern} {g : Group} (condition : Expression) (h : GroupsInto p g) :
      GroupsInto (.filter condition p) (.filter condition g)
  | union {l r : GraphPattern} {left right : Group} (hl : GroupsInto l left)
      (hr : GroupsInto r right) :
      GroupsInto (.union l r) (.union (left.alternatives ++ right.alternatives))

variable {p : GraphPattern} {g : Group}

/-- A pattern becomes a group in normal form. -/
theorem GroupsInto.isNormal (h : p.GroupsInto g) : g.IsNormal := by
  induction h with
  | nothing => exact .sequence (List.forall_mem_nil _) (List.forall_mem_nil _)
  | bgp hne => exact .pattern hne
  | join _ _ ihl ihr =>
    exact Group.isNormal_sequence (List.forall_mem_append.2 ⟨ihl.members, ihr.members⟩)
  | leftJoin condition _ _ ihl ihr =>
    have hright := Group.IsNormal.optional (Group.isNormal_filterBy condition ihr)
    have hoptional := hright.members
    exact Group.isNormal_sequence (List.forall_mem_append.2 ⟨ihl.members, hoptional⟩)
  | filter condition _ ih => exact .filter ih
  | union _ _ ihl ihr =>
    obtain ⟨hleft, hl⟩ := ihl.alternatives
    obtain ⟨hright, hr⟩ := ihr.alternatives
    have hall := List.forall_mem_append.2 ⟨hl, hr⟩
    refine .union ?_ (fun g hg => (hall g hg).1) fun g hg => (hall g hg).2
    rw [List.length_append]
    omega

/-- A pattern becomes a group with the same triple patterns. -/
theorem GroupsInto.triplePatterns_eq (h : p.GroupsInto g) :
    g.triplePatterns = p.triplePatterns := by
  induction h with
  | nothing | bgp _ => rfl
  | join _ _ ihl ihr =>
    rw [Group.triplePatterns, Group.allTriplePatterns_append, Group.allTriplePatterns_members,
      Group.allTriplePatterns_members, ihl, ihr, triplePatterns]
  | @leftJoin _ _ left right condition _ _ ihl ihr =>
    have hoptional : Group.allTriplePatterns [.optional [right.filterBy condition]] =
        right.triplePatterns := by
      simp [Group.allTriplePatterns, Group.triplePatterns, Group.triplePatterns_filterBy]
    rw [Group.triplePatterns, Group.allTriplePatterns_append, Group.allTriplePatterns_members,
      hoptional, ihl, ihr, triplePatterns]
  | filter _ _ ih => rw [Group.triplePatterns, ih, triplePatterns]
  | union _ _ ihl ihr =>
    rw [Group.triplePatterns, Group.allTriplePatterns_append, Group.allTriplePatterns_alternatives,
      Group.allTriplePatterns_alternatives, ihl, ihr, triplePatterns]

lemma GroupsInto.isSupported (h : p.GroupsInto g) : ∀ q ∈ p.subpatterns, q.isSupported = true := by
  induction h with
  | nothing | bgp _ => exact List.forall_mem_singleton.2 rfl
  | join _ _ ihl ihr | leftJoin _ _ _ ihl ihr | union _ _ ihl ihr =>
    exact List.forall_mem_cons.2 ⟨rfl, List.forall_mem_append.2 ⟨ihl, ihr⟩⟩
  | filter _ _ ih => exact List.forall_mem_cons.2 ⟨rfl, ih⟩

end GraphPattern

namespace Group

variable {p : GraphPattern} {g : Group}

lemma bind_eq_ok {ε α β : Type} {x : Except ε α} {f : α → Except ε β} {b : β} :
    x >>= f = .ok b ↔ ∃ a, x = .ok a ∧ f a = .ok b := by
  cases x with
  | error e => exact ⟨nofun, nofun⟩
  | ok a => exact ⟨fun h => ⟨a, rfl, h⟩, by rintro ⟨_, ⟨⟩, h⟩; exact h⟩

/-- A pattern that becomes a group does so by the rules. -/
theorem groupsInto_of_ofPattern (h : ofPattern p = .ok g) : p.GroupsInto g := by
  induction p generalizing g with
  | bgp ps =>
    cases ps with
    | nil =>
      cases h
      exact .nothing
    | cons t ps =>
      cases h
      exact .bgp (List.cons_ne_nil t ps)
  | join l r ihl ihr =>
    obtain ⟨left, hleft, h⟩ := bind_eq_ok.1 h
    obtain ⟨right, hright, h⟩ := bind_eq_ok.1 h
    cases h
    exact .join (ihl hleft) (ihr hright)
  | leftJoin l r condition ihl ihr =>
    obtain ⟨right, hright, h⟩ := bind_eq_ok.1 h
    obtain ⟨left, hleft, h⟩ := bind_eq_ok.1 h
    cases h
    exact .leftJoin condition (ihl hleft) (ihr hright)
  | filter condition inner ih =>
    obtain ⟨group, hgroup, h⟩ := bind_eq_ok.1 h
    cases h
    exact .filter condition (ih hgroup)
  | union l r ihl ihr =>
    obtain ⟨left, hleft, h⟩ := bind_eq_ok.1 h
    obtain ⟨right, hright, h⟩ := bind_eq_ok.1 h
    cases h
    exact .union (ihl hleft) (ihr hright)
  | _ => cases h

/-- A pattern becomes a group if all its parts are of the supported kinds. -/
theorem exists_ofPattern (h : ∀ q ∈ p.subpatterns, q.isSupported = true) :
    ∃ g, ofPattern p = .ok g := by
  induction p with
  | bgp ps => cases ps <;> exact ⟨_, rfl⟩
  | join l r ihl ihr | leftJoin l r _ ihl ihr | union l r ihl ihr =>
    obtain ⟨hl, hr⟩ := List.forall_mem_append.1 (List.forall_mem_cons.1 h).2
    obtain ⟨left, hleft⟩ := ihl hl
    obtain ⟨right, hright⟩ := ihr hr
    rw [ofPattern, hleft, hright]
    exact ⟨_, rfl⟩
  | filter condition inner ih =>
    obtain ⟨group, hgroup⟩ := ih (List.forall_mem_cons.1 h).2
    rw [ofPattern, hgroup]
    exact ⟨_, rfl⟩
  | _ => cases (List.forall_mem_cons.1 h).1

/-- A pattern is refused exactly if a part of it is of another kind. -/
theorem ofPattern_eq_error_iff :
    (∃ e, ofPattern p = .error e) ↔ ∃ q ∈ p.subpatterns, q.isSupported = false := by
  constructor
  · rintro ⟨e, he⟩
    by_contra hnone
    push Not at hnone
    obtain ⟨g, hg⟩ := exists_ofPattern fun q hq => Bool.eq_true_of_not_eq_false (hnone q hq)
    rw [hg] at he
    cases he
  · rintro ⟨q, hq, hkind⟩
    cases h : ofPattern p with
    | error e => exact ⟨e, rfl⟩
    | ok g =>
      rw [(groupsInto_of_ofPattern h).isSupported q hq] at hkind
      cases hkind

end Group

/-! ## Queries -/

namespace Query

/-- Unless a query names its graphs, it is made of the group of its core. -/
lemma exists_ofModifiers {q : AlgebraQuery} (h : q.namesDataset = false) :
    ∃ form m, ofAlgebra q = ofModifiers form m ∧ m.pattern = q.core := by
  unfold ofAlgebra AlgebraQuery.core
  rw [h]
  cases q.form with
  | select | construct _ | ask | describe => exact ⟨_, _, rfl, rfl⟩

/-- **The form of queries.**  Something is left of the pattern of a query without its modifiers, and
nothing else is.  The query is refused exactly if it names its graphs or if something that is no
basic pattern, join, left join, filter or union is a part of what is left.  Otherwise its groups are
in normal form one after another, and they have the triple patterns of the query in the same
order. -/
theorem ofAlgebra_isNormal (q : AlgebraQuery) :
    ∃ core, (∀ p, q.pattern.Leaves (q.form = .describe) 0 p ↔ p = core) ∧
      ((∃ e, ofAlgebra q = .error e) ↔
        q.namesDataset = true ∨ ∃ p ∈ core.subpatterns, p.isSupported = false) ∧
      ∀ query, ofAlgebra q = .ok query →
        (Group.sequence query.groups).IsNormal ∧
        Group.allTriplePatterns query.groups = q.pattern.triplePatterns := by
  refine ⟨q.core, fun p => ⟨fun h => h.unique q.leaves_core, fun h => h ▸ q.leaves_core⟩, ?_⟩
  cases hdataset : q.namesDataset with
  | true =>
    have herror : ofAlgebra q = .error (.unsupported .dataset) := by
      rw [ofAlgebra, hdataset, if_pos rfl]
    rw [herror]
    exact ⟨⟨fun _ => .inl rfl, fun _ => ⟨_, rfl⟩⟩, nofun⟩
  | false =>
    obtain ⟨form, m, hq, hm⟩ := exists_ofModifiers hdataset
    rw [hq, ofModifiers, hm]
    refine ⟨?_, fun query hquery => ?_⟩
    · rw [← Group.ofPattern_eq_error_iff]
      cases Group.ofPattern q.core with
      | ok g => exact ⟨nofun, by rintro (⟨⟨⟩⟩ | ⟨_, ⟨⟩⟩)⟩
      | error e => exact ⟨fun _ => .inr ⟨e, rfl⟩, fun _ => ⟨e, rfl⟩⟩
    · obtain ⟨g, hg, hquery⟩ := Group.bind_eq_ok.1 hquery
      cases hquery
      have hinto := Group.groupsInto_of_ofPattern hg
      refine ⟨Group.isNormal_sequence hinto.isNormal.members, ?_⟩
      rw [Group.allTriplePatterns_members, hinto.triplePatterns_eq]
      exact q.leaves_core.triplePatterns_eq

/-- A limit inside of `DISTINCT` is that of another query. -/
example : ofAlgebra ⟨.ask, .distinct (.slice (.bgp []) 0 none), false⟩ =
    .error (.unsupported .subquery) := rfl

end Query

end SparqlStream
