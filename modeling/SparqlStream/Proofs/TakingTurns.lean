import Mathlib.Tactic
import SparqlStream.Proofs.Replay
import SparqlStream.Proofs.UnionQueue

/-!
# The sources of a union take turns

Polls of a union are told by its visits: which source is asked, which sources are in the union then,
and what the source shows.  `Outlet.visits` finds them from outside, by the counters of the sources.
`Outlet.takesTurns_run` says what holds of all polls of a union, whatever its sources hold.

Two relations carry the proof.  `Turns` is one poll on the queue: the sources ahead are visited
until one shows an item or an error.  `Tells` says what visits take from the sources.  All
properties of a run are inductions on them; `Outlet.Polls.turns` is the only place where the union
itself occurs.  For fairness, all visits of a run are one sequence that rotates the queue,
`Rotates.fair`: where one poll ends and the next one begins does not matter.
-/

namespace SparqlStream

variable {α ε : Type}

/-! ## Polls -/

/-- A union asks one of its sources, which shows a signal. -/
structure Visit (α ε : Type) where
  /-- The sources that are in the union at this time. -/
  members : List Nat
  source : Nat
  shows : Signal α ε

/-- A poll of a union: whom it visits, what it shows, and which sources are left in the union. -/
structure Poll (α ε : Type) where
  visits : List (Visit α ε)
  shows : Signal α ε
  left : List Nat

namespace Outlet

/-- The sources that are in a union. -/
def members (o : Outlet α ε Empty) : List Nat :=
  match o.stage with
  | .union inputs _ => inputs.filterMap fun
    | .source id => some id
    | _ => none
  | _ => []

/-- The visits to a source between two states.  A source counts how often it has been asked. -/
def visitsTo (o o' : Outlet α ε Empty) (id : Nat) : List (Visit α ε) :=
  match o.plant.sources[id]?, o'.plant.sources[id]? with
  | some s, some s' => List.replicate (s'.asked - s.asked) ⟨o.members, id, (s.step o.waker).1⟩
  | _, _ => []

/-- The visits between two states. -/
def visits (o o' : Outlet α ε Empty) : List (Visit α ε) :=
  (List.range o.plant.sources.length).flatMap (o.visitsTo o')

/-- One poll: a union is asked until it shows something. -/
inductive Polls : Outlet α ε Empty → List (Visit α ε) → Signal α ε → Outlet α ε Empty → Prop
  | shows {o t : Outlet α ε Empty} {signal : Signal α ε} :
    Flow.step o = (signal, t) → signal ≠ .again → Polls o (o.visits t) signal t
  | again {o o' t : Outlet α ε Empty} {vs : List (Visit α ε)} {signal : Signal α ε} :
    Flow.step o = (.again, o') → Polls o' vs signal t → Polls o (o.visits o' ++ vs) signal t

/-- Some polls, one for each waker. -/
inductive Runs : Outlet α ε Empty → List Waker → List (Poll α ε) → Outlet α ε Empty → Prop
  | nil (o : Outlet α ε Empty) : Runs o [] [] o
  | cons {o o' t : Outlet α ε Empty} {w : Waker} {ws : List Waker} {vs : List (Visit α ε)}
    {signal : Signal α ε} {ps : List (Poll α ε)} :
    Polls { o with waker := w } vs signal o' → Runs o' ws ps t →
      Runs o (w :: ws) (⟨vs, signal, o'.members⟩ :: ps) t

end Outlet

/-- Some lists have been put together, each one in its order. -/
inductive Interleaving : List (List α) → List α → Prop
  | nil {ls : List (List α)} : (∀ l ∈ ls, l = []) → Interleaving ls []
  | cons {before after : List (List α)} {l as : List α} (a : α) :
    Interleaving (before ++ l :: after) as →
      Interleaving (before ++ (a :: l) :: after) (a :: as)

/-- The items that a source shows in some visits. -/
def received (id : Nat) (vs : List (Visit α ε)) : List α :=
  vs.filterMap fun v => if v.source = id then v.shows.item? else none

/-- What holds of all polls of a union of some sources. -/
structure TakesTurns (scripts : List (List (Cell α ε) × Bool)) (polls : List (Poll α ε)) :
    Prop where
  /-- A poll asks each source at most once. -/
  once : ∀ p ∈ polls, (p.visits.map (·.source)).Nodup
  /-- What is left are the sources that have not ended, or nothing after an error. -/
  left : ∀ before p after, polls = before ++ p :: after → ∀ id, id ∈ p.left ↔
    id < scripts.length ∧ ∀ v ∈ (before ++ [p]).flatMap (·.visits),
      (v.source = id → v.shows ≠ .finish) ∧ ∀ e, v.shows ≠ .fail e
  /-- A poll waits if it has visited all sources that are left and each of them waits. -/
  pending : ∀ p ∈ polls, p.shows = .pending →
    p.left ≠ [] ∧ ∀ id ∈ p.left, ∃ v ∈ p.visits, v.source = id ∧ v.shows = .pending
  /-- The union ends when all sources have ended, or after an error. -/
  finish : ∀ before p after, polls = before ++ p :: after → p.shows = .finish →
    (∀ id < scripts.length, ∃ v ∈ (before ++ [p]).flatMap (·.visits),
      v.source = id ∧ v.shows = .finish) ∨ ∃ q ∈ before, ∃ e, q.shows = .fail e
  /-- A poll shows the item or error of a source that it visits, and nothing gets lost. -/
  shown : ∀ p ∈ polls, p.shows.item?.toList = p.visits.filterMap (·.shows.item?) ∧
    p.shows.error?.toList = p.visits.filterMap (·.shows.error?)
  /-- The items of each source come in their order. -/
  ordered : ∀ id script, scripts[id]? = some script →
    received id (polls.flatMap (·.visits)) <+: Cell.items script.1
  /-- When the union has ended without an error, its items are those of all sources. -/
  drained : (∀ s ∈ scripts, ∀ e, .fail e ∉ s.1) → (∃ p ∈ polls, p.shows = .finish) →
    Interleaving (scripts.map fun s => Cell.items s.1) (polls.filterMap (·.shows.item?))
  /-- A union of closed sources ends. -/
  ends : (∀ s ∈ scripts, s.2 = true) → (scripts.map (·.1.length)).sum < polls.length →
    ∃ p ∈ polls, p.shows = .finish
  /-- Between two visits of a source all others that are in the union then are visited. -/
  fair : ∀ u x m y v, polls.flatMap (·.visits) = u ++ x :: (m ++ y :: v) → x.source = y.source →
    ∀ id ∈ y.members, id ≠ y.source → ∃ z ∈ m, z.source = id

/-! ## Turns in a queue -/

section Queues

variable {ahead behind rest queue queue' t : List Nat} {id : Nat} {members : List Nat}
  {signal : Signal α ε} {vs vs' : List (Visit α ε)}

/-- The sources in a queue are visited one after another. -/
inductive Rotates : List Nat → List (Visit α ε) → List Nat → Prop
  | refl (queue : List Nat) : Rotates queue [] queue
  | visit {id : Nat} {members rest t : List Nat} {signal : Signal α ε} {vs : List (Visit α ε)} :
    members.Perm (id :: rest) → Rotates (requeue id rest signal) vs t →
      Rotates (id :: rest) (⟨members, id, signal⟩ :: vs) t

/-- A poll visits the sources ahead until one of them shows an item or an error.  Those behind have
made it wait. -/
inductive Turns : List Nat → List Nat → List (Visit α ε) → Signal α ε → List Nat → Prop
  | done (behind : List Nat) : Turns [] behind [] (if behind = [] then .finish else .pending) behind
  | item {ahead behind members : List Nat} {id : Nat} (a : α) :
    members.Perm (id :: (ahead ++ behind)) →
      Turns (id :: ahead) behind [⟨members, id, .item a⟩] (.item a) (ahead ++ behind ++ [id])
  | fail {ahead behind members : List Nat} {id : Nat} (e : ε) :
    members.Perm (id :: (ahead ++ behind)) →
      Turns (id :: ahead) behind [⟨members, id, .fail e⟩] (.fail e) []
  | pending {ahead behind members t : List Nat} {id : Nat} {signal : Signal α ε}
    {vs : List (Visit α ε)} : members.Perm (id :: (ahead ++ behind)) →
      Turns ahead (behind ++ [id]) vs signal t →
        Turns (id :: ahead) behind (⟨members, id, .pending⟩ :: vs) signal t
  | finish {ahead behind members t : List Nat} {id : Nat} {signal : Signal α ε}
    {vs : List (Visit α ε)} : members.Perm (id :: (ahead ++ behind)) →
      Turns ahead behind vs signal t →
        Turns (id :: ahead) behind (⟨members, id, .finish⟩ :: vs) signal t

/-- Polls are made one after another. -/
inductive Polled : List Nat → List (Poll α ε) → List Nat → Prop
  | nil (queue : List Nat) : Polled queue [] queue
  | cons {queue queue' t : List Nat} {p : Poll α ε} {ps : List (Poll α ε)} :
    Turns queue [] p.visits p.shows queue' → p.left.Perm queue' → Polled queue' ps t →
      Polled queue (p :: ps) t

/-! ### Visits -/

lemma Rotates.trans (h : Rotates queue vs queue') (h' : Rotates queue' vs' t) :
    Rotates queue (vs ++ vs') t := by
  induction h with
  | refl _ => exact h'
  | visit hmembers _ ih => exact .visit hmembers (ih h')

/-- A sequence of visits is one sequence after another. -/
lemma Rotates.split (h : Rotates queue (vs ++ vs') t) :
    ∃ middle, Rotates queue vs middle ∧ Rotates middle vs' t := by
  induction vs generalizing queue with
  | nil => exact ⟨queue, .refl queue, h⟩
  | cons v vs ih =>
    cases h with
    | visit hmembers h =>
      obtain ⟨middle, hbefore, hafter⟩ := ih h
      exact ⟨middle, .visit hmembers hbefore, hafter⟩

lemma Rotates.subset (h : Rotates queue vs t) : t ⊆ queue := by
  induction h with
  | refl queue => exact List.Subset.refl _
  | @visit id members rest t signal vs hmembers _ ih =>
    exact List.Subset.trans ih (requeue_subset id rest signal)

lemma Rotates.nodup (h : Rotates queue vs t) (hqueue : queue.Nodup) : t.Nodup := by
  induction h with
  | refl queue => exact hqueue
  | @visit id members rest t signal vs hmembers _ ih => exact ih (nodup_requeue hqueue signal)

/-- The sources in the queue are those that have not ended, until there is an error. -/
lemma Rotates.mem_iff (h : Rotates queue vs t) (hqueue : queue.Nodup) (id : Nat) :
    id ∈ t ↔ id ∈ queue ∧ ∀ v ∈ vs, (v.source = id → v.shows ≠ .finish) ∧
      ∀ e, v.shows ≠ .fail e := by
  induction h with
  | refl queue => simp
  | @visit first members rest t signal vs hmembers _ ih =>
    rw [ih (nodup_requeue hqueue signal), List.forall_mem_cons, List.mem_cons, ← and_assoc]
    refine and_congr_left fun _ => ?_
    have hfirst := (List.nodup_cons.1 hqueue).1
    cases signal with
    | fail e => simp [requeue]
    | finish =>
      simp only [requeue, ne_eq, reduceCtorEq, not_false_eq_true, implies_true, and_true, not_true,
        imp_false]
      grind
    | item _ | pending | again => simp [requeue, or_comm]

/-- While others are visited, a source that stands in the queue moves to its front.  When it is
there, all that stand behind it have been visited, unless they stood there before. -/
lemma Rotates.visited (h : Rotates queue vs t) {b c : List Nat} (hqueue : (b ++ id :: c).Nodup)
    (hsplit : queue = b ++ id :: c) (ht : t = id :: rest) (j : Nat) (hj : j ∈ rest) :
    j ∈ c ∨ ∃ v ∈ vs, v.source = j := by
  induction h generalizing b c with
  | refl queue =>
    cases b with
    | nil =>
      obtain ⟨-, rfl⟩ := List.cons.inj (ht.symm.trans hsplit)
      exact .inl hj
    | cons first b =>
      obtain ⟨rfl, -⟩ := List.cons.inj (ht.symm.trans hsplit)
      exact absurd (List.mem_append_right b List.mem_cons_self) (List.nodup_cons.1 hqueue).1
  | @visit first members others t signal vs hmembers hrest ih =>
    have hstays : id ∈ requeue first others signal :=
      hrest.subset (ht ▸ List.mem_cons_self)
    have hnodup := nodup_requeue (hsplit ▸ hqueue) signal
    -- The first source goes behind the one that moves to the front, unless it is that one.
    cases b with
    | nil =>
      obtain ⟨rfl, rfl⟩ := List.cons.inj hsplit
      cases signal with
      | fail e => cases hstays
      | finish => exact absurd hstays (List.nodup_cons.1 hqueue).1
      | item _ | pending | again =>
        obtain hnone | ⟨v, hv, hsource⟩ := ih hnodup rfl ht
        · cases hnone
        · exact .inr ⟨v, .tail _ hv, hsource⟩
    | cons first' b =>
      obtain ⟨rfl, rfl⟩ := List.cons.inj hsplit
      cases signal with
      | fail e => cases hstays
      | finish =>
        obtain hc | ⟨v, hv, hsource⟩ := ih hnodup rfl ht
        · exact .inl hc
        · exact .inr ⟨v, .tail _ hv, hsource⟩
      | item _ | pending | again =>
        have hnext : b ++ id :: c ++ [first] = b ++ id :: (c ++ [first]) :=
          List.append_assoc b (id :: c) [first]
        obtain hc | ⟨v, hv, hsource⟩ := ih (hnext ▸ hnodup) hnext ht
        · obtain hc | hfirst := List.mem_append.1 hc
          · exact .inl hc
          · exact .inr ⟨_, .head _, (List.mem_singleton.1 hfirst).symm⟩
        · exact .inr ⟨v, .tail _ hv, hsource⟩

/-- Between two visits of a source all others that are in the queue then are visited. -/
lemma Rotates.fair {x y : Visit α ε} {m : List (Visit α ε)}
    (h : Rotates queue (vs ++ x :: (m ++ y :: vs')) t) (hqueue : queue.Nodup)
    (hsame : x.source = y.source) (hid : id ∈ y.members) (hne : id ≠ y.source) :
    ∃ z ∈ m, z.source = id := by
  obtain ⟨queue₁, h₁, h⟩ := h.split
  have hqueue₁ := h₁.nodup hqueue
  cases h with
  | @visit first members others t signal vs hmembers hrest =>
    obtain ⟨queue₂, h₂, h⟩ := hrest.split
    cases h with
    | @visit first' members' others' t' signal' vs' hmembers' hlast =>
      dsimp only at hsame hid hne
      subst hsame
      have hothers : id ∈ others' := by
        simpa [hne] using hmembers'.mem_iff.1 hid
      have hstays : first ∈ requeue first others signal := h₂.subset List.mem_cons_self
      have hnodup := nodup_requeue hqueue₁ signal
      cases signal with
      | fail e => cases hstays
      | finish => exact absurd hstays (List.nodup_cons.1 hqueue₁).1
      | item _ | pending | again =>
        exact (h₂.visited hnodup rfl rfl id hothers).resolve_left List.not_mem_nil

/-! ### One poll -/

/-- Whether this is the end of a stream. -/
def Signal.isFinish : Signal α ε → Bool
  | finish => true
  | _ => false

lemma Signal.mem_error? {signal : Signal α ε} {e : ε} :
    e ∈ signal.error?.toList ↔ signal = .fail e := by
  cases signal <;> simp [error?, eq_comm]

lemma Turns.rotates (h : Turns ahead behind vs signal t) : Rotates (ahead ++ behind) vs t := by
  induction h with
  | done behind => exact .refl behind
  | item a hmembers => exact .visit hmembers (.refl _)
  | fail e hmembers => exact .visit hmembers (.refl _)
  | pending hmembers _ ih =>
    rw [← List.append_assoc] at ih
    exact .visit hmembers ih
  | finish hmembers _ ih => exact .visit hmembers ih

/-- A poll visits sources in the order of the queue. -/
lemma Turns.isPrefix (h : Turns ahead behind vs signal t) : vs.map (·.source) <+: ahead := by
  induction h with
  | done behind => exact List.nil_prefix
  | item _ _ | fail _ _ => exact (List.prefix_cons_inj _).2 List.nil_prefix
  | pending _ _ ih | finish _ _ ih => exact (List.prefix_cons_inj _).2 ih

/-- A poll that waits has visited all that are left in the queue. -/
lemma Turns.of_pending (h : Turns ahead behind vs signal t) (hshown : signal = .pending) :
    t ≠ [] ∧ ∀ id ∈ t, id ∈ behind ∨ ∃ v ∈ vs, v.source = id ∧ v.shows = .pending := by
  induction h with
  | done behind =>
    refine ⟨?_, fun id hid => .inl hid⟩
    rintro rfl
    cases hshown
  | item _ _ | fail _ _ => cases hshown
  | pending _ _ ih =>
    obtain ⟨hne, hvisited⟩ := ih hshown
    refine ⟨hne, fun id hid => ?_⟩
    obtain hbehind | ⟨v, hv, hwaits⟩ := hvisited id hid
    · obtain hbehind | hfirst := List.mem_append.1 hbehind
      · exact .inl hbehind
      · exact .inr ⟨_, .head _, (List.mem_singleton.1 hfirst).symm, rfl⟩
    · exact .inr ⟨v, .tail _ hv, hwaits⟩
  | finish _ _ ih =>
    obtain ⟨hne, hvisited⟩ := ih hshown
    refine ⟨hne, fun id hid => (hvisited id hid).imp_right ?_⟩
    rintro ⟨v, hv, hwaits⟩
    exact ⟨v, .tail _ hv, hwaits⟩

/-- A union ends when its queue is empty. -/
lemma Turns.of_finish (h : Turns ahead behind vs signal t) (hshown : signal = .finish) :
    t = [] := by
  induction h with
  | done behind =>
    by_contra hne
    rw [if_neg hne] at hshown
    cases hshown
  | item _ _ | fail _ _ => cases hshown
  | pending _ _ ih | finish _ _ ih => exact ih hshown

/-- A poll shows an item or error if its last visit does so. -/
lemma Turns.shown (h : Turns ahead behind vs signal t) :
    signal.item?.toList = vs.filterMap (·.shows.item?) ∧
      signal.error?.toList = vs.filterMap (·.shows.error?) := by
  induction h with
  | done behind => split <;> exact ⟨rfl, rfl⟩
  | item _ _ | fail _ _ => exact ⟨rfl, rfl⟩
  | pending _ _ ih | finish _ _ ih => exact ih

/-- A poll that shows something else than the end has visited a source that does so. -/
lemma Turns.exists_visit (h : Turns ahead behind vs signal t) (hbehind : behind = [])
    (hshown : signal ≠ .finish) : ∃ v ∈ vs, v.shows.isFinish = false := by
  induction h with
  | done behind => exact absurd (if_pos hbehind) hshown
  | item _ _ | fail _ _ | pending _ _ _ => exact ⟨_, .head _, rfl⟩
  | finish _ _ ih =>
    obtain ⟨v, hv, hgoes⟩ := ih hbehind hshown
    exact ⟨v, .tail _ hv, hgoes⟩

/-! ### Several polls -/

variable {ps qs : List (Poll α ε)} {p : Poll α ε}

lemma Polled.split (h : Polled queue (ps ++ qs) t) :
    ∃ middle, Polled queue ps middle ∧ Polled middle qs t := by
  induction ps generalizing queue with
  | nil => exact ⟨queue, .nil queue, h⟩
  | cons p ps ih =>
    cases h with
    | cons hturns hleft h =>
      obtain ⟨middle, hbefore, hafter⟩ := ih h
      exact ⟨middle, .cons hturns hleft hbefore, hafter⟩

/-- The visits of several polls follow the queue. -/
lemma Polled.rotates (h : Polled queue ps t) : Rotates queue (ps.flatMap (·.visits)) t := by
  induction h with
  | nil queue => exact .refl queue
  | cons hturns _ _ ih =>
    rw [List.flatMap_cons]
    have hvisits := hturns.rotates
    rw [List.append_nil] at hvisits
    exact hvisits.trans ih

/-- One of several polls, with the queues before and after it. -/
lemma Polled.exists_turns (h : Polled queue (ps ++ p :: qs) t) :
    ∃ before after, Rotates queue (ps.flatMap (·.visits)) before ∧
      Turns before [] p.visits p.shows after ∧ p.left.Perm after ∧
      Rotates queue ((ps ++ [p]).flatMap (·.visits)) after := by
  obtain ⟨before, hbefore, hrest⟩ := h.split
  cases hrest with
  | @cons _ after _ _ _ hturns hleft _ =>
    refine ⟨before, after, hbefore.rotates, hturns, hleft, ?_⟩
    rw [List.flatMap_append, List.flatMap_singleton]
    have hvisits := hturns.rotates
    rw [List.append_nil] at hvisits
    exact hbefore.rotates.trans hvisits

lemma Polled.turns_of_mem (h : Polled queue ps t) (hp : p ∈ ps) :
    ∃ (vs : List (Visit α ε)) (before after : List Nat), Rotates queue vs before ∧
      Turns before [] p.visits p.shows after ∧ p.left.Perm after := by
  obtain ⟨front, back, rfl⟩ := List.append_of_mem hp
  obtain ⟨before, after, hbefore, hturns, hleft, -⟩ := h.exists_turns
  exact ⟨_, before, after, hbefore, hturns, hleft⟩

/-- A poll visits each source at most once. -/
lemma Polled.once (h : Polled queue ps t) (hqueue : queue.Nodup) (hp : p ∈ ps) :
    (p.visits.map (·.source)).Nodup := by
  obtain ⟨vs, before, after, hbefore, hturns, -⟩ := h.turns_of_mem hp
  exact (hbefore.nodup hqueue).sublist hturns.isPrefix.sublist

/-- After a poll the sources are left that have not ended, or none after an error. -/
lemma Polled.mem_left_iff (h : Polled queue (ps ++ p :: qs) t) (hqueue : queue.Nodup) (id : Nat) :
    id ∈ p.left ↔ id ∈ queue ∧ ∀ v ∈ (ps ++ [p]).flatMap (·.visits),
      (v.source = id → v.shows ≠ .finish) ∧ ∀ e, v.shows ≠ .fail e := by
  obtain ⟨before, after, -, -, hleft, hafter⟩ := h.exists_turns
  rw [hleft.mem_iff, hafter.mem_iff hqueue]

/-- A poll that waits has visited all sources that are left, and each of them waits. -/
lemma Polled.of_pending (h : Polled queue ps t) (hp : p ∈ ps) (hshown : p.shows = .pending) :
    p.left ≠ [] ∧ ∀ id ∈ p.left, ∃ v ∈ p.visits, v.source = id ∧ v.shows = .pending := by
  obtain ⟨vs, before, after, -, hturns, hleft⟩ := h.turns_of_mem hp
  obtain ⟨hne, hvisited⟩ := hturns.of_pending hshown
  refine ⟨fun hnil => hne (hnil ▸ hleft).nil_eq.symm, fun id hid => ?_⟩
  exact (hvisited id (hleft.mem_iff.1 hid)).resolve_left List.not_mem_nil

lemma Polled.shown (h : Polled queue ps t) (hp : p ∈ ps) :
    p.shows.item?.toList = p.visits.filterMap (·.shows.item?) ∧
      p.shows.error?.toList = p.visits.filterMap (·.shows.error?) := by
  obtain ⟨vs, before, after, -, hturns, -⟩ := h.turns_of_mem hp
  exact hturns.shown

lemma Polled.fail_iff (h : Polled queue ps t) (hp : p ∈ ps) {e : ε} :
    p.shows = .fail e ↔ ∃ v ∈ p.visits, v.shows = .fail e := by
  simp only [← Signal.mem_error?, (h.shown hp).2, List.mem_filterMap, Option.mem_toList]

/-- The items of the polls are those of the visits. -/
lemma Polled.items (h : Polled queue ps t) :
    (ps.flatMap (·.visits)).filterMap (·.shows.item?) = ps.filterMap (·.shows.item?) := by
  rw [List.filterMap_flatMap, List.filterMap_eq_flatMap_toList]
  exact List.flatMap_congr fun p hp => (h.shown hp).1.symm

/-- A union that ends after polls without an error has seen all its sources end. -/
lemma Polled.of_finish (h : Polled queue (ps ++ p :: qs) t) (hqueue : queue.Nodup)
    (hshown : p.shows = .finish) :
    (∀ id ∈ queue, ∃ v ∈ (ps ++ [p]).flatMap (·.visits), v.source = id ∧ v.shows = .finish) ∨
      ∃ q ∈ ps, ∃ e, q.shows = .fail e := by
  by_cases herror : ∃ q ∈ ps, ∃ e, q.shows = .fail e
  · exact .inr herror
  refine .inl fun id hid => ?_
  have hp : p ∈ ps ++ p :: qs := List.mem_append_right ps List.mem_cons_self
  have hgone : id ∉ p.left := by
    obtain ⟨vs, before, after, -, hturns, hleft⟩ := h.turns_of_mem hp
    rw [hleft.mem_iff, hturns.of_finish hshown]
    exact List.not_mem_nil
  rw [h.mem_left_iff hqueue, not_and] at hgone
  push Not at hgone
  obtain ⟨v, hv, hnot⟩ := hgone hid
  by_cases hend : v.source = id ∧ v.shows = .finish
  · exact ⟨v, hv, hend⟩
  obtain ⟨e, he⟩ := hnot fun hsource hfinish => hend ⟨hsource, hfinish⟩
  obtain ⟨q, hq, hvisit⟩ := List.mem_flatMap.1 hv
  obtain hq | hq := List.mem_append.1 hq
  · exact absurd ⟨q, hq, e, (h.fail_iff (List.mem_append_left _ hq)).2 ⟨v, hvisit, he⟩⟩ herror
  · obtain rfl := List.mem_singleton.1 hq
    cases hshown.symm.trans ((h.fail_iff hp).2 ⟨v, hvisit, he⟩)

/-- Until the end, each poll has visited a source that does not show its end. -/
lemma Polled.length_le (h : Polled queue ps t) (hshown : ∀ p ∈ ps, p.shows ≠ .finish) :
    ps.length ≤ (ps.flatMap (·.visits)).countP (!·.shows.isFinish) := by
  induction h with
  | nil queue => exact Nat.zero_le _
  | @cons queue queue' t p ps hturns _ _ ih =>
    obtain ⟨hp, hps⟩ := List.forall_mem_cons.1 hshown
    obtain ⟨v, hv, hgoes⟩ := hturns.exists_visit rfl hp
    have hpos : 0 < p.visits.countP (!·.shows.isFinish) :=
      List.countP_pos_iff.2 ⟨v, hv, by rw [hgoes]; rfl⟩
    rw [List.flatMap_cons, List.countP_append, List.length_cons]
    have hrest := ih hps
    omega

end Queues

/-! ## What visits take from the sources -/

section Sources

variable {l l' l₁ : List (Source α ε)} {vs vs' : List (Visit α ε)} {v : Visit α ε} {id : Nat}
  {s : Source α ε} {signal : Signal α ε} {left : List (Cell α ε)}

lemma Source.Shows.isSuffix (h : s.Shows signal left) : left <:+ s.cells := by
  cases h with
  | item hc | fail hc | pause hc => exact hc ▸ List.suffix_cons _ left
  | waits hc _ | ends hc _ => exact List.nil_suffix

lemma Source.Shows.items (h : s.Shows signal left) :
    Cell.items s.cells = signal.item?.toList ++ Cell.items left := by
  cases h with
  | item hc | fail hc | pause hc | waits hc _ | ends hc _ =>
    rw [hc]
    rfl

lemma Source.Shows.eq_nil (h : s.Shows .finish left) : left = [] := by
  cases h
  rfl

lemma Source.Shows.mem {e : ε} (h : s.Shows (.fail e) left) : .fail e ∈ s.cells := by
  cases h with
  | fail hc => exact hc ▸ List.mem_cons_self

/-- A closed source has a cell for each signal before it ends. -/
lemma Source.Shows.length_le (h : s.Shows signal left) (hclosed : s.closed = true) :
    (!signal.isFinish).toNat + left.length ≤ s.cells.length := by
  cases h with
  | item hc | fail hc | pause hc =>
    rw [hc, List.length_cons, Nat.add_comm]
    rfl
  | waits _ hopen =>
    rw [hopen] at hclosed
    cases hclosed
  | ends _ _ => exact Nat.zero_le _

/-- The sources show the signals of some visits.  A source that is not visited does not change. -/
inductive Tells : List (Source α ε) → List (Visit α ε) → List (Source α ε) → Prop
  | refl (l : List (Source α ε)) : Tells l [] l
  | visit {before after l : List (Source α ε)} {s : Source α ε} {v : Visit α ε}
    {vs : List (Visit α ε)} (w : Waker) : before.length = v.source → (s.step w).1 = v.shows →
      Tells (before ++ (s.step w).2 :: after) vs l → Tells (before ++ s :: after) (v :: vs) l

lemma Tells.trans (h : Tells l vs l₁) (h' : Tells l₁ vs' l') : Tells l (vs ++ vs') l' := by
  induction h with
  | refl _ => exact h'
  | visit w hlength hshows _ ih => exact .visit w hlength hshows (ih h')

lemma received_cons_self {id : Nat} {v : Visit α ε} (h : v.source = id) (vs : List (Visit α ε)) :
    received id (v :: vs) = v.shows.item?.toList ++ received id vs := by
  rw [received, List.filterMap_cons, if_pos h, received]
  cases v.shows.item? <;> rfl

lemma received_cons_ne {id : Nat} {v : Visit α ε} (h : v.source ≠ id) (vs : List (Visit α ε)) :
    received id (v :: vs) = received id vs := by
  rw [received, List.filterMap_cons, if_neg h, received]

/-- What a source holds is what it shows in its visits and what is left. -/
lemma Tells.exists_left (h : Tells l vs l') (hs : l[id]? = some s) :
    ∃ s', l'[id]? = some s' ∧ s'.cells <:+ s.cells ∧
      Cell.items s.cells = received id vs ++ Cell.items s'.cells := by
  induction h generalizing s with
  | refl l => exact ⟨s, hs, List.suffix_refl _, rfl⟩
  | @visit before after l t v vs w hlength hshows _ ih =>
    by_cases hid : v.source = id
    · obtain rfl : t = s := by
        simpa [← hid, ← hlength] using hs
      have hstep := t.shows_step w
      obtain ⟨s', hs', hsuffix, hitems⟩ := ih (s := (t.step w).2) (by simp [← hid, ← hlength])
      refine ⟨s', hs', hsuffix.trans hstep.isSuffix, ?_⟩
      rw [hstep.items, hitems, hshows, received_cons_self hid, List.append_assoc]
    · have hother : (before ++ (t.step w).2 :: after)[id]? = some s := by
        rw [← hs]
        grind
      obtain ⟨s', hs', hsuffix, hitems⟩ := ih hother
      exact ⟨s', hs', hsuffix, hitems.trans (by rw [received_cons_ne hid])⟩

/-- A source that has ended holds nothing. -/
lemma Tells.cells_of_finish (h : Tells l vs l') (hv : v ∈ vs) (hend : v.shows = .finish)
    (hs : l'[v.source]? = some s) : s.cells = [] := by
  induction h with
  | refl l => cases hv
  | @visit before after l t v' vs w hlength hshows hrest ih =>
    obtain rfl | hv := List.mem_cons.1 hv
    · have ht : (before ++ (t.step w).2 :: after)[v.source]? = some (t.step w).2 := by
        simp [← hlength]
      obtain ⟨s', hs', hsuffix, -⟩ := hrest.exists_left ht
      obtain rfl := Option.some.inj (hs'.symm.trans hs)
      have hstep := t.shows_step w
      rw [hshows, hend] at hstep
      exact List.suffix_nil.1 (hstep.eq_nil ▸ hsuffix)
    · exact ih hv hs

/-- An error that is shown is one that a source holds. -/
lemma Tells.exists_fail (h : Tells l vs l') (hv : v ∈ vs) {e : ε} (he : v.shows = .fail e) :
    ∃ s ∈ l, .fail e ∈ s.cells := by
  induction h with
  | refl l => cases hv
  | @visit before after l t v' vs w hlength hshows hrest ih =>
    have hstep := t.shows_step w
    obtain rfl | hv := List.mem_cons.1 hv
    · rw [hshows, he] at hstep
      exact ⟨t, List.mem_append_right before List.mem_cons_self, hstep.mem⟩
    · obtain ⟨s, hs, hfail⟩ := ih hv
      obtain hs | rfl | hs : s ∈ before ∨ s = (t.step w).2 ∨ s ∈ after := by simpa using hs
      · exact ⟨s, List.mem_append_left _ hs, hfail⟩
      · exact ⟨t, List.mem_append_right before List.mem_cons_self, hstep.isSuffix.subset hfail⟩
      · exact ⟨s, List.mem_append_right before (.tail _ hs), hfail⟩

lemma Tells.length_eq (h : Tells l vs l') : l'.length = l.length := by
  induction h with
  | refl l => rfl
  | visit w _ _ _ ih => rw [ih, List.length_append, List.length_append, List.length_cons,
      List.length_cons]

/-- When all sources have ended, nothing is left. -/
lemma Tells.items_eq_nil (h : Tells l vs l')
    (hend : ∀ id < l.length, ∃ v ∈ vs, v.source = id ∧ v.shows = .finish) :
    ∀ s ∈ l', Cell.items s.cells = [] := by
  intro s hs
  obtain ⟨id, hid, rfl⟩ := List.mem_iff_getElem.1 hs
  obtain ⟨v, hv, rfl, hfinish⟩ := hend id (h.length_eq ▸ hid)
  rw [h.cells_of_finish hv hfinish (List.getElem?_eq_getElem hid)]
  rfl

/-- When nothing is left, the items that have been shown are those of all sources. -/
lemma Tells.interleaving (h : Tells l vs l') (hend : ∀ s ∈ l', Cell.items s.cells = []) :
    Interleaving (l.map fun s => Cell.items s.cells) (vs.filterMap (·.shows.item?)) := by
  induction h with
  | refl l => exact .nil (by simpa using hend)
  | @visit before after l s v vs w hlength hshows _ ih =>
    have hitems := (s.shows_step w).items
    have hrest := ih hend
    rw [List.map_append, List.map_cons] at hrest ⊢
    rw [hitems, hshows, List.filterMap_cons]
    cases v.shows.item? with
    | none => exact hrest
    | some a => exact .cons a hrest

/-- Closed sources show something before they end at most as often as they have cells. -/
lemma Tells.countP_le (h : Tells l vs l') (hclosed : ∀ s ∈ l, s.closed = true) :
    vs.countP (!·.shows.isFinish) ≤ (l.map (·.cells.length)).sum := by
  induction h with
  | refl l => exact Nat.zero_le _
  | @visit before after l s v vs w hlength hshows _ ih =>
    obtain ⟨hbefore, hothers⟩ := List.forall_mem_append.1 hclosed
    obtain ⟨hs, hafter⟩ := List.forall_mem_cons.1 hothers
    have hs' : (s.step w).2.closed = true := (s.step_counts w).2.1.trans hs
    have hstep := (s.shows_step w).length_le hs
    have hrest := ih (List.forall_mem_append.2 ⟨hbefore, List.forall_mem_cons.2 ⟨hs', hafter⟩⟩)
    rw [List.map_append, List.sum_append, List.map_cons, List.sum_cons] at hrest ⊢
    rw [List.countP_cons]
    rw [hshows] at hstep
    cases hfinish : v.shows.isFinish <;> simp [hfinish] at hstep ⊢ <;> omega

variable {queue t : List Nat} {ps qs : List (Poll α ε)} {p : Poll α ε}

/-- A union of sources without errors has shown the items of all of them when it ends. -/
lemma Polled.drained (h : Polled queue (ps ++ p :: qs) t) (hqueue : queue.Nodup)
    (hall : ∀ id < l.length, id ∈ queue) (htells : Tells l ((ps ++ p :: qs).flatMap (·.visits)) l')
    (hquiet : ∀ s ∈ l, ∀ e, .fail e ∉ s.cells) (hshown : p.shows = .finish) :
    Interleaving (l.map fun s => Cell.items s.cells)
      ((ps ++ p :: qs).filterMap (·.shows.item?)) := by
  obtain hend | ⟨q, hq, e, he⟩ := h.of_finish hqueue hshown
  · rw [← h.items]
    refine htells.interleaving (htells.items_eq_nil fun id hid => ?_)
    obtain ⟨v, hv, hfinish⟩ := hend id (hall id hid)
    refine ⟨v, ?_, hfinish⟩
    rw [List.append_cons, List.flatMap_append]
    exact List.mem_append_left _ hv
  · have hq' : q ∈ ps ++ p :: qs := List.mem_append_left _ hq
    obtain ⟨v, hv, hfail⟩ := (h.fail_iff hq').1 he
    obtain ⟨s, hs, hcell⟩ := htells.exists_fail (List.mem_flatMap.2 ⟨q, hq', hv⟩) hfail
    exact absurd hcell (hquiet s hs e)

/-- A union of closed sources ends at the latest when it has shown all their cells. -/
lemma Polled.exists_finish (h : Polled queue ps t) (htells : Tells l (ps.flatMap (·.visits)) l')
    (hclosed : ∀ s ∈ l, s.closed = true) (hlength : (l.map (·.cells.length)).sum < ps.length) :
    ∃ p ∈ ps, p.shows = .finish := by
  by_contra hnot
  push Not at hnot
  exact absurd ((h.length_le hnot).trans (htells.countP_le hclosed)) (not_le.2 hlength)

end Sources

/-! ## Polls of a union -/

lemma flatMap_eq_of_forall_ne {ι β : Type} {l : List ι} {f : ι → List β} {i : ι} (hl : l.Nodup)
    (hi : i ∈ l) (h : ∀ j ∈ l, j ≠ i → f j = []) : l.flatMap f = f i := by
  obtain ⟨front, back, rfl⟩ := List.append_of_mem hi
  obtain ⟨-, hback, hfront⟩ := List.nodup_append.1 hl
  have hfront' : front.flatMap f = [] := List.flatMap_eq_nil_iff.2 fun j hj =>
    h j (List.mem_append_left _ hj) (hfront j hj i List.mem_cons_self)
  have hback' : back.flatMap f = [] := List.flatMap_eq_nil_iff.2 fun j hj => by
    refine h j (List.mem_append_right front (.tail _ hj)) ?_
    rintro rfl
    exact (List.nodup_cons.1 hback).1 hj
  rw [List.flatMap_append, List.flatMap_cons, hfront', hback', List.nil_append, List.append_nil]

section Polls

variable {id : Nat} {ahead behind ahead' behind' members queue : List Nat}
  {signal shown : Signal α ε} {vs : List (Visit α ε)}

/-- A poll is over when the union shows something. -/
lemma Round.Answers.turns_of_shown (h : Round.Answers id ahead behind signal shown ahead' behind')
    (hshown : shown ≠ .again) (hmembers : members.Perm (id :: (ahead ++ behind))) :
    behind' = [] ∧ Turns (id :: ahead) behind [⟨members, id, signal⟩] shown ahead' := by
  cases h with
  | item a => exact ⟨rfl, .item a hmembers⟩
  | fail e => exact ⟨rfl, .fail e hmembers⟩
  | pending h =>
    cases h with
    | stops _ => exact ⟨rfl, .pending hmembers (.done _)⟩
    | again _ => exact absurd rfl hshown
  | finish h =>
    cases h with
    | stops _ => exact ⟨rfl, .finish hmembers (.done _)⟩
    | again _ => exact absurd rfl hshown

lemma Round.GoesOn.of_again (h : Round.GoesOn ahead behind shown ahead' behind')
    (hshown : shown = .again) : ahead' = ahead ∧ behind' = behind := by
  cases h with
  | stops _ => split at hshown <;> cases hshown
  | again _ => exact ⟨rfl, rfl⟩

lemma Round.Answers.of_again (h : Round.Answers id ahead behind signal shown ahead' behind')
    (hshown : shown = .again) : ahead' = ahead := by
  cases h with
  | item _ | fail _ => cases hshown
  | pending h | finish h => exact (h.of_again hshown).1

/-- Otherwise the poll goes on with the sources that are ahead then. -/
lemma Round.Answers.turns_of_again
    (h : Round.Answers id ahead behind signal (.again : Signal α ε) ahead' behind')
    (hmembers : members.Perm (id :: (ahead ++ behind)))
    (hrest : Turns ahead' behind' vs shown queue) :
    Turns (id :: ahead) behind (⟨members, id, signal⟩ :: vs) shown queue := by
  cases h with
  | pending h =>
    obtain ⟨rfl, rfl⟩ := h.of_again rfl
    exact .pending hmembers hrest
  | finish h =>
    obtain ⟨rfl, rfl⟩ := h.of_again rfl
    exact .finish hmembers hrest

namespace Outlet

variable {o t : Outlet α ε Empty} {before after : List (Source α ε)} {s s' : Source α ε}

lemma visitsTo_eq (hs : o.ledger[id]? = some s) (hs' : t.ledger[id]? = some s') :
    o.visitsTo t id = List.replicate (s'.asked - s.asked) ⟨o.members, id, (s.step o.waker).1⟩ := by
  rw [ledger, List.getElem?_map, Option.map_eq_some_iff] at hs hs'
  obtain ⟨s, hs, rfl⟩ := hs
  obtain ⟨s', hs', rfl⟩ := hs'
  rw [visitsTo, hs, hs', s.step_kept]
  rfl

lemma visits_self (o : Outlet α ε Empty) : o.visits o = [] := by
  rw [visits, List.flatMap_eq_nil_iff]
  intro id _
  rw [visitsTo]
  cases o.plant.sources[id]? with
  | none => rfl
  | some s => exact congrArg (List.replicate · _) (Nat.sub_self s.asked)

/-- Between two states in which one source has been asked there is one visit. -/
lemma visits_eq (ho : o.ledger = before ++ s :: after)
    (ht : t.ledger = before ++ (s.step o.waker).2 :: after) :
    o.visits t = [⟨o.members, before.length, (s.step o.waker).1⟩] := by
  have hlength := congrArg List.length ho
  rw [ledger, List.length_map, List.length_append, List.length_cons] at hlength
  have hs : o.ledger[before.length]? = some s := by simp [ho]
  have hs' : t.ledger[before.length]? = some (s.step o.waker).2 := by simp [ht]
  have hothers : ∀ j ∈ List.range o.plant.sources.length, j ≠ before.length →
      o.visitsTo t j = [] := by
    intro j hj hne
    have hsame : t.ledger[j]? = o.ledger[j]? := by
      rw [ho, ht]
      grind
    have hj : j < o.ledger.length := by
      rw [ledger, List.length_map]
      exact List.mem_range.1 hj
    have hs := List.getElem?_eq_getElem hj
    rw [visitsTo_eq hs (hsame.trans hs), Nat.sub_self]
    rfl
  rw [visits, flatMap_eq_of_forall_ne List.nodup_range (List.mem_range.2 (by omega)) hothers,
    visitsTo_eq hs hs', (s.step_counts o.waker).1, Nat.add_sub_cancel_left]
  rfl

/-- The sources in a union are those in its queue. -/
lemma Stands.perm_members (h : o.Stands ahead behind) : o.members.Perm (ahead ++ behind) := by
  obtain ⟨ids, round, hstage, hqueue, -⟩ := h.stage
  have hmembers : o.members = ids := by
    rw [members, hstage]
    simp [List.filterMap_map]
  rw [hmembers, ← hqueue]
  exact (List.rotate_perm ids _).symm

/-- In a poll the sources ahead take their turns. -/
lemma Polls.turns (h : o.Polls vs signal t) (ho : o.Stands ahead behind) :
    ∃ queue, t.Stands queue [] ∧ Turns ahead behind vs signal queue ∧
      Tells o.ledger vs t.ledger := by
  induction h generalizing ahead behind with
  | @shows o t signal hstep hne =>
    cases ahead with
    | nil =>
      obtain ⟨rfl, hend⟩ := ho.step_nil
      obtain ⟨rfl, rfl⟩ := Prod.mk.inj (hend.symm.trans hstep)
      rw [visits_self]
      exact ⟨[], ho, .done [], .refl _⟩
    | cons id ahead =>
      obtain ⟨before, s, after, ahead', behind', rfl, hledger, hledger', hanswers, hstands⟩ :=
        ho.exists_step
      rw [hstep] at hledger' hanswers hstands
      obtain ⟨rfl, hturns⟩ := hanswers.turns_of_shown hne ho.perm_members
      rw [visits_eq hledger hledger', hledger, hledger']
      exact ⟨ahead', hstands, hturns, .visit o.waker rfl rfl (.refl _)⟩
  | @again o o' t vs signal hstep hrest ih =>
    cases ahead with
    | nil => cases ho.step_nil.2.symm.trans hstep
    | cons id ahead =>
      obtain ⟨before, s, after, ahead', behind', rfl, hledger, hledger', hanswers, hstands⟩ :=
        ho.exists_step
      rw [hstep] at hledger' hanswers hstands
      obtain ⟨queue, hqueue, hturns, htells⟩ := ih hstands
      rw [visits_eq hledger hledger', hledger]
      rw [hledger'] at htells
      exact ⟨queue, hqueue, hanswers.turns_of_again ho.perm_members hturns,
        .visit o.waker rfl rfl htells⟩

/-- A poll shows something after it has asked each source ahead once at most. -/
lemma Stands.exists_polls (h : o.Stands ahead behind) : ∃ vs signal t, o.Polls vs signal t := by
  induction ahead generalizing o behind with
  | nil => exact ⟨_, _, _, .shows h.step_nil.2 (by simp)⟩
  | cons id ahead ih =>
    obtain ⟨before, s, after, ahead', behind', -, -, -, hanswers, hstands⟩ := h.exists_step
    by_cases hshown : (Flow.step o).1 = .again
    · have hstep : Flow.step o = (.again, (Flow.step o).2) := Prod.ext hshown rfl
      obtain rfl : ahead' = ahead := hanswers.of_again hshown
      obtain ⟨vs, signal, t, hpolls⟩ := ih hstands
      exact ⟨_, signal, t, .again hstep hpolls⟩
    · exact ⟨_, _, _, .shows rfl hshown⟩

/-- Some polls can be made of a union, whoever makes them. -/
lemma Stands.exists_runs {queue : List Nat} (h : o.Stands queue []) (ws : List Waker) :
    ∃ ps t, o.Runs ws ps t := by
  induction ws generalizing o queue with
  | nil => exact ⟨[], o, .nil o⟩
  | cons w ws ih =>
    obtain ⟨vs, signal, t, hpolls⟩ := (h.setWaker w).exists_polls
    obtain ⟨queue', hqueue', -, -⟩ := hpolls.turns (h.setWaker w)
    obtain ⟨ps, t', hruns⟩ := ih hqueue'
    exact ⟨_, t', .cons hpolls hruns⟩

/-- In a run the sources take their turns. -/
lemma Runs.polled {queue : List Nat} {ws : List Waker} {ps : List (Poll α ε)}
    (h : o.Runs ws ps t) (ho : o.Stands queue []) : ∃ queue',
    Polled queue ps queue' ∧ Tells o.ledger (ps.flatMap (·.visits)) t.ledger := by
  induction h generalizing queue with
  | nil o => exact ⟨queue, .nil queue, .refl _⟩
  | @cons o o' t w ws vs signal ps hpolls _ ih =>
    obtain ⟨queue', hqueue', hturns, htells⟩ := hpolls.turns (ho.setWaker w)
    obtain ⟨last, hpolled, hrest⟩ := ih hqueue'
    have hleft := hqueue'.perm_members
    rw [List.append_nil] at hleft
    exact ⟨last, .cons hturns hleft hpolled, htells.trans hrest⟩

/-- A union of any sources can be polled any number of times, and whenever this is done its sources
take turns. -/
theorem takesTurns_run (scripts : List (List (Cell α ε) × Bool)) (w : Waker) (ws : List Waker) :
    (∃ polls t, (ofScripts scripts w).Runs ws polls t) ∧
      ∀ polls t, (ofScripts scripts w).Runs ws polls t → TakesTurns scripts polls := by
  refine ⟨(stands_ofScripts scripts w).exists_runs ws, fun polls t hruns => ?_⟩
  obtain ⟨queue, hpolled, htells⟩ := hruns.polled (stands_ofScripts scripts w)
  rw [ledger_ofScripts] at htells
  have hnodup : (List.range scripts.length).Nodup := List.nodup_range
  refine {
    once := fun p hp => hpolled.once hnodup hp
    left := ?_
    pending := fun p hp => hpolled.of_pending hp
    finish := ?_
    shown := fun p hp => hpolled.shown hp
    ordered := ?_
    drained := ?_
    ends := ?_
    fair := ?_ }
  · rintro before p after rfl id
    rw [hpolled.mem_left_iff hnodup, List.mem_range]
  · rintro before p after rfl hshown
    simpa only [List.mem_range] using hpolled.of_finish hnodup hshown
  · intro id script hscript
    have hs : (scripts.map fun s => Source.start s.1 s.2)[id]? =
        some (.start script.1 script.2) := by
      rw [List.getElem?_map, hscript]
      rfl
    obtain ⟨s, -, -, hitems⟩ := htells.exists_left hs
    exact ⟨_, hitems.symm⟩
  · rintro hquiet ⟨p, hp, hshown⟩
    obtain ⟨before, after, rfl⟩ := List.append_of_mem hp
    have hdrained := hpolled.drained hnodup (by simp) htells (List.forall_mem_map.2 hquiet) hshown
    rwa [List.map_map] at hdrained
  · intro hclosed hlength
    refine hpolled.exists_finish htells (List.forall_mem_map.2 hclosed) ?_
    rw [List.map_map]
    exact hlength
  · intro u x m y v hvisits hsame id hid hne
    have hrotates := hpolled.rotates
    rw [hvisits] at hrotates
    exact hrotates.fair hnodup hsame hid hne

/-- A source that waits between its items, one without items, and one that waits first. -/
def sampleScripts : List (List (Cell Nat String) × Bool) :=
  [([.item 1, .pause, .item 2], true), ([], true), ([.pause, .item 10], true)]

/-- Polls of a union of these sources.  When the second source ends, the poll goes on behind it. -/
def samplePolls : List (Poll Nat String) :=
  [⟨[⟨[0, 1, 2], 0, .item 1⟩], .item 1, [0, 1, 2]⟩,
    ⟨[⟨[0, 1, 2], 1, .finish⟩, ⟨[0, 2], 2, .pending⟩, ⟨[0, 2], 0, .pending⟩], .pending, [0, 2]⟩,
    ⟨[⟨[0, 2], 2, .item 10⟩], .item 10, [0, 2]⟩,
    ⟨[⟨[0, 2], 0, .item 2⟩], .item 2, [0, 2]⟩,
    ⟨[⟨[0, 2], 2, .finish⟩, ⟨[0], 0, .finish⟩], .finish, []⟩]

/-- The union after some steps. -/
def sampleAfter (n : Nat) : Outlet Nat String Empty :=
  (fun o => (Flow.step o).2)^[n] (ofScripts sampleScripts "")

theorem takesTurns_run_sample :
    (∃ t, (ofScripts sampleScripts "").Runs ["", "", "", "", ""] samplePolls t) ∧
      TakesTurns sampleScripts samplePolls := by
  have h₁ : (sampleAfter 0).Polls [⟨[0, 1, 2], 0, .item 1⟩] (.item 1) (sampleAfter 1) :=
    .shows rfl (by decide)
  have h₂ : (sampleAfter 1).Polls
      [⟨[0, 1, 2], 1, .finish⟩, ⟨[0, 2], 2, .pending⟩, ⟨[0, 2], 0, .pending⟩] .pending
      (sampleAfter 4) :=
    .again (show Flow.step (sampleAfter 1) = (_, sampleAfter 2) from rfl)
      (.again (show Flow.step (sampleAfter 2) = (_, sampleAfter 3) from rfl)
        (.shows rfl (by decide)))
  have h₃ : (sampleAfter 4).Polls [⟨[0, 2], 2, .item 10⟩] (.item 10) (sampleAfter 5) :=
    .shows rfl (by decide)
  have h₄ : (sampleAfter 5).Polls [⟨[0, 2], 0, .item 2⟩] (.item 2) (sampleAfter 6) :=
    .shows rfl (by decide)
  have h₅ : (sampleAfter 6).Polls [⟨[0, 2], 2, .finish⟩, ⟨[0], 0, .finish⟩] .finish
      (sampleAfter 8) :=
    .again (show Flow.step (sampleAfter 6) = (_, sampleAfter 7) from rfl)
      (.shows rfl (by decide))
  have hruns : (sampleAfter 0).Runs ["", "", "", "", ""] _ (sampleAfter 8) :=
    .cons h₁ (.cons h₂ (.cons h₃ (.cons h₄ (.cons h₅ (.nil _)))))
  exact ⟨⟨_, hruns⟩, (takesTurns_run sampleScripts "" ["", "", "", "", ""]).2 _ _ hruns⟩

end Outlet

end Polls

end SparqlStream
