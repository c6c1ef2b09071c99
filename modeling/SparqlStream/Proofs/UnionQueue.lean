import Mathlib.Tactic
import SparqlStream.Proofs.Attachment
import SparqlStream.Proofs.Reading
import SparqlStream.Stream.Network

/-!
# The queue of a union

A union keeps a list of inputs, a cursor for the input whose turn it is, and the number of inputs
that are still to be asked in this poll.  Read from the cursor on and round the end of the list, the
inputs form a queue.  There it does not matter where the cursor stands and when it wraps: the first
input is asked, and goes to the end of the queue unless it has ended, `Round.queue_react`.

`Outlet.Stands` describes a union of sources in the midst of a poll by the part of the queue that is
still ahead and the part behind.  What one step does then is said once, by
`Outlet.Stands.exists_step`; what follows about unions of sources uses this and does not look at
cursors.
-/

namespace SparqlStream

variable {α ε : Type}

/-! ## Sources -/

namespace Source

variable {s : Source α ε} {signal : Signal α ε} {left : List (Cell α ε)}

/-- What a source shows is what its first cell says.  A source without cells has ended if it has
been closed. -/
inductive Shows (s : Source α ε) : Signal α ε → List (Cell α ε) → Prop
  | item {a : α} {left : List (Cell α ε)} : s.cells = .item a :: left → Shows s (.item a) left
  | fail {e : ε} {left : List (Cell α ε)} : s.cells = .fail e :: left → Shows s (.fail e) left
  | pause {left : List (Cell α ε)} : s.cells = .pause :: left → Shows s .pending left
  | waits : s.cells = [] → s.closed = false → Shows s .pending []
  | ends : s.cells = [] → s.closed = true → Shows s .finish []

lemma shows_step (s : Source α ε) (w : Waker) : s.Shows (s.step w).1 (s.step w).2.cells := by
  cases hc : s.cells with
  | nil =>
    cases hclosed : s.closed with
    | true =>
      rw [step_closed hc hclosed]
      exact hc ▸ .ends hc hclosed
    | false =>
      rw [step_open hc hclosed]
      exact hc ▸ .waits hc hclosed
  | cons c rest =>
    cases c with
    | item a =>
      rw [step_item hc]
      exact .item hc
    | fail e =>
      rw [step_fail hc]
      exact .fail hc
    | pause =>
      rw [step_pause hc]
      exact .pause hc

lemma Shows.ne_again (h : s.Shows signal left) : signal ≠ .again := by
  rintro rfl
  cases h

/-- A source as if it had not been let go of. -/
def kept (s : Source α ε) : Source α ε := { s with isLive := true }

/-- A source that is asked counts this, and is not closed by it. -/
lemma step_counts (s : Source α ε) (w : Waker) :
    (s.step w).2.asked = s.asked + 1 ∧ (s.step w).2.closed = s.closed ∧
      s.kept.step w = ((s.step w).1, (s.step w).2.kept) := by
  obtain ⟨cells, closed, asked, isLive, waker⟩ := s
  cases cells with
  | nil => cases closed <;> exact ⟨rfl, rfl, rfl⟩
  | cons c rest => cases c <;> exact ⟨rfl, rfl, rfl⟩

lemma step_kept (s : Source α ε) (w : Waker) :
    s.kept.step w = ((s.step w).1, (s.step w).2.kept) := (s.step_counts w).2.2

end Source

/-! ## Queues -/

section Queues

variable {β : Type} {x : β} {rest : List β}

/-- A queue after its first member has shown a signal.  The member goes to the end of the queue,
unless it has ended or all are let go of. -/
def requeue (x : β) (rest : List β) : Signal α ε → List β
  | .finish => rest
  | .fail _ => []
  | _ => rest ++ [x]

lemma requeue_subset (x : β) (rest : List β) (signal : Signal α ε) :
    requeue x rest signal ⊆ x :: rest := by
  cases signal <;> simp [requeue]

lemma nodup_requeue (h : (x :: rest).Nodup) (signal : Signal α ε) :
    (requeue x rest signal).Nodup := by
  cases signal with
  | fail e => exact .nil
  | finish => exact h.of_cons
  | item _ | pending | again => exact (List.perm_append_singleton x rest).nodup_iff.2 h

end Queues

namespace Round

/-- The inputs of a union in the order in which they are asked. -/
def queue {β : Type} (r : Round) (inputs : List β) : List β :=
  inputs.rotate (r.asked inputs.length)

variable {β : Type} {r : Round} {before after inputs rest : List β} {x : β} {signal : Signal α ε}

lemma queue_of_turn (h : r.turn = before.length) : r.queue (before ++ after) = after ++ before := by
  rw [queue, asked, h]
  cases after with
  | nil =>
    rw [List.append_nil, if_neg (lt_irrefl _), List.rotate_zero]
    rfl
  | cons x after => rw [if_pos (by simp), List.rotate_append_length_eq]

lemma queue_of_next (h : r.turn = before.length + 1) :
    r.queue (before ++ x :: after) = after ++ before ++ [x] := by
  have hnext : before ++ x :: after = (before ++ [x]) ++ after := by simp
  rw [hnext, queue_of_turn (by rw [h, List.length_append, List.length_singleton]),
    List.append_assoc]

/-- The inputs behind the one that is asked follow it in the queue, and then those before it. -/
lemma exists_turn (h : r.queue inputs = x :: rest) :
    ∃ before after, inputs = before ++ x :: after ∧ before.length = r.asked inputs.length ∧
      rest = after ++ before := by
  have hle : r.asked inputs.length ≤ inputs.length := by
    unfold asked
    split <;> omega
  have hlt : r.asked inputs.length < inputs.length := by
    have hpos : 0 < inputs.length := by
      rw [← List.length_rotate (n := r.asked inputs.length)]
      exact lt_of_lt_of_eq (Nat.succ_pos _) (congrArg List.length h).symm
    unfold asked
    split <;> assumption
  rw [queue, List.rotate_eq_drop_append_take hle, List.drop_eq_getElem_cons hlt,
    List.cons_append, List.cons.injEq] at h
  obtain ⟨rfl, rfl⟩ := h
  refine ⟨_, _, ?_, List.length_take_of_le hle, rfl⟩
  rw [← List.drop_eq_getElem_cons hlt, List.take_append_drop]

/-- The inputs that a union keeps. -/
def Effect.kept (before : List β) (x : β) (after : List β) : Effect → List β
  | keepAll => before ++ x :: after
  | dropAsked => before ++ after
  | dropAll => []

/-- However a union reacts, the queue goes on behind the input that it has asked. -/
lemma queue_react (hturn : before.length = r.asked (before ++ x :: after).length)
    (hsignal : signal ≠ .again) :
    let out : Outcome α ε := r.react (before ++ x :: after).length signal
    out.round.queue (out.effect.kept before x after) = requeue x (after ++ before) signal := by
  have hlength : (before ++ x :: after).length = before.length + after.length + 1 := by
    rw [List.length_append, List.length_cons, Nat.add_assoc]
  cases signal with
  | again => exact absurd rfl hsignal
  | fail e => rfl
  | item a =>
    cases after with
    | nil =>
      -- The last input was asked, and the first one is the next.
      have hfirst : (r.asked (before ++ [x]).length + 1) % (before ++ [x]).length = 0 := by
        rw [← hturn, hlength]
        exact Nat.mod_self _
      exact (queue_of_turn (show _ = ([] : List β).length from hfirst)).trans (List.append_nil _)
    | cons y after =>
      refine queue_of_next ?_
      show (r.asked _ + 1) % _ = _
      rw [← hturn, hlength, List.length_cons]
      exact Nat.mod_eq_of_lt (by omega)
  | pending =>
    rw [react, nextTurn]
    split_ifs <;> exact queue_of_next (congrArg (· + 1) hturn.symm)
  | finish =>
    rw [react, nextTurn]
    split_ifs with hone
    · obtain ⟨rfl, rfl⟩ : before = [] ∧ after = [] := by
        rw [hlength] at hone
        simpa [← List.length_eq_zero_iff] using (by omega : before.length = 0 ∧ after.length = 0)
      rfl
    all_goals exact queue_of_turn hturn.symm

/-! ### Ahead and behind -/

/-- After a source has shown no item, a poll goes on with the next one ahead, or is over. -/
inductive GoesOn : List Nat → List Nat → Signal α ε → List Nat → List Nat → Prop
  | stops (behind : List Nat) :
    GoesOn [] behind (if behind = [] then .finish else .pending) behind []
  | again {ahead behind : List Nat} : ahead ≠ [] → GoesOn ahead behind .again ahead behind

/-- What a union shows when a source has shown a signal, and who stands ahead and behind then. -/
inductive Answers (id : Nat) (ahead behind : List Nat) :
    Signal α ε → Signal α ε → List Nat → List Nat → Prop
  | item (a : α) : Answers id ahead behind (.item a) (.item a) (ahead ++ behind ++ [id]) []
  | fail (e : ε) : Answers id ahead behind (.fail e) (.fail e) [] []
  | pending {shown : Signal α ε} {ahead' behind' : List Nat} :
    GoesOn ahead (behind ++ [id]) shown ahead' behind' →
      Answers id ahead behind .pending shown ahead' behind'
  | finish {shown : Signal α ε} {ahead' behind' : List Nat} :
    GoesOn ahead behind shown ahead' behind' → Answers id ahead behind .finish shown ahead' behind'

variable {id count : Nat} {ahead behind ahead' behind' : List Nat} {shown : Signal α ε}

lemma GoesOn.queue_eq (h : GoesOn ahead behind shown ahead' behind') :
    ahead' ++ behind' = ahead ++ behind := by
  cases h with
  | stops behind => exact List.append_nil behind
  | again _ => rfl

lemma Answers.queue_eq (h : Answers id ahead behind signal shown ahead' behind') :
    ahead' ++ behind' = requeue id (ahead ++ behind) signal := by
  cases h with
  | item a => exact List.append_nil _
  | fail e => rfl
  | pending h => exact h.queue_eq.trans (List.append_assoc ahead behind [id]).symm
  | finish h => exact h.queue_eq

/-- A union goes on as long as there are sources ahead, and otherwise it waits. -/
lemma exists_goesOn (turn : Nat) (ahead behind : List Nat) (hne : ahead = [] → behind ≠ []) :
    let next : Round × Signal α ε := nextTurn turn (ahead.length + 1)
    ∃ ahead' behind', GoesOn ahead behind next.2 ahead' behind' ∧ (ahead' = [] → behind' = []) ∧
      next.1.remaining (ahead' ++ behind').length = ahead'.length := by
  cases ahead with
  | nil =>
    have hwaits : GoesOn [] behind (.pending : Signal α ε) behind [] := by
      simpa only [if_neg (hne rfl)] using GoesOn.stops (α := α) (ε := ε) behind
    exact ⟨behind, [], hwaits, fun _ => rfl, by rw [List.append_nil]; rfl⟩
  | cons id ahead =>
    have hmore : ¬(id :: ahead).length + 1 ≤ 1 := by simp
    rw [nextTurn, if_neg hmore]
    exact ⟨id :: ahead, behind, .again (List.cons_ne_nil _ _), (fun h => by cases h), rfl⟩

/-- A union that has asked a source goes on, or shows something and begins the next round. -/
lemma exists_answers (id : Nat) (hleft : r.remaining count = ahead.length + 1)
    (hcount : count = ahead.length + behind.length + 1) (hsignal : signal ≠ .again) :
    let out : Outcome α ε := r.react count signal
    ∃ ahead' behind', Answers id ahead behind signal out.shows ahead' behind' ∧
      (ahead' = [] → behind' = []) ∧
      out.round.remaining (ahead' ++ behind').length = ahead'.length := by
  cases signal with
  | again => exact absurd rfl hsignal
  | fail e => exact ⟨[], [], .fail e, fun _ => rfl, rfl⟩
  | item a => exact ⟨_, [], .item a, fun _ => rfl, by rw [List.append_nil]; rfl⟩
  | pending =>
    obtain ⟨ahead', behind', hgoes, hstands⟩ :=
      exists_goesOn (α := α) (ε := ε) (r.asked count + 1) ahead (behind ++ [id]) (by simp)
    rw [← hleft] at hgoes hstands
    exact ⟨ahead', behind', .pending hgoes, hstands⟩
  | finish =>
    rw [react]
    split_ifs with hone
    · obtain ⟨rfl, rfl⟩ : ahead = [] ∧ behind = [] := by
        simpa [← List.length_eq_zero_iff] using
          (by omega : ahead.length = 0 ∧ behind.length = 0)
      exact ⟨[], [], .finish (.stops []), fun _ => rfl, rfl⟩
    · obtain ⟨ahead', behind', hgoes, hstands⟩ :=
        exists_goesOn (α := α) (ε := ε) (r.asked count) ahead behind (by
          rintro rfl rfl
          exact hone hcount.le)
      rw [← hleft] at hgoes hstands
      exact ⟨ahead', behind', .finish hgoes, hstands⟩

end Round

/-! ## One step -/

namespace Stage

variable {μ : Type} {leave : Plant α ε μ → Nat → Nat → Plant α ε μ}

/-- Letting go of sources changes nothing that they show. -/
lemma releaseAllWith_sources (ids : List Nat) (p : Plant α ε μ) :
    (releaseAllWith leave p (ids.map .source)).sources.map Source.kept =
      p.sources.map Source.kept := by
  induction ids generalizing p with
  | nil => rfl
  | cons id ids ih =>
    rw [List.map_cons, releaseAllWith, ih]
    cases hs : p.sources[id]? with
    | none => rw [releaseWith, hs]
    | some s =>
      obtain ⟨hid, rfl⟩ := List.getElem?_eq_some_iff.1 hs
      rw [releaseWith_source hs, Plant.setSource_sources, List.map_set]
      show (p.sources.map Source.kept).set id p.sources[id].kept = p.sources.map Source.kept
      rw [← List.map_set, List.set_getElem_self]

variable (leave)

/-- A union of sources that has asked one of them is a union of those that it keeps. -/
lemma exists_settleUnion (p : Plant α ε μ) (before : List Nat) (id : Nat) (after : List Nat)
    (effect : Round.Effect) : ∃ p',
      settleUnion leave p (before.map .source) (.source id) (after.map .source) effect =
        ((effect.kept before id after).map .source, p') ∧
      p'.sources.map Source.kept = p.sources.map Source.kept := by
  cases effect with
  | keepAll => exact ⟨p, by simp [settleUnion, Round.Effect.kept], rfl⟩
  | dropAsked =>
    exact ⟨releaseAllWith leave p [.source id], by simp [settleUnion, Round.Effect.kept],
      releaseAllWith_sources [id] p⟩
  | dropAll =>
    refine ⟨releaseAllWith leave p (before.map .source ++ .source id :: after.map .source), rfl, ?_⟩
    rw [← List.map_cons, ← List.map_append]
    exact releaseAllWith_sources _ p

variable [Operator μ α α ε] (read : Plant α ε μ → Nat → Nat → Signal α ε × Plant α ε μ) (w : Waker)

/-- A union of sources asks the one whose turn it is. -/
lemma exists_stepWith_union {p : Plant α ε μ} {front back : List Nat} {id : Nat} {round : Round}
    {s : Source α ε} (hturn : front.length = round.asked (front ++ id :: back).length)
    (hs : p.sources[id]? = some s) :
    let out : Round.Outcome α ε := round.react (front ++ id :: back).length (s.step w).1
    ∃ p', stepWith read leave w p (.union ((front ++ id :: back).map .source) round) =
        (out.shows, .union ((out.effect.kept front id back).map .source) out.round, p') ∧
      p'.sources.map Source.kept = (p.sources.set id (s.step w).2).map Source.kept := by
  have hlength : (front.map (source (α := α) (μ := μ)) ++ source id :: back.map source).length =
      (front ++ id :: back).length := by
    rw [← List.map_cons, ← List.map_append, List.length_map]
  have hturn' : (front.map (source (α := α) (μ := μ))).length = round.asked
      (front.map (source (α := α) (μ := μ)) ++ source id :: back.map source).length := by
    rw [hlength, List.length_map, hturn]
  obtain ⟨p', hsettle, hp⟩ := exists_settleUnion leave (p.setSource id (s.step w).2) front id back
    (round.react (front ++ id :: back).length (s.step w).1 : Round.Outcome α ε).effect
  refine ⟨p', ?_, hp⟩
  rw [List.map_append, List.map_cons, stepWith_union hturn' (stepWith_source hs), hlength]
  dsimp only
  rw [hsettle]

end Stage

namespace Outlet

variable {o t : Outlet α ε Empty} {ahead behind : List Nat} {id : Nat} {shown : Signal α ε}

/-- What can be read from the sources. -/
def ledger (o : Outlet α ε Empty) : List (Source α ε) := o.plant.sources.map Source.kept

/-- A union of sources in the midst of a poll: the sources ahead are still to be asked, those behind
have made it wait. -/
structure Stands (o : Outlet α ε Empty) (ahead behind : List Nat) : Prop where
  stage : ∃ ids round, o.stage = .union (ids.map .source) round ∧
    round.queue ids = ahead ++ behind ∧ round.remaining ids.length = ahead.length
  begins : ahead = [] → behind = []
  valid : ∀ id ∈ ahead ++ behind, id < o.plant.sources.length

lemma step_of_stage {p : Plant α ε Empty} {stage : Stage α Empty}
    (h : o.plant.step o.waker o.stage = (shown, stage, p)) :
    Flow.step o = (shown, ⟨p, stage, o.waker⟩) := by
  show Outlet.step o = _
  rw [Outlet.step, h]

/-- The ledger before and after a source has been asked. -/
lemma exists_ledger {p : Plant α ε Empty} {s : Source α ε} (hs : o.plant.sources[id]? = some s)
    (hp : p.sources.map Source.kept =
      (o.plant.sources.set id (s.step o.waker).2).map Source.kept) :
    ∃ before after, before.length = id ∧ o.ledger = before ++ s.kept :: after ∧
      p.sources.map Source.kept = before ++ (s.kept.step o.waker).2 :: after := by
  obtain ⟨hid, rfl⟩ := List.getElem?_eq_some_iff.1 hs
  obtain ⟨before, after, hsources, hlength, hset⟩ := List.exists_of_set hid
  refine ⟨before.map Source.kept, after.map Source.kept, ?_, ?_, ?_⟩
  · rw [List.length_map, hlength]
  · rw [ledger, ← List.map_cons, ← List.map_append, ← hsources]
  · rw [hp, hset, List.map_append, List.map_cons, Source.step_kept]

/-- A union asks the first source ahead. -/
lemma Stands.exists_step (h : o.Stands (id :: ahead) behind) :
    ∃ before s after ahead' behind', before.length = id ∧ o.ledger = before ++ s :: after ∧
      (Flow.step o).2.ledger = before ++ (s.step o.waker).2 :: after ∧
      Round.Answers id ahead behind (s.step o.waker).1 (Flow.step o).1 ahead' behind' ∧
      (Flow.step o).2.Stands ahead' behind' := by
  obtain ⟨ids, round, hstage, hqueue, hleft⟩ := h.stage
  rw [List.cons_append] at hqueue
  obtain ⟨front, back, rfl, hturn, hrest⟩ := Round.exists_turn hqueue
  have hid : id < o.plant.sources.length := h.valid id List.mem_cons_self
  obtain ⟨s, hs⟩ : ∃ s, o.plant.sources[id]? = some s := ⟨_, List.getElem?_eq_getElem hid⟩
  have hsignal := (s.shows_step o.waker).ne_again
  have hcount : (front ++ id :: back).length = ahead.length + behind.length + 1 := by
    have hlength := congrArg List.length hqueue
    rw [Round.queue, List.length_rotate] at hlength
    rw [hlength, List.length_cons, List.length_append]
  obtain ⟨p, hstep, hp⟩ := Stage.exists_stepWith_union (Plant.leave o.plant.hubs.length)
    (Plant.read o.waker o.plant.hubs.length) o.waker hturn hs
  obtain ⟨ahead', behind', hanswers, hbegins, hremaining⟩ :=
    Round.exists_answers id hleft hcount hsignal
  have hqueue' := Round.queue_react hturn hsignal
  dsimp only at hqueue' hstep hanswers hremaining
  rw [← hrest, ← hanswers.queue_eq] at hqueue'
  obtain ⟨before, after, hlength, hledger, hledger'⟩ := exists_ledger hs hp
  rw [← hstage] at hstep
  rw [step_of_stage hstep]
  refine ⟨before, s.kept, after, ahead', behind', hlength, hledger, hledger', ?_,
    ⟨⟨_, _, rfl, hqueue', ?_⟩, hbegins, fun j hj => ?_⟩⟩
  · rw [s.step_kept]
    exact hanswers
  · rw [← hremaining, ← hqueue', Round.queue, List.length_rotate]
  · have hsame := congrArg List.length hp
    rw [List.length_map, List.length_map, List.length_set] at hsame
    rw [hanswers.queue_eq] at hj
    exact hsame ▸ h.valid j (requeue_subset id _ _ hj)

/-- A union without sources has ended. -/
lemma Stands.step_nil (h : o.Stands [] behind) : behind = [] ∧ Flow.step o = (.finish, o) := by
  have hbehind := h.begins rfl
  obtain ⟨ids, round, hstage, hqueue, -⟩ := h.stage
  rw [hbehind, Round.queue, List.append_nil, List.rotate_eq_nil_iff] at hqueue
  subst hqueue
  refine ⟨hbehind, step_of_stage ?_⟩
  rw [hstage]
  rfl

/-- It does not matter who asks. -/
lemma Stands.setWaker (h : o.Stands ahead behind) (w : Waker) :
    ({ o with waker := w } : Outlet α ε Empty).Stands ahead behind :=
  ⟨h.stage, h.begins, h.valid⟩

/-! ### The beginning -/

/-- A union of sources that nobody has asked.  Each of them is given by its cells and by whether it
has been closed. -/
def ofScripts (scripts : List (List (Cell α ε) × Bool)) (w : Waker) : Outlet α ε Empty :=
  ⟨⟨scripts.map fun s => .start s.1 s.2, [], [], []⟩,
    .union ((List.range scripts.length).map .source) .start, w⟩

variable (scripts : List (List (Cell α ε) × Bool)) (w : Waker)

lemma ledger_ofScripts :
    (ofScripts scripts w).ledger = scripts.map fun s => .start s.1 s.2 := by
  rw [ledger, ofScripts, List.map_map]
  rfl

/-- In the beginning the sources stand in the queue in their order. -/
lemma stands_ofScripts : (ofScripts scripts w).Stands (List.range scripts.length) [] where
  stage := by
    have hqueue : Round.start.queue ([] ++ List.range scripts.length) =
      List.range scripts.length ++ [] := Round.queue_of_turn rfl
    exact ⟨List.range scripts.length, .start, rfl, hqueue, rfl⟩
  begins _ := rfl
  valid id hid := by
    rw [List.append_nil, List.mem_range] at hid
    rwa [ofScripts, List.length_map]

end Outlet

end SparqlStream
