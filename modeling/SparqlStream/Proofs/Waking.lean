import Mathlib.Tactic
import SparqlStream.Proofs.Replay

/-!
# No wake-up is lost

The source below a hub remembers one waker only, that of the branch that asked it last and had to
wait.  The other branches that wait depend on being told by the one that asks the source next, or
that is dropped.

A vigil is a fork whose source is filled from outside while its branches are asked and dropped, and
which remembers how each branch was asked last.  `Vigil.keepsWatch_run` says of every state that
such a run can reach: a branch that waits and has not been told has read everything, its waker is
in place, and either there is nothing to read or some live branch has been told to ask.

What carries the proof is `Vigil.Inv.alert`: as long as somebody waits, the source keeps the waker
of one who waits, or one who had read everything has been told.  Whoever pulls or is dropped tells
all others, so that afterwards nobody waits.
-/

namespace SparqlStream

/-! ## What asking a branch does -/

namespace Fork

variable {α ε : Type}

/-- What a live branch shows, what becomes of its hub and of the source, and who is told. -/
inductive Answers (hub : Hub α (Stage α Empty)) (source : Source α ε) (slot position : Nat)
    (w : Waker) : Signal α ε → Hub α (Stage α Empty) → Source α ε → List Waker → Prop
  | buffered {a : α} : hub.itemAt? position = some a →
    Answers hub source slot position w (.item a) (hub.advance slot position) source []
  | gone : hub.itemAt? position = none → hub.input = none →
    Answers hub source slot position w .finish hub source []
  | item {a : α} {rest : List (Cell α ε)} : hub.itemAt? position = none →
    hub.input = some (.source 0) → source.cells = .item a :: rest →
    Answers hub source slot position w (.item a)
      ((hub.deliver slot position a).forgetOthers slot)
      { source with asked := source.asked + 1, cells := rest } (hub.otherWakers slot)
  | pending {rest : List (Cell α ε)} : hub.itemAt? position = none →
    hub.input = some (.source 0) →
    (source.cells = .pause :: rest ∨ source.cells = [] ∧ source.closed = false ∧ rest = []) →
    Answers hub source slot position w .pending (hub.leaveWaker slot w)
      { source with asked := source.asked + 1, cells := rest, waker := some w } []
  | fail {e : ε} {rest : List (Cell α ε)} : hub.itemAt? position = none →
    hub.input = some (.source 0) → source.cells = .fail e :: rest →
    Answers hub source slot position w (.fail e) (hub.ended slot)
      { source with asked := source.asked + 1, cells := rest, isLive := false }
      (hub.otherWakers slot)
  | finish : hub.itemAt? position = none → hub.input = some (.source 0) → source.cells = [] →
    source.closed = true →
    Answers hub source slot position w .finish (hub.ended slot)
      { source with asked := source.asked + 1, isLive := false } (hub.otherWakers slot)

/-- What asking a branch leaves behind: the hub, the source, who has been told, and the log. -/
structure Asked (f : Fork α ε) (slot : Nat) (w : Waker) (hub : Hub α (Stage α Empty))
    (source : Source α ε) (told : List Waker) : Prop where
  hubs : (f.act (.ask slot w)).plant.hubs = [hub]
  sources : (f.act (.ask slot w)).plant.sources = [source]
  woken : (f.act (.ask slot w)).plant.woken = told.reverse ++ f.plant.woken
  log : (f.act (.ask slot w)).log = f.log ++ [(slot, f.shown slot w)]

variable {f : Fork α ε} {hub : Hub α (Stage α Empty)} {source : Source α ε} {slot position : Nat}
  {w : Waker}

/-- The end of the source, as its hub lets go of it. -/
lemma endHub_source {plant : Plant α ε Empty} (hhubs : plant.hubs = [hub])
    (hsources : plant.sources = [source]) (source' : Source α ε) (slot : Nat) :
    let after := Plant.read.endHub 0 (plant.setSource 0 source') 0 hub (.source 0) slot
    after.hubs = [hub.ended slot] ∧ after.sources = [{ source' with isLive := false }] ∧
      after.woken = (hub.otherWakers slot).reverse ++ plant.woken := by
  have hzero : ((plant.setSource 0 source').setHub 0 (hub.ended slot)).sources[0]? =
      some source' := by
    rw [Plant.setHub_sources, Plant.setSource_sources, hsources]
    rfl
  have hrelease : Stage.releaseWith (Plant.leave 0)
      ((plant.setSource 0 source').setHub 0 (hub.ended slot)) (.source 0) = _ :=
    Stage.releaseWith_source hzero
  refine ⟨?_, ?_, ?_⟩
  · rw [Plant.endHub_eq, Plant.wake_hubs, hrelease, Plant.setSource_hubs, Plant.setHub_hubs,
      Plant.setSource_hubs, hhubs]
    rfl
  · rw [Plant.endHub_eq, Plant.wake_sources, hrelease, Plant.setSource_sources,
      Plant.setHub_sources, Plant.setSource_sources, hsources]
    rfl
  · rw [Plant.endHub_eq, hrelease]
    rfl

/-- Asking a live branch of a hub over one source answers in one of six ways. -/
lemma answers_ask (hhubs : f.plant.hubs = [hub]) (hsources : f.plant.sources = [source])
    (hp : hub.position? slot = some position)
    (hin : hub.input = none ∨ hub.input = some (.source 0)) :
    ∃ hub' source' told, Answers hub source slot position w (f.shown slot w) hub' source' told ∧
      f.Asked slot w hub' source' told := by
  suffices h : ∃ hub' source' told,
      Answers hub source slot position w (f.shown slot w) hub' source' told ∧
      (f.act (.ask slot w)).plant.hubs = [hub'] ∧
      (f.act (.ask slot w)).plant.sources = [source'] ∧
      (f.act (.ask slot w)).plant.woken = told.reverse ++ f.plant.woken ∧
      (f.act (.ask slot w)).log = f.log ++ [(slot, f.shown slot w)] by
    obtain ⟨hub', source', told, hans, hhubs', hsources', hwoken, hlog⟩ := h
    exact ⟨hub', source', told, hans, hhubs', hsources', hwoken, hlog⟩
  have hhub : f.plant.hubs[0]? = some hub := by rw [hhubs]; rfl
  have hzero : f.plant.sources[0]? = some source := by rw [hsources]; rfl
  rw [act_ask hhubs hp, shown_eq_read hhubs]
  cases ha : hub.itemAt? position with
  | some a =>
    rw [Plant.read_buffered hhub hp ha]
    refine ⟨_, _, _, .buffered ha, ?_, hsources, rfl, rfl⟩
    rw [Plant.setHub_hubs, hhubs]
    rfl
  | none =>
    rcases hin with hin | hin
    · rw [Plant.read_gone hhub hp ha hin]
      exact ⟨_, _, _, .gone ha hin, hhubs, hsources, rfl, rfl⟩
    have hsame : { hub with input := some (.source 0) } = hub := by rw [← hin]
    have hstep : Stage.stepWith (Plant.read w 0) (Plant.leave 0) w f.plant (.source 0) =
        ((source.step w).1, .source 0, f.plant.setSource 0 (source.step w).2) :=
      Stage.stepWith_source hzero
    cases hc : source.cells with
    | nil =>
      cases hclosed : source.closed with
      | true =>
        rw [Source.step_closed hc hclosed] at hstep
        rw [Plant.read_finish hhub hp ha hin hstep]
        obtain ⟨hhubs', hsources', hwoken⟩ := endHub_source hhubs hsources
          { source with asked := source.asked + 1 } slot
        exact ⟨_, _, _, .finish ha hin hc hclosed, hhubs', hsources', hwoken, rfl⟩
      | false =>
        rw [Source.step_open hc hclosed] at hstep
        rw [Plant.read_pending hhub hp ha hin hstep, hsame]
        refine ⟨_, _, _, .pending ha hin (.inr ⟨hc, hclosed, rfl⟩), ?_, ?_, rfl, rfl⟩
        · rw [Plant.setHub_hubs, Plant.setSource_hubs, hhubs]
          rfl
        · rw [Plant.setHub_sources, Plant.setSource_sources, hsources, hc]
          rfl
    | cons c rest =>
      cases c with
      | item a =>
        rw [Source.step_item hc] at hstep
        rw [Plant.read_item hhub hp ha hin hstep, hsame]
        refine ⟨_, _, _, .item ha hin hc, ?_, ?_, ?_, rfl⟩
        · rw [Plant.wake_hubs, Plant.setHub_hubs, Plant.setSource_hubs, hhubs]
          rfl
        · rw [Plant.wake_sources, Plant.setHub_sources, Plant.setSource_sources, hsources]
          rfl
        · rw [Hub.otherWakers, Hub.otherWakers, Hub.deliver_wakers]
          rfl
      | pause =>
        rw [Source.step_pause hc] at hstep
        rw [Plant.read_pending hhub hp ha hin hstep, hsame]
        refine ⟨_, _, _, .pending ha hin (.inl hc), ?_, ?_, rfl, rfl⟩
        · rw [Plant.setHub_hubs, Plant.setSource_hubs, hhubs]
          rfl
        · rw [Plant.setHub_sources, Plant.setSource_sources, hsources]
          rfl
      | fail e =>
        rw [Source.step_fail hc] at hstep
        rw [Plant.read_fail hhub hp ha hin hstep]
        obtain ⟨hhubs', hsources', hwoken⟩ := endHub_source hhubs hsources
          { source with asked := source.asked + 1, cells := rest } slot
        exact ⟨_, _, _, .fail ha hin hc, hhubs', hsources', hwoken, rfl⟩

/-- Dropping a live branch tells the others.  The last branch takes the source with it. -/
lemma plant_drop (hhubs : f.plant.hubs = [hub]) (hsources : f.plant.sources = [source])
    (hp : hub.position? slot = some position)
    (hin : hub.input = none ∨ hub.input = some (.source 0)) :
    (f.act (.drop slot)).plant.hubs = [(hub.drop slot).forgetOthers slot] ∧
      ((f.act (.drop slot)).plant.sources = [source] ∧ (hub.drop slot).input = hub.input ∨
        (f.act (.drop slot)).plant.sources = [{ source with isLive := false }] ∧
          (hub.drop slot).input = none) ∧
      (f.act (.drop slot)).plant.woken = (hub.otherWakers slot).reverse ++ f.plant.woken := by
  have hhub : f.plant.hubs[0]? = some hub := by rw [hhubs]; rfl
  have hzero : f.plant.sources[0]? = some source := by rw [hsources]; rfl
  have hothers : (hub.drop slot).otherWakers slot = hub.otherWakers slot := by
    rw [Hub.otherWakers, Hub.drop_wakers, List.set_set, Hub.otherWakers]
  rw [act_drop hhubs hp]
  by_cases hkeeps : (hub.drop slot).input = hub.input
  · rw [Plant.leave_of_keeps hhub hkeeps, hothers]
    refine ⟨?_, .inl ⟨hsources, hkeeps⟩, rfl⟩
    rw [Plant.wake_hubs, Plant.setHub_hubs, hhubs]
    rfl
  · have hnone := ((Hub.drop_input_cases hub slot).resolve_left hkeeps).1
    rcases hin with hin | hin
    · exact absurd (hnone.trans hin.symm) hkeeps
    have hrelease : Stage.releaseWith (Plant.leave 0)
        (f.plant.setHub 0 ((hub.drop slot).forgetOthers slot)) (.source 0) = _ :=
      Stage.releaseWith_source hzero
    rw [Plant.leave_of_last hhub hin hnone, hrelease, hothers]
    refine ⟨?_, .inr ⟨?_, hnone⟩, rfl⟩
    · rw [Plant.wake_hubs, Plant.setSource_hubs, Plant.setHub_hubs, hhubs]
      rfl
    · rw [Plant.wake_sources, Plant.setSource_sources, Plant.setHub_sources, hsources]
      rfl

end Fork

/-! ## Vigils -/

/-- What is done to a hub over a source: branches are asked and dropped, and the source is given
items and errors until it is closed. -/
inductive VigilEvent (α ε : Type) where
  | ask (slot : Nat) (w : Waker)
  | drop (slot : Nat)
  | push (a : α)
  | pushError (e : ε)
  | close

/-- How a branch was asked last: what it showed, on whose behalf, and how often that waker had been
told by then. -/
structure LastPoll (α ε : Type) where
  shown : Signal α ε
  waker : Waker
  told : Nat

/-- A fork whose source is filled from outside.  `fed` are the cells that the source has been given,
and `polls` tells how the branches were asked, the last time first.  A source never works on, so
that a branch which is asked once has shown something or has to wait. -/
structure Vigil (α ε : Type) where
  fork : Fork α ε
  fed : List (Cell α ε)
  polls : List (Nat × LastPoll α ε)

namespace Vigil

variable {α ε : Type}

/-- Branches of a hub over a source that holds nothing and is open. -/
def start (count : Nat) : Vigil α ε := ⟨.start [] false count, [], []⟩

/-- How a branch was asked last. -/
def last (v : Vigil α ε) (slot : Nat) : Option (LastPoll α ε) := v.polls.lookup slot

/-- Whether the waker of a poll has been told since. -/
def IsTold (v : Vigil α ε) (r : LastPoll α ε) : Prop :=
  r.told < v.fork.plant.woken.count r.waker

/-- A live branch had to wait when it was asked last. -/
structure HadToWait (v : Vigil α ε) (slot : Nat) (r : LastPoll α ε) : Prop where
  isLive : v.fork.isLive slot = true
  last : v.last slot = some r
  shown : r.shown = .pending

/-- Changes the source of a vigil from outside. -/
def fill (v : Vigil α ε) (change : Source α ε → Source α ε) : Vigil α ε :=
  { v with fork := { v.fork with plant := v.fork.plant.fill 0 change } }

/-- Gives the source a cell. -/
def feed (v : Vigil α ε) (c : Cell α ε) : Vigil α ε :=
  { v.fill (·.push c) with fed := v.fed ++ [c] }

/-- What an event does.  A branch that has been dropped is not there to be asked. -/
def act (v : Vigil α ε) : VigilEvent α ε → Vigil α ε
  | .ask slot w =>
    if v.fork.isLive slot then
      let fork := v.fork.act (.ask slot w)
      { v with
        fork
        polls := (slot, ⟨v.fork.shown slot w, w, fork.plant.woken.count w⟩) :: v.polls }
    else v
  | .drop slot => { v with fork := v.fork.act (.drop slot) }
  | .push a => v.feed (.item a)
  | .pushError e => v.feed (.fail e)
  | .close => v.fill (·.close)

/-- What some events do, one after another. -/
def run (v : Vigil α ε) (events : List (VigilEvent α ε)) : Vigil α ε := events.foldl act v

/-- What holds of a branch that waits and has not been told since it was asked last. -/
structure KeepsWatch (v : Vigil α ε) (hub : Hub α (Stage α Empty)) (source : Source α ε)
    (slot : Nat) (r : LastPoll α ε) : Prop where
  /-- The branch has received every item that has been taken from the source. -/
  received : ∀ taken, v.fed = taken ++ source.cells → v.fork.received slot = Cell.items taken
  /-- The hub still reads the source. -/
  input : hub.input = some (.source 0)
  /-- The source has not been dropped. -/
  isLive : source.isLive = true
  /-- No branch has met an error of the source. -/
  not_failed : v.fork.failures = []
  /-- No branch has met the end of the source. -/
  not_ended : ∀ i, (i, .finish) ∉ v.fork.log
  /-- The hub keeps the waker of the branch. -/
  stored : hub.wakers[slot]? = some (some r.waker)
  /-- There is nothing to read, or some live branch has been told since it was asked last. -/
  alert : source.cells = [] ∧ source.closed = false ∨
    ∃ i r', v.fork.isLive i = true ∧ v.last i = some r' ∧ v.IsTold r'

/-! ## The invariant -/

/-- What the branches of a vigil have read and how they were asked, after they have pulled some
items. -/
structure Core (v : Vigil α ε) (hub : Hub α (Stage α Empty)) (source : Source α ε)
    (pulled : List α) : Prop where
  hubs : v.fork.plant.hubs = [hub]
  sources : v.fork.plant.sources = [source]
  patient : .pause ∉ source.cells
  taken : ∃ taken, v.fed = taken ++ source.cells ∧ Cell.items taken = pulled
  retains : hub.Retains pulled
  reads : ∀ slot p, hub.position? slot = some p → v.fork.received slot = pulled.take p
  length_wakers : hub.wakers.length = hub.positions.length
  input : hub.input = none ∨ hub.input = some (.source 0)
  reading : hub.input ≠ none → source.isLive = true ∧ v.fork.failures = [] ∧
    ∀ i, (i, .finish) ∉ v.fork.log
  told_le : ∀ slot r, v.last slot = some r → r.told ≤ v.fork.plant.woken.count r.waker

/-- A live branch had to wait when it was asked last, and has not been told since. -/
def Waits (v : Vigil α ε) (slot : Nat) (r : LastPoll α ε) : Prop :=
  v.HadToWait slot r ∧ ¬ v.IsTold r

/-- Who waits has read everything that has been pulled, and its waker is in place. -/
structure InPlace (hub : Hub α (Stage α Empty)) (pulled : List α) (slot : Nat)
    (r : LastPoll α ε) : Prop where
  position : hub.position? slot = some pulled.length
  stored : hub.wakers[slot]? = some (some r.waker)
  input : hub.input ≠ none

/-- The source has nothing to give and knows one who waits, or somebody who had read everything has
been told. -/
def Alert (v : Vigil α ε) (hub : Hub α (Stage α Empty)) (source : Source α ε) (pulled : List α) :
    Prop :=
  (source.cells = [] ∧ source.closed = false ∧
    ∃ i r, v.Waits i r ∧ source.waker = some r.waker) ∨
  ∃ i r, v.HadToWait i r ∧ v.IsTold r ∧ hub.position? i = some pulled.length

/-- The invariant of a vigil. -/
structure Inv (v : Vigil α ε) (hub : Hub α (Stage α Empty)) (source : Source α ε)
    (pulled : List α) : Prop extends Core v hub source pulled where
  inPlace : ∀ slot r, v.Waits slot r → InPlace hub pulled slot r
  alert : ∀ slot r, v.Waits slot r → v.Alert hub source pulled

/-! ## Being told -/

section Told

variable {v v' : Vigil α ε} {r : LastPoll α ε} {told : List Waker} {slot : Nat}

lemma IsTold.mono (hwoken : v'.fork.plant.woken = told ++ v.fork.plant.woken) (h : v.IsTold r) :
    v'.IsTold r := by
  have hcount : v'.fork.plant.woken.count r.waker =
      told.count r.waker + v.fork.plant.woken.count r.waker := by rw [hwoken, List.count_append]
  unfold IsTold at h ⊢
  omega

/-- Whoever is among those that are woken has been told. -/
lemma isTold_of_mem (hwoken : v'.fork.plant.woken = told ++ v.fork.plant.woken)
    (hle : r.told ≤ v.fork.plant.woken.count r.waker) (hmem : r.waker ∈ told) : v'.IsTold r := by
  have hpos : 0 < told.count r.waker := List.count_pos_iff.2 hmem
  have hcount : v'.fork.plant.woken.count r.waker =
      told.count r.waker + v.fork.plant.woken.count r.waker := by rw [hwoken, List.count_append]
  unfold IsTold
  omega

end Told

/-! ## A branch is asked -/

section Ask

variable {v : Vigil α ε} {hub hub' : Hub α (Stage α Empty)} {source source' : Source α ε}
  {pulled pulled' : List α} {slot position : Nat} {w : Waker} {told : List Waker}

lemma isLive_eq (h : Core v hub source pulled) (i : Nat) :
    v.fork.isLive i = (hub.position? i).isSome := Fork.isLive_eq h.hubs

lemma act_ask (h : Core v hub source pulled) (hp : hub.position? slot = some position) :
    v.act (.ask slot w) =
      { fork := v.fork.act (.ask slot w)
        fed := v.fed
        polls := (slot, ⟨v.fork.shown slot w, w,
          (v.fork.act (.ask slot w)).plant.woken.count w⟩) :: v.polls } := by
  have hlive : v.fork.isLive slot = true := by rw [isLive_eq h, hp]; rfl
  rw [act, if_pos hlive]

lemma last_cons (fork : Fork α ε) (fed : List (Cell α ε)) (polls : List (Nat × LastPoll α ε))
    (r : LastPoll α ε) (i : Nat) :
    last ⟨fork, fed, (slot, r) :: polls⟩ i =
      if i = slot then some r else last ⟨fork, fed, polls⟩ i := by
  unfold last
  by_cases hi : i = slot
  · simp [hi]
  · have hne : (i == slot) = false := beq_false_of_ne hi
    simp [hi, hne, List.lookup_cons]

/-- A branch that is shown an item or has to wait meets neither an error nor the end. -/
lemma Core.reading_ask (h : Core v hub source pulled) (hin : hub.input ≠ none)
    (plant : Plant α ε Empty) {σ : Signal α ε} (herror : σ.error? = none) (hfinish : σ ≠ .finish) :
    source.isLive = true ∧ Fork.failures ⟨plant, v.fork.log ++ [(slot, σ)]⟩ = [] ∧
      ∀ i, (i, .finish) ∉ v.fork.log ++ [(slot, σ)] := by
  obtain ⟨hsrc, hfail, hfin⟩ := h.reading hin
  refine ⟨hsrc, ?_, fun i hi => hfin i ((Fork.finish_mem_append hfinish).1 hi)⟩
  rw [Fork.failures_quiet _ _ _ herror, hfail]

/-- The polls of a vigil do not run ahead of those who have been told. -/
lemma told_le_ask (h : Core v hub source pulled) (hp : hub.position? slot = some position)
    (hasked : v.fork.Asked slot w hub' source' told) {i : Nat} {r : LastPoll α ε}
    (hr : (v.act (.ask slot w)).last i = some r) :
    r.told ≤ (v.act (.ask slot w)).fork.plant.woken.count r.waker := by
  rw [act_ask h hp, last_cons] at hr
  rw [act_ask h hp]
  by_cases hi : i = slot
  · rw [if_pos hi] at hr
    obtain rfl := Option.some.inj hr
    exact le_rfl
  · rw [if_neg hi] at hr
    dsimp only
    rw [hasked.woken, List.count_append]
    exact (h.told_le i r hr).trans (Nat.le_add_left _ _)

lemma fork_ask (h : Core v hub source pulled) (hp : hub.position? slot = some position)
    (hasked : v.fork.Asked slot w hub' source' told) {shown : Signal α ε}
    (hshown : v.fork.shown slot w = shown) : (v.act (.ask slot w)).fork =
      ⟨(v.fork.act (.ask slot w)).plant, v.fork.log ++ [(slot, shown)]⟩ := by
  rw [act_ask h hp, ← hshown, ← hasked.log]

lemma fed_ask (h : Core v hub source pulled) (hp : hub.position? slot = some position) :
    (v.act (.ask slot w)).fed = v.fed := by
  rw [act_ask h hp]

/-- A branch reads an item of the buffer. -/
lemma Core.ask_buffered (h : Core v hub source pulled) (hp : hub.position? slot = some position)
    {a : α} (ha : hub.itemAt? position = some a)
    (hasked : v.fork.Asked slot w (hub.advance slot position) source told)
    (hshown : v.fork.shown slot w = .item a) :
    Core (v.act (.ask slot w)) (hub.advance slot position) source pulled := by
  have hfork := fork_ask h hp hasked hshown
  have hin := Hub.advance_input hp
  refine {
    hubs := by rw [hfork]; exact hasked.hubs
    sources := by rw [hfork]; exact hasked.sources
    patient := h.patient
    taken := by rw [fed_ask h hp]; exact h.taken
    retains := h.retains.advance hp ha
    reads := by
      rw [hfork]
      exact Fork.reads_item h.retains h.reads hp (Hub.advance_position? hp) (List.prefix_refl _)
        ((h.retains.itemAt? hp).symm.trans ha)
    length_wakers := ?_
    input := by rw [hin]; exact h.input
    reading := ?_
    told_le := fun _ _ => told_le_ask h hp hasked }
  · rw [Hub.advance_wakers, Hub.advance, Hub.trim_positions, List.length_set]
    exact h.length_wakers
  · intro hne
    rw [hin] at hne
    rw [hfork]
    exact h.reading_ask hne _ rfl (by simp)

/-- A branch meets the end of a hub without a source. -/
lemma Core.ask_gone (h : Core v hub source pulled) (hp : hub.position? slot = some position)
    (hin : hub.input = none) (hasked : v.fork.Asked slot w hub source told)
    (hshown : v.fork.shown slot w = .finish) : Core (v.act (.ask slot w)) hub source pulled := by
  have hfork := fork_ask h hp hasked hshown
  exact {
    hubs := by rw [hfork]; exact hasked.hubs
    sources := by rw [hfork]; exact hasked.sources
    patient := h.patient
    taken := by rw [fed_ask h hp]; exact h.taken
    retains := h.retains
    reads := fun i q hi => by rw [hfork, Fork.received_quiet rfl, h.reads i q hi]
    length_wakers := h.length_wakers
    input := h.input
    reading := fun hne => absurd hin hne
    told_le := fun _ _ => told_le_ask h hp hasked }

/-- A branch pulls an item from the source. -/
lemma Core.ask_item (h : Core v hub source pulled) (hp : hub.position? slot = some position)
    {a : α} {rest : List (Cell α ε)} (ha : hub.itemAt? position = none)
    (hin : hub.input = some (.source 0)) (hc : source.cells = .item a :: rest)
    (hasked : v.fork.Asked slot w ((hub.deliver slot position a).forgetOthers slot)
      { source with asked := source.asked + 1, cells := rest } told)
    (hshown : v.fork.shown slot w = .item a) :
    Core (v.act (.ask slot w)) ((hub.deliver slot position a).forgetOthers slot)
      { source with asked := source.asked + 1, cells := rest } (pulled ++ [a]) := by
  have hfork := fork_ask h hp hasked hshown
  have hend := Hub.itemAt?_eq_none h.retains.inBounds hp ha
  have hpulled : (pulled ++ [a])[position]? = some a := by
    rw [h.retains.position_eq hp hend, List.getElem?_append_right (Nat.le_refl _), Nat.sub_self]
    rfl
  have hin' : ((hub.deliver slot position a).forgetOthers slot).input = some (.source 0) := by
    rw [Hub.forgetOthers_input, Hub.deliver_input hp, hin]
  obtain ⟨taken, htaken, hitems⟩ := h.taken
  refine {
    hubs := by rw [hfork]; exact hasked.hubs
    sources := by rw [hfork]; exact hasked.sources
    patient := fun hmem => h.patient (by rw [hc]; exact List.mem_cons_of_mem _ hmem)
    taken := ⟨taken ++ [.item a], ?_, ?_⟩
    retains := (h.retains.deliver hp hend).congr
    reads := by
      rw [hfork]
      exact Fork.reads_item h.retains h.reads hp (Hub.deliver_position? hp)
        (List.prefix_append _ _) hpulled
    length_wakers := ?_
    input := .inr hin'
    reading := ?_
    told_le := fun _ _ => told_le_ask h hp hasked }
  · rw [fed_ask h hp, htaken, hc, List.append_assoc]
    rfl
  · rw [Cell.items_append, hitems]
    rfl
  · rw [Hub.forgetOthers, List.length_mapIdx, Hub.deliver_wakers, Hub.deliver, Hub.advance,
      Hub.trim_positions, List.length_set]
    exact h.length_wakers
  · intro _
    rw [hfork]
    exact h.reading_ask (by rw [hin]; simp) _ rfl (by simp)

/-- A branch has to wait for a source that holds nothing. -/
lemma Core.ask_pending (h : Core v hub source pulled) (hp : hub.position? slot = some position)
    (hin : hub.input = some (.source 0)) (hnil : source.cells = [])
    (hasked : v.fork.Asked slot w (hub.leaveWaker slot w)
      { source with asked := source.asked + 1, cells := [], waker := some w } told)
    (hshown : v.fork.shown slot w = .pending) :
    Core (v.act (.ask slot w)) (hub.leaveWaker slot w)
      { source with asked := source.asked + 1, cells := [], waker := some w } pulled := by
  have hfork := fork_ask h hp hasked hshown
  obtain ⟨taken, htaken, hitems⟩ := h.taken
  refine {
    hubs := by rw [hfork]; exact hasked.hubs
    sources := by rw [hfork]; exact hasked.sources
    patient := List.not_mem_nil
    taken := ⟨taken, by rw [fed_ask h hp, htaken, hnil], hitems⟩
    retains := h.retains.congr
    reads := fun i q hi => by rw [hfork, Fork.received_quiet rfl, h.reads i q hi]
    length_wakers := ?_
    input := .inr hin
    reading := ?_
    told_le := fun _ _ => told_le_ask h hp hasked }
  · rw [Hub.leaveWaker, List.length_set]
    exact h.length_wakers
  · intro _
    rw [hfork]
    exact h.reading_ask (by rw [hin]; simp) _ rfl (by simp)

/-- A branch meets an error or the end of the source, of which the hub lets go. -/
lemma Core.ask_ended (h : Core v hub source pulled) (hp : hub.position? slot = some position)
    (hasked : v.fork.Asked slot w (hub.ended slot) source' told)
    (hshown : (v.fork.shown slot w).item? = none) (errors : List (Cell α ε))
    (hc : source.cells = errors ++ source'.cells) (herrors : Cell.items errors = []) :
    Core (v.act (.ask slot w)) (hub.ended slot) source' pulled := by
  have hfork := fork_ask h hp hasked rfl
  obtain ⟨taken, htaken, hitems⟩ := h.taken
  refine {
    hubs := by rw [hfork]; exact hasked.hubs
    sources := by rw [hfork]; exact hasked.sources
    patient := fun hmem => h.patient (by rw [hc]; exact List.mem_append_right _ hmem)
    taken := ⟨taken ++ errors, ?_, ?_⟩
    retains := h.retains.congr
    reads := fun i q hi => by rw [hfork, Fork.received_quiet hshown]; exact h.reads i q hi
    length_wakers := ?_
    input := .inl rfl
    reading := fun hne => absurd rfl hne
    told_le := fun _ _ => told_le_ask h hp hasked }
  · rw [fed_ask h hp, htaken, hc, List.append_assoc]
  · rw [Cell.items_append, hitems, herrors, List.append_nil]
  · rw [Hub.ended, Hub.forgetOthers, List.length_mapIdx]
    exact h.length_wakers

/-- A branch that has just shown something is none of those that have to wait. -/
lemma HadToWait.ne_of_ask (h : Core v hub source pulled) (hp : hub.position? slot = some position)
    (hshown : v.fork.shown slot w ≠ .pending) {i : Nat} {r : LastPoll α ε}
    (hw : (v.act (.ask slot w)).HadToWait i r) : i ≠ slot := by
  rintro rfl
  have hlast := hw.last
  rw [act_ask h hp, last_cons, if_pos rfl] at hlast
  obtain rfl := Option.some.inj hlast
  exact hshown hw.shown

/-- A branch that was not asked waits only if it waited before. -/
lemma Waits.of_ask (h : Core v hub source pulled) (hp : hub.position? slot = some position)
    (hasked : v.fork.Asked slot w hub' source' told)
    (hpos : ∀ i, i ≠ slot → hub'.position? i = hub.position? i) {i : Nat} {r : LastPoll α ε}
    (hi : i ≠ slot) (hw : (v.act (.ask slot w)).Waits i r) :
    v.Waits i r := by
  obtain ⟨⟨hlive, hlast, hshown⟩, htold⟩ := hw
  rw [act_ask h hp] at hlive hlast htold
  rw [last_cons, if_neg hi] at hlast
  have hlive' : v.fork.isLive i = true := by
    rw [isLive_eq h, ← hpos i hi, ← Fork.isLive_eq hasked.hubs]
    exact hlive
  exact ⟨⟨hlive', hlast, hshown⟩, fun hbefore => htold (hbefore.mono hasked.woken)⟩

/-- A branch that was not asked had to wait if it had to before. -/
lemma HadToWait.ask (h : Core v hub source pulled) (hp : hub.position? slot = some position)
    (hasked : v.fork.Asked slot w hub' source' told)
    (hpos : ∀ i, i ≠ slot → hub'.position? i = hub.position? i) {i : Nat} {r : LastPoll α ε}
    (hi : i ≠ slot) (hw : v.HadToWait i r) :
    (v.act (.ask slot w)).HadToWait i r := by
  rw [act_ask h hp]
  refine ⟨?_, ?_, hw.shown⟩
  · have hlive := hw.isLive
    rw [isLive_eq h] at hlive
    dsimp only
    rw [Fork.isLive_eq hasked.hubs, hpos i hi, hlive]
  · rw [last_cons, if_neg hi]
    exact hw.last

/-- When a branch tells the others, none of them waits any more. -/
lemma Inv.isTold_other (h : Inv v hub source pulled) {v' : Vigil α ε} {i : Nat} {r : LastPoll α ε}
    (hw : v.Waits i r) (hi : i ≠ slot)
    (hwoken : v'.fork.plant.woken = (hub.otherWakers slot).reverse ++ v.fork.plant.woken) :
    v'.IsTold r := by
  refine isTold_of_mem hwoken (h.told_le i r hw.1.last) (List.mem_reverse.2 ?_)
  exact Hub.mem_otherWakers (h.inPlace i r hw).stored hi

/-- Where nobody waits there is nothing to watch. -/
lemma Inv.of_nobody (h : Core v hub source pulled) (hnobody : ∀ i r, ¬ v.Waits i r) :
    Inv v hub source pulled :=
  { h with
    inPlace := fun i r hw => absurd hw (hnobody i r)
    alert := fun i r hw => absurd hw (hnobody i r) }

/-- Whoever pulls, or meets the end or an error of the source, leaves nobody waiting. -/
lemma Inv.ask_told (h : Inv v hub source pulled) (hp : hub.position? slot = some position)
    (hcore : Core (v.act (.ask slot w)) hub' source' pulled')
    (hasked : v.fork.Asked slot w hub' source' (hub.otherWakers slot))
    (hpos : ∀ i, i ≠ slot → hub'.position? i = hub.position? i)
    (hshown : v.fork.shown slot w ≠ .pending) :
    Inv (v.act (.ask slot w)) hub' source' pulled' := by
  refine .of_nobody hcore fun i r hw => ?_
  have hi := hw.1.ne_of_ask h.toCore hp hshown
  have hbefore := hw.of_ask h.toCore hp hasked hpos hi
  refine hw.2 (h.isTold_other hbefore hi ?_)
  rw [act_ask h.toCore hp]
  exact hasked.woken

/-- A branch that finds an item in the buffer was not one of those who had read everything. -/
lemma Inv.ask_buffered (h : Inv v hub source pulled) (hp : hub.position? slot = some position)
    {a : α} (ha : hub.itemAt? position = some a)
    (hasked : v.fork.Asked slot w (hub.advance slot position) source [])
    (hshown : v.fork.shown slot w = .item a) :
    Inv (v.act (.ask slot w)) (hub.advance slot position) source pulled := by
  have hcore := h.toCore.ask_buffered hp ha hasked hshown
  have hpos : ∀ i, i ≠ slot → (hub.advance slot position).position? i = hub.position? i := by
    intro i hi
    rw [Hub.advance_position? hp, if_neg hi]
  have hfar : ∀ i, hub.position? i = some pulled.length → i ≠ slot := by
    rintro i hi rfl
    rw [h.retains.itemAt? hp, Option.some.inj (hp.symm.trans hi)] at ha
    simp at ha
  have hwoken' : (v.act (.ask slot w)).fork.plant.woken = [] ++ v.fork.plant.woken := by
    rw [act_ask h.toCore hp]
    exact hasked.woken
  have hother : ∀ i r, (v.act (.ask slot w)).Waits i r → i ≠ slot ∧ v.Waits i r := by
    intro i r hw
    have hi := hw.1.ne_of_ask h.toCore hp (by rw [hshown]; simp)
    exact ⟨hi, hw.of_ask h.toCore hp hasked hpos hi⟩
  have hsame : ∀ r, (v.act (.ask slot w)).IsTold r ↔ v.IsTold r := by
    intro r
    rw [IsTold, hwoken', List.nil_append, IsTold]
  refine { hcore with inPlace := ?_, alert := ?_ }
  · intro i r hw
    obtain ⟨hi, hw⟩ := hother i r hw
    obtain ⟨hposition, hstored, hin⟩ := h.inPlace i r hw
    refine ⟨by rw [hpos i hi, hposition], by rw [Hub.advance_wakers, hstored], ?_⟩
    rwa [Hub.advance_input hp]
  · intro i r hw
    obtain ⟨-, hw⟩ := hother i r hw
    rcases h.alert i r hw with ⟨hnil, hopen, j, r', hj, hwaker⟩ | ⟨j, r', hj, htold, hposition⟩
    · have hne := hfar j (h.inPlace j r' hj).position
      refine .inl ⟨hnil, hopen, j, r', ⟨hj.1.ask h.toCore hp hasked hpos hne, ?_⟩, hwaker⟩
      rw [hsame]
      exact hj.2
    · have hne := hfar j hposition
      refine .inr ⟨j, r', hj.ask h.toCore hp hasked hpos hne, ?_, by rw [hpos j hne, hposition]⟩
      rwa [hsame]

/-- A branch that has to wait is the one whose waker the source remembers. -/
lemma Inv.ask_pending (h : Inv v hub source pulled) (hp : hub.position? slot = some position)
    (ha : hub.itemAt? position = none) (hin : hub.input = some (.source 0))
    (hnil : source.cells = []) (hopen : source.closed = false)
    (hasked : v.fork.Asked slot w (hub.leaveWaker slot w)
      { source with asked := source.asked + 1, cells := [], waker := some w } [])
    (hshown : v.fork.shown slot w = .pending) :
    Inv (v.act (.ask slot w)) (hub.leaveWaker slot w)
      { source with asked := source.asked + 1, cells := [], waker := some w } pulled := by
  have hcore := h.toCore.ask_pending hp hin hnil hasked hshown
  have hwoken : (v.fork.act (.ask slot w)).plant.woken = v.fork.plant.woken := hasked.woken
  have hpos : ∀ i, i ≠ slot → (hub.leaveWaker slot w).position? i = hub.position? i :=
    fun _ _ => rfl
  have hend := h.retains.position_eq hp (Hub.itemAt?_eq_none h.retains.inBounds hp ha)
  have hlt : slot < hub.wakers.length := by
    rw [h.length_wakers]
    exact (List.getElem?_eq_some_iff.1 (Hub.position?_eq_some.1 hp)).1
  have hlast : (v.act (.ask slot w)).last slot =
      some ⟨.pending, w, v.fork.plant.woken.count w⟩ := by
    rw [act_ask h.toCore hp, last_cons, if_pos rfl, hshown, hwoken]
  have hself : (v.act (.ask slot w)).Waits slot ⟨.pending, w, v.fork.plant.woken.count w⟩ := by
    refine ⟨⟨?_, hlast, rfl⟩, ?_⟩
    · rw [isLive_eq hcore, Hub.leaveWaker_position?, hp]
      rfl
    · rw [IsTold, act_ask h.toCore hp]
      dsimp only
      rw [hwoken]
      exact Nat.lt_irrefl _
  refine { hcore with inPlace := ?_, alert := ?_ }
  · intro i r hw
    by_cases hi : i = slot
    · subst hi
      obtain rfl := Option.some.inj (hlast.symm.trans hw.1.last)
      refine ⟨?_, Hub.leaveWaker_self hlt, ?_⟩
      · rw [Hub.leaveWaker_position?, hp, hend]
      · rw [Hub.leaveWaker, hin]
        simp
    · obtain ⟨hposition, hstored, hne⟩ :=
        h.inPlace i r (hw.of_ask h.toCore hp hasked hpos hi)
      exact ⟨hposition, by rw [Hub.leaveWaker_other hi, hstored], hne⟩
  · intro _ _ _
    exact .inl ⟨rfl, hopen, slot, _, hself, rfl⟩

/-- Asking a branch keeps the invariant. -/
lemma Inv.ask (h : Inv v hub source pulled) (hp : hub.position? slot = some position) :
    ∃ hub' source' pulled', Inv (v.act (.ask slot w)) hub' source' pulled' := by
  obtain ⟨hub', source', told, hans, hasked⟩ :=
    Fork.answers_ask (w := w) h.hubs h.sources hp h.input
  generalize hshown : v.fork.shown slot w = shown at hans
  cases hans with
  | buffered ha => exact ⟨_, _, _, h.ask_buffered hp ha hasked hshown⟩
  | gone ha hin =>
    -- A hub without a source has nobody who waits.
    refine ⟨_, _, _, .of_nobody (h.toCore.ask_gone hp hin hasked hshown) fun i r hw => ?_⟩
    have hi := hw.1.ne_of_ask h.toCore hp (by rw [hshown]; simp)
    exact (h.inPlace i r (hw.of_ask h.toCore hp hasked (fun _ _ => rfl) hi)).input hin
  | item ha hin hc =>
    have hcore := h.toCore.ask_item hp ha hin hc hasked hshown
    refine ⟨_, _, _, h.ask_told hp hcore hasked (fun i hi => ?_) (by rw [hshown]; simp)⟩
    rw [Hub.forgetOthers_position?, Hub.deliver_position? hp, if_neg hi]
  | pending ha hin hc =>
    -- No cell is a pause, so that the source holds nothing.
    rcases hc with hc | ⟨hnil, hopen, rfl⟩
    · exact absurd (by rw [hc]; exact List.mem_cons_self) h.patient
    · exact ⟨_, _, _, h.ask_pending hp ha hin hnil hopen hasked hshown⟩
  | @fail e rest ha hin hc =>
    have hcore := h.toCore.ask_ended hp hasked (by rw [hshown]; rfl) [.fail e] hc rfl
    exact ⟨_, _, _, h.ask_told hp hcore hasked (fun _ _ => rfl) (by rw [hshown]; simp)⟩
  | finish ha hin hc hclosed =>
    have hcore := h.toCore.ask_ended hp hasked (by rw [hshown]; rfl) [] rfl rfl
    exact ⟨_, _, _, h.ask_told hp hcore hasked (fun _ _ => rfl) (by rw [hshown]; simp)⟩

end Ask

/-! ## A branch is dropped -/

section Drop

variable {v : Vigil α ε} {hub : Hub α (Stage α Empty)} {source : Source α ε} {pulled : List α}
  {slot position : Nat}

lemma log_drop (v : Vigil α ε) (slot : Nat) :
    (v.fork.act (.drop slot)).log = v.fork.log := by
  rw [Fork.act]
  split <;> rfl

/-- What the branches have read after one of them has been dropped. -/
lemma Core.drop (h : Core v hub source pulled) (hp : hub.position? slot = some position) :
    ∃ source', Core (v.act (.drop slot)) ((hub.drop slot).forgetOthers slot) source' pulled := by
  obtain ⟨hhubs, hsources, hwoken⟩ := Fork.plant_drop h.hubs h.sources hp h.input
  have hreceived : ∀ i, (v.fork.act (.drop slot)).received i = v.fork.received i := by
    intro i
    rw [Fork.received, log_drop, Fork.received]
  have hfailures : (v.fork.act (.drop slot)).failures = v.fork.failures := by
    rw [Fork.failures, log_drop, Fork.failures]
  have hcore : ∀ source', (v.fork.act (.drop slot)).plant.sources = [source'] →
      source'.cells = source.cells →
      ((hub.drop slot).input ≠ none → (hub.drop slot).input = hub.input ∧ source' = source) →
      Core (v.act (.drop slot)) ((hub.drop slot).forgetOthers slot) source' pulled := by
    intro source' hsources hcells hkeeps
    refine {
      hubs := hhubs
      sources := hsources
      patient := by rw [hcells]; exact h.patient
      taken := by rw [hcells]; exact h.taken
      retains := (h.retains.drop hp).congr
      reads := ?_
      length_wakers := ?_
      input := ?_
      reading := ?_
      told_le := ?_ }
    · intro i q hi
      rw [Hub.forgetOthers_position?, Hub.drop_position?] at hi
      split at hi
      · cases hi
      · exact (hreceived i).trans (h.reads i q hi)
    · rw [Hub.forgetOthers, List.length_mapIdx, Hub.drop_wakers, List.length_set, Hub.drop,
        Hub.trim_positions, List.length_set]
      exact h.length_wakers
    · rw [Hub.forgetOthers_input]
      rcases Hub.drop_input_cases hub slot with hin | ⟨hin, -⟩
      · rw [hin]
        exact h.input
      · exact .inl hin
    · intro hne
      obtain ⟨hin, rfl⟩ := hkeeps hne
      obtain ⟨hsrc, hfail, hfin⟩ := h.reading (by rwa [← hin])
      refine ⟨hsrc, hfailures.trans hfail, fun i hi => hfin i ?_⟩
      rw [← log_drop v slot]
      exact hi
    · intro i r hr
      show r.told ≤ (v.fork.act (.drop slot)).plant.woken.count r.waker
      rw [hwoken, List.count_append]
      exact (h.told_le i r hr).trans (Nat.le_add_left _ _)
  rcases hsources with ⟨hsources, hin⟩ | ⟨hsources, hin⟩
  · exact ⟨source, hcore source hsources rfl fun _ => ⟨hin, rfl⟩⟩
  · exact ⟨_, hcore _ hsources rfl fun hne => absurd hin hne⟩

/-- Dropping a branch leaves nobody waiting. -/
lemma Inv.drop (h : Inv v hub source pulled) (hp : hub.position? slot = some position) :
    ∃ hub' source' pulled', Inv (v.act (.drop slot)) hub' source' pulled' := by
  obtain ⟨source', hcore⟩ := h.toCore.drop hp
  obtain ⟨hhubs, -, hwoken⟩ := Fork.plant_drop h.hubs h.sources hp h.input
  refine ⟨_, source', pulled, .of_nobody hcore fun i r hw => ?_⟩
  have hlive := hw.1.isLive
  rw [isLive_eq hcore, Hub.forgetOthers_position?, Hub.drop_position?] at hlive
  split at hlive
  · cases hlive
  · next hi =>
    have hbefore : v.Waits i r :=
      ⟨⟨by rwa [isLive_eq h.toCore], hw.1.last, hw.1.shown⟩, fun htold => by
        have htold' : (v.act (.drop slot)).IsTold r := htold.mono hwoken
        exact hw.2 htold'⟩
    exact hw.2 (h.isTold_other hbefore hi hwoken)

end Drop

/-! ## The source is filled -/

section Fill

variable {v : Vigil α ε} {hub : Hub α (Stage α Empty)} {source : Source α ε} {pulled : List α}
  {change : Source α ε → Source α ε} {more : List (Cell α ε)}

lemma plant_fill (hsources : v.fork.plant.sources = [source]) (change : Source α ε → Source α ε) :
    (v.fill change).fork.plant.hubs = v.fork.plant.hubs ∧
      (v.fill change).fork.plant.sources = [{ change source with waker := none }] ∧
      (v.fill change).fork.plant.woken = source.waker.toList.reverse ++ v.fork.plant.woken := by
  have hzero : v.fork.plant.sources[0]? = some source := by rw [hsources]; rfl
  have hfill : (v.fill change).fork.plant =
      (v.fork.plant.setSource 0 { change source with waker := none }).wake
        source.waker.toList := by
    rw [fill, Plant.fill, hzero]
  rw [hfill]
  refine ⟨rfl, ?_, rfl⟩
  rw [Plant.wake_sources, Plant.setSource_sources, hsources]
  rfl

/-- What the branches have read does not change when the source is filled. -/
lemma Core.fill (h : Core v hub source pulled)
    (hcells : (change source).cells = source.cells ++ more)
    (hpatient : .pause ∉ more) (hlive : (change source).isLive = source.isLive) :
    Core { v.fill change with fed := v.fed ++ more } hub { change source with waker := none }
      pulled := by
  obtain ⟨hhubs, hsources, hwoken⟩ := plant_fill h.sources change
  obtain ⟨taken, htaken, hitems⟩ := h.taken
  refine {
    hubs := hhubs.trans h.hubs
    sources := hsources
    patient := ?_
    taken := ⟨taken, ?_, hitems⟩
    retains := h.retains
    reads := h.reads
    length_wakers := h.length_wakers
    input := h.input
    reading := ?_
    told_le := ?_ }
  · dsimp only
    rw [hcells, List.mem_append]
    exact fun hmem => hmem.elim h.patient hpatient
  · dsimp only
    rw [hcells, htaken, List.append_assoc]
  · intro hne
    obtain ⟨hsrc, hrest⟩ := h.reading hne
    exact ⟨hlive.trans hsrc, hrest⟩
  · intro i r hr
    dsimp only
    rw [hwoken, List.count_append]
    exact (h.told_le i r hr).trans (Nat.le_add_left _ _)

/-- Filling the source tells the branch that asked it last. -/
lemma Inv.fill (h : Inv v hub source pulled) (hcells : (change source).cells = source.cells ++ more)
    (hpatient : .pause ∉ more) (hlive : (change source).isLive = source.isLive) :
    Inv { v.fill change with fed := v.fed ++ more } hub { change source with waker := none }
      pulled := by
  have hcore := h.toCore.fill hcells hpatient hlive
  obtain ⟨hhubs, -, hwoken⟩ := plant_fill h.sources change
  have hisLive : ∀ i, (v.fill change).fork.isLive i = v.fork.isLive i := by
    intro i
    rw [Fork.isLive, hhubs, Fork.isLive]
  have hhad : ∀ i r, HadToWait { v.fill change with fed := v.fed ++ more } i r ↔
      v.HadToWait i r := by
    intro i r
    refine ⟨fun hw => ⟨?_, hw.last, hw.shown⟩, fun hw => ⟨?_, hw.last, hw.shown⟩⟩
    · rw [← hisLive]
      exact hw.isLive
    · exact (hisLive i).trans hw.isLive
  have hbefore : ∀ i r, Waits { v.fill change with fed := v.fed ++ more } i r → v.Waits i r :=
    fun i r hw => ⟨(hhad i r).1 hw.1, fun htold => hw.2 (htold.mono hwoken)⟩
  refine { hcore with inPlace := fun i r hw => h.inPlace i r (hbefore i r hw), alert := ?_ }
  intro i r hw
  refine .inr ?_
  rcases h.alert i r (hbefore i r hw) with ⟨-, -, j, r', hj, hwaker⟩ | ⟨j, r', hj, htold, hposition⟩
  · -- The one who is told had read everything.
    refine ⟨j, r', (hhad j r').2 hj.1, ?_, (h.inPlace j r' hj).position⟩
    refine isTold_of_mem hwoken (h.told_le j r' hj.1.last) ?_
    rw [hwaker]
    exact List.mem_singleton.2 rfl
  · exact ⟨j, r', (hhad j r').2 hj, htold.mono hwoken, hposition⟩

end Fill

/-! ## Runs -/

section Run

variable {v : Vigil α ε} {hub : Hub α (Stage α Empty)} {source : Source α ε} {pulled : List α}
  {slot : Nat} {r : LastPoll α ε}

/-- Every event keeps the invariant. -/
lemma Inv.act (h : Inv v hub source pulled) (event : VigilEvent α ε) :
    ∃ hub' source' pulled', Inv (v.act event) hub' source' pulled' := by
  cases event with
  | ask slot w =>
    cases hp : hub.position? slot with
    | some position => exact h.ask hp
    | none =>
      have hdead : ¬ v.fork.isLive slot = true := by
        rw [isLive_eq h.toCore, hp]
        simp
      refine ⟨hub, source, pulled, ?_⟩
      rwa [Vigil.act, if_neg hdead]
  | drop slot =>
    cases hp : hub.position? slot with
    | some position => exact h.drop hp
    | none =>
      refine ⟨hub, source, pulled, ?_⟩
      rwa [Vigil.act, Fork.act_of_dead h.hubs (by simp [hp])]
  | push a => exact ⟨hub, _, pulled, h.fill rfl (by simp) rfl⟩
  | pushError e => exact ⟨hub, _, pulled, h.fill rfl (by simp) rfl⟩
  | close =>
    have hsame : source.close.cells = source.cells ++ [] := (List.append_nil _).symm
    have hfill := h.fill hsame List.not_mem_nil rfl
    rw [List.append_nil] at hfill
    exact ⟨hub, _, pulled, hfill⟩

/-- A run keeps the invariant. -/
lemma Inv.run (h : Inv v hub source pulled) (events : List (VigilEvent α ε)) :
    ∃ hub' source' pulled', Inv (v.run events) hub' source' pulled' := by
  induction events generalizing v hub source pulled with
  | nil => exact ⟨_, _, _, h⟩
  | cons event rest ih =>
    obtain ⟨hub', source', pulled', h'⟩ := h.act event
    exact ih h'

/-- Before anything has happened nobody waits. -/
lemma inv_start (count : Nat) :
    ∃ source, Inv (start count : Vigil α ε) (Hub.start (.source 0) count) source [] := by
  obtain ⟨source, h⟩ := Fork.inv_start ([] : List (Cell α ε)) false count
  have hcells : source.cells = [] := by
    obtain ⟨taken, htaken, -⟩ := h.taken
    exact (List.append_eq_nil_iff.1 htaken.symm).2
  refine ⟨source, .of_nobody ?_ fun i r hw => by cases hw.1.last⟩
  exact {
    hubs := h.hubs
    sources := h.sources
    patient := by rw [hcells]; exact List.not_mem_nil
    taken := ⟨[], hcells.symm, rfl⟩
    retains := h.retains
    reads := h.reads
    length_wakers := by rw [Hub.start, List.length_replicate, List.length_replicate]
    input := by
      cases hin : (Hub.start (α := α) (Stage.source (α := α) (μ := Empty) 0) count).input with
      | none => exact .inl rfl
      | some below => exact .inr (by rw [(h.reading below hin).1])
    reading := by
      intro hne
      obtain ⟨below, hin⟩ := Option.ne_none_iff_exists'.1 hne
      obtain ⟨-, hsrc, -, -, hfail, hfin⟩ := h.reading below hin
      exact ⟨hsrc, hfail, hfin⟩
    told_le := fun i r hr => by cases hr }

lemma Inv.keepsWatch (h : Inv v hub source pulled) (hw : v.Waits slot r) :
    KeepsWatch v hub source slot r := by
  obtain ⟨hposition, hstored, hne⟩ := h.inPlace slot r hw
  obtain ⟨hsrc, hfail, hfin⟩ := h.reading hne
  refine {
    received := ?_
    input := h.input.resolve_left hne
    isLive := hsrc
    not_failed := hfail
    not_ended := hfin
    stored := hstored
    alert := ?_ }
  · intro taken htaken
    obtain ⟨taken', htaken', hitems⟩ := h.taken
    have hsame : taken = taken' := List.append_cancel_right (htaken.symm.trans htaken')
    rw [h.reads slot _ hposition, List.take_length, hsame, hitems]
  · rcases h.alert slot r hw with ⟨hnil, hopen, -⟩ | ⟨j, r', hj, htold, -⟩
    · exact .inl ⟨hnil, hopen⟩
    · exact .inr ⟨j, r', hj.isLive, hj.last, htold⟩

/-- **No wake-up is lost.**  Whatever is done to the branches of a hub and to the source below it,
in whatever order: a live branch that had to wait when it was asked last, and has not been told
since, has read everything, its waker is in place, and it waits for a source that has nothing to
give or for a live branch that has been told. -/
theorem keepsWatch_run (count : Nat) (events : List (VigilEvent α ε)) :
    ∃ hub source, ((start count : Vigil α ε).run events).fork.plant.hubs = [hub] ∧
      ((start count).run events).fork.plant.sources = [source] ∧
      ∀ slot r, ((start count).run events).HadToWait slot r →
        ¬ ((start count).run events).IsTold r →
        KeepsWatch ((start count).run events) hub source slot r := by
  obtain ⟨source, hstart⟩ := inv_start (α := α) (ε := ε) count
  obtain ⟨hub', source', pulled', h⟩ := hstart.run events
  exact ⟨hub', source', h.hubs, h.sources, fun slot r hw htold => h.keepsWatch ⟨hw, htold⟩⟩

/-- Two branches wait for an item, and the source tells the one that asked it last. -/
def sampleEvents : List (VigilEvent Nat String) := [.ask 0 "first", .ask 1 "second", .push 7]

theorem keepsWatch_run_sample :
    ∃ r r' hub source, ((start 2).run sampleEvents).HadToWait 0 r ∧
      ¬ ((start 2).run sampleEvents).IsTold r ∧
      ((start 2).run sampleEvents).last 1 = some r' ∧ ((start 2).run sampleEvents).IsTold r' ∧
      KeepsWatch ((start 2).run sampleEvents) hub source 0 r := by
  obtain ⟨hub, source, -, -, h⟩ := keepsWatch_run 2 sampleEvents
  have hwaits : ((start 2).run sampleEvents).HadToWait 0 ⟨.pending, "first", 0⟩ :=
    ⟨by decide, rfl, rfl⟩
  have huntold : ¬ ((start 2).run sampleEvents).IsTold ⟨.pending, "first", 0⟩ := by
    unfold IsTold
    decide
  have htold : ((start 2).run sampleEvents).IsTold ⟨.pending, "second", 0⟩ := by
    unfold IsTold
    decide
  exact ⟨_, _, hub, source, hwaits, huntold, rfl, htold, h 0 _ hwaits huntold⟩

end Run

end Vigil

end SparqlStream
