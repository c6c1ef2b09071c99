import Mathlib.Tactic
import SparqlStream.Stream.Network
import SparqlStream.Proofs.Reading

/-!
# Branches replay their source

A fork is a hub over one prepared source, together with a log of what its branches have shown.
Branches are asked and dropped in any order.  `Fork.replays_run` says what holds after every such
run: each branch has received the items of the source from the beginning, in order and without a
gap, an error has been shown to one branch at most, and the buffer holds what the slowest branch
has not read.

The proof carries `Fork.Inv` from event to event.  Its ghost is the list of the items that have
been pulled from the source: a live branch at position `p` has received the first `p` of them.
-/

namespace SparqlStream

/-! ## What a script holds -/

namespace Signal

variable {α ε : Type}

/-- The item that a signal shows. -/
def item? : Signal α ε → Option α
  | item a => some a
  | _ => none

/-- The error that a signal shows. -/
def error? : Signal α ε → Option ε
  | fail e => some e
  | _ => none

end Signal

namespace Cell

variable {α ε : Type}

/-- The items of some cells. -/
def items : List (Cell α ε) → List α
  | [] => []
  | item a :: rest => a :: items rest
  | fail _ :: rest | pause :: rest => items rest

/-- The items before the first error. -/
def itemsBeforeError : List (Cell α ε) → List α
  | [] | fail _ :: _ => []
  | item a :: rest => a :: itemsBeforeError rest
  | pause :: rest => itemsBeforeError rest

/-- The first error. -/
def firstError? : List (Cell α ε) → Option ε
  | [] => none
  | fail e :: _ => some e
  | item _ :: rest | pause :: rest => firstError? rest

lemma items_append (l r : List (Cell α ε)) : items (l ++ r) = items l ++ items r := by
  induction l with
  | nil => rfl
  | cons c l ih => cases c <;> simp [items, ih]

lemma firstError?_append (l r : List (Cell α ε)) :
    firstError? (l ++ r) = (firstError? l).or (firstError? r) := by
  induction l with
  | nil => rfl
  | cons c l ih => cases c <;> simp [firstError?, ih]

end Cell

/-! ## Forks -/

/-- What is done to a branch. -/
inductive BranchEvent where
  | ask (slot : Nat) (w : Waker)
  | drop (slot : Nat)

/-- The branches of one hub over a source, and what they have shown, the first signal first. -/
structure Fork (α ε : Type) where
  plant : Plant α ε Empty
  log : List (Nat × Signal α ε)

namespace Fork

variable {α ε : Type}

/-- A source that no branch has asked yet, below a hub with `count` branches.  Without branches
the source is let go of at once. -/
def start (cells : List (Cell α ε)) (closed : Bool) (count : Nat) : Fork α ε :=
  let plant : Plant α ε Empty := ⟨[.start cells closed], [.start (.source 0) count], [], []⟩
  ⟨if count = 0 then plant.release (.source 0) else plant, []⟩

/-- Whether there is a branch with this number that has not been dropped. -/
def isLive (f : Fork α ε) (slot : Nat) : Bool :=
  (f.plant.hubs[0]?.bind (·.position? slot)).isSome

/-- What a branch shows when it is asked now. -/
def shown (f : Fork α ε) (slot : Nat) (w : Waker) : Signal α ε :=
  (f.plant.step w (.branch 0 slot)).1

/-- What an event does.  A branch that has been dropped is not there to be asked. -/
def act (f : Fork α ε) : BranchEvent → Fork α ε
  | .ask slot w =>
    if f.isLive slot then
      let (signal, _, plant) := f.plant.step w (.branch 0 slot)
      ⟨plant, f.log ++ [(slot, signal)]⟩
    else f
  | .drop slot => if f.isLive slot then { f with plant := f.plant.release (.branch 0 slot) } else f

/-- What some events do, one after another. -/
def run (f : Fork α ε) (events : List BranchEvent) : Fork α ε := events.foldl act f

/-- The items that a branch has received. -/
def received (f : Fork α ε) (slot : Nat) : List α :=
  f.log.filterMap fun (i, signal) => if i = slot then signal.item? else none

/-- The errors that the branches have received. -/
def failures (f : Fork α ε) : List (Nat × ε) :=
  f.log.filterMap fun (i, signal) => signal.error?.map (i, ·)

/-- How often the source has been asked. -/
def asked (f : Fork α ε) : Nat := (f.plant.sources.map (·.asked)).sum

/-- What holds of the branches, their hub and their source at any time. -/
structure Replays (cells : List (Cell α ε)) (f : Fork α ε) (hub : Hub α (Stage α Empty))
    (source : Source α ε) : Prop where
  /-- No branch has received anything but the items before the first error, from the beginning,
  in order, and without a gap. -/
  isPrefix : ∀ slot, f.received slot <+: Cell.itemsBeforeError cells
  /-- A branch that has ended has received all of them, whether there was an error or not. -/
  complete : ∀ slot, (slot, .finish) ∈ f.log → f.received slot = Cell.itemsBeforeError cells
  /-- At most one branch has received an error.  It is the first one, and the branch had received
  everything before it. -/
  failure : f.failures = [] ∨ ∃ slot e, f.failures = [(slot, e)] ∧
    Cell.firstError? cells = some e ∧ f.received slot = Cell.itemsBeforeError cells
  /-- An error that has been taken from the source has been received. -/
  received_error : ∀ taken, cells = taken ++ source.cells →
    Cell.firstError? taken = f.failures.head?.map Prod.snd
  /-- Once the source is gone, a live branch that is asked shows the next item that it has not
  received, and ends when there is none. -/
  rest : hub.input = none → ∀ slot w, f.isLive slot = true → f.shown slot w =
    (Cell.itemsBeforeError cells)[(f.received slot).length]?.elim .finish .item
  /-- The position of a live branch counts what it has received. -/
  position : ∀ slot p, hub.position? slot = some p → (f.received slot).length = p
  /-- The live positions lie within the buffer or right behind it. -/
  bounds : ∀ p ∈ hub.livePositions, hub.offset ≤ p ∧ p ≤ hub.offset + hub.buffer.length
  /-- The buffer begins at the least live position. -/
  offset : ∀ least, hub.livePositions.min? = some least → hub.offset = least
  /-- The buffer holds what has been taken from the source, from its offset on. -/
  buffer : hub.livePositions ≠ [] → ∀ taken, cells = taken ++ source.cells →
    hub.buffer = (Cell.items taken).drop hub.offset
  /-- Without a live branch nothing is kept. -/
  abandoned : hub.livePositions = [] → hub.buffer = [] ∧ hub.input = none
  /-- The source is asked only for a branch that has read the whole buffer. -/
  asks : ∀ slot w, (f.act (.ask slot w)).asked ≠ f.asked →
    hub.position? slot = some (hub.offset + hub.buffer.length)
  /-- The source is not asked when a branch is dropped. -/
  drops : ∀ slot, (f.act (.drop slot)).asked = f.asked
  /-- The hub has let go of its source exactly if a branch has ended, a branch has failed, or no
  branch is left. -/
  gone : hub.input = none ↔
    (∃ slot, (slot, .finish) ∈ f.log) ∨ f.failures ≠ [] ∨ hub.livePositions = []
  /-- A source that the hub has let go of is dropped. -/
  dropped : hub.input = none ↔ source.isLive = false

/-! ## The invariant -/

/-- The invariant of a fork whose branches have pulled some items. -/
structure Inv (cells : List (Cell α ε)) (f : Fork α ε) (hub : Hub α (Stage α Empty))
    (source : Source α ε) (pulled : List α) : Prop where
  hubs : f.plant.hubs = [hub]
  sources : f.plant.sources = [source]
  taken : ∃ taken, cells = taken ++ source.cells ∧ Cell.items taken = pulled ∧
    Cell.firstError? taken = f.failures.head?.map Prod.snd
  retains : hub.Retains pulled
  abandoned : hub.livePositions = [] → hub.buffer = [] ∧ hub.input = none
  reads : ∀ slot p, hub.position? slot = some p → f.received slot = pulled.take p
  isPrefix : ∀ slot, f.received slot <+: pulled
  pulled_isPrefix : pulled <+: Cell.itemsBeforeError cells
  reading : ∀ below, hub.input = some below → below = .source 0 ∧ source.isLive = true ∧
    Cell.itemsBeforeError cells = pulled ++ Cell.itemsBeforeError source.cells ∧
    Cell.firstError? cells = Cell.firstError? source.cells ∧
    f.failures = [] ∧ ∀ slot, (slot, .finish) ∉ f.log
  gone : hub.input = none → source.isLive = false ∧
    (hub.livePositions = [] ∨ pulled = Cell.itemsBeforeError cells) ∧
    ((∃ slot, (slot, .finish) ∈ f.log) ∨ f.failures ≠ [] ∨ hub.livePositions = [])
  complete : ∀ slot, (slot, .finish) ∈ f.log → f.received slot = Cell.itemsBeforeError cells
  failure : f.failures = [] ∨ ∃ slot e, f.failures = [(slot, e)] ∧
    Cell.firstError? cells = some e ∧ f.received slot = Cell.itemsBeforeError cells

/-! ## The log -/

lemma received_append (f : Fork α ε) (plant : Plant α ε Empty) (slot i : Nat) (σ : Signal α ε) :
    received ⟨plant, f.log ++ [(slot, σ)]⟩ i =
      f.received i ++ if slot = i then σ.item?.toList else [] := by
  rw [received, List.filterMap_append, received]
  by_cases hi : slot = i
  · cases hσ : σ.item? <;> simp [hi, hσ]
  · simp [hi]

lemma failures_append (f : Fork α ε) (plant : Plant α ε Empty) (slot : Nat) (σ : Signal α ε) :
    failures ⟨plant, f.log ++ [(slot, σ)]⟩ = f.failures ++ (σ.error?.map (slot, ·)).toList := by
  rw [failures, List.filterMap_append, failures]
  cases hσ : σ.error? <;> simp [hσ]

lemma failures_quiet (f : Fork α ε) (plant : Plant α ε Empty) (slot : Nat) {σ : Signal α ε}
    (hσ : σ.error? = none) : failures ⟨plant, f.log ++ [(slot, σ)]⟩ = f.failures := by
  rw [failures_append, hσ]
  exact List.append_nil _

lemma finish_mem_append {f : Fork α ε} {slot i : Nat} {σ : Signal α ε} (hσ : σ ≠ .finish) :
    (i, .finish) ∈ f.log ++ [(slot, σ)] ↔ (i, .finish) ∈ f.log := by
  simp [Ne.symm hσ]

/-! ## What an event does -/

section Events

variable {cells : List (Cell α ε)} {f : Fork α ε} {hub : Hub α (Stage α Empty)}
  {source : Source α ε} {pulled : List α} {slot position : Nat} {w : Waker}

lemma isLive_eq (hf : f.plant.hubs = [hub]) : f.isLive slot = (hub.position? slot).isSome := by
  rw [isLive, hf]
  rfl

/-- What a live branch shows is what it reads from the hub. -/
lemma shown_eq_read (hf : f.plant.hubs = [hub]) :
    f.shown slot w = (f.plant.read w 1 0 slot).1 := by
  rw [shown, Plant.step, hf]
  rfl

lemma act_ask (hf : f.plant.hubs = [hub]) (hp : hub.position? slot = some position) :
    f.act (.ask slot w) =
      ⟨(f.plant.read w 1 0 slot).2, f.log ++ [(slot, (f.plant.read w 1 0 slot).1)]⟩ := by
  have hlive : f.isLive slot = true := by rw [isLive_eq hf, hp]; rfl
  rw [act, if_pos hlive, Plant.step, hf]
  rfl

lemma act_of_dead {event : BranchEvent} (hf : f.plant.hubs = [hub])
    (hdead : ∀ slot w, event = .ask slot w ∨ event = .drop slot → hub.position? slot = none) :
    f.act event = f := by
  cases event with
  | ask slot w =>
    have hlive : ¬ f.isLive slot = true := by
      rw [isLive_eq hf, hdead slot w (.inl rfl)]
      simp
    rw [act, if_neg hlive]
  | drop slot =>
    have hlive : ¬ f.isLive slot = true := by
      rw [isLive_eq hf, hdead slot "" (.inr rfl)]
      simp
    rw [act, if_neg hlive]

/-! ## An item is received -/

section Item

variable {plant : Plant α ε Empty} {hub' : Hub α (Stage α Empty)} {pulled' : List α} {a : α}

section Reads

variable (hretains : hub.Retains pulled)
  (hreads : ∀ i p, hub.position? i = some p → f.received i = pulled.take p)
  (hp : hub.position? slot = some position)
  (hpos : ∀ i, hub'.position? i = if i = slot then some (position + 1) else hub.position? i)
  (hext : pulled <+: pulled') (ha : pulled'[position]? = some a)

include hretains hreads hp hext ha

/-- A branch that has received what lies before its position receives what comes next. -/
lemma received_item :
    received ⟨plant, f.log ++ [(slot, .item a)]⟩ slot = pulled'.take (position + 1) := by
  obtain ⟨more, rfl⟩ := hext
  rw [received_append, if_pos rfl, hreads slot position hp, List.take_add_one, ha]
  rw [List.take_append_of_le_length (hretains.position_le hp)]
  rfl

include hpos in
lemma reads_item (i q : Nat) (hi : hub'.position? i = some q) :
    received ⟨plant, f.log ++ [(slot, .item a)]⟩ i = pulled'.take q := by
  rw [hpos] at hi
  by_cases hslot : i = slot
  · subst hslot
    rw [if_pos rfl] at hi
    rw [received_item hretains hreads hp hext ha, Option.some.inj hi]
  · rw [if_neg hslot] at hi
    obtain ⟨more, rfl⟩ := hext
    rw [received_append, if_neg (Ne.symm hslot), List.append_nil, hreads i q hi,
      List.take_append_of_le_length (hretains.position_le hi)]

end Reads

variable (h : Inv cells f hub source pulled) (hp : hub.position? slot = some position)
  (hext : pulled <+: pulled') (ha : pulled'[position]? = some a)

include h hp hext ha

lemma Inv.isPrefix_item (i : Nat) :
    received ⟨plant, f.log ++ [(slot, .item a)]⟩ i <+: pulled' := by
  by_cases hslot : slot = i
  · subst hslot
    rw [received_item h.retains h.reads hp hext ha]
    exact List.take_prefix _ _
  · rw [received_append, if_neg hslot, List.append_nil]
    exact (h.isPrefix i).trans hext

/-- A branch that had received everything does not receive more. -/
lemma Inv.received_item_of_eq {i : Nat} (hext' : pulled' <+: Cell.itemsBeforeError cells)
    (hi : f.received i = Cell.itemsBeforeError cells) :
    received ⟨plant, f.log ++ [(slot, .item a)]⟩ i = Cell.itemsBeforeError cells := by
  refine List.IsPrefix.eq_of_length_le ((h.isPrefix_item hp hext ha i).trans hext') ?_
  rw [received_append, hi, List.length_append]
  omega

end Item

/-- A live branch takes an item from the buffer. -/
lemma Inv.ask_buffered {a : α} (h : Inv cells f hub source pulled)
    (hp : hub.position? slot = some position) (ha : hub.itemAt? position = some a) :
    Inv cells (f.act (.ask slot w)) (hub.advance slot position) source pulled := by
  have hhub : f.plant.hubs[0]? = some hub := by rw [h.hubs]; rfl
  have hread : f.plant.read w 1 0 slot = _ := Plant.read_buffered hhub hp ha
  have hpulled : pulled[position]? = some a := by rw [← h.retains.itemAt? hp, ha]
  have hpos := Hub.advance_position? hp
  have hself : (hub.advance slot position).position? slot = some (position + 1) := by
    rw [hpos, if_pos rfl]
  have hlive := Hub.livePositions_ne_nil hp
  rw [act_ask h.hubs hp, hread]
  exact {
    hubs := by rw [Plant.setHub_hubs, h.hubs]; rfl
    sources := h.sources
    taken := by rw [failures_quiet _ _ _ rfl]; exact h.taken
    retains := h.retains.advance hp ha
    abandoned := fun hdead => absurd hdead (Hub.livePositions_ne_nil hself)
    reads := reads_item h.retains h.reads hp hpos (List.prefix_refl _) hpulled
    isPrefix := h.isPrefix_item hp (List.prefix_refl _) hpulled
    pulled_isPrefix := h.pulled_isPrefix
    reading := by
      intro below hin
      rw [Hub.advance_input hp] at hin
      obtain ⟨hbelow, hsrc, hitems, herr, hfail, hfin⟩ := h.reading below hin
      refine ⟨hbelow, hsrc, hitems, herr, ?_, ?_⟩
      · rw [failures_quiet _ _ _ rfl, hfail]
      · exact fun i hi => hfin i ((finish_mem_append (by simp)).1 hi)
    gone := by
      intro hin
      rw [Hub.advance_input hp] at hin
      obtain ⟨hsrc, hall, hwhy⟩ := h.gone hin
      refine ⟨hsrc, .inr (hall.resolve_left hlive), ?_⟩
      rcases hwhy with ⟨i, hi⟩ | hfail | hdead
      · exact .inl ⟨i, List.mem_append_left _ hi⟩
      · exact .inr (.inl (by rwa [failures_quiet _ _ _ rfl]))
      · exact absurd hdead hlive
    complete := by
      intro i hi
      exact h.received_item_of_eq hp (List.prefix_refl _) hpulled h.pulled_isPrefix
        (h.complete i ((finish_mem_append (by simp)).1 hi))
    failure := by
      rw [failures_quiet _ _ _ rfl]
      rcases h.failure with hfail | ⟨i, e, hfail, herr, hi⟩
      · exact .inl hfail
      · refine .inr ⟨i, e, hfail, herr, ?_⟩
        exact h.received_item_of_eq hp (List.prefix_refl _) hpulled h.pulled_isPrefix hi }

/-! ## Nothing is received -/

lemma received_quiet {plant : Plant α ε Empty} {σ : Signal α ε} (hσ : σ.item? = none) (i : Nat) :
    received ⟨plant, f.log ++ [(slot, σ)]⟩ i = f.received i := by
  rw [received_append, hσ]
  simp

/-- A branch that has read everything of a source that is gone ends. -/
lemma Inv.ask_gone (h : Inv cells f hub source pulled) (hp : hub.position? slot = some position)
    (ha : hub.itemAt? position = none) (hin : hub.input = none) :
    Inv cells (f.act (.ask slot w)) hub source pulled := by
  have hhub : f.plant.hubs[0]? = some hub := by rw [h.hubs]; rfl
  have hread : f.plant.read w 1 0 slot = _ := Plant.read_gone hhub hp ha hin
  obtain ⟨hsrc, hall, -⟩ := h.gone hin
  have hpulled := hall.resolve_left (Hub.livePositions_ne_nil hp)
  have hend := h.retains.position_eq hp (Hub.itemAt?_eq_none h.retains.inBounds hp ha)
  have hself : f.received slot = Cell.itemsBeforeError cells := by
    rw [h.reads slot position hp, hend, List.take_length, hpulled]
  rw [act_ask h.hubs hp, hread]
  exact {
    hubs := h.hubs
    sources := h.sources
    taken := by rw [failures_quiet _ _ _ rfl]; exact h.taken
    retains := h.retains
    abandoned := h.abandoned
    reads := fun i q hi => by rw [received_quiet rfl, h.reads i q hi]
    isPrefix := fun i => by rw [received_quiet rfl]; exact h.isPrefix i
    pulled_isPrefix := h.pulled_isPrefix
    reading := fun below hbelow => by rw [hin] at hbelow; cases hbelow
    gone := fun _ => ⟨hsrc, hall, .inl ⟨slot, List.mem_append_right _ List.mem_cons_self⟩⟩
    complete := by
      intro i hi
      rw [received_quiet rfl]
      rcases List.mem_append.1 hi with hi | hi
      · exact h.complete i hi
      · obtain ⟨rfl, -⟩ := Prod.mk.inj (List.mem_singleton.1 hi)
        exact hself
    failure := by
      rw [failures_quiet _ _ _ rfl]
      rcases h.failure with hfail | ⟨i, e, hfail, herr, hi⟩
      · exact .inl hfail
      · exact .inr ⟨i, e, hfail, herr, by rw [received_quiet rfl, hi]⟩ }

/-! ## The source is asked -/

section Below

variable {rest : List (Cell α ε)} (h : Inv cells f hub source pulled)
  (hp : hub.position? slot = some position) (ha : hub.itemAt? position = none)
  (hin : hub.input = some (.source 0))

include h

lemma Inv.source_zero : f.plant.sources[0]? = some source := by
  rw [h.sources]
  rfl

lemma Inv.stepWith_zero :
    Stage.stepWith (Plant.read w 0) (Plant.leave 0) w f.plant (.source 0) =
      ((source.step w).1, .source 0, f.plant.setSource 0 (source.step w).2) :=
  Stage.stepWith_source h.source_zero

/-- What has been taken from the source, with one cell more. -/
lemma Inv.taken_cons {c : Cell α ε} (hc : source.cells = c :: rest) (hfail : f.failures = []) :
    ∃ taken, cells = taken ++ rest ∧ Cell.items taken = pulled ++ Cell.items [c] ∧
      Cell.firstError? taken = Cell.firstError? [c] := by
  obtain ⟨taken, hcells, hitems, herr⟩ := h.taken
  refine ⟨taken ++ [c], ?_, ?_, ?_⟩
  · rw [hcells, hc, List.append_assoc]
    rfl
  · rw [Cell.items_append, hitems]
  · rw [Cell.firstError?_append, herr, hfail]
    rfl

include hp ha hin

/-- A branch takes an item from the source, and the others find it in the buffer. -/
lemma Inv.ask_item {a : α} (hc : source.cells = .item a :: rest) :
    Inv cells (f.act (.ask slot w)) ((hub.deliver slot position a).forgetOthers slot)
      { source with asked := source.asked + 1, cells := rest } (pulled ++ [a]) := by
  have hhub : f.plant.hubs[0]? = some hub := by rw [h.hubs]; rfl
  have hsame : { hub with input := some (.source 0) } = hub := by rw [← hin]
  have hstep := h.stepWith_zero (w := w)
  rw [Source.step_item hc] at hstep
  have hread := Plant.read_item hhub hp ha hin hstep
  rw [hsame] at hread
  obtain ⟨-, hsrc, hitems, herr, hfail, hfin⟩ := h.reading _ hin
  have hend := Hub.itemAt?_eq_none h.retains.inBounds hp ha
  have hlen := h.retains.position_eq hp hend
  have hpulled : (pulled ++ [a])[position]? = some a := by
    rw [hlen, List.getElem?_append_right (Nat.le_refl _), Nat.sub_self]
    rfl
  have hpos := Hub.deliver_position? (a := a) hp
  have hself : (hub.deliver slot position a).position? slot = some (position + 1) := by
    rw [hpos, if_pos rfl]
  have hext : pulled <+: pulled ++ [a] := List.prefix_append _ _
  have hitems' : Cell.itemsBeforeError cells = (pulled ++ [a]) ++ Cell.itemsBeforeError rest := by
    rw [hitems, hc, List.append_assoc]
    rfl
  rw [act_ask h.hubs hp, hread]
  exact {
    hubs := by rw [Plant.wake_hubs, Plant.setHub_hubs, Plant.setSource_hubs, h.hubs]; rfl
    sources := by
      rw [Plant.wake_sources, Plant.setHub_sources, Plant.setSource_sources, h.sources]
      rfl
    taken := by rw [failures_quiet _ _ _ rfl, hfail]; exact h.taken_cons hc hfail
    retains := (h.retains.deliver hp hend).congr
    abandoned := fun hdead => absurd hdead (Hub.livePositions_ne_nil hself)
    reads := reads_item h.retains h.reads hp hpos hext hpulled
    isPrefix := h.isPrefix_item hp hext hpulled
    pulled_isPrefix := by rw [hitems']; exact List.prefix_append _ _
    reading := by
      intro below hbelow
      rw [Hub.forgetOthers_input, Hub.deliver_input hp, hin] at hbelow
      refine ⟨(Option.some.inj hbelow).symm, hsrc, hitems', ?_, ?_, ?_⟩
      · rw [herr, hc]
        rfl
      · rw [failures_quiet _ _ _ rfl, hfail]
      · exact fun i hi => hfin i ((finish_mem_append (by simp)).1 hi)
    gone := by
      intro hgone
      rw [Hub.forgetOthers_input, Hub.deliver_input hp, hin] at hgone
      cases hgone
    complete := fun i hi => absurd ((finish_mem_append (by simp)).1 hi) (hfin i)
    failure := .inl (by rw [failures_quiet _ _ _ rfl, hfail]) }

/-- A branch that has to wait changes nothing but wakers. -/
lemma Inv.ask_pending {source' : Source α ε} (hs : source.step w = (.pending, source'))
    (hlive : source'.isLive = source.isLive)
    (hitems' : Cell.itemsBeforeError source'.cells = Cell.itemsBeforeError source.cells)
    (herr' : Cell.firstError? source'.cells = Cell.firstError? source.cells)
    (htaken : ∃ taken, cells = taken ++ source'.cells ∧ Cell.items taken = pulled ∧
      Cell.firstError? taken = none) :
    Inv cells (f.act (.ask slot w)) (hub.leaveWaker slot w) source' pulled := by
  have hhub : f.plant.hubs[0]? = some hub := by rw [h.hubs]; rfl
  have hsame : { hub with input := some (.source 0) } = hub := by rw [← hin]
  have hstep := h.stepWith_zero (w := w)
  rw [hs] at hstep
  have hread := Plant.read_pending hhub hp ha hin hstep
  rw [hsame] at hread
  obtain ⟨-, hsrc, hitems, herr, hfail, hfin⟩ := h.reading _ hin
  rw [act_ask h.hubs hp, hread]
  exact {
    hubs := by rw [Plant.setHub_hubs, Plant.setSource_hubs, h.hubs]; rfl
    sources := by rw [Plant.setHub_sources, Plant.setSource_sources, h.sources]; rfl
    taken := by rw [failures_quiet _ _ _ rfl, hfail]; exact htaken
    retains := h.retains.congr
    abandoned := h.abandoned
    reads := fun i q hi => by rw [received_quiet rfl, h.reads i q hi]
    isPrefix := fun i => by rw [received_quiet rfl]; exact h.isPrefix i
    pulled_isPrefix := h.pulled_isPrefix
    reading := by
      intro below hbelow
      rw [Hub.leaveWaker, hin] at hbelow
      refine ⟨(Option.some.inj hbelow).symm, ?_, ?_, ?_, ?_, ?_⟩
      · rw [hlive, hsrc]
      · rw [hitems, hitems']
      · rw [herr, herr']
      · rw [failures_quiet _ _ _ rfl, hfail]
      · exact fun i hi => hfin i ((finish_mem_append (by simp)).1 hi)
    gone := by
      intro hgone
      rw [Hub.leaveWaker, hin] at hgone
      cases hgone
    complete := fun i hi => absurd ((finish_mem_append (by simp)).1 hi) (hfin i)
    failure := .inl (by rw [failures_quiet _ _ _ rfl, hfail]) }

/-- A branch meets the end or an error of the source, which is let go of. -/
lemma Inv.ask_ended {σ : Signal α ε} {source' : Source α ε}
    (hread : f.plant.read w 1 0 slot =
      (σ, Plant.read.endHub 0 (f.plant.setSource 0 source') 0 hub (.source 0) slot))
    (hσ : σ = .finish ∨ ∃ e, σ = .fail e ∧ Cell.firstError? source.cells = some e)
    (hnone : Cell.itemsBeforeError source.cells = [])
    (htaken : ∃ taken, cells = taken ++ source'.cells ∧ Cell.items taken = pulled ∧
      Cell.firstError? taken = σ.error?) :
    Inv cells (f.act (.ask slot w)) (hub.ended slot) { source' with isLive := false } pulled := by
  obtain ⟨-, -, hitems, herr, hfail, hfin⟩ := h.reading _ hin
  have hpulled : pulled = Cell.itemsBeforeError cells := by rw [hitems, hnone, List.append_nil]
  have hlen := h.retains.position_eq hp (Hub.itemAt?_eq_none h.retains.inBounds hp ha)
  -- The branch that asks has read everything that has been pulled, and that is all there is.
  have hself : f.received slot = Cell.itemsBeforeError cells := by
    rw [h.reads slot position hp, hlen, List.take_length, hpulled]
  have hsources : ((f.plant.setSource 0 source').setHub 0 (hub.ended slot)).sources[0]? =
      some source' := by
    rw [Plant.setHub_sources, Plant.setSource_sources, h.sources]
    rfl
  have hrelease : Stage.releaseWith (Plant.leave 0) _ (.source 0) = _ :=
    Stage.releaseWith_source hsources
  have hquiet : σ.item? = none := by
    rcases hσ with rfl | ⟨e, rfl, -⟩ <;> rfl
  rw [act_ask h.hubs hp, hread]
  refine {
    hubs := ?_
    sources := ?_
    taken := ?_
    retains := h.retains.congr
    abandoned := fun hdead => absurd hdead (Hub.livePositions_ne_nil hp)
    reads := fun i q hi => by rw [received_quiet hquiet, h.reads i q hi]
    isPrefix := fun i => by rw [received_quiet hquiet]; exact h.isPrefix i
    pulled_isPrefix := h.pulled_isPrefix
    reading := fun below hbelow => nomatch hbelow
    gone := fun _ => ⟨rfl, .inr hpulled, ?_⟩
    complete := ?_
    failure := ?_ }
  · rw [Plant.endHub_eq, Plant.wake_hubs, hrelease,
      Plant.setSource_hubs, Plant.setHub_hubs, Plant.setSource_hubs, h.hubs]
    rfl
  · rw [Plant.endHub_eq, Plant.wake_sources, hrelease,
      Plant.setSource_sources, Plant.setHub_sources, Plant.setSource_sources, h.sources]
    rfl
  · obtain ⟨taken, hcells, hitems', herr'⟩ := htaken
    refine ⟨taken, hcells, hitems', ?_⟩
    rw [herr', failures_append, hfail]
    cases σ.error? <;> rfl
  · rcases hσ with rfl | ⟨e, rfl, -⟩
    · exact .inl ⟨slot, List.mem_append_right _ List.mem_cons_self⟩
    · refine .inr (.inl ?_)
      rw [failures_append]
      exact List.append_ne_nil_of_right_ne_nil _ (List.cons_ne_nil _ _)
  · intro i hi
    rw [received_quiet hquiet]
    rcases List.mem_append.1 hi with hi | hi
    · exact absurd hi (hfin i)
    · obtain ⟨rfl, -⟩ := Prod.mk.inj (List.mem_singleton.1 hi)
      exact hself
  · rw [failures_append, hfail]
    rcases hσ with rfl | ⟨e, rfl, hfirst⟩
    · exact .inl rfl
    · exact .inr ⟨slot, e, rfl, by rw [herr, hfirst], by rw [received_quiet rfl, hself]⟩

end Below

/-- Asking a live branch keeps the invariant. -/
lemma Inv.ask (h : Inv cells f hub source pulled) (hp : hub.position? slot = some position) :
    ∃ hub' source' pulled', Inv cells (f.act (.ask slot w)) hub' source' pulled' := by
  have hhub : f.plant.hubs[0]? = some hub := by rw [h.hubs]; rfl
  cases ha : hub.itemAt? position with
  | some a => exact ⟨_, _, _, h.ask_buffered hp ha⟩
  | none =>
    cases hin : hub.input with
    | none => exact ⟨_, _, _, h.ask_gone hp ha hin⟩
    | some below =>
      obtain ⟨rfl, -, -, -, hfail, -⟩ := h.reading below hin
      have hstep := h.stepWith_zero (w := w)
      cases hc : source.cells with
      | nil =>
        have htaken : ∃ taken, cells = taken ++ source.cells ∧ Cell.items taken = pulled ∧
            Cell.firstError? taken = none := by
          obtain ⟨taken, hcells, hitems, herr⟩ := h.taken
          exact ⟨taken, hcells, hitems, by rw [herr, hfail]; rfl⟩
        cases hclosed : source.closed with
        | true =>
          rw [Source.step_closed hc hclosed] at hstep
          exact ⟨_, _, _, h.ask_ended hp ha hin (Plant.read_finish hhub hp ha hin hstep) (.inl rfl)
            (by rw [hc]; rfl) htaken⟩
        | false =>
          exact ⟨_, _, _, h.ask_pending hp ha hin (Source.step_open hc hclosed) rfl rfl rfl htaken⟩
      | cons c rest =>
        obtain ⟨taken, hcells, hitems, herr⟩ := h.taken_cons hc hfail
        cases c with
        | item a => exact ⟨_, _, _, h.ask_item hp ha hin hc⟩
        | pause =>
          refine ⟨_, _, _, h.ask_pending hp ha hin (Source.step_pause hc) rfl ?_ ?_
            ⟨taken, hcells, ?_, herr⟩⟩
          · rw [hc]
            rfl
          · rw [hc]
            rfl
          · rw [hitems, Cell.items, Cell.items, List.append_nil]
        | fail e =>
          rw [Source.step_fail hc] at hstep
          refine ⟨_, _, _, h.ask_ended hp ha hin (Plant.read_fail hhub hp ha hin hstep)
            (.inr ⟨e, rfl, ?_⟩) ?_ ⟨taken, hcells, ?_, herr⟩⟩
          · rw [hc]
            rfl
          · rw [hc]
            rfl
          · rw [hitems, Cell.items, Cell.items, List.append_nil]

/-! ## A branch is dropped -/

lemma act_drop (hf : f.plant.hubs = [hub]) (hp : hub.position? slot = some position) :
    f.act (.drop slot) = { f with plant := f.plant.leave 1 0 slot } := by
  have hlive : f.isLive slot = true := by rw [isLive_eq hf, hp]; rfl
  rw [act, if_pos hlive, Plant.release, hf]
  rfl

section Drop

variable (h : Inv cells f hub source pulled) (hp : hub.position? slot = some position)

include h

lemma Inv.reads_drop (i q : Nat) (hi : (hub.drop slot).position? i = some q) :
    f.received i = pulled.take q := by
  rw [Hub.drop_position?] at hi
  by_cases hslot : i = slot
  · rw [if_pos hslot] at hi
    cases hi
  · rw [if_neg hslot] at hi
    exact h.reads i q hi

include hp

/-- Another branch is left. -/
lemma Inv.drop_of_live (hlive : (hub.drop slot).livePositions ≠ []) :
    Inv cells (f.act (.drop slot)) ((hub.drop slot).forgetOthers slot) source pulled := by
  have hhub : f.plant.hubs[0]? = some hub := by rw [h.hubs]; rfl
  obtain ⟨q, hq⟩ := List.exists_mem_of_ne_nil _ hlive
  obtain ⟨i, hi⟩ := Hub.mem_livePositions.1 hq
  have hin := Hub.drop_input_of_live hi
  rw [act_drop h.hubs hp, Plant.leave_of_keeps hhub hin]
  exact {
    hubs := by rw [Plant.wake_hubs, Plant.setHub_hubs, h.hubs]; rfl
    sources := h.sources
    taken := h.taken
    retains := (h.retains.drop hp).congr
    abandoned := fun hdead => absurd hdead hlive
    reads := h.reads_drop
    isPrefix := h.isPrefix
    pulled_isPrefix := h.pulled_isPrefix
    reading := fun below hbelow => h.reading below (by rwa [Hub.forgetOthers_input, hin] at hbelow)
    gone := by
      intro hgone
      rw [Hub.forgetOthers_input, hin] at hgone
      obtain ⟨hsrc, hall, hwhy⟩ := h.gone hgone
      -- The source was gone while this branch was live, so that it had ended or failed.
      have hlive' := Hub.livePositions_ne_nil hp
      exact ⟨hsrc, .inr (hall.resolve_left hlive'), hwhy.imp_right fun hr =>
        .inl (hr.resolve_right hlive')⟩
    complete := h.complete
    failure := h.failure }

/-- The last branch takes the source with it, if the hub still has it. -/
lemma Inv.drop_of_dead (hdead : (hub.drop slot).livePositions = []) :
    ∃ source',
      Inv cells (f.act (.drop slot)) ((hub.drop slot).forgetOthers slot) source' pulled := by
  have hhub : f.plant.hubs[0]? = some hub := by rw [h.hubs]; rfl
  have hdrop : (hub.drop slot).buffer = [] ∧ (hub.drop slot).input = none := by
    rw [Hub.drop, Hub.trim_livePositions] at hdead
    rw [Hub.drop, Hub.trim_of_dead hdead]
    exact ⟨rfl, rfl⟩
  have hinv : ∀ plant source', plant.hubs = [(hub.drop slot).forgetOthers slot] →
      plant.sources = [source'] → source'.cells = source.cells → source'.isLive = false →
      Inv cells { f with plant } ((hub.drop slot).forgetOthers slot) source' pulled := by
    intro plant source' hhubs hsources hcells hsrc
    exact {
      hubs := hhubs
      sources := hsources
      taken := by rw [hcells]; exact h.taken
      retains := (h.retains.drop hp).congr
      abandoned := fun _ => hdrop
      reads := h.reads_drop
      isPrefix := h.isPrefix
      pulled_isPrefix := h.pulled_isPrefix
      reading := fun below hbelow => by
        rw [Hub.forgetOthers_input, hdrop.2] at hbelow
        cases hbelow
      gone := fun _ => ⟨hsrc, .inl hdead, .inr (.inr hdead)⟩
      complete := h.complete
      failure := h.failure }
  rw [act_drop h.hubs hp]
  cases hin : hub.input with
  | none =>
    rw [Plant.leave_of_keeps hhub (by rw [hdrop.2, hin])]
    refine ⟨source, hinv _ _ ?_ h.sources rfl (h.gone hin).1⟩
    rw [Plant.wake_hubs, Plant.setHub_hubs, h.hubs]
    rfl
  | some below =>
    obtain ⟨rfl, -⟩ := h.reading below hin
    have hrelease : Stage.releaseWith (Plant.leave 0)
        (f.plant.setHub 0 ((hub.drop slot).forgetOthers slot)) (.source 0) = _ :=
      Stage.releaseWith_source h.source_zero
    rw [Plant.leave_of_last hhub hin hdrop.2, hrelease]
    refine ⟨{ source with isLive := false }, hinv _ _ ?_ ?_ rfl rfl⟩
    · rw [Plant.wake_hubs, Plant.setSource_hubs, Plant.setHub_hubs, h.hubs]
      rfl
    · rw [Plant.wake_sources, Plant.setSource_sources, Plant.setHub_sources, h.sources]
      rfl

end Drop

/-! ## Runs -/

/-- Every event keeps the invariant. -/
lemma Inv.act (h : Inv cells f hub source pulled) (event : BranchEvent) :
    ∃ hub' source' pulled', Inv cells (f.act event) hub' source' pulled' := by
  cases event with
  | ask slot w =>
    cases hp : hub.position? slot with
    | some position => exact h.ask hp
    | none =>
      rw [act_of_dead h.hubs (by simp [hp])]
      exact ⟨_, _, _, h⟩
  | drop slot =>
    cases hp : hub.position? slot with
    | some position =>
      by_cases hdead : (hub.drop slot).livePositions = []
      · obtain ⟨source', h'⟩ := h.drop_of_dead hp hdead
        exact ⟨_, _, _, h'⟩
      · exact ⟨_, _, _, h.drop_of_live hp hdead⟩
    | none =>
      rw [act_of_dead h.hubs (by simp [hp])]
      exact ⟨_, _, _, h⟩

/-- A run keeps the invariant. -/
lemma Inv.run (h : Inv cells f hub source pulled) (events : List BranchEvent) :
    ∃ hub' source' pulled', Inv cells (f.run events) hub' source' pulled' := by
  induction events generalizing f hub source pulled with
  | nil => exact ⟨_, _, _, h⟩
  | cons event rest ih =>
    obtain ⟨hub', source', pulled', h'⟩ := h.act event
    exact ih h'

/-! ## What the invariant says -/

lemma Inv.length_received (h : Inv cells f hub source pulled)
    (hp : hub.position? slot = some position) : (f.received slot).length = position := by
  rw [h.reads slot position hp, List.length_take, Nat.min_eq_left (h.retains.position_le hp)]

lemma Inv.shown_of_gone (h : Inv cells f hub source pulled) (hin : hub.input = none)
    (hlive : f.isLive slot = true) : f.shown slot w =
      (Cell.itemsBeforeError cells)[(f.received slot).length]?.elim .finish .item := by
  have hhub : f.plant.hubs[0]? = some hub := by rw [h.hubs]; rfl
  rw [isLive_eq h.hubs] at hlive
  obtain ⟨position, hp⟩ := Option.isSome_iff_exists.1 hlive
  have hpulled := (h.gone hin).2.1.resolve_left (Hub.livePositions_ne_nil hp)
  have hitem := h.retains.itemAt? hp
  rw [shown_eq_read h.hubs, h.length_received hp, ← hpulled, ← hitem]
  cases ha : hub.itemAt? position with
  | some a =>
    rw [Plant.read_buffered hhub hp ha]
    rfl
  | none =>
    rw [Plant.read_gone hhub hp ha hin]
    rfl

/-- A branch that finds something in the buffer does not ask the source. -/
lemma Inv.position_of_asks (h : Inv cells f hub source pulled)
    (hne : (f.act (.ask slot w)).asked ≠ f.asked) :
    hub.position? slot = some (hub.offset + hub.buffer.length) := by
  have hhub : f.plant.hubs[0]? = some hub := by rw [h.hubs]; rfl
  cases hp : hub.position? slot with
  | none =>
    rw [act_of_dead h.hubs (by simp [hp])] at hne
    exact absurd rfl hne
  | some position =>
    cases ha : hub.itemAt? position with
    | some a =>
      rw [act_ask h.hubs hp, Plant.read_buffered hhub hp ha] at hne
      exact absurd rfl hne
    | none => rw [Hub.itemAt?_eq_none h.retains.inBounds hp ha]

lemma Inv.asked_drop (h : Inv cells f hub source pulled) :
    (f.act (.drop slot)).asked = f.asked := by
  have hhub : f.plant.hubs[0]? = some hub := by rw [h.hubs]; rfl
  cases hp : hub.position? slot with
  | none => rw [act_of_dead h.hubs (by simp [hp])]
  | some position =>
    rw [act_drop h.hubs hp]
    by_cases hkeeps : (hub.drop slot).input = hub.input
    · rw [Plant.leave_of_keeps hhub hkeeps]
      rfl
    · have hdead : (hub.drop slot).livePositions = [] := by
        by_contra hlive
        obtain ⟨q, hq⟩ := List.exists_mem_of_ne_nil _ hlive
        obtain ⟨i, hi⟩ := Hub.mem_livePositions.1 hq
        exact hkeeps (Hub.drop_input_of_live hi)
      rw [Hub.drop, Hub.trim_livePositions] at hdead
      have hnone : (hub.drop slot).input = none := by rw [Hub.drop, Hub.trim_of_dead hdead]
      cases hin : hub.input with
      | none => exact absurd (hnone.trans hin.symm) hkeeps
      | some below =>
        obtain ⟨rfl, -⟩ := h.reading below hin
        have hrelease : Stage.releaseWith (Plant.leave 0)
            (f.plant.setHub 0 ((hub.drop slot).forgetOthers slot)) (.source 0) = _ :=
          Stage.releaseWith_source h.source_zero
        rw [Plant.leave_of_last hhub hin hnone, hrelease, asked, asked, Plant.wake_sources,
          Plant.setSource_sources, Plant.setHub_sources, h.sources]
        rfl

lemma Inv.replays (h : Inv cells f hub source pulled) : Replays cells f hub source where
  isPrefix slot := (h.isPrefix slot).trans h.pulled_isPrefix
  complete := h.complete
  failure := h.failure
  received_error := by
    intro taken hcells
    obtain ⟨taken', hcells', -, herr⟩ := h.taken
    have hsame : taken = taken' := List.append_cancel_right (hcells.symm.trans hcells')
    rw [hsame, herr]
  rest hin slot w hlive := h.shown_of_gone hin hlive
  position slot p hp := h.length_received hp
  bounds := h.retains.inBounds
  offset := h.retains.offset
  buffer := by
    intro hlive taken hcells
    obtain ⟨taken', hcells', hitems, -⟩ := h.taken
    have hsame : taken = taken' := List.append_cancel_right (hcells.symm.trans hcells')
    rw [hsame, hitems]
    exact (h.retains.buffer hlive).2
  abandoned := h.abandoned
  asks slot w hne := h.position_of_asks hne
  drops slot := h.asked_drop
  gone := by
    constructor
    · exact fun hin => (h.gone hin).2.2
    · intro hwhy
      by_contra hsome
      obtain ⟨below, hin⟩ := Option.ne_none_iff_exists'.1 hsome
      obtain ⟨-, -, -, -, hfail, hfin⟩ := h.reading below hin
      rcases hwhy with ⟨slot, hslot⟩ | hfailed | hdead
      · exact hfin slot hslot
      · exact hfailed hfail
      · exact hsome (h.abandoned hdead).2
  dropped := by
    constructor
    · exact fun hin => (h.gone hin).1
    · intro hsrc
      by_contra hsome
      obtain ⟨below, hin⟩ := Option.ne_none_iff_exists'.1 hsome
      rw [(h.reading below hin).2.1] at hsrc
      cases hsrc

end Events

/-! ## The beginning -/

/-- A fork that nothing has happened to. -/
lemma inv_start (cells : List (Cell α ε)) (closed : Bool) (count : Nat) :
    ∃ source, Inv cells (start cells closed count) (Hub.start (.source 0) count) source [] := by
  by_cases hcount : count = 0
  · subst hcount
    refine ⟨{ Source.start cells closed with isLive := false }, ?_⟩
    exact {
      hubs := rfl
      sources := rfl
      taken := ⟨[], rfl, rfl, rfl⟩
      retains := Hub.retains_start _ _
      abandoned := fun _ => ⟨rfl, rfl⟩
      reads := fun _ p _ => List.take_nil.symm
      isPrefix := fun _ => List.prefix_refl _
      pulled_isPrefix := List.nil_prefix
      reading := fun below hin => nomatch hin
      gone := fun _ => ⟨rfl, .inl rfl, .inr (.inr rfl)⟩
      complete := fun _ hi => nomatch hi
      failure := .inl rfl }
  · have hinput : (Hub.start (α := α) (Stage.source (α := α) (μ := Empty) 0) count).input =
        some (.source 0) := if_neg hcount
    have hfirst : (Hub.start (α := α) (Stage.source (α := α) (μ := Empty) 0) count).position? 0 =
        some 0 := by
      rw [Hub.position?_start, if_pos (by omega)]
    refine ⟨Source.start cells closed, ?_⟩
    exact {
      hubs := by rw [start, if_neg hcount]
      sources := by rw [start, if_neg hcount]
      taken := ⟨[], rfl, rfl, rfl⟩
      retains := Hub.retains_start _ _
      abandoned := fun hdead => absurd hdead (Hub.livePositions_ne_nil hfirst)
      reads := fun _ p _ => List.take_nil.symm
      isPrefix := fun _ => List.prefix_refl _
      pulled_isPrefix := List.nil_prefix
      reading := fun below hin => ⟨Option.some.inj (hin.symm.trans hinput), rfl, rfl, rfl, rfl,
        fun _ hi => nomatch hi⟩
      gone := fun hin => nomatch hinput.symm.trans hin
      complete := fun _ hi => nomatch hi
      failure := .inl rfl }

/-- Whatever is done to the branches of a hub over a source, in whatever order, they replay the
source. -/
theorem replays_run (cells : List (Cell α ε)) (closed : Bool) (count : Nat)
    (events : List BranchEvent) :
    ∃ hub source, ((start cells closed count).run events).plant.hubs = [hub] ∧
      ((start cells closed count).run events).plant.sources = [source] ∧
      Replays cells ((start cells closed count).run events) hub source := by
  obtain ⟨source, hstart⟩ := inv_start cells closed count
  obtain ⟨hub', source', pulled', h⟩ := hstart.run events
  exact ⟨hub', source', h.hubs, h.sources, h.replays⟩

end Fork
end SparqlStream
