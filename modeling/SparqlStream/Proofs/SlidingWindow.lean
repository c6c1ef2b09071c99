import Mathlib.Tactic
import SparqlStream.Proofs.Displacement
import SparqlStream.Proofs.Intake

/-!
# A window slides over its source

A sorter with a window shows one item for each that it takes, once its buffer is full.

`Intake.windowed_run` says what holds after every run of an intake with a sorter: what the buffer
holds and in which order, which item was chosen each time, and how far the sorter had read.  Items
are numbered by their arrival for this.  The proof carries `Buffering.Inv` through the steps of a
poll; as long as the source is read, every item that has been shown was chosen from as many items as
the window allows, so that later arrivals do not matter.
-/

namespace SparqlStream

variable {α ε : Type}

/-! ## Sorters on a source -/

namespace Intake

/-- A sorter on a source with some cells, before anybody has asked it. -/
def start (cmp : α → α → Ordering) (window : Window) (cells : List (Cell α ε)) (closed : Bool) :
    Intake α ε :=
  ⟨⟨[.start cells closed], [], [], []⟩, .operator (.sort (.start cmp window)) (.source 0), cells,
    []⟩

/-- The buffer.  The item that is shown next comes first. -/
def held (r : Intake α ε) : List α :=
  match r.stage with
  | .operator (.sort s) _ | .drained (.sort s) => s.held
  | _ => []

end Intake

/-- How many of `n` items a sorter has pulled when it shows an item after `i` others. -/
def Window.reach (window : Window) (n i : Nat) : Nat :=
  match window with
  | none => n
  | some w => min n (w.1 + i)

lemma Window.reach_eq {window : Window} {w : {n : Nat // 0 < n}} {n i : Nat} (hw : w ∈ window)
    (hle : w.1 + i ≤ n) : window.reach n i = w.1 + i := by
  obtain rfl := Option.mem_def.1 hw
  exact Nat.min_eq_right hle

/-- One of some items, numbered by their arrival, is the earliest one among the least of those that
have not been chosen yet. -/
structure IsChosen (cmp : α → α → Ordering) (items : List α) (chosen : List (α × Nat))
    (x : α × Nat) : Prop where
  mem : x ∈ items.zipIdx
  notMem : x ∉ chosen
  precedes : ∀ y ∈ items.zipIdx, y ∉ chosen → y = x ∨ Precedes cmp x y

/-- Each of some items is chosen from those that are within reach after the ones before it. -/
def AreChosen (cmp : α → α → Ordering) (window : Window) (items : List α)
    (shown : List (α × Nat)) : Prop :=
  ∀ i x, shown[i]? = some x →
    IsChosen cmp (items.take (window.reach items.length i)) (shown.take i) x

/-- What holds at any time of a sorter whose shown and buffered items are numbered by arrival. -/
structure Intake.Windowed (cmp : α → α → Ordering) (window : Window) (r : Intake α ε)
    (shown kept : List (α × Nat)) : Prop where
  emitted : r.emissions.map Prod.fst = shown.map Prod.fst
  held : r.held = kept.map Prod.fst
  /-- The buffer is in order, and among equal items an earlier one is shown first. -/
  sorted : kept.Pairwise (Precedes cmp)
  /-- The buffer holds at most as many items as the window has places. -/
  bounded : ∀ w ∈ window, kept.length ≤ w.1
  /-- Nothing that has been pulled is lost before there is an error. -/
  balance : ¬r.HasFailed → (shown ++ kept).Perm r.pulled.zipIdx
  /-- An error clears the buffer. -/
  cleared : r.HasFailed → kept = []
  /-- Each item is chosen from those within the reach of the window. -/
  chosen : AreChosen cmp window r.items shown
  /-- When an item is shown, exactly those within the reach of the window have been pulled. -/
  pulls : r.emissions.map Prod.snd =
    (List.range shown.length).map (window.reach r.items.length)
  /-- The sorter has never read further than its window reaches. -/
  ahead : ∀ w ∈ window, r.pulled.length ≤ w.1 + shown.length
  isPrefix : r.pulled <+: r.items
  /-- A poll does not go on forever. -/
  settles : ∀ w limit, r.left.length + 1 < limit →
    (Flow.poll limit (Outlet.mk r.plant r.stage w)).1 ≠ .again

/-! ## Steps of a sorter -/

/-- A source, the buffer on top of it, and whether the source is still read. -/
structure Buffering (α ε : Type) where
  source : Source α ε
  held : List α
  reads : Bool

namespace Buffering

variable {cmp : α → α → Ordering} {window : Window} {b b' : Buffering α ε} {w : Waker}
  {woken : List Waker} {signal : Signal α ε}

/-- The stage of a buffering. -/
def stage (cmp : α → α → Ordering) (window : Window) (b : Buffering α ε) : Stage α Empty :=
  if b.reads then .operator (.sort ⟨cmp, window, b.held⟩) (.source 0)
  else .drained (.sort ⟨cmp, window, b.held⟩)

/-- The outlet of a buffering. -/
def outlet (cmp : α → α → Ordering) (window : Window) (w : Waker) (woken : List Waker)
    (b : Buffering α ε) : Outlet α ε Empty :=
  ⟨⟨[b.source], [], [], woken⟩, b.stage cmp window, w⟩

/-- What a sorter does when it is asked once. -/
inductive Moves (cmp : α → α → Ordering) (window : Window) :
    Buffering α ε → Signal α ε → Buffering α ε → Prop
  | shows {src : Source α ε} {a : α} {held : List α} {reads : Bool} :
    (reads = true → (Sorter.mk cmp window (a :: held)).isFull = true) →
    Moves cmp window ⟨src, a :: held, reads⟩ (.item a) ⟨src, held, reads⟩
  | takes {src src' : Source α ε} {a : α} {held : List α} :
    (Sorter.mk cmp window held).isFull = false → src.cells = .item a :: src'.cells →
    src'.isLive = src.isLive →
    Moves cmp window ⟨src, held, true⟩ .again
      ⟨src', ((Sorter.mk cmp window held).insert a).held, true⟩
  | waits {src src' : Source α ε} {held : List α} :
    src.cells = .pause :: src'.cells ∨ src.cells = src'.cells → src'.isLive = src.isLive →
    Moves cmp window ⟨src, held, true⟩ .pending ⟨src', held, true⟩
  | fails {src src' : Source α ε} {e : ε} {held : List α} : src.cells = .fail e :: src'.cells →
    src'.isLive = false → Moves cmp window ⟨src, held, true⟩ (.fail e) ⟨src', [], false⟩
  | ends {src src' : Source α ε} {held : List α} : src.cells = [] → src'.cells = [] →
    src'.isLive = false → Moves cmp window ⟨src, held, true⟩ .again ⟨src', held, false⟩
  | finish {src : Source α ε} : Moves cmp window ⟨src, [], false⟩ .finish ⟨src, [], false⟩

section Step

variable {src src' : Source α ε} {held held' : List α} {shown : Signal α ε}

/-- A buffer that is not full asks the source. -/
lemma step_reads (woken : List Waker) (hfull : (Sorter.mk cmp window held).isFull = false)
    (hsrc : src.step w = (signal, src')) :
    let r : Reaction (Sorter α) α ε := (Sorter.mk cmp window held).react signal
    Flow.step (outlet cmp window w woken ⟨src, held, true⟩) =
      (r.shows, if r.keepsInput then
          ⟨⟨[src'], [], [], woken⟩, .operator (.sort r.state) (.source 0), w⟩
        else ⟨⟨[{ src' with isLive := false }], [], [], woken⟩, .drained (.sort r.state), w⟩) := by
  have hidle : ((Op.sort ⟨cmp, window, held⟩ : Op α Empty).idle true :
      Option (Reaction (Op α Empty) α ε)) = none := by
    rw [Op.idle, Sorter.idle_not_full (Bool.eq_false_iff.1 hfull), Option.map_none]
  exact Outlet.step_reads hidle hsrc

lemma step_keep (woken : List Waker) (hfull : (Sorter.mk cmp window held).isFull = false)
    (hsrc : src.step w = (signal, src'))
    (hr : (Sorter.mk cmp window held).react signal = .keep ⟨cmp, window, held'⟩ shown) :
    Flow.step (outlet cmp window w woken ⟨src, held, true⟩) =
      (shown, outlet cmp window w woken ⟨src', held', true⟩) := by
  have hstep := step_reads woken hfull hsrc
  rwa [hr] at hstep

lemma step_close (woken : List Waker) (hfull : (Sorter.mk cmp window held).isFull = false)
    (hsrc : src.step w = (signal, src'))
    (hr : (Sorter.mk cmp window held).react signal = .close ⟨cmp, window, held'⟩ shown) :
    Flow.step (outlet cmp window w woken ⟨src, held, true⟩) =
      (shown, outlet cmp window w woken ⟨{ src' with isLive := false }, held', false⟩) := by
  have hstep := step_reads woken hfull hsrc
  rwa [hr] at hstep

end Step

/-- A sorter makes one of these moves when it is asked. -/
lemma exists_moves (cmp : α → α → Ordering) (window : Window) (w : Waker) (woken : List Waker)
    (b : Buffering α ε) : ∃ signal b', Moves cmp window b signal b' ∧
      Flow.step (b.outlet cmp window w woken) = (signal, b'.outlet cmp window w woken) := by
  obtain ⟨src, held, reads⟩ := b
  cases reads with
  | false =>
    cases held with
    | nil => exact ⟨_, _, .finish, rfl⟩
    | cons a held => exact ⟨_, ⟨src, held, false⟩, .shows (fun h => by cases h), rfl⟩
  | true =>
    cases hfull : (Sorter.mk cmp window held).isFull with
    | true =>
      cases held with
      | nil => rw [Sorter.isFull_of_held_eq_nil rfl] at hfull; cases hfull
      | cons a held =>
        have hidle := Sorter.idle_full (ε := ε) hfull
        refine ⟨_, ⟨src, held, true⟩, .shows fun _ => hfull, ?_⟩
        show Outlet.step _ = _
        simp only [Outlet.step, outlet, stage, if_true, Plant.step, Stage.stepWith, Op.idle, hidle]
        rfl
    | false =>
      cases hc : src.cells with
      | nil =>
        cases hclosed : src.closed with
        | true =>
          have hsrc := Source.step_closed (w := w) hc hclosed
          refine ⟨_, _, ?_, step_close woken hfull hsrc rfl⟩
          exact .ends hc hc rfl
        | false =>
          have hsrc := Source.step_open (w := w) hc hclosed
          refine ⟨_, _, ?_, step_keep woken hfull hsrc rfl⟩
          exact .waits (.inr rfl) rfl
      | cons c rest =>
        cases c with
        | item a =>
          have hsrc := Source.step_item (w := w) hc
          refine ⟨_, _, ?_, step_keep woken hfull hsrc rfl⟩
          exact .takes hfull hc rfl
        | fail e =>
          have hsrc := Source.step_fail (w := w) hc
          refine ⟨_, _, ?_, step_close woken hfull hsrc rfl⟩
          exact .fails hc rfl
        | pause =>
          have hsrc := Source.step_pause (w := w) hc
          refine ⟨_, _, ?_, step_keep woken hfull hsrc rfl⟩
          exact .waits (.inl hc) rfl

/-! ## The invariant -/

/-- The invariant of a buffering as long as there is no error, with the items that have been shown
and those that are held, all numbered by their arrival. -/
structure Inv (cmp : α → α → Ordering) (window : Window) (given : List (Cell α ε))
    (shown kept : List (α × Nat)) (b : Buffering α ε) : Prop where
  held : b.held = kept.map Prod.fst
  live : b.source.isLive = b.reads
  sorted : kept.Pairwise (Precedes cmp)
  bounded : ∀ w ∈ window, kept.length ≤ w.1
  taken : ∃ taken, given = taken ++ b.source.cells ∧
    (shown ++ kept).Perm (Cell.items taken).zipIdx
  ended : b.reads = false → b.source.cells = []
  /-- Once an item has been shown, the buffer is at most one item short. -/
  early : b.reads = true → shown ≠ [] → ∃ w ∈ window, w.1 ≤ kept.length + 1
  chosen : AreChosen cmp window (Cell.items given) shown

/-- What holds of a buffering after an error. -/
structure Cleared (cmp : α → α → Ordering) (window : Window) (given : List (Cell α ε))
    (shown : List (α × Nat)) (b : Buffering α ε) : Prop where
  held : b.held = []
  reads : b.reads = false
  live : b.source.isLive = false
  taken : ∃ taken, given = taken ++ b.source.cells ∧
    ∀ w ∈ window, (Cell.items taken).length ≤ w.1 + shown.length
  chosen : AreChosen cmp window (Cell.items given) shown

/-- What holds after a signal. -/
inductive After (cmp : α → α → Ordering) (window : Window) (given : List (Cell α ε))
    (shown : List (α × Nat)) : Signal α ε → Buffering α ε → Prop
  | item {b : Buffering α ε} (x : α × Nat) (kept : List (α × Nat)) :
    Inv cmp window given (shown ++ [x]) kept b →
    shown.length + (kept.length + 1) = window.reach (Cell.items given).length shown.length →
    After cmp window given shown (.item x.1) b
  | fail {b : Buffering α ε} (e : ε) : Cleared cmp window given shown b →
    After cmp window given shown (.fail e) b
  | quiet {b : Buffering α ε} {signal : Signal α ε} (kept : List (α × Nat)) :
    signal.item? = none → signal.error? = none → Inv cmp window given shown kept b →
    After cmp window given shown signal b

section Inv

variable {given : List (Cell α ε)} {shown kept : List (α × Nat)} {x : α × Nat}

lemma areChosen_concat {items : List α} (h : AreChosen cmp window items shown)
    (hx : IsChosen cmp (items.take (window.reach items.length shown.length)) shown x) :
    AreChosen cmp window items (shown ++ [x]) := by
  intro i y hy
  rcases Nat.lt_trichotomy i shown.length with hlt | rfl | hgt
  · rw [List.getElem?_append_left hlt] at hy
    rw [List.take_append_of_le_length hlt.le]
    exact h i y hy
  · rw [List.getElem?_concat_length] at hy
    obtain rfl := Option.some.inj hy
    rwa [List.take_left]
  · rw [List.getElem?_eq_none (by simp; omega)] at hy
    cases hy

/-- The first of the items that are held is chosen among all that have been pulled. -/
lemma isChosen_of_perm {pulled : List α} (hperm : (shown ++ x :: kept).Perm pulled.zipIdx)
    (hsorted : (x :: kept).Pairwise (Precedes cmp)) : IsChosen cmp pulled shown x := by
  have hnodup := hperm.nodup_iff.2 (nodup_zipIdx pulled)
  refine ⟨hperm.mem_iff.1 (by simp), fun hx => ?_, fun y hy hshown => ?_⟩
  · exact (List.nodup_append.1 hnodup).2.2 x hx x List.mem_cons_self rfl
  · rcases List.mem_append.1 (hperm.mem_iff.2 hy) with hy | hy
    · exact absurd hy hshown
    · exact (List.mem_cons.1 hy).imp_right (List.rel_of_pairwise_cons hsorted)

/-- What is held has been pulled from those items that are within reach. -/
lemma Inv.length_eq_reach {src : Source α ε} {held : List α} {reads : Bool}
    (h : Inv cmp window given shown (x :: kept) ⟨src, held, reads⟩)
    (hfull : reads = true → (Sorter.mk cmp window held).isFull = true) :
    shown.length + (kept.length + 1) = window.reach (Cell.items given).length shown.length := by
  obtain ⟨taken, hgiven, hperm⟩ := h.taken
  have hpulled := hperm.length_eq
  rw [List.length_append, List.length_cons, List.length_zipIdx] at hpulled
  have hle := (Cell.items_isPrefix hgiven).length_le
  cases reads with
  | true =>
    have hlen := congrArg List.length h.held
    cases window with
    | none => cases hfull rfl
    | some w =>
      have hwindow := of_decide_eq_true (hfull rfl)
      have hbound := h.bounded w rfl
      simp only [List.length_map, List.length_cons] at hlen hwindow hbound
      rw [Window.reach, Nat.min_eq_right (by omega)]
      omega
  | false =>
    have hall : given = taken := by rw [hgiven, h.ended rfl, List.append_nil]
    cases window with
    | none => rw [Window.reach, hall, hpulled]
    | some w =>
      have hbound := h.bounded w rfl
      rw [List.length_cons] at hbound
      rw [Window.reach, hall, Nat.min_eq_left (by omega), hpulled]

lemma Inv.shows {src : Source α ε} {a : α} {held : List α} {reads : Bool}
    (h : Inv cmp window given shown kept ⟨src, a :: held, reads⟩)
    (hfull : reads = true → (Sorter.mk cmp window (a :: held)).isFull = true) :
    After cmp window given shown (.item a) ⟨src, held, reads⟩ := by
  obtain ⟨x, kept, rfl, rfl, rfl⟩ := List.map_eq_cons_iff.1 h.held.symm
  have hreach := h.length_eq_reach hfull
  obtain ⟨taken, hgiven, hperm⟩ := h.taken
  refine .item x kept ⟨rfl, h.live, h.sorted.of_cons, fun w hw => ?_, ⟨taken, hgiven, ?_⟩, h.ended,
    fun hreads _ => ?_, areChosen_concat h.chosen ?_⟩ hreach
  · exact (Nat.le_succ _).trans (h.bounded w hw)
  · rwa [List.append_assoc, List.singleton_append]
  · cases window with
    | none => cases hfull hreads
    | some w => exact ⟨w, rfl, by simpa using of_decide_eq_true (hfull hreads)⟩
  · have hpulled := hperm.length_eq
    rw [List.length_append, List.length_cons, List.length_zipIdx] at hpulled
    rw [← hreach, hpulled, ← List.prefix_iff_eq_take.1 (Cell.items_isPrefix hgiven)]
    exact isChosen_of_perm hperm h.sorted

/-- A sorter puts an item that arrives last between those that go before it and those that go after
it. -/
lemma exists_insert_numbered (window : Window)
    (horder : TotalPreorderOn cmp (kept.map Prod.fst ++ [x.1]))
    (hsorted : kept.Pairwise (Precedes cmp)) (hlast : ∀ y ∈ kept, y.2 < x.2) :
    ∃ kept' : List (α × Nat),
      ((Sorter.mk cmp window (kept.map Prod.fst)).insert x.1).held = kept'.map Prod.fst ∧
      kept'.Perm (x :: kept) ∧ kept'.Pairwise (Precedes cmp) := by
  have hpair : (kept.map Prod.fst).Pairwise fun b c => (cmp b c).isLE = true := by
    rw [List.pairwise_map]
    exact hsorted.imp Precedes.isLE
  obtain ⟨low, high, hsplit, hlow, hhigh⟩ := Sorter.exists_split horder hpair
  obtain ⟨before, after, rfl, rfl, rfl⟩ := List.map_eq_append_iff.1 hsplit
  obtain ⟨hbefore, hafter, hacross⟩ := List.pairwise_append.1 hsorted
  refine ⟨before ++ x :: after, ?_, List.perm_middle, List.pairwise_append.2
    ⟨hbefore, List.pairwise_cons.2 ⟨fun y hy => .inl ?_, hafter⟩, fun y hy z hz => ?_⟩⟩
  · rw [hsplit, Sorter.insert_eq hlow hhigh, List.map_append, List.map_cons]
  · rw [horder.swap y.1 (by simp; grind) x.1 (by simp), hhigh y.1 (List.mem_map_of_mem hy)]
    rfl
  · rcases List.mem_cons.1 hz with rfl | hz
    · have hnot := hlow y.1 (List.mem_map_of_mem hy)
      cases hcmp : cmp y.1 z.1 with
      | lt => exact .inl hcmp
      | eq => exact .inr ⟨hcmp, hlast y (List.mem_append_left _ hy)⟩
      | gt => exact absurd hcmp hnot
    · exact hacross y hy z hz

/-- Taking an item from the source. -/
lemma Inv.takes {src src' : Source α ε} {a : α} {held : List α}
    (horder : TotalPreorderOn cmp (Cell.items given))
    (h : Inv cmp window given shown kept ⟨src, held, true⟩)
    (hfull : (Sorter.mk cmp window held).isFull = false) (hc : src.cells = .item a :: src'.cells)
    (hlive : src'.isLive = src.isLive) :
    ∃ kept', Inv cmp window given shown kept'
      ⟨src', ((Sorter.mk cmp window held).insert a).held, true⟩ := by
  obtain rfl : held = kept.map Prod.fst := h.held
  obtain ⟨taken, hgiven, hperm⟩ := h.taken
  dsimp only at hgiven
  rw [hc, List.append_cons] at hgiven
  have hitems : Cell.items (taken ++ [(.item a : Cell α ε)]) = Cell.items taken ++ [a] :=
    Cell.items_append _ _
  have hkept : ∀ y ∈ kept, (Cell.items taken)[y.2]? = some y.1 := fun y hy =>
    List.mem_zipIdx_iff_getElem?.1 (hperm.mem_iff.1 (List.mem_append_right _ hy))
  have hsub : ∀ b ∈ kept.map Prod.fst ++ [a], b ∈ Cell.items given := by
    intro b hb
    refine (Cell.items_isPrefix hgiven).subset ?_
    rw [hitems]
    refine (List.mem_append.1 hb).elim (fun hb => ?_) (List.mem_append_right _)
    obtain ⟨y, hy, rfl⟩ := List.mem_map.1 hb
    exact List.mem_append_left _ (List.mem_of_getElem? (hkept y hy))
  obtain ⟨kept', hheld, hkept', hsorted⟩ := exists_insert_numbered window
    (x := (a, (Cell.items taken).length)) (horder.subset hsub) h.sorted fun y hy =>
      (List.getElem?_eq_some_iff.1 (hkept y hy)).1
  have hlength : kept'.length = kept.length + 1 := by rw [hkept'.length_eq, List.length_cons]
  refine ⟨kept', hheld, hlive.trans h.live, hsorted, fun w hw => ?_, ⟨_, hgiven, ?_⟩,
    (fun h => by cases h), fun hreads hshown => ?_, h.chosen⟩
  · obtain rfl := hw
    have hspace := of_decide_eq_false hfull
    simp only [List.length_map] at hspace
    omega
  · rw [hitems, List.zipIdx_append, Nat.zero_add]
    refine (hkept'.append_left shown).trans (List.perm_middle.trans ?_)
    exact ((List.perm_cons _).2 hperm).trans (List.perm_append_singleton _ _).symm
  · obtain ⟨w, hw, hle⟩ := h.early rfl hshown
    exact ⟨w, hw, by omega⟩

/-- Nothing changes if the source loses cells that are no items. -/
lemma Inv.setSource {src src' : Source α ε} {held : List α} {reads reads' : Bool}
    (passed : List (Cell α ε)) (h : Inv cmp window given shown kept ⟨src, held, reads⟩)
    (hc : src.cells = passed ++ src'.cells) (hpassed : Cell.items passed = [])
    (hlive : src'.isLive = reads') (hreads : reads' = true → reads = true)
    (hended : reads' = false → src'.cells = []) :
    Inv cmp window given shown kept ⟨src', held, reads'⟩ := by
  obtain ⟨taken, hgiven, hperm⟩ := h.taken
  refine ⟨h.held, hlive, h.sorted, h.bounded, ⟨taken ++ passed, ?_, ?_⟩, hended,
    fun hread => h.early (hreads hread), h.chosen⟩
  · rw [List.append_assoc, ← hc]
    exact hgiven
  · rwa [Cell.items_append, hpassed, List.append_nil]

/-- A step of a sorter keeps the invariant. -/
lemma Inv.after (horder : TotalPreorderOn cmp (Cell.items given))
    (h : Inv cmp window given shown kept b) (hmove : Moves cmp window b signal b') :
    After cmp window given shown signal b' := by
  cases hmove with
  | shows hfull => exact h.shows hfull
  | takes hfull hc hlive =>
    obtain ⟨kept', h'⟩ := h.takes horder hfull hc hlive
    exact .quiet kept' rfl rfl h'
  | @waits src src' held hc hlive =>
    have hlive' : src'.isLive = true := hlive.trans h.live
    refine .quiet kept rfl rfl ?_
    rcases hc with hc | hc
    · exact h.setSource [.pause] hc rfl hlive' id fun h => by cases h
    · exact h.setSource [] hc rfl hlive' id fun h => by cases h
  | @fails src src' e held hc hlive =>
    obtain ⟨taken, hgiven, hperm⟩ := h.taken
    refine .fail e ⟨rfl, rfl, hlive, ⟨taken ++ [.fail e], ?_, fun w hw => ?_⟩, h.chosen⟩
    · rw [hgiven, List.append_assoc, List.singleton_append, ← hc]
    · have hpulled := hperm.length_eq
      have hbound := h.bounded w hw
      rw [List.length_append, List.length_zipIdx] at hpulled
      rw [Cell.items_append, List.length_append]
      simp only [Cell.items, List.length_nil]
      omega
  | ends hc hc' hlive =>
    refine .quiet kept rfl rfl ?_
    exact h.setSource [] (hc.trans hc'.symm) rfl hlive (fun h => by cases h)
      fun _ => hc'
  | finish => exact .quiet kept rfl rfl h

/-- A poll keeps the invariant. -/
lemma Inv.poll (horder : TotalPreorderOn cmp (Cell.items given)) (w : Waker) (woken : List Waker)
    (limit : Nat) (h : Inv cmp window given shown kept b) :
    ∃ signal b', Flow.poll limit (b.outlet cmp window w woken) =
      (signal, b'.outlet cmp window w woken) ∧ After cmp window given shown signal b' := by
  induction limit generalizing b kept with
  | zero => exact ⟨_, b, rfl, .quiet kept rfl rfl h⟩
  | succ limit ih =>
    obtain ⟨signal, b', hmove, hstep⟩ := b.exists_moves cmp window w woken
    have hafter := h.after horder hmove
    rw [Flow.poll, hstep]
    cases hafter with
    | item x kept' h' hreach => exact ⟨_, b', rfl, .item x kept' h' hreach⟩
    | fail e h' => exact ⟨_, b', rfl, .fail e h'⟩
    | quiet kept' hitem herror h' =>
      cases signal with
      | again => exact ih h'
      | item | fail | finish | pending => exact ⟨_, b', rfl, .quiet kept' hitem herror h'⟩

/-- After an error nothing happens any more. -/
lemma Cleared.poll (h : Cleared cmp window given shown b) (w : Waker) (woken : List Waker)
    (limit : Nat) : ∃ signal, Flow.poll limit (b.outlet cmp window w woken) =
      ((signal : Signal α ε), b.outlet cmp window w woken) ∧ signal.item? = none := by
  obtain ⟨src, held, reads⟩ := b
  obtain rfl : held = [] := h.held
  obtain rfl : reads = false := h.reads
  cases limit with
  | zero => exact ⟨_, rfl, rfl⟩
  | succ limit => exact ⟨.finish, rfl, rfl⟩

/-- Each step that shows nothing takes a cell or lets go of the source. -/
lemma poll_ne_again (cmp : α → α → Ordering) (window : Window) (w : Waker) (woken : List Waker)
    {limit : Nat} (hlimit : b.source.cells.length + b.reads.toNat < limit) :
    (Flow.poll limit (b.outlet cmp window w woken)).1 ≠ .again := by
  induction limit generalizing b with
  | zero => cases hlimit
  | succ limit ih =>
    obtain ⟨signal, b', hmove, hstep⟩ := b.exists_moves cmp window w woken
    rw [Flow.poll, hstep]
    cases hmove with
    | takes _ hc _ =>
      rw [hc, List.length_cons] at hlimit
      exact ih (Nat.lt_of_succ_lt_succ (by simpa [Nat.add_right_comm] using hlimit))
    | ends _ hc' _ =>
      refine ih ?_
      simp only [hc', List.length_nil, Bool.toNat_false, Bool.toNat_true] at hlimit ⊢
      omega
    | shows | waits | fails | finish => exact nofun

/-- Items that arrive later do not matter for those that have been chosen. -/
lemma areChosen_append {items : List α} (more : List α) (h : AreChosen cmp window items shown)
    (hreach : ∀ i < shown.length, ∃ w ∈ window, w.1 + i ≤ items.length) :
    AreChosen cmp window (items ++ more) shown := by
  intro i x hx
  obtain ⟨w, hw, hle⟩ := hreach i (List.getElem?_eq_some_iff.1 hx).1
  have hmore : w.1 + i ≤ (items ++ more).length := by
    rw [List.length_append]
    omega
  have hchosen := h i x hx
  rw [Window.reach_eq hw hle] at hchosen
  rwa [Window.reach_eq hw hmore, List.take_append_of_le_length hle]

/-- As long as the source is read, all items that have been shown were within reach. -/
lemma Inv.reaches (h : Inv cmp window given shown kept b) (hreads : b.reads = true) :
    ∀ i < shown.length, ∃ w ∈ window, w.1 + i ≤ (Cell.items given).length := by
  intro i hi
  obtain ⟨w, hw, hle⟩ := h.early hreads (List.ne_nil_of_length_pos (Nat.zero_lt_of_lt hi))
  obtain ⟨taken, hgiven, hperm⟩ := h.taken
  have hpulled := hperm.length_eq
  rw [List.length_append, List.length_zipIdx] at hpulled
  have hprefix := (Cell.items_isPrefix hgiven).length_le
  exact ⟨w, hw, by omega⟩

/-- The source is given one more cell. -/
lemma Inv.push {src : Source α ε} {held : List α}
    (h : Inv cmp window given shown kept ⟨src, held, true⟩) (c : Cell α ε) :
    Inv cmp window (given ++ [c]) shown kept ⟨{ src.push c with waker := none }, held, true⟩ := by
  obtain ⟨taken, hgiven, hperm⟩ := h.taken
  refine ⟨h.held, h.live, h.sorted, h.bounded, ⟨taken, ?_, hperm⟩, (fun h => by cases h), h.early,
    ?_⟩
  · show given ++ [c] = taken ++ (src.cells ++ [c])
    rw [← List.append_assoc]
    exact congrArg (· ++ [c]) hgiven
  · rw [Cell.items_append]
    exact areChosen_append _ h.chosen (h.reaches rfl)

end Inv

end Buffering

/-! ## Runs -/

namespace Intake

open Buffering

variable {cmp : α → α → Ordering} {window : Window} {r : Intake α ε} {shown kept : List (α × Nat)}
  {b : Buffering α ε}

/-- The invariant of an intake. -/
structure Inv (cmp : α → α → Ordering) (window : Window) (r : Intake α ε)
    (shown kept : List (α × Nat)) (b : Buffering α ε) : Prop where
  plant : ∃ woken, r.plant = ⟨[b.source], [], [], woken⟩
  stage : r.stage = b.stage cmp window
  emitted : r.emissions.map Prod.fst = shown.map Prod.fst
  pulls : r.emissions.map Prod.snd =
    (List.range shown.length).map (window.reach r.items.length)
  state : ¬r.HasFailed ∧ b.Inv cmp window r.given shown kept ∨
    r.HasFailed ∧ kept = [] ∧ b.Cleared cmp window r.given shown

lemma inv_start (cmp : α → α → Ordering) (window : Window) (cells : List (Cell α ε))
    (closed : Bool) :
    (start cmp window cells closed).Inv cmp window [] [] ⟨.start cells closed, [], true⟩ where
  plant := ⟨[], rfl⟩
  stage := rfl
  emitted := rfl
  pulls := rfl
  state := by
    refine .inl ⟨fun ⟨_, _, he⟩ => (List.not_mem_nil he).elim, rfl, rfl, .nil,
      fun w _ => Nat.zero_le _, ⟨[], rfl, .refl _⟩, (fun h => by cases h),
      fun _ h => absurd rfl h, fun i x hx => ?_⟩
    cases hx

lemma Inv.left_eq (h : r.Inv cmp window shown kept b) : r.left = b.source.cells := by
  obtain ⟨woken, hplant⟩ := h.plant
  exact Intake.left_eq hplant

lemma Inv.isRead_eq (h : r.Inv cmp window shown kept b) : r.isRead = b.source.isLive := by
  obtain ⟨woken, hplant⟩ := h.plant
  exact Intake.isRead_eq hplant

lemma Inv.outlet_eq (h : r.Inv cmp window shown kept b) (w : Waker) :
    ∃ woken, Outlet.mk r.plant r.stage w = b.outlet cmp window w woken := by
  obtain ⟨woken, hplant⟩ := h.plant
  exact ⟨woken, by rw [hplant, h.stage, outlet]⟩

/-- The intake after something has been shown. -/
def showing (r : Intake α ε) (cmp : α → α → Ordering) (window : Window) (woken : List Waker)
    (b : Buffering α ε) (signal : Signal α ε) (n : Nat) : Intake α ε :=
  ⟨⟨[b.source], [], [], woken⟩, b.stage cmp window, r.given, r.log ++ [(signal, n)]⟩

section Showing

variable {woken : List Waker} {b' : Buffering α ε} {signal : Signal α ε} {w : Waker} {limit n : Nat}
  {kept' : List (α × Nat)}

lemma act_poll {taken : List (Cell α ε)}
    (hpoll : Flow.poll limit (Outlet.mk r.plant r.stage w) =
      (signal, b'.outlet cmp window w woken))
    (hgiven : r.given = taken ++ b'.source.cells) : r.act (.poll w limit) =
      r.showing cmp window woken b' signal (Cell.items taken).length := by
  have hpulled : pulled ⟨⟨[b'.source], [], [], woken⟩, b'.stage cmp window, r.given, r.log⟩ =
      Cell.items taken := pulled_eq rfl hgiven
  rw [act, hpoll, showing, ← hpulled]
  rfl

lemma emissions_showing : (r.showing cmp window woken b' signal n).emissions =
    r.emissions ++ (signal.item?.map (·, n)).toList := by
  rw [emissions, showing, List.filterMap_append, emissions]
  cases hitem : signal.item? <;> simp [hitem]

lemma hasFailed_showing : (r.showing cmp window woken b' signal n).HasFailed ↔
    r.HasFailed ∨ ∃ e, signal = .fail e := by
  simp only [HasFailed, showing, List.mem_append, List.mem_singleton, Prod.mk.injEq]
  grind

/-- A signal without an item leaves what has been shown as it is. -/
lemma Inv.showing_of_item?_eq_none (h : r.Inv cmp window shown kept b) (woken : List Waker)
    (n : Nat) (hitem : signal.item? = none)
    (hstate : ¬(r.HasFailed ∨ ∃ e, signal = .fail e) ∧ b'.Inv cmp window r.given shown kept' ∨
      (r.HasFailed ∨ ∃ e, signal = .fail e) ∧ kept' = [] ∧ b'.Cleared cmp window r.given shown) :
    (r.showing cmp window woken b' signal n).Inv cmp window shown kept' b' := by
  have hsame : (r.showing cmp window woken b' signal n).emissions = r.emissions := by
    rw [emissions_showing, hitem]
    exact List.append_nil _
  refine ⟨⟨woken, rfl⟩, rfl, hsame ▸ h.emitted, hsame ▸ h.pulls, ?_⟩
  rw [hasFailed_showing]
  exact hstate

/-- A poll keeps the invariant. -/
lemma Inv.poll (horder : TotalPreorderOn cmp r.items) (h : r.Inv cmp window shown kept b)
    (w : Waker) (limit : Nat) :
    ∃ shown' kept' b', (r.act (.poll w limit)).Inv cmp window shown' kept' b' := by
  obtain ⟨woken, houtlet⟩ := h.outlet_eq w
  rcases h.state with ⟨hfailed, hinv⟩ | ⟨hfailed, hkept, hcleared⟩
  · obtain ⟨signal, b', hpoll, hafter⟩ := hinv.poll horder w woken limit
    rw [← houtlet] at hpoll
    cases hafter with
    | item x kept' h' hreach =>
      obtain ⟨taken, hgiven, hperm⟩ := h'.taken
      have hpulled := hperm.length_eq
      rw [List.length_append, List.length_append, List.length_zipIdx, List.length_singleton,
        Nat.add_assoc, Nat.add_comm 1] at hpulled
      rw [act_poll hpoll hgiven, ← hpulled, hreach]
      refine ⟨shown ++ [x], kept', b', ⟨woken, rfl⟩, rfl, ?_, ?_, .inl ⟨?_, h'⟩⟩
      · rw [emissions_showing, List.map_append, h.emitted, List.map_append]
        rfl
      · rw [emissions_showing, List.map_append, h.pulls, List.length_append, List.length_singleton,
          List.range_succ, List.map_append]
        rfl
      · rw [hasFailed_showing]
        rintro (hold | ⟨e, he⟩)
        · exact hfailed hold
        · cases he
    | fail e h' =>
      obtain ⟨taken, hgiven, -⟩ := h'.taken
      rw [act_poll hpoll hgiven]
      exact ⟨shown, [], b', h.showing_of_item?_eq_none woken _ rfl (.inr ⟨.inr ⟨e, rfl⟩, rfl, h'⟩)⟩
    | quiet kept' hitem herror h' =>
      obtain ⟨taken, hgiven, -⟩ := h'.taken
      rw [act_poll hpoll hgiven]
      refine ⟨shown, kept', b', h.showing_of_item?_eq_none woken _ hitem (.inl ⟨?_, h'⟩)⟩
      rintro (hold | ⟨e, rfl⟩)
      · exact hfailed hold
      · cases herror
  · obtain ⟨signal, hpoll, hitem⟩ := hcleared.poll w woken limit
    obtain ⟨taken, hgiven, -⟩ := hcleared.taken
    rw [← houtlet] at hpoll
    rw [act_poll (hpoll.trans (by rw [houtlet])) hgiven]
    exact ⟨shown, [], b, h.showing_of_item?_eq_none woken _ hitem
      (.inr ⟨.inl hfailed, rfl, hcleared⟩)⟩

end Showing

/-- The source is filled from outside. -/
lemma Inv.push (h : r.Inv cmp window shown kept b) (c : Cell α ε) :
    ∃ b', (r.act (.push c)).Inv cmp window shown kept b' := by
  rw [act, h.isRead_eq]
  cases hlive : b.source.isLive with
  | false => exact ⟨b, h⟩
  | true =>
    obtain ⟨src, held, reads⟩ := b
    obtain ⟨woken, hplant⟩ := h.plant
    rcases h.state with ⟨hfailed, hinv⟩ | ⟨-, -, hcleared⟩
    · obtain rfl : true = reads := hlive.symm.trans hinv.live
      refine ⟨⟨{ src.push c with waker := none }, held, true⟩,
        ⟨src.waker.toList.reverse ++ woken, ?_⟩, h.stage, h.emitted, h.pulls.trans ?_,
        .inl ⟨hfailed, hinv.push c⟩⟩
      · rw [if_pos rfl, hplant]
        rfl
      · refine List.map_congr_left fun i hi => ?_
        obtain ⟨w, hw, hle⟩ := hinv.reaches rfl i (List.mem_range.1 hi)
        have hmore : w.1 + i ≤ (Cell.items (r.given ++ [c])).length := by
          rw [Cell.items_append, List.length_append]
          omega
        exact (Window.reach_eq hw hle).trans (Window.reach_eq hw hmore).symm
    · rw [hcleared.live] at hlive
      cases hlive

/-- The source is closed from outside. -/
lemma Inv.close (h : r.Inv cmp window shown kept b) :
    ∃ b', (r.act .close).Inv cmp window shown kept b' := by
  obtain ⟨src, held, reads⟩ := b
  obtain ⟨woken, hplant⟩ := h.plant
  refine ⟨⟨{ src.close with waker := none }, held, reads⟩, ⟨src.waker.toList.reverse ++ woken, ?_⟩,
    h.stage, h.emitted, h.pulls, ?_⟩
  · rw [act, hplant]
    rfl
  · rcases h.state with ⟨hfailed, hinv⟩ | ⟨hfailed, hkept, hcleared⟩
    · exact .inl ⟨hfailed, hinv.setSource [] rfl rfl hinv.live id hinv.ended⟩
    · exact .inr ⟨hfailed, hkept, hcleared.held, hcleared.reads, hcleared.live, hcleared.taken,
        hcleared.chosen⟩

lemma Inv.act (horder : TotalPreorderOn cmp r.items) (h : r.Inv cmp window shown kept b)
    (e : IntakeEvent α ε) : ∃ shown' kept' b', (r.act e).Inv cmp window shown' kept' b' := by
  cases e with
  | poll w limit => exact h.poll horder w limit
  | push c => exact ⟨shown, kept, h.push c⟩
  | close => exact ⟨shown, kept, h.close⟩

lemma Inv.run (events : List (IntakeEvent α ε))
    (horder : TotalPreorderOn cmp (r.run events).items) (h : r.Inv cmp window shown kept b) :
    ∃ shown' kept' b', (r.run events).Inv cmp window shown' kept' b' := by
  induction events generalizing r shown kept b with
  | nil => exact ⟨shown, kept, b, h⟩
  | cons e events ih =>
    have hsub := (r.items_run_isPrefix (e :: events)).subset
    obtain ⟨shown', kept', b', h'⟩ := h.act (horder.subset hsub) e
    exact ih horder h'

lemma Inv.held_eq (h : r.Inv cmp window shown kept b) : r.held = b.held := by
  rw [held, h.stage, Buffering.stage]
  cases b.reads <;> rfl

/-- The invariant says what holds at any time. -/
lemma Inv.windowed (h : r.Inv cmp window shown kept b) : r.Windowed cmp window shown kept := by
  have hsettles : ∀ w limit, r.left.length + 1 < limit →
      (Flow.poll limit (Outlet.mk r.plant r.stage w)).1 ≠ .again := by
    intro w limit hlimit
    obtain ⟨woken, houtlet⟩ := h.outlet_eq w
    rw [houtlet]
    refine poll_ne_again cmp window w woken (lt_of_le_of_lt ?_ hlimit)
    rw [h.left_eq]
    exact Nat.add_le_add_left (Bool.toNat_le _) _
  obtain ⟨woken, hplant⟩ := h.plant
  rcases h.state with ⟨hfailed, hinv⟩ | ⟨hfailed, rfl, hcleared⟩
  · obtain ⟨taken, hgiven, hperm⟩ := hinv.taken
    have hpulled := pulled_eq hplant hgiven
    have hlength := hperm.length_eq
    rw [List.length_append, List.length_zipIdx, ← hpulled] at hlength
    refine ⟨h.emitted, h.held_eq.trans hinv.held, hinv.sorted, hinv.bounded,
      fun _ => hpulled ▸ hperm, fun hfail => absurd hfail hfailed, hinv.chosen, h.pulls,
      fun w hw => ?_, r.pulled_isPrefix, hsettles⟩
    have hbound := hinv.bounded w hw
    omega
  · obtain ⟨taken, hgiven, hahead⟩ := hcleared.taken
    have hpulled := pulled_eq hplant hgiven
    exact ⟨h.emitted, h.held_eq.trans hcleared.held, .nil, fun w _ => Nat.zero_le _,
      fun hnot => absurd hfailed hnot, fun _ => rfl, hcleared.chosen, h.pulls, hpulled ▸ hahead,
      r.pulled_isPrefix, hsettles⟩

/-- Whatever is done to a sorter and its source, the buffer is in order and within the window, each
item is the least one of those within the window that are left, and nothing beyond the window has
been read. -/
theorem windowed_run (cmp : α → α → Ordering) (window : Window) (cells : List (Cell α ε))
    (closed : Bool) (events : List (IntakeEvent α ε))
    (horder : TotalPreorderOn cmp ((start cmp window cells closed).run events).items) :
    ∃ shown kept, ((start cmp window cells closed).run events).Windowed cmp window shown kept := by
  obtain ⟨shown, kept, b, h⟩ := (inv_start cmp window cells closed).run events horder
  exact ⟨shown, kept, h.windowed⟩

/-- What is done to a sorter whose source is filled while it is polled. -/
def sampleEvents : List (IntakeEvent Nat String) :=
  [.poll "" 9, .push (.item 31), .push (.item 12), .poll "" 9, .poll "" 9, .push (.fail "broken"),
    .push (.item 1), .poll "" 9, .poll "" 9]

/-- A sorter that compares the tens, with a window of two. -/
def sample : Intake Nat String :=
  (start Outlet.compareTens (some ⟨2, by decide⟩) [.item 32] false).run sampleEvents

/-- Of two equal items in the buffer the one that arrived first is shown first, although a lesser
one is already there to be read.  Nothing behind the error is read. -/
theorem windowed_run_sample :
    TotalPreorderOn Outlet.compareTens sample.items ∧
      sample.log =
        [(.pending, 1), (.item 32, 2), (.item 12, 3), (.fail "broken", 3), (.finish, 3)] ∧
      ∃ shown kept, sample.Windowed Outlet.compareTens (some ⟨2, by decide⟩) shown kept := by
  have hlog : sample.log =
      [(.pending, 1), (.item 32, 2), (.item 12, 3), (.fail "broken", 3), (.finish, 3)] := by
    cbv
  have hitems : sample.items = [32, 31, 12, 1] := by cbv
  have horder : TotalPreorderOn Outlet.compareTens sample.items := by
    rw [hitems]
    exact ⟨by decide, by decide⟩
  exact ⟨horder, hlog, windowed_run Outlet.compareTens _ [.item 32] false sampleEvents horder⟩

end Intake

end SparqlStream
