import Mathlib.Tactic
import SparqlStream.Proofs.Intake

/-!
# A slice lets go of its source in time

A slice on a source shows a part of its items, and asks the source for nothing that it does not
need: neither behind its last item, nor at all if it may not show any.

`Intake.sliced_run` says what holds after every run of an intake with a slice.  The counters of a
slice are those that it started with, less the items that have been taken: `Slice.advance` computes
them from the number of these items alone.  So `Cutting.Inv` needs the cells that have been taken,
and a `Phase` that says why the source is still read or has been let go of.
-/

namespace SparqlStream

variable {α ε : Type}

/-! ## The counters of a slice -/

namespace Slice

variable {s : Slice} {l l' : List α}

/-- A slice that has taken some items. -/
def advance (s : Slice) (n : Nat) : Slice := ⟨s.toSkip - n, s.left.map (· - (n - s.toSkip))⟩

@[simp] lemma advance_zero (s : Slice) : s.advance 0 = s := by
  obtain ⟨toSkip, left⟩ := s
  cases left <;> simp [advance]

lemma advance_advance (s : Slice) (m n : Nat) : (s.advance m).advance n = s.advance (m + n) := by
  simp only [advance, Option.map_map, Slice.mk.injEq]
  refine ⟨by omega, Option.map_congr fun k _ => ?_⟩
  simp only [Function.comp_apply]
  omega

lemma needsInput_advance_iff (s : Slice) (k : Nat) :
    (s.advance k).needsInput = true ↔ ∀ n ∈ s.left, k - s.toSkip < n := by
  rw [needsInput, bne_iff_ne, advance]
  cases s.left <;> simp [Nat.sub_eq_zero_iff_le]

lemma needsInput_of_advance {k : Nat} (h : (s.advance k).needsInput = true) :
    s.needsInput = true := by
  rw [← advance_zero s, needsInput_advance_iff]
  intro n hn
  have := (needsInput_advance_iff s k).1 h n hn
  omega

/-- Each item of the input is counted once, by one of the counters. -/
lemma react_item (hs : s.needsInput = true) (a : α) : s.react (.item a : Signal α ε) =
    ⟨s.advance 1, if s.toSkip = 0 then .item a else .again, (s.advance 1).needsInput⟩ := by
  obtain ⟨toSkip, left⟩ := s
  cases toSkip with
  | succ n => cases left <;> simp_all [react, advance, Reaction.keep, needsInput]
  | zero =>
    cases left with
    | none => rfl
    | some n =>
      have hpos : n ≠ 0 := fun h => by simp [needsInput, h] at hs
      by_cases hn : n ≤ 1
      · simp [react, advance, Reaction.close, needsInput, hn, Nat.sub_eq_zero_of_le hn]
      · have hleft : n - 1 ≠ 0 := by omega
        simp [react, advance, Reaction.keep, needsInput, hn, hleft]

/-! ### Parts -/

/-- As long as no item is behind the last one that may be shown, only the first ones are missing. -/
lemma part_eq_drop (hl : ∀ n ∈ s.left, l.length ≤ s.toSkip + n) : s.part l = l.drop s.toSkip := by
  rw [part]
  cases hleft : s.left with
  | none => rfl
  | some n =>
    have := hl n hleft
    exact List.take_of_length_le (by rw [List.length_drop]; omega)

lemma part_isPrefix (s : Slice) (h : l <+: l') : s.part l <+: s.part l' := by
  rw [part, part]
  cases s.left with
  | none => exact h.drop _
  | some n => exact (h.drop _).take n

/-- One more item is shown unless it is to be dropped. -/
lemma part_concat (h : (s.advance l.length).needsInput = true) (a : α) :
    s.part (l ++ [a]) = s.part l ++ if (s.advance l.length).toSkip = 0 then [a] else [] := by
  have hleft := (needsInput_advance_iff s _).1 h
  rw [part_eq_drop, part_eq_drop, List.drop_append, advance]
  · cases s.toSkip - l.length <;> simp
  · intro n hn
    have := hleft n hn
    omega
  · intro n hn
    have := hleft n hn
    rw [List.length_append, List.length_singleton]
    omega

/-- If no more items may be shown, nothing is missing. -/
lemma part_eq_of_isPrefix (h : (s.advance l.length).needsInput = false) (hl : l <+: l') :
    s.part l = s.part l' := by
  have hleft : ¬∀ n ∈ s.left, l.length - s.toSkip < n := by
    rw [← needsInput_advance_iff, h]
    exact Bool.false_ne_true
  push Not at hleft
  obtain ⟨n, hn, hle⟩ := hleft
  refine (part_isPrefix s hl).eq_of_length_le ?_
  rw [part, part, Option.mem_def.1 hn]
  simp only [List.length_take, List.length_drop]
  omega

end Slice

/-! ## Slices on a source -/

namespace Cell

/-- The errors of some cells. -/
def errors : List (Cell α ε) → List ε
  | [] => []
  | fail e :: rest => e :: errors rest
  | item _ :: rest | pause :: rest => errors rest

lemma errors_append (l r : List (Cell α ε)) : errors (l ++ r) = errors l ++ errors r := by
  induction l with
  | nil => rfl
  | cons c l ih => cases c <;> simp [errors, ih]

end Cell

namespace Intake

/-- A slice on a source with some cells, before anybody has asked it.  One that may not show
anything lets go of its source at once. -/
def startSlice (s : Slice) (cells : List (Cell α ε)) (closed : Bool) : Intake α ε :=
  let o := (Outlet.mk ⟨[.start cells closed], [], [], []⟩ (.source 0) "").attach (.slice s)
  ⟨o.plant, o.stage, cells, []⟩

/-- The slice with its counters. -/
def slice? (r : Intake α ε) : Option Slice :=
  match r.stage with
  | .operator (.slice s) _ | .drained (.slice s) => some s
  | _ => none

/-- How many items, errors and pauses a source has shown. -/
def answers (r : Intake α ε) : Nat := r.pulled.length + r.errors.length + r.waits

end Intake

/-- What holds at any time of a slice on a source. -/
structure Intake.Sliced (s : Slice) (r : Intake α ε) : Prop where
  given : r.given = r.taken ++ r.left
  /-- What has been shown is a part of what has been pulled. -/
  emitted : r.emitted = s.part r.pulled
  isPrefix : r.emitted <+: s.part r.items
  /-- At an end without an error nothing is missing. -/
  complete : .finish ∈ r.signals → r.errors = [] → r.emitted = s.part r.items
  /-- An error is shown by the poll that meets it. -/
  errors : r.errors = Cell.errors r.taken
  /-- Each item that is dropped or shown is counted down from what there was in the beginning. -/
  counters : ∃ c, r.slice? = some c ∧ c.toSkip + min r.pulled.length s.toSkip = s.toSkip ∧
    c.left.map (· + r.emitted.length) = s.left
  /-- Nothing is pulled behind the last item that may be shown, with which the source is let go
  of. -/
  within : ∀ n ∈ s.left, r.pulled.length ≤ s.toSkip + n ∧
    (r.pulled.length = s.toSkip + n → r.isRead = false)
  /-- The source is let go of by the poll that shows an error, the end or the last item. -/
  isRead_iff : r.isRead = true ↔
    r.errors = [] ∧ .finish ∉ r.signals ∧ ∀ n ∈ s.left, r.emitted.length < n
  /-- A source that has been let go of is not asked any more. -/
  spared : r.isRead = false → ∀ events, (r.run events).asked = r.asked
  /-- If nothing may be shown the source is never asked. -/
  unasked : s.left = some 0 → r.asked = 0
  /-- The source has been asked once for each of its answers, and once more at its end, which is
  looked for neither after an error nor behind the last item that may be shown. -/
  asks : r.asked = r.answers ∨ r.asked = r.answers + 1 ∧
    r.errors = [] ∧ .finish ∈ r.signals ∧ ∀ n ∈ s.left, r.emitted.length < n
  /-- A poll does not go on forever. -/
  settles : ∀ w limit, r.left.length < limit →
    (Flow.poll limit (Outlet.mk r.plant r.stage w)).1 ≠ .again
  /-- A poll takes a cell if the source is read and holds any. -/
  proceeds : ∀ w limit, r.isRead = true → r.left ≠ [] → 0 < limit →
    (r.act (.poll w limit)).left.length < r.left.length
  /-- A poll shows the end if the source is not read or has ended. -/
  finishes : ∀ w limit, (r.isRead = true → r.left = [] ∧ r.isClosed = true) → 0 < limit →
    (Flow.poll limit (Outlet.mk r.plant r.stage w)).1 = .finish

/-! ## Steps of a slice -/

/-- A source and the slice on top of it, which reads the source as long as it is live. -/
structure Cutting (α ε : Type) where
  source : Source α ε
  slice : Slice

namespace Cutting

variable {s : Slice} {c c' : Cutting α ε} {w : Waker} {woken : List Waker} {signal : Signal α ε}
  {given taken : List (Cell α ε)} {shown : List (Signal α ε)}

/-- The stage of a cutting. -/
def stage (c : Cutting α ε) : Stage α Empty :=
  if c.source.isLive then .operator (.slice c.slice) (.source 0) else .drained (.slice c.slice)

/-- The outlet of a cutting. -/
def outlet (w : Waker) (woken : List Waker) (c : Cutting α ε) : Outlet α ε Empty :=
  ⟨⟨[c.source], [], [], woken⟩, c.stage, w⟩

/-- What a slice does when it is asked once. -/
inductive Moves (w : Waker) : Cutting α ε → Signal α ε → Cutting α ε → Prop
  | takes {src : Source α ε} {s : Slice} {a : α} {rest : List (Cell α ε)} :
    src.isLive = true → src.cells = .item a :: rest →
    Moves w ⟨src, s⟩ (if s.toSkip = 0 then .item a else .again)
      ⟨{ src with asked := src.asked + 1, cells := rest, isLive := (s.advance 1).needsInput },
        s.advance 1⟩
  | fails {src : Source α ε} {s : Slice} {e : ε} {rest : List (Cell α ε)} :
    src.isLive = true → src.cells = .fail e :: rest →
    Moves w ⟨src, s⟩ (.fail e)
      ⟨{ src with asked := src.asked + 1, cells := rest, isLive := false }, s⟩
  | pauses {src : Source α ε} {s : Slice} {rest : List (Cell α ε)} :
    src.isLive = true → src.cells = .pause :: rest →
    Moves w ⟨src, s⟩ .pending
      ⟨{ src with asked := src.asked + 1, cells := rest, waker := some w }, s⟩
  | waits {src : Source α ε} {s : Slice} :
    src.isLive = true → src.cells = [] → src.closed = false →
    Moves w ⟨src, s⟩ .pending ⟨{ src with asked := src.asked + 1, waker := some w }, s⟩
  | ends {src : Source α ε} {s : Slice} :
    src.isLive = true → src.cells = [] → src.closed = true →
    Moves w ⟨src, s⟩ .finish ⟨{ src with asked := src.asked + 1, isLive := false }, s⟩
  | rests {src : Source α ε} {s : Slice} :
    src.isLive = false → Moves w ⟨src, s⟩ .finish ⟨src, s⟩

lemma step_reads {src src' : Source α ε} {s' : Slice} {shows : Signal α ε} {keeps : Bool}
    (woken : List Waker) (hlive : src.isLive = true) (hsrc : src.step w = (signal, src'))
    (hlive' : src'.isLive = true) (hr : s.react signal = ⟨s', shows, keeps⟩) :
    Flow.step (outlet w woken ⟨src, s⟩) =
      (shows, outlet w woken ⟨{ src' with isLive := keeps }, s'⟩) := by
  have hidle : ((Op.slice s : Op α Empty).idle true : Option (Reaction (Op α Empty) α ε)) = none :=
    rfl
  have hreact : (Op.slice s : Op α Empty).react signal = ⟨.slice s', shows, keeps⟩ := by
    rw [Op.react, hr, Reaction.map]
  obtain ⟨cells, closed, asked, isLive, waker⟩ := src'
  obtain rfl : isLive = true := hlive'
  rw [outlet, stage, if_pos hlive, Outlet.step_reads hidle hsrc, hreact]
  cases keeps <;> rfl

/-- A slice makes one of these moves when it is asked. -/
lemma exists_moves (w : Waker) (woken : List Waker) (c : Cutting α ε)
    (hneeds : c.source.isLive = true → c.slice.needsInput = true) :
    ∃ signal c', Moves w c signal c' ∧
      Flow.step (c.outlet w woken) = (signal, c'.outlet w woken) := by
  obtain ⟨src, s⟩ := c
  cases hlive : src.isLive with
  | false =>
    refine ⟨_, _, .rests hlive, ?_⟩
    rw [outlet, stage, if_neg (by simp [hlive])]
    exact Outlet.step_drained rfl
  | true =>
    cases hc : src.cells with
    | nil =>
      cases hclosed : src.closed with
      | true =>
        exact ⟨_, _, .ends hlive hc hclosed,
          step_reads woken hlive (Source.step_closed hc hclosed) hlive rfl⟩
      | false =>
        refine ⟨_, _, .waits hlive hc hclosed, ?_⟩
        rw [step_reads woken hlive (Source.step_open hc hclosed) hlive rfl, ← hlive]
    | cons cell rest =>
      cases cell with
      | item a =>
        exact ⟨_, _, .takes hlive hc, step_reads woken hlive (Source.step_item hc) hlive
          (Slice.react_item (hneeds hlive) a)⟩
      | fail e =>
        exact ⟨_, _, .fails hlive hc,
          step_reads woken hlive (Source.step_fail hc) hlive rfl⟩
      | pause =>
        refine ⟨_, _, .pauses hlive hc, ?_⟩
        rw [step_reads woken hlive (Source.step_pause hc) hlive rfl, ← hlive]

/-- No step adds cells, and one that reads a source with cells takes one. -/
lemma Moves.length_eq (h : Moves w c signal c') :
    c'.source.cells.length + (c.source.isLive && !c.source.cells.isEmpty).toNat =
      c.source.cells.length := by
  cases h <;> simp [*]

/-- A step that shows nothing takes an item. -/
lemma Moves.length_lt_of_again (h : Moves w c .again c') :
    c'.source.cells.length < c.source.cells.length := by
  generalize hsignal : (Signal.again : Signal α ε) = signal at h
  cases h with
  | takes hlive hc => simp [hc]
  | fails | pauses | waits | ends | rests => cases hsignal

lemma Moves.eq_finish (h : Moves w c signal c')
    (hend : c.source.isLive = true → c.source.cells = [] ∧ c.source.closed = true) :
    signal = .finish := by
  cases h with
  | takes hlive hc | fails hlive hc | pauses hlive hc => cases (hend hlive).1.symm.trans hc
  | waits hlive _ hopen => cases (hend hlive).2.symm.trans hopen
  | ends | rests => rfl

lemma Moves.eq_of_isLive_eq_false (h : Moves w c signal c') (hdead : c.source.isLive = false) :
    c' = c := by
  cases h with
  | takes hlive | fails hlive | pauses hlive | waits hlive | ends hlive =>
    cases hdead.symm.trans hlive
  | rests => rfl

/-! ## The invariant -/

/-- How often a source has to be asked for what has been taken and for what has been shown. -/
def work (shown : List (Signal α ε)) (taken : List (Cell α ε)) : Nat :=
  (Cell.items taken).length + (Cell.errors taken).length + shown.countP Signal.isPending

/-- Why a source is still read or has been let go of. -/
inductive Phase (shown : List (Signal α ε)) (taken : List (Cell α ε)) (c : Cutting α ε) : Prop
  | reads : c.source.isLive = true → c.slice.needsInput = true → Cell.errors taken = [] →
    .finish ∉ shown → c.source.asked = work shown taken → Phase shown taken c
  | sated : c.source.isLive = false → c.slice.needsInput = false → Cell.errors taken = [] →
    c.source.asked = work shown taken → Phase shown taken c
  | failed : c.source.isLive = false → Cell.errors taken ≠ [] →
    c.source.asked = work shown taken → Phase shown taken c
  | ended : c.source.isLive = false → c.slice.needsInput = true → Cell.errors taken = [] →
    .finish ∈ shown → c.source.cells = [] → c.source.asked = work shown taken + 1 →
    Phase shown taken c

/-- The invariant of a slice on a source, with the cells that have been taken. -/
structure Inv (s : Slice) (given taken : List (Cell α ε)) (shown : List (Signal α ε))
    (c : Cutting α ε) : Prop where
  given : given = taken ++ c.source.cells
  slice : c.slice = s.advance (Cell.items taken).length
  emitted : shown.filterMap Signal.item? = s.part (Cell.items taken)
  errors : shown.filterMap Signal.error? = Cell.errors taken
  within : ∀ n ∈ s.left, (Cell.items taken).length ≤ s.toSkip + n
  unasked : s.needsInput = false → c.source.asked = 0
  phase : c.Phase shown taken

section Inv

variable {src src' : Source α ε} {a : α}

lemma Phase.of_isLive (h : c.Phase shown taken) (hlive : c.source.isLive = true) :
    c.slice.needsInput = true ∧ Cell.errors taken = [] ∧ .finish ∉ shown ∧
      c.source.asked = work shown taken := by
  cases h with
  | reads _ hneeds herrors hfinish hasked => exact ⟨hneeds, herrors, hfinish, hasked⟩
  | sated hdead | failed hdead | ended hdead => simp [hlive] at hdead

lemma work_append (shown : List (Signal α ε)) (signal : Signal α ε)
    (taken passed : List (Cell α ε)) : work (shown ++ [signal]) (taken ++ passed) =
      work shown taken + ((Cell.items passed).length + (Cell.errors passed).length +
        signal.isPending.toNat) := by
  simp only [work, Cell.items_append, Cell.errors_append, List.length_append, List.countP_append,
    List.countP_singleton, Bool.toNat, Bool.cond_eq_ite]
  omega

/-- A slice that reads needs its input since the beginning. -/
lemma Inv.needsInput_of_isLive (h : Inv s given taken shown c) (hlive : c.source.isLive = true) :
    s.needsInput = true := by
  refine Slice.needsInput_of_advance (k := (Cell.items taken).length) ?_
  rw [← h.slice]
  exact (h.phase.of_isLive hlive).1

/-- An item that is taken is shown unless it is to be dropped. -/
lemma Inv.takes {s' : Slice} {rest : List (Cell α ε)} (h : Inv s given taken shown ⟨src, s'⟩)
    (hlive : src.isLive = true) (hc : src.cells = .item a :: rest) :
    Inv s given (taken ++ [.item a]) (shown ++ [if s'.toSkip = 0 then .item a else .again])
      ⟨{ src with asked := src.asked + 1, cells := rest, isLive := (s'.advance 1).needsInput },
        s'.advance 1⟩ := by
  obtain ⟨hneeds, herrors, hfinish, hasked⟩ := h.phase.of_isLive hlive
  obtain rfl : s' = s.advance (Cell.items taken).length := h.slice
  have hleft := (Slice.needsInput_advance_iff s _).1 hneeds
  have hitems : Cell.items (taken ++ [(.item a : Cell α ε)]) = Cell.items taken ++ [a] :=
    Cell.items_append _ _
  have herrors' : Cell.errors (taken ++ [(.item a : Cell α ε)]) = [] := by
    rw [Cell.errors_append, herrors]
    rfl
  refine ⟨?_, ?_, ?_, ?_, fun n hn => ?_, fun hnot => ?_, ?_⟩
  · rw [h.given, List.append_assoc, List.singleton_append, ← hc]
  · rw [hitems, List.length_append, List.length_singleton, Slice.advance_advance]
  · rw [hitems, Slice.part_concat hneeds, List.filterMap_append, h.emitted]
    split <;> rfl
  · rw [herrors', List.filterMap_append, h.errors, herrors]
    split <;> rfl
  · have := hleft n hn
    rw [hitems, List.length_append, List.length_singleton]
    omega
  · rw [h.needsInput_of_isLive hlive] at hnot
    cases hnot
  · -- The source has been asked once more for the item, whether it is shown or dropped.
    have hwork : src.asked + 1 = work
        (shown ++ [if (s.advance (Cell.items taken).length).toSkip = 0 then .item a else .again])
        (taken ++ [(.item a : Cell α ε)]) := by
      rw [work_append, ← hasked]
      split <;> rfl
    cases hnext : ((s.advance (Cell.items taken).length).advance 1).needsInput with
    | true =>
      refine .reads rfl hnext herrors' ?_ hwork
      rw [List.mem_append, not_or, List.mem_singleton]
      exact ⟨hfinish, by split <;> exact nofun⟩
    | false => exact .sated rfl hnext herrors' hwork

/-- A cell that is no item leaves the counters as they are. -/
lemma Inv.passes {s' : Slice} (passed : List (Cell α ε)) (h : Inv s given taken shown ⟨src, s'⟩)
    (hlive : src.isLive = true) (hc : src.cells = passed ++ src'.cells)
    (hitems : Cell.items passed = []) (hitem : signal.item? = none)
    (herror : Cell.errors passed = signal.error?.toList)
    (hphase : Phase (shown ++ [signal]) (taken ++ passed) ⟨src', s'⟩) :
    Inv s given (taken ++ passed) (shown ++ [signal]) ⟨src', s'⟩ := by
  have hsame : Cell.items (taken ++ passed) = Cell.items taken := by
    rw [Cell.items_append, hitems, List.append_nil]
  refine ⟨?_, ?_, ?_, ?_, ?_, fun hnot => ?_, hphase⟩
  · rw [h.given, List.append_assoc, ← hc]
  · rw [hsame, ← h.slice]
  · rw [hsame, List.filterMap_append, h.emitted, List.filterMap_cons_none hitem]
    exact List.append_nil _
  · rw [Cell.errors_append, List.filterMap_append, h.errors, herror]
    cases hsignal : signal.error? <;> simp [hsignal]
  · rw [hsame]
    exact h.within
  · rw [h.needsInput_of_isLive hlive] at hnot
    cases hnot

/-- What a slice shows after it has let go of its source does not matter. -/
lemma Phase.congr {shown' : List (Signal α ε)} (h : c.Phase shown taken)
    (hpending : shown'.countP Signal.isPending = shown.countP Signal.isPending)
    (hfinish : .finish ∈ shown → .finish ∈ shown')
    (hlive : c.source.isLive = true → .finish ∈ shown' → .finish ∈ shown) :
    c.Phase shown' taken := by
  have hwork : work shown taken = work shown' taken := by rw [work, work, hpending]
  cases h with
  | reads hreads hneeds herrors hnot hasked =>
    exact .reads hreads hneeds herrors (fun h => hnot (hlive hreads h)) (hasked.trans hwork)
  | sated hdead hneeds herrors hasked => exact .sated hdead hneeds herrors (hasked.trans hwork)
  | failed hdead herrors hasked => exact .failed hdead herrors (hasked.trans hwork)
  | ended hdead hneeds herrors hshown hcells hasked =>
    exact .ended hdead hneeds herrors (hfinish hshown) hcells
      (hasked.trans (congrArg (· + 1) hwork))

/-- The invariant depends on what has been shown only through items, errors and pauses, and on an
end only as long as the source is read. -/
lemma Inv.congr {shown' : List (Signal α ε)} (h : Inv s given taken shown c)
    (hitem : shown'.filterMap Signal.item? = shown.filterMap Signal.item?)
    (herror : shown'.filterMap Signal.error? = shown.filterMap Signal.error?)
    (hpending : shown'.countP Signal.isPending = shown.countP Signal.isPending)
    (hfinish : .finish ∈ shown → .finish ∈ shown')
    (hlive : c.source.isLive = true → .finish ∈ shown' → .finish ∈ shown) :
    Inv s given taken shown' c :=
  ⟨h.given, h.slice, hitem.trans h.emitted, herror.trans h.errors, h.within, h.unasked,
    h.phase.congr hpending hfinish hlive⟩

/-- A step of a slice keeps the invariant. -/
lemma Inv.step (h : Inv s given taken shown c) (hmove : Moves w c signal c') :
    ∃ taken', Inv s given taken' (shown ++ [signal]) c' := by
  cases hmove with
  | takes hlive hc => exact ⟨_, h.takes hlive hc⟩
  | fails hlive hc =>
    obtain ⟨hneeds, herrors, hfinish, hasked⟩ := h.phase.of_isLive hlive
    refine ⟨_, h.passes [.fail _] hlive hc rfl rfl rfl (.failed rfl ?_ ?_)⟩
    · rw [Cell.errors_append]
      exact List.append_ne_nil_of_right_ne_nil _ (List.cons_ne_nil _ _)
    · rw [work_append, ← hasked]
      rfl
  | pauses hlive hc =>
    obtain ⟨hneeds, herrors, hfinish, hasked⟩ := h.phase.of_isLive hlive
    refine ⟨_, h.passes [.pause] hlive hc rfl rfl rfl (.reads hlive hneeds ?_ ?_ ?_)⟩
    · rw [Cell.errors_append, herrors]
      rfl
    · simpa using hfinish
    · rw [work_append, ← hasked]
      rfl
  | waits hlive hc hopen =>
    obtain ⟨hneeds, herrors, hfinish, hasked⟩ := h.phase.of_isLive hlive
    refine ⟨_, h.passes [] hlive rfl rfl rfl rfl (.reads hlive hneeds ?_ ?_ ?_)⟩
    · rw [List.append_nil, herrors]
    · simpa using hfinish
    · rw [work_append, ← hasked]
      rfl
  | ends hlive hc hclosed =>
    obtain ⟨hneeds, herrors, hfinish, hasked⟩ := h.phase.of_isLive hlive
    refine ⟨_, h.passes [] hlive rfl rfl rfl rfl (.ended rfl hneeds ?_ (by simp) hc ?_)⟩
    · rw [List.append_nil, herrors]
    · rw [work_append, ← hasked]
      rfl
  | rests hdead =>
    refine ⟨taken, h.congr ?_ ?_ ?_ (List.mem_append_left _) fun hlive => ?_⟩
    · simp [Signal.item?]
    · simp [Signal.error?]
    · simp [Signal.isPending]
    · simp [hdead] at hlive

/-! ### Polls -/

/-- That a slice is still working does not count. -/
lemma inv_concat_again : Inv s given taken (shown ++ [.again]) c ↔ Inv s given taken shown c := by
  constructor <;> intro h
  · exact h.congr (by simp [Signal.item?]) (by simp [Signal.error?]) (by simp [Signal.isPending])
      (by simp) (by simp)
  · exact h.congr (by simp [Signal.item?]) (by simp [Signal.error?]) (by simp [Signal.isPending])
      (by simp) (by simp)

/-- How a poll gets on. -/
structure Progress (limit : Nat) (c : Cutting α ε) (signal : Signal α ε) (c' : Cutting α ε) :
    Prop where
  loses : c'.source.cells.length ≤ c.source.cells.length
  takes : c.source.isLive = true → c.source.cells ≠ [] → 0 < limit →
    c'.source.cells.length < c.source.cells.length
  settles : c.source.cells.length < limit → signal ≠ .again
  finishes : (c.source.isLive = true → c.source.cells = [] ∧ c.source.closed = true) → 0 < limit →
    signal = .finish
  rests : c.source.isLive = false → c' = c

/-- A poll keeps the invariant. -/
lemma Inv.poll (w : Waker) (woken : List Waker) (limit : Nat) (h : Inv s given taken shown c) :
    ∃ signal c' taken', Flow.poll limit (c.outlet w woken) = (signal, c'.outlet w woken) ∧
      Inv s given taken' (shown ++ [signal]) c' ∧ Progress limit c signal c' := by
  induction limit generalizing c taken with
  | zero =>
    refine ⟨.again, c, taken, rfl, inv_concat_again.2 h, le_rfl, ?_, ?_, ?_, fun _ => rfl⟩
    · exact fun _ _ => nofun
    · exact nofun
    · exact fun _ => nofun
  | succ limit ih =>
    obtain ⟨signal, c', hmove, hstep⟩ := c.exists_moves w woken fun hlive =>
      (h.phase.of_isLive hlive).1
    obtain ⟨taken', h'⟩ := h.step hmove
    rw [Flow.poll, hstep]
    cases signal with
    | again =>
      -- An item has been dropped, so the source holds fewer cells for the rest of the poll.
      have hlt := hmove.length_lt_of_again
      obtain ⟨signal, c'', taken'', hpoll, h'', hprogress⟩ := ih (inv_concat_again.1 h')
      have hle := hprogress.loses
      refine ⟨signal, c'', taken'', hpoll, h'', by omega, fun _ _ _ => by omega,
        fun hlimit => hprogress.settles (by omega), fun hend => ?_, fun hdead => ?_⟩
      · cases hmove.eq_finish hend
      · rw [hmove.eq_of_isLive_eq_false hdead] at hlt
        exact absurd hlt (lt_irrefl _)
    | item | fail | finish | pending =>
      have hlength := hmove.length_eq
      refine ⟨_, c', taken', rfl, h', by omega, fun hlive hc _ => ?_, fun _ => nofun,
        fun hend _ => hmove.eq_finish hend, hmove.eq_of_isLive_eq_false⟩
      rw [hlive, List.isEmpty_eq_false_iff.2 hc, Bool.true_and, Bool.not_false,
        Bool.toNat_true] at hlength
      omega

/-! ### Changes from outside -/

lemma Inv.push {s' : Slice} (h : Inv s given taken shown ⟨src, s'⟩) (hlive : src.isLive = true)
    (cell : Cell α ε) :
    Inv s (given ++ [cell]) taken shown ⟨{ src.push cell with waker := none }, s'⟩ := by
  obtain ⟨hneeds, herrors, hfinish, hasked⟩ := h.phase.of_isLive hlive
  refine ⟨?_, h.slice, h.emitted, h.errors, h.within, h.unasked,
    .reads hlive hneeds herrors hfinish hasked⟩
  show given ++ [cell] = taken ++ (src.cells ++ [cell])
  rw [h.given, List.append_assoc]

lemma Inv.close {s' : Slice} (h : Inv s given taken shown ⟨src, s'⟩) :
    Inv s given taken shown ⟨{ src.close with waker := none }, s'⟩ := by
  refine ⟨h.given, h.slice, h.emitted, h.errors, h.within, h.unasked, ?_⟩
  cases h.phase with
  | reads hlive hneeds herrors hfinish hasked =>
    exact .reads hlive hneeds herrors hfinish hasked
  | sated hdead hneeds herrors hasked => exact .sated hdead hneeds herrors hasked
  | failed hdead herrors hasked => exact .failed hdead herrors hasked
  | ended hdead hneeds herrors hfinish hcells hasked =>
    exact .ended hdead hneeds herrors hfinish hcells hasked

end Inv

end Cutting

/-! ## Runs -/

namespace Intake

open Cutting

variable {s : Slice} {r : Intake α ε} {taken : List (Cell α ε)} {c : Cutting α ε}

/-- An intake is a slice on a source, which keeps its invariant. -/
structure Cuts (s : Slice) (r : Intake α ε) (taken : List (Cell α ε)) (c : Cutting α ε) :
    Prop where
  plant : ∃ woken, r.plant = ⟨[c.source], [], [], woken⟩
  stage : r.stage = c.stage
  inv : c.Inv s r.given taken r.signals

lemma startSlice_eq (s : Slice) (cells : List (Cell α ε)) (closed : Bool) :
    startSlice s cells closed =
      let c : Cutting α ε := ⟨{ Source.start cells closed with isLive := s.needsInput }, s⟩
      ⟨⟨[c.source], [], [], []⟩, c.stage, cells, []⟩ := by
  have hneeds : (Op.slice s : Op α Empty).needsInput = s.needsInput := rfl
  rw [startSlice, Outlet.attach, Stage.ofOperator, hneeds]
  cases s.needsInput <;> rfl

lemma cuts_start (s : Slice) (cells : List (Cell α ε)) (closed : Bool) :
    (startSlice s cells closed).Cuts s []
      ⟨{ Source.start cells closed with isLive := s.needsInput }, s⟩ := by
  have hpart : s.part ([] : List α) = [] := List.sublist_nil.1 (s.part_sublist [])
  rw [startSlice_eq]
  refine ⟨⟨[], rfl⟩, rfl, rfl, s.advance_zero.symm, hpart.symm, rfl, fun _ _ => Nat.zero_le _,
    fun _ => rfl, ?_⟩
  cases hneeds : s.needsInput with
  | true => exact .reads rfl hneeds rfl List.not_mem_nil rfl
  | false => exact .sated rfl hneeds rfl rfl

/-- A poll keeps the invariant. -/
lemma Cuts.poll (h : r.Cuts s taken c) (w : Waker) (limit : Nat) :
    ∃ signal c' taken', (Flow.poll limit (Outlet.mk r.plant r.stage w)).1 = signal ∧
      (r.act (.poll w limit)).Cuts s taken' c' ∧ Progress limit c signal c' := by
  obtain ⟨woken, hplant⟩ := h.plant
  obtain ⟨signal, c', taken', hpoll, hinv, hprogress⟩ := h.inv.poll w woken limit
  have houtlet : Outlet.mk r.plant r.stage w = c.outlet w woken := by
    rw [hplant, h.stage, Cutting.outlet]
  rw [← houtlet] at hpoll
  refine ⟨signal, c', taken', by rw [hpoll], ⟨⟨woken, ?_⟩, ?_, ?_⟩, hprogress⟩
  · rw [Intake.act, hpoll, Cutting.outlet]
  · rw [Intake.act, hpoll, Cutting.outlet]
  · have hsignals : (r.act (.poll w limit)).signals = r.signals ++ [signal] := by
      rw [Intake.act, hpoll, signals, List.map_append]
      rfl
    rw [hsignals]
    exact hinv

/-- Whatever is done, the invariant is kept, and a source that has been let go of is spared. -/
lemma Cuts.act (h : r.Cuts s taken c) (e : IntakeEvent α ε) :
    ∃ taken' c', (r.act e).Cuts s taken' c' ∧ (c.source.isLive = false →
      c'.source.isLive = false ∧ c'.source.asked = c.source.asked) := by
  obtain ⟨woken, hplant⟩ := h.plant
  obtain ⟨src, s'⟩ := c
  cases e with
  | poll w limit =>
    obtain ⟨signal, c', taken', -, h', hprogress⟩ := h.poll w limit
    refine ⟨taken', c', h', fun hdead => ?_⟩
    rw [hprogress.rests hdead]
    exact ⟨hdead, rfl⟩
  | push cell =>
    rw [Intake.act, isRead_eq hplant]
    cases hlive : src.isLive with
    | false => exact ⟨taken, ⟨src, s'⟩, h, fun _ => ⟨hlive, rfl⟩⟩
    | true =>
      refine ⟨taken, ⟨{ src.push cell with waker := none }, s'⟩,
        ⟨⟨src.waker.toList.reverse ++ woken, ?_⟩, h.stage, ?_⟩, ?_⟩
      · rw [if_pos rfl, hplant]
        rfl
      · exact h.inv.push hlive cell
      · exact Bool.noConfusion
  | close =>
    refine ⟨taken, ⟨{ src.close with waker := none }, s'⟩,
      ⟨⟨src.waker.toList.reverse ++ woken, ?_⟩, h.stage, h.inv.close⟩, fun hdead => ⟨hdead, rfl⟩⟩
    rw [Intake.act, hplant]
    rfl

lemma Cuts.run (h : r.Cuts s taken c) (events : List (IntakeEvent α ε)) :
    ∃ taken' c', (r.run events).Cuts s taken' c' ∧ (c.source.isLive = false →
      c'.source.isLive = false ∧ c'.source.asked = c.source.asked) := by
  induction events generalizing r taken c with
  | nil => exact ⟨taken, c, h, fun hdead => ⟨hdead, rfl⟩⟩
  | cons e events ih =>
    obtain ⟨taken', c', h', hspared⟩ := h.act e
    obtain ⟨taken'', c'', h'', hspared'⟩ := ih h'
    refine ⟨taken'', c'', h'', fun hdead => ?_⟩
    obtain ⟨hdead', hasked⟩ := hspared hdead
    exact (hspared' hdead').imp_right fun h => h.trans hasked

lemma Cuts.slice_eq (h : r.Cuts s taken c) : r.slice? = some c.slice := by
  rw [slice?, h.stage, Cutting.stage]
  cases c.source.isLive <;> rfl

lemma Cuts.length_emitted (h : r.Cuts s taken c) :
    r.emitted.length = (Cell.items taken).length - s.toSkip := by
  rw [r.emitted_eq, h.inv.emitted, Slice.part_eq_drop h.inv.within, List.length_drop]

/-- Whether more items may be shown. -/
lemma Cuts.needsInput_iff (h : r.Cuts s taken c) :
    c.slice.needsInput = true ↔ ∀ n ∈ s.left, r.emitted.length < n := by
  rw [h.inv.slice, Slice.needsInput_advance_iff, h.length_emitted]

/-- Neither counter has been counted down below zero. -/
lemma Cuts.counters (h : r.Cuts s taken c) :
    c.slice.toSkip + min (Cell.items taken).length s.toSkip = s.toSkip ∧
      c.slice.left.map (· + r.emitted.length) = s.left := by
  rw [h.inv.slice, h.length_emitted, Slice.advance]
  dsimp only
  refine ⟨by omega, ?_⟩
  cases hleft : s.left with
  | none => rfl
  | some n =>
    have := h.inv.within n hleft
    simp only [Option.map_some, Option.some.injEq]
    omega

/-- At an end without an error nothing is missing. -/
lemma Cuts.complete (h : r.Cuts s taken c) (hfinish : .finish ∈ r.signals)
    (herrors : r.errors = []) : s.part (Cell.items taken) = s.part r.items := by
  cases h.inv.phase with
  | reads _ _ _ hnot _ => exact absurd hfinish hnot
  | sated _ hneeds _ _ =>
    -- What has not been pulled is behind the last item that may be shown.
    rw [h.inv.slice] at hneeds
    exact Slice.part_eq_of_isPrefix hneeds (Cell.items_isPrefix h.inv.given)
  | failed _ hfailed _ => exact absurd (h.inv.errors.symm.trans herrors) hfailed
  | ended _ _ _ _ hcells _ => rw [items, h.inv.given, hcells, List.append_nil]

lemma Cuts.isRead_iff (h : r.Cuts s taken c) : c.source.isLive = true ↔
    r.errors = [] ∧ .finish ∉ r.signals ∧ ∀ n ∈ s.left, r.emitted.length < n := by
  rw [← h.needsInput_iff, errors, h.inv.errors]
  cases h.inv.phase with
  | reads hlive hneeds herrors hfinish _ => simp [hlive, hneeds, herrors, hfinish]
  | sated hdead hneeds _ _ => simp [hdead, hneeds]
  | failed hdead herrors _ => simp [hdead, herrors]
  | ended hdead _ _ hfinish _ _ => simp [hdead, hfinish]

lemma Cuts.asks (h : r.Cuts s taken c) : c.source.asked = work r.signals taken ∨
    c.source.asked = work r.signals taken + 1 ∧
      r.errors = [] ∧ .finish ∈ r.signals ∧ ∀ n ∈ s.left, r.emitted.length < n := by
  rw [← h.needsInput_iff, errors, h.inv.errors]
  cases h.inv.phase with
  | reads _ _ _ _ hasked | sated _ _ _ hasked | failed _ _ hasked => exact .inl hasked
  | ended _ hneeds herrors hfinish _ hasked => exact .inr ⟨hasked, herrors, hfinish, hneeds⟩

lemma Cuts.spared (h : r.Cuts s taken c) (hdead : c.source.isLive = false)
    (events : List (IntakeEvent α ε)) : (r.run events).asked = r.asked := by
  obtain ⟨woken, hplant⟩ := h.plant
  obtain ⟨taken', c', h', hspared⟩ := h.run events
  obtain ⟨woken', hplant'⟩ := h'.plant
  rw [asked_eq hplant', asked_eq hplant]
  exact (hspared hdead).2

/-- The invariant says what holds at any time. -/
lemma Cuts.sliced (h : r.Cuts s taken c) : r.Sliced s := by
  obtain ⟨woken, hplant⟩ := h.plant
  have hleft := left_eq hplant
  have hread := isRead_eq hplant
  have hasked := asked_eq hplant
  have htaken := taken_eq hplant h.inv.given
  have hpulled := pulled_eq hplant h.inv.given
  have herrors : r.errors = Cell.errors taken := h.inv.errors
  have hemitted : r.emitted = s.part (Cell.items taken) := r.emitted_eq.trans h.inv.emitted
  have hwork : work r.signals taken = r.answers := by rw [work, answers, hpulled, herrors, waits]
  refine ⟨by rw [htaken, hleft, h.inv.given], hpulled ▸ hemitted, ?_, fun hfinish hnone => ?_,
    htaken ▸ herrors, ?_, fun n hn => ⟨?_, fun hlast => ?_⟩, ?_, fun hdead => ?_, fun hs => ?_, ?_,
    fun w limit hlimit => ?_, fun w limit hlive hcells hlimit => ?_, fun w limit hend hlimit => ?_⟩
  · rw [hemitted, ← hpulled]
    exact s.part_isPrefix r.pulled_isPrefix
  · rw [hemitted]
    exact h.complete hfinish hnone
  · rw [hpulled]
    exact ⟨c.slice, h.slice_eq, h.counters⟩
  · rw [hpulled]
    exact h.inv.within n hn
  · have hshown := h.length_emitted
    rw [← hpulled, hlast, Nat.add_sub_cancel_left] at hshown
    rw [hread, ← Bool.not_eq_true, h.isRead_iff]
    exact fun hlive => absurd (hlive.2.2 n hn) (by omega)
  · rw [hread]
    exact h.isRead_iff
  · exact h.spared (hread ▸ hdead)
  · rw [hasked]
    exact h.inv.unasked (by rw [Slice.needsInput, hs]; rfl)
  · rw [hasked, ← hwork]
    exact h.asks
  · obtain ⟨signal, c', taken', hpoll, -, hprogress⟩ := h.poll w limit
    rw [hpoll]
    exact hprogress.settles (hleft ▸ hlimit)
  · obtain ⟨signal, c', taken', -, h', hprogress⟩ := h.poll w limit
    obtain ⟨woken', hplant'⟩ := h'.plant
    rw [left_eq hplant', hleft]
    exact hprogress.takes (hread ▸ hlive) (hleft ▸ hcells) hlimit
  · obtain ⟨signal, c', taken', hpoll, -, hprogress⟩ := h.poll w limit
    rw [hpoll]
    refine hprogress.finishes (fun hlive => ?_) hlimit
    rw [← hleft, ← isClosed_eq hplant]
    exact hend (hread.trans hlive)

/-- **Slicing and cancellation.**  Whatever is done to a slice and its source, it has shown a part
of the source's items, all of it at an end without an error.  It has let go of the source together
with an error, the end or the last item that it may show, and has never asked the source for
more. -/
theorem sliced_run (offset : Nat) (limit : Option Nat) (cells : List (Cell α ε)) (closed : Bool)
    (events : List (IntakeEvent α ε)) :
    ((startSlice ⟨offset, limit⟩ cells closed).run events).Sliced ⟨offset, limit⟩ := by
  obtain ⟨taken, c, h, -⟩ := (cuts_start ⟨offset, limit⟩ cells closed).run events
  exact h.sliced

example : ((startSlice ⟨1, some 2⟩ [.item 1, .pause, .item 2, .item 3, .fail "late"] true).run
    (List.replicate 4 (.poll "" 9))).log =
      [(.pending, 1), (.item 2, 2), (.item 3, 3), (.finish, 3)] := by
  cbv

end Intake

end SparqlStream
