import Mathlib.Tactic
import SparqlStream.Proofs.Asking
import SparqlStream.Stream.Network

/-!
# Stages that are spent

The stages of a network know only operators that let go of their input when they end.  So a stage
that has shown its end or an error has let go of all that it read: an operator holds nothing any
more, a union has no inputs left, and the hub of a branch has let go of the stage below.
`Stage.IsSpent` says so; a spent stage ends again and again and changes nothing
(`Stage.IsSpent.step`), whatever happens to the rest of the network (`Stage.IsSpent.mono`).

While a stage is asked the sources lose cells from the front only, and an error among these cells
is what the stage shows (`Plant.Asks.draws`).  An error is never met by a stage that goes on.
-/

namespace SparqlStream

variable {α ε : Type}

/-! ## Operators -/

namespace Op

/-- Nothing is left to be shown by an operator that has let go of its input. -/
def IsQuiet : Op α Empty → Prop
  | .sort s => s.held = []
  | _ => True

/-- All operators of a network let go of their input when they end. -/
lemma closes (op : Op α Empty) : Operator.Closes α ε IsQuiet op := by
  cases op with
  | filter f =>
    exact (Operator.closes_filter f).embed ⟨fun _ _ => rfl, fun _ _ => rfl⟩ fun _ => Iff.rfl
  | distinct d =>
    exact (Operator.closes_distinct d).embed ⟨fun _ _ => rfl, fun _ _ => rfl⟩ fun _ => Iff.rfl
  | slice s =>
    exact (Operator.closes_slice s).embed ⟨fun _ _ => rfl, fun _ _ => rfl⟩ fun _ => Iff.rfl
  | sort s =>
    exact (Operator.closes_sorter s).embed ⟨fun _ _ => rfl, fun _ _ => rfl⟩ fun _ => Iff.rfl
  | matcher k m => exact m.elim

/-- An operator that does nothing without its input is quiet. -/
lemma isQuiet_of_idle_eq_none {op : Op α Empty}
    (hidle : op.idle false = (none : Option (Reaction (Op α Empty) α ε))) : op.IsQuiet := by
  cases op with
  | filter f => trivial
  | distinct d => trivial
  | slice s => trivial
  | sort s =>
    rw [idle, Option.map_eq_none_iff, Sorter.idle, Bool.false_and] at hidle
    cases hheld : s.held with
    | nil => exact hheld
    | cons a rest =>
      rw [hheld] at hidle
      cases hidle
  | matcher k m => exact m.elim

end Op

/-! ## What is taken from the sources -/

namespace Plant

variable {p p' p₁ p₂ : Plant α ε Empty} {s s' input : Stage α Empty} {w : Waker}
  {signal signal' : Signal α ε}

lemma noteCall_eq (p : Plant α ε Empty) (op : Op α Empty) (f : CallLog ε → CallLog ε) :
    p.noteCall op f = p := by
  cases op with
  | matcher k m => exact m.elim
  | filter f => rfl
  | distinct d => rfl
  | slice s => rfl
  | sort s => rfl

/-- The sources lose cells from the front, and an error among these cells is shown. -/
def Draws (p p' : Plant α ε Empty) (signal : Signal α ε) : Prop :=
  ∀ (id : Nat) (s : Source α ε), p.sources[id]? = some s → ∃ s' taken, p'.sources[id]? = some s' ∧
    s.cells = taken ++ s'.cells ∧ ∀ e, .fail e ∈ taken → signal = .fail e

lemma Draws.refl (p : Plant α ε Empty) (signal : Signal α ε) : p.Draws p signal :=
  fun _ s hs => ⟨s, [], hs, rfl, fun _ he => by cases he⟩

lemma Draws.trans (h : p.Draws p₁ signal) (h' : p₁.Draws p₂ signal) : p.Draws p₂ signal := by
  intro id s hs
  obtain ⟨s₁, taken, hs₁, hcells, hshown⟩ := h id s hs
  obtain ⟨s₂, taken', hs₂, hcells', hshown'⟩ := h' id s₁ hs₁
  refine ⟨s₂, taken ++ taken', hs₂, ?_, fun e he => ?_⟩
  · rw [hcells, hcells', List.append_assoc]
  · rcases List.mem_append.1 he with he | he
    · exact hshown e he
    · exact hshown' e he

/-- What shows every error of a signal shows every error that is taken. -/
lemma Draws.mono (h : p.Draws p' signal) (hshown : ∀ e, signal = .fail e → signal' = .fail e) :
    p.Draws p' signal' := by
  intro id s hs
  obtain ⟨s', taken, hs', hcells, herror⟩ := h id s hs
  exact ⟨s', taken, hs', hcells, fun e he => hshown e (herror e he)⟩

lemma draws_setSource {id : Nat} {s s' : Source α ε} {taken : List (Cell α ε)}
    (hs : p.sources[id]? = some s) (hcells : s.cells = taken ++ s'.cells)
    (hshown : ∀ e, .fail e ∈ taken → signal = .fail e) :
    p.Draws (p.setSource id s') signal := by
  intro i t ht
  by_cases hi : id = i
  · subst hi
    obtain rfl := Option.some.inj (hs.symm.trans ht)
    exact ⟨s', taken, Supply.getElem?_setSource_self (S := p.supply) hs, hcells, hshown⟩
  · refine ⟨t, [], ?_, rfl, fun _ he => by cases he⟩
    rwa [setSource_sources, List.getElem?_set_ne hi]

/-- Letting go of a stage takes nothing from the sources. -/
lemma Releases.draws (hrel : Releases p s p') (signal : Signal α ε) : p.Draws p' signal := by
  induction hrel with
  | source hs => exact draws_setSource hs (List.nil_append _).symm fun _ he => by cases he
  | absent _ => exact .refl _ _
  | stays _ _ => exact .refl _ _
  | last _ _ _ _ ih => exact ih
  | operator _ ih => rwa [noteCall_eq] at ih
  | drained =>
    rw [noteCall_eq]
    exact .refl _ _
  | nobody => exact .refl _ _
  | next _ _ ihfirst ihrest => exact ihfirst.trans ihrest

lemma Settles.draws {r : Reaction (Op α Empty) α ε} (hset : Settles p r input s' p')
    (signal : Signal α ε) : p.Draws p' signal := by
  cases hset with
  | keeps _ => exact .refl _ _
  | closes _ hrel => exact hrel.draws signal

lemma Sheds.draws {before after left : List (Stage α Empty)} {effect : Round.Effect}
    (hshed : Sheds p before s after effect left p') (signal : Signal α ε) :
    p.Draws p' signal := by
  cases hshed with
  | nothing => exact .refl _ _
  | asked hrel => exact hrel.draws signal
  | everything hrel => exact hrel.draws signal

/-- A stage that is asked shows the error that is taken from a source. -/
theorem Asks.draws (hask : Asks w p s signal s' p') : p.Draws p' signal := by
  induction hask with
  | @source id s hs =>
    obtain ⟨taken, hcells, hshown⟩ := s.exists_taken w
    exact draws_setSource hs hcells hshown
  | absent _ => exact .refl _ _
  | dropped _ _ => exact .refl _ _
  | buffered _ _ _ => exact .refl _ _
  | gone _ _ _ _ => exact .refl _ _
  | passes _ _ _ ih => exact ih
  | ended _ _ _ hrel ih => exact ih.trans (hrel.draws _)
  | own _ hset =>
    rw [noteCall_eq] at hset
    exact hset.draws _
  | @reacts p₁ p₂ op input input' s' signal _ _ hset ih =>
    rw [noteCall_eq] at hset
    refine (ih.mono ?_).trans (hset.draws _)
    rintro e rfl
    exact op.closes.fail e
  | drains _ =>
    rw [noteCall_eq]
    exact .refl _ _
  | done _ => exact .refl _ _
  | nobody => exact .refl _ _
  | turn hout _ hshed ih =>
    refine (ih.mono ?_).trans (hshed.draws _)
    rintro e rfl
    rw [hout]
    rfl

end Plant

/-! ## Nothing is left -/

namespace Stage

/-- A stage other than a source has let go of all that it read. -/
def IsSpent (S : Supply α ε Empty) : Stage α Empty → Prop
  | source _ | operator .. => False
  | branch k slot => S.Exhausted (.branch k slot)
  | drained op => op.IsQuiet
  | union inputs _ => inputs = []

variable {S S' : Supply α ε Empty} {p : Plant α ε Empty} {s : Stage α Empty}

/-- A stage stays spent while the plant gets older. -/
lemma IsSpent.mono
    (hages : ∀ k slot, S.Exhausted (.branch k slot) → S'.Exhausted (.branch k slot))
    (hs : s.IsSpent S) : s.IsSpent S' := by
  cases s with
  | source id => exact hs
  | branch k slot => exact hages k slot hs
  | operator op input => exact hs
  | drained op => exact hs
  | union inputs round => exact hs

/-- A spent stage ends whenever it is asked, and nothing changes. -/
theorem IsSpent.step (hs : s.IsSpent p.supply) (w : Waker) : p.step w s = (.finish, s, p) := by
  cases s with
  | source id => exact hs.elim
  | operator op input => exact hs.elim
  | branch k slot =>
    have hread : Plant.read w p.hubs.length p k slot = (.finish, p) := by
      cases hh : p.hubs[k]? with
      | none => cases hlength : p.hubs.length <;> simp only [Plant.read, hh]
      | some h =>
        obtain ⟨hlt, -⟩ := List.getElem?_eq_some_iff.1 hh
        obtain ⟨depth, hdepth⟩ := Nat.exists_eq_succ_of_ne_zero (Nat.ne_zero_of_lt hlt)
        rw [hdepth]
        cases hp : h.position? slot with
        | none => simp only [Plant.read, hh, hp]
        | some position =>
          obtain ⟨hin, hnil⟩ := hs h hh position hp
          exact Plant.read_gone hh hp (Hub.itemAt?_of_unread_eq_nil hnil) hin
    rw [Plant.step, Stage.stepWith, hread]
  | drained op =>
    rw [Plant.step, Stage.stepWith]
    cases hidle : (op.idle false : Option (Reaction (Op α Empty) α ε)) with
    | none => rfl
    | some r =>
      obtain rfl := op.closes.rest hs hidle
      dsimp only [Reaction.keep]
      rw [Plant.noteCall_eq]
  | union inputs round =>
    obtain rfl := hs
    rfl

end Stage

namespace Plant

variable {p p' : Plant α ε Empty} {s s' input : Stage α Empty} {w : Waker} {signal : Signal α ε}
  {n : Nat}

/-- An operator that ends lets go of its input. -/
lemma Settles.isSpent {r : Reaction (Op α Empty) α ε}
    (hset : Settles p r input s' p') (hcloses : r.keepsInput = false ∧ r.state.IsQuiet) :
    s'.IsSpent p'.supply := by
  cases hset with
  | keeps hkeeps => cases hkeeps.symm.trans hcloses.1
  | closes _ _ => exact hcloses.2

/-- A stage that has shown its end or an error is spent, unless it is a source. -/
theorem Asks.isSpent (hask : Asks w p s signal s' p') (hS : p.supply.Layered)
    (hsource : ∀ id, s ≠ .source id) (hlast : signal.isLast = true) : s'.IsSpent p'.supply := by
  cases hask with
  | source _ => exact (hsource _ rfl).elim
  | absent _ => exact (hsource _ rfl).elim
  | dropped hh hdead =>
    intro h hh' q hq
    obtain rfl := Option.some.inj (hh.symm.trans hh')
    cases hdead.symm.trans hq
  | buffered _ _ _ => cases hlast
  | gone hh hlive hnothing hin =>
    intro h hh' q hq
    obtain rfl := Option.some.inj (hh.symm.trans hh')
    obtain rfl := Option.some.inj (hlive.symm.trans hq)
    exact ⟨hin, Hub.unread_of_itemAt?_eq_none hnothing⟩
  | passes _ _ hpass => cases hpass <;> cases hlast
  | ended hpull _ hask hrel =>
    have hdone := Asks.exhausted_of_ended hpull hask hrel hS
    exact hdone
  | @own _ op _ _ r hidle hset =>
    obtain ⟨hkeeps, hquiet⟩ := op.closes.own hidle hlast
    exact hset.isSpent ⟨hkeeps rfl, hquiet⟩
  | @reacts _ _ op _ _ _ signal hidle _ hset =>
    exact hset.isSpent (op.closes.react signal hidle hlast)
  | @drains op r hidle => exact (op.closes.own hidle hlast).2
  | @done op hidle => exact Op.isQuiet_of_idle_eq_none hidle
  | nobody => rfl
  | turn hout _ hshed => exact hshed.left_eq_nil (by simpa using hout) hlast

/-- No other stage becomes a source. -/
lemma Asks.ne_source (hask : Asks w p s signal s' p') (hsource : ∀ id, s ≠ .source id) (id : Nat) :
    s' ≠ .source id := by
  cases hask with
  | source _ => exact (hsource _ rfl).elim
  | absent _ => exact (hsource _ rfl).elim
  | own _ hset => cases hset <;> nofun
  | reacts _ _ hset => cases hset <;> nofun
  | _ => nofun

end Plant

end SparqlStream
