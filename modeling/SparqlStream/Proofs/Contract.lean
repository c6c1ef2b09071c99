import Mathlib.Tactic
import SparqlStream.Matcher.Script
import SparqlStream.Matcher.Search
import SparqlStream.Proofs.Operation
import SparqlStream.Query.Run

/-!
# What an operator promises

Over an input that shows nothing after its first error or end, an operator shows nothing after its
own first error or end, and the error that it takes from its input is the error that it shows.
`Operator.Contract` states this for a set of states, each of them together with what is known of
the input and whether the operator has ended.  `Operator.Keeps` is the largest such set, so what
keeps the contract can be told for one state at a time.

All operators of a network keep the contract, and so do scripts and searches.  Most of them let go
of their input when they end and are quiet from then on (`Operator.Closes`); those that only pass
on what they are given never let go of it (`Operator.keeps_passing`).
-/

namespace SparqlStream

namespace Signal

variable {α β ε : Type}

/-- Whether a signal is the last one of a stream that keeps to the rules. -/
def isLast : Signal α ε → Bool
  | fail _ | finish => true
  | _ => false

@[simp] lemma isLast_map (f : α → β) (signal : Signal α ε) :
    (signal.map f).isLast = signal.isLast := by
  cases signal <;> rfl

end Signal

namespace Operator

/-! ## The contract -/

/-- An input of which it is known whether it has ended, unless it is let go of. -/
def held (keeps inputEnded : Bool) : Option Bool := if keeps then some inputEnded else none

/-- Some states keep the contract.  `K input ended op` says that an operator may be in the state
`op` when its input has been let go of (`none`) or has ended or not (`some`), and the operator has
ended or not. -/
structure Contract (α ε : Type) {σ β : Type} [Operator σ α β ε]
    (K : Option Bool → Bool → σ → Prop) :
    Prop where
  /-- The operator does something while it has an input. -/
  own : ∀ {inputEnded ended : Bool} {op : σ} {r : Reaction σ β ε}, K (some inputEnded) ended op →
    (idle α op true : Option (Reaction σ β ε)) = some r →
      (ended = true → r.shows = .finish) ∧
        K (held r.keepsInput inputEnded) (ended || r.shows.isLast) r.state
  /-- The operator does something after it has let go of its input. -/
  drain : ∀ {ended : Bool} {op : σ} {r : Reaction σ β ε}, K none ended op →
    (idle α op false : Option (Reaction σ β ε)) = some r →
      (ended = true → r.shows = .finish) ∧ K none (ended || r.shows.isLast) r.state
  /-- The operator takes a signal of its input. -/
  react : ∀ {inputEnded ended : Bool} {op : σ} (signal : Signal α ε), K (some inputEnded) ended op →
    (idle α op true : Option (Reaction σ β ε)) = none → (inputEnded = true → signal = .finish) →
      let r : Reaction σ β ε := Operator.react op signal
      (ended = true → r.shows = .finish) ∧ (∀ e, signal = .fail e → r.shows = .fail e) ∧
        K (held r.keepsInput (inputEnded || signal.isLast)) (ended || r.shows.isLast) r.state

/-- A state of an operator that keeps the contract. -/
def Keeps (α ε : Type) {σ β : Type} [Operator σ α β ε] (input : Option Bool) (ended : Bool)
    (op : σ) : Prop :=
  ∃ K : Option Bool → Bool → σ → Prop, Contract α ε K ∧ K input ended op

/-- The states that keep the contract keep it together. -/
theorem contract_keeps {σ α β ε : Type} [Operator σ α β ε] :
    Contract α ε (Keeps α ε : Option Bool → Bool → σ → Prop) where
  own := by
    rintro inputEnded ended op r ⟨K, hK, hop⟩ hidle
    obtain ⟨hshows, hnext⟩ := hK.own hop hidle
    exact ⟨hshows, K, hK, hnext⟩
  drain := by
    rintro ended op r ⟨K, hK, hop⟩ hidle
    obtain ⟨hshows, hnext⟩ := hK.drain hop hidle
    exact ⟨hshows, K, hK, hnext⟩
  react := by
    rintro inputEnded ended op signal ⟨K, hK, hop⟩ hidle hsignal
    obtain ⟨hshows, hfail, hnext⟩ := hK.react signal hop hidle hsignal
    exact ⟨hshows, hfail, K, hK, hnext⟩

/-! ## Operators that keep it -/

section General

variable {σ σ' α β ε : Type} [Operator σ α β ε] [Operator σ' α β ε] {input : Option Bool}
  {ended : Bool} {op : σ}

/-- An operator lets go of its input when it ends or fails, and does nothing but end again once it
is quiet. -/
structure Closes (α ε : Type) {σ β : Type} [Operator σ α β ε] (quiet : σ → Prop) (op : σ) :
    Prop where
  own : ∀ {hasInput : Bool} {r : Reaction σ β ε}, idle α op hasInput = some r →
    r.shows.isLast = true → (hasInput = true → r.keepsInput = false) ∧ quiet r.state
  react : ∀ signal : Signal α ε, (idle α op true : Option (Reaction σ β ε)) = none →
    (react op signal : Reaction σ β ε).shows.isLast = true →
      (Operator.react op signal : Reaction σ β ε).keepsInput = false ∧
        quiet (Operator.react op signal : Reaction σ β ε).state
  rest : ∀ {r : Reaction σ β ε}, quiet op → idle α op false = some r → r = .keep op .finish
  fail : ∀ e : ε, (Operator.react op (.fail e : Signal α ε) : Reaction σ β ε).shows = .fail e

/-- Operators that let go of their input when they end keep the contract. -/
lemma contract_of_closes {quiet : σ → Prop} (hcloses : ∀ op : σ, Closes α ε quiet op) :
    Contract α ε fun input ended op => ended = true → input = none ∧ quiet op where
  own {inputEnded ended op r} h hr := by
    cases ended with
    | true => cases (h rfl).1
    | false =>
      refine ⟨fun hended => absurd hended Bool.false_ne_true, fun hlast => ?_⟩
      obtain ⟨hkeeps, hquiet⟩ := (hcloses op).own hr hlast
      rw [hkeeps rfl]
      exact ⟨rfl, hquiet⟩
  drain {ended op r} h hr := by
    cases ended with
    | true =>
      obtain rfl := (hcloses op).rest (h rfl).2 hr
      exact ⟨fun _ => rfl, fun _ => h rfl⟩
    | false =>
      refine ⟨fun hended => absurd hended Bool.false_ne_true, fun hlast => ?_⟩
      exact ⟨rfl, ((hcloses op).own hr hlast).2⟩
  react {inputEnded ended op} signal h hnone _ := by
    cases ended with
    | true => cases (h rfl).1
    | false =>
      refine ⟨fun hended => absurd hended Bool.false_ne_true, ?_, fun hlast => ?_⟩
      · rintro e rfl
        exact (hcloses op).fail e
      · obtain ⟨hkeeps, hquiet⟩ := (hcloses op).react signal hnone hlast
        rw [hkeeps]
        exact ⟨rfl, hquiet⟩

lemma keeps_of_closes {quiet : σ → Prop} (hcloses : ∀ op : σ, Closes α ε quiet op) (op : σ) :
    Keeps α ε input false op :=
  ⟨_, contract_of_closes hcloses, fun h => absurd h Bool.false_ne_true⟩

/-- An operator that does nothing of its own and lets go of its input when it ends. -/
lemma closes_of_idle_eq_none (hidle : ∀ b, (idle α op b : Option (Reaction σ β ε)) = none)
    (hlast : ∀ signal : Signal α ε, (react op signal : Reaction σ β ε).shows.isLast = true →
      (react op signal : Reaction σ β ε).keepsInput = false)
    (hfail : ∀ e : ε, (react op (.fail e : Signal α ε) : Reaction σ β ε).shows = .fail e) :
    Closes α ε (fun _ : σ => True) op where
  own hr := by
    rw [hidle] at hr
    cases hr
  react signal _ h := ⟨hlast signal h, trivial⟩
  rest _ hr := by
    rw [hidle] at hr
    cases hr
  fail := hfail

/-- An operator that passes on whatever its input shows, in other terms. -/
lemma keeps_passing (f : α → β) (hidle : ∀ b, (idle α op b : Option (Reaction σ β ε)) = none)
    (hreact : ∀ signal : Signal α ε,
      (react op signal : Reaction σ β ε) = .keep op (signal.map f)) :
    Keeps α ε (some false) false op := by
  refine ⟨fun input ended op' => op' = op ∧ (ended = true → input = some true), ⟨?_, ?_, ?_⟩,
    rfl, fun h => absurd h Bool.false_ne_true⟩
  · rintro _ _ _ _ ⟨rfl, -⟩ hr
    rw [hidle] at hr
    cases hr
  · rintro _ _ _ ⟨rfl, -⟩ hr
    rw [hidle] at hr
    cases hr
  · rintro inputEnded ended _ signal ⟨rfl, h⟩ _ hsignal
    have hinput : ended = true → inputEnded = true := fun hended => Option.some.inj (h hended)
    rw [hreact]
    refine ⟨fun hended => ?_, ?_, rfl, fun hended => ?_⟩
    · rw [hsignal (hinput hended)]
      rfl
    · rintro e rfl
      rfl
    · have hor : ended = true ∨ signal.isLast = true := by
        rw [← Signal.isLast_map f]
        exact (Bool.or_eq_true _ _).mp hended
      rcases hor with hended | hlast
      · simp [Reaction.keep, held, hinput hended]
      · simp [Reaction.keep, held, hlast]

/-- What keeps the contract keeps it as a state of an operator that embeds it. -/
lemma Keeps.embed {f : σ → σ'} (hf : Embeds α ε f) (hop : Keeps α ε input ended op) :
    Keeps α ε input ended (f op) := by
  refine ⟨fun input ended op' => ∃ op, f op = op' ∧ Keeps α ε input ended op, ⟨?_, ?_, ?_⟩,
    op, rfl, hop⟩
  · rintro inputEnded ended op' r ⟨op, rfl, hop⟩ hidle
    rw [hf.idle, Option.map_eq_some_iff] at hidle
    obtain ⟨r, hr, rfl⟩ := hidle
    obtain ⟨hshows, hnext⟩ := contract_keeps.own hop hr
    exact ⟨hshows, r.state, rfl, hnext⟩
  · rintro ended op' r ⟨op, rfl, hop⟩ hidle
    rw [hf.idle, Option.map_eq_some_iff] at hidle
    obtain ⟨r, hr, rfl⟩ := hidle
    obtain ⟨hshows, hnext⟩ := contract_keeps.drain hop hr
    exact ⟨hshows, r.state, rfl, hnext⟩
  · rintro inputEnded ended op' signal ⟨op, rfl, hop⟩ hidle hsignal
    rw [hf.idle, Option.map_eq_none_iff] at hidle
    obtain ⟨hshows, hfail, hnext⟩ := contract_keeps.react signal hop hidle hsignal
    rw [hf.react]
    exact ⟨hshows, hfail, _, rfl, hnext⟩

/-- An operator that embeds one that lets go of its input when it ends does so too. -/
lemma Closes.embed {f : σ → σ'} (hf : Embeds α ε f) {quiet : σ → Prop} {quiet' : σ' → Prop}
    (hquiet : ∀ op, quiet' (f op) ↔ quiet op) (hop : Closes α ε quiet op) :
    Closes α ε quiet' (f op) where
  own hr hlast := by
    rw [hf.idle, Option.map_eq_some_iff] at hr
    obtain ⟨r, hr, rfl⟩ := hr
    obtain ⟨hkeeps, hstate⟩ := hop.own hr hlast
    exact ⟨hkeeps, (hquiet _).2 hstate⟩
  react signal hnone hlast := by
    rw [hf.idle, Option.map_eq_none_iff] at hnone
    rw [hf.react] at hlast ⊢
    obtain ⟨hkeeps, hstate⟩ := hop.react signal hnone hlast
    exact ⟨hkeeps, (hquiet _).2 hstate⟩
  rest hstate hr := by
    rw [hf.idle, Option.map_eq_some_iff] at hr
    obtain ⟨r, hr, rfl⟩ := hr
    obtain rfl := hop.rest ((hquiet _).1 hstate) hr
    rfl
  fail e := by
    rw [hf.react]
    exact hop.fail e

end General

section Instances

variable {α ε : Type}

lemma closes_filter (f : Filter α) : Closes α ε (fun _ => True) f := by
  refine closes_of_idle_eq_none (fun _ => rfl) (fun signal hlast => ?_) fun _ => rfl
  cases signal with
  | fail e => rfl
  | finish => rfl
  | item a =>
    have hshows : (Filter.react f (.item a : Signal α ε)).shows.isLast = false := by
      simp only [Filter.react, Reaction.keep]
      split <;> rfl
    cases hshows.symm.trans hlast
  | pending => cases hlast
  | again => cases hlast

lemma closes_distinct (d : Distinct α) : Closes α ε (fun _ => True) d := by
  refine closes_of_idle_eq_none (fun _ => rfl) (fun signal hlast => ?_) fun _ => rfl
  cases signal with
  | fail e => rfl
  | finish => rfl
  | item a =>
    have hshows : (Distinct.react d (.item a : Signal α ε)).shows.isLast = false := by
      simp only [Distinct.react]
      split <;> rfl
    cases hshows.symm.trans hlast
  | pending => cases hlast
  | again => cases hlast

lemma closes_slice (s : Slice) : Closes α ε (fun _ => True) s := by
  refine closes_of_idle_eq_none (fun _ => rfl) (fun signal hlast => ?_) fun _ => rfl
  cases signal with
  | fail e => rfl
  | finish => rfl
  | item a =>
    have hshows : (Slice.react s (.item a : Signal α ε)).shows.isLast = false := by
      simp only [Slice.react]
      split <;> [rfl; rfl; (split <;> rfl)]
    cases hshows.symm.trans hlast
  | pending => cases hlast
  | again => cases hlast

lemma closes_hasItem (s : HasItem) : Closes α ε (fun _ => True) s := by
  refine closes_of_idle_eq_none (fun _ => rfl) (fun signal hlast => ?_) fun _ => rfl
  cases signal with
  | item a => rfl
  | fail e => rfl
  | finish => rfl
  | pending => cases hlast
  | again => cases hlast

lemma keeps_projection (p : Projection) : Keeps Binding ε (some false) false p :=
  keeps_passing p.solution (fun _ => rfl) fun _ => rfl

/-- A sorter that does something of its own shows an item, unless it holds nothing and has no
input. -/
lemma idle_sorter {s : Sorter α} {hasInput : Bool} {r : Reaction (Sorter α) α ε}
    (hr : s.idle hasInput = some r) :
    r.shows.isLast = false ∨ hasInput = false ∧ s.held = [] ∧ r = .keep s .finish := by
  unfold Sorter.idle at hr
  split at hr
  · cases hr
  case isFalse hbusy =>
    cases hheld : s.held with
    | cons a rest =>
      rw [hheld] at hr
      obtain rfl := Option.some.inj hr
      exact .inl rfl
    | nil =>
      rw [hheld] at hr
      rw [Sorter.isFull_of_held_eq_nil hheld] at hbusy
      exact .inr ⟨by simpa using hbusy, rfl, (Option.some.inj hr).symm⟩

/-- A sorter lets go of its input together with what it holds when it meets an error. -/
lemma react_sorter {s : Sorter α} {signal : Signal α ε}
    (hlast : (s.react signal).shows.isLast = true) :
    (s.react signal).keepsInput = false ∧ (s.react signal).state.held = [] := by
  cases signal with
  | fail e => exact ⟨rfl, rfl⟩
  | item a => cases hlast
  | finish => cases hlast
  | pending => cases hlast
  | again => cases hlast

/-- A sorter that has ended holds nothing. -/
lemma closes_sorter (s : Sorter α) : Closes α ε (fun s : Sorter α => s.held = []) s where
  own hr hlast := by
    rcases idle_sorter hr with hshows | ⟨rfl, hheld, rfl⟩
    · cases hshows.symm.trans hlast
    · exact ⟨fun h => absurd h Bool.false_ne_true, hheld⟩
  react _ _ hlast := react_sorter hlast
  rest hheld hr := by
    simp only [idle, Sorter.idle, hheld, Bool.false_and, Bool.false_eq_true, if_false] at hr
    exact (Option.some.inj hr).symm
  fail _ := rfl

/-- A template that has ended has nothing ready. -/
lemma closes_template (t : Template) : Closes Binding ε (fun t : Template => t.ready = []) t where
  own hr hlast := by
    cases hready : t.ready <;> simp only [idle, hready] at hr <;> cases hr
    cases hlast
  react signal hnone hlast := by
    have hready : t.ready = [] := by
      cases hready : t.ready with
      | nil => rfl
      | cons x rest =>
        simp only [idle, hready] at hnone
        cases hnone
    cases signal with
    | fail e => exact ⟨rfl, hready⟩
    | finish => exact ⟨rfl, hready⟩
    | item b => cases hlast
    | pending => cases hlast
    | again => cases hlast
  rest hready hr := by
    simp only [idle, hready] at hr
    cases hr
  fail _ := rfl

/-- An operator that may be missing keeps the contract if it does whenever it is there. -/
lemma keeps_option {σ : Type} [Operator σ α α ε] {input : Option Bool} {op : Option σ}
    (hop : ∀ s, op = some s → Keeps α ε input false s) (hinput : op = none → input = some false) :
    Keeps α ε input false op := by
  cases op with
  | some s => exact (hop s rfl).embed ⟨fun _ _ => rfl, fun _ _ => rfl⟩
  | none =>
    rw [hinput rfl]
    refine keeps_passing id (fun _ => rfl) fun signal => ?_
    cases signal <;> rfl

/-- An operator of a network keeps the contract if it does when it is a matcher. -/
lemma keeps_op {μ : Type} [Operator μ α α ε] (op : Op α μ)
    (hmatcher : ∀ k m, op = .matcher k m → Keeps α ε (some false) false m) :
    Keeps α ε (some false) false op := by
  cases op with
  | filter f => exact (keeps_of_closes closes_filter f).embed ⟨fun _ _ => rfl, fun _ _ => rfl⟩
  | distinct d =>
    exact (keeps_of_closes closes_distinct d).embed ⟨fun _ _ => rfl, fun _ _ => rfl⟩
  | slice s => exact (keeps_of_closes closes_slice s).embed ⟨fun _ _ => rfl, fun _ _ => rfl⟩
  | sort s => exact (keeps_of_closes closes_sorter s).embed ⟨fun _ _ => rfl, fun _ _ => rfl⟩
  | matcher k m => exact (hmatcher k m rfl).embed ⟨fun _ _ => rfl, fun _ _ => rfl⟩

end Instances

/-! ## Matchers that keep it -/

/-- A step that shows the end or an error lets go of the input, and nothing is left to do. -/
lemma advance_script {s : Script} {run : ScriptRun}
    (hlast : (s.advance run).shows.isLast = true) :
    (s.advance run).keepsInput = false ∧ (s.advance run).state.current = none := by
  unfold Script.advance at hlast ⊢
  cases hleft : run.left with
  | nil =>
    rw [hleft] at hlast
    dsimp only [Reaction.keep] at hlast
    split at hlast <;> cases hlast
  | cons step left =>
    rw [hleft] at hlast
    cases step with
    | fail e => exact ⟨rfl, rfl⟩
    | emit b => cases hlast
    | pause => cases hlast
    | bind entries =>
      dsimp only at hlast
      split at hlast <;> cases hlast

/-- A script that has ended does nothing any more. -/
lemma closes_script (s : Script) :
    Closes Binding ResultsError (fun s : Script => s.current = none) s where
  own hr hlast := by
    obtain ⟨run, -, rfl⟩ := Option.map_eq_some_iff.1 hr
    exact ⟨fun _ => (advance_script hlast).1, (advance_script hlast).2⟩
  react signal hnone hlast := by
    have hcurrent : s.current = none := Option.map_eq_none_iff.1 hnone
    cases signal with
    | fail e => exact ⟨rfl, hcurrent⟩
    | finish => exact ⟨rfl, hcurrent⟩
    | item b => cases hlast
    | pending => cases hlast
    | again => cases hlast
  rest hcurrent hr := by
    simp only [idle, hcurrent] at hr
    cases hr
  fail _ := rfl

/-- A search that goes on by itself never ends. -/
lemma not_isLast_idle_search {ε : Type} {s : Search} {r : Reaction Search Binding ε}
    (hr : s.idle = some r) : r.shows.isLast = false := by
  unfold Search.idle at hr
  split at hr
  · obtain rfl := Option.some.inj hr
    unfold Search.advance
    split
    · rfl
    · dsimp only
      split <;> rfl
  · obtain rfl := Option.some.inj hr
    rfl
  · cases hr

/-- A search that has ended has nothing left to try. -/
lemma closes_search {ε : Type} (s : Search) :
    Closes Binding ε (fun s : Search => (s.idle : Option (Reaction Search Binding ε)) = none)
      s where
  own hr hlast := by
    cases (not_isLast_idle_search hr).symm.trans hlast
  react signal hnone hlast := by
    cases signal with
    | fail e => exact ⟨rfl, hnone⟩
    | finish => exact ⟨rfl, hnone⟩
    | item b =>
      have hshows : (s.begin b : Reaction Search Binding ε).shows.isLast = false := by
        unfold Search.begin
        split <;> rfl
      cases hshows.symm.trans hlast
    | pending => cases hlast
    | again => cases hlast
  rest hnone hr := by
    cases hnone.symm.trans hr
  fail _ := rfl

end Operator

end SparqlStream
