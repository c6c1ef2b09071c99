import Mathlib.Tactic
import SparqlStream.Proofs.Attachment
import SparqlStream.Proofs.Reading
import SparqlStream.Proofs.Solving

/-!
# A search is a nested loop

A search keeps a stack of frames and looks up the triples that it tries in an index.  What it finds
for a binding is what a loop over all triples of the graph finds, with one loop for each pattern
inside the loop for the pattern before: `TripleIndex.answers_perm_nestedLoop`.

A search on a source shows this for one binding after another.  `Flow.Records` also tells how often
the source had been asked whenever the search showed something.  So the record of a search is known
in full, `transcript`: nothing is asked of the source before the last binding is dealt with, and
nothing is shown after an error.
-/

namespace SparqlStream

/-! ## Nested loops -/

/-- The binding in which matching some patterns with triples in turn ends, unless they conflict. -/
def Binding.matchAll (b : Binding) (choice : List (SlotPattern × Triple)) : Option Binding :=
  choice.foldlM (fun b c => c.1.matchTriple b c.2) b

namespace Graph

/-- All ways to choose a triple of the graph for each of some patterns. -/
def choices (g : Graph) : List SlotPattern → List (List (SlotPattern × Triple))
  | [] => [[]]
  | p :: ps => g.triples.flatMap fun t => (g.choices ps).map ((p, t) :: ·)

/-- What a nested loop over all triples of the graph makes of a binding: the binding extended by
each choice of triples that match, without the variables that stand for blank nodes.  If there is
none and the patterns are optional, the binding is left. -/
def nestedLoop (g : Graph) (ps : List TriplePattern) (optional : Bool) (b : Binding) :
    List Binding :=
  let found := (g.choices (ps.map .ofPattern)).filterMap b.matchAll
  if optional && found.isEmpty then [b]
  else found.map (·.restrict (· ∉ ps.flatMap (·.hiddenVariables)))

@[simp] lemma nestedLoop_nil (g : Graph) (optional : Bool) (b : Binding) :
    g.nestedLoop [] optional b = [b] := by
  have hfound : (g.choices ([].map .ofPattern)).filterMap b.matchAll = [b] := rfl
  rw [nestedLoop, hfound]
  simp [Binding.restrict]

end Graph

section Choices

variable {g : Graph} {index : TripleIndex}

lemma flatMap_filter_eq {α β : Type} {keeps : α → Bool} {f : α → List β} {l : List α}
    (h : ∀ a ∈ l, keeps a = false → f a = []) : (l.filter keeps).flatMap f = l.flatMap f := by
  induction l with
  | nil => rfl
  | cons a l ih =>
    obtain ⟨ha, hl⟩ := List.forall_mem_cons.1 h
    cases hkeeps : keeps a with
    | true => rw [List.filter_cons_of_pos hkeeps, List.flatMap_cons, List.flatMap_cons, ih hl]
    | false =>
      rw [List.filter_cons_of_neg (Bool.eq_false_iff.1 hkeeps), List.flatMap_cons, ha hkeeps,
        List.nil_append, ih hl]

/-- The triples that are not looked up for a pattern do not match it. -/
lemma SlotPattern.flatMap_candidates_perm {β : Type} (hindex : index.Lists g) (p : SlotPattern)
    (b : Binding) {f : Triple → List β} (hf : ∀ t, p.matchTriple b t = none → f t = []) :
    ((p.candidates index b).flatMap f).Perm (g.triples.flatMap f) := by
  obtain ⟨keeps, hperm, hkeeps⟩ := candidates_perm hindex p b
  refine (hperm.flatMap_right f).trans (.of_eq (flatMap_filter_eq fun t _ ht => hf t ?_))
  rw [Option.eq_none_iff_forall_ne_some]
  intro b' hmatch
  obtain ⟨hg, hbecomes⟩ := matchTriple_eq_some.1 hmatch
  rw [hkeeps _ b' t hg hbecomes] at ht
  cases ht

lemma filterMap_choices_cons (p : SlotPattern) (ps : List SlotPattern) (b : Binding) :
    (g.choices (p :: ps)).filterMap b.matchAll = g.triples.flatMap fun t =>
      (p.matchTriple b t).elim [] fun b' => (g.choices ps).filterMap b'.matchAll := by
  rw [Graph.choices, List.filterMap_flatMap]
  refine List.flatMap_congr fun t _ => ?_
  rw [List.filterMap_map]
  cases hmatch : p.matchTriple b t with
  | none =>
    refine List.filterMap_eq_nil_iff.2 fun c _ => ?_
    simp [Binding.matchAll, hmatch]
  | some b' =>
    refine List.filterMap_congr fun c _ => ?_
    simp [Binding.matchAll, hmatch]

/-- A search finds what all choices of triples make of a binding. -/
lemma foundFrom_perm_choices (hindex : index.Lists g) (ps : List SlotPattern) (b : Binding) :
    (foundFrom index ps b).Perm ((g.choices ps).filterMap b.matchAll) := by
  induction ps generalizing b with
  | nil => exact .refl _
  | cons p ps ih =>
    rw [foundFrom, filterMap_choices_cons]
    refine List.Perm.trans (List.Perm.flatMap_left _ fun t _ => ?_)
      (SlotPattern.flatMap_candidates_perm hindex p b fun t hmatch => by rw [hmatch]; rfl)
    cases p.matchTriple b t with
    | none => exact .refl _
    | some b' => exact ih b'

/-- A search shows what a nested loop makes of a binding. -/
theorem TripleIndex.answers_perm_nestedLoop (hindex : index.Lists g) (ps : List TriplePattern)
    (optional : Bool) (b : Binding) :
    (index.answers ps optional b).Perm (g.nestedLoop ps optional b) := by
  cases ps with
  | nil => rw [answers_nil, Graph.nestedLoop_nil]
  | cons p ps =>
    have hfound := foundFrom_perm_choices hindex ((p :: ps).map .ofPattern) b
    rw [answers_cons, Search.orUnmatched, Graph.nestedLoop, List.isEmpty_map, hfound.isEmpty_eq]
    generalize (g.choices ((p :: ps).map .ofPattern)).filterMap b.matchAll = found at hfound ⊢
    cases found with
    | nil => cases optional <;> exact .refl _
    | cons b' found => simpa using hfound.map _

end Choices

/-! ## Records -/

namespace Flow

/-- A stream that is asked several times shows some signals.  The record also holds what is seen of
the stream after each signal. -/
inductive Records {τ α ε γ : Type} [Flow τ α ε] (see : τ → γ) :
    τ → List (Signal α ε × γ) → τ → Prop
  | refl (s : τ) : Records see s [] s
  | again {s s' t : τ} {l : List (Signal α ε × γ)} :
    Flow.step s = (.again, s') → Records see s' l t → Records see s l t
  | shows {s s' t : τ} {signal : Signal α ε} {l : List (Signal α ε × γ)} :
    Flow.step s = (signal, s') → signal ≠ .again → Records see s' l t →
      Records see s ((signal, see s') :: l) t

lemma Records.trans {τ α ε γ : Type} [Flow τ α ε] {see : τ → γ} {s s' t : τ}
    {l l' : List (Signal α ε × γ)} (h : Records see s l s') (h' : Records see s' l' t) :
    Records see s (l ++ l') t := by
  induction h with
  | refl _ => exact h'
  | again hstep _ ih => exact .again hstep (ih h')
  | shows hstep hne _ ih => exact .shows hstep hne (ih h')

end Flow

/-- What an operator that answers each item with some items shows for the cells of a source, and how
often the source has been asked then.  The first cell is shown when it is asked for the `k`th
time. -/
def transcript {α ε : Type} (answers : α → List α) :
    Nat → List (Cell α ε) → List (Signal α ε × Nat)
  | k, [] => [(.finish, k)]
  | k, .item a :: rest =>
    (answers a).map (fun b => (.item b, k)) ++ transcript answers (k + 1) rest
  | k, .pause :: rest => (.pending, k) :: transcript answers (k + 1) rest
  | k, .fail e :: _ => [(.fail e, k)]

/-! ## Searches on a source -/

namespace Search

/-- Trying triples until there is a match, or none is left. -/
inductive Finds : Search → Option Binding → Search → Prop
  | nothing {s : Search} : s.frames = [] → Finds s none s
  | found {s s' : Search} {f : Frame} {below : List Frame} {b : Binding} : s.frames = f :: below →
    (s.advance f below : Reaction Search Binding Empty) = .keep s' (.item b) → Finds s (some b) s'
  | next {s s' t : Search} {f : Frame} {below : List Frame} {o : Option Binding} :
    s.frames = f :: below →
    (s.advance f below : Reaction Search Binding Empty) = .keep s' .again → Finds s' o t →
      Finds s o t

/-- Whatever frames a search has, it does not try triples forever. -/
lemma exists_finds (s : Search) : ∃ o s', s.Finds o s' := by
  induction hwork : s.work using Nat.strong_induction_on generalizing s with
  | h n ih =>
    cases hf : s.frames with
    | nil => exact ⟨none, s, .nothing hf⟩
    | cons f below =>
      have htries := tries_advance (ε := Empty) hf
      generalize hr : (s.advance f below : Reaction Search Binding Empty) = r at htries
      cases htries with
      | item _ _ _ => exact ⟨_, _, .found hf hr⟩
      | again _ _ hless =>
        obtain ⟨o, t, ht⟩ := ih _ (hwork ▸ hless) _ rfl
        exact ⟨o, t, .next hf hr ht⟩

end Search

namespace Outlet

/-- How often the sources of an outlet have been asked. -/
def asked {α ε μ : Type} (o : Outlet α ε μ) : Nat := (o.plant.sources.map (·.asked)).sum

section Searching

variable {ε : Type} {w : Waker} {calls : List (CallLog ε)} {s s' : Search}
  {src src' : Source Binding ε} {signal shown : Signal Binding ε}

/-- A search on a source. -/
def searching (w : Waker) (calls : List (CallLog ε)) (s : Search) (src : Source Binding ε) :
    Outlet Binding ε Search :=
  ⟨⟨[src], [], calls, []⟩, .operator (.matcher 0 s) (.source 0), w⟩

/-- A search that has let go of its source. -/
def searched (w : Waker) (calls : List (CallLog ε)) (s : Search) (src : Source Binding ε) :
    Outlet Binding ε Search :=
  ⟨⟨[{ src with isLive := false }], [], calls, []⟩, .drained (.matcher 0 s), w⟩

/-- A search for some patterns on a source with some cells, before anybody has asked it. -/
def matching (index : TripleIndex) (ps : List TriplePattern) (optional : Bool) (w : Waker)
    (cells : List (Cell Binding ε)) : Outlet Binding ε Search :=
  searching w [.start] (.start index ps optional) (.start cells true)

/-- A search that has something to do does not ask its source. -/
lemma step_searching_idle (w : Waker) (calls : List (CallLog ε)) (src : Source Binding ε)
    (h : s.idle = some (.keep s' shown)) :
    ∃ calls', Flow.step (searching w calls s src) = (shown, searching w calls' s' src) := by
  refine ⟨calls.modify 0 (·.noteShown shown), ?_⟩
  show Outlet.step _ = _
  simp only [Outlet.step, searching, Plant.step, Stage.stepWith, Op.idle, Operator.idle, h]
  rfl

/-- A search that has nothing to do asks its source, and lets go of it or not. -/
lemma step_searching_react (calls : List (CallLog ε))
    (hidle : (s.idle : Option (Reaction Search Binding ε)) = none)
    (hsrc : src.step w = (signal, src')) :
    let r : Reaction Search Binding ε := s.react signal
    ∃ calls', Flow.step (searching w calls s src) =
      (r.shows, if r.keepsInput then searching w calls' r.state src'
        else searched w calls' r.state src') := by
  intro r
  refine ⟨calls.modify 0 fun l => (l.notePulled signal).noteShown r.shows, ?_⟩
  show Outlet.step _ = _
  simp only [Outlet.step, searching, Plant.step, Stage.stepWith, Op.idle, Operator.idle, hidle,
    List.getElem?_cons_zero, hsrc, Op.react, Operator.react, Stage.settleWith]
  cases hkeeps : r.keepsInput <;> simp only [Reaction.map, r, hkeeps] <;> rfl

lemma step_searching_keep (calls : List (CallLog ε))
    (hidle : (s.idle : Option (Reaction Search Binding ε)) = none)
    (hsrc : src.step w = (signal, src')) (hr : s.react signal = .keep s' shown) :
    ∃ calls', Flow.step (searching w calls s src) = (shown, searching w calls' s' src') := by
  have hreact := step_searching_react calls hidle hsrc
  rwa [hr] at hreact

lemma step_searching_close (calls : List (CallLog ε))
    (hidle : (s.idle : Option (Reaction Search Binding ε)) = none)
    (hsrc : src.step w = (signal, src')) (hr : s.react signal = .close s' shown) :
    ∃ calls', Flow.step (searching w calls s src) = (shown, searched w calls' s' src') := by
  have hreact := step_searching_react calls hidle hsrc
  rwa [hr] at hreact

lemma step_searched (hidle : (s.idle : Option (Reaction Search Binding ε)) = none) :
    Flow.step (searched w calls s src) = (.finish, searched w calls s src) := by
  show Outlet.step _ = _
  simp only [Outlet.step, searched, Plant.step, Stage.stepWith, Op.idle, Operator.idle, hidle]
  rfl

/-- A search shows what is left of a binding before it asks its source. -/
lemma records_left (w : Waker) (calls : List (CallLog ε)) (s : Search) (src : Source Binding ε) :
    ∃ calls', Flow.Records asked (searching w calls s src)
      (s.left.map fun b => (.item b, src.asked)) (searching w calls' s.spent src) := by
  induction hwork : s.work using Nat.strong_induction_on generalizing calls s with
  | h n ih =>
    cases hidle : (s.idle : Option (Reaction Search Binding ε)) with
    | none =>
      rw [← Search.spent_eq_self hidle]
      exact ⟨calls, .refl _⟩
    | some r =>
      cases Search.tries_of_idle hidle with
      | @item s' b hleft hspent hless =>
        obtain ⟨calls₁, hstep⟩ := step_searching_idle w calls src hidle
        obtain ⟨calls₂, hrest⟩ := ih _ (hwork ▸ hless) calls₁ s' rfl
        rw [hleft, ← hspent]
        exact ⟨calls₂, .shows hstep (by simp) hrest⟩
      | @again s' hleft hspent hless =>
        obtain ⟨calls₁, hstep⟩ := step_searching_idle w calls src hidle
        obtain ⟨calls₂, hrest⟩ := ih _ (hwork ▸ hless) calls₁ s' rfl
        rw [hleft, ← hspent]
        exact ⟨calls₂, .again hstep hrest⟩

/-- A search that has nothing to do shows what it makes of the cells of its source, one after
another. -/
lemma records_transcript (w : Waker) (calls : List (CallLog ε)) (hs : s.spent = s)
    (src : Source Binding ε) (hclosed : src.closed = true) :
    ∃ calls' src', Flow.Records asked (searching w calls s src)
      (transcript s.matchesOf (src.asked + 1) src.cells) (searched w calls' s src') := by
  have hidle : (s.idle : Option (Reaction Search Binding ε)) = none := by
    rw [← hs]
    exact s.idle_spent
  generalize hcells : src.cells = cells
  induction cells generalizing calls src with
  | nil =>
    obtain ⟨calls', hstep⟩ := step_searching_close calls hidle
      (Source.step_closed (w := w) hcells hclosed) rfl
    exact ⟨calls', _, .shows hstep (by simp) (.refl _)⟩
  | cons c rest ih =>
    let src₁ : Source Binding ε := { src with asked := src.asked + 1, cells := rest }
    cases c with
    | item b =>
      have hsrc : src.step w = (.item b, src₁) := Source.step_item hcells
      rw [transcript]
      rcases Search.begin_cases (ε := ε) hs b with ⟨himage, hr⟩ | ⟨s', hr, rfl, hleft, -⟩
      · obtain ⟨calls₁, hstep⟩ := step_searching_keep calls hidle hsrc hr
        obtain ⟨calls', src', hrest⟩ := ih calls₁ src₁ hclosed rfl
        rw [himage]
        exact ⟨calls', src', .shows hstep (by simp) hrest⟩
      · obtain ⟨calls₁, hstep⟩ := step_searching_keep calls hidle hsrc hr
        obtain ⟨calls₂, hshown⟩ := records_left w calls₁ s' src₁
        obtain ⟨calls', src', hrest⟩ := ih calls₂ src₁ hclosed rfl
        rw [← hleft]
        exact ⟨calls', src', .again hstep (hshown.trans hrest)⟩
    | fail e =>
      obtain ⟨calls', hstep⟩ := step_searching_close calls hidle
        (Source.step_fail (w := w) hcells) rfl
      exact ⟨calls', _, .shows hstep (by simp) (.refl _)⟩
    | pause =>
      obtain ⟨calls₁, hstep⟩ := step_searching_keep calls hidle
        (Source.step_pause (w := w) hcells) rfl
      obtain ⟨calls', src', hrest⟩ := ih calls₁ { src₁ with waker := some w } hclosed rfl
      exact ⟨calls', src', .shows hstep (by simp) hrest⟩

end Searching

section Matching

variable {ε : Type} {g : Graph} {index : TripleIndex}

/-- What a search for some patterns shows for the cells of its source. -/
lemma records_answers (index : TripleIndex) (ps : List TriplePattern) (optional : Bool) (w : Waker)
    (cells : List (Cell Binding ε)) :
    ∃ t, Flow.Records asked (matching index ps optional w cells)
      (transcript (index.answers ps optional) 1 cells) t ∧ Flow.step t = (.finish, t) := by
  obtain ⟨calls, src, h⟩ := records_transcript (ε := ε) w [.start]
    (s := .start index ps optional) rfl (.start cells true) rfl
  exact ⟨_, h, step_searched rfl⟩

/-- A search shows what a nested loop makes of one binding after another.  It asks its source only
after it has shown all of that, and ends with the source or an error of it.  It finds a match, or
that there is none, after trying finitely many triples. -/
theorem records_nestedLoop (hindex : index.Lists g) (ps : List TriplePattern) (optional : Bool)
    (w : Waker) (cells : List (Cell Binding ε)) :
    (∃ outs : Binding → List Binding,
      (∀ b, (outs b).Perm (g.nestedLoop ps optional b)) ∧
      ∃ t, Flow.Records asked (matching index ps optional w cells) (transcript outs 1 cells) t ∧
        Flow.step t = (.finish, t)) ∧
    ∀ s : Search, ∃ found s', s.Finds found s' :=
  ⟨⟨index.answers ps optional, index.answers_perm_nestedLoop hindex ps optional,
    records_answers index ps optional w cells⟩, Search.exists_finds⟩

/-- Somebody who knows somebody who knows somebody. -/
def samplePatterns : List TriplePattern :=
  [⟨.var ⟨"x"⟩, .iri ⟨"knows"⟩, .blank ⟨"n"⟩⟩, ⟨.blank ⟨"n"⟩, .iri ⟨"knows"⟩, .var ⟨"y"⟩⟩]

/-- One binding with a match, and one that is kept without. -/
theorem records_nestedLoop_sample :
    Graph.sample.index.Lists Graph.sample ∧
      ∃ t, Flow.Records asked
        (matching Graph.sample.index samplePatterns true ""
          [.item .empty, .pause, .item ⟨[(⟨"x"⟩, .iri ⟨"c"⟩)]⟩, .fail "broken", .pause])
        [(.item ⟨[(⟨"x"⟩, .iri ⟨"a"⟩), (⟨"y"⟩, .iri ⟨"c"⟩)]⟩, 1), (.pending, 2),
          (.item ⟨[(⟨"x"⟩, .iri ⟨"c"⟩)]⟩, 3), (.fail "broken", 4)] t := by
  have hindex := Graph.sample.lists_index
  obtain ⟨⟨outs, houts, t, hrecords, -⟩, -⟩ := records_nestedLoop hindex samplePatterns true ""
    [.item .empty, .pause, .item ⟨[(⟨"x"⟩, .iri ⟨"c"⟩)]⟩, .fail "broken", .pause]
  have hmatch : outs .empty = [⟨[(⟨"x"⟩, .iri ⟨"a"⟩), (⟨"y"⟩, .iri ⟨"c"⟩)]⟩] :=
    List.perm_singleton.1 ((houts .empty).trans (.of_eq (by decide)))
  have hkept : outs ⟨[(⟨"x"⟩, .iri ⟨"c"⟩)]⟩ = [⟨[(⟨"x"⟩, .iri ⟨"c"⟩)]⟩] :=
    List.perm_singleton.1 ((houts ⟨[(⟨"x"⟩, .iri ⟨"c"⟩)]⟩).trans (.of_eq (by decide)))
  simp only [transcript, hmatch, hkept, List.map_cons, List.map_nil] at hrecords
  exact ⟨hindex, t, hrecords⟩

end Matching

end Outlet

end SparqlStream
