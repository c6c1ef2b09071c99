import Mathlib.Tactic
import SparqlStream.Proofs.Reaching

/-!
# The contract of operators, over networks

A network is built from sources, operators, unions and hubs, and is then driven from outside: its
ends are asked and dropped, and its sources are filled and closed.  `Network.keepsContract_run`
says that every network that is built keeps the contract of operators, whatever is done to it.  An
error that a source shows is shown by the end that is asked.  An end other than a source that has
ended or failed shows nothing but its end from then on and asks nobody, and a source that no other
end reaches has been dropped.

What carries the proof is `Network.Inv`: the hubs are layered, and no leaf is forgotten
(`Supply.Carries`), so that every leaf is reached from an end.
-/

namespace SparqlStream

variable {α ε : Type}

/-! ## Building -/

namespace Network

variable {n n' n₁ n₂ : Network α ε} {name other : String} {s : Stage α Empty} {limit : Nat}
  {signal : Signal α ε}

/-- The leaves that the ends read. -/
def leaves (n : Network α ε) : List Leaf := n.ends.flatMap (·.2.leaves)

/-- The ends have different names. -/
def IsNamed (n : Network α ε) : Prop := (n.ends.map (·.1)).Nodup

instance (n : Network α ε) : Decidable n.IsNamed := inferInstanceAs (Decidable (List.Nodup _))

/-- Networks that are built step by step, with a new name for every stream. -/
inductive Built : Network α ε → Prop
  | empty : Built empty
  | source {n : Network α ε} (name : String) (cells : List (Cell α ε)) (closed : Bool) :
    Built n → (n.addSource name cells closed).IsNamed → Built (n.addSource name cells closed)
  | operator {n n' : Network α ε} (name input : String) (op : Op α Empty) :
    Built n → n.addOperator name input op = some n' → n'.IsNamed → Built n'
  | union {n n' : Network α ε} (name : String) (inputs : List String) :
    Built n → n.addUnion name inputs = some n' → n'.IsNamed → Built n'
  | hub {n n' : Network α ε} (name input : String) (count : Nat) :
    Built n → n.addHub name input count = some n' → n'.IsNamed → Built n'

/-- No leaf of a network is forgotten. -/
structure Inv (n : Network α ε) : Prop where
  names : n.IsNamed
  carries : n.plant.supply.Carries n.leaves

/-- An end stands between others with different names. -/
structure Holds (n : Network α ε) (name : String) (s : Stage α Empty)
    (before after : List (String × Stage α Empty)) : Prop where
  ends : n.ends = before ++ (name, s) :: after
  before : ∀ e ∈ before, e.1 ≠ name
  after : ∀ e ∈ after, e.1 ≠ name

lemma IsNamed.exists_holds (hn : n.IsNamed) (hs : (name, s) ∈ n.ends) :
    ∃ before after, n.Holds name s before after := by
  obtain ⟨before, after, hends⟩ := List.append_of_mem hs
  rw [IsNamed, hends, List.map_append, List.map_cons] at hn
  obtain ⟨-, hafter, hdisjoint⟩ := List.nodup_append.1 hn
  refine ⟨before, after, hends, fun e he => ?_, fun e he heq => ?_⟩
  · exact hdisjoint _ (List.mem_map_of_mem he) _ List.mem_cons_self
  · exact (List.nodup_cons.1 hafter).1 (List.mem_map.2 ⟨e, he, heq⟩)

section Holds

variable {before after : List (String × Stage α Empty)}

lemma Holds.lookup (h : n.Holds name s before after) : n.ends.lookup name = some s := by
  rw [List.lookup_eq_some_iff]
  exact ⟨before, after, h.ends, fun e he => bne_iff_ne.2 (h.before e he).symm⟩

/-- The name belongs to this end only. -/
lemma Holds.eq_of_mem (h : n.Holds name s before after) {t : Stage α Empty}
    (ht : (name, t) ∈ n.ends) : t = s := by
  rw [h.ends] at ht
  rcases List.mem_append.1 ht with ht | ht
  · exact absurd rfl (h.before _ ht)
  · rcases List.mem_cons.1 ht with heq | ht
    · exact (Prod.mk.inj heq).2
    · exact absurd rfl (h.after _ ht)

lemma Holds.filter (h : n.Holds name s before after) :
    n.ends.filter (·.1 ≠ name) = before ++ after := by
  have hkeep : ∀ l : List (String × Stage α Empty), (∀ e ∈ l, e.1 ≠ name) →
      l.filter (·.1 ≠ name) = l := fun l hl =>
    List.filter_eq_self.2 fun e he => decide_eq_true (hl e he)
  rw [h.ends, List.filter_append, List.filter_cons, hkeep _ h.before, hkeep _ h.after, if_neg]
  simp

lemma Holds.setEnd (h : n.Holds name s before after) (s' : Stage α Empty) :
    (n.setEnd name s').Holds name s' before after := by
  have hkeep : ∀ l : List (String × Stage α Empty), (∀ e ∈ l, e.1 ≠ name) →
      l.map (fun e => if e.1 = name then (name, s') else e) = l := fun l hl =>
    (List.map_congr_left fun e he => if_neg (hl e he)).trans (List.map_id l)
  refine ⟨?_, h.before, h.after⟩
  rw [Network.setEnd, h.ends, List.map_append, List.map_cons, hkeep _ h.before, hkeep _ h.after,
    if_pos rfl]

lemma Holds.mem_leaves (h : n.Holds name s before after) (l : Leaf) :
    l ∈ n.leaves ↔ l ∈ s.leaves ∨ l ∈ (before ++ after).flatMap (·.2.leaves) := by
  rw [leaves, h.ends, List.flatMap_append, List.flatMap_append, List.flatMap_cons]
  simp only [List.mem_append]
  tauto

end Holds

lemma mem_of_lookup (hs : n.ends.lookup name = some s) : (name, s) ∈ n.ends := by
  obtain ⟨before, after, hends, -⟩ := List.lookup_eq_some_iff.1 hs
  rw [hends]
  exact List.mem_append_right _ List.mem_cons_self

/-- An end has been taken away. -/
structure Takes (n : Network α ε) (s : Stage α Empty) (n' : Network α ε) : Prop where
  plant : n'.plant = n.plant
  sublist : n'.ends.Sublist n.ends
  leaves : ∀ l, l ∈ n.leaves ↔ l ∈ s.leaves ∨ l ∈ n'.leaves

lemma takes_of_take (hn : n.IsNamed) (htake : n.take name = some (s, n')) : n.Takes s n' := by
  obtain ⟨s', hs, heq⟩ := Option.map_eq_some_iff.1 htake
  obtain ⟨rfl, rfl⟩ := Prod.mk.inj heq
  obtain ⟨before, after, hholds⟩ := hn.exists_holds (mem_of_lookup hs)
  refine ⟨rfl, List.filter_sublist, fun l => ?_⟩
  rw [hholds.mem_leaves l, leaves, hholds.filter]

lemma IsNamed.sublist (hn : n.IsNamed) (hsub : n'.ends.Sublist n.ends) : n'.IsNamed :=
  List.Nodup.sublist (hsub.map _) hn

lemma takes_of_takeAll {names : List String} {ss : List (Stage α Empty)} (hn : n.IsNamed)
    (htake : n.takeAll names = some (ss, n')) : n.Takes (.union ss .start) n' := by
  induction names generalizing n ss with
  | nil =>
    obtain ⟨rfl, rfl⟩ := Prod.mk.inj (Option.some.inj htake)
    refine ⟨rfl, .refl _, fun l => ?_⟩
    rw [Stage.leaves, Stage.leavesOf]
    simp
  | cons name rest ih =>
    rw [takeAll, Option.bind_eq_bind, Option.bind_eq_some_iff] at htake
    obtain ⟨⟨s, n₁⟩, hfirst, htake⟩ := htake
    rw [Option.bind_eq_bind, Option.bind_eq_some_iff] at htake
    obtain ⟨⟨more, n₂⟩, hmore, htake⟩ := htake
    obtain ⟨rfl, rfl⟩ := Prod.mk.inj (Option.some.inj htake)
    have h := takes_of_take hn hfirst
    have h' := ih (hn.sublist h.sublist) hmore
    refine ⟨h'.plant.trans h.plant, h'.sublist.trans h.sublist, fun l => ?_⟩
    have hmem := h'.leaves l
    rw [Stage.leaves] at hmem
    rw [h.leaves, hmem, Stage.leaves, Stage.leavesOf, List.mem_append, or_assoc]

lemma leaves_addEnd (n : Network α ε) (name : String) (s : Stage α Empty) :
    (n.addEnd name s).leaves = n.leaves ++ s.leaves := by
  rw [leaves, addEnd, List.flatMap_append, List.flatMap_singleton, leaves]

lemma Inv.takes (hn : n.Inv) (h : n.Takes s n') :
    n.plant.supply.Carries (s.leaves ++ n'.leaves) :=
  hn.carries.congr fun l => by
    rw [h.leaves l, List.mem_append]

/-- A stage that has been taken away is let go of. -/
lemma Inv.release (hn : n.Inv) (h : n.Takes s n') :
    Supply.Frame n.plant.supply.hubs.length n.plant.supply (n.plant.release s).supply s.leaves [] ∧
      (n.plant.release s).supply.Carries n'.leaves := by
  have hcarries := hn.takes h
  have hbelow : ∀ l ∈ s.leaves, l.Below n.plant.hubs.length := fun l hl =>
    hcarries.below l (List.mem_append_left _ hl)
  have hframe := (Plant.release_releases hcarries.layered hbelow).frame hcarries.layered hbelow
  exact ⟨hframe, hcarries.frame hframe⟩

lemma inv_empty : (empty : Network α ε).Inv := by
  refine ⟨List.nodup_nil, fun k h hh => ?_, fun l hl => ?_, fun l hl => ?_⟩
  · cases hh
  · cases hl
  · cases l with
    | source id =>
      obtain ⟨s, hs, -⟩ := hl
      cases hs
    | branch k slot =>
      obtain ⟨h, p, hh, -⟩ := hl
      cases hh

lemma Inv.addSource (hn : n.Inv) {cells : List (Cell α ε)} {closed : Bool}
    (hnames : (n.addSource name cells closed).IsNamed) : (n.addSource name cells closed).Inv := by
  refine ⟨hnames, ?_⟩
  rw [Network.addSource, leaves_addEnd]
  exact hn.carries.addSource (.start cells closed)

lemma Inv.addOperator (hn : n.Inv) {input : String} {op : Op α Empty}
    (hadd : n.addOperator name input op = some n') (hnames : n'.IsNamed) : n'.Inv := by
  refine ⟨hnames, ?_⟩
  rw [Network.addOperator, Option.bind_eq_bind, Option.bind_eq_some_iff] at hadd
  obtain ⟨⟨s, n₁⟩, htake, hadd⟩ := hadd
  obtain rfl := Option.some.inj hadd
  have htakes := takes_of_take hn.names htake
  rw [leaves_addEnd]
  cases hneeds : op.needsInput with
  | true =>
    simp only [Stage.ofOperator, hneeds, if_true, addEnd, htakes.plant]
    refine (hn.takes htakes).congr fun l => ?_
    rw [leaves, Stage.leaves, List.mem_append, List.mem_append, or_comm, leaves]
  | false =>
    simp only [Stage.ofOperator, hneeds, Bool.false_eq_true, if_false, addEnd, htakes.plant]
    rw [Stage.leaves, List.append_nil]
    exact (hn.release htakes).2

lemma Inv.addUnion (hn : n.Inv) {inputs : List String}
    (hadd : n.addUnion name inputs = some n') (hnames : n'.IsNamed) : n'.Inv := by
  refine ⟨hnames, ?_⟩
  rw [Network.addUnion, Option.bind_eq_bind, Option.bind_eq_some_iff] at hadd
  obtain ⟨⟨ss, n₁⟩, htake, hadd⟩ := hadd
  obtain rfl := Option.some.inj hadd
  have htakes := takes_of_takeAll hn.names htake
  rw [leaves_addEnd, addEnd, htakes.plant]
  refine (hn.takes htakes).congr fun l => ?_
  rw [List.mem_append, List.mem_append, or_comm]

lemma foldl_addEnd (n : Network α ε) (named : Nat → String) (k : Nat) (slots : List Nat) :
    slots.foldl (fun n slot => n.addEnd (named slot) (.branch k slot)) n =
      { n with ends := n.ends ++ slots.map fun slot => (named slot, .branch k slot) } := by
  induction slots generalizing n with
  | nil => simp
  | cons slot rest ih =>
    rw [List.foldl_cons, ih, addEnd, List.map_cons, List.append_assoc, List.singleton_append]

lemma Inv.addHub (hn : n.Inv) {input : String} {count : Nat}
    (hadd : n.addHub name input count = some n') (hnames : n'.IsNamed) : n'.Inv := by
  refine ⟨hnames, ?_⟩
  rw [Network.addHub, Option.bind_eq_bind, Option.bind_eq_some_iff] at hadd
  obtain ⟨⟨s, n₁⟩, htake, hadd⟩ := hadd
  obtain rfl := Option.some.inj hadd
  have htakes := takes_of_take hn.names htake
  -- Before the input is let go of, its leaves are known both below the hub and as such.
  have hcarries := (hn.takes htakes).addHub (List.subset_append_left _ _) count
  have hbranches : (List.range count).flatMap
      (fun slot => (Stage.branch n.plant.hubs.length slot : Stage α Empty).leaves) =
        Supply.branchesFrom n.plant.hubs.length 0 count := by
    rw [Supply.branchesFrom, ← List.range_eq_range', List.map_eq_flatMap]
    rfl
  rw [foldl_addEnd, leaves, List.flatMap_append, List.flatMap_map]
  simp only [htakes.plant]
  rw [hbranches]
  rw [List.append_assoc] at hcarries
  by_cases hcount : count = 0
  · subst hcount
    have hbelow : ∀ l ∈ s.leaves, l.Below (n.plant.supply.addHub s 0).hubs.length := fun l hl =>
      hcarries.below l (List.mem_append_left _ hl)
    have hrel := Plant.release_releases (p := { n.plant with hubs := n.plant.hubs ++ [.start s 0] })
      hcarries.layered hbelow
    exact hcarries.frame (hrel.frame hcarries.layered hbelow)
  · rw [if_neg hcount]
    refine hcarries.forget fun l hl => ?_
    rw [Supply.addHub, List.length_append, List.length_singleton, ← Supply.addHub,
      Supply.inputLeaves_addHub hcount]
    exact List.mem_append_right _ hl

theorem Built.inv (hn : n.Built) : n.Inv := by
  induction hn with
  | empty => exact inv_empty
  | source _ _ _ _ hnames ih => exact ih.addSource hnames
  | operator _ _ _ _ hadd hnames ih => exact ih.addOperator hadd hnames
  | union _ _ _ hadd hnames ih => exact ih.addUnion hadd hnames
  | hub _ _ _ _ hadd hnames ih => exact ih.addHub hadd hnames

/-! ## Driving -/

/-- Something that is done to a network from outside. -/
inductive NetworkEvent (α ε : Type) where
  | poll (name : String) (limit : Nat)
  | push (source : String) (cell : Cell α ε)
  | close (source : String)
  | drop (name : String)

/-- What is done to an end that does not exist has no effect. -/
def act (n : Network α ε) : NetworkEvent α ε → Network α ε
  | .poll name limit => ((n.poll name limit).map (·.2)).getD n
  | .push source cell => n.push source cell
  | .close source => n.close source
  | .drop name => (n.drop name).getD n

/-- One event after the other. -/
def run (n : Network α ε) (es : List (NetworkEvent α ε)) : Network α ε := es.foldl act n

/-- An end has been asked. -/
structure Asked (n : Network α ε) (name : String) (signal : Signal α ε) (n' : Network α ε) :
    Prop where
  inv : n'.Inv
  ages : n.plant.supply.Ages n'.plant.supply
  draws : n.plant.Draws n'.plant signal
  others : ∀ other s, other ≠ name → (other, s) ∈ n'.ends → (other, s) ∈ n.ends
  spent : (∀ id, (name, .source id) ∉ n.ends) → (∀ id, (name, .source id) ∉ n'.ends) ∧
    (signal.isLast = true → ∀ s, (name, s) ∈ n'.ends → s.IsSpent n'.plant.supply)

lemma Asked.refl (hn : n.Inv) (name : String) : n.Asked name .again n where
  inv := hn
  ages := .refl _
  draws := .refl _ _
  others _ _ _ hs := hs
  spent hsource := ⟨hsource, fun hlast => by cases hlast⟩

lemma Asked.trans (h : n.Asked name .again n₁) (h' : n₁.Asked name signal n₂) :
    n.Asked name signal n₂ where
  inv := h'.inv
  ages := h.ages.trans h'.ages
  draws := (h.draws.mono fun e he => by cases he).trans h'.draws
  others other s hne hs := h.others other s hne (h'.others other s hne hs)
  spent hsource := h'.spent (h.spent hsource).1

lemma exists_of_step (hstep : n.step name = some (signal, n')) :
    ∃ s s' p', (name, s) ∈ n.ends ∧ n.plant.step name s = (signal, s', p') ∧
      n' = { n with plant := p' }.setEnd name s' := by
  obtain ⟨s, hs, heq⟩ := Option.map_eq_some_iff.1 hstep
  obtain ⟨rfl, rfl⟩ := Prod.mk.inj heq
  exact ⟨s, _, _, mem_of_lookup hs, rfl, rfl⟩

lemma asked_of_step (hn : n.Inv) (hstep : n.step name = some (signal, n')) :
    n.Asked name signal n' := by
  obtain ⟨s, s', p', hs, hstage, rfl⟩ := exists_of_step hstep
  obtain ⟨before, after, hholds⟩ := hn.names.exists_holds hs
  have hholds' : ({ n with plant := p' }.setEnd name s').Holds name s' before after :=
    Holds.setEnd (n := { n with plant := p' }) ⟨hholds.ends, hholds.before, hholds.after⟩ s'
  have hcarries : n.plant.supply.Carries (s.leaves ++ (before ++ after).flatMap (·.2.leaves)) :=
    hn.carries.congr fun l => List.mem_append.trans (hholds.mem_leaves l).symm
  have hbelow : ∀ l ∈ s.leaves, l.Below n.plant.hubs.length := fun l hl =>
    hcarries.below l (List.mem_append_left _ hl)
  have hask := Plant.step_asks (w := name) hcarries.layered hbelow
  rw [hstage] at hask
  have hframe := hask.frame hcarries.layered hbelow
  refine ⟨⟨?_, ?_⟩, hframe.ages, hask.draws, ?_, ?_⟩
  · have hnames := hn.names
    rw [IsNamed, hholds.ends, List.map_append, List.map_cons] at hnames
    rwa [IsNamed, hholds'.ends, List.map_append, List.map_cons]
  · exact (hcarries.frame hframe).congr fun l =>
      (hholds'.mem_leaves l).trans List.mem_append.symm
  · intro other t hne ht
    have hother : (other, t) ≠ (name, s') := fun heq => hne (Prod.mk.inj heq).1
    rw [hholds'.ends, List.mem_append, List.mem_cons] at ht
    rw [hholds.ends, List.mem_append, List.mem_cons]
    tauto
  · intro hsource
    have hnot : ∀ id, s ≠ .source id := fun id heq => hsource id (heq ▸ hs)
    refine ⟨fun id hid => ?_, fun hlast t ht => ?_⟩
    · exact hask.ne_source hnot id (hholds'.eq_of_mem hid).symm
    · obtain rfl := hholds'.eq_of_mem ht
      exact hask.isSpent hcarries.layered hnot hlast

lemma asked_of_poll (hn : n.Inv) (hpoll : n.poll name limit = some (signal, n')) :
    n.Asked name signal n' := by
  induction limit generalizing n with
  | zero =>
    obtain ⟨s, -, heq⟩ := Option.map_eq_some_iff.1 hpoll
    obtain ⟨rfl, rfl⟩ := Prod.mk.inj heq
    exact .refl hn name
  | succ limit ih =>
    rw [poll] at hpoll
    split at hpoll
    case h_1 n₁ hstep =>
      have hasked := asked_of_step hn hstep
      exact hasked.trans (ih hasked.inv hpoll)
    case h_2 => exact asked_of_step hn hpoll

/-- An end that is spent shows its end, and nothing changes. -/
lemma poll_of_isSpent (hn : n.Inv) (hs : (name, s) ∈ n.ends) (hspent : s.IsSpent n.plant.supply)
    (limit : Nat) : n.poll name (limit + 1) = some (.finish, n) := by
  obtain ⟨before, after, hholds⟩ := hn.names.exists_holds hs
  have hset : n.setEnd name s = n := by
    have hsame : n.ends.map (fun e => if e.1 = name then (name, s) else e) = n.ends :=
      (hholds.setEnd s).ends.trans hholds.ends.symm
    rw [setEnd, hsame]
  rw [poll, step, hholds.lookup, Option.map_some, hspent.step]
  dsimp only
  rw [hset]

lemma exists_of_poll {r : Signal α ε × Network α ε} (hpoll : n.poll name limit = some r) :
    ∃ s, (name, s) ∈ n.ends := by
  have hsome : ∃ s, n.ends.lookup name = some s := by
    by_contra hnone
    have hlookup : n.ends.lookup name = none := by
      rw [Option.eq_none_iff_forall_ne_some]
      exact fun s hs => hnone ⟨s, hs⟩
    cases limit <;> simp [poll, step, hlookup] at hpoll
  obtain ⟨s, hs⟩ := hsome
  exact ⟨s, mem_of_lookup hs⟩

/-- An end that is spent does not change when it is asked. -/
lemma eq_of_poll_of_isSpent (hn : n.Inv) (hspent : ∀ s, (name, s) ∈ n.ends →
    s.IsSpent n.plant.supply) (hpoll : n.poll name limit = some (signal, n')) : n' = n := by
  obtain ⟨s, hs⟩ := exists_of_poll hpoll
  cases limit with
  | zero =>
    obtain ⟨t, -, heq⟩ := Option.map_eq_some_iff.1 hpoll
    exact (Prod.mk.inj heq).2.symm
  | succ limit =>
    rw [poll_of_isSpent hn hs (hspent s hs)] at hpoll
    exact (Prod.mk.inj (Option.some.inj hpoll)).2.symm

/-- A source that is filled or closed from outside stays as live as it was. -/
lemma present_fill {p : Plant α ε Empty} {id : Nat} {f : Source α ε → Source α ε}
    (hlive : ∀ s, (f s).isLive = s.isLive) {l : Leaf} (hl : (p.fill id f).supply.Present l) :
    p.supply.Present l := by
  unfold Plant.fill at hl
  cases hs : p.sources[id]? with
  | none =>
    rw [hs] at hl
    exact hl
  | some s =>
    rw [hs] at hl
    cases l with
    | branch k slot => exact hl
    | source i =>
      obtain ⟨t, ht, htlive⟩ := hl
      by_cases hi : id = i
      · subst hi
        obtain rfl := Option.some.inj
          ((Supply.getElem?_setSource_self (S := p.supply) hs).symm.trans ht)
        exact ⟨s, hs, (hlive s).symm.trans htlive⟩
      · rw [Plant.supply_wake, Plant.supply_setSource, Supply.setSource,
          List.getElem?_set_ne hi] at ht
        exact ⟨t, ht, htlive⟩

lemma fill_hubs (p : Plant α ε Empty) (id : Nat) (f : Source α ε → Source α ε) :
    (p.fill id f).hubs = p.hubs := by
  unfold Plant.fill
  split <;> rfl

lemma exhausted_fill (p : Plant α ε Empty) (id : Nat) (f : Source α ε → Source α ε) (k slot : Nat)
    (h : p.supply.Exhausted (.branch k slot)) :
    (p.fill id f).supply.Exhausted (.branch k slot) := by
  intro hub hhub
  exact h hub (by rwa [Plant.supply, fill_hubs] at hhub)

lemma Inv.fill (hn : n.Inv) {f : Source α ε → Source α ε} (hlive : ∀ s, (f s).isLive = s.isLive)
    (name : String) : (n.fill name f).Inv := by
  have hhubs : (n.fill name f).plant.supply.hubs = n.plant.supply.hubs := fill_hubs _ _ _
  refine ⟨hn.names, fun k h hh => ?_, fun l hl => ?_, fun l hl => ?_⟩
  · rw [hhubs] at hh
    exact hn.carries.layered k h hh
  · rw [hhubs]
    exact hn.carries.below l hl
  · rw [Supply.inputLeaves, hhubs]
    exact hn.carries.cover l (present_fill hlive hl)

/-- A dropped end is gone, and the others stay. -/
lemma Inv.drop (hn : n.Inv) (hdrop : n.drop name = some n') :
    n'.Inv ∧ n.plant.supply.Ages n'.plant.supply ∧ n'.ends ⊆ n.ends := by
  obtain ⟨⟨s, n₁⟩, htake, rfl⟩ := Option.map_eq_some_iff.1 hdrop
  have htakes := takes_of_take hn.names htake
  obtain ⟨hframe, hcarries⟩ := hn.release htakes
  dsimp only
  rw [htakes.plant]
  exact ⟨⟨hn.names.sublist htakes.sublist, hcarries⟩, hframe.ages, htakes.sublist.subset⟩

/-! ### What is kept -/

lemma Inv.act (hn : n.Inv) (e : NetworkEvent α ε) : (n.act e).Inv := by
  cases e with
  | poll name limit =>
    rw [Network.act]
    cases hpoll : n.poll name limit with
    | none => exact hn
    | some r => exact (asked_of_poll hn hpoll).inv
  | push source cell => exact hn.fill (f := (·.push cell)) (fun _ => rfl) source
  | close source => exact hn.fill (f := (·.close)) (fun _ => rfl) source
  | drop name =>
    rw [Network.act]
    cases hdrop : n.drop name with
    | none => exact hn
    | some n' => exact (hn.drop hdrop).1

lemma Inv.run (hn : n.Inv) (es : List (NetworkEvent α ε)) : (n.run es).Inv := by
  induction es generalizing n with
  | nil => exact hn
  | cons e es ih => exact ih (hn.act e)

/-- An end is spent, or it has been dropped. -/
def HasSpent (n : Network α ε) (name : String) : Prop :=
  ∀ s, (name, s) ∈ n.ends → s.IsSpent n.plant.supply

/-- An end that is spent stays so, whatever is done to the network. -/
lemma HasSpent.act (hn : n.Inv) (h : n.HasSpent name) (e : NetworkEvent α ε) :
    (n.act e).HasSpent name := by
  have hfill : ∀ source f, (n.fill source f).HasSpent name := fun source f s hs =>
    (h s hs).mono (exhausted_fill _ _ _)
  cases e with
  | push source cell => exact hfill source _
  | close source => exact hfill source _
  | poll other limit =>
    rw [Network.act]
    cases hpoll : n.poll other limit with
    | none => exact h
    | some r =>
      obtain ⟨signal, n'⟩ := r
      rw [Option.map_some, Option.getD_some]
      by_cases hother : name = other
      · subst hother
        rwa [eq_of_poll_of_isSpent hn h hpoll]
      · have hasked := asked_of_poll hn hpoll
        exact fun s hs => (h s (hasked.others name s hother hs)).mono fun k slot =>
          hasked.ages.exhausted (.branch k slot)
  | drop other =>
    rw [Network.act]
    cases hdrop : n.drop other with
    | none => exact h
    | some n' =>
      obtain ⟨-, hages, hsub⟩ := hn.drop hdrop
      exact fun s hs => (h s (hsub hs)).mono fun k slot => hages.exhausted (.branch k slot)

lemma HasSpent.run (hn : n.Inv) (h : n.HasSpent name) (es : List (NetworkEvent α ε)) :
    (n.run es).HasSpent name := by
  induction es generalizing n with
  | nil => exact h
  | cons e es ih => exact ih (hn.act e) (h.act hn e)

/-- A live source is reached by an end that is not spent. -/
lemma Inv.exists_reaches (hn : n.Inv) (hspent : n.HasSpent name) {id : Nat} {s : Source α ε}
    (hs : n.plant.sources[id]? = some s) (hlive : s.isLive = true) :
    ∃ other t, other ≠ name ∧ (other, t) ∈ n.ends ∧
      n.plant.supply.Reaches t.leaves (.source id) := by
  have hpresent : n.plant.supply.Present (.source id) := ⟨s, hs, hlive⟩
  obtain ⟨⟨other, t⟩, ht, hreach⟩ := (hn.carries.reaches hpresent).exists_of_flatMap
  refine ⟨other, t, ?_, ht, hreach⟩
  rintro rfl
  exact (hspent t ht).not_reaches id hreach

/-- Whatever is done to a network that has been built, an error that is taken from a source when an
end is asked is what the end shows.  If an end other than a source shows its end or an error, then
from that time on it shows its end and changes nothing, and every source that no other end reaches
has been dropped. -/
theorem keepsContract_run (hbuilt : n.Built) (es : List (NetworkEvent α ε)) (name : String)
    (limit : Nat) {signal : Signal α ε} {polled : Network α ε}
    (hpoll : (n.run es).poll name limit = some (signal, polled)) :
    (n.run es).plant.Draws polled.plant signal ∧
      ((∀ id, (name, .source id) ∉ (n.run es).ends) → signal.isLast = true →
        ∀ later : List (NetworkEvent α ε),
          (∀ s limit, (name, s) ∈ (polled.run later).ends →
            (polled.run later).poll name (limit + 1) = some (.finish, polled.run later)) ∧
          ∀ id s, (polled.run later).plant.sources[id]? = some s → s.isLive = true →
            ∃ other t, other ≠ name ∧ (other, t) ∈ (polled.run later).ends ∧
              (polled.run later).plant.supply.Reaches t.leaves (.source id)) := by
  have hn : (n.run es).Inv := hbuilt.inv.run es
  have hasked := asked_of_poll hn hpoll
  refine ⟨hasked.draws, fun hsource hlast later => ?_⟩
  have hlater : (polled.run later).Inv := hasked.inv.run later
  have hspent : (polled.run later).HasSpent name :=
    HasSpent.run hasked.inv ((hasked.spent hsource).2 hlast) later
  exact ⟨fun s limit hs => poll_of_isSpent hlater hs (hspent s hs) limit,
    fun id s hs hlive => hlater.exists_reaches hspent hs hlive⟩

/-- A sorted union of a source and a branch of a hub, whose other branch is an end of its own. -/
def sampleUnion : Network Nat String where
  plant := ⟨[.start [.item 2, .fail "broken", .item 1] true, .start [] false],
    [.start (.source 0) 2], [], []⟩
  sourceNames := ["a", "b"]
  ends := [("h.1", .branch 0 1),
    ("s", .operator (.sort (.start compare none)) (.union [.branch 0 0, .source 1] .start))]

lemma built_sampleUnion : sampleUnion.Built := by
  have hsources : (((empty : Network Nat String).addSource "a"
      [.item 2, .fail "broken", .item 1] true).addSource "b" [] false).Built :=
    .source _ _ _ (.source _ _ _ .empty (by decide)) (by decide)
  have hhub := Built.hub "h" "a" 2 hsources rfl (by decide)
  have hunion := Built.union "u" ["h.0", "b"] hhub rfl (by decide)
  exact Built.operator "s" "u" (.sort (.start compare none)) hunion rfl (by decide)

/-- The sorted union after it has met the error of the source. -/
def sampleFailed : Network Nat String :=
  (((sampleUnion.run [.push "b" (.item 3)]).poll "s" 20).map (·.2)).getD empty

theorem keepsContract_run_sample :
    sampleUnion.Built ∧
      (sampleUnion.run [.push "b" (.item 3)]).poll "s" 20 = some (.fail "broken", sampleFailed) ∧
      (∀ id, ("s", .source id) ∉ (sampleUnion.run [.push "b" (.item 3)]).ends) ∧
      (sampleFailed.run [.poll "h.1" 9, .drop "h.1"]).poll "s" 1 =
        some (.finish, sampleFailed.run [.poll "h.1" 9, .drop "h.1"]) ∧
      ∀ (id : Nat) (s : Source Nat String),
        (sampleFailed.run [.poll "h.1" 9, .drop "h.1"]).plant.sources[id]? = some s →
          s.isLive = false := by
  have hpoll : (sampleUnion.run [.push "b" (.item 3)]).poll "s" 20 =
      some (.fail "broken", sampleFailed) := rfl
  have hsource : ∀ id, ("s", .source id) ∉ (sampleUnion.run [.push "b" (.item 3)]).ends := by
    have hends : (sampleUnion.run [.push "b" (.item 3)]).ends = sampleUnion.ends := rfl
    rw [hends]
    intro id hid
    simp [sampleUnion] at hid
  obtain ⟨-, hended⟩ := keepsContract_run built_sampleUnion [.push "b" (.item 3)] "s" 20 hpoll
  obtain ⟨hfinish, hreached⟩ := hended hsource rfl [.poll "h.1" 9, .drop "h.1"]
  have hnames : (sampleFailed.run [.poll "h.1" 9, .drop "h.1"]).ends.map (·.1) = ["s"] := by
    decide +kernel
  refine ⟨built_sampleUnion, hpoll, hsource, ?_, fun id s hs => ?_⟩
  · have hmem : "s" ∈ (sampleFailed.run [.poll "h.1" 9, .drop "h.1"]).ends.map (·.1) :=
      hnames ▸ List.mem_cons_self
    obtain ⟨⟨_, s⟩, hs, rfl⟩ := List.mem_map.1 hmem
    exact hfinish s 0 hs
  · -- Nobody but the sorted union is left.
    by_contra hlive
    obtain ⟨other, t, hother, ht, -⟩ := hreached id s hs (Bool.eq_true_of_not_eq_false hlive)
    have hmem := List.mem_map_of_mem (f := (·.1)) ht
    rw [hnames] at hmem
    exact hother (List.mem_singleton.1 hmem)

end Network

end SparqlStream
