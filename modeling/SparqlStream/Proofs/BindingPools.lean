import Mathlib.Tactic
import SparqlStream.Matcher.Script
import SparqlStream.Proofs.Columns
import SparqlStream.Proofs.Relabelling

/-!
# Pools of bindings

Nothing in the type of a binding keeps its variables apart.  What does are the two ways in which
bindings are made.  Extending a binding looks for the variable and refuses a second term; collecting
a list of entries looks for the variable and drops what comes later.  A pool is what a program has
made in this way so far: it begins with nothing, every action adds at most one binding, and no
binding that is in it changes any more.

`Binding.Pool.lawful_run` says that after any actions every binding of a pool names each variable
once, and so is a map with an order, and that the next action makes what this map asks for.  The two
ways agree: entries that give no variable two terms can be added one after another, and this is the
same as collecting them.
-/

namespace SparqlStream

namespace Binding

variable {b b' : Binding} {v w : Variable} {t u : Term} {c : BindingConflict}
  {entries : List (Variable × Term)}

/-! ## Looking up -/

lemma get?_concat_self (hv : b.get? v = none) : get? ⟨b.entries ++ [(v, t)]⟩ v = some t := by
  rw [get?_append, hv, Option.none_or, List.lookup_cons_self]

lemma get?_concat_of_ne (hw : w ≠ v) : get? ⟨b.entries ++ [(v, t)]⟩ w = b.get? w := by
  have hrest : List.lookup w [(v, t)] = none := by
    rw [List.lookup_cons, beq_false_of_ne hw, List.lookup_nil]
  rw [get?_append, hrest, Option.or_none]

lemma nodup_concat (hb : b.domain.Nodup) (hv : b.get? v = none) :
    (domain ⟨b.entries ++ [(v, t)]⟩).Nodup := by
  rw [domain_append]
  refine List.nodup_append.2 ⟨hb, List.nodup_singleton v, fun w hw w' hw' heq => ?_⟩
  obtain rfl := List.mem_singleton.1 hw'
  exact get?_eq_none.1 hv (heq ▸ hw)

/-! ## Extending -/

/-- A binding with one more variable at its end, or the same binding if the variable was bound. -/
structure Binds (b : Binding) (v : Variable) (t : Term) (b' : Binding) : Prop where
  get?_self : b'.get? v = some t
  get?_of_ne : ∀ w, w ≠ v → b'.get? w = b.get? w
  of_unbound : b.get? v = none → b'.entries = b.entries ++ [(v, t)]
  of_bound : b.get? v ≠ none → b' = b

lemma extend_of_unbound (hv : b.get? v = none) :
    b.extend v t = .ok ⟨b.entries ++ [(v, t)]⟩ := by
  rw [extend, hv]

lemma extend_of_bound (hv : b.get? v = some t) : b.extend v t = .ok b := by
  rw [extend, hv]
  exact if_pos rfl

lemma extend_of_ne (hv : b.get? v = some u) (hu : u ≠ t) : b.extend v t = .error ⟨v, u, t⟩ := by
  rw [extend, hv]
  exact if_neg hu

/-- Each extension finds the variable unbound, bound to the term, or bound to another one. -/
lemma extend_cases (b : Binding) (v : Variable) (t : Term) :
    b.get? v = none ∧ b.extend v t = .ok ⟨b.entries ++ [(v, t)]⟩ ∨
      b.get? v = some t ∧ b.extend v t = .ok b ∨
        ∃ u, b.get? v = some u ∧ u ≠ t ∧ b.extend v t = .error ⟨v, u, t⟩ := by
  cases hv : b.get? v with
  | none => exact .inl ⟨rfl, extend_of_unbound hv⟩
  | some u =>
    by_cases hu : u = t
    · subst hu
      exact .inr (.inl ⟨rfl, extend_of_bound hv⟩)
    · exact .inr (.inr ⟨u, rfl, hu, extend_of_ne hv hu⟩)

/-- Only a variable that is bound to another term cannot be bound. -/
theorem exists_extend_iff :
    (∃ b', b.extend v t = .ok b') ↔ b.get? v = none ∨ b.get? v = some t := by
  constructor
  · rintro ⟨b', h⟩
    obtain ⟨hv, -⟩ | ⟨hv, -⟩ | ⟨u, -, -, herror⟩ := extend_cases b v t
    · exact .inl hv
    · exact .inr hv
    · cases herror.symm.trans h
  · rintro (hv | hv)
    · exact ⟨_, extend_of_unbound hv⟩
    · exact ⟨b, extend_of_bound hv⟩

theorem binds_of_extend (h : b.extend v t = .ok b') : b.Binds v t b' := by
  obtain ⟨hv, hok⟩ | ⟨hv, hok⟩ | ⟨u, -, -, herror⟩ := extend_cases b v t
  · obtain rfl := Except.ok.inj (hok.symm.trans h)
    exact ⟨get?_concat_self hv, fun w hw => get?_concat_of_ne hw, fun _ => rfl,
      fun hbound => absurd hv hbound⟩
  · obtain rfl := Except.ok.inj (hok.symm.trans h)
    refine ⟨hv, fun _ _ => rfl, fun hunbound => ?_, fun _ => rfl⟩
    cases hunbound.symm.trans hv
  · cases herror.symm.trans h

theorem conflict_of_extend (h : b.extend v t = .error c) :
    c.var = v ∧ b.get? v = some c.existing ∧ c.rejected = t ∧ c.existing ≠ c.rejected := by
  obtain ⟨-, hok⟩ | ⟨-, hok⟩ | ⟨u, hv, hu, herror⟩ := extend_cases b v t
  · cases hok.symm.trans h
  · cases hok.symm.trans h
  · obtain rfl := Except.error.inj (herror.symm.trans h)
    exact ⟨rfl, hv, rfl, hu⟩

lemma nodup_extend (hb : b.domain.Nodup) (h : b.extend v t = .ok b') : b'.domain.Nodup := by
  obtain ⟨hv, hok⟩ | ⟨-, hok⟩ | ⟨u, -, -, herror⟩ := extend_cases b v t
  · obtain rfl := Except.ok.inj (hok.symm.trans h)
    exact nodup_concat hb hv
  · obtain rfl := Except.ok.inj (hok.symm.trans h)
    exact hb
  · cases herror.symm.trans h

/-! ## Collecting -/

lemma ofList_concat (entries : List (Variable × Term)) (e : Variable × Term) :
    ofList (entries ++ [e]) = (ofList entries).insertNew e :=
  List.foldl_concat _ _ _ _

/-- Each variable stands where it occurs first. -/
theorem domain_ofList (entries : List (Variable × Term)) :
    (ofList entries).domain = (entries.map Prod.fst).eraseDups := by
  induction entries using List.reverseRecOn with
  | nil => rfl
  | append_singleton entries e ih =>
    have hmem : (ofList entries).contains e.1 = true ↔ e.1 ∈ entries.map Prod.fst := by
      rw [contains_iff, ih, List.mem_eraseDups]
    rw [ofList_concat, insertNew, List.map_append, List.map_singleton, eraseDups_concat]
    by_cases he : e.1 ∈ entries.map Prod.fst
    · rw [if_pos (hmem.2 he), if_pos he, ih]
    · rw [if_neg (mt hmem.1 he), if_neg he, domain_append, ih, List.map_singleton]

lemma nodup_ofList (entries : List (Variable × Term)) : (ofList entries).domain.Nodup := by
  rw [domain_ofList]
  exact nodup_eraseDups _

/-- Each variable is bound to the first of its terms. -/
theorem get?_ofList (entries : List (Variable × Term)) (v : Variable) :
    (ofList entries).get? v = entries.lookup v := by
  induction entries using List.reverseRecOn with
  | nil => rfl
  | append_singleton entries e ih =>
    obtain ⟨w, t⟩ := e
    rw [ofList_concat, insertNew, List.lookup_append, ← ih, contains]
    cases hw : (ofList entries).get? w with
    | none =>
      rw [Option.isSome_none, if_neg Bool.false_ne_true, get?_append]
    | some u =>
      rw [Option.isSome_some, if_pos rfl]
      -- What comes later does not matter, since this variable is bound and others are not meant.
      by_cases hv : v = w
      · rw [hv, hw, Option.some_or]
      · rw [List.lookup_cons, beq_false_of_ne hv, List.lookup_nil, Option.or_none]

/-! ## Extending by one entry after another -/

/-- No variable has two terms. -/
def IsConsistent (entries : List (Variable × Term)) : Prop :=
  ∀ e ∈ entries, ∀ e' ∈ entries, e.1 = e'.1 → e.2 = e'.2

instance (entries : List (Variable × Term)) : Decidable (IsConsistent entries) := by
  unfold IsConsistent; infer_instance

lemma isConsistent_entries (hb : b.domain.Nodup) : IsConsistent b.entries := by
  rintro ⟨v, t⟩ he ⟨v', t'⟩ he' (rfl : v = v')
  exact Option.some.inj (((mem_entries_iff hb).1 he).symm.trans ((mem_entries_iff hb).1 he'))

lemma isConsistent_congr {l l' : List (Variable × Term)} (h : ∀ e, e ∈ l ↔ e ∈ l') :
    IsConsistent l ↔ IsConsistent l' := by
  simp only [IsConsistent, h]

/-- Where extending succeeds, it does the same as adding what is new. -/
lemma insertNew_eq_of_extend (h : b.extend v t = .ok b') : b.insertNew (v, t) = b' := by
  have hbinds := binds_of_extend h
  rw [insertNew, contains]
  cases hv : b.get? v with
  | none =>
    rw [Option.isSome_none, if_neg Bool.false_ne_true, ← hbinds.of_unbound hv]
  | some u =>
    have hbound : b.get? v ≠ none := by
      rw [hv]
      exact Option.some_ne_none u
    rw [Option.isSome_some, if_pos rfl, hbinds.of_bound hbound]

lemma extendAll_cons : Script.extendAll b ((v, t) :: entries) =
    (b.extend v t).bind fun b' => Script.extendAll b' entries := rfl

lemma foldl_insertNew_of_extendAll (h : Script.extendAll b entries = .ok b') :
    entries.foldl insertNew b = b' := by
  induction entries generalizing b with
  | nil => exact Except.ok.inj h
  | cons e entries ih =>
    obtain ⟨v, t⟩ := e
    rw [extendAll_cons] at h
    cases hextend : b.extend v t with
    | ok b₁ =>
      rw [hextend] at h
      rw [List.foldl_cons, insertNew_eq_of_extend hextend]
      exact ih h
    | error c =>
      rw [hextend] at h
      cases h

/-- A binding can be extended by entries that agree with it and with each other. -/
theorem exists_extendAll_iff (hb : b.domain.Nodup) :
    (∃ b', Script.extendAll b entries = .ok b') ↔ IsConsistent (b.entries ++ entries) := by
  induction entries generalizing b with
  | nil =>
    rw [List.append_nil]
    exact ⟨fun _ => isConsistent_entries hb, fun _ => ⟨b, rfl⟩⟩
  | cons e entries ih =>
    obtain ⟨v, t⟩ := e
    rw [extendAll_cons]
    obtain ⟨hv, hok⟩ | ⟨hv, hok⟩ | ⟨u, hv, hu, herror⟩ := extend_cases b v t
    · rw [hok]
      refine (ih (nodup_concat hb hv)).trans ?_
      rw [List.append_assoc, List.singleton_append]
    · rw [hok]
      refine (ih hb).trans (isConsistent_congr fun e => ?_)
      have hmem := (mem_entries_iff hb).2 hv
      rw [List.mem_append, List.mem_append, List.mem_cons]
      constructor
      · exact Or.imp_right .inr
      · rintro (he | rfl | he)
        · exact .inl he
        · exact .inl hmem
        · exact .inr he
    · rw [herror]
      refine iff_of_false ?_ fun h => ?_
      · rintro ⟨b', ⟨⟩⟩
      · have hmem := (mem_entries_iff hb).2 hv
        exact hu (h (v, u) (List.mem_append_left _ hmem) (v, t)
          (List.mem_append_right _ List.mem_cons_self) rfl)

/-! ## Pools -/

/-- What can be done with a pool: to make the binding of no variable, to extend the binding at some
place, or to collect some entries. -/
inductive PoolAction where
  | create
  | extend (place : Nat) (v : Variable) (t : Term)
  | collect (entries : List (Variable × Term))
  deriving Repr

/-- The bindings that have been made, and the conflicts that have been met on the way. -/
structure Pool where
  bindings : List Binding
  conflicts : List BindingConflict
  deriving DecidableEq, Repr

namespace Pool

/-- Nothing has been made. -/
def start : Pool := ⟨[], []⟩

/-- The pool after an attempt to make a binding. -/
def add (p : Pool) : Except BindingConflict Binding → Pool
  | .ok b => { p with bindings := p.bindings ++ [b] }
  | .error c => { p with conflicts := p.conflicts ++ [c] }

/-- What an action does.  Where there is no binding, nothing can be extended. -/
def act (p : Pool) : PoolAction → Pool
  | .create => p.add (.ok .empty)
  | .extend place v t => (p.bindings[place]?).elim p fun b => p.add (b.extend v t)
  | .collect entries => p.add (.ok (.ofList entries))

/-- What some actions do, one after another. -/
def run (p : Pool) (actions : List PoolAction) : Pool := actions.foldl act p

/-- What holds of the bindings and the conflicts of a pool: no binding names a variable twice, and a
conflict is between a new term and another one that a binding of the pool has for the variable. -/
structure Inv (p : Pool) : Prop where
  nodup : ∀ b ∈ p.bindings, b.domain.Nodup
  reports : ∀ c ∈ p.conflicts,
    c.existing ≠ c.rejected ∧ ∃ b ∈ p.bindings, b.get? c.var = some c.existing

/-- What can be relied on in a pool. -/
structure Lawful (p : Pool) : Prop extends p.Inv where
  /-- What has been made stays as it is. -/
  persists : ∀ actions, p.bindings <+: (p.run actions).bindings
  /-- A variable can be bound to a term unless it is bound to another one. -/
  succeeds_iff : ∀ b ∈ p.bindings, ∀ v t,
    (∃ b', b.extend v t = .ok b') ↔ b.get? v = none ∨ b.get? v = some t
  /-- Then the pool gets the binding with this variable and is the same apart from that. -/
  extends_binding : ∀ place b v t b', p.bindings[place]? = some b → b.extend v t = .ok b' →
    b.Binds v t b' ∧
      p.act (.extend place v t) = { p with bindings := p.bindings ++ [b'] }
  /-- Otherwise it gets no binding, and the conflict names the variable and both terms. -/
  refuses_binding : ∀ place b v t u, p.bindings[place]? = some b → b.get? v = some u → u ≠ t →
    b.extend v t = .error ⟨v, u, t⟩ ∧
      p.act (.extend place v t) = { p with conflicts := p.conflicts ++ [⟨v, u, t⟩] }
  /-- The binding of some entries has each variable where it occurs first, with the term that it has
  there. -/
  collects : ∀ entries : List (Variable × Term), ∃ b : Binding,
    b.domain = (entries.map Prod.fst).eraseDups ∧ (∀ v, b.get? v = entries.lookup v) ∧
      p.act (.collect entries) = { p with bindings := p.bindings ++ [b] }
  /-- Entries can be added to the empty binding one after another if they are consistent. -/
  chains_iff : ∀ entries, (∃ b, Script.extendAll .empty entries = .ok b) ↔ IsConsistent entries
  /-- This makes the same binding as collecting them. -/
  chains_eq : ∀ entries b, Script.extendAll .empty entries = .ok b →
    p.act (.collect entries) = { p with bindings := p.bindings ++ [b] }

variable {p : Pool}

lemma act_extend {place : Nat} (hb : p.bindings[place]? = some b) (v : Variable) (t : Term) :
    p.act (.extend place v t) = p.add (b.extend v t) := by
  rw [act, hb, Option.elim_some]

lemma bindings_add_isPrefix (p : Pool) (made : Except BindingConflict Binding) :
    p.bindings <+: (p.add made).bindings := by
  cases made with
  | ok b => exact List.prefix_append _ _
  | error c => exact List.prefix_refl _

lemma bindings_act_isPrefix (p : Pool) (a : PoolAction) : p.bindings <+: (p.act a).bindings := by
  cases a with
  | create => exact p.bindings_add_isPrefix _
  | collect entries => exact p.bindings_add_isPrefix _
  | extend place v t =>
    rw [act]
    cases p.bindings[place]? with
    | none => exact List.prefix_refl _
    | some b => exact p.bindings_add_isPrefix _

theorem bindings_run_isPrefix (p : Pool) (actions : List PoolAction) :
    p.bindings <+: (p.run actions).bindings := by
  induction actions generalizing p with
  | nil => exact List.prefix_refl _
  | cons a actions ih => exact (p.bindings_act_isPrefix a).trans (ih (p.act a))

/-! ### Steps and runs -/

lemma Inv.add_ok (h : p.Inv) (hb : b.domain.Nodup) : (p.add (.ok b)).Inv where
  nodup := List.forall_mem_append.2 ⟨h.nodup, List.forall_mem_singleton.2 hb⟩
  reports c hc := by
    obtain ⟨hne, b', hb', hget⟩ := h.reports c hc
    exact ⟨hne, b', List.mem_append_left _ hb', hget⟩

lemma Inv.add_error (h : p.Inv) (hne : c.existing ≠ c.rejected) (hb : b ∈ p.bindings)
    (hget : b.get? c.var = some c.existing) : (p.add (.error c)).Inv where
  nodup := h.nodup
  reports := List.forall_mem_append.2
    ⟨h.reports, List.forall_mem_singleton.2 ⟨hne, b, hb, hget⟩⟩

theorem Inv.act (h : p.Inv) (a : PoolAction) : (p.act a).Inv := by
  cases a with
  | create => exact h.add_ok List.nodup_nil
  | collect entries => exact h.add_ok (nodup_ofList entries)
  | extend place v t =>
    rw [Pool.act]
    cases hplace : p.bindings[place]? with
    | none => exact h
    | some b =>
      have hb := List.mem_of_getElem? hplace
      rw [Option.elim_some]
      cases hextend : b.extend v t with
      | ok b' => exact h.add_ok (nodup_extend (h.nodup b hb) hextend)
      | error c =>
        obtain ⟨hvar, hget, -, hne⟩ := conflict_of_extend hextend
        rw [← hvar] at hget
        exact h.add_error hne hb hget

theorem Inv.run (h : p.Inv) (actions : List PoolAction) : (p.run actions).Inv := by
  induction actions generalizing p with
  | nil => exact h
  | cons a actions ih => exact ih (h.act a)

lemma inv_start : start.Inv := ⟨List.forall_mem_nil _, List.forall_mem_nil _⟩

/-- **Bindings are maps with an order.**  After any actions, the bindings of a pool name each
variable once and do not change any more, and whatever is done next does what it does to a map whose
keys stand in the order in which they came. -/
theorem lawful_run (actions : List PoolAction) : (start.run actions).Lawful where
  toInv := inv_start.run actions
  persists more := bindings_run_isPrefix _ more
  succeeds_iff b _ v t := exists_extend_iff
  extends_binding place b v t b' hb h := by
    refine ⟨binds_of_extend h, ?_⟩
    rw [act_extend hb, h, add]
  refuses_binding place b v t u hb hv hu := by
    have h := extend_of_ne hv hu
    refine ⟨h, ?_⟩
    rw [act_extend hb, h, add]
  collects entries := ⟨.ofList entries, domain_ofList entries, get?_ofList entries, rfl⟩
  chains_iff entries := exists_extendAll_iff List.nodup_nil
  chains_eq entries b h := by
    rw [← foldl_insertNew_of_extendAll h]
    rfl

/-- The second term of a variable counts for nothing when entries are collected, and stands in the
way when they are added. -/
example : let x : Variable := ⟨"x"⟩
    let actions : List PoolAction := [.collect [(x, .iri ⟨"a"⟩), (x, .iri ⟨"b"⟩)],
      .extend 0 x (.iri ⟨"b"⟩)]
    start.run actions =
      ⟨[⟨[(x, .iri ⟨"a"⟩)]⟩], [⟨x, .iri ⟨"a"⟩, .iri ⟨"b"⟩⟩]⟩ := by
  decide +kernel

end Pool

end Binding

end SparqlStream
