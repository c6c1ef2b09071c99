import Mathlib.Tactic
import SparqlStream.Proofs.Attachment
import SparqlStream.Stream.Network

/-!
# Sorted streams

A stream is sorted by putting a sorter on top of it.  Without a window the sorter holds everything
back, and what it delivers is a permutation of its input, however it compares; by a total preorder
it is the stable sort.  So a stream with one sorter on top of another is sorted by all of their
comparisons, that of the last sorter first.

With a window the sorter shows its least item whenever its buffer is full.  That is too early
exactly if something less is still to come.  At that moment everything in the buffer is greater
than what is to come, and so as many greater items as the buffer holds come before it.
-/

namespace SparqlStream

namespace Sorter

variable {α : Type} {cmp : α → α → Ordering} {held l : List α}

/-! ## Windows -/

/-- A property of the items of a list and what comes before them, item by item. -/
lemma forall_split_cons {P : List α → α → Prop} {a : α} :
    (∀ before b after, a :: l = before ++ b :: after → P before b) ↔
      P [] a ∧ ∀ before b after, l = before ++ b :: after → P (a :: before) b := by
  constructor
  · refine fun h => ⟨h [] a l rfl, fun before b after hl => h (a :: before) b after ?_⟩
    rw [hl, List.cons_append]
  · rintro ⟨hfirst, hrest⟩ before b after hl
    cases before with
    | nil =>
      obtain ⟨rfl, rfl⟩ := List.cons.inj hl
      exact hfirst
    | cons c before =>
      obtain ⟨rfl, hl'⟩ := List.cons.inj hl
      exact hrest before b after hl'

/-- The first item of a buffer in order is greater than an item only if all of them are. -/
lemma countP_eq_length {a b : α} (h : TotalPreorderOn cmp (a :: held ++ [b]))
    (hsorted : (a :: held).Pairwise fun a b => (cmp a b).isLE = true) (hgt : cmp a b = .gt) :
    (a :: held).countP (cmp · b == .gt) = (a :: held).length := by
  refine List.countP_eq_length.2 fun c hc => beq_iff_eq.2 ?_
  rcases List.mem_cons.1 hc with rfl | hheld
  · exact hgt
  · have hac := List.rel_of_pairwise_cons hsorted hheld
    cases hcb : cmp c b with
    | gt => rfl
    | lt | eq =>
      have hab := h.trans a (by simp) c (List.mem_append_left _ hc) b (by simp) hac
        (by rw [hcb]; rfl)
      rw [hgt] at hab
      cases hab

/-- An item comes in time after some others if fewer of these are greater than a buffer has
places. -/
def ComesInTime (cmp : α → α → Ordering) (places : Nat) (before : List α) (a : α) : Prop :=
  before.countP (fun b => cmp b a == .gt) < places

/-- Each item of a list comes in time after those that are held and those before it in the list. -/
def InTime (cmp : α → α → Ordering) (places : Nat) (held l : List α) : Prop :=
  ∀ before a after, l = before ++ a :: after → ComesInTime cmp places (held ++ before) a

variable {a b : α} {places : Nat} {w : {n : Nat // 0 < n}} {before : List α}

lemma ComesInTime.of_cons (h : ComesInTime cmp places (b :: before) a) :
    ComesInTime cmp places before a := by
  refine lt_of_le_of_lt ?_ h
  rw [List.countP_cons]
  exact Nat.le_add_right _ _

lemma comesInTime_cons (hle : (cmp b a).isLE = true) :
    ComesInTime cmp places (b :: before) a ↔ ComesInTime cmp places before a := by
  have hne : ¬(cmp b a == .gt) = true := by
    intro hgt
    rw [beq_iff_eq.1 hgt] at hle
    cases hle
  rw [ComesInTime, List.countP_cons_of_neg (p := fun b => cmp b a == .gt) hne, ComesInTime]

lemma comesInTime_of_length (h : before.length < places) : ComesInTime cmp places before a :=
  lt_of_le_of_lt List.countP_le_length h

/-- An item that comes in time after a full buffer is not less than the first item there. -/
lemma ComesInTime.isLE (h : TotalPreorderOn cmp (a :: held ++ [b]))
    (hsorted : (a :: held).Pairwise fun a b => (cmp a b).isLE = true)
    (hfull : places ≤ (a :: held).length) (hb : ComesInTime cmp places (a :: held ++ before) b) :
    (cmp a b).isLE = true := by
  by_contra hle
  have hgt : cmp a b = .gt := by
    cases hcmp : cmp a b <;> rw [hcmp] at hle <;> first | rfl | exact absurd rfl hle
  rw [ComesInTime, List.countP_append, countP_eq_length h hsorted hgt] at hb
  omega

/-- A full buffer shows its first item too early if and only if something less is still to come. -/
lemma inTime_full (h : TotalPreorderOn cmp (a :: held ++ l))
    (hsorted : (a :: held).Pairwise fun a b => (cmp a b).isLE = true)
    (hfull : places ≤ (a :: held).length) :
    InTime cmp places (a :: held) l ↔
      (∀ b ∈ l, (cmp a b).isLE = true) ∧ InTime cmp places held l := by
  constructor
  · intro htime
    refine ⟨fun b hb => ?_, fun before b after hl => (htime before b after hl).of_cons⟩
    obtain ⟨before, after, rfl⟩ := List.append_of_mem hb
    exact (htime before b after rfl).isLE (h.subset fun c hc => by simp at hc ⊢; tauto) hsorted
      hfull
  · rintro ⟨hfirst, htime⟩ before b after rfl
    exact (comesInTime_cons (hfirst b (by simp))).2 (htime before b after rfl)

/-- An item that finds a place comes in time.  To the others it does not matter whether it is held
already. -/
lemma inTime_insert (hplace : held.length < places) :
    InTime cmp places held (a :: l) ↔
      InTime cmp places ((Sorter.mk cmp (some w) held).insert a).held l := by
  have hperm := held_insert_perm (Sorter.mk cmp (some w) held) a
  have hfirst : ComesInTime cmp places (held ++ []) a := by
    rw [List.append_nil]
    exact comesInTime_of_length hplace
  rw [InTime, forall_split_cons (P := fun before b => ComesInTime cmp places (held ++ before) b),
    and_iff_right hfirst]
  refine forall₃_congr fun before b after => imp_congr_right fun _ => ?_
  rw [ComesInTime, ComesInTime,
    ((hperm.append_right before).trans List.perm_middle.symm).countP_eq]

/-- What a sorter shows is in order if and only if each item comes in time. -/
theorem pairwise_shown_iff (h : TotalPreorderOn cmp (held ++ l))
    (hsorted : held.Pairwise fun a b => (cmp a b).isLE = true) (hlen : held.length ≤ w) :
    ((shown cmp (some w) held l).Pairwise fun a b => (cmp a b).isLE = true) ↔
      InTime cmp w held l := by
  fun_induction shown cmp (some w) held l with
  | case1 l hfull => rw [isFull_of_held_eq_nil rfl] at hfull; cases hfull
  | case2 l a held hfull ih =>
    have hrest := ih (h.subset fun b hb => List.mem_cons_of_mem a hb) hsorted.of_cons
      ((Nat.le_succ _).trans hlen)
    rw [List.pairwise_cons, hrest, inTime_full h hsorted (of_decide_eq_true hfull)]
    refine and_congr_left fun _ => ⟨fun hfirst b hb => ?_, fun hfirst b hb => ?_⟩
    · exact hfirst b ((shown_perm cmp (some w) held l).mem_iff.2 (List.mem_append_right _ hb))
    · rcases List.mem_append.1 ((shown_perm cmp (some w) held l).mem_iff.1 hb) with hb | hb
      · exact List.rel_of_pairwise_cons hsorted hb
      · exact hfirst b hb
  | case3 held hfull =>
    refine ⟨fun _ before a after hl => ?_, fun _ => hsorted⟩
    exact absurd hl.symm (List.append_ne_nil_of_right_ne_nil _ (List.cons_ne_nil _ _))
  | case4 held hfull a l ih =>
    have hplace : held.length < w := Nat.lt_of_not_le fun hle => hfull (decide_eq_true hle)
    have hperm := held_insert_perm (Sorter.mk cmp (some w) held) a
    have hself : StablySorted cmp held held := ⟨.refl _, hsorted, fun _ _ => rfl⟩
    have hinsert := stablySorted_insert (some w) (h.subset fun b hb => by simp at hb ⊢; tauto) hself
    have horder : TotalPreorderOn cmp (((Sorter.mk cmp (some w) held).insert a).held ++ l) := by
      refine h.subset fun b hb => ?_
      rw [List.mem_append, hperm.mem_iff] at hb
      simp at hb ⊢
      tauto
    rw [ih horder hinsert.sorted (by rw [hperm.length_eq]; exact hplace), inTime_insert hplace]

end Sorter

/-! ## Streams -/

namespace Outlet

variable {α ε μ : Type} [Operator μ α α ε] {o t : Outlet α ε μ} {mayWait : Bool} {as : List α}

/-- Sorting without a window loses nothing, whatever the comparison is, and is stable sorting if
the comparison is a total preorder.  One sorter on top of another sorts stably by the
lexicographic order of their comparisons. -/
theorem delivers_stablySorted (ho : Flow.Delivers mayWait o as t) :
    (∀ cmp, ∃ bs t', Flow.Delivers mayWait (o.sortBy cmp none) bs t' ∧ bs.Perm as ∧
      (TotalPreorderOn cmp as → StablySorted cmp as bs)) ∧
    ∀ cmps, (∀ cmp ∈ cmps, TotalPreorderOn cmp as) →
      ∃ bs t', Flow.Delivers mayWait (o.sortByAll cmps) bs t' ∧
        StablySorted (compareAll cmps) as bs := by
  refine ⟨fun cmp => ?_, fun cmps h => ?_⟩
  · obtain ⟨t', ht'⟩ := delivers_sortBy cmp none ho
    exact ⟨_, t', ht', Sorter.shown_perm cmp none [] as, Sorter.stablySorted_shown⟩
  · obtain ⟨t', ht'⟩ := delivers_sortByAll h ho
    have hsorted := stablySorted_stableSort (totalPreorderOn_compareAll h)
    rw [stableSort_compareAll h] at hsorted
    exact ⟨_, t', ht', hsorted⟩

/-- A source that waits once. -/
def sample : Outlet Nat String Empty :=
  ⟨⟨[.start [.item 21, .item 12, .pause, .item 22, .item 11] true], [], [], []⟩, .source 0, ""⟩

lemma delivers_sample : ∃ t, Flow.Delivers true sample [21, 12, 22, 11] t :=
  ⟨_, .item rfl (.item rfl (.pending rfl rfl (.item rfl (.item rfl (.finish rfl)))))⟩

/-- Compares the tens of two numbers. -/
def compareTens (a b : Nat) : Ordering := compare (a / 10) (b / 10)

theorem delivers_stablySorted_sample :
    (∃ t, Flow.Delivers true sample [21, 12, 22, 11] t) ∧
      (∀ cmp ∈ [compareTens, compare], TotalPreorderOn cmp [21, 12, 22, 11]) ∧
      (∃ t, Flow.Delivers true (sample.sortBy compareTens none) [12, 11, 21, 22] t) ∧
      ∃ t, Flow.Delivers true (sample.sortByAll [compareTens, compare]) [11, 12, 21, 22] t := by
  have hcmps : ∀ cmp ∈ [compareTens, compare], TotalPreorderOn cmp [21, 12, 22, 11] :=
    List.forall_mem_cons.2 ⟨⟨by decide, by decide⟩,
      List.forall_mem_singleton.2 ⟨by decide, by decide⟩⟩
  have htens := hcmps compareTens List.mem_cons_self
  obtain ⟨t, ht⟩ := delivers_sample
  obtain ⟨hone, hall⟩ := delivers_stablySorted ht
  obtain ⟨bs, t₁, h₁, -, hsorted⟩ := hone compareTens
  obtain ⟨bs', t₂, h₂, hsorted'⟩ := hall _ hcmps
  have hbs : StablySorted compareTens [21, 12, 22, 11] [12, 11, 21, 22] :=
    ⟨by decide, by decide, by decide⟩
  have hbs' : StablySorted (compareAll [compareTens, compare]) [21, 12, 22, 11] [11, 12, 21, 22] :=
    ⟨by decide, by decide, by decide⟩
  rw [(hsorted htens).unique htens hbs] at h₁
  rw [hsorted'.unique (totalPreorderOn_compareAll hcmps) hbs'] at h₂
  exact ⟨⟨t, ht⟩, hcmps, ⟨t₁, h₁⟩, ⟨t₂, h₂⟩⟩

/-- Sorting with a window puts the items in order if and only if none of them comes after as many
greater ones as there are places in the window. -/
theorem delivers_windowed (w : {n : Nat // 0 < n}) {cmp : α → α → Ordering}
    (h : TotalPreorderOn cmp as) (ho : Flow.Delivers mayWait o as t) :
    ∃ bs t', Flow.Delivers mayWait (o.sortBy cmp (some w)) bs t' ∧ bs.Perm as ∧
      ((bs.Pairwise fun a b => (cmp a b).isLE = true) ↔
        ∀ before a after, as = before ++ a :: after →
          before.countP (fun b => cmp b a == .gt) < w.1) := by
  obtain ⟨t', ht'⟩ := delivers_sortBy cmp (some w) ho
  exact ⟨_, t', ht', Sorter.shown_perm cmp (some w) [] as,
    Sorter.pairwise_shown_iff h .nil (Nat.zero_le w)⟩

/-- Behind three greater items, an item comes in time for a window of four and too late for one of
three. -/
theorem delivers_windowed_sample :
    TotalPreorderOn compare [21, 12, 22, 11] ∧
      (∃ t, Flow.Delivers true sample [21, 12, 22, 11] t) ∧
      (∃ bs t, Flow.Delivers true (sample.sortBy compare (some ⟨4, by decide⟩)) bs t ∧
        bs.Pairwise fun a b => (compare a b).isLE = true) ∧
      ∃ bs t, Flow.Delivers true (sample.sortBy compare (some ⟨3, by decide⟩)) bs t ∧
        ¬ bs.Pairwise fun a b => (compare a b).isLE = true := by
  have horder : TotalPreorderOn compare [21, 12, 22, 11] := ⟨by decide, by decide⟩
  obtain ⟨t, ht⟩ := delivers_sample
  obtain ⟨bs, t₁, h₁, -, hsorted⟩ := delivers_windowed ⟨4, by decide⟩ horder ht
  obtain ⟨bs', t₂, h₂, -, hsorted'⟩ := delivers_windowed ⟨3, by decide⟩ horder ht
  refine ⟨horder, ⟨t, ht⟩, ⟨bs, t₁, h₁, hsorted.2 fun before a after hsplit => ?_⟩,
    bs', t₂, h₂, fun hpair => ?_⟩
  · have hlen := congrArg List.length hsplit
    rw [List.length_append, List.length_cons] at hlen
    exact Sorter.comesInTime_of_length (by simp at hlen ⊢; omega)
  · have hlate := hsorted'.1 hpair [21, 12, 22] 11 [] rfl
    revert hlate
    decide

end Outlet

end SparqlStream
