import Mathlib.Tactic
import SparqlStream.Proofs.Algebra
import SparqlStream.Proofs.Matching

/-!
# Basic graph patterns sideways

A search takes a binding and looks for what the binding leaves open.  From the bottom up one looks
for everything that a pattern leaves open and joins the result with the binding.  Both find the
same extensions: an assignment to all unknowns of the pattern that is compatible with the binding
is determined by its part for the unknowns that the binding leaves open.
-/

namespace SparqlStream

open Binding

section Assignments

variable {g : Graph} {ps : List TriplePattern} {b : Binding} {a a' : Assignment} {u : Unknown}
  {σ σ' : Unknown → Option Term}

/-! ## Patterns and valuations -/

lemma TermPattern.value?_congr {x : TermPattern} (h : ∀ u, x.unknown? = some u → σ u = σ' u) :
    x.value? σ = x.value? σ' := by
  cases x with
  | iri _ | literal _ => rfl
  | blank n => exact h (.blank n) rfl
  | var v => exact h (.var v) rfl

lemma IriPattern.value?_congr {x : IriPattern} (h : ∀ u, x.unknown? = some u → σ u = σ' u) :
    x.value? σ = x.value? σ' := by
  cases x with
  | iri _ => rfl
  | var v => exact h (.var v) rfl

/-- What a pattern becomes depends on its own unknowns. -/
lemma TriplePattern.becomes_congr {p : TriplePattern} (h : ∀ u ∈ p.unknowns, σ u = σ' u)
    (t : Triple) : p.becomes σ t = p.becomes σ' t := by
  simp only [TriplePattern.unknowns, List.mem_append, Option.mem_toList] at h
  rw [TriplePattern.becomes, TriplePattern.becomes,
    TermPattern.value?_congr fun u hu => h u (.inl (.inl hu)),
    IriPattern.value?_congr fun u hu => h u (.inl (.inr hu)),
    TermPattern.value?_congr fun u hu => h u (.inr hu)]

/-! ## Assignments as functions -/

/-- An assignment that names no unknown twice is determined by what it says about unknowns. -/
lemma eq_map_lookup (ha : (a.map Prod.fst).Nodup) :
    a = (a.map Prod.fst).map fun u => (u, (a.lookup u).getD default) := by
  rw [List.map_map]
  refine (List.map_id a).symm.trans (List.map_congr_left fun e he => ?_)
  rw [Function.comp_apply, lookup_of_mem ha he, Option.getD_some, id]

lemma lookup_map_pair {us : List Unknown} (f : Unknown → Term) (hu : u ∈ us) :
    (us.map fun u => (u, f u)).lookup u = some (f u) := by
  induction us with
  | nil => cases hu
  | cons w us ih =>
    by_cases hw : u = w
    · subst hw
      rw [List.map_cons, List.lookup_cons_self]
    · rw [List.map_cons, List.lookup_cons, beq_false_of_ne hw]
      exact ih ((List.mem_cons.1 hu).resolve_left hw)

/-! ## Open and closed unknowns -/

lemma isOpen_empty (u : Unknown) : u.isOpen .empty = true := by
  cases u <;> rfl

lemma openUnknowns_eq_filter (ps : List TriplePattern) (b : Binding) :
    openUnknowns ps b = (openUnknowns ps .empty).filter (·.isOpen b) := by
  have hall : (ps.flatMap (·.unknowns)).filter (·.isOpen .empty) = ps.flatMap (·.unknowns) :=
    List.filter_eq_self.2 fun u _ => isOpen_empty u
  rw [openUnknowns, openUnknowns, hall, filter_eraseDups]

lemma nodup_openUnknowns : (openUnknowns ps b).Nodup := nodup_eraseDups _

/-- The part of an assignment for what a binding leaves open. -/
def openPart (b : Binding) (a : Assignment) : Assignment := a.filter (·.1.isOpen b)

lemma map_fst_openPart (ha : a.map Prod.fst = openUnknowns ps .empty) :
    (openPart b a).map Prod.fst = openUnknowns ps b := by
  rw [openUnknowns_eq_filter, ← ha, List.filter_map]
  rfl

/-- A binding merged with an assignment is extended by the open part. -/
lemma merge_extendBy (b : Binding) (a : Assignment) :
    b.merge (Binding.empty.extendBy a) = b.extendBy (openPart b a) := by
  have hfilter : (a.filterMap fun e => e.1.var?.map (·, e.2)).filter (!b.contains ·.1) =
      (openPart b a).filterMap fun e => e.1.var?.map (·, e.2) := by
    induction a with
    | nil => rfl
    | cons e a ih =>
      obtain ⟨u, t⟩ := e
      cases u with
      | blank n => exact ih
      | var v =>
        cases hv : b.contains v with
        | true => simpa [openPart, Unknown.var?, Unknown.isOpen, hv] using ih
        | false => simpa [openPart, Unknown.var?, Unknown.isOpen, hv] using ih
  rw [merge, extendBy, extendBy, Binding.empty, List.nil_append, hfilter]

lemma lookup_vars (a : Assignment) (v : Variable) :
    (a.filterMap fun e => e.1.var?.map (·, e.2)).lookup v = a.lookup (.var v) := by
  induction a with
  | nil => rfl
  | cons e a ih =>
    obtain ⟨u, t⟩ := e
    cases u with
    | blank n => exact ih
    | var w =>
      by_cases hw : v = w
      · subst hw
        simp [Unknown.var?]
      · have hne : Unknown.var v ≠ Unknown.var w := fun h => hw (Unknown.var.inj h)
        simpa [Unknown.var?, List.lookup_cons, beq_false_of_ne hw, beq_false_of_ne hne] using ih

/-- An extended binding says about variables what the valuation says. -/
lemma get?_extendBy (b : Binding) (a : Assignment) (v : Variable) :
    (b.extendBy a).get? v = b.valuation a (.var v) := by
  rw [extendBy, get?_append, lookup_vars, valuation]

lemma valuation_empty (a : Assignment) (u : Unknown) :
    Binding.empty.valuation a u = a.lookup u := by
  cases u with
  | blank n => rfl
  | var v => exact Option.none_or

/-! ## The open part of a solution -/

lemma exists_lookup_iff : (∃ t, a.lookup u = some t) ↔ u ∈ a.map Prod.fst := by
  rw [← Option.isSome_iff_exists, List.lookup_isSome_iff, List.mem_map]
  exact exists_congr fun e => and_congr_right fun _ => by rw [beq_iff_eq, eq_comm]

lemma valuation_of_isOpen (hu : u.isOpen b = true) : b.valuation a u = a.lookup u := by
  cases u with
  | blank n => rfl
  | var v =>
    rw [Unknown.isOpen, Bool.not_eq_true', contains, Option.isSome_eq_false_iff,
      Option.isNone_iff_eq_none] at hu
    rw [valuation, hu, Option.none_or]

/-- Together with a compatible binding the open part says what the whole says. -/
lemma valuation_openPart (hc : b.Compatible (Binding.empty.extendBy a)) (hu : u ∈ a.map Prod.fst) :
    b.valuation (openPart b a) u = a.lookup u := by
  cases u with
  | blank n => exact lookup_filter_fst (Unknown.isOpen b) a rfl
  | var v =>
    rw [valuation]
    cases hv : b.get? v with
    | none =>
      rw [Option.none_or]
      exact lookup_filter_fst (Unknown.isOpen b) a (by rw [Unknown.isOpen, contains, hv]; rfl)
    | some t =>
      obtain ⟨t', ht'⟩ := exists_lookup_iff.2 hu
      have heq : t = t' := by
        refine compatible_iff.1 hc v t t' hv ?_
        rw [get?_extendBy, valuation_empty, ht']
      rw [Option.some_or, heq, ht']

lemma openPart_mem_satisfying (ha : a ∈ g.satisfying ps .empty)
    (hc : b.Compatible (Binding.empty.extendBy a)) : openPart b a ∈ g.satisfying ps b := by
  obtain ⟨hkeys, hall⟩ := mem_satisfying.1 ha
  refine mem_satisfying.2 ⟨map_fst_openPart hkeys, fun p hp => ?_⟩
  obtain ⟨t, ht, hb⟩ := hall p hp
  refine ⟨t, ht, ?_⟩
  rw [← hb]
  refine TriplePattern.becomes_congr (fun u hu => ?_) t
  have hmem : u ∈ a.map Prod.fst := by
    rw [hkeys]
    exact mem_openUnknowns.2 ⟨List.mem_flatMap.2 ⟨p, hp, hu⟩, isOpen_empty u⟩
  rw [valuation_openPart hc hmem, valuation_empty]

/-- Two compatible assignments to all unknowns with the same open part are the same. -/
lemma openPart_injective (ha : a ∈ g.satisfying ps .empty) (ha' : a' ∈ g.satisfying ps .empty)
    (hc : b.Compatible (Binding.empty.extendBy a)) (hc' : b.Compatible (Binding.empty.extendBy a'))
    (h : openPart b a = openPart b a') : a = a' := by
  have hkeys := (mem_satisfying.1 ha).1
  have hkeys' := (mem_satisfying.1 ha').1
  have hnodup : (openUnknowns ps .empty).Nodup := nodup_openUnknowns
  rw [eq_map_lookup (a := a) (by rwa [hkeys]), eq_map_lookup (a := a') (by rwa [hkeys']), hkeys,
    hkeys']
  refine List.map_congr_left fun u hu => ?_
  rw [← valuation_openPart hc (by rwa [hkeys]), h, valuation_openPart hc' (by rwa [hkeys'])]

/-- What an assignment to the open unknowns and a binding say about all unknowns. -/
def closeBy (ps : List TriplePattern) (b : Binding) (a : Assignment) : Assignment :=
  (openUnknowns ps .empty).map fun u => (u, (b.valuation a u).getD default)

lemma map_fst_closeBy : (closeBy ps b a).map Prod.fst = openUnknowns ps .empty := by
  rw [closeBy, List.map_map]
  exact List.map_id _

lemma exists_valuation (ha : a.map Prod.fst = openUnknowns ps b)
    (hu : u ∈ openUnknowns ps .empty) : ∃ t, b.valuation a u = some t := by
  cases hopen : u.isOpen b with
  | true =>
    rw [valuation_of_isOpen hopen, exists_lookup_iff, ha]
    exact mem_openUnknowns.2 ⟨(mem_openUnknowns.1 hu).1, hopen⟩
  | false =>
    cases u with
    | blank n => cases hopen
    | var v =>
      rw [Unknown.isOpen, Bool.not_eq_false', contains, Option.isSome_iff_exists] at hopen
      obtain ⟨t, ht⟩ := hopen
      exact ⟨t, by rw [valuation, ht, Option.some_or]⟩

lemma lookup_closeBy (ha : a.map Prod.fst = openUnknowns ps b) (hu : u ∈ openUnknowns ps .empty) :
    (closeBy ps b a).lookup u = b.valuation a u := by
  obtain ⟨t, ht⟩ := exists_valuation ha hu
  rw [closeBy, lookup_map_pair _ hu, ht, Option.getD_some]

lemma compatible_closeBy (ha : a.map Prod.fst = openUnknowns ps b) :
    b.Compatible (Binding.empty.extendBy (closeBy ps b a)) := by
  refine compatible_iff.2 fun v s t hs ht => ?_
  rw [get?_extendBy, valuation_empty] at ht
  have hv : Unknown.var v ∈ openUnknowns ps .empty := by
    rw [← map_fst_closeBy (b := b) (a := a)]
    exact exists_lookup_iff.1 ⟨t, ht⟩
  rw [lookup_closeBy ha hv, valuation, hs, Option.some_or] at ht
  exact Option.some.inj ht

lemma openPart_closeBy (ha : a.map Prod.fst = openUnknowns ps b) :
    openPart b (closeBy ps b a) = a := by
  have hnodup : (openUnknowns ps b).Nodup := nodup_openUnknowns
  have hmap : a = (openUnknowns ps b).map fun u => (u, (a.lookup u).getD default) := by
    rw [← ha]
    exact eq_map_lookup (by rwa [ha])
  have hopen : openPart b (closeBy ps b a) =
      (openUnknowns ps b).map fun u => (u, (b.valuation a u).getD default) := by
    rw [openPart, closeBy, List.filter_map, openUnknowns_eq_filter ps b]
    rfl
  rw [hopen]
  refine (List.map_congr_left fun u hu => ?_).trans hmap.symm
  rw [valuation_of_isOpen (mem_openUnknowns.1 hu).2]

lemma closeBy_mem_satisfying (ha : a ∈ g.satisfying ps b) :
    closeBy ps b a ∈ g.satisfying ps .empty := by
  obtain ⟨hkeys, hall⟩ := mem_satisfying.1 ha
  refine mem_satisfying.2 ⟨map_fst_closeBy, fun p hp => ?_⟩
  obtain ⟨t, ht, hb⟩ := hall p hp
  refine ⟨t, ht, ?_⟩
  rw [← hb]
  refine TriplePattern.becomes_congr (fun u hu => ?_) t
  rw [valuation_empty, lookup_closeBy hkeys]
  exact mem_openUnknowns.2 ⟨List.mem_flatMap.2 ⟨p, hp, hu⟩, isOpen_empty u⟩

/-- The open parts of the compatible assignments to all unknowns are the assignments to the open
ones. -/
lemma openParts_perm : (((g.satisfying ps .empty).filter
      (b.Compatible <| Binding.empty.extendBy ·)).map (openPart b)).Perm (g.satisfying ps b) := by
  refine (List.perm_ext_iff_of_nodup ?_ nodup_satisfying).2 fun c => ?_
  · -- Taking open parts is injective on compatible assignments.
    refine List.Nodup.map_on (fun a ha a' ha' heq => ?_) (nodup_satisfying.filter _)
    rw [List.mem_filter, decide_eq_true_iff] at ha ha'
    exact openPart_injective ha.1 ha'.1 ha.2 ha'.2 heq
  · rw [List.mem_map]
    constructor
    · rintro ⟨a, ha, rfl⟩
      rw [List.mem_filter, decide_eq_true_iff] at ha
      exact openPart_mem_satisfying ha.1 ha.2
    · -- An assignment to the open unknowns is the open part of the one that the binding completes.
      intro hc
      have hkeys := (mem_satisfying.1 hc).1
      refine ⟨closeBy ps b c, ?_, openPart_closeBy hkeys⟩
      rw [List.mem_filter, decide_eq_true_iff]
      exact ⟨closeBy_mem_satisfying hc, compatible_closeBy hkeys⟩

/-- **Sideways.**  The extensions of a binding are the binding joined with the solutions of a basic
graph pattern. -/
theorem extensions_perm (g : Graph) (ps : List TriplePattern) (b : Binding) :
    (b.joinWith (g.extensions ps .empty)).Perm (g.extensions ps b) := by
  refine List.Perm.trans (List.Perm.of_eq ?_) (openParts_perm.map b.extendBy)
  rw [joinWith, Graph.extensions, List.filter_map, List.map_map, List.map_map]
  exact List.map_congr_left fun a _ => merge_extendBy b a

end Assignments

end SparqlStream
