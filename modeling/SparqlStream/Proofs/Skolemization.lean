import Mathlib.Data.List.TakeWhile
import Mathlib.Tactic
import SparqlStream.Rdf.Skolem

/-!
# Skolem IRIs are read back

A blank node becomes a Skolem IRI by putting its label behind a base and a path.  An IRI is read as
a blank node if it has the form of a Skolem IRI, whatever base it was made with, and some characters
of the label may be rewritten then.

`Skolem.label?_eq_some` says which label an IRI has.  The authority of an IRI ends at its first
slash, so there is one way only to take the IRI apart.  If the base holds a path of its own, this is
not the way in which the IRI was put together, and the label that is read is too long.  Hence
`Term.deskolemize_exact`: a blank node is read back exactly if its label is plain and the base is a
scheme with an authority.
-/

namespace SparqlStream

namespace Skolem

/-- The schemes of Skolem IRIs. -/
def schemes : List (List Char) := ["http://".toList, "https://".toList]

/-- A base below which Skolem IRIs are recognised: a scheme and an authority. -/
def IsBase (base : String) : Prop :=
  ∃ scheme ∈ schemes, ∃ authority, authority ≠ [] ∧ '/' ∉ authority ∧
    trimSlashes base.toList = scheme ++ authority

lemma after?_append (p rest : List Char) : after? p (p ++ rest) = some rest := by
  induction p with
  | nil => rfl
  | cons c p ih => rw [List.cons_append, after?, if_pos rfl, ih]

lemma afterScheme?_append {scheme : List Char} (hscheme : scheme ∈ schemes) (rest : List Char) :
    afterScheme? (scheme ++ rest) = some rest := by
  rw [schemes, List.mem_cons, List.mem_singleton] at hscheme
  rcases hscheme with rfl | rfl
  · rw [afterScheme?, after?_append]
  · have hhttp : after? "http://".toList ("https://".toList ++ rest) = none := rfl
    rw [afterScheme?, hhttp, after?_append]

/-- The label of a Skolem IRI is what stands behind its path, if that is a line with any text. -/
lemma label?_append {scheme authority : List Char} (hscheme : scheme ∈ schemes)
    (hauthority : authority ≠ []) (hslash : '/' ∉ authority) (label : List Char) :
    label? (scheme ++ authority ++ path ++ label) =
      if label ≠ [] ∧ '\n' ∉ label then some label else none := by
  have hall : ∀ c ∈ authority, decide (c ≠ '/') = true := by
    intro c hc
    refine decide_eq_true ?_
    rintro rfl
    exact hslash hc
  have hpath : path ++ label = '/' :: (".well-known/genid/".toList ++ label) := rfl
  have htake : (authority ++ (path ++ label)).takeWhile (· ≠ '/') = authority := by
    rw [List.takeWhile_append_of_pos hall, hpath, List.takeWhile_cons_of_neg (by decide),
      List.append_nil]
  have hdrop : (authority ++ (path ++ label)).dropWhile (· ≠ '/') = path ++ label := by
    rw [List.dropWhile_append_of_pos hall, hpath, List.dropWhile_cons_of_neg (by decide)]
  rw [List.append_assoc, List.append_assoc, label?, afterScheme?_append hscheme]
  simp only [Option.bind_eq_bind, Option.bind_some, htake, hdrop, after?_append, hauthority,
    ne_eq, not_false_eq_true, true_and]

lemma eq_append_of_after? {p cs rest : List Char} (h : after? p cs = some rest) :
    cs = p ++ rest := by
  induction p generalizing cs with
  | nil => exact Option.some.inj h
  | cons c p ih =>
    cases cs with
    | nil => cases h
    | cons d cs =>
      rw [after?] at h
      split at h
      · next hcd => rw [ih h, hcd, List.cons_append]
      · cases h

lemma exists_of_afterScheme? {cs rest : List Char} (h : afterScheme? cs = some rest) :
    ∃ scheme ∈ schemes, cs = scheme ++ rest := by
  rw [afterScheme?] at h
  cases hhttp : after? "http://".toList cs with
  | some rest' =>
    rw [hhttp] at h
    obtain rfl := Option.some.inj h
    exact ⟨_, by decide, eq_append_of_after? hhttp⟩
  | none =>
    rw [hhttp] at h
    exact ⟨_, by decide, eq_append_of_after? h⟩

/-- The texts with a label are a scheme, an authority, the path of Skolem IRIs, and the label. -/
theorem label?_eq_some {cs label : List Char} : label? cs = some label ↔
    ∃ scheme ∈ schemes, ∃ authority, authority ≠ [] ∧ '/' ∉ authority ∧
      label ≠ [] ∧ '\n' ∉ label ∧ cs = scheme ++ authority ++ path ++ label := by
  constructor
  · intro h
    simp only [label?, Option.bind_eq_bind, Option.bind_eq_some_iff, Option.ite_none_right_eq_some,
      Option.some.injEq] at h
    obtain ⟨rest, hscheme, label', hpath, ⟨hauthority, hlabel, hline⟩, rfl⟩ := h
    obtain ⟨scheme, hmem, rfl⟩ := exists_of_afterScheme? hscheme
    refine ⟨scheme, hmem, _, hauthority, ?_, hlabel, hline, ?_⟩
    · intro hslash
      have hne := List.mem_takeWhile_imp hslash
      simp at hne
    · rw [List.append_assoc, List.append_assoc, ← eq_append_of_after? hpath,
        List.takeWhile_append_dropWhile]
  · rintro ⟨scheme, hmem, authority, hauthority, hslash, hlabel, hline, rfl⟩
    rw [label?_append hmem hauthority hslash, if_pos ⟨hlabel, hline⟩]

end Skolem

namespace BlankNode

/-- The blank node with the label that is read off its Skolem IRI. -/
def relabelled (n : BlankNode) : BlankNode :=
  ⟨String.ofList (n.label.toList.map Skolem.labelChar)⟩

/-- A blank node whose label is a line with any text. -/
def IsLine (n : BlankNode) : Prop := n.label.toList ≠ [] ∧ '\n' ∉ n.label.toList

/-- A blank node whose label consists of ASCII letters, digits and underscores. -/
def IsSimple (n : BlankNode) : Prop := ∀ c ∈ n.label.toList, Skolem.isLabelChar c = true

instance : DecidablePred IsLine := fun _ => inferInstanceAs (Decidable (_ ∧ _))

variable {n : BlankNode}

/-- The labels that are kept are those of ASCII letters, digits and underscores. -/
lemma relabelled_eq_self : n.relabelled = n ↔ n.IsSimple := by
  obtain ⟨label⟩ := n
  have hchar : ∀ c, Skolem.labelChar c = c ↔ Skolem.isLabelChar c = true := by
    intro c
    rw [Skolem.labelChar]
    split
    · next h => exact iff_of_true rfl h
    · next h =>
      refine iff_of_false ?_ h
      rintro rfl
      exact h (by decide)
  have hmap : label.toList.map Skolem.labelChar = label.toList ↔
      ∀ c ∈ label.toList, Skolem.labelChar c = c := by
    conv_lhs => rhs; rw [← List.map_id label.toList]
    exact List.map_inj_left
  rw [relabelled, IsSimple, BlankNode.mk.injEq, ← String.toList_inj, String.toList_ofList, hmap]
  exact forall₂_congr fun c _ => hchar c

/-- A Skolem IRI is read as the blank node with the label rewritten. -/
lemma deskolemize_skolemize {base : String} (hbase : Skolem.IsBase base) (hn : n.IsLine) :
    Term.deskolemize (.iri (n.skolemize base)) = .blank n.relabelled := by
  obtain ⟨scheme, hscheme, authority, hauthority, hslash, hbase⟩ := hbase
  have hlabel : Skolem.label? (n.skolemize base).text.toList = some n.label.toList := by
    rw [skolemize, String.toList_ofList, hbase,
      Skolem.label?_append hscheme hauthority hslash]
    exact if_pos hn
  rw [Term.deskolemize, hlabel]
  rfl

end BlankNode

/-! ## What is read back -/

namespace BlankNode

variable {n : BlankNode} {base : String}

/-- If a blank node is read back, its label is what is read off the IRI: a label at another place
would be longer, and rewriting keeps lengths. -/
lemma label?_skolemize (h : Term.deskolemize (.iri (n.skolemize base)) = .blank n) :
    Skolem.label? (n.skolemize base).text.toList = some n.label.toList ∧ n.relabelled = n := by
  rw [Term.deskolemize] at h
  cases hlabel : Skolem.label? (n.skolemize base).text.toList with
  | none => rw [hlabel] at h; cases h
  | some label =>
    rw [hlabel] at h
    have hn : n = ⟨String.ofList (label.map Skolem.labelChar)⟩ := (Term.blank.inj h).symm
    have hlength : n.label.toList.length = label.length := by
      rw [hn, String.toList_ofList, List.length_map]
    obtain ⟨scheme, -, authority, -, -, -, -, htext⟩ := Skolem.label?_eq_some.1 hlabel
    rw [skolemize, String.toList_ofList] at htext
    obtain ⟨-, hsame⟩ := List.append_inj' htext hlength
    refine ⟨by rw [hsame], ?_⟩
    rw [relabelled, hsame, ← hn]

/-- A blank node is read back exactly if its label is plain and the base is one below which Skolem
IRIs are recognised. -/
lemma deskolemize_skolemize_eq_self : Term.deskolemize (.iri (n.skolemize base)) = .blank n ↔
    n.label ≠ "" ∧ n.IsSimple ∧ Skolem.IsBase base := by
  have hempty : n.label ≠ "" ↔ n.label.toList ≠ [] := not_congr String.toList_eq_nil_iff.symm
  constructor
  · intro h
    obtain ⟨hlabel, hsame⟩ := label?_skolemize h
    obtain ⟨scheme, hscheme, authority, hauthority, hslash, hne, -, htext⟩ :=
      Skolem.label?_eq_some.1 hlabel
    rw [skolemize, String.toList_ofList] at htext
    have htrim := List.append_cancel_right (List.append_cancel_right htext)
    exact ⟨hempty.2 hne, relabelled_eq_self.1 hsame, scheme, hscheme, authority, hauthority,
      hslash, htrim⟩
  · rintro ⟨hne, hsimple, hbase⟩
    have hline : '\n' ∉ n.label.toList := fun hmem => absurd (hsimple _ hmem) (by decide)
    rw [deskolemize_skolemize hbase ⟨hempty.1 hne, hline⟩, relabelled_eq_self.2 hsimple]

end BlankNode

namespace Term

variable {t : Term}

/-- The terms that change on the way to results are the Skolem IRIs. -/
lemma deskolemize_ne_self : t.deskolemize ≠ t ↔ t.isSkolemized = true := by
  cases t with
  | iri i => cases hlabel : Skolem.label? i.text.toList <;> simp [deskolemize, isSkolemized, hlabel]
  | blank b => simp [deskolemize, isSkolemized]
  | literal l => simp [deskolemize, isSkolemized]

/-- No Skolem IRI is left. -/
lemma isSkolemized_deskolemize (t : Term) : t.deskolemize.isSkolemized = false := by
  cases t with
  | iri i => cases hlabel : Skolem.label? i.text.toList <;> simp [deskolemize, isSkolemized, hlabel]
  | blank b => rfl
  | literal l => rfl

/-- **Skolem IRIs are read back.**  A blank node is read back from its Skolem IRI exactly if its
label is a text of ASCII letters, digits and underscores, and not empty, and the base without the
slashes at its end is a scheme with an authority.  Reading changes a term exactly if it is a Skolem
IRI, and what has been read is none, so that reading it again changes nothing. -/
theorem deskolemize_exact :
    (∀ (n : BlankNode) (base : String),
      deskolemize (.iri (n.skolemize base)) = .blank n ↔
        n.label ≠ "" ∧ n.IsSimple ∧ Skolem.IsBase base) ∧
    ∀ t : Term, (t.deskolemize ≠ t ↔ t.isSkolemized = true) ∧
      t.deskolemize.isSkolemized = false ∧ t.deskolemize.deskolemize = t.deskolemize := by
  refine ⟨fun n base => BlankNode.deskolemize_skolemize_eq_self, fun t => ?_⟩
  have hdone := isSkolemized_deskolemize t
  have hagain := not_congr (deskolemize_ne_self (t := t.deskolemize))
  rw [hdone, not_not] at hagain
  exact ⟨deskolemize_ne_self, hdone, hagain.2 Bool.false_ne_true⟩

/-- A base with a path of Skolem IRIs of its own spoils the label. -/
example : deskolemize (.iri (BlankNode.skolemize ⟨"b"⟩ "http://a/.well-known/genid/c")) =
    .blank ⟨"c__well_known_genid_b"⟩ := by
  decide +kernel

end Term

end SparqlStream
