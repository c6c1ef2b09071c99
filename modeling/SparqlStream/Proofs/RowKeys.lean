import Mathlib.Tactic
import SparqlStream.Results.Solution

/-!
# Rows and triples are told apart by their keys

Repeated rows are found by comparing texts.  The text of a row names each column up to an equals
sign and writes its term up to a tab.  The terms themselves are written without loss, as a quote
inside a literal is escaped.  So rows with the same text are the same rows, as long as no name holds
an equals sign and no term is written with a tab: `Solution.key_inj`.

Literals may hold tabs, as these are escaped.  All other texts of a term are written as they are.

Repeated triples are found by their texts, too.  There the object comes last and may hold anything,
while the subject and the predicate end at the first space: `Triple.render_inj`.  What is needed of
rows and triples follows if names and terms are well formed, and `keys_unambiguous` assumes no more
than that.
-/

namespace SparqlStream

/-- What stands in front of the first delimiter, and what stands behind it. -/
lemma append_delimiter_inj {α : Type} {d : α} {u v s t : List α} (hu : d ∉ u) (hv : d ∉ v)
    (h : u ++ d :: s = v ++ d :: t) : u = v ∧ s = t := by
  induction u generalizing v with
  | nil =>
    cases v with
    | nil => exact ⟨rfl, (List.cons.inj h).2⟩
    | cons c v => exact absurd ((List.cons.inj h).1 ▸ List.mem_cons_self) hv
  | cons c u ih =>
    cases v with
    | nil => exact absurd ((List.cons.inj h).1 ▸ List.mem_cons_self) hu
    | cons c' v =>
      obtain ⟨rfl, hrest⟩ := List.cons.inj h
      obtain ⟨rfl, hst⟩ := ih (fun hmem => hu (List.mem_cons_of_mem c hmem))
        (fun hmem => hv (List.mem_cons_of_mem c hmem)) hrest
      exact ⟨rfl, hst⟩

/-! ## Quoted texts -/

namespace Quoted

/-- The characters with a short escape, and these escapes. -/
def shortEscapes : List (Char × Char) :=
  [('\x08', 'b'), ('\t', 't'), ('\n', 'n'), ('\x0c', 'f'), ('\r', 'r'), ('"', '"'), ('\\', '\\')]

variable {c d e : Char} {s t u v : List Char}

lemma mem_shortEscapes (h : shortEscape? c = some e) : (c, e) ∈ shortEscapes := by
  rw [shortEscape?] at h
  split_ifs at h <;> cases h <;> subst_vars <;> decide

/-- How a character is written: by a short escape, by its code, or as it is. -/
inductive Written (c : Char) : List Char → Prop
  | escape {e : Char} : (c, e) ∈ shortEscapes → Written c ['\\', e]
  | code : c.toNat < 256 →
    Written c ['\\', 'u', '0', '0', hexDigit (c.toNat / 16), hexDigit (c.toNat % 16)]
  | plain : c ∉ ['\t', '"', '\\'] → Written c [c]

lemma written_encodeChar (c : Char) : Written c (encodeChar c) := by
  rw [encodeChar]
  cases hshort : shortEscape? c with
  | some e => exact .escape (mem_shortEscapes hshort)
  | none =>
    cases hcode : needsCode c with
    | true =>
      rw [needsCode, Bool.or_eq_true, decide_eq_true_iff, beq_iff_eq] at hcode
      exact .code (by omega)
    | false =>
      refine .plain fun hmem => ?_
      simp only [List.mem_cons, List.not_mem_nil, or_false] at hmem
      rcases hmem with rfl | rfl | rfl <;> cases hshort

lemma shortEscapes_inj : ∀ p ∈ shortEscapes, ∀ q ∈ shortEscapes, p.2 = q.2 → p.1 = q.1 := by
  decide

lemma shortEscapes_ne : ∀ p ∈ shortEscapes, p.2 ∉ ['u', '\t'] := by decide

lemma hexDigit_inj : ∀ i < 16, ∀ j < 16, hexDigit i = hexDigit j → i = j := by decide

lemma hexDigit_ne : ∀ i < 16, hexDigit i ≠ '\t' := by decide

/-- A character with an escape is not written as it is. -/
lemma plain_ne_backslash (hplain : c ∉ ['\t', '"', '\\']) : c ≠ '\\' := by
  rintro rfl
  exact hplain (by decide)

/-- Where a written character ends can be seen from its beginning. -/
lemma Written.append_inj (hu : Written c u) (hv : Written d v) (h : u ++ s = v ++ t) :
    c = d ∧ s = t := by
  cases hu with
  | escape he =>
    cases hv with
    | escape he' =>
      simp only [List.cons_append, List.nil_append, List.cons.injEq, true_and] at h
      exact ⟨shortEscapes_inj _ he _ he' h.1, h.2⟩
    | code hlt' =>
      simp only [List.cons_append, List.nil_append, List.cons.injEq, true_and] at h
      exact absurd (h.1 ▸ List.mem_cons_self) (shortEscapes_ne _ he)
    | plain hplain' => exact absurd (List.cons.inj h).1.symm (plain_ne_backslash hplain')
  | code hlt =>
    cases hv with
    | escape he' =>
      simp only [List.cons_append, List.nil_append, List.cons.injEq, true_and] at h
      exact absurd (h.1 ▸ List.mem_cons_self) (shortEscapes_ne _ he')
    | code hlt' =>
      simp only [List.cons_append, List.nil_append, List.cons.injEq, true_and] at h
      obtain ⟨hhigh, hlow, hrest⟩ := h
      have hdiv := hexDigit_inj _ (by omega) _ (by omega) hhigh
      have hmod := hexDigit_inj _ (by omega) _ (by omega) hlow
      exact ⟨Char.toNat_inj.1 (by omega), hrest⟩
    | plain hplain' => exact absurd (List.cons.inj h).1.symm (plain_ne_backslash hplain')
  | plain hplain =>
    cases hv with
    | escape he' => exact absurd (List.cons.inj h).1 (plain_ne_backslash hplain)
    | code hlt' => exact absurd (List.cons.inj h).1 (plain_ne_backslash hplain)
    | plain hplain' => exact List.cons.inj h

/-- No written character begins with a quote. -/
lemma Written.ne_quote (hu : Written c u) : '"' :: s ≠ u ++ t := by
  intro h
  cases hu with
  | escape he => exact absurd (List.cons.inj h).1 (by decide)
  | code hlt => exact absurd (List.cons.inj h).1 (by decide)
  | plain hplain =>
    obtain rfl := (List.cons.inj h).1
    exact hplain (by decide)

lemma Written.tab_notMem (hu : Written c u) : '\t' ∉ u := by
  intro h
  cases hu with
  | escape he =>
    have hne := shortEscapes_ne _ he
    simp_all [eq_comm]
  | code hlt =>
    have hhigh := hexDigit_ne (c.toNat / 16) (by omega)
    have hlow := hexDigit_ne (c.toNat % 16) (by omega)
    simp_all [eq_comm]
  | plain hplain =>
    obtain rfl := List.mem_singleton.1 h
    exact hplain List.mem_cons_self

/-- A quoted text ends at the first quote that is not escaped. -/
lemma encode_append_quote_inj (h : encode u ++ '"' :: s = encode v ++ '"' :: t) :
    u = v ∧ s = t := by
  induction u generalizing v with
  | nil =>
    cases v with
    | nil => exact ⟨rfl, (List.cons.inj h).2⟩
    | cons d v =>
      rw [encode, encode, List.flatMap_nil, List.flatMap_cons, List.append_assoc] at h
      exact absurd h (written_encodeChar d).ne_quote
  | cons c u ih =>
    cases v with
    | nil =>
      rw [encode, encode, List.flatMap_nil, List.flatMap_cons, List.append_assoc] at h
      exact absurd h.symm (written_encodeChar c).ne_quote
    | cons d v =>
      rw [encode, encode, List.flatMap_cons, List.flatMap_cons, List.append_assoc,
        List.append_assoc] at h
      obtain ⟨rfl, hrest⟩ := (written_encodeChar c).append_inj (written_encodeChar d) h
      obtain ⟨rfl, hs⟩ := ih hrest
      exact ⟨rfl, hs⟩

lemma tab_notMem_encode (u : List Char) : '\t' ∉ encode u := by
  intro h
  obtain ⟨c, -, h⟩ := List.mem_flatMap.1 h
  exact (written_encodeChar c).tab_notMem h

end Quoted

/-! ## Terms -/

lemma toList_quoted (s : String) :
    (quoted s).toList = '"' :: (Quoted.encode s.toList ++ ['"']) := by
  simp [quoted]

lemma Iri.toList_render (i : Iri) : i.render.toList = '<' :: (i.text.toList ++ ['>']) := by
  simp [Iri.render]

lemma Iri.render_inj {i j : Iri} : i.render = j.render ↔ i = j := by
  rw [← String.toList_inj, toList_render, toList_render]
  cases i
  cases j
  simp [String.toList_inj]

namespace Literal

lemma toList_render (l : Literal) : l.render.toList =
    '"' :: (Quoted.encode l.value.toList ++ '"' :: match l with
      | simple _ => []
      | tagged _ t => '@' :: t.toList
      | typed _ d => '^' :: '^' :: d.render.toList) := by
  cases l <;> simp [render, toList_quoted, value]

/-- Literals are written without loss. -/
lemma render_inj {l l' : Literal} (h : l.render = l'.render) : l = l' := by
  have hlists := congrArg String.toList h
  rw [toList_render, toList_render] at hlists
  obtain ⟨hvalue, hrest⟩ := Quoted.encode_append_quote_inj (List.cons.inj hlists).2
  have hsame : l.value = l'.value := String.toList_inj.1 hvalue
  cases l <;> cases l' <;>
    simp only [value, List.cons.injEq, Char.reduceEq, reduceCtorEq, true_and, false_and,
      String.toList_inj, Iri.render_inj] at hsame hrest
  · rw [hsame]
  · rw [hsame, hrest]
  · rw [hsame, hrest]

end Literal

lemma BlankNode.toList_render (b : BlankNode) :
    b.render.toList = '_' :: ':' :: b.label.toList := by
  simp [BlankNode.render]

lemma BlankNode.render_inj {b b' : BlankNode} : b.render = b'.render ↔ b = b' := by
  rw [← String.toList_inj, toList_render, toList_render]
  cases b
  cases b'
  simp [String.toList_inj]

namespace Term

/-- Terms are written without loss. -/
lemma render_inj {t t' : Term} (h : t.render = t'.render) : t = t' := by
  have hlists := congrArg String.toList h
  cases t <;> cases t' <;>
    simp only [render, Iri.toList_render, BlankNode.toList_render, Literal.toList_render,
      List.cons.injEq, Char.reduceEq, false_and] at hlists
  · exact congrArg iri (Iri.render_inj.1 h)
  · exact congrArg blank (BlankNode.render_inj.1 h)
  · exact congrArg literal (Literal.render_inj h)

/-- A term without tabs, apart from those that are escaped where the term is written. -/
def IsTabFree : Term → Prop
  | iri i => '\t' ∉ i.text.toList
  | blank b => '\t' ∉ b.label.toList
  | literal (.simple _) => True
  | literal (.tagged _ language) => '\t' ∉ language.toList
  | literal (.typed _ datatype) => '\t' ∉ datatype.text.toList

instance : DecidablePred IsTabFree
  | iri i => inferInstanceAs (Decidable ('\t' ∉ i.text.toList))
  | blank b => inferInstanceAs (Decidable ('\t' ∉ b.label.toList))
  | literal (.simple _) => inferInstanceAs (Decidable True)
  | literal (.tagged _ language) => inferInstanceAs (Decidable ('\t' ∉ language.toList))
  | literal (.typed _ datatype) => inferInstanceAs (Decidable ('\t' ∉ datatype.text.toList))

lemma IsTabFree.tab_notMem_render {t : Term} (h : t.IsTabFree) : '\t' ∉ t.render.toList := by
  have hencode := fun v : String => Quoted.tab_notMem_encode v.toList
  cases t with
  | iri i =>
    rw [IsTabFree] at h
    simpa [render, Iri.toList_render] using h
  | blank b =>
    rw [IsTabFree] at h
    simpa [render, BlankNode.toList_render] using h
  | literal l =>
    cases l with
    | simple v => simpa [render, Literal.toList_render] using hencode _
    | tagged v language =>
      rw [IsTabFree] at h
      simpa [render, Literal.toList_render] using ⟨hencode _, h⟩
    | typed v datatype =>
      rw [IsTabFree] at h
      simpa [render, Literal.toList_render, Iri.toList_render] using ⟨hencode _, h⟩

/-- A label that is read off a Skolem IRI holds no tab. -/
lemma IsTabFree.deskolemize {t : Term} (h : t.IsTabFree) : t.deskolemize.IsTabFree := by
  cases t with
  | iri i =>
    rw [Term.deskolemize]
    split
    · rw [IsTabFree, String.toList_ofList]
      intro hmem
      obtain ⟨c, -, hc⟩ := List.mem_map.1 hmem
      rw [Skolem.labelChar] at hc
      split at hc
      · next hlabel =>
        rw [hc] at hlabel
        exact absurd hlabel (by decide)
      · exact absurd hc (by decide)
    · exact h
  | blank b => exact h
  | literal l => exact h

/-- A Skolem IRI holds no tab, if its base and its label hold none. -/
lemma IsTabFree.skolemize {t : Term} {base : String} (hbase : '\t' ∉ base.toList)
    (h : t.IsTabFree) : (t.skolemize base).IsTabFree := by
  cases t with
  | iri i => exact h
  | literal l => exact h
  | blank b =>
    have htrim : '\t' ∉ Skolem.trimSlashes base.toList := by
      intro hmem
      rw [Skolem.trimSlashes, List.mem_reverse] at hmem
      exact hbase (List.mem_reverse.1 ((List.dropWhile_suffix _).subset hmem))
    rw [Term.skolemize, IsTabFree, BlankNode.skolemize, String.toList_ofList, List.mem_append,
      List.mem_append, not_or, not_or]
    exact ⟨⟨htrim, by decide⟩, h⟩

end Term

/-! ## Rows -/

lemma Binding.mem_entries_of_get? {b : Binding} {v : Variable} {t : Term} (h : b.get? v = some t) :
    (v, t) ∈ b.entries := by
  obtain ⟨before, after, hentries, -⟩ := List.lookup_eq_some_iff.1 h
  rw [hentries]
  exact List.mem_append_right _ List.mem_cons_self

namespace Solution

/-- A cell whose name holds no equals sign, and whose term is written without a tab. -/
def IsLegible (cell : Variable × Option Term) : Prop :=
  '=' ∉ cell.1.name.toList ∧ ∀ t ∈ cell.2, t.IsTabFree

instance : DecidablePred IsLegible := fun _ => inferInstanceAs (Decidable (_ ∧ _))

variable {cell cell' : Variable × Option Term} {cells cells' : List (Variable × Option Term)}

lemma toList_cellKey (cell : Variable × Option Term) : (cellKey cell).toList =
    '?' :: (cell.1.name.toList ++ '=' :: ((cell.2.elim "UNDEF" Term.render).toList ++ ['\t'])) := by
  simp [cellKey, Variable.render]

lemma toList_key (s : Solution) : s.key.toList = s.cells.flatMap fun cell =>
    (cellKey cell).toList := by
  rw [key, String.toList_join, List.flatMap_map]

/-- No term is written like a missing one. -/
lemma value_inj {o o' : Option Term}
    (h : o.elim "UNDEF" Term.render = o'.elim "UNDEF" Term.render) : o = o' := by
  have hne : ∀ t : Term, t.render ≠ "UNDEF" := by
    intro t hundef
    have hlists := congrArg String.toList hundef
    cases t <;> simp [Term.render, Iri.toList_render, BlankNode.toList_render,
      Literal.toList_render] at hlists
  cases o <;> cases o'
  · rfl
  · exact absurd h.symm (hne _)
  · exact absurd h (hne _)
  · exact congrArg some (Term.render_inj h)

lemma tab_notMem_value {o : Option Term} (h : ∀ t ∈ o, t.IsTabFree) :
    '\t' ∉ (o.elim "UNDEF" Term.render).toList := by
  cases o with
  | none => decide
  | some t => exact (h t rfl).tab_notMem_render

/-- Where the text of a cell ends can be seen from its beginning. -/
lemma cellKey_append_inj {rest rest' : List Char}
    (hcell : IsLegible cell) (hcell' : IsLegible cell')
    (h : (cellKey cell).toList ++ rest = (cellKey cell').toList ++ rest') :
    cell = cell' ∧ rest = rest' := by
  simp only [toList_cellKey, List.cons_append, List.append_assoc, List.nil_append,
    List.cons.injEq, true_and] at h
  obtain ⟨hname, h⟩ := append_delimiter_inj hcell.1 hcell'.1 h
  obtain ⟨hvalue, hrest⟩ :=
    append_delimiter_inj (tab_notMem_value hcell.2) (tab_notMem_value hcell'.2) h
  refine ⟨Prod.ext ?_ (value_inj (String.toList_inj.1 hvalue)), hrest⟩
  exact congrArg Variable.mk (String.toList_inj.1 hname)

lemma flatMap_cellKey_inj (h : ∀ cell ∈ cells, IsLegible cell)
    (h' : ∀ cell ∈ cells', IsLegible cell)
    (hkeys : (cells.flatMap fun cell => (cellKey cell).toList) =
      cells'.flatMap fun cell => (cellKey cell).toList) : cells = cells' := by
  induction cells generalizing cells' with
  | nil =>
    cases cells' with
    | nil => rfl
    | cons cell' cells' =>
      rw [List.flatMap_cons, toList_cellKey] at hkeys
      cases hkeys
  | cons cell cells ih =>
    cases cells' with
    | nil =>
      rw [List.flatMap_cons, toList_cellKey] at hkeys
      cases hkeys
    | cons cell' cells' =>
      obtain ⟨hcell, hcells⟩ := List.forall_mem_cons.1 h
      obtain ⟨hcell', hcells'⟩ := List.forall_mem_cons.1 h'
      rw [List.flatMap_cons, List.flatMap_cons] at hkeys
      obtain ⟨rfl, hrest⟩ := cellKey_append_inj hcell hcell' hkeys
      rw [ih hcells hcells' hrest]

/-- Rows with the same text are the same. -/
theorem key_inj {s s' : Solution} (hs : ∀ cell ∈ s.cells, IsLegible cell)
    (hs' : ∀ cell ∈ s'.cells, IsLegible cell) (h : s.key = s'.key) : s = s' := by
  have hkeys := congrArg String.toList h
  rw [toList_key, toList_key] at hkeys
  exact congrArg mk (flatMap_cellKey_inj hs hs' hkeys)

/-- A name with an equals sign can hold a whole cell, and two rows then have the same text. -/
example : key ⟨[(⟨"x"⟩, some (.blank ⟨"a"⟩)), (⟨"y"⟩, some (.blank ⟨"b"⟩))]⟩ =
    key ⟨[(⟨"x=_:a\t?y"⟩, some (.blank ⟨"b"⟩))]⟩ := by
  decide

/-- The columns of a row, in the order of its cells. -/
def columns (s : Solution) : List Variable := s.cells.map Prod.fst

/-- The values of a row, in the order of its cells. -/
def values (s : Solution) : List (Option Term) := s.cells.map Prod.snd

/-- A row is known by its columns and its values. -/
lemma eq_iff_columns_values {s s' : Solution} :
    s = s' ↔ s.columns = s'.columns ∧ s.values = s'.values := by
  constructor
  · rintro rfl
    exact ⟨rfl, rfl⟩
  · rintro ⟨hcolumns, hvalues⟩
    obtain ⟨cells⟩ := s
    obtain ⟨cells'⟩ := s'
    rw [columns, columns] at hcolumns
    rw [values, values] at hvalues
    rw [← List.zip_unzip cells, ← List.zip_unzip cells', List.unzip_eq_map, List.unzip_eq_map,
      hcolumns, hvalues]

variable {b : Binding} {columns : List Variable}

lemma isLegible_ofBinding (hterms : ∀ e ∈ b.entries, e.2.IsTabFree)
    (hnames : ∀ v ∈ b.domain, '=' ∉ v.name.toList) :
    ∀ cell ∈ (ofBinding b).cells, IsLegible cell := by
  intro cell hcell
  obtain ⟨e, he, rfl⟩ := List.mem_map.1 hcell
  refine ⟨hnames _ (List.mem_map_of_mem he), fun t ht => ?_⟩
  obtain rfl := Option.some.inj ht
  exact (hterms e he).deskolemize

lemma isLegible_ofColumns (hterms : ∀ e ∈ b.entries, e.2.IsTabFree)
    (hnames : ∀ v ∈ columns, '=' ∉ v.name.toList) :
    ∀ cell ∈ (ofColumns columns b).cells, IsLegible cell := by
  intro cell hcell
  obtain ⟨v, hv, rfl⟩ := List.mem_map.1 hcell
  refine ⟨hnames v hv, fun t ht => ?_⟩
  obtain ⟨t', ht', rfl⟩ := Option.map_eq_some_iff.1 ht
  exact (hterms _ (Binding.mem_entries_of_get? ht')).deskolemize

end Solution

/-! ## Triples -/

namespace Triple

/-- A triple whose subject and predicate are written without a space. -/
def IsLegible (t : Triple) : Prop :=
  ' ' ∉ t.subject.toTerm.lexicalForm.toList ∧ ' ' ∉ t.predicate.text.toList

instance : DecidablePred IsLegible := fun _ => inferInstanceAs (Decidable (_ ∧ _))

lemma toList_render (t : Triple) : t.render.toList = t.subject.render.toList ++
    ' ' :: (t.predicate.render.toList ++ ' ' :: t.object.render.toList) := by
  simp [render]

lemma space_notMem_subject {t : Triple} (h : t.IsLegible) : ' ' ∉ t.subject.render.toList := by
  obtain ⟨hsubject, -⟩ := h
  cases hs : t.subject with
  | iri i =>
    rw [hs, Subject.toTerm, Term.lexicalForm] at hsubject
    simpa [Subject.render, Subject.toTerm, Term.render, Iri.toList_render] using hsubject
  | blank b =>
    rw [hs, Subject.toTerm, Term.lexicalForm] at hsubject
    simpa [Subject.render, Subject.toTerm, Term.render, BlankNode.toList_render] using hsubject

lemma space_notMem_predicate {t : Triple} (h : t.IsLegible) : ' ' ∉ t.predicate.render.toList := by
  simpa [Iri.toList_render] using h.2

/-- Triples with the same text are the same. -/
theorem render_inj {t t' : Triple} (ht : t.IsLegible) (ht' : t'.IsLegible)
    (h : t.render = t'.render) : t = t' := by
  have hlists := congrArg String.toList h
  rw [toList_render, toList_render] at hlists
  obtain ⟨hsubject, hlists⟩ :=
    append_delimiter_inj (space_notMem_subject ht) (space_notMem_subject ht') hlists
  obtain ⟨hpredicate, hobject⟩ :=
    append_delimiter_inj (space_notMem_predicate ht) (space_notMem_predicate ht') hlists
  have hterm := Term.render_inj (String.toList_inj.1 hsubject)
  have hsame : t.subject = t'.subject := by
    rw [← Option.some_inj, ← Subject.toSubject?_toTerm, hterm, Subject.toSubject?_toTerm]
  obtain ⟨s, p, o⟩ := t
  obtain ⟨s', p', o'⟩ := t'
  rw [Triple.mk.injEq]
  exact ⟨hsame, Iri.render_inj.1 (String.toList_inj.1 hpredicate),
    Term.render_inj (String.toList_inj.1 hobject)⟩

end Triple

/-! ## Keys -/

/-- **Keys are unambiguous.**  Two rows whose names hold no equals sign and whose terms are written
without a tab have the same key exactly if they have the same columns and the same values at each
place.  Two triples whose subject and predicate are written without a space have the same key
exactly if they are the same.  The values of literals may be any texts. -/
theorem keys_unambiguous :
    (∀ s s' : Solution, (∀ cell ∈ s.cells, Solution.IsLegible cell) →
      (∀ cell ∈ s'.cells, Solution.IsLegible cell) →
        (s.key = s'.key ↔ s.columns = s'.columns ∧ s.values = s'.values)) ∧
    ∀ t t' : Triple, t.IsLegible → t'.IsLegible → (t.render = t'.render ↔ t = t') := by
  refine ⟨fun s s' hs hs' => ?_, fun t t' ht ht' => ⟨Triple.render_inj ht ht', congrArg _⟩⟩
  rw [← Solution.eq_iff_columns_values]
  exact ⟨Solution.key_inj hs hs', congrArg Solution.key⟩

/-- Two rows and two triples whose literals look like the texts around them. -/
theorem keys_unambiguous_sample :
    let row : Solution := ⟨[(⟨"x"⟩, some (.literal (.simple "a\"\t?y=\"b"))), (⟨"y"⟩, none)]⟩
    let row' : Solution :=
      ⟨[(⟨"x"⟩, some (.literal (.simple "a"))), (⟨"y"⟩, some (.literal (.simple "UNDEF")))]⟩
    let triple : Triple := ⟨.iri ⟨"a"⟩, ⟨"knows"⟩, .literal (.tagged "\"@en .\n" "en")⟩
    let triple' : Triple := ⟨.iri ⟨"a"⟩, ⟨"knows"⟩, .literal (.simple "\\\"@en .\\n\"@en")⟩
    (∀ cell ∈ row.cells, Solution.IsLegible cell) ∧
      (∀ cell ∈ row'.cells, Solution.IsLegible cell) ∧ row.key ≠ row'.key ∧
      triple.IsLegible ∧ triple'.IsLegible ∧ triple.render ≠ triple'.render := by
  intro row row' triple triple'
  have hrow : ∀ cell ∈ row.cells, Solution.IsLegible cell := by decide +kernel
  have hrow' : ∀ cell ∈ row'.cells, Solution.IsLegible cell := by decide +kernel
  obtain ⟨hrows, htriples⟩ := keys_unambiguous
  refine ⟨hrow, hrow', ?_, by decide, by decide, ?_⟩
  · rw [Ne, hrows row row' hrow hrow']
    decide
  · rw [Ne, htriples triple triple' (by decide) (by decide)]
    decide

end SparqlStream
