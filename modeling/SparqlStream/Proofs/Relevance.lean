import Mathlib.Tactic
import SparqlStream.Proofs.Extension
import SparqlStream.Query.Wiring

/-!
# The variables of an expression

The value of an expression depends on the terms of its own variables only.  Bindings that agree on
these give it the same value, or the same reason for having none.
-/

namespace SparqlStream

namespace Expression

mutual

/-- The variables that an expression mentions from left to right, repetitions included. -/
def mentions : Expression → List Variable
  | iri _ | literal _ | patternExists => []
  | var v | bound v => [v]
  | or l r | and l r | equal l r | sameTerm l r | compare _ l r | arithmetic _ l r =>
    mentions l ++ mentions r
  | not inner | plus inner | minus inner => mentions inner
  | oneOf needle candidates => mentions needle ++ mentionsOfAll candidates
  | ifThenElse c onTrue onFalse => mentions c ++ mentions onTrue ++ mentions onFalse
  | coalesce alternatives => mentionsOfAll alternatives
  | call _ arguments => mentionsOfAll arguments

/-- The variables that some expressions mention from left to right. -/
def mentionsOfAll : List Expression → List Variable
  | [] => []
  | e :: rest => mentions e ++ mentionsOfAll rest

end

end Expression

namespace Binding

/-- Two bindings give some variables the same terms. -/
def AgreeOn (vs : List Variable) (b b' : Binding) : Prop := ∀ v ∈ vs, b.get? v = b'.get? v

variable {vs ws : List Variable} {b b' : Binding}

lemma agreeOn_append : AgreeOn (vs ++ ws) b b' ↔ AgreeOn vs b b' ∧ AgreeOn ws b b' :=
  List.forall_mem_append

lemma AgreeOn.contains {v : Variable} (h : AgreeOn [v] b b') : b.contains v = b'.contains v := by
  rw [Binding.contains, h v List.mem_cons_self, Binding.contains]

end Binding

namespace Expression

open Binding

variable {b b' : Binding}

mutual

/-- **Relevance.**  Bindings that agree on the variables of an expression give it one value. -/
theorem evaluate_congr :
    (e : Expression) → AgreeOn e.mentions b b' → e.evaluate b = e.evaluate b'
  | .iri _, _ | .literal _, _ | .patternExists, _ => by rw [evaluate, evaluate]
  | .var v, h => by rw [evaluate, evaluate, h v List.mem_cons_self]
  | .bound v, h => by rw [evaluate, evaluate, AgreeOn.contains h]
  | .or l r, h | .and l r, h | .equal l r, h | .sameTerm l r, h | .compare _ l r, h
  | .arithmetic _ l r, h => by
    rw [mentions, agreeOn_append] at h
    rw [evaluate, evaluate, evaluate_congr l h.1, evaluate_congr r h.2]
  | .not inner, h | .plus inner, h | .minus inner, h => by
    rw [mentions] at h
    rw [evaluate, evaluate, evaluate_congr inner h]
  | .oneOf needle candidates, h => by
    rw [mentions, agreeOn_append] at h
    rw [evaluate, evaluate, evaluate_congr needle h.1, evaluateAll_congr candidates h.2]
  | .ifThenElse c onTrue onFalse, h => by
    rw [mentions, agreeOn_append, agreeOn_append] at h
    obtain ⟨⟨hc, hTrue⟩, hFalse⟩ := h
    rw [evaluate, evaluate, evaluate_congr c hc, evaluate_congr onTrue hTrue,
      evaluate_congr onFalse hFalse]
  | .coalesce alternatives, h => by
    rw [mentions] at h
    rw [evaluate, evaluate, evaluateAll_congr alternatives h]
  | .call f arguments, h => by
    rw [mentions] at h
    rw [evaluate, evaluate, evaluateAll_congr arguments h]

theorem evaluateAll_congr :
    (es : List Expression) → AgreeOn (mentionsOfAll es) b b' → evaluateAll es b = evaluateAll es b'
  | [], _ => by rw [evaluateAll, evaluateAll]
  | e :: rest, h => by
    rw [mentionsOfAll, agreeOn_append] at h
    rw [evaluateAll, evaluateAll, evaluate_congr e h.1, evaluateAll_congr rest h.2]

end

/-- Bindings that agree on the variables of a condition both satisfy it or both do not. -/
lemma holds_congr (e : Expression) (h : AgreeOn e.mentions b b') :
    e.holds evaluate b = e.holds evaluate b' := by
  rw [holds, holds, evaluate_congr e h]

end Expression

end SparqlStream
