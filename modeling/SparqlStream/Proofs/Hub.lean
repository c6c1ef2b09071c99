import Mathlib.Data.List.Basic
import Mathlib.Tactic
import SparqlStream.Stream.Branch

/-!
# What a hub keeps for its branches

A hub buffers the items that lie between its slowest and its fastest live branch.  `Hub.InBounds`
says that no live position lies outside the buffer, and `Hub.unread` is what a position still has
to read of it.  Every change of a hub ends with `Hub.trim`, which forgets items at the front of
the buffer; the lemmas about `trim` say that no live branch notices.

From them follows what each change does: `advance` takes one item from one branch, `deliver` adds
an item for all branches but one, and `drop` removes a branch.
-/

namespace SparqlStream
namespace Hub

variable {α ι : Type} {h : Hub α ι} {slot position : Nat}

/-- The buffered items that a position has not read yet. -/
def unread (h : Hub α ι) (position : Nat) : List α := h.buffer.drop (position - h.offset)

/-- No live position lies before the buffer, or beyond the place right behind it. -/
def InBounds (h : Hub α ι) : Prop :=
  ∀ p ∈ h.livePositions, h.offset ≤ p ∧ p ≤ h.offset + h.buffer.length

/-! ## Positions -/

lemma position?_eq_some {p : Nat} :
    h.position? slot = some p ↔ h.positions[slot]? = some (some p) := by
  rw [position?, Option.join_eq_some_iff]

lemma mem_livePositions {p : Nat} :
    p ∈ h.livePositions ↔ ∃ slot, h.position? slot = some p := by
  rw [livePositions, List.mem_filterMap]
  simp only [id_eq, exists_eq_right, List.mem_iff_getElem?, position?_eq_some]

lemma livePositions_ne_nil (hp : h.position? slot = some position) : h.livePositions ≠ [] :=
  List.ne_nil_of_mem (mem_livePositions.2 ⟨slot, hp⟩)

lemma InBounds.of_position? (hb : h.InBounds) (hp : h.position? slot = some position) :
    h.offset ≤ position ∧ position ≤ h.offset + h.buffer.length :=
  hb position (mem_livePositions.2 ⟨slot, hp⟩)

/-- Moving or dropping one branch leaves the positions of the others alone. -/
lemma position?_of_set {h' : Hub α ι} {x : Option Nat} (hp : h.position? slot = some position)
    (hset : h'.positions = h.positions.set slot x) (i : Nat) :
    h'.position? i = if i = slot then x else h.position? i := by
  have hlt : slot < h.positions.length :=
    (List.getElem?_eq_some_iff.1 (position?_eq_some.1 hp)).1
  rw [position?, hset, List.getElem?_set]
  by_cases hi : slot = i
  · subst hi
    simp [hlt]
  · rw [if_neg hi, if_neg (Ne.symm hi), position?]

/-- Dropping a branch takes its position away, if it has one. -/
lemma position?_of_set_none {h' : Hub α ι} (hset : h'.positions = h.positions.set slot none)
    (i : Nat) : h'.position? i = if i = slot then none else h.position? i := by
  rw [position?, hset, List.getElem?_set]
  by_cases hi : slot = i
  · subst hi
    by_cases hlt : slot < h.positions.length <;> simp [hlt]
  · rw [if_neg hi, if_neg (Ne.symm hi), position?]

/-- A position at which the buffer holds nothing is the one behind the buffer. -/
lemma itemAt?_eq_none (hb : h.InBounds) (hp : h.position? slot = some position)
    (hnone : h.itemAt? position = none) : position = h.offset + h.buffer.length := by
  have hbound := hb.of_position? hp
  have hge := List.getElem?_eq_none_iff.1 hnone
  omega

lemma unread_of_itemAt?_eq_none (hnone : h.itemAt? position = none) : h.unread position = [] :=
  List.drop_eq_nil_of_le (List.getElem?_eq_none_iff.1 hnone)

lemma itemAt?_of_unread_eq_nil (hnil : h.unread position = []) : h.itemAt? position = none :=
  List.getElem?_eq_none_iff.2 (List.drop_eq_nil_iff.1 hnil)

/-- Reading an item takes it off what the position has not read. -/
lemma unread_eq_cons {a : α} (hle : h.offset ≤ position) (ha : h.itemAt? position = some a) :
    h.unread position = a :: h.unread (position + 1) := by
  obtain ⟨hlt, rfl⟩ := List.getElem?_eq_some_iff.1 ha
  have hsucc : position + 1 - h.offset = position - h.offset + 1 := by omega
  rw [unread, unread, hsucc]
  exact List.drop_eq_getElem_cons hlt

/-! ## Trimming -/

@[simp] lemma trim_positions : h.trim.positions = h.positions := by
  unfold trim
  split <;> rfl

@[simp] lemma trim_position? : h.trim.position? slot = h.position? slot := by
  rw [position?, position?, trim_positions]

@[simp] lemma trim_livePositions : h.trim.livePositions = h.livePositions := by
  rw [livePositions, livePositions, trim_positions]

lemma trim_of_dead (hdead : h.livePositions = []) :
    h.trim = { h with input := none, buffer := [] } := by
  rw [trim, hdead, List.min?_nil]

/-- With a live branch, trimming drops what lies before the least position. -/
lemma trim_of_live (hb : h.InBounds) (hlive : h.livePositions ≠ []) :
    ∃ least, h.livePositions.min? = some least ∧
      h.trim = { h with buffer := h.buffer.drop (least - h.offset), offset := least } := by
  obtain ⟨least, hleast⟩ := Option.isSome_iff_exists.1 (List.isSome_min?_of_ne_nil hlive)
  refine ⟨least, hleast, ?_⟩
  have hbound := hb least (List.min?_mem hleast)
  have hmin : min (least - h.offset) h.buffer.length = least - h.offset := by omega
  have hoff : h.offset + (least - h.offset) = least := by omega
  simp only [trim, hleast, hmin, hoff]

lemma trim_input_of_live (hlive : h.livePositions ≠ []) : h.trim.input = h.input := by
  obtain ⟨least, hleast⟩ := Option.isSome_iff_exists.1 (List.isSome_min?_of_ne_nil hlive)
  simp only [trim, hleast]

lemma least_le {least p : Nat} (hleast : h.livePositions.min? = some least)
    (hp : p ∈ h.livePositions) : least ≤ p :=
  (List.min?_eq_some_iff.1 hleast).2 p hp

/-- After trimming the buffer begins at the slowest branch. -/
lemma trim_offset (hb : h.InBounds) {least : Nat} (hleast : h.livePositions.min? = some least) :
    h.trim.offset = least := by
  have hlive : h.livePositions ≠ [] := by
    intro hnil
    rw [hnil, List.min?_nil] at hleast
    cases hleast
  obtain ⟨least', hleast', htrim⟩ := trim_of_live hb hlive
  rw [hleast] at hleast'
  rw [htrim, Option.some.inj hleast']

lemma trim_inBounds (hb : h.InBounds) : h.trim.InBounds := by
  intro p hp
  rw [trim_livePositions] at hp
  obtain ⟨least, hleast, htrim⟩ := trim_of_live hb (List.ne_nil_of_mem hp)
  have hbound := hb p hp
  have hbound' := hb least (List.min?_mem hleast)
  have hle := least_le hleast hp
  rw [htrim, List.length_drop]
  dsimp only
  omega

/-- No live branch notices that the buffer is trimmed. -/
lemma trim_unread (hb : h.InBounds) (hp : h.position? slot = some position) :
    h.trim.unread position = h.unread position := by
  obtain ⟨least, hleast, htrim⟩ := trim_of_live hb (livePositions_ne_nil hp)
  have hle := least_le hleast (mem_livePositions.2 ⟨slot, hp⟩)
  have hbound := hb least (List.min?_mem hleast)
  have hsum : least - h.offset + (position - least) = position - h.offset := by omega
  rw [htrim, unread, unread, List.drop_drop, hsum]

/-! ## Reading from the buffer -/

section Advance

variable (hb : h.InBounds) (hp : h.position? slot = some position)

include hp in
lemma advance_position? (i : Nat) :
    (h.advance slot position).position? i =
      if i = slot then some (position + 1) else h.position? i := by
  rw [advance, trim_position?]
  exact position?_of_set hp rfl i

include hp in
lemma advance_input : (h.advance slot position).input = h.input := by
  have hself : position? { h with positions := h.positions.set slot (some (position + 1)) } slot =
      some (position + 1) := by rw [position?_of_set hp rfl, if_pos rfl]
  exact trim_input_of_live (livePositions_ne_nil hself)

include hb hp in
/-- A branch may move on if it stays within the buffer. -/
lemma inBounds_set (hlt : position < h.offset + h.buffer.length) :
    InBounds { h with positions := h.positions.set slot (some (position + 1)) } := by
  intro p hmem
  obtain ⟨i, hi⟩ := mem_livePositions.1 hmem
  rw [position?_of_set hp rfl] at hi
  by_cases hslot : i = slot
  · rw [if_pos hslot] at hi
    have hbound := hb.of_position? hp
    have heq := Option.some.inj hi
    dsimp only
    omega
  · rw [if_neg hslot] at hi
    exact hb.of_position? hi

include hb hp in
lemma advance_inBounds (hlt : position < h.offset + h.buffer.length) :
    (h.advance slot position).InBounds :=
  trim_inBounds (inBounds_set hb hp hlt)

include hb hp in
/-- What a live position reads of the buffer is the same after one of the branches has moved. -/
lemma advance_unread (hlt : position < h.offset + h.buffer.length) {i p : Nat}
    (hi : (h.advance slot position).position? i = some p) :
    (h.advance slot position).unread p = h.unread p := by
  rw [advance, trim_position?] at hi
  rw [advance, trim_unread (inBounds_set hb hp hlt) hi]
  rfl

end Advance

lemma lt_of_itemAt?_eq_some {a : α} (hle : h.offset ≤ position)
    (ha : h.itemAt? position = some a) : position < h.offset + h.buffer.length := by
  have hlt := (List.getElem?_eq_some_iff.1 ha).1
  omega

/-! ## Delivering an item -/

section Deliver

variable {a : α} (hb : h.InBounds) (hp : h.position? slot = some position)
  (hend : position = h.offset + h.buffer.length)

include hb in
lemma inBounds_append : InBounds { h with buffer := h.buffer ++ [a] } := by
  intro p hmem
  have hbound := hb p hmem
  rw [List.length_append]
  dsimp only
  omega

include hend in
lemma lt_append : position < h.offset + (h.buffer ++ [a]).length := by
  rw [List.length_append, hend, List.length_singleton]
  omega

include hp in
lemma deliver_position? (i : Nat) :
    (h.deliver slot position a).position? i =
      if i = slot then some (position + 1) else h.position? i :=
  advance_position? (h := { h with buffer := h.buffer ++ [a] }) hp i

include hp in
lemma deliver_input : (h.deliver slot position a).input = h.input :=
  advance_input (h := { h with buffer := h.buffer ++ [a] }) hp

include hb hp hend in
lemma deliver_inBounds : (h.deliver slot position a).InBounds :=
  advance_inBounds (inBounds_append hb) hp (lt_append hend)

include hb hp hend in
/-- The other branches still have to read the item. -/
lemma deliver_unread_other {i p : Nat} (hi : h.position? i = some p) (hne : i ≠ slot) :
    (h.deliver slot position a).unread p = h.unread p ++ [a] := by
  have hi' : (h.deliver slot position a).position? i = some p := by
    rw [deliver_position? hp, if_neg hne, hi]
  have hbound := hb.of_position? hi
  have hle : p - h.offset ≤ h.buffer.length := by omega
  rw [deliver, advance_unread (inBounds_append hb) hp (lt_append hend) hi']
  exact List.drop_append_of_le_length hle

include hb hp hend in
/-- The branch that asked for the item has read everything. -/
lemma deliver_unread_self : (h.deliver slot position a).unread (position + 1) = [] := by
  have hi' : (h.deliver slot position a).position? slot = some (position + 1) := by
    rw [deliver_position? hp, if_pos rfl]
  rw [deliver, advance_unread (inBounds_append hb) hp (lt_append hend) hi']
  refine List.drop_eq_nil_of_le ?_
  rw [List.length_append, List.length_singleton]
  dsimp only
  omega

end Deliver

/-! ## Dropping a branch -/

section Drop

lemma drop_position? (h : Hub α ι) (slot i : Nat) :
    (h.drop slot).position? i = if i = slot then none else h.position? i := by
  rw [drop, trim_position?]
  exact position?_of_set_none rfl i

variable (hb : h.InBounds)

include hb in
lemma inBounds_drop : InBounds
    { h with positions := h.positions.set slot none, wakers := h.wakers.set slot none } := by
  intro p hmem
  obtain ⟨i, hi⟩ := mem_livePositions.1 hmem
  rw [position?_of_set_none rfl] at hi
  by_cases hslot : i = slot
  · rw [if_pos hslot] at hi
    cases hi
  · rw [if_neg hslot] at hi
    exact hb.of_position? hi

include hb in
lemma drop_inBounds : (h.drop slot).InBounds := trim_inBounds (inBounds_drop hb)

include hb in
lemma drop_unread {i p : Nat} (hi : (h.drop slot).position? i = some p) :
    (h.drop slot).unread p = h.unread p := by
  rw [drop, trim_position?] at hi
  rw [drop, trim_unread (inBounds_drop hb) hi]
  rfl

/-- As long as another branch is live, the hub keeps its input. -/
lemma drop_input_of_live {i p : Nat} (hi : (h.drop slot).position? i = some p) :
    (h.drop slot).input = h.input := by
  rw [drop, trim_position?] at hi
  exact trim_input_of_live (livePositions_ne_nil hi)

omit hb in
/-- The hub lets go of its input together with the last branch only. -/
lemma drop_input_cases (h : Hub α ι) (slot : Nat) : (h.drop slot).input = h.input ∨
    (h.drop slot).input = none ∧ ∀ i, (h.drop slot).position? i = none := by
  by_cases hlive : (h.drop slot).livePositions = []
  · refine .inr ⟨?_, fun i => ?_⟩
    · rw [drop, trim_livePositions] at hlive
      rw [drop, trim_of_dead hlive]
    · rw [Option.eq_none_iff_forall_ne_some]
      intro p hi
      exact livePositions_ne_nil hi hlive
  · rw [drop, trim_livePositions] at hlive
    exact .inl (trim_input_of_live hlive)

end Drop

/-! ## What has been pulled -/

/-- The buffer of a hub through which some items have been pulled: it begins at the least live
position and holds the items from there on. -/
structure Retains (h : Hub α ι) (pulled : List α) : Prop where
  inBounds : h.InBounds
  offset : ∀ least, h.livePositions.min? = some least → h.offset = least
  buffer : h.livePositions ≠ [] → h.offset ≤ pulled.length ∧ h.buffer = pulled.drop h.offset

namespace Retains

variable {pulled : List α}

/-- Wakers and the input do not matter. -/
lemma congr {ι' : Type} {h' : Hub α ι'} (hr : h.Retains pulled)
    (hbuf : h'.buffer = h.buffer := by rfl) (hoff : h'.offset = h.offset := by rfl)
    (hpos : h'.positions = h.positions := by rfl) : h'.Retains pulled := by
  have hlive : h'.livePositions = h.livePositions := by rw [livePositions, hpos, livePositions]
  refine ⟨?_, ?_, ?_⟩
  · intro p hp
    rw [hoff, hbuf]
    exact hr.inBounds p (hlive ▸ hp)
  · intro least hleast
    rw [hoff]
    exact hr.offset least (hlive ▸ hleast)
  · intro hne
    rw [hoff, hbuf]
    exact hr.buffer (hlive ▸ hne)

/-- Trimming moves the beginning of the buffer to the least live position. -/
lemma trim (hb : h.InBounds)
    (hbuf : h.livePositions ≠ [] → h.offset ≤ pulled.length ∧ h.buffer = pulled.drop h.offset) :
    h.trim.Retains pulled where
  inBounds := trim_inBounds hb
  offset least hleast := trim_offset hb (by rwa [trim_livePositions] at hleast)
  buffer hlive := by
    rw [trim_livePositions] at hlive
    obtain ⟨least, hleast, htrim⟩ := trim_of_live hb hlive
    obtain ⟨hle, hdrop⟩ := hbuf hlive
    have hbound := hb least (List.min?_mem hleast)
    have hlen : h.buffer.length = pulled.length - h.offset := by rw [hdrop, List.length_drop]
    have hsum : h.offset + (least - h.offset) = least := by omega
    rw [htrim]
    refine ⟨by dsimp only; omega, ?_⟩
    dsimp only
    rw [hdrop, List.drop_drop, hsum]

variable (hr : h.Retains pulled) (hp : h.position? slot = some position)

include hr hp

lemma position_le : position ≤ pulled.length := by
  obtain ⟨hle, hdrop⟩ := hr.buffer (livePositions_ne_nil hp)
  have hbound := hr.inBounds.of_position? hp
  rw [hdrop, List.length_drop] at hbound
  omega

/-- A live branch reads from the buffer what comes next among the pulled items. -/
lemma itemAt? : h.itemAt? position = pulled[position]? := by
  obtain ⟨-, hdrop⟩ := hr.buffer (livePositions_ne_nil hp)
  have hbound := hr.inBounds.of_position? hp
  have hsum : h.offset + (position - h.offset) = position := by omega
  rw [Hub.itemAt?, hdrop, List.getElem?_drop, hsum]

/-- The place behind the buffer is the place behind what has been pulled. -/
lemma position_eq (hend : position = h.offset + h.buffer.length) : position = pulled.length := by
  obtain ⟨hle, hdrop⟩ := hr.buffer (livePositions_ne_nil hp)
  rw [hdrop, List.length_drop] at hend
  omega

lemma advance {a : α} (ha : h.itemAt? position = some a) :
    (h.advance slot position).Retains pulled := by
  have hlt := lt_of_itemAt?_eq_some (hr.inBounds.of_position? hp).1 ha
  exact trim (inBounds_set hr.inBounds hp hlt) fun _ => hr.buffer (livePositions_ne_nil hp)

lemma deliver {a : α} (hend : position = h.offset + h.buffer.length) :
    (h.deliver slot position a).Retains (pulled ++ [a]) := by
  refine trim (inBounds_set (inBounds_append hr.inBounds) hp (lt_append hend)) fun _ => ?_
  obtain ⟨hle, hdrop⟩ := hr.buffer (livePositions_ne_nil hp)
  rw [List.length_append]
  refine ⟨by dsimp only; omega, ?_⟩
  dsimp only
  rw [hdrop, List.drop_append_of_le_length hle]

lemma drop : (h.drop slot).Retains pulled :=
  trim (inBounds_drop hr.inBounds) fun _ => hr.buffer (livePositions_ne_nil hp)

end Retains

/-! ## The beginning -/

/-- Before anything has happened, every branch is at the first item. -/
lemma position?_start (input : ι) (count slot : Nat) :
    (start input count : Hub α ι).position? slot = if slot < count then some 0 else none := by
  rw [position?, start, List.getElem?_replicate]
  split <;> rfl

lemma retains_start (input : ι) (count : Nat) : (start input count : Hub α ι).Retains [] := by
  have hzero : ∀ p ∈ (start input count : Hub α ι).livePositions, p = 0 := by
    intro p hp
    obtain ⟨slot, hslot⟩ := mem_livePositions.1 hp
    rw [position?_start] at hslot
    split at hslot
    · exact (Option.some.inj hslot).symm
    · cases hslot
  refine ⟨?_, ?_, ?_⟩
  · intro p hp
    rw [hzero p hp]
    exact ⟨Nat.le_refl _, Nat.zero_le _⟩
  · intro least hleast
    rw [hzero least (List.min?_mem hleast)]
    rfl
  · exact fun _ => ⟨Nat.le_refl _, rfl⟩

/-! ## Wakers -/

@[simp] lemma trim_wakers : h.trim.wakers = h.wakers := by
  unfold trim
  split <;> rfl

@[simp] lemma advance_wakers : (h.advance slot position).wakers = h.wakers := trim_wakers

@[simp] lemma deliver_wakers {a : α} : (h.deliver slot position a).wakers = h.wakers := trim_wakers

@[simp] lemma drop_wakers : (h.drop slot).wakers = h.wakers.set slot none := trim_wakers

/-- The waker of every other branch is among those that are told. -/
lemma mem_otherWakers {i : Nat} {w : Waker} (hw : h.wakers[i]? = some (some w)) (hi : i ≠ slot) :
    w ∈ h.otherWakers slot := by
  refine List.mem_filterMap.2 ⟨some w, List.mem_iff_getElem?.2 ⟨i, ?_⟩, rfl⟩
  rw [List.getElem?_set_ne (Ne.symm hi), hw]

lemma leaveWaker_self {w : Waker} (hlt : slot < h.wakers.length) :
    (h.leaveWaker slot w).wakers[slot]? = some (some w) := List.getElem?_set_self hlt

lemma leaveWaker_other {w : Waker} {i : Nat} (hi : i ≠ slot) :
    (h.leaveWaker slot w).wakers[i]? = h.wakers[i]? := List.getElem?_set_ne (Ne.symm hi)

@[simp] lemma leaveWaker_position? {w : Waker} (i : Nat) :
    (h.leaveWaker slot w).position? i = h.position? i := rfl

@[simp] lemma forgetOthers_position? (i : Nat) :
    (h.forgetOthers slot).position? i = h.position? i := rfl

@[simp] lemma forgetOthers_unread (p : Nat) : (h.forgetOthers slot).unread p = h.unread p := rfl

@[simp] lemma forgetOthers_input : (h.forgetOthers slot).input = h.input := rfl

/-- The hub after a branch has met the end or an error of the input. -/
def ended (h : Hub α ι) (slot : Nat) : Hub α ι := forgetOthers { h with input := none } slot

end Hub
end SparqlStream
