import Mathlib.Tactic
import SparqlStream.Expression.Language

/-!
# Language ranges hold tags up to the case of ASCII letters

A range holds a tag if the tag is a spelling of the range, followed by nothing or by a hyphen.
The tag is compared as bytes; what makes this a comparison of characters is that lowering the
ASCII letters of an encoding gives the encoding of the lowered text (`map_lowerByte_bytes`), and
that a text is determined by its encoding (`bytes_inj`).  Spellings of one text have equally many
bytes, so a tag that starts with a spelling of the range is cut right behind it.
-/

namespace SparqlStream.LanguageRange

variable {range tag s t : String} {c : Char} {b : UInt8}

/-! ## Encodings -/

theorem bytes_eq_flatMap (s : String) : bytes s = s.toList.flatMap String.utf8EncodeChar := by
  rw [bytes, String.toUTF8_eq_toByteArray, ← String.utf8Encode_toList]
  simp [List.utf8Encode]

@[simp] theorem bytes_append (s t : String) : bytes (s ++ t) = bytes s ++ bytes t := by
  simp [bytes_eq_flatMap]

@[simp] theorem length_bytes (s : String) : (bytes s).length = s.utf8ByteSize := by
  rw [bytes, Array.length_toList, String.toUTF8_eq_toByteArray, ← String.size_toByteArray]
  rfl

theorem bytes_inj : bytes s = bytes t ↔ s = t := by
  rw [bytes, bytes, Array.toList_inj, ← ByteArray.ext_iff]
  exact String.toByteArray_inj

theorem bytes_eq_nil_iff : bytes s = [] ↔ s = "" := by
  rw [← List.length_eq_zero_iff, length_bytes, String.utf8ByteSize_eq_zero_iff]

/-- A character outside ASCII is encoded outside ASCII. -/
theorem le_of_mem_utf8EncodeChar (hc : ¬ c.val ≤ 127) (hb : b ∈ String.utf8EncodeChar c) :
    0x80 ≤ b := by
  have hn : ¬ c.val.toNat ≤ 127 := fun h => hc (UInt32.le_iff_toNat_le.2 h)
  rw [String.utf8EncodeChar, if_neg hn] at hb
  rw [UInt8.le_iff_toNat_le]
  split_ifs at hb <;> simp only [List.mem_cons, List.not_mem_nil, or_false] at hb <;>
    rcases hb with rfl | rfl | rfl | rfl <;> simp [UInt8.toNat_ofNat'] <;> omega

/-- An ASCII character is encoded as one byte. -/
theorem utf8EncodeChar_of_ascii (hc : c.val ≤ 127) :
    String.utf8EncodeChar c = [c.val.toUInt8] :=
  String.utf8EncodeChar_eq_singleton (Char.utf8Size_eq_one_iff.2 hc)

theorem toNat_byte_of_ascii (hc : c.val ≤ 127) : c.val.toUInt8.toNat = c.val.toNat := by
  rw [UInt32.le_iff_toNat_le] at hc
  simp only [UInt32.toNat_toUInt8, UInt32.reduceToNat] at hc ⊢
  omega

/-- The byte of an ASCII character starts the encoding of no other character. -/
theorem eq_of_head?_utf8EncodeChar {d : Char} (hc : c.val ≤ 127)
    (hd : (String.utf8EncodeChar d).head? = some c.val.toUInt8) : d = c := by
  by_cases hascii : d.val ≤ 127
  case pos =>
    rw [utf8EncodeChar_of_ascii hascii, List.head?_cons, Option.some_inj, ← UInt8.toNat_inj,
      toNat_byte_of_ascii hascii, toNat_byte_of_ascii hc, UInt32.toNat_inj] at hd
    exact Char.ext hd
  case neg =>
    have hle := le_of_mem_utf8EncodeChar hascii (List.mem_of_head? hd)
    rw [UInt8.le_iff_toNat_le, toNat_byte_of_ascii hc] at hle
    exact absurd ((UInt32.le_iff_toNat_le.1 hc).trans_lt (by decide)) (Nat.not_lt.2 hle)

/-- A text starts with an ASCII character if its encoding starts with that character's byte. -/
theorem head?_bytes_eq_some_iff (hc : c.val ≤ 127) :
    (bytes s).head? = some c.val.toUInt8 ↔ ∃ more, s = String.singleton c ++ more := by
  constructor
  · intro h
    rcases hs : s.toList with _ | ⟨d, ds⟩
    case nil => simp [bytes_eq_flatMap, hs] at h
    case cons =>
      rw [bytes_eq_flatMap, hs, List.flatMap_cons, List.head?_append_of_ne_nil _
        String.utf8EncodeChar_ne_nil] at h
      refine ⟨String.ofList ds, ?_⟩
      rw [← String.toList_inj, hs, eq_of_head?_utf8EncodeChar hc h]
      simp
  · rintro ⟨more, rfl⟩
    rw [bytes_append, bytes_eq_flatMap]
    simp [utf8EncodeChar_of_ascii hc]

/-! ## Case -/

/-- A text with its ASCII letters in lower case. -/
def lower (s : String) : String := String.ofList (s.toList.map Char.toLower)

theorem map_lowerByte_utf8EncodeChar (c : Char) :
    (String.utf8EncodeChar c).map lowerByte = String.utf8EncodeChar c.toLower := by
  by_cases hc : c.val ≤ 127
  case pos =>
    have hall : ∀ n < 128, (String.utf8EncodeChar (Char.ofNat n)).map lowerByte =
        String.utf8EncodeChar (Char.ofNat n).toLower := by decide
    have hn : c.toNat < 128 := Nat.lt_succ_of_le (UInt32.le_iff_toNat_le.1 hc)
    simpa using hall c.toNat hn
  case neg =>
    have hlower : c.toLower = c :=
      dif_neg fun h => hc (UInt32.le_trans h.2 (by decide))
    have hbytes : ∀ b ∈ String.utf8EncodeChar c, lowerByte b = b := by
      intro b hb
      have hle := le_of_mem_utf8EncodeChar hc hb
      rw [lowerByte, if_neg]
      exact fun h => absurd (UInt8.le_trans hle h.2) (by decide)
    rw [hlower, List.map_congr_left hbytes, List.map_id']

theorem map_lowerByte_bytes (s : String) : (bytes s).map lowerByte = bytes (lower s) := by
  simp [bytes_eq_flatMap, lower, List.map_flatMap, List.flatMap_map,
    map_lowerByte_utf8EncodeChar]

/-- Spellings of one text are encoded in equally many bytes. -/
theorem utf8ByteSize_eq_of_lower_eq (h : lower s = lower t) : s.utf8ByteSize = t.utf8ByteSize := by
  have hmap : (bytes s).map lowerByte = (bytes t).map lowerByte := by
    rw [map_lowerByte_bytes, map_lowerByte_bytes, h]
  simpa using congrArg List.length hmap

/-! ## The cut -/

/-- A tag is cut between two texts, the first of which has as many bytes as the range. -/
theorem cut?_eq_some_iff {n : Nat} : cut? range tag = some n ↔
    n = range.utf8ByteSize ∧ ∃ front rest, tag = front ++ rest ∧ front.utf8ByteSize = n := by
  have hvalid : String.Pos.Raw.isValid tag ⟨range.utf8ByteSize⟩ = true ↔
      ∃ front rest, tag = front ++ rest ∧ front.utf8ByteSize = range.utf8ByteSize := by
    rw [String.Pos.Raw.isValid_eq_true_iff, String.Pos.Raw.isValid_iff_exists_append]
    simp [String.Pos.Raw.ext_iff, eq_comm]
  -- A tag that has such a first part is not shorter than the range.
  have hlength : String.Pos.Raw.isValid tag ⟨range.utf8ByteSize⟩ = true →
      ¬ tag.utf8ByteSize < range.utf8ByteSize := by
    rw [hvalid]
    rintro ⟨front, rest, rfl, h⟩
    rw [String.utf8ByteSize_append]
    omega
  simp only [cut?]
  split_ifs with h
  case pos =>
    simp only [false_iff, not_and]
    rintro rfl hfront
    have hv := hvalid.2 hfront
    simp [hv, hlength hv] at h
  case neg =>
    simp only [Bool.or_eq_true, decide_eq_true_eq, Bool.not_eq_true', not_or,
      Bool.not_eq_false] at h
    rw [Option.some_inj]
    constructor
    · rintro rfl
      exact ⟨rfl, hvalid.1 h.2⟩
    · rintro ⟨rfl, -⟩
      rfl

/-- The bytes on the two sides of a boundary of a text are the encodings of its two parts. -/
theorem splitAt_bytes_append (s t : String) :
    (bytes (s ++ t)).splitAt s.utf8ByteSize = (bytes s, bytes t) := by
  rw [bytes_append, ← length_bytes, List.splitAt_eq, List.take_left, List.drop_left]

/-- How the two parts of a tag are compared with a range. -/
theorem contains_append {front rest : String} (hrange : range ≠ "*")
    (hsize : front.utf8ByteSize = range.utf8ByteSize) :
    contains range (front ++ rest) = true ↔
      lower front = lower range ∧ (rest = "" ∨ ∃ more, rest = "-" ++ more) := by
  have hcut : cut? range (front ++ rest) = some front.utf8ByteSize :=
    cut?_eq_some_iff.2 ⟨hsize, front, rest, rfl, rfl⟩
  have hhyphen : (bytes rest).head? = some 0x2D ↔ ∃ more, rest = "-" ++ more :=
    head?_bytes_eq_some_iff (c := '-') (by decide)
  simp only [contains, if_neg hrange, hcut, splitAt_bytes_append, Bool.and_eq_true,
    Bool.or_eq_true, beq_iff_eq, List.isEmpty_iff, map_lowerByte_bytes, bytes_inj,
    bytes_eq_nil_iff, hhyphen]

/-- Apart from `*`, a range holds the tags that are the range up to the case of ASCII letters,
followed by nothing or by a hyphen and anything.  The range `*` holds every tag but the empty one.
A tag is cut exactly if it has a first part with as many bytes as the range, and then between the
encodings of that part and of the remaining one, so never inside a code point. -/
theorem contains_exactly (range tag : String) :
    (range ≠ "*" → (contains range tag = true ↔ ∃ front rest, tag = front ++ rest ∧
      lower front = lower range ∧ (rest = "" ∨ ∃ more, rest = "-" ++ more))) ∧
    (contains "*" tag = true ↔ tag ≠ "") ∧
    ∀ n, cut? range tag = some n ↔ n = range.utf8ByteSize ∧ ∃ front rest, tag = front ++ rest ∧
      front.utf8ByteSize = n ∧ (bytes tag).splitAt n = (bytes front, bytes rest) := by
  refine ⟨fun hrange => ⟨fun h => ?_, ?_⟩, by simp [contains], fun n => ?_⟩
  · -- A tag in the range has been cut somewhere, so it has two parts to be compared.
    have ⟨n, hn⟩ : ∃ n, cut? range tag = some n := by
      cases hcut : cut? range tag with
      | none => simp [contains, hrange, hcut] at h
      | some n => exact ⟨n, rfl⟩
    obtain ⟨rfl, front, rest, rfl, hsize⟩ := cut?_eq_some_iff.1 hn
    exact ⟨front, rest, rfl, (contains_append hrange hsize).1 h⟩
  · rintro ⟨front, rest, rfl, hlower, hrest⟩
    exact (contains_append hrange (utf8ByteSize_eq_of_lower_eq hlower)).2 ⟨hlower, hrest⟩
  · rw [cut?_eq_some_iff]
    constructor
    · rintro ⟨hn, front, rest, rfl, rfl⟩
      exact ⟨hn, front, rest, rfl, rfl, splitAt_bytes_append front rest⟩
    · rintro ⟨hn, front, rest, htag, hsize, -⟩
      exact ⟨hn, front, rest, htag, hsize⟩

/-- A range of two bytes holds a tag that spells it in capitals and goes on after a hyphen.  A tag
whose second byte lies inside a code point is not cut for that range, and not held by it. -/
theorem contains_exactly_sample :
    "de" ≠ "*" ∧ contains "de" "DE-É" = true ∧ cut? "de" "DE-É" = some 2 ∧
      cut? "de" "d€" = none ∧ ¬ contains "de" "d€" = true := by
  have hrange : "de" ≠ "*" := by decide
  have hcut : cut? "de" "d€" = none := by decide
  refine ⟨hrange, ?_, ?_, hcut, ?_⟩
  · exact ((contains_exactly "de" "DE-É").1 hrange).2
      ⟨"DE", "-É", by decide, by decide, .inr ⟨"É", by decide⟩⟩
  · exact ((contains_exactly "de" "DE-É").2.2 2).2
      ⟨by decide, "DE", "-É", by decide, by decide, by decide⟩
  · simp [contains, hcut]

end SparqlStream.LanguageRange
