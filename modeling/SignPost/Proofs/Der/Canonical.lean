import SignPost.Der.Canonical
import SignPost.Der.Element
import SignPost.Proofs.Octets

/-!
# Strict and loose reading

Whatever is read strictly is read loosely, with the same content and the same rest
(`read_of_takeAny`); only a length that does not fit into a machine word is refused by the loose
reader alone. How long an element is at most follows from its content (`length_takeAny`), and for a
number from its value (`length_takeNatural`), as neither has superfluous bytes.
-/

namespace SignPost.Der

/-! ## Elements -/

theorem readLength_of_takeLength {input rest : Bytes} {n : Nat}
    (h : Canonical.takeLength input = some (n, rest)) (hn : n < UInt64.size) :
    readLength input = some (.definite n, rest) := by
  cases input with
  | nil => simp [Canonical.takeLength] at h
  | cons b input =>
    rw [Canonical.takeLength] at h
    dsimp only at h
    rw [readLength]
    dsimp only
    split_ifs at h with hshort hcount hlong
    · obtain ⟨rfl, rfl⟩ := by simpa using h
      rw [if_pos hshort]
    · obtain ⟨hvalue, rfl⟩ := by simpa using h
      rw [hvalue] at hlong
      -- a length that fits into a word has at most eight bytes, so the first byte is not `FF`
      have hbytes : Octets.byteLength n ≤ 8 := Octets.byteLength_le hn
      rw [if_neg hshort, if_neg (by omega), if_neg (by omega), if_neg (by omega), hvalue,
        if_pos hn]

/-- A length takes one byte and at most 127 more. -/
theorem length_takeLength {input rest : Bytes} {n : Nat}
    (h : Canonical.takeLength input = some (n, rest)) : input.length ≤ 128 + rest.length := by
  cases input with
  | nil => simp [Canonical.takeLength] at h
  | cons b input =>
    have hb : b.toNat < 256 := b.toNat_lt
    rw [Canonical.takeLength] at h
    dsimp only at h
    split_ifs at h
    · obtain ⟨-, rfl⟩ := by simpa using h
      rw [List.length_cons]
      omega
    · obtain ⟨-, rfl⟩ := by simpa using h
      rw [List.length_cons, List.length_drop]
      omega

theorem takeAny_eq_some {input content rest : Bytes} {tag : UInt8}
    (h : Canonical.takeAny input = some ((tag, content), rest)) :
    ∃ afterTag afterLength, input = tag :: afterTag ∧
      Canonical.takeLength afterTag = some (content.length, afterLength) ∧
      afterLength = content ++ rest := by
  cases input with
  | nil => simp [Canonical.takeAny] at h
  | cons b afterTag =>
    rw [Canonical.takeAny] at h
    split at h
    next n afterLength hlength =>
      split_ifs at h with hn
      simp only [Option.some.injEq, Prod.mk.injEq] at h
      obtain ⟨⟨rfl, rfl⟩, rfl⟩ := h
      have htake : (afterLength.take n).length = n := by
        rw [List.length_take]
        omega
      refine ⟨afterTag, afterLength, rfl, ?_, (List.take_append_drop n afterLength).symm⟩
      rw [htake, hlength]
    next => cases h

/-- Tag and length take at most 129 bytes. -/
theorem length_takeAny {input content rest : Bytes} {tag : UInt8}
    (h : Canonical.takeAny input = some ((tag, content), rest)) :
    input.length ≤ 129 + content.length + rest.length := by
  obtain ⟨afterTag, afterLength, rfl, hlength, rfl⟩ := takeAny_eq_some h
  have hle := length_takeLength hlength
  rw [List.length_append] at hle
  rw [List.length_cons]
  omega

/-- An element that is read strictly is read loosely, unless its length does not fit into a word. -/
theorem read_of_takeAny {input content rest : Bytes} {tag : UInt8}
    (h : Canonical.takeAny input = some ((tag, content), rest)) (htag : tag.toNat % 32 ≠ 31)
    (hlong : content.length < UInt64.size) :
    ∃ head, Element.read input =
      some (⟨⟨tag.toNat / 64, tag.toNat / 32 % 2 = 1, tag.toNat % 32⟩, head, content⟩, rest) := by
  obtain ⟨afterTag, afterLength, rfl, hlength, rfl⟩ := takeAny_eq_some h
  have hread := readLength_of_takeLength hlength hlong
  have hfits : ¬ (content ++ rest).length < content.length := by
    rw [List.length_append]
    omega
  refine ⟨(tag :: afterTag).take ((tag :: afterTag).length - (content ++ rest).length), ?_⟩
  simp only [Element.read, readTag, if_neg htag, hread, if_neg hfits, List.take_left,
    List.drop_left]

theorem takeAny_of_take {tag : UInt8} {input content rest : Bytes}
    (h : Canonical.take tag input = some (content, rest)) :
    Canonical.takeAny input = some ((tag, content), rest) := by
  unfold Canonical.take at h
  split at h
  next found content' rest' hany =>
    split_ifs at h with htag
    obtain ⟨rfl, rfl⟩ := by simpa using h
    rw [hany, htag]
  next => cases h

theorem take_of_whole {tag : UInt8} {input content : Bytes}
    (h : Canonical.whole tag input = some content) :
    Canonical.take tag input = some (content, []) := by
  unfold Canonical.whole at h
  split at h
  next found htake => rw [htake, Option.some.inj h]
  next => cases h

theorem readConstructed_of_take {input content rest : Bytes}
    (h : Canonical.take Canonical.sequence input = some (content, rest))
    (hlong : content.length < UInt64.size) :
    ∃ e, Element.readConstructed Tag.sequence input = some (e, rest) ∧ e.content = content := by
  obtain ⟨head, hread⟩ := read_of_takeAny (takeAny_of_take h) (by decide) hlong
  refine ⟨⟨⟨0, true, Tag.sequence⟩, head, content⟩, ?_, rfl⟩
  rw [Element.readConstructed, Element.readNumber, hread]
  rfl

theorem readPrimitive_of_take {input content rest : Bytes}
    (h : Canonical.take Canonical.bitString input = some (content, rest))
    (hlong : content.length < UInt64.size) :
    ∃ e, Element.readPrimitive Tag.bitString input = some (e, rest) ∧ e.content = content := by
  obtain ⟨head, hread⟩ := read_of_takeAny (takeAny_of_take h) (by decide) hlong
  refine ⟨⟨⟨0, false, Tag.bitString⟩, head, content⟩, ?_, rfl⟩
  rw [Element.readPrimitive, Element.readNumber, hread]
  rfl

/-! ## Numbers -/

/-- A number is written with at most one byte more than it needs, for its sign. -/
theorem length_natural {content : Bytes} {n width : Nat}
    (h : Canonical.natural content = some n) (hn : n < 256 ^ width) :
    content.length ≤ width + 1 := by
  match content with
  | [] => simp [Canonical.natural] at h
  | [b] => simp
  | a :: b :: rest =>
    rw [Canonical.natural] at h
    split_ifs at h with hbad
    obtain rfl := Option.some.inj h
    -- one of the first two bytes counts, or the number would be written shorter
    have hlow : 256 ^ rest.length ≤ Octets.toNat (a :: b :: rest) := by
      have hpos : 0 < 256 ^ rest.length := Nat.pow_pos (by decide)
      rw [Octets.toNat_cons, Octets.toNat_cons, List.length_cons, Nat.pow_succ]
      by_cases ha : a.toNat = 0
      · have hb : ¬ b.toNat < 128 := fun hb => hbad (Or.inr ⟨UInt8.toNat_inj.1 ha, hb⟩)
        have hb' : 1 ≤ b.toNat := by omega
        nlinarith
      · have ha' : 1 ≤ a.toNat := by omega
        nlinarith
    have hwidth : rest.length < width := by
      apply (Nat.pow_lt_pow_iff_right (by decide : 1 < 256)).1
      exact Nat.lt_of_le_of_lt hlow hn
    simp only [List.length_cons]
    omega

theorem length_takeNatural {input rest : Bytes} {n width : Nat}
    (h : Canonical.takeNatural input = some (n, rest)) (hn : n < 256 ^ width) :
    input.length ≤ 130 + width + rest.length := by
  unfold Canonical.takeNatural at h
  split at h
  next content rest' htake =>
    obtain ⟨m, hm, heq⟩ := Option.map_eq_some_iff.1 h
    obtain ⟨rfl, rfl⟩ := Prod.mk.inj heq
    have hcontent := length_natural hm hn
    have hinput := length_takeAny (takeAny_of_take htake)
    omega
  next => cases h

end SignPost.Der
