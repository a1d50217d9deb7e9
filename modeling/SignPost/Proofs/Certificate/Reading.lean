import SignPost.Certificate.Basic
import SignPost.Proofs.Text.Base64

/-!
# What a certificate is read from

`ofDer_append`: a certificate is read again from its own bytes, whatever follows them, so the bytes
that are sent for it (`ofBase64_toBase64`) give it back. The outer element states its length, and
each reader below it takes a start of its input and looks no further (`Front`); all that is read of
a certificate is read inside the outer element.
-/

namespace SignPost

namespace Der

/-- Reading `input` takes `front` from it and leaves `rest`, and takes the same from every input
that starts with `front`. -/
def Front {α : Type} (read : Bytes → Option (α × Bytes)) (input : Bytes) (a : α)
    (rest : Bytes) : Prop :=
  ∃ front, input = front ++ rest ∧ ∀ tail, read (front ++ tail) = some (a, tail)

theorem front_readTagNumber {more number n : Nat} {input rest : Bytes}
    (h : readTagNumber number more input = some (n, rest)) :
    Front (readTagNumber number more) input n rest := by
  induction more generalizing number input with
  | zero => simp [readTagNumber] at h
  | succ more ih =>
    cases input with
    | nil => simp [readTagNumber] at h
    | cons b input =>
      rw [readTagNumber] at h
      split at h
      next hlast =>
        obtain ⟨rfl, rfl⟩ := by simpa using h
        exact ⟨[b], rfl, fun tail => by simp [readTagNumber, hlast]⟩
      next hmore =>
        obtain ⟨front, hinput, hread⟩ := ih h
        refine ⟨b :: front, by rw [hinput, List.cons_append], fun tail => ?_⟩
        rw [List.cons_append, readTagNumber, if_neg hmore]
        exact hread tail

theorem front_readTag {input rest : Bytes} {tag : Tag} (h : readTag input = some (tag, rest)) :
    Front readTag input tag rest := by
  cases input with
  | nil => simp [readTag] at h
  | cons b input =>
    rw [readTag] at h
    split at h
    next hlong =>
      cases hnumber : readTagNumber 0 5 input with
      | none => simp [hnumber] at h
      | some found =>
        obtain ⟨number, after⟩ := found
        rw [hnumber] at h
        obtain ⟨rfl, rfl⟩ := by simpa using h
        obtain ⟨front, hinput, hread⟩ := front_readTagNumber hnumber
        refine ⟨b :: front, by rw [hinput, List.cons_append], fun tail => ?_⟩
        rw [List.cons_append, readTag]
        simp only [hlong, if_true, hread]
    next hshort =>
      obtain ⟨rfl, rfl⟩ := by simpa using h
      exact ⟨[b], rfl, fun tail => by simp [readTag, hshort]⟩

theorem front_readLength {input rest : Bytes} {length : Length}
    (h : readLength input = some (length, rest)) : Front readLength input length rest := by
  cases input with
  | nil => simp [readLength] at h
  | cons b input =>
    rw [readLength] at h
    dsimp only at h
    split_ifs at h with h1 h2 h3 h4 h5
    · obtain ⟨rfl, rfl⟩ := by simpa using h
      exact ⟨[b], rfl, fun tail => by simp [readLength, h1]⟩
    · obtain ⟨rfl, rfl⟩ := by simpa using h
      exact ⟨[b], rfl, fun tail => by simp [readLength, h2]⟩
    · obtain ⟨rfl, rfl⟩ := by simpa using h
      have hcount : (input.take (b.toNat - 128)).length = b.toNat - 128 := by
        rw [List.length_take]
        omega
      refine ⟨b :: input.take (b.toNat - 128), ?_, fun tail => ?_⟩
      · rw [List.cons_append, List.take_append_drop]
      · rw [List.cons_append, readLength]
        dsimp only
        rw [if_neg h1, if_neg h2, if_neg h3, List.take_left' hcount, List.drop_left' hcount,
          if_neg (by rw [List.length_append]; omega), if_pos h5]

theorem take_sub_length (front middle last : Bytes) :
    (front ++ (middle ++ last)).take ((front ++ (middle ++ last)).length - last.length) =
      front ++ middle := by
  rw [← List.append_assoc]
  exact List.take_left' (by simp only [List.length_append]; omega)

/-- An element is what its input starts with, and is read again from its own bytes, whatever follows
them. -/
theorem Element.read_front {input rest : Bytes} {e : Element}
    (h : Element.read input = some (e, rest)) :
    input = e.bytes ++ rest ∧ ∀ tail, Element.read (e.bytes ++ tail) = some (e, tail) := by
  unfold Element.read at h
  cases htag : readTag input with
  | none => simp [htag] at h
  | some found =>
    obtain ⟨tag, afterTag⟩ := found
    obtain ⟨tagFront, rfl, hreadTag⟩ := front_readTag htag
    rw [htag] at h
    dsimp only at h
    split at h
    next n afterLength hlength =>
      obtain ⟨lengthFront, rfl, hreadLength⟩ := front_readLength hlength
      split_ifs at h with hn
      simp only [take_sub_length, Option.some.injEq, Prod.mk.injEq] at h
      obtain ⟨rfl, rfl⟩ := h
      constructor
      · simp only [Element.bytes, List.append_assoc, List.take_append_drop]
      · intro tail
        have hcontent : (afterLength.take n).length = n := by
          rw [List.length_take]
          omega
        have hlong : ¬ (afterLength.take n ++ tail).length < n := by
          rw [List.length_append]
          omega
        unfold Element.read
        simp only [Element.bytes, List.append_assoc, hreadTag, hreadLength]
        rw [if_neg hlong, take_sub_length, List.take_left' hcontent, List.drop_left' hcontent]
    next => simp at h

theorem Element.bytes_ne_nil {input rest : Bytes} {e : Element}
    (h : Element.read input = some (e, rest)) : e.bytes ≠ [] := by
  intro hnil
  have hagain := (Element.read_front h).2 []
  rw [hnil] at hagain
  simp [Element.read, readTag] at hagain

theorem Element.readConstructed_eq_some {number : Nat} {input rest : Bytes} {e : Element} :
    Element.readConstructed number input = some (e, rest) ↔
      Element.read input = some (e, rest) ∧ e.tag.number = number ∧ e.tag.constructed = true := by
  unfold Element.readConstructed Element.readNumber
  cases Element.read input with
  | none => simp
  | some found =>
    obtain ⟨e', rest'⟩ := found
    dsimp only
    constructor
    · intro h
      split_ifs at h with hnumber
      dsimp only at h
      split_ifs at h with hconstructed
      obtain ⟨rfl, rfl⟩ := by simpa using h
      exact ⟨rfl, hnumber, hconstructed⟩
    · rintro ⟨h, hnumber, hconstructed⟩
      obtain ⟨rfl, rfl⟩ := by simpa using h
      simp only [hnumber, hconstructed, if_true]

theorem Element.readConstructed_append {number : Nat} {input rest : Bytes} {e : Element}
    (h : Element.readConstructed number input = some (e, rest)) (tail : Bytes) :
    Element.readConstructed number (e.bytes ++ tail) = some (e, tail) := by
  obtain ⟨hread, htag⟩ := Element.readConstructed_eq_some.1 h
  exact Element.readConstructed_eq_some.2 ⟨(Element.read_front hread).2 tail, htag⟩

end Der

namespace Certificate

open Der (Element Tag)

theorem der_of_ofSigned {der signed : Bytes} {c : Certificate} (h : ofSigned der signed = some c) :
    c.der = der := by
  unfold ofSigned at h
  simp only [Option.bind_eq_bind, Option.bind_eq_some_iff] at h
  obtain ⟨_, -, serial, -, h⟩ := h
  split_ifs at h with hserial
  · simp at h
  · simp only [Option.bind_eq_some_iff] at h
    obtain ⟨_, -, _, -, _, -, _, -, _, -, _, -, _, -, h⟩ := h
    split_ifs at h
    rw [← Option.some.inj h]

/-- The bytes of a certificate are those of the outer element that it is read from. -/
theorem ofDer?_outer {input : Bytes} {c : Certificate} (h : ofDer? input = some c) :
    ∃ outer rest, Element.readConstructed Tag.sequence input = some (outer, rest) ∧
      c.der = outer.bytes := by
  unfold ofDer? at h
  simp only [Option.bind_eq_bind, Option.bind_eq_some_iff] at h
  obtain ⟨⟨outer, rest⟩, hread, _, -, _, -, _, -, h⟩ := h
  exact ⟨outer, rest, hread, der_of_ofSigned h⟩

/-- The bytes of a certificate are a start of what it is read from, and not empty. -/
theorem der_prefix_of_ofDer? {input : Bytes} {c : Certificate} (h : ofDer? input = some c) :
    c.der ≠ [] ∧ c.der <+: input := by
  obtain ⟨outer, rest, hread, hder⟩ := ofDer?_outer h
  obtain ⟨hread, -⟩ := Element.readConstructed_eq_some.1 hread
  obtain ⟨hinput, -⟩ := Element.read_front hread
  rw [hder]
  exact ⟨Element.bytes_ne_nil hread, ⟨rest, hinput.symm⟩⟩

/-- A certificate is read again from its own bytes, whatever follows them. -/
theorem ofDer?_append {input : Bytes} {c : Certificate} (h : ofDer? input = some c)
    (tail : Bytes) : ofDer? (c.der ++ tail) = some c := by
  obtain ⟨outer, rest, hread, hder⟩ := ofDer?_outer h
  unfold ofDer? at h ⊢
  rw [hder, Element.readConstructed_append hread tail]
  rw [hread] at h
  exact h

theorem ofDer?_of_ofDer {input : Bytes} {c : Certificate} (h : ofDer input = .ok c) :
    ofDer? input = some c := by
  unfold ofDer at h
  split at h
  next c' hc => rw [hc, Except.ok.inj h]
  next => cases h

theorem ofDer_append {input : Bytes} {c : Certificate} (h : ofDer input = .ok c) (tail : Bytes) :
    ofDer (c.der ++ tail) = .ok c := by
  rw [ofDer, ofDer?_append (ofDer?_of_ofDer h)]

/-- A certificate that is read from given bytes is read from them as they are sent. -/
theorem ofBase64_encode (input : Bytes) : ofBase64 (Base64.encode input) = ofDer input := by
  rw [ofBase64, Base64.decodeForm_encode]

/-- A certificate is read back from what is sent for it. -/
theorem ofBase64_toBase64 {input : Bytes} {c : Certificate} (h : ofDer input = .ok c) :
    ofBase64 c.toBase64 = .ok c := by
  have hagain := ofDer_append h []
  rw [List.append_nil] at hagain
  rw [toBase64, ofBase64_encode, hagain]

theorem exists_der_of_ofBase64 {text : String} {c : Certificate} (h : ofBase64 text = .ok c) :
    ∃ der, ofDer der = .ok c := by
  unfold ofBase64 at h
  split at h
  next bytes _ => exact ⟨bytes, h⟩
  next => cases h

end Certificate

end SignPost
