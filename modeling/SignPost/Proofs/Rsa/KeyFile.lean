import SignPost.Proofs.Der.Canonical
import SignPost.Signing.Validation

/-!
# Public keys, read strictly and loosely

A validator reads a public key twice: loosely, to see of which type it is, and strictly, to take its
numbers. `usableKey_eq_ok`: the loose reading takes all that the strict one takes, so the numbers
alone decide. For the loose reader no length may exceed a machine word, and none does: numbers of at
most 4096 bits keep the whole structure short (`length_ofDer?`).
-/

namespace SignPost.Rsa

open Der

theorem lt_of_usable {key : PublicKey} (h : key.usable = true) :
    key.modulus < 256 ^ 512 ∧ key.exponent < 256 ^ 5 := by
  simp only [PublicKey.usable, PublicKey.wellFormed, Bool.and_eq_true, decide_eq_true_eq] at h
  have hexponent : (1 <<< 33 : Nat) ≤ 256 ^ 5 := by decide
  constructor
  · rw [← Octets.one_shiftLeft]
    exact h.2
  · exact Nat.lt_of_lt_of_le h.1.1.2 hexponent

/-- The structure of a key with at most 4096 bits is short. -/
theorem length_ofDer? {input : Bytes} {key : PublicKey} (h : PublicKey.ofDer? input = some key)
    (hkey : key.usable = true) : input.length < 4096 := by
  obtain ⟨hmodulus, hexponent⟩ := lt_of_usable hkey
  unfold PublicKey.ofDer? at h
  simp only [Option.bind_eq_bind, Option.bind_eq_some_iff] at h
  obtain ⟨numbers, hnumbers, ⟨modulus, afterModulus⟩, htakeModulus, ⟨exponent, rest⟩,
    htakeExponent, h⟩ := h
  dsimp only at htakeExponent h
  split_ifs at h with hrest
  obtain rfl := Option.some.inj h
  have hinput : input.length ≤ 129 + numbers.length + 0 :=
    length_takeAny (takeAny_of_take (take_of_whole hnumbers))
  have hfirst := length_takeNatural htakeModulus hmodulus
  have hsecond := length_takeNatural htakeExponent hexponent
  have hend : rest.length = 0 := by simpa using hrest
  clear hmodulus hexponent hkey
  omega

theorem readAlgorithm_of_take {input rest : Bytes}
    (h : Canonical.take Canonical.sequence input = some (keyAlgorithm, rest)) :
    Certificate.readAlgorithm input = some (Certificate.rsaType, rest) := by
  obtain ⟨e, hread, hcontent⟩ := readConstructed_of_take h (by decide)
  have hidentifier : Element.readIdentifier keyAlgorithm =
      some (Certificate.rsaType, [0x05, 0x00]) := by decide
  unfold Certificate.readAlgorithm
  simp only [hread, hcontent, hidentifier, Option.bind_eq_bind, Option.bind_some]
  rfl

theorem readBits_of_whole {input key : Bytes}
    (h : Canonical.whole Canonical.bitString input = some (0 :: key))
    (hlong : (0 :: key).length < UInt64.size) :
    ∃ e, Certificate.readBits input = some (e, []) := by
  obtain ⟨e, hread, hcontent⟩ := readPrimitive_of_take (take_of_whole h) hlong
  have hvalid : Certificate.validBits (0 :: key) = true := by
    cases key with
    | nil => rfl
    | cons b key => simp [Certificate.validBits, List.getLast?_cons]
  refine ⟨e, ?_⟩
  unfold Certificate.readBits
  simp only [hread, hcontent, hvalid, Option.bind_eq_bind, Option.bind_some, if_true]

/-- A key that is read strictly is read loosely, as one for RSA. -/
theorem readPublicKey_of_ofInfo? {input : Bytes} {key : PublicKey}
    (h : PublicKey.ofInfo? input = some key) (hkey : key.usable = true) :
    ∃ info rest, Certificate.readPublicKey input = some (info, rest) ∧ info.isRsa = true := by
  unfold PublicKey.ofInfo? at h
  simp only [Option.bind_eq_bind, Option.bind_eq_some_iff] at h
  obtain ⟨info, hinfo, ⟨algorithm, afterAlgorithm⟩, halgorithm, bits, hbits, h⟩ := h
  split at h
  next encoded =>
    split_ifs at h with htype
    subst htype
    have hencoded := length_ofDer? h hkey
    have hbitsLength := length_takeAny (takeAny_of_take (take_of_whole hbits))
    have halgorithmLength := length_takeAny (takeAny_of_take halgorithm)
    have hshort : (0 :: encoded).length < UInt64.size := by
      rw [List.length_cons, UInt64.size]
      omega
    have hshort' : info.length < UInt64.size := by
      have hkeyAlgorithm : keyAlgorithm.length = 13 := rfl
      simp only [List.length_cons, List.length_nil] at hbitsLength
      rw [UInt64.size]
      omega
    obtain ⟨e, hread, hcontent⟩ := readConstructed_of_take (take_of_whole hinfo) hshort'
    obtain ⟨bits, hreadBits⟩ := readBits_of_whole hbits hshort
    have hreadAlgorithm := readAlgorithm_of_take halgorithm
    unfold Certificate.readPublicKey
    simp only [hread, hcontent, hreadAlgorithm, hreadBits, Option.bind_eq_bind, Option.bind_some]
    exact ⟨_, _, rfl, rfl⟩
  next => cases h

end SignPost.Rsa

namespace SignPost.Signing

/-- A key is usable if its numbers are; that it is one for RSA follows. -/
theorem usableKey_eq_ok {publicKey : Bytes} {key : Rsa.PublicKey} :
    usableKey publicKey = .ok key ↔
      Rsa.PublicKey.ofInfo? publicKey = some key ∧ key.usable = true := by
  constructor
  · intro h
    unfold usableKey at h
    split at h
    · cases h
    · split_ifs at h
      split at h
      next found hfound =>
        split_ifs at h with husable
        obtain rfl := Except.ok.inj h
        exact ⟨hfound, husable⟩
      next => cases h
  · rintro ⟨hread, husable⟩
    obtain ⟨info, rest, hinfo, hrsa⟩ := Rsa.readPublicKey_of_ofInfo? hread husable
    unfold usableKey
    simp only [hinfo, hrsa, hread, husable, if_true]

end SignPost.Signing
