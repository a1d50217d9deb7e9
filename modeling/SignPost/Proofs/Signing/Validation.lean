import SignPost.Signing.Signer
import SignPost.Signing.Validation
import SignPost.Proofs.Octets

/-!
# What a signature value vouches for

`eq_of_validate`: one value is accepted under one key with one algorithm and for one digest only.
The padded block that the value opens to shows where its filling ends, and so the identified digest
(`padded?_injective`), which in turn shows its hash function (`identified_injective`).
`validate_signWithKey`: what the private key of a pair signs is accepted under its public key,
because signing checks its own result and takes the hash function that the validator takes
(`Validator.exists_ofAlgorithm`).
-/

namespace SignPost.Rsa

/-- The filling of a block ends at its first byte that is not `FF`, however long it is. -/
theorem dropWhile_filling (count : Nat) (identified : Bytes) :
    (List.replicate count 255 ++ 0 :: identified).dropWhile (fun b => b = 255) =
      0 :: identified := by
  have hfilling : ∀ b ∈ List.replicate count (255 : UInt8), decide (b = 255) = true := by
    intro b hb
    exact decide_eq_true (List.eq_of_mem_replicate hb)
  rw [List.dropWhile_append_of_pos hfilling, List.dropWhile_cons_of_neg (by decide)]

/-- A block holds one identified digest. Digests of different lengths have different fillings, and
the first byte behind the filling tells where the digest begins. -/
theorem padded?_injective {size : Nat} {x y block : Bytes}
    (hx : padded? size x = some block) (hy : padded? size y = some block) : x = y := by
  unfold padded? at hx hy
  split_ifs at hx hy
  have hblocks := (Option.some.inj hx).trans (Option.some.inj hy).symm
  simp only [List.cons_append, List.cons.injEq, true_and] at hblocks
  have hdrop := congrArg (List.dropWhile fun b => b = 255) hblocks
  rw [dropWhile_filling, dropWhile_filling] at hdrop
  exact (List.cons.inj hdrop).2

theorem eq_of_accepts {key : PublicKey} {x y signature : Bytes}
    (hx : key.accepts x signature = true) (hy : key.accepts y signature = true) : x = y := by
  simp only [PublicKey.accepts, Bool.and_eq_true, decide_eq_true_eq] at hx hy
  exact padded?_injective hx.2 hy.2

/-- However a number was found, if it is below the modulus and its power is the padded digest, it is
accepted at the width of the modulus. -/
theorem accepts_of_power {key : PublicKey} {identified block : Bytes} {m : Nat}
    (hblock : padded? key.size identified = some block) (hm : m < key.modulus)
    (hpower : powMod m key.exponent key.modulus = Octets.toNat block) :
    key.accepts identified (Octets.ofNat key.size m) = true := by
  have hread : Octets.toNat (Octets.ofNat key.size m) = m :=
    Octets.toNat_ofNat (Nat.lt_trans hm (Octets.lt_byteLength _))
  have hopen : Octets.ofNat key.size (Octets.toNat block) = block := by
    rw [← length_padded hblock, Octets.ofNat_toNat]
  rw [PublicKey.accepts, hread, hpower, hopen, hblock, Octets.length_ofNat]
  simp [hm]

/-- What the private key of a pair signs opens to the padded digest under its public key. -/
theorem accepts_of_sign {key : PrivateKey} {identified signature : Bytes}
    (hkey : 0 < key.publicKey.modulus) (h : key.sign identified = .ok signature) :
    key.publicKey.accepts identified signature = true := by
  unfold PrivateKey.sign at h
  split at h
  · cases h
  next block hblock =>
    dsimp only at h
    split_ifs at h with hback
    rw [← Except.ok.inj h]
    apply accepts_of_power hblock _ hback
    rw [powMod_eq]
    exact Nat.mod_lt _ hkey

end SignPost.Rsa

namespace SignPost.Signing

namespace HashFunction

theorem second_identified (f : HashFunction) (x : Bytes) :
    (f.identified x)[1]? = f.identification[1]? := by
  cases f <;> rfl

/-- The second byte of an identification is its length, and that depends on the hash function. -/
theorem eq_of_second {f g : HashFunction} (h : f.identification[1]? = g.identification[1]?) :
    f = g := by
  cases f <;> cases g <;> simp [identification] at h ⊢

theorem identified_injective {f g : HashFunction} {x y : Bytes}
    (h : f.identified x = g.identified y) : f = g ∧ f.digest x = f.digest y := by
  have hsecond := congrArg (fun bytes => bytes[1]?) h
  simp only [second_identified] at hsecond
  obtain rfl := eq_of_second hsecond
  exact ⟨rfl, List.append_cancel_left h⟩

end HashFunction

theorem Algorithm.hash_injective {a b : Algorithm} (h : a.hash = b.hash) : a = b := by
  cases a <;> cases b <;> first | rfl | cases h

/-- A signer and the validator of its algorithm take the same hash function. -/
theorem Validator.exists_ofAlgorithm (a : Algorithm) :
    ∃ v, ofAlgorithm? a = some v ∧ v.hash = a.hash := by
  cases a <;> exact ⟨_, rfl, rfl⟩

theorem Validator.validate_eq_ok {v : Validator} {publicKey message signature : Bytes} :
    v.validate publicKey message signature = .ok () ↔
      ∃ key, usableKey publicKey = .ok key ∧
        key.accepts (v.hash.identified message) signature = true := by
  unfold validate
  cases usableKey publicKey with
  | error e => simp
  | ok key => simp

theorem validate_eq {a : Algorithm} {v : Validator} (h : Validator.ofAlgorithm? a = some v)
    (publicKey message signature : Bytes) :
    validate a publicKey message signature = v.validate publicKey message signature := by
  rw [validate, h]

theorem validate_eq_ok {a : Algorithm} {publicKey message signature : Bytes} :
    validate a publicKey message signature = .ok () ↔
      ∃ key, usableKey publicKey = .ok key ∧
        key.accepts (a.hash.identified message) signature = true := by
  obtain ⟨v, hv, hhash⟩ := Validator.exists_ofAlgorithm a
  rw [validate_eq hv, Validator.validate_eq_ok, hhash]

/-- A value is accepted under a key with one algorithm, and for messages of one digest. -/
theorem eq_of_validate {a b : Algorithm} {publicKey x y signature : Bytes}
    (hx : validate a publicKey x signature = .ok ())
    (hy : validate b publicKey y signature = .ok ()) :
    a = b ∧ a.digest x = a.digest y := by
  obtain ⟨key, hkey, hx⟩ := validate_eq_ok.1 hx
  obtain ⟨key', hkey', hy⟩ := validate_eq_ok.1 hy
  rw [hkey] at hkey'
  obtain rfl := Except.ok.inj hkey'
  obtain ⟨hhash, hdigest⟩ := HashFunction.identified_injective (Rsa.eq_of_accepts hx hy)
  exact ⟨Algorithm.hash_injective hhash, hdigest⟩

/-- A value that is accepted for two messages shows that they have the same digest. -/
theorem digest_eq_of_validate {a : Algorithm} {publicKey x y signature : Bytes}
    (hx : validate a publicKey x signature = .ok ())
    (hy : validate a publicKey y signature = .ok ()) :
    a.digest x = a.digest y :=
  (eq_of_validate hx hy).2

theorem modulus_pos_of_usable {key : Rsa.PublicKey} (h : key.usable = true) : 0 < key.modulus := by
  simp only [Rsa.PublicKey.usable, Rsa.PublicKey.wellFormed, Bool.and_eq_true,
    decide_eq_true_eq] at h
  omega

theorem usable_of_usableKey {publicKey : Bytes} {key : Rsa.PublicKey}
    (h : usableKey publicKey = .ok key) : key.usable = true := by
  unfold usableKey at h
  split at h
  · cases h
  · split_ifs at h
    split at h
    · split_ifs at h with husable
      rwa [← Except.ok.inj h]
    · cases h

theorem signWithKey_eq_ok {key : Rsa.PrivateKey} {a : Algorithm} {message signature : Bytes} :
    signWithKey key a message = .ok signature ↔
      key.sign (a.hash.identified message) = .ok signature := by
  unfold signWithKey
  cases key.sign (a.hash.identified message) <;> simp

/-- What the key of a pair signs is accepted under its public key. -/
theorem validate_signWithKey {key : Rsa.PrivateKey} {a : Algorithm}
    {publicKey message signature : Bytes} (hkey : usableKey publicKey = .ok key.publicKey)
    (h : signWithKey key a message = .ok signature) :
    validate a publicKey message signature = .ok () := by
  have hpos := modulus_pos_of_usable (usable_of_usableKey hkey)
  have haccepts := Rsa.accepts_of_sign hpos (signWithKey_eq_ok.1 h)
  exact validate_eq_ok.2 ⟨key.publicKey, hkey, haccepts⟩

end SignPost.Signing
