import SignPost.Settings.Basic
import SignPost.Proofs.Text.Hex
import Mathlib.Logic.Relation

/-!
# Fingerprints as text

`fingerprint_grammar`: which texts are fingerprints, and of which anchor. Separators do not count,
wherever they stand; what is left has to be forty hexadecimal digits, whose case does not count
either. So two texts that are fingerprints are those of one anchor if they are the same but for
separators and case (`folded`), and neither a further separator nor another case ever changes
whether a text is one (`Restyled`).

Proof. Separators are dropped before anything is read, so the digits are told by the grammar of
hexadecimal texts (`Hex.Spells`), which has one lower case text for each byte string. No separator
is a letter, so lowering the case and dropping separators can be exchanged (`folded_eq`).
-/

namespace SignPost.TrustAnchor

/-- What is left of a text without its separators. -/
def stripped (text : String) : List Char :=
  text.toList.filter fun c => !isSeparator c

/-- What is left of a text without its separators, in lower case. -/
def folded (text : String) : List Char :=
  (stripped text).map Char.toLower

/-- One text is another with a separator put in, or with a letter in the other case. -/
inductive Restyled : String → String → Prop where
  | separator (front back : List Char) {c : Char} (hc : isSeparator c = true) :
      Restyled (String.ofList (front ++ back)) (String.ofList (front ++ c :: back))
  | letter (front back : List Char) {c d : Char} (h : c.toLower = d.toLower) :
      Restyled (String.ofList (front ++ c :: back)) (String.ofList (front ++ d :: back))

section

variable {text : String} {a : TrustAnchor}

/-- An anchor is read from the digits of its fingerprint, whatever separators stand among them. -/
theorem ofHex_eq_ok :
    ofHex text = .ok a ↔
      Hex.decode (Utf8.encode (text.toList.filter fun c => !isSeparator c)) =
        .ok a.fingerprint := by
  obtain ⟨fingerprint, hlength⟩ := a
  unfold ofHex
  cases Hex.decode (Utf8.encode (text.toList.filter fun c => !isSeparator c)) with
  | error e => simp
  | ok bytes =>
    by_cases hbytes : bytes.length = 20
    · simp [ofBytes, hbytes]
    · have hne : bytes ≠ fingerprint := by
        rintro rfl
        exact hbytes hlength
      simp [ofBytes, hbytes, hne]

theorem ofHex_eq_ok_iff_spells : ofHex text = .ok a ↔ Hex.Spells (stripped text) a.fingerprint := by
  rw [ofHex_eq_ok, ← stripped, Hex.decode_encode_eq_ok]

theorem ofHex_eq_ok_iff_folded : ofHex text = .ok a ↔ folded text = a.toHex.toList := by
  rw [ofHex_eq_ok_iff_spells, Hex.spells_iff_map_toLower]
  rfl

/-- Forty digits, separators apart, are the fingerprint of some anchor, and nothing else is. -/
theorem exists_anchor_iff :
    (∃ a, ofHex text = .ok a) ↔
      (stripped text).length = 40 ∧ ∀ c ∈ stripped text, ∃ n, Hex.IsDigit c n := by
  constructor
  · rintro ⟨a, ha⟩
    have hspells := ofHex_eq_ok_iff_spells.1 ha
    refine ⟨?_, hspells.isDigit⟩
    rw [hspells.length_eq, a.length_fingerprint]
  · rintro ⟨hlength, hdigits⟩
    have heven : (stripped text).length = 2 * 20 := hlength
    obtain ⟨bytes, hspells⟩ := Hex.exists_spells heven hdigits
    have hcount : bytes.length = 20 := by
      have := hspells.length_eq
      omega
    exact ⟨⟨bytes, hcount⟩, ofHex_eq_ok_iff_spells.2 hspells⟩

/-! ## Separators and case -/

theorem isSeparator_toLower (c : Char) : isSeparator c.toLower = isSeparator c := by
  by_cases hc : c.toNat < 128
  · have hall : ∀ n < 128, isSeparator (Char.ofNat n).toLower = isSeparator (Char.ofNat n) := by
      decide +kernel
    have := hall c.toNat hc
    rwa [Char.ofNat_toNat] at this
  · rw [Hex.toLower_of_not_ascii hc]

/-- The case may be lowered before separators are dropped. -/
theorem folded_eq (text : String) :
    folded text = (text.toList.map Char.toLower).filter fun c => !isSeparator c := by
  rw [folded, stripped, List.filter_map]
  have hsame : (fun c => !isSeparator c) ∘ Char.toLower = fun c => !isSeparator c := by
    funext c
    exact congrArg (!·) (isSeparator_toLower c)
  rw [hsame]

theorem folded_of_restyled {s t : String} (h : Restyled s t) : folded t = folded s := by
  rw [folded_eq, folded_eq]
  cases h with
  | @separator front back c hc =>
    have hdropped : (!isSeparator c.toLower) = false := by
      rw [isSeparator_toLower, hc]
      rfl
    simp only [String.toList_ofList, List.map_append, List.map_cons, List.filter_append,
      List.filter_cons, hdropped, Bool.false_eq_true, if_false]
  | letter front back h =>
    simp only [String.toList_ofList, List.map_append, List.map_cons, h]

/-- What is written for an anchor has no separators and no capital letters. -/
theorem folded_toHex (a : TrustAnchor) : folded a.toHex = a.toHex.toList := by
  have hdigit : ∀ n < 16, isSeparator (Hex.digit n) = false := by decide
  have hplain : ∀ c ∈ a.toHex.toList, c.toLower = c ∧ isSeparator c = false := by
    intro c hc
    obtain ⟨n, hn, rfl⟩ := Hex.exists_digit_of_mem_encode hc
    exact ⟨Hex.toLower_digit hn, hdigit n hn⟩
  have hlower : a.toHex.toList.map Char.toLower = a.toHex.toList := by
    rw [List.map_congr_left fun c hc => (hplain c hc).1, List.map_id']
  rw [folded_eq, hlower, List.filter_eq_self]
  intro c hc
  rw [(hplain c hc).2]
  rfl

theorem ofHex_toHex (a : TrustAnchor) : ofHex a.toHex = .ok a :=
  ofHex_eq_ok_iff_folded.2 (folded_toHex a)

theorem toHex_injective {a b : TrustAnchor} (h : a.toHex = b.toHex) : a = b := by
  have hread := ofHex_toHex a
  rw [h, ofHex_toHex b] at hread
  exact (Except.ok.inj hread).symm

/-- However a text is restyled, it stays the same but for separators and case. -/
theorem folded_of_restyled_many {s t : String} (h : Relation.ReflTransGen Restyled s t) :
    folded t = folded s := by
  induction h with
  | refl => rfl
  | tail _ hstep ih => exact (folded_of_restyled hstep).trans ih

end

/-- A text is the fingerprint of an anchor if and only if it leaves, without separators, forty
digits that spell the bytes of the anchor, and of some anchor if it leaves forty digits; any other
text is refused, and settings that have it as their fingerprint have a bad parameter. An anchor is
read from what is written for it. Separators put in and another case of letters change neither
whether a text is a fingerprint nor of which anchor, and two fingerprints are of one anchor just if
they are the same without separators in lower case. -/
theorem fingerprint_grammar :
    (∀ text a, ofHex text = .ok a ↔
      (stripped text).length = 40 ∧ Hex.Spells (stripped text) a.fingerprint) ∧
    (∀ text, (∃ a, ofHex text = .ok a) ↔
      (stripped text).length = 40 ∧ ∀ c ∈ stripped text, ∃ n, Hex.IsDigit c n) ∧
    (∀ text, ¬((stripped text).length = 40 ∧ ∀ c ∈ stripped text, ∃ n, Hex.IsDigit c n) →
      ∃ e, ofHex text = .error e ∧ ∀ s : Settings, s.fingerprint = some text →
        s.trustAnchor = .error (.badParameter (.badFingerprint e))) ∧
    (∀ a : TrustAnchor, ofHex a.toHex = .ok a) ∧
    (∀ s t, Relation.ReflTransGen Restyled s t → ∀ a, ofHex t = .ok a ↔ ofHex s = .ok a) ∧
    ∀ s t a b, ofHex s = .ok a → ofHex t = .ok b → (a = b ↔ folded s = folded t) := by
  refine ⟨?_, fun text => exists_anchor_iff, ?_, ofHex_toHex, ?_, ?_⟩
  · intro text a
    rw [ofHex_eq_ok_iff_spells]
    constructor
    · intro h
      refine ⟨?_, h⟩
      rw [h.length_eq, a.length_fingerprint]
    · exact And.right
  · intro text hother
    cases hread : ofHex text with
    | ok a => exact absurd (exists_anchor_iff.1 ⟨a, hread⟩) hother
    | error e =>
      refine ⟨e, rfl, fun s hs => ?_⟩
      simp only [Settings.trustAnchor, hs, hread]
  · intro s t h a
    rw [ofHex_eq_ok_iff_folded, ofHex_eq_ok_iff_folded, folded_of_restyled_many h]
  · intro s t a b ha hb
    rw [ofHex_eq_ok_iff_folded] at ha hb
    rw [ha, hb]
    constructor
    · rintro rfl
      rfl
    · intro h
      exact toHex_injective (String.toList_injective h)

section sample

/-- The digest of `abc` as a fingerprint. -/
def sampleAnchor : TrustAnchor :=
  ⟨[0xA9, 0x99, 0x3E, 0x36, 0x47, 0x06, 0x81, 0x6A, 0xBA, 0x3E, 0x25, 0x71, 0x78, 0x50, 0xC2,
    0x6C, 0x9C, 0xD0, 0xD8, 0x9D], rfl⟩

/-- The fingerprint in two lines and in letters of both cases; then with one of its letters in the
other case and a separator more; and with a digit too many. -/
theorem sample_fingerprint_grammar :
    let front := "A9:99:3e 36:47:06:81:6".toList
    let back := ":\nBA3E257178 50c26c9cd0d89d".toList
    let written := String.ofList (front ++ 'A' :: back)
    let restyled := String.ofList (':' :: (front ++ 'a' :: back))
    ofHex written = .ok sampleAnchor ∧ Relation.ReflTransGen Restyled written restyled ∧
      ofHex restyled = .ok sampleAnchor ∧ folded written = folded restyled ∧
      ∃ e, ofHex (written ++ "0") = .error e ∧
        (⟨some (written ++ "0"), .rs1, none⟩ : Settings).trustAnchor =
          .error (.badParameter (.badFingerprint e)) := by
  intro front back written restyled
  obtain ⟨-, -, hother, -, hstyle, hsame⟩ := fingerprint_grammar
  have hwritten : ofHex written = .ok sampleAnchor := by decide +kernel
  have hletter : Restyled written (String.ofList (front ++ 'a' :: back)) :=
    Restyled.letter front back (by decide)
  have hseparator : Restyled (String.ofList (front ++ 'a' :: back)) restyled :=
    Restyled.separator [] (front ++ 'a' :: back) (by decide)
  have hsteps : Relation.ReflTransGen Restyled written restyled :=
    (Relation.ReflTransGen.single hletter).tail hseparator
  have hrestyled : ofHex restyled = .ok sampleAnchor := (hstyle _ _ hsteps _).2 hwritten
  have hlong : (stripped (written ++ "0")).length ≠ 40 := by decide +kernel
  obtain ⟨e, herror, hsettings⟩ := hother (written ++ "0") fun h => hlong h.1
  exact ⟨hwritten, hsteps, hrestyled, (hsame _ _ _ _ hwritten hrestyled).1 rfl, e, herror,
    hsettings _ rfl⟩

end sample

end SignPost.TrustAnchor
