import SignPost.Proofs.Data.Overlay
import SignPost.Settings.Source

/-!
# The values of settings, one by one

Settings have three values (`Leaf`), each in a section of its own, and they are read one by one
(`ofEntries_eq_ok`). `merge_eq_ok`: where a document with sections only is laid over settings, what
is read for a leaf is what the document has for it, and what the settings have where it has nothing.
What else its section holds, and the other sections, do not matter.

Proof. Settings are laid out as a document of the values they have, the new document is merged into
it, and the result is read. A leaf is found by two look-ups, of its section and then of its key, and
both are look-ups after an overlay (`Data.Entries.get?_overlayEach`).
-/

namespace SignPost.Settings

open Data (Value Entries)

/-- The values that settings are made of. -/
inductive Leaf where
  | fingerprint
  | algorithm
  | language
deriving DecidableEq, Repr

namespace Leaf

def sectionKey : Leaf → String
  | fingerprint => trustKey
  | algorithm => signingKey
  | language => clientKey

def key : Leaf → String
  | fingerprint => fingerprintKey
  | algorithm => algorithmKey
  | language => languageKey

/-- What settings have for a leaf, as it is written in a document. -/
def text? (s : Settings) : Leaf → Option String
  | fingerprint => s.fingerprint
  | algorithm => some s.algorithm.name
  | language => s.language

/-- The texts that a document may give: for an algorithm they are the names. -/
def Admits : Leaf → String → Prop
  | algorithm, text => ∃ a : Signing.Algorithm, text = a.name
  | _, _ => True

/-- What a document has for a leaf, if it has the section and the key. -/
def given? (l : Leaf) (root : Entries) : Option Value :=
  (root.get? l.sectionKey).bind fun value => value.entries.get? l.key

/-- Reads the value of a leaf, where it may be missing. -/
def read : Leaf → Option Value → Except ParameterError (Option String)
  | algorithm, value => (readAlgorithm value).map fun a => some a.name
  | l, value => optionalText [l.sectionKey, l.key] value

def all : List Leaf := [fingerprint, algorithm, language]

theorem mem_all (l : Leaf) : l ∈ all := by
  cases l <;> decide

theorem sectionKey_injective {l m : Leaf} (h : l.sectionKey = m.sectionKey) : l = m := by
  have hall : ∀ l ∈ all, ∀ m ∈ all, l.sectionKey = m.sectionKey → l = m := by decide
  exact hall l l.mem_all m m.mem_all h

theorem ofKey_sectionKey (l : Leaf) : Data.Path.ofKey l.sectionKey = .key l.sectionKey := by
  cases l <;> decide +kernel

theorem storedKey_sectionKey (l : Leaf) : Data.storedKey l.sectionKey = l.sectionKey := by
  cases l <;> decide +kernel

theorem storedKey_key (l : Leaf) : Data.storedKey l.key = l.key := by
  cases l <;> decide +kernel

variable {s s' : Settings} {l : Leaf}

theorem admits_of_text? {text : String} (h : l.text? s = some text) : l.Admits text := by
  cases l with
  | fingerprint => exact trivial
  | algorithm => exact ⟨s.algorithm, (Option.some.inj h).symm⟩
  | language => exact trivial

theorem read_text {text : String} (h : l.Admits text) :
    l.read (some (.text text)) = .ok (some text) := by
  cases l with
  | fingerprint => rfl
  | algorithm =>
    obtain ⟨a, rfl⟩ := h
    have hname : algorithmOfName? a.name = some a := by
      cases a <;> decide +kernel
    rw [read, readAlgorithm, algorithm?, hname]
    rfl
  | language => rfl

/-- What settings are written as is read as what they are. -/
theorem read_text? (s : Settings) (l : Leaf) :
    l.read ((l.text? s).map Value.text) = .ok (l.text? s) := by
  cases htext : l.text? s with
  | some text => exact read_text (admits_of_text? htext)
  | none =>
    cases l with
    | fingerprint => rfl
    | algorithm => cases htext
    | language => rfl

end Leaf

/-! ## Sections -/

theorem bind_eq_ok {ε α β : Type} {x : Except ε α} {f : α → Except ε β} {b : β} :
    (x >>= f) = .ok b ↔ ∃ a, x = .ok a ∧ f a = .ok b := by
  cases x with
  | error e => simp [bind, Except.bind]
  | ok a => simp [bind, Except.bind]

/-- Settings are read leaf by leaf. -/
theorem ofEntries_eq_ok {root : Entries} {s : Settings} :
    ofEntries root = .ok s ↔
      ∀ l : Leaf, ∃ value, sectionValue l.sectionKey l.key root = .ok value ∧
        l.read value = .ok (l.text? s) := by
  simp only [ofEntries, bind_eq_ok]
  constructor
  · rintro ⟨first, hfirst, fingerprint, hfingerprint, second, hsecond, algorithm, halgorithm, third,
      hthird, language, hlanguage, hs⟩
    obtain rfl := Except.ok.inj hs
    intro l
    cases l with
    | fingerprint => exact ⟨first, hfirst, hfingerprint⟩
    | algorithm =>
      refine ⟨second, hsecond, ?_⟩
      rw [Leaf.read, halgorithm]
      rfl
    | language => exact ⟨third, hthird, hlanguage⟩
  · intro h
    obtain ⟨first, hfirst, hfingerprint⟩ := h .fingerprint
    obtain ⟨second, hsecond, hname⟩ := h .algorithm
    obtain ⟨third, hthird, hlanguage⟩ := h .language
    have halgorithm : readAlgorithm second = .ok s.algorithm := by
      rw [Leaf.read] at hname
      cases hread : readAlgorithm second with
      | error e =>
        rw [hread] at hname
        cases hname
      | ok a =>
        rw [hread] at hname
        exact congrArg Except.ok (Signing.Algorithm.name_injective
          (Option.some.inj (Except.ok.inj hname)))
    exact ⟨first, hfirst, _, hfingerprint, second, hsecond, _, halgorithm, third, hthird, _,
      hlanguage, rfl⟩

theorem get?_textSection (key : String) (text : Option String) :
    Entries.get? (textSection key text) key = text.map Value.text := by
  cases text with
  | none => rfl
  | some text => simp [textSection, Entries.get?]

/-- The section of a leaf is laid out if there is a value to put in it. -/
theorem get?_baseEntries (s : Settings) (l : Leaf) :
    s.baseEntries.get? l.sectionKey =
      (l.text? s).map fun text => .table (textSection l.key (some text)) := by
  obtain ⟨fingerprint, algorithm, language⟩ := s
  cases l <;> cases fingerprint <;> cases language <;> rfl

/-! ## Documents -/

/-- The entries of a section: a key stands there once, and the key of the leaf in this spelling
only. -/
structure PlainSection (l : Leaf) (entries : Entries) : Prop where
  nodup : entries.keys.Nodup
  spelled : ∀ key ∈ entries.keys, Data.storedKey key = l.key → key = l.key

/-- A document of settings, which has sections only and each of them once. -/
structure Plain (root : Entries) : Prop where
  nodup : root.keys.Nodup
  sections : ∀ entry ∈ root, ∃ (l : Leaf) (entries : Entries),
    entry = (l.sectionKey, .table entries) ∧ PlainSection l entries

section

variable {s s' : Settings} {root : Entries}

theorem Plain.exists_leaf (h : Plain root) {key : String} (hkey : key ∈ root.keys) :
    ∃ l : Leaf, key = l.sectionKey := by
  obtain ⟨entry, hentry, rfl⟩ := List.mem_map.1 hkey
  obtain ⟨l, entries, rfl, -⟩ := h.sections entry hentry
  exact ⟨l, rfl⟩

theorem Plain.section_of_get? (h : Plain root) {l : Leaf} {value : Value}
    (hvalue : root.get? l.sectionKey = some value) :
    ∃ entries, value = .table entries ∧ PlainSection l entries := by
  obtain ⟨before, after, rfl, -⟩ := List.lookup_eq_some_iff.1 hvalue
  obtain ⟨m, entries, heq, hplain⟩ := h.sections (l.sectionKey, value) (by simp)
  obtain ⟨hkey, rfl⟩ := Prod.mk.inj heq
  obtain rfl := Leaf.sectionKey_injective hkey
  exact ⟨entries, rfl, hplain⟩

/-- What is read for a leaf is what the document has for it, laid over what settings have. -/
theorem sectionValue_overlayAll (h : Plain root) (s : Settings) (l : Leaf) :
    sectionValue l.sectionKey l.key (root.overlayAll s.baseEntries) =
      .ok (Data.over? (l.given? root) ((l.text? s).map Value.text)) := by
  have hsection : (root.overlayAll s.baseEntries).get? l.sectionKey =
      Data.over? (root.get? l.sectionKey) (s.baseEntries.get? l.sectionKey) := by
    rw [Entries.overlayAll_eq_overlayEach, Entries.get?_overlayEach l.storedKey_sectionKey h.nodup]
    · intro key hkey hstored
      obtain ⟨m, rfl⟩ := h.exists_leaf hkey
      rwa [m.storedKey_sectionKey] at hstored
    · intro key hkey
      obtain ⟨m, rfl⟩ := h.exists_leaf hkey
      exact m.ofKey_sectionKey
  have hbase := get?_baseEntries s l
  rw [sectionValue, hsection, Leaf.given?]
  cases hroot : root.get? l.sectionKey with
  | none =>
    rw [Data.over?, hbase]
    cases l.text? s with
    | none => rfl
    | some text =>
      have hleaf := get?_textSection l.key (some text)
      simpa [Data.over?] using hleaf
  | some value =>
    obtain ⟨entries, rfl, hplain⟩ := h.section_of_get? hroot
    have hcurrent : (s.baseEntries.get? l.sectionKey).getD (.table []) =
        .table (textSection l.key (l.text? s)) := by
      rw [hbase]
      cases l.text? s <;> rfl
    rw [Data.over?, Value.over_table entries hcurrent]
    dsimp only
    rw [Entries.get?_overlayEach l.storedKey_key hplain.nodup hplain.spelled, get?_textSection]
    rfl

/-- Laying a document over settings gives those whose leaves are read from both. -/
theorem merge_eq_ok (h : Plain root) :
    ofEntries (root.overlayAll s.baseEntries) = .ok s' ↔
      ∀ l : Leaf, l.read (Data.over? (l.given? root) ((l.text? s).map Value.text)) =
        .ok (l.text? s') := by
  simp [ofEntries_eq_ok, sectionValue_overlayAll h]

end

end SignPost.Settings
