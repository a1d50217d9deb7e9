import Mathlib
import SignPost.Proofs.Data.Json
import SignPost.Proofs.Settings.Leaves
import SignPost.Proofs.Settings.Loading

/-!
# The last document that gives a value

`last_document_sets_leaf`: after any sequence of documents in either format each value of settings
is what the last document says that has its key, and what it was at first if none has it. An empty
document changes nothing, and settings are read back from their own JSON.

Proof. Settings that are laid out and read again have the values they had (`Leaf.read_text?`), so a
leaf without a key in the document keeps its value and nothing falls back to a default. In a
sequence whatever comes before the last document that gives a value does not count, and those behind
it keep the value, by induction (`text?_of_forall_omits`).
-/

namespace SignPost.Settings

open Data (Value Entries)

/-! ## Documents -/

/-- A document that is laid over settings: its text, and the format that it is written in. -/
structure Layer where
  format : Format
  text : String
deriving DecidableEq, Repr

namespace Layer

def parse (d : Layer) : Option Value :=
  d.format.parse d.text.toList

/-- The document has sections only, and these are its entries. -/
def HasRoot (d : Layer) (root : Entries) : Prop :=
  d.parse = some (.table root) ∧ Plain root

/-- The document gives this text for the leaf. -/
def Gives (d : Layer) (l : Leaf) (text : String) : Prop :=
  ∃ root, d.HasRoot root ∧ l.given? root = some (.text text) ∧ l.Admits text

/-- The document does not have the key of the leaf, whatever else it has. -/
def Omits (d : Layer) (l : Leaf) : Prop :=
  ∃ root, d.HasRoot root ∧ l.given? root = none

theorem HasRoot.unique {d : Layer} {root other : Entries} (h : d.HasRoot root)
    (hother : d.HasRoot other) : other = root := by
  have hsame : some (Value.table other) = some (.table root) := hother.1.symm.trans h.1
  exact Value.table.inj (Option.some.inj hsame)

end Layer

def withLayer (s : Settings) (d : Layer) : Except Error Settings :=
  match d.format with
  | .json => s.withJson d.text
  | .toml => s.withToml d.text

theorem withLayer_eq (s : Settings) (d : Layer) :
    s.withLayer d = s.overlay d.format d.text.toList := by
  rw [withLayer]
  cases d.format <;> rfl

section

variable {s s' : Settings} {root : Entries} {d : Layer} {layers : List Layer} {l : Leaf}
  {text : String}

theorem withLayer_eq_ok (h : d.HasRoot root) :
    s.withLayer d = .ok s' ↔
      (∀ l : Leaf, l.read (Data.over? (l.given? root) ((l.text? s).map Value.text)) =
        .ok (l.text? s')) ∧ s'.Usable := by
  obtain ⟨hparse, hplain⟩ := h
  have hdocument : readDocument d.format d.text.toList = .ok root := by
    rw [readDocument, ← Layer.parse, hparse]
  rw [withLayer_eq, overlay_eq_ok, merge, hdocument, ← merge_eq_ok hplain]
  rfl

theorem read_given (hgiven : l.given? root = some (.text text)) (hadmits : l.Admits text) :
    l.read (Data.over? (l.given? root) ((l.text? s).map Value.text)) = .ok (some text) := by
  rw [hgiven, Data.over?, Value.over_text, Leaf.read_text hadmits]

theorem read_omitted (hgiven : l.given? root = none) :
    l.read (Data.over? (l.given? root) ((l.text? s).map Value.text)) = .ok (l.text? s) := by
  rw [hgiven, Data.over?, Leaf.read_text?]

theorem text?_of_gives (hd : d.Gives l text) (h : s.withLayer d = .ok s') :
    l.text? s' = some text := by
  obtain ⟨root, hroot, hgiven, hadmits⟩ := hd
  have hread := ((withLayer_eq_ok hroot).1 h).1 l
  rw [read_given hgiven hadmits] at hread
  exact (Except.ok.inj hread).symm

theorem text?_of_omits (hd : d.Omits l) (h : s.withLayer d = .ok s') :
    l.text? s' = l.text? s := by
  obtain ⟨root, hroot, hgiven⟩ := hd
  have hread := ((withLayer_eq_ok hroot).1 h).1 l
  rw [read_omitted hgiven] at hread
  exact (Except.ok.inj hread).symm

/-- A document that gives or omits each value is accepted if the settings that it leads to can be
used. -/
theorem withLayer_of_leaves (hs' : s'.Usable)
    (h : ∀ l : Leaf, (∃ text, d.Gives l text ∧ l.text? s' = some text) ∨
      d.Omits l ∧ l.text? s' = l.text? s) : s.withLayer d = .ok s' := by
  obtain ⟨root, hroot⟩ : ∃ root, d.HasRoot root := by
    rcases h .fingerprint with ⟨text, ⟨root, hroot, -⟩, -⟩ | ⟨⟨root, hroot, -⟩, -⟩
    · exact ⟨root, hroot⟩
    · exact ⟨root, hroot⟩
  refine (withLayer_eq_ok hroot).2 ⟨fun l => ?_, hs'⟩
  rcases h l with ⟨text, ⟨other, hother, hgiven, hadmits⟩, htext⟩ | ⟨⟨other, hother, hgiven⟩, htext⟩
  · obtain rfl := hroot.unique hother
    rw [read_given hgiven hadmits, htext]
  · obtain rfl := hroot.unique hother
    rw [read_omitted hgiven, htext]

theorem text?_of_forall_omits (homits : ∀ d ∈ layers, d.Omits l)
    (h : layers.foldlM withLayer s = .ok s') : l.text? s' = l.text? s := by
  induction layers generalizing s with
  | nil =>
    obtain rfl := Except.ok.inj h
    rfl
  | cons d rest ih =>
    rw [List.foldlM_cons, bind_eq_ok] at h
    obtain ⟨middle, hd, hrest⟩ := h
    rw [List.forall_mem_cons] at homits
    rw [ih homits.2 hrest, text?_of_omits homits.1 hd]

/-- The last document that gives a value decides; nothing is asked of those before it. -/
theorem text?_of_last {before after : List Layer} (hd : d.Gives l text)
    (hafter : ∀ e ∈ after, e.Omits l)
    (h : (before ++ d :: after).foldlM withLayer s = .ok s') : l.text? s' = some text := by
  rw [List.foldlM_append, bind_eq_ok] at h
  obtain ⟨first, -, h⟩ := h
  rw [List.foldlM_cons, bind_eq_ok] at h
  obtain ⟨second, hgiven, hrest⟩ := h
  rw [text?_of_forall_omits hafter hrest, text?_of_gives hd hgiven]

theorem plain_nil : Plain [] where
  nodup := List.nodup_nil
  sections := fun _ hentry => absurd hentry List.not_mem_nil

theorem withLayer_of_empty (hs : s.Usable) (hparse : d.parse = some (.table [])) :
    s.withLayer d = .ok s := by
  rw [withLayer_eq_ok ⟨hparse, plain_nil⟩]
  exact ⟨fun l => read_omitted rfl, hs⟩

/-! ## Settings as JSON -/

theorem plainSection_textSection (l : Leaf) (text : Option String) :
    PlainSection l (textSection l.key text) := by
  cases text with
  | none => exact ⟨List.nodup_nil, fun _ hkey => absurd hkey List.not_mem_nil⟩
  | some text =>
    have hnodup : [l.key].Nodup := List.nodup_cons.2 ⟨List.not_mem_nil, List.nodup_nil⟩
    exact ⟨hnodup, fun _ hkey _ => List.mem_singleton.1 hkey⟩

/-- All sections of settings. One without a value is empty. -/
def allSections (s : Settings) : Entries :=
  Leaf.all.map fun l => (l.sectionKey, .table (textSection l.key (l.text? s)))

theorem toValue_eq (s : Settings) : s.toValue = .table s.allSections := rfl

theorem plain_allSections (s : Settings) : Plain s.allSections where
  nodup := by
    show ["trust", "signing", "client"].Nodup
    decide
  sections := by
    intro entry hentry
    obtain ⟨l, -, rfl⟩ := List.mem_map.1 hentry
    exact ⟨l, _, rfl, plainSection_textSection l _⟩

theorem given?_allSections (s : Settings) (l : Leaf) :
    l.given? s.allSections = (l.text? s).map Value.text := by
  have hsection : s.allSections.get? l.sectionKey =
      some (.table (textSection l.key (l.text? s))) := by
    cases l <;> rfl
  rw [Leaf.given?, hsection]
  exact get?_textSection l.key (l.text? s)

theorem textual_toValue (s : Settings) : Data.Json.Textual Data.Json.maxDepth s.toValue := by
  rw [toValue_eq]
  refine .table 126 _ (plain_allSections s).nodup fun entry hentry => ?_
  obtain ⟨l, -, rfl⟩ := List.mem_map.1 hentry
  refine .table 125 _ (plainSection_textSection l _).nodup fun entry hentry => ?_
  cases htext : l.text? s with
  | none =>
    rw [htext] at hentry
    exact absurd hentry List.not_mem_nil
  | some text =>
    rw [htext] at hentry
    obtain rfl := List.mem_singleton.1 hentry
    exact .text 125 text

/-- Settings are read back from their own JSON: where they have no value the defaults have none. -/
theorem ofJson_toValue (hs : s.Usable) :
    ofJson (String.ofList (Data.Json.render s.toValue)) = .ok s := by
  have hparse : Layer.parse ⟨.json, String.ofList (Data.Json.render s.toValue)⟩ =
      some (.table s.allSections) := by
    rw [Layer.parse, String.toList_ofList, ← toValue_eq]
    exact Data.Json.parse_render (textual_toValue s)
  refine (withLayer_eq_ok ⟨hparse, plain_allSections s⟩).2 ⟨fun l => ?_, hs⟩
  rw [given?_allSections]
  cases htext : l.text? s with
  | some text => exact Leaf.read_text (Leaf.admits_of_text? htext)
  | none =>
    cases l with
    | fingerprint => rfl
    | algorithm => cases htext
    | language => rfl

/-- The settings after documents of both formats in any order. A document that gives a value sets
it, and one without its key leaves it; where it does one or the other with each value, it is
accepted if the settings that it leads to are valid. So after a sequence each value is that of the
last document that gave one, and the first settings' where none did. An empty document changes
nothing, and valid settings are read back from their own JSON. -/
theorem last_document_sets_leaf (hs : s.validate = .ok ()) :
    (∀ (d : Layer) (s' : Settings), s.withLayer d = .ok s' → ∀ l : Leaf,
      (∀ text, d.Gives l text → l.text? s' = some text) ∧
      (d.Omits l → l.text? s' = l.text? s)) ∧
    (∀ (d : Layer) (s' : Settings), s'.validate = .ok () →
      (∀ l : Leaf, (∃ text, d.Gives l text ∧ l.text? s' = some text) ∨
        d.Omits l ∧ l.text? s' = l.text? s) → s.withLayer d = .ok s') ∧
    (∀ d : Layer, d.parse = some (.table []) → s.withLayer d = .ok s) ∧
    (∀ (layers : List Layer) (s' : Settings), layers.foldlM withLayer s = .ok s' → ∀ l : Leaf,
      (∀ before d after text, layers = before ++ d :: after → d.Gives l text →
        (∀ e ∈ after, e.Omits l) → l.text? s' = some text) ∧
      ((∀ d ∈ layers, d.Omits l) → l.text? s' = l.text? s)) ∧
    ofJson (String.ofList (Data.Json.render s.toValue)) = .ok s := by
  have husable : s.Usable := validate_eq_ok.1 hs
  refine ⟨?_, ?_, fun d hempty => withLayer_of_empty husable hempty, ?_, ofJson_toValue husable⟩
  · intro d s' h l
    exact ⟨fun text hd => text?_of_gives hd h, fun hd => text?_of_omits hd h⟩
  · intro d s' hs' h
    exact withLayer_of_leaves (validate_eq_ok.1 hs') h
  · intro layers s' h l
    refine ⟨?_, fun homits => text?_of_forall_omits homits h⟩
    rintro before d after text rfl hd hafter
    exact text?_of_last hd hafter h

end

section sample

def sampleSettings : Settings := ⟨some fullFingerprint, .rs1, some "fr"⟩

/-- A document in TOML with two of the values. -/
def sampleToml : Layer := ⟨.toml, "[signing]\nalgorithm = \"rs256\"\n[client]\nlanguage = \"de\"\n"⟩

/-- A document in JSON with another language, a key that does not count and an empty section. -/
def sampleJson : Layer :=
  ⟨.json, "\x7b\"client\":\x7b\"language\":\"nl\",\"extra\":[1]\x7d,\"trust\":\x7b\x7d\x7d"⟩

def tomlRoot : Entries :=
  [(signingKey, .table [(algorithmKey, .text "rs256")]),
    (clientKey, .table [(languageKey, .text "de")])]

def jsonRoot : Entries :=
  [(clientKey, .table [(languageKey, .text "nl"), ("extra", .list [.int 1])]),
    (trustKey, .table [])]

theorem plain_tomlRoot : Plain tomlRoot where
  nodup := by decide
  sections := by
    intro entry hentry
    rcases List.mem_cons.1 hentry with rfl | hentry
    · exact ⟨.algorithm, _, rfl, plainSection_textSection .algorithm (some "rs256")⟩
    · obtain rfl := List.mem_singleton.1 hentry
      exact ⟨.language, _, rfl, plainSection_textSection .language (some "de")⟩

theorem plain_jsonRoot : Plain jsonRoot where
  nodup := by decide
  sections := by
    intro entry hentry
    rcases List.mem_cons.1 hentry with rfl | hentry
    · exact ⟨.language, _, rfl, by decide, by decide +kernel⟩
    · obtain rfl := List.mem_singleton.1 hentry
      exact ⟨.fingerprint, _, rfl, plainSection_textSection .fingerprint none⟩

theorem hasRoot_sampleToml : sampleToml.HasRoot tomlRoot :=
  ⟨by cbv, plain_tomlRoot⟩

theorem hasRoot_sampleJson : sampleJson.HasRoot jsonRoot :=
  ⟨by cbv, plain_jsonRoot⟩

/-- The first document sets two of the values. After both, the language is that of the second, the
algorithm that of the first, and the fingerprint what it was. -/
theorem sample_layers :
    let middle : Settings := ⟨some fullFingerprint, .rs256, some "de"⟩
    sampleSettings.validate = .ok () ∧ middle.validate = .ok () ∧
      sampleSettings.withLayer sampleToml = .ok middle ∧
      (∃ s', [sampleToml, sampleJson].foldlM withLayer sampleSettings = .ok s' ∧
        s'.fingerprint = some fullFingerprint ∧ s'.algorithm.name = "rs256" ∧
        s'.language = some "nl") ∧
      sampleSettings.withJson "\x7b\x7d" = .ok sampleSettings ∧
      sampleSettings.withToml "" = .ok sampleSettings ∧
      ofJson (String.ofList (Data.Json.render sampleSettings.toValue)) = .ok sampleSettings := by
  intro middle
  have hvalid : sampleSettings.validate = .ok () := by decide +kernel
  have hmiddle : middle.validate = .ok () := by decide +kernel
  have hlayers : [sampleToml, sampleJson].foldlM withLayer sampleSettings =
      .ok ⟨some fullFingerprint, .rs256, some "nl"⟩ := by decide +kernel
  have hnamed : sampleToml.Gives .algorithm "rs256" :=
    ⟨tomlRoot, hasRoot_sampleToml, rfl, .rs256, rfl⟩
  have hfirst : sampleToml.Gives .language "de" :=
    ⟨tomlRoot, hasRoot_sampleToml, rfl, trivial⟩
  have hsecond : sampleJson.Gives .language "nl" :=
    ⟨jsonRoot, hasRoot_sampleJson, rfl, trivial⟩
  have homitted : sampleToml.Omits .fingerprint := ⟨tomlRoot, hasRoot_sampleToml, rfl⟩
  have hfingerprint : ∀ d ∈ [sampleToml, sampleJson], d.Omits .fingerprint := by
    intro d hd
    rcases List.mem_pair.1 hd with rfl | rfl
    · exact homitted
    · exact ⟨jsonRoot, hasRoot_sampleJson, rfl⟩
  have halgorithm : ∀ d ∈ [sampleJson], d.Omits .algorithm := by
    intro d hd
    obtain rfl := List.mem_singleton.1 hd
    exact ⟨jsonRoot, hasRoot_sampleJson, rfl⟩
  obtain ⟨-, haccepted, hempty, hsequence, hjson⟩ := last_document_sets_leaf hvalid
  refine ⟨hvalid, hmiddle, ?_, ⟨_, hlayers, ?_, ?_, ?_⟩, ?_, ?_, hjson⟩
  · refine haccepted sampleToml middle hmiddle fun l => ?_
    cases l with
    | fingerprint => exact Or.inr ⟨homitted, rfl⟩
    | algorithm => exact Or.inl ⟨_, hnamed, rfl⟩
    | language => exact Or.inl ⟨_, hfirst, rfl⟩
  · exact (hsequence _ _ hlayers .fingerprint).2 hfingerprint
  · exact Option.some.inj ((hsequence _ _ hlayers .algorithm).1 [] sampleToml [sampleJson] _ rfl
      hnamed halgorithm)
  · exact (hsequence _ _ hlayers .language).1 [sampleToml] sampleJson [] _ rfl hsecond (by simp)
  · exact hempty ⟨.json, "\x7b\x7d"⟩ (by cbv)
  · exact hempty ⟨.toml, ""⟩ (by cbv)

end sample

end SignPost.Settings
