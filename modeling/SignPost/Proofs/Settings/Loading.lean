import SignPost.Response.Processor
import SignPost.Settings.Source
import SignPost.Proofs.Text.Blank
import SignPost.Proofs.Trust

/-!
# Loaded settings can be used

Settings may hold anything until they are loaded. `usable_of_load`: what a load gives can be used,
whatever it was laid over, because the result is checked and not the parts it is made of. So
settings that were loaded once are usable ever after (`usable_loadAll`), also when later loads fail.

`Usable.exists_verifier`: usable settings make a verifier, and it pins what is configured. There is
no way from a configured fingerprint to a verifier without an anchor.
-/

namespace SignPost

namespace Settings

/-! ## Usable settings -/

/-- The fingerprint, if there is one, spells twenty bytes, separators apart, and the language, if
there is one, has a character that is not blank. -/
structure Usable (s : Settings) : Prop where
  fingerprint : ∀ text, s.fingerprint = some text →
    ∃ bytes, Hex.decode (Utf8.encode (text.toList.filter fun c => !TrustAnchor.isSeparator c)) =
      .ok bytes ∧ bytes.length = 20
  language : ∀ text, s.language = some text → ∃ c ∈ text.toList, Text.isBlank c = false

section

variable {s s' : Settings}

theorem isBlankText_eq_false {text : String} :
    isBlankText text = false ↔ ∃ c ∈ text.toList, Text.isBlank c = false := by
  rw [isBlankText, List.isEmpty_eq_false_iff, Ne, Text.trim_eq_nil]
  simp

theorem trustAnchor_eq_ok {anchor : Option TrustAnchor} :
    s.trustAnchor = .ok anchor ↔
      anchor.isSome = s.fingerprint.isSome ∧
        ∀ text, s.fingerprint = some text →
          ∃ a, TrustAnchor.ofHex text = .ok a ∧ anchor = some a := by
  unfold trustAnchor
  cases s.fingerprint with
  | none => cases anchor <;> simp
  | some text =>
    cases hread : TrustAnchor.ofHex text with
    | error e => simp [hread]
    | ok a =>
      simp only [Except.ok.injEq, Option.some.injEq, forall_eq', hread, exists_eq_left']
      constructor
      · rintro rfl
        exact ⟨rfl, rfl⟩
      · rintro ⟨-, rfl⟩
        rfl

theorem Usable.exists_trustAnchor (h : s.Usable) : ∃ anchor, s.trustAnchor = .ok anchor := by
  cases hfingerprint : s.fingerprint with
  | none => exact ⟨none, trustAnchor_eq_ok.2 (by simp [hfingerprint])⟩
  | some text =>
    obtain ⟨bytes, hbytes, hlength⟩ := h.fingerprint text hfingerprint
    have hread : TrustAnchor.ofHex text = .ok ⟨bytes, hlength⟩ :=
      TrustAnchor.ofHex_eq_ok.2 hbytes
    exact ⟨some ⟨bytes, hlength⟩, trustAnchor_eq_ok.2 (by simp [hfingerprint, hread])⟩

/-- Settings pass the check if they can be used, and only then. -/
theorem validate_eq_ok : s.validate = .ok () ↔ s.Usable := by
  constructor
  · intro h
    unfold validate at h
    split at h
    · cases h
    next anchor hanchor =>
      split_ifs at h with hblank
      refine ⟨fun text htext => ?_, fun text htext => ?_⟩
      · obtain ⟨a, ha, -⟩ := (trustAnchor_eq_ok.1 hanchor).2 text htext
        exact ⟨a.fingerprint, TrustAnchor.ofHex_eq_ok.1 ha, a.length_fingerprint⟩
      · rw [htext, Option.map_some, Option.getD_some, Bool.not_eq_true] at hblank
        exact isBlankText_eq_false.1 hblank
  · intro h
    obtain ⟨anchor, hanchor⟩ := h.exists_trustAnchor
    have hblank : (s.language.map isBlankText).getD false = false := by
      cases hlanguage : s.language with
      | none => rfl
      | some text => exact isBlankText_eq_false.2 (h.language text hlanguage)
    simp [validate, hanchor, hblank]

/-- Usable settings make a verifier, and with it a processor. Its algorithm is the configured one,
and it has an anchor if a fingerprint is configured, namely this one. -/
theorem Usable.exists_verifier (h : s.Usable) :
    ∃ v, s.verifier = .ok v ∧ Response.Processor.ofSettings s = .ok ⟨v⟩ ∧
      v.algorithm = s.algorithm ∧ v.anchor.isSome = s.fingerprint.isSome ∧
        ∀ text, s.fingerprint = some text →
          ∃ a, TrustAnchor.ofHex text = .ok a ∧ v.anchor = some a := by
  obtain ⟨anchor, hanchor⟩ := h.exists_trustAnchor
  have hverifier : s.verifier = .ok ⟨anchor, s.algorithm⟩ := by rw [verifier, hanchor]
  have hprocessor : Response.Processor.ofSettings s = .ok ⟨⟨anchor, s.algorithm⟩⟩ := by
    rw [Response.Processor.ofSettings, hverifier]
  obtain ⟨hsome, htext⟩ := trustAnchor_eq_ok.1 hanchor
  exact ⟨_, hverifier, hprocessor, rfl, hsome, htext⟩

/-! ## Loads -/

/-- A way to load settings: a document or a file laid over the settings at hand, or over the
defaults. -/
inductive Load where
  | json (text : String)
  | toml (text : String)
  | file (file : File)
  | newJson (text : String)
  | newToml (text : String)
  | newFile (file : File)

def load (s : Settings) : Load → Except Error Settings
  | .json text => s.withJson text
  | .toml text => s.withToml text
  | .file file => s.withFile file
  | .newJson text => ofJson text
  | .newToml text => ofToml text
  | .newFile file => ofFile file

/-- The settings after a sequence of loads. One that fails leaves them as they were. -/
def loadAll (s : Settings) : List Load → Settings
  | [] => s
  | l :: rest =>
    match s.load l with
    | .ok s' => loadAll s' rest
    | .error _ => loadAll s rest

/-- What is laid over settings is checked as a whole. -/
theorem overlay_eq_ok {format : Format} {text : List Char} :
    s.overlay format text = .ok s' ↔ s.merge format text = .ok s' ∧ s'.Usable := by
  rw [← validate_eq_ok, overlay]
  cases s.merge format text with
  | error e => simp
  | ok merged =>
    dsimp only
    constructor
    · intro h
      split at h
      · cases h
      next hvalid =>
        obtain rfl := Except.ok.inj h
        exact ⟨rfl, hvalid⟩
    · rintro ⟨hmerged, hvalid⟩
      obtain rfl := Except.ok.inj hmerged
      simp only [hvalid]

theorem usable_of_overlay {format : Format} {text : List Char}
    (h : s.overlay format text = .ok s') : s'.Usable :=
  (overlay_eq_ok.1 h).2

theorem usable_of_withFile {file : File} (h : s.withFile file = .ok s') : s'.Usable := by
  unfold withFile at h
  split at h
  · cases h
  · split at h
    · cases h
    · split at h
      · cases h
      · dsimp only at h
        split at h
        · cases h
        · exact usable_of_overlay h

/-- What a load gives can be used, whatever the settings were. -/
theorem usable_of_load {l : Load} (h : s.load l = .ok s') : s'.Usable := by
  cases l with
  | json text => exact usable_of_overlay h
  | toml text => exact usable_of_overlay h
  | file file =>
    rw [load] at h
    exact usable_of_withFile h
  | newJson text => exact usable_of_overlay h
  | newToml text => exact usable_of_overlay h
  | newFile file =>
    rw [load, ofFile] at h
    exact usable_of_withFile h

/-- Usable settings stay usable, whatever is loaded and whether it succeeds or not. -/
theorem usable_loadAll (h : s.Usable) (loads : List Load) : (s.loadAll loads).Usable := by
  induction loads generalizing s with
  | nil => exact h
  | cons l rest ih =>
    rw [loadAll]
    split
    next s' hload => exact ih (usable_of_load hload)
    next => exact ih h

/-- Whatever settings there were at first, and whatever was loaded before: what a load gives that
succeeds can be used, and so it stays with whatever is loaded next. It makes a verifier and a
processor with the configured algorithm, and with an anchor just if a fingerprint is configured, the
anchor of this fingerprint. -/
theorem loaded_settings_usable (before : List Load) (l : Load)
    (h : (s.loadAll before).load l = .ok s') :
    s'.Usable ∧
    (∃ v, s'.verifier = .ok v ∧ Response.Processor.ofSettings s' = .ok ⟨v⟩ ∧
      v.algorithm = s'.algorithm ∧ v.anchor.isSome = s'.fingerprint.isSome ∧
        ∀ text, s'.fingerprint = some text →
          ∃ a, TrustAnchor.ofHex text = .ok a ∧ v.anchor = some a) ∧
    ∀ after, (s'.loadAll after).Usable := by
  have hloaded : s'.Usable := usable_of_load h
  exact ⟨hloaded, hloaded.exists_verifier, usable_loadAll hloaded⟩

end

section sample

/-- Settings that nothing has checked. -/
def unchecked : Settings := ⟨some "A9:99", .rs256, some " "⟩

def fullFingerprint : String := "A9993E364706816ABA3E25717850C26C9CD0D89D"

/-- Neither a language alone mends such settings nor a file that is not there. -/
def vainLoads : List Load :=
  [.toml "[client]\nlanguage = \"nl\"",
    .file ⟨Utf8.ofString "dss.toml", .error "No such file or directory (os error 2)"⟩]

/-- A document with a fingerprint and without a language. -/
def mendingLoad : Load :=
  .json ("\x7b\"trust\":\x7b\"service_fingerprint\":\"" ++ fullFingerprint ++
    "\"\x7d,\"client\":\x7b\"language\":null\x7d\x7d")

/-- Two loads that fail leave the settings as they were, and one that succeeds makes them usable. -/
theorem unchecked_settings_mended :
    let mended : Settings := ⟨some fullFingerprint, .rs256, none⟩
    ¬unchecked.Usable ∧ unchecked.loadAll vainLoads = unchecked ∧
      unchecked.load mendingLoad = .ok mended ∧ mended.Usable ∧
      ∃ v, mended.verifier = .ok v ∧ v.algorithm = .rs256 ∧ v.anchor.isSome = true := by
  intro mended
  have hvain : unchecked.loadAll vainLoads = unchecked := by decide +kernel
  have hload : unchecked.load mendingLoad = .ok mended := by decide +kernel
  obtain ⟨husable, ⟨v, hv, -, halgorithm, hanchor, -⟩, -⟩ :=
    loaded_settings_usable vainLoads mendingLoad (hvain.symm ▸ hload)
  refine ⟨fun h => ?_, hvain, hload, husable, v, hv, halgorithm, hanchor⟩
  have hcheck := validate_eq_ok.2 h
  exact absurd hcheck (by decide +kernel)

end sample

end Settings

end SignPost
