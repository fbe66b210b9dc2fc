import ChainOfTrust.Config
import ChainOfTrust.Proofs.Json.Compact

/-!
# Configurations and their documents

* `TrustConfig.ofJson_toJson` : reading the document of a configuration is validating it;
* `TrustConfig.validate_of_ofJson` : whatever is read is valid;
* `TrustConfig.documents_round_trip` : the two together.
-/

namespace ChainOfTrust.TrustConfig

set_option autoImplicit false

variable {c : TrustConfig}

theorem toValue_plain (c : TrustConfig) : c.toValue.Plain :=
  ⟨rfl, ⟨rfl, rfl, rfl, rfl, trivial⟩, rfl, ⟨rfl, trivial, trivial⟩, trivial⟩

theorem ofValue?_toValue (c : TrustConfig) : ofValue? c.toValue = some c := by
  obtain ⟨⟨path, format⟩, ⟨roots⟩⟩ := c
  cases format <;> rfl

theorem ofJson_toJson (c : TrustConfig) : ofJson c.toJson = c.validate.map fun _ => c := by
  have hread : (Json.parse? c.toJson.toList >>= ofValue?) = some c := by
    rw [toJson, Json.parse?_render (toValue_plain c)]
    exact ofValue?_toValue c
  unfold ofJson
  rw [hread]
  rfl

theorem validate_eq_ok_iff : c.validate = .ok () ↔ c.store.path ≠ "" := by
  unfold validate
  split
  · rename_i h
    simp [String.isEmpty_iff.mp h]
  · rename_i h
    exact ⟨fun _ he => h (String.isEmpty_iff.mpr he), fun _ => rfl⟩

theorem validate_of_ofJson {document : String} (h : ofJson document = .ok c) :
    c.validate = .ok () := by
  unfold ofJson at h
  split at h
  · cases h
  · rename_i d _
    rcases hd : d.validate with fault | ⟨⟩
    · rw [hd] at h
      cases h
    · rw [hd] at h
      cases h
      exact hd

/-- **A configuration is what its document says**, if it names a store, and otherwise the document is
refused for that. Every document that is read, in whatever form it is written, gives a valid
configuration, which has a document of its own. -/
theorem documents_round_trip :
    (∀ c : TrustConfig, c.store.path ≠ "" → ofJson c.toJson = .ok c) ∧
    (∀ c : TrustConfig, c.store.path = "" →
      ∃ fault, ofJson c.toJson = .error (.configuration fault) ∧
        fault.message = "trust_store.path must not be empty") ∧
    ∀ (document : String) (c : TrustConfig), ofJson document = .ok c →
      c.validate = .ok () ∧ ofJson c.toJson = .ok c := by
  refine ⟨fun c hc => ?_, fun c hc => ⟨.emptyPath, ?_, rfl⟩, fun document c h => ?_⟩
  · rw [ofJson_toJson, validate_eq_ok_iff.mpr hc]
    rfl
  · rw [ofJson_toJson, validate, hc]
    rfl
  · have hvalid := validate_of_ofJson h
    refine ⟨hvalid, ?_⟩
    rw [ofJson_toJson, hvalid]
    rfl

/-! ## Two documents -/

/-- Quotes, controls and characters beyond the first plane. -/
def oddPath : TrustConfig := ⟨⟨"a\"b\\c\n\x00\x1f\u00e9😀", .pemDirectory⟩, ⟨false⟩⟩

/-- Blanks, an unknown member, a record as an array, escapes in both cases, fields left out. -/
def looseDocument : String :=
  " \x7b \"tls\" : \x7b \x7d ,\n\"other\":[1, null], \"trust_store\": [\"\\u0061\\ud83d\\uDE00\"] \x7d\t"

theorem ofJson_looseDocument :
    ofJson oddPath.toJson = .ok oddPath ∧
    (∃ fault, ofJson (toJson {}) = .error (.configuration fault) ∧
      fault.message = "trust_store.path must not be empty") ∧
    ofJson looseDocument = .ok (pemBundle "a😀") ∧ (pemBundle "a😀").validate = .ok () ∧
    ofJson (pemBundle "a😀").toJson = .ok (pemBundle "a😀") := by
  obtain ⟨hok, hempty, hany⟩ := documents_round_trip
  have hsome : (ofJson looseDocument).toOption = some (pemBundle "a😀") := by decide +kernel
  have hread : ofJson looseDocument = .ok (pemBundle "a😀") := by
    rcases hdoc : ofJson looseDocument with fault | d
    · rw [hdoc] at hsome
      cases hsome
    · rw [hdoc] at hsome
      exact congrArg Except.ok (Option.some.inj hsome)
  exact ⟨hok oddPath (by decide), hempty {} rfl, hread, hany _ _ hread⟩

end ChainOfTrust.TrustConfig
