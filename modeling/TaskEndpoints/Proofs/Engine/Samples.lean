import TaskEndpoints.Proofs.Engine.Failures
import TaskEndpoints.Proofs.Json.Octets

/-!
# The forms of a sample

The engine may hand over a sample as the text of an object, as the octets of the text in any Unicode
encoding, with or without a byte order mark, or as the object itself. All forms give the same fields.
-/

namespace TaskEndpoints.Engine

variable {e : Engine} {id s : String} {v : Value} {fields : Fields}

theorem takeSample_eq (h : e.sample id = .value v) :
    e.takeSample id = ⟨[.statsAsked id], sampled id v⟩ := by
  rw [takeSample, h]
  rfl

/-- Octets are read like the text, and what is wrong is put alike. -/
theorem sampled_of_carries (hs : Json.StartsPlainly s.toList) (h : Json.Carries s v) :
    sampled id v = sampled id (.text s) := by
  have hread (octets : List UInt8) (ho : Json.readOctets octets = (Json.read s).mapError .read) :
      readSample id (.octets octets) = readSample id (.text s) := by
    rw [readSample, readSample, ho]
    cases Json.read s with
    | error fault => rfl
    | ok w => rfl
  rw [sampled, sampled]
  cases h with
  | text => rfl
  | octets encoding => rw [hread _ (Json.readOctets_encode hs)]
  | marked encoding => rw [hread _ (Json.readOctets_mark_encode hs)]

theorem sampled_text (h : Json.read s = .ok (.map fields)) : sampled id (.text s) = .ok fields := by
  rw [sampled, readSample, h]
  rfl

/-- The text of an object is a sample with its fields, in every form. -/
theorem takeSample_of_carries (hread : Json.read s = .ok (.map fields)) (hform : Json.Carries s v)
    (hv : e.sample id = .value v) : e.takeSample id = ⟨[.statsAsked id], .ok fields⟩ := by
  rw [takeSample_eq hv, sampled_of_carries (Json.startsPlainly_of_read hread) hform, sampled_text hread]

/-- For the text of an object, every form and the object itself are samples with the same fields. For any
document of the standard, all forms come to the same, be it a sample or an error. -/
theorem sample_same_in_every_form (e : Engine) (id s : String) :
    (∀ fields v, Json.read s = .ok (.map fields) → Json.Carries s v ∨ v = .map fields →
      e.sample id = .value v → e.takeSample id = ⟨[.statsAsked id], .ok fields⟩) ∧
    ∀ v, Json.Standard.IsDocument s.toList → Json.Carries s v →
      e.sample id = .value v → e.takeSample id = ⟨[.statsAsked id], sampled id (.text s)⟩ := by
  constructor
  · intro fields v hread hform hv
    rcases hform with hform | rfl
    · exact takeSample_of_carries hread hform hv
    · exact takeSample_eq hv
  · intro v hdocument hform hv
    rw [takeSample_eq hv, sampled_of_carries hdocument.startsPlainly hform]

/-- An engine that hands over a text as octets of UTF-16 with a byte order mark. -/
def wide (s : String) : Engine where
  list := .silence
  sample _ := .value (.octets (Text.Encoding.utf16le.mark ++ Text.Encoding.utf16le.encode s))

theorem sample_same_in_every_form_example :
    Json.read " \x7b\"é\": [1]\x7d" = .ok (.map [(.text "é", .list [.int 1])]) ∧
      (wide " \x7b\"é\": [1]\x7d").takeSample "a" =
        ⟨[.statsAsked "a"], .ok [(.text "é", .list [.int 1])]⟩ := by
  have hread : Json.read " \x7b\"é\": [1]\x7d" = .ok (.map [(.text "é", .list [.int 1])]) := by
    decide +kernel
  obtain ⟨hobject, -⟩ := sample_same_in_every_form (wide " \x7b\"é\": [1]\x7d") "a" " \x7b\"é\": [1]\x7d"
  exact ⟨hread, hobject _ _ hread (Or.inl (.marked .utf16le)) rfl⟩

end TaskEndpoints.Engine
