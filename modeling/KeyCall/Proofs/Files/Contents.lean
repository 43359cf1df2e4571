import KeyCall.Proofs.Files.Outcome
import KeyCall.Proofs.Json.Contents
import KeyCall.Proofs.Yaml.Contents

/-!
# What loaded collections hold

What is loaded from a file was read in the format that its suffix names.  So what comes from JSON is
of the kinds that JSON has, and whatever comes from JSON or a safe reader of YAML is usual.

## Main results

* `Disk.everywhere_isUsual_of_loadCollection` — **what loaded collections hold.**
* `Disk.everywhere_isRead_of_loadCollection` — what comes from JSON was read there.
-/

namespace KeyCall

namespace Format

variable {readers : Readers} {path : String} {bytes : List UInt8} {v : Value}

theorem everywhere_isRead_of_read_json (h : read .json readers path bytes = .ok v) :
    v.Everywhere Json.IsRead := by
  unfold read at h
  cases hdecode : (Text.decodeUtf8 bytes).map Text.unifyLines with
  | error fault =>
    rw [hdecode] at h
    cases h
  | ok text =>
    rw [hdecode] at h
    simp only at h
    cases hread : Json.read text readers.room with
    | error fault =>
      rw [hread] at h
      cases h
    | ok v' =>
      rw [hread] at h
      cases h
      exact Json.everywhere_isRead_of_read hread

theorem everywhere_isUsual_of_read_yaml (hsafe : readers.yaml.IsSafe)
    (h : read .yaml readers path bytes = .ok v) : v.Everywhere Value.IsUsual := by
  unfold read at h
  cases hread : readers.yaml (Text.Arrival.ofBytes bytes) with
  | error failure =>
    rw [hread] at h
    cases h
  | ok v' =>
    rw [hread] at h
    cases h
    exact hsafe _ _ hread

theorem everywhere_isUsual_of_read {format : Format} (hsafe : readers.yaml.IsSafe)
    (h : format.read readers path bytes = .ok v) : v.Everywhere Value.IsUsual := by
  cases format with
  | json => exact (everywhere_isRead_of_read_json h).mono fun v => Json.IsRead.isUsual
  | yaml => exact everywhere_isUsual_of_read_yaml hsafe h

end Format

theorem isCollection_of_needCollection {path : String} {v c : Value}
    (h : needCollection path v = .ok c) : c = v ∧ c.isCollection = true := by
  rcases needCollection_cases path v with ⟨hv, hneed⟩ | hneed
  · rw [hneed] at h
    cases h
    rcases hv with ⟨kind, es, rfl⟩ | ⟨xs, rfl⟩ <;> exact ⟨rfl, rfl⟩
  · rw [hneed] at h
    cases h

/-- What comes out of a file was read in the format that its suffix names. -/
theorem DiskNode.exists_read_of_collection {readers : Readers} {l : Location} {node : DiskNode}
    {c : Value} (h : node.collection readers l = .ok c) :
    c.isCollection = true ∧ ∃ format bytes, Format.ofSuffix? l.suffix = some format ∧
      node = .file bytes ∧ format.read readers l.text bytes = .ok c := by
  cases node with
  | directory => cases h
  | registryModule m =>
    rw [collection_registryModule] at h
    cases h
  | file bytes =>
    cases hformat : Format.ofSuffix? l.suffix with
    | none =>
      rw [collection_file_of_unknown bytes hformat] at h
      cases h
    | some format =>
      rw [collection_file hformat] at h
      obtain ⟨v, hread, hneed⟩ := exists_of_bind_eq_ok h
      obtain ⟨rfl, hc⟩ := isCollection_of_needCollection hneed
      exact ⟨hc, format, bytes, rfl, rfl, hread⟩

namespace Disk

variable {d : Disk} {path : String} {readers : Readers} {c : Value}

/-- A collection that is loaded was read in the format that the suffix names. -/
theorem exists_read_of_loadCollection (h : d.loadCollection path readers = .ok c) :
    c.isCollection = true ∧ ∃ format bytes,
      Format.ofSuffix? (Location.ofText path).suffix = some format ∧
        format.read readers (Location.ofText path).text bytes = .ok c := by
  unfold loadCollection at h
  simp only at h
  split at h
  · cases h
  · split at h
    · cases h
    · split at h
      · cases h
      · obtain ⟨hc, format, bytes, hformat, -, hread⟩ := DiskNode.exists_read_of_collection h
        exact ⟨hc, format, bytes, hformat, hread⟩

/-- **What loaded collections hold**: plain mappings, with no key twice. -/
theorem everywhere_isUsual_of_loadCollection (hsafe : readers.yaml.IsSafe)
    (h : d.loadCollection path readers = .ok c) : c.Everywhere Value.IsUsual := by
  obtain ⟨-, format, bytes, -, hread⟩ := exists_read_of_loadCollection h
  exact Format.everywhere_isUsual_of_read hsafe hread

/-- What is loaded from JSON was read there. -/
theorem everywhere_isRead_of_loadCollection
    (hjson : Format.ofSuffix? (Location.ofText path).suffix = some .json)
    (h : d.loadCollection path readers = .ok c) : c.Everywhere Json.IsRead := by
  obtain ⟨-, format, bytes, hformat, hread⟩ := exists_read_of_loadCollection h
  rw [hjson] at hformat
  cases hformat
  exact Format.everywhere_isRead_of_read_json hread

end Disk
end KeyCall
