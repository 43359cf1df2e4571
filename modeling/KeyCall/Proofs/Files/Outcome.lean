import KeyCall.Files.Loading
import KeyCall.Proofs.Json.Reading
import KeyCall.Proofs.Text.Arrival
import Mathlib

/-!
# What loading a file comes to

A file that is there is loaded, or it is refused as an input: its suffix names no format, its text
is not well-formed, or it holds a scalar.  So it is meant.  But what reading fails with is told as a
fault of the file only where it is the own error of what reads the format.  Everything else is let
through: in JSON bytes that are no text, containers deeper inside of each other than the stack has
room for and integers of too many digits, and in YAML whatever else the package raises.  These
failures are none of the program's own.

## Main definitions

* `Format.Escapes` — the failures that are let through, by format.
* `Disk.HasFile` — there is a file at a path, and this is it.

## Main results

* `Format.malformed_or_escapes_of_read` — reading fails as malformed, or the failure is let through.
* `Disk.loadCollection_of_hasFile` — **what loading a file comes to.**
-/

namespace KeyCall

/-! ### Reading a format -/

namespace Format

/-- The failures of reading that are let through: bytes that are no text, texts that go beyond what
can be read, and what is raised besides the YAML package's own error. -/
inductive Escapes (readers : Readers) : Format → List UInt8 → Error → Prop
  | jsonBytes {bytes : List UInt8} {fault : Utf8Fault}
      (h : Text.decodeUtf8 bytes = .error fault) : Escapes readers .json bytes (.undecodable fault)
  | jsonText {bytes : List UInt8} {text : List Char} {e : Error}
      (h : Text.decodeUtf8 bytes = .ok text)
      (he : Json.Overflows readers.room (Text.unifyLines text) e) :
      Escapes readers .json bytes e
  | yamlRaised {bytes : List UInt8} {label message : String}
      (h : readers.yaml (Text.Arrival.ofBytes bytes) = .error (.other label message)) :
      Escapes readers .yaml bytes (.raised (.foreign label) message none)

variable {readers : Readers} {format : Format} {path : String} {bytes : List UInt8} {e : Error}

/-- What is let through is none of the program's own errors. -/
theorem Escapes.isOwn_eq_false (h : format.Escapes readers bytes e) : e.isOwn = false := by
  cases h with
  | jsonBytes h => rfl
  | jsonText h he => cases he <;> rfl
  | yamlRaised h => rfl

theorem Escapes.exitCode_eq_one (h : format.Escapes readers bytes e) : e.exitCode = 1 := by
  have hown := h.isOwn_eq_false
  rw [Error.isOwn, Option.isSome_eq_false_iff, Option.isNone_iff_eq_none] at hown
  rw [Error.exitCode, ErrorKind.exitCode, hown]
  rfl

theorem read_json_of_undecodable {fault : Utf8Fault} (h : Text.decodeUtf8 bytes = .error fault) :
    read .json readers path bytes = .error (.undecodable fault) := by
  rw [read, h]
  rfl

theorem read_yaml_of_other {label message : String}
    (h : readers.yaml (Text.Arrival.ofBytes bytes) = .error (.other label message)) :
    read .yaml readers path bytes = .error (.raised (.foreign label) message none) := by
  rw [read, h]
  rfl

theorem read_json_of_decodeUtf8 {text : List Char} {v : Value}
    (h : Text.decodeUtf8 bytes = .ok text)
    (hread : Json.read (Text.unifyLines text) readers.room = .ok v) :
    read .json readers path bytes = .ok v := by
  rw [read, h]
  simp only [Except.map, hread]

/-- Of a file that is a text, the reader of YAML gets the whole text, however it arrives. -/
theorem read_yaml_of_decodeUtf8 {text : List Char} (h : Text.decodeUtf8 bytes = .ok text) :
    read .yaml readers path bytes =
      (readers.yaml ⟨Text.unifyLines text, none⟩).mapError (errorOf path) := by
  rw [read, Text.Arrival.ofBytes_of_decodeUtf8 h]

/-- Reading JSON fails as malformed, or the failure is let through. -/
theorem malformed_or_escapes_of_read_json (h : read .json readers path bytes = .error e) :
    (∃ detail, e = .malformed path detail) ∨ Escapes readers .json bytes e := by
  cases hdecode : Text.decodeUtf8 bytes with
  | error fault =>
    rw [read_json_of_undecodable hdecode] at h
    cases h
    exact .inr (.jsonBytes hdecode)
  | ok text =>
    rw [read, hdecode] at h
    simp only [Except.map] at h
    cases hread : Json.read (Text.unifyLines text) readers.room with
    | ok v =>
      rw [hread] at h
      cases h
    | error fault =>
      rw [hread] at h
      cases hreason : fault.reason.error? with
      | none =>
        simp only [hreason] at h
        cases h
        exact .inl ⟨_, rfl⟩
      | some e' =>
        simp only [hreason] at h
        cases h
        exact .inr (.jsonText hdecode (Json.overflows_of_read hread hreason))

/-- Reading YAML fails as malformed, or the failure is let through. -/
theorem malformed_or_escapes_of_read_yaml (h : read .yaml readers path bytes = .error e) :
    (∃ detail, e = .malformed path detail) ∨ Escapes readers .yaml bytes e := by
  rw [read] at h
  cases hread : readers.yaml (Text.Arrival.ofBytes bytes) with
  | ok v =>
    rw [hread] at h
    cases h
  | error failure =>
    rw [hread] at h
    cases failure with
    | malformed detail =>
      cases h
      exact .inl ⟨detail, rfl⟩
    | other label message =>
      cases h
      exact .inr (.yamlRaised hread)

theorem malformed_or_escapes_of_read (h : format.read readers path bytes = .error e) :
    (∃ detail, e = .malformed path detail) ∨ format.Escapes readers bytes e := by
  cases format with
  | json => exact malformed_or_escapes_of_read_json h
  | yaml => exact malformed_or_escapes_of_read_yaml h

end Format

/-! ### Loading a file -/

/-- There is a file at the path, and this is it. -/
structure Disk.HasFile (d : Disk) (path : String) (node : DiskNode) : Prop where
  asked : (Location.ofText path).refusal? = none
  short : d.isTooLong (Location.ofText path).text (Location.ofText path) = false
  found : d.find? (Location.ofText path) = some node
  isFile : node ≠ .directory

namespace Disk

variable {d : Disk} {path : String} {node : DiskNode}

theorem HasFile.loadCollection_eq (h : d.HasFile path node) (readers : Readers) :
    d.loadCollection path readers = node.collection readers (Location.ofText path) := by
  rw [loadCollection]
  simp only [h.asked, h.short, h.found, Option.isSome_none, Bool.false_eq_true, if_false]

end Disk

/-- Of what is read, the mappings and the lists are collections. -/
theorem needCollection_cases (path : String) (v : Value) :
    (((∃ kind es, v = .mapping kind es) ∨ ∃ xs, v = .list xs) ∧ needCollection path v = .ok v) ∨
      needCollection path v = .error (.notCollection path v.typeName) := by
  unfold needCollection
  split
  · exact .inl ⟨.inl ⟨_, _, rfl⟩, rfl⟩
  · exact .inl ⟨.inr ⟨_, rfl⟩, rfl⟩
  · exact .inr rfl

/-- A file in a format is read, and then has to hold a collection. -/
theorem DiskNode.collection_file {readers : Readers} {l : Location} {format : Format}
    {bytes : List UInt8} (h : Format.ofSuffix? l.suffix = some format) :
    DiskNode.collection readers l (.file bytes) =
      (do let v ← format.read readers l.text bytes
          needCollection l.text v) := by
  unfold collection
  simp only [h]

theorem DiskNode.collection_file_of_unknown {readers : Readers} {l : Location}
    (bytes : List UInt8) (h : Format.ofSuffix? l.suffix = none) :
    DiskNode.collection readers l (.file bytes) =
      .error (.formatUnknown (if l.suffix.isEmpty then l.name else l.suffix)) := by
  unfold collection
  simp only [h]

theorem DiskNode.collection_registryModule (readers : Readers) (l : Location)
    (m : RegistryModule) :
    DiskNode.collection readers l (.registryModule m) =
      .error (.formatUnknown (if l.suffix.isEmpty then l.name else l.suffix)) := by
  unfold collection
  cases Format.ofSuffix? l.suffix <;> rfl

theorem DiskNode.collection_cases (readers : Readers) {l : Location} {node : DiskNode}
    (h : node ≠ .directory) :
    (∃ v, node.collection readers l = .ok v ∧
        ((∃ kind es, v = .mapping kind es) ∨ ∃ xs, v = .list xs)) ∨
      (∃ e, node.collection readers l = .error e ∧ e.kind = .input) ∨
      ∃ format bytes e, Format.ofSuffix? l.suffix = some format ∧ node = .file bytes ∧
        node.collection readers l = .error e ∧ format.Escapes readers bytes e := by
  cases node with
  | directory => exact absurd rfl h
  | registryModule m => exact .inr (.inl ⟨_, collection_registryModule readers l m, rfl⟩)
  | file bytes =>
    cases hformat : Format.ofSuffix? l.suffix with
    | none =>
      refine .inr (.inl ⟨_, collection_file_of_unknown bytes hformat, rfl⟩)
    | some format =>
      rw [collection_file hformat]
      cases hread : format.read readers l.text bytes with
      | ok v =>
        rcases needCollection_cases l.text v with ⟨hv, hneed⟩ | hneed
        · exact .inl ⟨v, hneed, hv⟩
        · exact .inr (.inl ⟨_, hneed, rfl⟩)
      | error e =>
        rcases Format.malformed_or_escapes_of_read hread with ⟨detail, rfl⟩ | hescapes
        · exact .inr (.inl ⟨_, rfl, rfl⟩)
        · exact .inr (.inr ⟨format, bytes, e, rfl, rfl, rfl, hescapes⟩)

namespace Disk

variable {d : Disk} {path : String} {node : DiskNode}

/-- A collection that is read is loaded. -/
theorem HasFile.loadCollection_of_read {readers : Readers} {format : Format} {bytes : List UInt8}
    {c : Value} (h : d.HasFile path (.file bytes))
    (hformat : Format.ofSuffix? (Location.ofText path).suffix = some format)
    (hread : format.read readers (Location.ofText path).text bytes = .ok c)
    (hneed : needCollection (Location.ofText path).text c = .ok c) :
    d.loadCollection path readers = .ok c := by
  rw [h.loadCollection_eq, DiskNode.collection_file hformat, hread]
  exact hneed

/-- **What loading a file comes to.**  A mapping or a list comes out, or the file is refused as an
input, or the failure of reading its format is let through.  Such a failure is none of the program's
own, and counts as a general one.  In JSON, bytes that are no text always are let through, and in
YAML everything that the package raises besides its own error. -/
theorem loadCollection_of_hasFile (h : d.HasFile path node) (readers : Readers) :
    ((∃ v, d.loadCollection path readers = .ok v ∧
        ((∃ kind es, v = .mapping kind es) ∨ ∃ xs, v = .list xs)) ∨
      (∃ e, d.loadCollection path readers = .error e ∧ e.kind = .input ∧ e.exitCode = 4) ∨
      ∃ format bytes e, Format.ofSuffix? (Location.ofText path).suffix = some format ∧
        node = .file bytes ∧ d.loadCollection path readers = .error e ∧
        format.Escapes readers bytes e ∧ e.isOwn = false ∧ e.exitCode = 1) ∧
      (∀ bytes fault, Format.ofSuffix? (Location.ofText path).suffix = some .json →
        node = .file bytes → Text.decodeUtf8 bytes = .error fault →
        d.loadCollection path readers = .error (.undecodable fault)) ∧
      ∀ bytes label message, Format.ofSuffix? (Location.ofText path).suffix = some .yaml →
        node = .file bytes →
        readers.yaml (Text.Arrival.ofBytes bytes) = .error (.other label message) →
        d.loadCollection path readers = .error (.raised (.foreign label) message none) := by
  rw [h.loadCollection_eq]
  refine ⟨?_, fun bytes fault hformat hfile hdecode => ?_,
    fun bytes label message hformat hfile hraised => ?_⟩
  · rcases DiskNode.collection_cases readers h.isFile with hok | ⟨e, he, hkind⟩ |
      ⟨format, bytes, e, hformat, hfile, he, hescapes⟩
    · exact .inl hok
    · refine .inr (.inl ⟨e, he, hkind, ?_⟩)
      rw [Error.exitCode, hkind]
      rfl
    · exact .inr (.inr ⟨format, bytes, e, hformat, hfile, he, hescapes, hescapes.isOwn_eq_false,
        hescapes.exitCode_eq_one⟩)
  · rw [hfile, DiskNode.collection_file hformat, Format.read_json_of_undecodable hdecode]
    rfl
  · rw [hfile, DiskNode.collection_file hformat, Format.read_yaml_of_other hraised]
    rfl

/-- A word that is said to be an integer. -/
def wordText : String := "!!int x"

/-- What the YAML package makes of that text; any other is malformed here. -/
def wordReader : Yaml.Reader := fun arrival =>
  if arrival.text = wordText.toList then
    .error (.other "ValueError" "invalid literal for int() with base 10: 'x'")
  else .error (.malformed "")

/-- The readers with it. -/
def wordReaders : Readers := { yaml := wordReader }

/-- A disk with that text in a file, and with a byte in another one that is no text. -/
def strayByteDisk : Disk :=
  { root := "/w"
    nodes := [(⟨0, ["a.json"]⟩, .file [0xFF]),
      (⟨0, ["a.yaml"]⟩, .file (Text.encodeUtf8 wordText))] }

/-- The byte is let through, and so is the word. -/
theorem loadCollection_of_hasFile_of_strayByte :
    strayByteDisk.HasFile "a.json" (.file [0xFF]) ∧
      strayByteDisk.HasFile "a.yaml" (.file (Text.encodeUtf8 wordText)) ∧
      strayByteDisk.loadCollection "a.json" wordReaders =
        .error (.undecodable ⟨0xFF, 0, 1, "invalid start byte"⟩) ∧
      strayByteDisk.loadCollection "a.yaml" wordReaders =
        .error (.raised (.foreign "ValueError") "invalid literal for int() with base 10: 'x'"
          none) := by
  have hjson : Format.ofSuffix? (Location.ofText "a.json").suffix = some .json := by decide +kernel
  have hyaml : Format.ofSuffix? (Location.ofText "a.yaml").suffix = some .yaml := by decide +kernel
  have hbyte : strayByteDisk.HasFile "a.json" (.file [0xFF]) :=
    ⟨by decide, by decide, by rfl, DiskNode.noConfusion⟩
  have hword : strayByteDisk.HasFile "a.yaml" (.file (Text.encodeUtf8 wordText)) :=
    ⟨by decide, by decide, by rfl, DiskNode.noConfusion⟩
  refine ⟨hbyte, hword, ?_, ?_⟩
  · exact (loadCollection_of_hasFile hbyte wordReaders).2.1 _ _ hjson rfl rfl
  · have hdecode : Text.decodeUtf8 (Text.encodeUtf8 wordText) = .ok wordText.toList := by cbv
    refine (loadCollection_of_hasFile hword wordReaders).2.2 _ _ _ hyaml rfl ?_
    rw [Text.Arrival.ofBytes_of_decodeUtf8 hdecode]
    rfl

end Disk
end KeyCall
