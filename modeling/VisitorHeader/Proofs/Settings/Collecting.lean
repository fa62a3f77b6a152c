import Mathlib.Data.List.Find
import VisitorHeader.Proofs.Files.Reading
import VisitorHeader.Proofs.Files.Rereading
import VisitorHeader.Settings.Loader

namespace VisitorHeader.Settings.Source

variable {files : FileTree} {l : Location}

theorem mem_places_of_find? {path found : String} (h : find? files path = some found) :
    found ∈ places files path ∧ files.isFile found := by
  rw [find?_eq] at h
  exact ⟨List.mem_of_find?_eq_some h, List.find?_some h⟩

section Put

variable (hl : files.get? l ≠ some .directory) (content : ByteArray) {path : String}
  (hs : ∀ place ∈ places files path, ¬ files.LeadsTo place l)

include hl hs

theorem find?_put : find? (files.put l (.file content)) path = find? files path := by
  have hplaces : places (files.put l (.file content)) path = places files path := rfl
  rw [find?_eq, find?_eq, hplaces]
  exact List.find?_congr fun place hplace => FileTree.isFile_put hl content (hs place hplace)

theorem collect_put (required : Bool) :
    collect (files.put l (.file content)) ⟨path, required⟩ = collect files ⟨path, required⟩ := by
  have hread : read (files.put l (.file content)) ⟨path, required⟩ =
      read files ⟨path, required⟩ := by
    rw [read, read, find?_put hl content hs]
    cases hf : find? files path with
    | none => rfl
    | some found =>
        obtain ⟨hplace, hfile⟩ := mem_places_of_find? hf
        obtain ⟨target, htarget⟩ := FileTree.exists_of_isFile hfile
        have hne : target.location ≠ l := fun h => hs found hplace ⟨target, htarget, h⟩
        have horigin : origin (files.put l (.file content)) found = origin files found := rfl
        simp only [FileTree.readText_put hl content htarget hne, horigin]
  rw [collect, collect, hread]

end Put

variable {files : FileTree} {path found : String}

theorem collect_of_absent (hfind : find? files path = none) (required : Bool) :
    collect files ⟨path, required⟩ =
      if required then .error (.fileNotFound path) else .ok [] := by
  rw [collect, read, hfind]

theorem collect_of_unread {e : AccessError} (hfind : find? files path = some found)
    (hread : files.readText found = .error e) (required : Bool) :
    collect files ⟨path, required⟩ =
      if required then .error (.fileUnreadable e) else .ok [] := by
  rw [collect, read, hfind]
  simp only [hread]

/-- Whether a text that is there is required or not makes no difference. -/
theorem collect_of_text {text : String} (hfind : find? files path = some found)
    (hread : files.readBytes found = .ok text.toUTF8) (required : Bool) :
    collect files ⟨path, required⟩ = entriesOf (some (origin files found)) text := by
  rw [collect, read, hfind]
  simp only [FileTree.readText_of_text hread]

/-- The characters of a text are handed over: reduction would find them in its bytes only, one after
the other. -/
theorem entriesOf_of_chars {origin : Option String} {text : String} {cs : List Char}
    {entries : List (String × Value)} (htext : text.toList = cs)
    (hparse : (Toml.parseChars? cs).map (Value.entriesOfToml origin) = some entries) :
    entriesOf origin text = .ok entries := by
  obtain ⟨values, hvalues, rfl⟩ := Option.map_eq_some_iff.mp hparse
  rw [entriesOf, Toml.parse?, htext, hvalues]

theorem collect_of_chars {required : Bool} {cs : List Char} {entries : List (String × Value)}
    (found : String) (hfind : (places files path).find? files.isFile = some found)
    (hread : files.readBytes found = .ok (String.ofList cs).toUTF8)
    (hparse : (Toml.parseChars? cs).map (Value.entriesOfToml (some (origin files found))) =
      some entries) :
    collect files ⟨path, required⟩ = .ok entries := by
  rw [collect_of_text ((find?_eq files path).trans hfind) hread]
  exact entriesOf_of_chars String.toList_ofList hparse

end VisitorHeader.Settings.Source
