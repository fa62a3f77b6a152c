import VisitorHeader.Proofs.Files.Reading
import VisitorHeader.Proofs.Settings.FirstFailure

namespace VisitorHeader.Settings

namespace Source

variable (files : FileTree) (path : String)

inductive Uses : String → Prop
  | named (h : files.isFile (absolute files path)) : Uses (absolute files path)
  | extended (found) (h : ¬ files.isFile (absolute files path))
      (hext : withExtension? (absolute files path) = some found) (hfound : files.isFile found) :
      Uses found

/-- There is no file for a path, or it cannot be opened, or it is no text. An optional file counts
as absent in all three cases. -/
inductive Unreadable : Prop
  | absent (h : ¬ files.isFile (absolute files path))
      (hext : ∀ found, withExtension? (absolute files path) = some found → ¬ files.isFile found)
  | unopened (found e) (huses : Uses files path found) (hread : files.readBytes found = .error e)
  | undecoded (found content) (huses : Uses files path found)
      (hread : files.readBytes found = .ok content) (htext : ∀ text : String, content ≠ text.toUTF8)

def Readable : Prop :=
  ∃ found, ∃ text : String, Uses files path found ∧ files.readBytes found = .ok text.toUTF8

variable {files path}

theorem find?_of_uses {found : String} (h : Uses files path found) :
    find? files path = some found := by
  rw [find?_eq, places]
  cases h with
  | named h => exact List.find?_cons_of_pos h
  | extended _ h hext hfound =>
      rw [List.find?_cons_of_neg h, hext]
      exact List.find?_cons_of_pos hfound

theorem find?_of_absent (h : ¬ files.isFile (absolute files path))
    (hext : ∀ found, withExtension? (absolute files path) = some found → ¬ files.isFile found) :
    find? files path = none := by
  rw [find?_eq, places, List.find?_cons_of_neg h, List.find?_eq_none]
  intro found hfound
  exact hext found (Option.mem_toList.mp hfound)

theorem unreadable_or_readable (files : FileTree) (path : String) :
    Unreadable files path ∨ Readable files path := by
  have used {found : String} (huses : Uses files path found) :
      Unreadable files path ∨ Readable files path := by
    rcases files.readBytes_cases found with ⟨e, hread⟩ | ⟨text, hread⟩ | ⟨content, hread, htext⟩
    · exact .inl (.unopened found e huses hread)
    · exact .inr ⟨found, text, huses, hread⟩
    · exact .inl (.undecoded found content huses hread htext)
  by_cases h : files.isFile (absolute files path)
  · exact used (.named h)
  · by_cases hext : ∃ found, withExtension? (absolute files path) = some found ∧ files.isFile found
    · obtain ⟨found, hext, hfound⟩ := hext
      exact used (.extended found h hext hfound)
    · exact .inl (.absent h fun found he hf => hext ⟨found, he, hf⟩)

theorem collect_of_unreadable (h : Unreadable files path) :
    collect files ⟨path, false⟩ = .ok [] := by
  cases h with
  | absent h hext => exact collect_of_absent (find?_of_absent h hext) false
  | unopened found e huses hread =>
      exact collect_of_unread (find?_of_uses huses) (FileTree.readText_of_error hread) false
  | undecoded found content huses hread htext =>
      exact collect_of_unread (find?_of_uses huses)
        (FileTree.readText_of_not_text hread htext) false

end Source

namespace Call

def isOverride : Call → Bool
  | override .. => true
  | file _ | optionalFile _ => false

end Call

namespace Loader

/-- The files and the single settings that a loader is asked for are kept apart. -/
theorem replay_eq (calls : List Call) : replay calls =
    (replay (calls.filter Call.isOverride)).map
      fun l => { l with sources := calls.filterMap Call.source? } := by
  induction calls using List.reverseRecOn with
  | nil => rfl
  | append_singleton calls c ih =>
      rw [replay_append_singleton, ih, List.filter_append, List.filterMap_append]
      cases c with
      | file path | optionalFile path =>
          rw [List.filter_cons_of_neg Bool.false_ne_true, List.filter_nil, List.append_nil]
          cases replay (calls.filter Call.isOverride) <;> rfl
      | override key x =>
          rw [List.filter_cons_of_pos rfl, List.filter_nil, replay_append_singleton]
          cases replay (calls.filter Call.isOverride) with
          | error e => rfl
          | ok l =>
              change setOverride _ key x = (l.setOverride key x).map _
              rw [setOverride, setOverride]
              cases Key.parse key with
              | error e => rfl
              | ok k => simp [Except.map, override, Call.source?]

variable {w : Walk} {files : FileTree}

theorem build_congr {l l' : Loader} (hlayers : l.layers w files = l'.layers w files)
    (hoverrides : l.overrides = l'.overrides) : l.build w files = l'.build w files := by
  rw [build, build, merged, merged, hlayers, hoverrides]

/-- What a caller gets in the end, or the error of the first call that is refused. -/
def buildAfter (w : Walk) (files : FileTree) (calls : List Call) :
    Except LoadError (Except Failure Config) :=
  (replay calls).map (·.build w files)

theorem buildAfter_congr {calls calls' : List Call}
    (hoverrides : calls.filter Call.isOverride = calls'.filter Call.isOverride)
    (hlayers : (ofSources (calls.filterMap Call.source?)).layers w files =
      (ofSources (calls'.filterMap Call.source?)).layers w files) :
    buildAfter w files calls = buildAfter w files calls' := by
  rw [buildAfter, buildAfter, replay_eq calls, replay_eq calls', hoverrides]
  cases replay (calls'.filter Call.isOverride) with
  | error e => rfl
  | ok l =>
      -- the layers do not depend on the single settings
      exact congrArg Except.ok (build_congr hlayers rfl)

theorem layers_drop {s : Source} (h : s.collect files = .ok []) (before after : List Source) :
    (ofSources (before ++ s :: after)).layers w files =
      (ofSources (before ++ after)).layers w files := by
  have hskip (v : Value) : addLayer w v (s.collect files) = .ok v := by
    rw [h, addLayer, Walk.entries, Walk.arrangeEach, (w.perm []).eq_nil]
    rfl
  simp only [layers_eq_foldlM, ofSources, List.foldlM_append, List.foldlM_cons, hskip]
  rfl

theorem layers_exchange {s s' : Source} (h : s.collect files = s'.collect files)
    (before after : List Source) :
    (ofSources (before ++ s :: after)).layers w files =
      (ofSources (before ++ s' :: after)).layers w files := by
  simp only [layers_eq_foldlM, ofSources, List.foldlM_append, List.foldlM_cons, h]

/-- An optional file is a required one if there is a text to be read, and nothing otherwise. What is
wrong with a text that can be read is told either way. -/
theorem buildAfter_optionalFile (w : Walk) (files : FileTree) (before after : List Call)
    (path : String) :
    (Source.Unreadable files path ∨ Source.Readable files path) ∧
      (Source.Unreadable files path →
        buildAfter w files (before ++ .optionalFile path :: after) =
          buildAfter w files (before ++ after)) ∧
      (Source.Readable files path →
        buildAfter w files (before ++ .optionalFile path :: after) =
          buildAfter w files (before ++ .file path :: after)) ∧
      ∀ found text, Source.Uses files path found → files.readBytes found = .ok text.toUTF8 →
        Toml.parse? text = none →
          ∀ l v, (ofSources (before.filterMap Call.source?)).layers w files = .ok v →
            replay (before ++ .optionalFile path :: after) = .ok l →
              l.build w files =
                .error (.error (.fileNotToml (some (Source.origin files found)) text)) := by
  refine ⟨Source.unreadable_or_readable files path, fun h => ?_, ?_, ?_⟩
  · have hcollect := Source.collect_of_unreadable h
    apply buildAfter_congr
    · simp [Call.isOverride]
    · simpa [List.filterMap_append, Call.source?] using layers_drop hcollect _ _
  · rintro ⟨found, text, huses, hread⟩
    have hcollect := Source.collect_of_text (Source.find?_of_uses huses) hread
    apply buildAfter_congr
    · simp [Call.isOverride]
    · have hsame := (hcollect false).trans (hcollect true).symm
      simpa [List.filterMap_append, Call.source?] using layers_exchange hsame _ _
  · intro found text huses hread htoml l v hv hl
    have hsources : l.sources = before.filterMap Call.source? ++ ⟨path, false⟩ ::
        after.filterMap Call.source? := by
      rw [sources_of_calls hl, List.filterMap_append]
      rfl
    have hcollect := Source.collect_of_text (Source.find?_of_uses huses) hread false
    rw [Source.entriesOf, htoml] at hcollect
    exact build_eq_error (layers_eq_error_iff.mpr ⟨_, _, _, v, hsources, hv, hcollect⟩)

def mixedTree : FileTree :=
  (((FileTree.flat [("low.toml", "[class]\nname = \"Low\"\n"),
    ("high.toml", "[class]\nname = \"High\"\n"), ("opt.toml", "[header]\nnamespace = \"N\"\n"),
    ("broken", "[class\n")]).put ["w", "raw"] (.file ⟨#[0xff]⟩)).put ["w", "opt"] .directory).put
      ["w", "locked"] (.blocked .permission)

def lowLayer : Layer := [("class", .table (some "low.toml") [("name", .string "Low")])]

def around (middle : List Call) : List Call :=
  [.override "class.name" (.string "First"), .file "low"] ++ middle ++
    [.file "high", .override "paths.input" (.string "in.txt")]

theorem uses_locked : Source.Uses mixedTree "locked" (Source.absolute mixedTree "locked") :=
  .named rfl

theorem readBytes_locked : mixedTree.readBytes (Source.absolute mixedTree "locked") =
    .error (.blocked .permission) := by
  have hlocate : mixedTree.locate (Source.absolute mixedTree "locked") =
      .ok (.blocked ["w", "locked"] .permission) := rfl
  rw [FileTree.readBytes, hlocate]

theorem unreadable_locked : Source.Unreadable mixedTree "locked" :=
  .unopened _ _ uses_locked readBytes_locked

theorem unreadable_raw : Source.Unreadable mixedTree "raw" := by
  have hread : mixedTree.readBytes (Source.absolute mixedTree "raw") = .ok ⟨#[0xff]⟩ := rfl
  refine .undecoded _ _ (.named rfl) hread fun text htext => ?_
  have hnone : (FileTree.decode ⟨#[0xff]⟩).toOption = none := by decide +kernel
  rw [htext, FileTree.decode_toUTF8] at hnone
  cases hnone

theorem unreadable_absent : Source.Unreadable mixedTree "absent" := by
  have hext : Source.withExtension? (Source.absolute mixedTree "absent") =
      some "/w/absent.toml" := rfl
  refine .absent (by decide) fun found hfound => ?_
  obtain rfl := Option.some.inj (hext.symm.trans hfound)
  decide

theorem readable_opt : Source.Readable mixedTree "opt" :=
  ⟨"/w/opt.toml", "[header]\nnamespace = \"N\"\n",
    .extended _ (by decide) rfl rfl, rfl⟩

theorem buildAfter_optionalFile_mixedTree :
    buildAfter .written mixedTree (around [.optionalFile "locked"]) =
        buildAfter .written mixedTree (around []) ∧
      buildAfter .written mixedTree (around [.optionalFile "raw"]) =
        buildAfter .written mixedTree (around []) ∧
      buildAfter .written mixedTree (around [.optionalFile "absent"]) =
        buildAfter .written mixedTree (around []) ∧
      buildAfter .written mixedTree (around [.optionalFile "opt"]) =
        buildAfter .written mixedTree (around [.file "opt"]) ∧
      ∃ l, replay (around [.optionalFile "broken"]) = .ok l ∧
        l.build .written mixedTree =
          .error (.error (.fileNotToml (some "broken") "[class\n")) := by
  have h (path : String) := buildAfter_optionalFile .written mixedTree
    [.override "class.name" (.string "First"), .file "low"]
    [.file "high", .override "paths.input" (.string "in.txt")] path
  obtain ⟨l, hl⟩ := Option.isSome_iff_exists.mp
    (by decide +kernel : (replay (around [.optionalFile "broken"])).toOption.isSome)
  have hcollect : Source.collect mixedTree ⟨"low", true⟩ = .ok lowLayer :=
    Source.collect_of_chars "/w/low.toml" rfl rfl rfl
  have htyped : lowLayer.Typed := by decide
  obtain ⟨v, hv, -⟩ := addLayer_typed htyped .written (defaults .written)
  have hlow : (ofSources [⟨"low", true⟩]).layers .written mixedTree = .ok v := by
    rw [layers_of_sources_singleton rfl, hcollect, hv]
  have horigin : Source.origin mixedTree (Source.absolute mixedTree "broken") = "broken" := rfl
  refine ⟨(h "locked").2.1 unreadable_locked, (h "raw").2.1 unreadable_raw,
    (h "absent").2.1 unreadable_absent, (h "opt").2.2.1 readable_opt, l, eq_ok_of_toOption hl, ?_⟩
  have hbroken := (h "broken").2.2.2 _ "[class\n" (.named rfl) rfl (by decide +kernel) l v hlow
    (eq_ok_of_toOption hl)
  rwa [horigin] at hbroken

/-- What is wrong with a file that cannot be opened is kept from the caller too. -/
theorem buildAfter_locked :
    mixedTree.isFile (Source.absolute mixedTree "locked") ∧
      mixedTree.readBytes (Source.absolute mixedTree "locked") = .error (.blocked .permission) ∧
      buildAfter .written mixedTree [.optionalFile "locked"] = .ok (.ok .standard) ∧
      buildAfter .written mixedTree [.file "locked"] =
        .ok (.error (.error (.fileUnreadable (.blocked .permission)))) := by
  have hrequired : Source.collect mixedTree ⟨"locked", true⟩ =
      .error (.fileUnreadable (.blocked .permission)) :=
    Source.collect_of_unread (Source.find?_of_uses uses_locked)
      (FileTree.readText_of_error readBytes_locked) true
  have htyped : (new.withOptionalFile "locked").Typed mixedTree := by
    refine ⟨fun s hs => ?_, fun o ho => absurd ho List.not_mem_nil⟩
    obtain rfl := List.mem_singleton.mp hs
    exact ⟨[], Source.collect_of_unreadable unreadable_locked, by decide⟩
  refine ⟨rfl, readBytes_locked, ?_, ?_⟩
  · refine congrArg Except.ok (build_eq_ok htyped (fun f => ⟨none, ?_⟩) .written)
    have hsources : (new.withOptionalFile "locked").sources = [⟨"locked", false⟩] := rfl
    rw [settled, hsources, last?_singleton,
      Source.gives_of_collect (Source.collect_of_unreadable unreadable_locked)]
    cases f <;> rfl
  · refine congrArg Except.ok (build_eq_error (layers_eq_error_iff.mpr ?_))
    exact ⟨[], ⟨"locked", true⟩, [], defaults .written, rfl, layers_of_sources_nil rfl, hrequired⟩

end Loader

end VisitorHeader.Settings
