import VisitorHeader.Proofs.Files.Writing
import VisitorHeader.Proofs.Settings.Precedence

namespace VisitorHeader.Settings

def LoadError.ofFile : LoadError → Bool
  | fileNotFound _ | fileUnreadable _ | fileNotToml .. => true
  | _ => false

def FilesFine {α : Type} (r : Except LoadError α) : Prop := ∀ e, r = .error e → e.ofFile = false

namespace FilesFine

variable {α β : Type}

theorem ok (a : α) : FilesFine (.ok a) := by
  intro e h
  cases h

theorem error {e : LoadError} (h : e.ofFile = false) :
    FilesFine (.error e : Except LoadError α) := by
  intro e' he
  obtain rfl := Except.error.inj he
  exact h

theorem bind {r : Except LoadError α} {f : α → Except LoadError β} (hr : FilesFine r)
    (hf : ∀ a, FilesFine (f a)) : FilesFine (r >>= f) := by
  cases r with
  | error e => exact error (hr e rfl)
  | ok a => exact hf a

theorem forM {xs : List α} {f : α → Except LoadError Unit} (hf : ∀ a, FilesFine (f a)) :
    FilesFine (ForM.forM xs f) := by
  induction xs with
  | nil => exact ok _
  | cons x xs ih => exact (hf x).bind fun _ => ih

theorem map {r : Except LoadError α} (hr : FilesFine r) (f : α → β) : FilesFine (r.map f) := by
  cases r with
  | error e => exact error (hr e rfl)
  | ok a => exact ok (f a)

end FilesFine

theorem filesFine_decodeText (key : String) (v : Value) : FilesFine (decodeText key v) := by
  rw [decodeText]
  split
  · exact .ok _
  · exact .error rfl

theorem filesFine_decodeTextsFrom (key : String) (i : Nat) (vs : List Value) :
    FilesFine (decodeTextsFrom key i vs) := by
  induction vs generalizing i with
  | nil => exact .ok _
  | cons v vs ih =>
      refine (filesFine_decodeText _ v).bind fun s => ?_
      exact (ih (i + 1)).bind fun ss => .ok _

theorem filesFine_decodeTexts (key : String) (v : Value) : FilesFine (decodeTexts key v) := by
  cases v with
  | array origin items => exact filesFine_decodeTextsFrom key 0 items
  | nil | boolean | integer | float | string | table => exact .error rfl

theorem filesFine_meet {decode : Nat → Except LoadError Unit} (h : ∀ i, FilesFine (decode i))
    (w : Walk) (names : List String) (entries : Layer) :
    FilesFine (meet w names decode entries) := by
  refine .forM fun e => ?_
  split
  · exact h _
  · exact .ok _

namespace Layout

variable {α : Type} (l : Layout)

theorem filesFine_fieldsOf (v : Value) : FilesFine (l.fieldsOf v) := by
  cases v with
  | array | table => exact .ok _
  | nil | boolean | integer | float | string => exact .error rfl

theorem filesFine_read {decode : String → Value → Except LoadError α}
    (h : ∀ key v, FilesFine (decode key v)) (i : Nat) (fields : Fields) :
    FilesFine (l.read i decode fields) := by
  cases fields with
  | named entries =>
      rw [read]
      split
      · exact (h _ _).map some
      · exact .ok _
  | listed items =>
      rw [read]
      split
      · exact (h _ _).map some
      · exact .error rfl

theorem filesFine_probe (i : Nat) (fields : Fields) : FilesFine (l.probe i fields) := by
  rw [probe]
  split
  · exact (l.filesFine_read filesFine_decodeTexts i fields).map _
  · exact (l.filesFine_read filesFine_decodeText i fields).map _

theorem filesFine_meetFields (w : Walk) (fields : Fields) : FilesFine (l.meetFields w fields) := by
  cases fields with
  | named entries => exact filesFine_meet (fun i => l.filesFine_probe i _) w _ entries
  | listed items => exact .ok _

theorem filesFine_require (i : Nat) (found : Option α) : FilesFine (l.require i found) := by
  cases found with
  | none => exact .error rfl
  | some a => exact .ok a

end Layout

open Layout

variable (w : Walk)

theorem PathSettings.filesFine_decode (v : Value) : FilesFine (decode w v) := by
  refine (filesFine_fieldsOf _ v).bind fun fields => ?_
  refine (filesFine_meetFields _ w fields).bind fun _ => ?_
  refine (filesFine_read _ filesFine_decodeText 0 fields).bind fun input => ?_
  refine (filesFine_read _ filesFine_decodeText 1 fields).bind fun output => ?_
  refine (filesFine_require _ 0 input).bind fun i => ?_
  exact (filesFine_require _ 1 output).bind fun o => .ok _

theorem HeaderSettings.filesFine_decode (v : Value) : FilesFine (decode w v) := by
  refine (filesFine_fieldsOf _ v).bind fun fields => ?_
  refine (filesFine_meetFields _ w fields).bind fun _ => ?_
  refine (filesFine_read _ filesFine_decodeTexts 0 fields).bind fun includes => ?_
  refine (filesFine_read _ filesFine_decodeText 1 fields).bind fun namespaceName => ?_
  refine (filesFine_require _ 0 includes).bind fun i => ?_
  exact (filesFine_require _ 1 namespaceName).bind fun n => .ok _

theorem ClassSettings.filesFine_decode (v : Value) : FilesFine (decode w v) := by
  refine (filesFine_fieldsOf _ v).bind fun fields => ?_
  refine (filesFine_meetFields _ w fields).bind fun _ => ?_
  refine (filesFine_read _ filesFine_decodeText 0 fields).bind fun name => ?_
  refine (filesFine_read _ filesFine_decodeText 1 fields).bind fun marker => ?_
  refine (filesFine_read _ filesFine_decodeText 2 fields).bind fun visitor => ?_
  refine (filesFine_read _ filesFine_decodeText 3 fields).bind fun method => ?_
  refine (filesFine_require _ 0 name).bind fun n => ?_
  refine (filesFine_require _ 1 marker).bind fun m => ?_
  refine (filesFine_require _ 2 visitor).bind fun w => ?_
  exact (filesFine_require _ 3 method).bind fun x => .ok _

theorem filesFine_readSection {α : Type} {decode : Value → Except LoadError α}
    (h : ∀ v, FilesFine (decode v)) (root : Value) (l : Layout) :
    FilesFine (readSection root l decode) := by
  rw [readSection]
  split
  · exact (h _).map some
  · exact .ok _

theorem filesFine_requireSection {α : Type} (l : Layout) (found : Option α) :
    FilesFine (requireSection l found) := by
  cases found with
  | none => exact .error rfl
  | some a => exact .ok a

theorem Config.filesFine_probe (root : Value) (i : Nat) : FilesFine (probe w root i) := by
  unfold probe
  split
  · exact (filesFine_readSection (PathSettings.filesFine_decode w) root _).map _
  · exact (filesFine_readSection (HeaderSettings.filesFine_decode w) root _).map _
  · exact (filesFine_readSection (ClassSettings.filesFine_decode w) root _).map _

theorem Config.filesFine_decode (root : Value) : FilesFine (decode w root) := by
  refine (filesFine_meet (filesFine_probe w root) w _ _).bind fun _ => ?_
  refine (filesFine_readSection (PathSettings.filesFine_decode w) root _).bind fun paths => ?_
  refine (filesFine_readSection (HeaderSettings.filesFine_decode w) root _).bind fun header => ?_
  refine (filesFine_readSection (ClassSettings.filesFine_decode w) root _).bind
    fun visitorClass => ?_
  refine (filesFine_requireSection _ paths).bind fun p => ?_
  refine (filesFine_requireSection _ header).bind fun q => ?_
  exact (filesFine_requireSection _ visitorClass).bind fun r => .ok _

namespace Loader

variable {l l' : Loader} {w : Walk} {files : FileTree} {e : LoadError}

theorem addLayer_eq_error_iff {v : Value} {layer : Except LoadError Layer} :
    addLayer w v layer = .error (.error e) ↔ layer = .error e := by
  cases layer with
  | error e' => simp [addLayer]
  | ok entries =>
      rw [addLayer]
      cases v.assignAll (w.entries entries) <;> simp

theorem overrides_ne_error (os : List (Key × Value)) (v : Value) :
    os.foldlM (addOverride w) v ≠ .error (.error e) := by
  intro h
  obtain ⟨before, o, after, u, -, -, ho⟩ := foldlM_eq_error_iff.mp h
  rw [addOverride] at ho
  split at ho <;> cases ho

/-- A source cannot be collected, and all before it can be, one over the other. -/
def FirstToFail (l : Loader) (w : Walk) (files : FileTree) (e : LoadError) : Prop :=
  ∃ before s after v, l.sources = before ++ s :: after ∧
    (ofSources before).layers w files = .ok v ∧ s.collect files = .error e

theorem layers_eq_error_iff : l.layers w files = .error (.error e) ↔ l.FirstToFail w files e := by
  rw [layers_eq_foldlM, foldlM_eq_error_iff]
  simp only [addLayer_eq_error_iff, FirstToFail, layers_eq_foldlM, ofSources]

theorem build_eq_error_iff (he : e.ofFile) :
    l.build w files = .error (.error e) ↔ l.layers w files = .error (.error e) := by
  refine ⟨fun h => ?_, build_eq_error⟩
  cases hv : l.layers w files with
  | error failure =>
      rw [build_eq_error hv] at h
      exact congrArg Except.error (Except.error.inj h)
  | ok v =>
      exfalso
      cases hu : (w.order l.overrides).foldlM (addOverride w) v with
      | error failure =>
          rw [build, merged, hv] at h
          change ((w.order l.overrides).foldlM (addOverride w) v >>= _) = _ at h
          rw [hu] at h
          obtain rfl := Except.error.inj h
          exact overrides_ne_error _ _ hu
      | ok u =>
          rw [build_eq_decode hv hu] at h
          cases hc : Config.decode w u with
          | ok c =>
              rw [hc] at h
              cases h
          | error e' =>
              rw [hc] at h
              obtain rfl := Failure.error.inj (Except.error.inj h)
              rw [Config.filesFine_decode w u e' hc] at he
              cases he

theorem FirstToFail.append (h : l.FirstToFail w files e) {more : List Source}
    (hsources : l'.sources = l.sources ++ more) : l'.FirstToFail w files e := by
  obtain ⟨before, s, after, v, hl, hv, hs⟩ := h
  refine ⟨before, s, after ++ more, v, ?_, hv, hs⟩
  rw [hsources, hl, List.append_assoc, List.cons_append]

/-- A file error is that of the first source to fail, and nothing asked of the loader later makes
it go or another one come in its place. -/
theorem build_file_error (he : e.ofFile) :
    (l.build w files = .error (.error e) ↔ l.FirstToFail w files e) ∧
      (l.build w files = .error (.error e) → ∀ (calls : List Call) l',
        calls.foldlM call l = .ok l' → l'.build w files = .error (.error e)) := by
  have hiff (l : Loader) : l.build w files = .error (.error e) ↔ l.FirstToFail w files e :=
    (build_eq_error_iff he).trans layers_eq_error_iff
  refine ⟨hiff l, fun h calls l' hcalls => ?_⟩
  rw [hiff] at h ⊢
  exact h.append (sources_of_calls hcalls)

def badFiles : FileTree :=
  .flat [("good.toml", "[class]\nname = \"C\"\n"), ("bad.toml", "[class\n")]

def missingSource : Loader := .ofSources [⟨"good", true⟩, ⟨"absent", true⟩]

def laterCalls : List Call :=
  [.file "bad.toml", .override "class.name" (.string "C"), .optionalFile "good.toml"]

def goodLayer : Layer := [("class", .table (some "good.toml") [("name", .string "C")])]

theorem collect_good : Source.collect badFiles ⟨"good", true⟩ = .ok goodLayer :=
  Source.collect_of_chars "/w/good.toml" rfl rfl rfl

theorem firstToFail_missingSource (w : Walk) :
    missingSource.FirstToFail w badFiles (.fileNotFound "absent") := by
  have htyped : Layer.Typed goodLayer := by decide
  obtain ⟨v, hv, -⟩ := addLayer_typed htyped w (defaults w)
  refine ⟨[⟨"good", true⟩], ⟨"absent", true⟩, [], v, rfl, ?_, ?_⟩
  · rw [layers_of_sources_singleton rfl, collect_good, hv]
  · exact Source.collect_of_absent (Source.find?_eq badFiles "absent") true

theorem build_file_error_missingSource :
    ∃ l', laterCalls.foldlM call missingSource = .ok l' ∧
      ∀ w, l'.build w badFiles = .error (.error (.fileNotFound "absent")) := by
  have he : (LoadError.fileNotFound "absent").ofFile := rfl
  obtain ⟨l', hl'⟩ := Option.isSome_iff_exists.mp
    (by decide : (laterCalls.foldlM call missingSource).toOption.isSome)
  have hcalls := eq_ok_of_toOption hl'
  refine ⟨l', hcalls, fun w => ?_⟩
  have h := (build_file_error he).1.mpr (firstToFail_missingSource w)
  exact (build_file_error he).2 h laterCalls l' hcalls

end Loader

end VisitorHeader.Settings
