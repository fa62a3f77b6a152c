import Mathlib.Data.List.Nodup
import Mathlib.Data.List.Perm.Basic
import VisitorHeader.Program

namespace VisitorHeader.CommandLine

inductive Choice where
  | value (o : ValueOption) (v : String)
  | stdout
deriving DecidableEq

namespace Choice

def kind : Choice → Option ValueOption
  | value o _ => some o
  | stdout => none

def canonical : Choice → String
  | value o v => "--" ++ o.name ++ "=" ++ v
  | stdout => "--stdout"

end Choice

inductive Spells : Choice → List String → Prop
  | equals (o v) : Spells (.value o v) ["--" ++ o.name ++ "=" ++ v]
  | separate (o v) (hdash : v.toList.head? ≠ some '-') : Spells (.value o v) ["--" ++ o.name, v]
  | letterSeparate (o v) (hdash : v.toList.head? ≠ some '-') :
      Spells (.value o v) [.ofList ['-', o.letter], v]
  | letterEquals (o v) (hne : v ≠ "") :
      Spells (.value o v) [.ofList ('-' :: o.letter :: '=' :: v.toList)]
  | letterAttached (o v) (hne : v ≠ "") (hequals : v.toList.head? ≠ some '=')
      (hdash : v.toList.head? ≠ some '-') :
      Spells (.value o v) [.ofList ('-' :: o.letter :: v.toList)]
  | stdout : Spells .stdout ["--stdout"]

namespace Options

def choices (o : Options) : List Choice :=
  (o.config.map (.value .config)).toList ++ (o.input.map (.value .input)).toList ++
    (o.output.map (.value .output)).toList ++ if o.stdout then [.stdout] else []

def canonical (o : Options) : List String := o.choices.map Choice.canonical

def choose (o : Options) : Choice → Options
  | .value p v => o.setValue v p
  | .stdout => { o with stdout := true }

def has (o : Options) : Option ValueOption → Bool
  | some p => (o.value? p).isSome
  | .none => o.stdout

theorem has_choose (o : Options) (c : Choice) (k : Option ValueOption) :
    (o.choose c).has k = (decide (k = c.kind) || o.has k) := by
  cases c with
  | stdout => cases k <;> rfl
  | value p v =>
      cases k with
      | none => cases p <;> rfl
      | some q => cases p <;> cases q <;> rfl

theorem value?_of_has {o : Options} {p : ValueOption} (h : o.has (some p) = false) :
    o.value? p = .none := by
  simpa [has] using h

theorem choose_comm {c d : Choice} (h : c.kind ≠ d.kind) (o : Options) :
    (o.choose c).choose d = (o.choose d).choose c := by
  cases c with
  | stdout =>
      cases d with
      | stdout => exact absurd rfl h
      | value q w => cases q <;> rfl
  | value p v =>
      cases d with
      | stdout => cases p <;> rfl
      | value q w =>
          cases p <;> cases q <;> first | rfl | exact absurd rfl h

theorem nodup_choices (o : Options) : (o.choices.map Choice.kind).Nodup := by
  obtain ⟨input, output, config, stdout⟩ := o
  cases input <;> cases output <;> cases config <;> cases stdout <;> simp [choices, Choice.kind]

theorem foldl_choices (o : Options) : o.choices.foldl choose none = o := by
  obtain ⟨input, output, config, stdout⟩ := o
  cases input <;> cases output <;> cases config <;> cases stdout <;> rfl

theorem foldl_of_perm {o : Options} {cs : List Choice} (h : cs.Perm o.choices) :
    cs.foldl choose none = o := by
  have hkinds : (cs.map Choice.kind).Nodup := (h.map _).nodup_iff.mpr o.nodup_choices
  rw [h.foldl_eq' ?_ none, foldl_choices]
  intro c hc d hd o'
  by_cases hcd : c.kind = d.kind
  · rw [List.inj_on_of_nodup_map hkinds hc hd hcd]
  · exact choose_comm hcd o'

end Options

namespace Argument

theorem ofText_equals (o : ValueOption) (v : String) :
    ofText ("--" ++ o.name ++ "=" ++ v) = .long o.name (some v) := by
  cases o <;> simp [ofText, ValueOption.name]

theorem ofText_name (o : ValueOption) : ofText ("--" ++ o.name) = .long o.name none := by
  cases o <;> rfl

theorem ofText_letter (o : ValueOption) (cs : List Char) :
    ofText (.ofList ('-' :: o.letter :: cs)) = .short (o.letter :: cs) := by
  cases o <;> simp [ofText, ValueOption.letter]

theorem ofText_plain {v : String} (h : v.toList.head? ≠ some '-') : ofText v = .plain v := by
  rw [ofText]
  split
  next hv => exact absurd (by rw [hv]; rfl) h
  next hv => exact absurd (by rw [hv]; rfl) h
  next hv => exact absurd (by rw [hv]; rfl) h
  next => rfl

end Argument

namespace Reading

/-- Once the last option is settled, these options have been read. -/
def Settles (r : Reading) (o : Options) : Prop :=
  r.separated = false ∧ r.settle = .ok ⟨o, none, false⟩

theorem settles (o : Options) : Settles ⟨o, none, false⟩ o := ⟨rfl, rfl⟩

theorem settles_pending {o : Options} {p : ValueOption} (h : o.value? p = none) (v : String) :
    Settles ⟨o, some (p, some v), false⟩ (o.setValue v p) := by
  refine ⟨rfl, ?_⟩
  change give ⟨o, none, false⟩ p v = _
  rw [give, h]
  rfl

variable {r : Reading} {o : Options} {p : ValueOption}

theorem option_some (hr : r.Settles o) (h : o.value? p = none) (v : String) :
    r.option p (some v) = .ok ⟨o.setValue v p, none, false⟩ := by
  rw [option, hr.2]
  change give ⟨o, none, false⟩ p v = _
  rw [give, h]
  rfl

theorem option_none (hr : r.Settles o) (p : ValueOption) :
    r.option p none = .ok ⟨o, some (p, none), false⟩ := by
  rw [option, hr.2]
  rfl

theorem long_name (r : Reading) (p : ValueOption) (value : Option String) :
    r.long p.name value = (r.option p value).map .inl := by
  cases p <;> rfl

theorem short_letter (r : Reading) (p : ValueOption) (cs : List Char) :
    r.short (p.letter :: cs) = (r.option p (attached cs)).map .inl := by
  cases p <;> rfl

theorem attached_of_ne {cs : List Char} (hne : cs ≠ []) (h : cs.head? ≠ some '=') :
    attached cs = some (.ofList cs) := by
  unfold attached
  split
  next => exact absurd rfl hne
  next => exact absurd rfl h
  next => rfl

theorem next_long (hr : r.Settles o) {text name : String} {value : Option String}
    (h : Argument.ofText text = .long name value) : r.next text = r.long name value := by
  rw [next, h, hr.1]
  rfl

theorem next_short (hr : r.Settles o) {text : String} {letters : List Char}
    (h : Argument.ofText text = .short letters) : r.next text = r.short letters := by
  rw [next, h, hr.1]
  rfl

theorem all_attached (hr : r.Settles o) (hfree : o.value? p = none) {text v : String}
    (h : r.next text = (r.option p (some v)).map .inl) (rest : List String) :
    ∃ r', Settles r' (o.setValue v p) ∧ r.all (text :: rest) = r'.all rest := by
  rw [option_some hr hfree] at h
  refine ⟨_, settles (o.setValue v p), ?_⟩
  rw [all, h]
  rfl

theorem all_separate (hr : r.Settles o) (hfree : o.value? p = none) {text v : String}
    (h : r.next text = (r.option p none).map .inl) (hdash : v.toList.head? ≠ some '-')
    (rest : List String) :
    ∃ r', Settles r' (o.setValue v p) ∧ r.all (text :: v :: rest) = r'.all rest := by
  rw [option_none hr] at h
  refine ⟨_, settles_pending hfree v, ?_⟩
  have hv : next ⟨o, some (p, none), false⟩ v = .ok (.inl ⟨o, some (p, some v), false⟩) := by
    rw [next, Argument.ofText_plain hdash]
    rfl
  rw [all, h]
  change all ⟨o, some (p, none), false⟩ (v :: rest) = _
  rw [all, hv]

/-- However a choice is written, it is read if its option has not been chosen before. -/
theorem all_of_spells {c : Choice} {args : List String} (h : Spells c args) (hr : r.Settles o)
    (hfree : o.has c.kind = false) (rest : List String) :
    ∃ r', Settles r' (o.choose c) ∧ r.all (args ++ rest) = r'.all rest := by
  cases h with
  | equals p v =>
      apply all_attached hr (Options.value?_of_has hfree)
      rw [next_long hr (Argument.ofText_equals p v), long_name]
  | separate p v hdash =>
      apply all_separate hr (Options.value?_of_has hfree) _ hdash
      rw [next_long hr (Argument.ofText_name p), long_name]
  | letterSeparate p v hdash =>
      apply all_separate hr (Options.value?_of_has hfree) _ hdash
      rw [next_short hr (Argument.ofText_letter p []), short_letter]
      rfl
  | letterEquals p v hne =>
      apply all_attached hr (Options.value?_of_has hfree)
      rw [next_short hr (Argument.ofText_letter p _), short_letter, attached, String.ofList_toList]
  | letterAttached p v hne hequals hdash =>
      apply all_attached hr (Options.value?_of_has hfree)
      have hne' : v.toList ≠ [] := by simpa using hne
      rw [next_short hr (Argument.ofText_letter p _), short_letter, attached_of_ne hne' hequals,
        String.ofList_toList]
  | stdout =>
      have hnext : r.next "--stdout" = .ok (.inl ⟨{ o with stdout := true }, none, false⟩) := by
        have htext : Argument.ofText "--stdout" = .long "stdout" none := rfl
        have hswitch : r.long "stdout" none = r.switch .stdout := rfl
        rw [next_long hr htext, hswitch, switch, hr.2]
        change (if o.stdout = true then _ else _) = _
        rw [show o.stdout = false from hfree]
        rfl
      refine ⟨_, settles (o.choose .stdout), ?_⟩
      change r.all ("--stdout" :: rest) = _
      rw [all, hnext]
      rfl

theorem all_given {given : List (Choice × List String)} (hspells : ∀ g ∈ given, Spells g.1 g.2)
    (hkinds : (given.map (·.1.kind)).Nodup) (hr : r.Settles o)
    (hfree : ∀ g ∈ given, o.has g.1.kind = false) :
    r.all (given.flatMap Prod.snd) =
      .ok (.generate ((given.map Prod.fst).foldl Options.choose o)) := by
  induction given generalizing r o with
  | nil =>
      change r.finish = _
      rw [finish, hr.2]
      rfl
  | cons g given ih =>
      obtain ⟨hfirst, hrest⟩ := List.nodup_cons.mp hkinds
      obtain ⟨r', hr', hall⟩ := all_of_spells (hspells g (by simp)) hr (hfree g (by simp))
        (given.flatMap Prod.snd)
      rw [List.flatMap_cons, hall]
      apply ih (fun g' hg' => hspells g' (by simp [hg'])) hrest hr'
      -- what comes later is of another kind
      intro g' hg'
      have hne : g'.1.kind ≠ g.1.kind := fun h => hfirst (List.mem_map.mpr ⟨g', hg', h⟩)
      rw [Options.has_choose, hfree g' (by simp [hg']), decide_eq_false hne]
      rfl

end Reading

/-- Options in any order and however written are read as what they are. -/
theorem parse_given {o : Options} {given : List (Choice × List String)}
    (horder : (given.map Prod.fst).Perm o.choices) (hspells : ∀ g ∈ given, Spells g.1 g.2) :
    parse (given.flatMap Prod.snd) = .ok (.generate o) := by
  have hkinds : (given.map (·.1.kind)).Nodup := by
    have h := (horder.map Choice.kind).nodup_iff.mpr o.nodup_choices
    rwa [List.map_map] at h
  have hfree : ∀ g ∈ given, Options.none.has g.1.kind = false := by
    intro g hg
    cases g.1.kind with
    | none => rfl
    | some p => cases p <;> rfl
  have hstart : Reading.start.Settles .none := Reading.settles .none
  rw [parse, Reading.all_given hspells hkinds hstart hfree, Options.foldl_of_perm horder]

theorem spells_canonical (c : Choice) : Spells c [c.canonical] := by
  cases c with
  | value p v => exact .equals p v
  | stdout => exact .stdout

theorem parse_canonical (o : Options) : parse o.canonical = .ok (.generate o) := by
  have hargs : o.canonical = (o.choices.map fun c => (c, [c.canonical])).flatMap Prod.snd := by
    rw [List.flatMap_map, Options.canonical]
    exact List.map_eq_flatMap
  rw [hargs]
  apply parse_given
  · rw [List.map_map]
    exact .of_eq (List.map_id _)
  · intro g hg
    obtain ⟨c, -, rfl⟩ := List.mem_map.mp hg
    exact spells_canonical c

end VisitorHeader.CommandLine

namespace VisitorHeader.Program

open CommandLine Settings

theorem run_congr {args args' : List String} (h : CommandLine.parse args = CommandLine.parse args')
    (w : Walk) (patterns : Log.Patterns) (files : FileTree) (logSpec : Option String) :
    run w patterns files args logSpec = run w patterns files args' logSpec := by
  simp only [run, answer, h]

/-- A command line means its options: neither their order nor how they are written matters. -/
theorem run_given {o : Options} {given : List (Choice × List String)}
    (horder : (given.map Prod.fst).Perm o.choices) (hspells : ∀ g ∈ given, Spells g.1 g.2)
    (w : Walk) (patterns : Log.Patterns) (files : FileTree) (logSpec : Option String) :
    CommandLine.parse (given.flatMap Prod.snd) = .ok (.generate o) ∧
      run w patterns files (given.flatMap Prod.snd) logSpec =
        run w patterns files o.canonical logSpec := by
  have hparse := parse_given horder hspells
  exact ⟨hparse, run_congr (hparse.trans (parse_canonical o).symm) w patterns files logSpec⟩

def mixedOptions : Options := ⟨some "a=b c", some "", some "=é", true⟩

def mixedSpelling : List (Choice × List String) :=
  [(.value .output "", ["-o", ""]), (.stdout, ["--stdout"]), (.value .config "=é", ["-c==é"]),
    (.value .input "a=b c", ["-ia=b c"])]

def spacedInput : FileTree where
  entries := [(["a=b c"], .file "Leaf\n".toUTF8), (["=é"], .file "".toUTF8)]
  workingDirectory := []

theorem run_given_mixedSpelling :
    CommandLine.parse ["-o", "", "--stdout", "-c==é", "-ia=b c"] = .ok (.generate mixedOptions) ∧
      run .written .literal spacedInput ["-o", "", "--stdout", "-c==é", "-ia=b c"] none =
        run .written .literal spacedInput
          ["--config==é", "--input=a=b c", "--output=", "--stdout"] none := by
  have horder : (mixedSpelling.map Prod.fst).Perm mixedOptions.choices := by decide
  have hspells : ∀ g ∈ mixedSpelling, Spells g.1 g.2 := by
    intro g hg
    simp only [mixedSpelling, List.mem_cons, List.not_mem_nil, or_false] at hg
    rcases hg with rfl | rfl | rfl | rfl
    · exact .letterSeparate .output "" (by decide)
    · exact .stdout
    · exact .letterEquals .config "=é" (by decide)
    · exact .letterAttached .input "a=b c" (by decide) (by decide) (by decide)
  exact run_given horder hspells .written .literal spacedInput none

end VisitorHeader.Program
