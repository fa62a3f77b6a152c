import VisitorHeader.Proofs.Settings.Reading

namespace VisitorHeader.Settings

def Config.setting (c : Config) (origin : Option String) : Field → Value
  | .input => .string c.paths.input
  | .output => .string c.paths.output
  | .includes => .array origin (c.header.includes.map .string)
  | .namespaceName => .string c.header.namespaceName
  | .className => .string c.visitorClass.name
  | .markerInterface => .string c.visitorClass.markerInterface
  | .visitorInterface => .string c.visitorClass.visitorInterface
  | .visitMethod => .string c.visitorClass.visitMethod

theorem Config.accepts_setting (c : Config) (origin : Option String) (f : Field) :
    f.accepts (c.setting origin f) := by
  cases f with
  | includes => exact Value.all_isText_map c.header.includes
  | input | output | namespaceName | className | markerInterface | visitorInterface
  | visitMethod => rfl

theorem toOption_decodeText (key : String) (v : Value) :
    (decodeText key v).toOption = v.text? := by
  rw [decodeText]
  cases v.text? <;> rfl

theorem toOption_decodeTextsFrom (key : String) (i : Nat) (items : List Value) :
    (decodeTextsFrom key i items).toOption = items.mapM Value.text? := by
  induction items generalizing i with
  | nil => rfl
  | cons v items ih =>
      rw [decodeTextsFrom, List.mapM_cons, ← ih (i + 1), ← toOption_decodeText (elementKey key i)]
      cases decodeText (elementKey key i) v with
      | error e => rfl
      | ok s => cases decodeTextsFrom key (i + 1) items <;> rfl

theorem toOption_decodeTexts (key : String) (v : Value) :
    (decodeTexts key v).toOption = v.texts? := by
  cases v with
  | array origin items => exact toOption_decodeTextsFrom key 0 items
  | nil | boolean | integer | float | string | table => rfl

theorem read_eq_ok_iff {α : Type} {f : Field} {decode : String → Value → Except LoadError α}
    {get? : Value → Option α} (h : ∀ key v, (decode key v).toOption = get? v)
    {entries : List (String × Value)} {a : α} :
    f.layout.read f.index decode (.named entries) = .ok (some a) ↔
      (Entries.get? entries f.name).bind get? = some a := by
  rw [Layout.read, show f.layout.fields.getD f.index "" = f.name from rfl]
  cases Entries.get? entries f.name with
  | none => simp
  | some v =>
      rw [Option.bind_some, ← h (f.layout.name ++ "." ++ f.name)]
      simp only
      cases decode (f.layout.name ++ "." ++ f.name) v <;> simp [Except.map, Except.toOption]

/-- Whatever the order of the walk, nothing is told of where all fields can be decoded. -/
theorem meet_eq_ok {names : List String} {decode : Nat → Except LoadError Unit}
    (h : ∀ i, i < names.length → decode i = .ok ()) (w : Walk) (entries : Layer) :
    meet w names decode entries = .ok () := by
  rw [meet]
  induction w.order entries with
  | nil => rfl
  | cons e rest ih =>
      rw [List.forM_cons, ih]
      split
      next hname =>
        rw [h _ (List.idxOf_lt_length_of_mem hname)]
        rfl
      next => rfl

theorem Layout.meetFields_eq_ok {l : Layout} {entries : Layer} (w : Walk)
    (h : ∀ i, i < l.fields.length → l.probe i (.named entries) = .ok ()) :
    l.meetFields w (.named entries) = .ok () :=
  meet_eq_ok h w entries

theorem Layout.probe_of_text {l : Layout} {i : Nat} {fields : Fields} {found : Option String}
    (hlists : l.fields.getD i "" ∉ l.lists) (h : l.read i decodeText fields = .ok found) :
    l.probe i fields = .ok () := by
  rw [probe, if_neg hlists, h]
  rfl

theorem Layout.probe_of_texts {l : Layout} {i : Nat} {fields : Fields}
    {found : Option (List String)} (hlists : l.fields.getD i "" ∈ l.lists)
    (h : l.read i decodeTexts fields = .ok found) : l.probe i fields = .ok () := by
  rw [probe, if_pos hlists, h]
  rfl

variable {w : Walk} {root : Value}

/-- Where there is a field there is the table around it. -/
theorem Value.exists_section {f : Field} {x : Value} (h : root.field? f = some x) :
    ∃ origin entries, root.get? f.layout.name = some (.table origin entries) ∧
      ∀ g, g.layout = f.layout → root.field? g = Entries.get? entries g.name := by
  obtain ⟨v, hv, hx⟩ := Option.bind_eq_some_iff.mp h
  cases v with
  | table origin entries =>
      refine ⟨origin, entries, hv, fun g hg => ?_⟩
      rw [field?, hg, hv]
      rfl
  | nil | boolean | integer | float | string | array => cases hx

theorem readSection_eq_ok {α : Type} {l : Layout} {decode : Value → Except LoadError α} {v : Value}
    {a : α} (hv : root.get? l.name = some v) (ha : decode v = .ok a) :
    readSection root l decode = .ok (some a) := by
  rw [readSection, hv]
  simp only [ha]
  rfl

theorem exists_section_of_bind {α : Type} {get? : Value → Option α} {f : Field} {a : α}
    (h : (root.field? f).bind get? = some a) :
    ∃ origin entries, root.get? f.layout.name = some (.table origin entries) ∧
      ∀ g, g.layout = f.layout → root.field? g = Entries.get? entries g.name := by
  obtain ⟨x, hx, -⟩ := Option.bind_eq_some_iff.mp h
  exact Value.exists_section hx

theorem readSection_paths {s : PathSettings}
    (hinput : (root.field? .input).bind Value.text? = some s.input)
    (houtput : (root.field? .output).bind Value.text? = some s.output) :
    readSection root pathsLayout (PathSettings.decode w) = .ok (some s) := by
  obtain ⟨origin, entries, hsection, hfields⟩ := exists_section_of_bind hinput
  rw [hfields .input rfl] at hinput
  rw [hfields .output rfl] at houtput
  have hi : pathsLayout.read 0 decodeText (.named entries) = .ok (some s.input) :=
    (read_eq_ok_iff toOption_decodeText).mpr hinput
  have ho : pathsLayout.read 1 decodeText (.named entries) = .ok (some s.output) :=
    (read_eq_ok_iff toOption_decodeText).mpr houtput
  have hmeet : pathsLayout.meetFields w (.named entries) = .ok () := by
    apply Layout.meetFields_eq_ok
    rintro (_ | _ | i) hlt
    · exact Layout.probe_of_text (by decide) hi
    · exact Layout.probe_of_text (by decide) ho
    · change i + 2 < 2 at hlt
      omega
  refine readSection_eq_ok hsection ?_
  simp only [PathSettings.decode, Layout.fieldsOf, bind, Except.bind, hmeet, hi, ho]
  rfl

theorem readSection_header {s : HeaderSettings}
    (hincludes : (root.field? .includes).bind Value.texts? = some s.includes)
    (hnamespace : (root.field? .namespaceName).bind Value.text? = some s.namespaceName) :
    readSection root headerLayout (HeaderSettings.decode w) = .ok (some s) := by
  obtain ⟨origin, entries, hsection, hfields⟩ := exists_section_of_bind hincludes
  rw [hfields .includes rfl] at hincludes
  rw [hfields .namespaceName rfl] at hnamespace
  have hi : headerLayout.read 0 decodeTexts (.named entries) = .ok (some s.includes) :=
    (read_eq_ok_iff toOption_decodeTexts).mpr hincludes
  have hn : headerLayout.read 1 decodeText (.named entries) = .ok (some s.namespaceName) :=
    (read_eq_ok_iff toOption_decodeText).mpr hnamespace
  have hmeet : headerLayout.meetFields w (.named entries) = .ok () := by
    apply Layout.meetFields_eq_ok
    rintro (_ | _ | i) hlt
    · exact Layout.probe_of_texts (by decide) hi
    · exact Layout.probe_of_text (by decide) hn
    · change i + 2 < 2 at hlt
      omega
  refine readSection_eq_ok hsection ?_
  simp only [HeaderSettings.decode, Layout.fieldsOf, bind, Except.bind, hmeet, hi, hn]
  rfl

theorem readSection_class {s : ClassSettings}
    (hname : (root.field? .className).bind Value.text? = some s.name)
    (hmarker : (root.field? .markerInterface).bind Value.text? = some s.markerInterface)
    (hvisitor : (root.field? .visitorInterface).bind Value.text? = some s.visitorInterface)
    (hmethod : (root.field? .visitMethod).bind Value.text? = some s.visitMethod) :
    readSection root classLayout (ClassSettings.decode w) = .ok (some s) := by
  obtain ⟨origin, entries, hsection, hfields⟩ := exists_section_of_bind hname
  rw [hfields .className rfl] at hname
  rw [hfields .markerInterface rfl] at hmarker
  rw [hfields .visitorInterface rfl] at hvisitor
  rw [hfields .visitMethod rfl] at hmethod
  have hn : classLayout.read 0 decodeText (.named entries) = .ok (some s.name) :=
    (read_eq_ok_iff toOption_decodeText).mpr hname
  have hm : classLayout.read 1 decodeText (.named entries) = .ok (some s.markerInterface) :=
    (read_eq_ok_iff toOption_decodeText).mpr hmarker
  have hv : classLayout.read 2 decodeText (.named entries) = .ok (some s.visitorInterface) :=
    (read_eq_ok_iff toOption_decodeText).mpr hvisitor
  have hv' : classLayout.read 3 decodeText (.named entries) = .ok (some s.visitMethod) :=
    (read_eq_ok_iff toOption_decodeText).mpr hmethod
  have hmeet : classLayout.meetFields w (.named entries) = .ok () := by
    apply Layout.meetFields_eq_ok
    rintro (_ | _ | _ | _ | i) hlt
    · exact Layout.probe_of_text (by decide) hn
    · exact Layout.probe_of_text (by decide) hm
    · exact Layout.probe_of_text (by decide) hv
    · exact Layout.probe_of_text (by decide) hv'
    · change i + 4 < 4 at hlt
      omega
  refine readSection_eq_ok hsection ?_
  simp only [ClassSettings.decode, Layout.fieldsOf, bind, Except.bind, hmeet, hn, hm, hv, hv']
  rfl

theorem text?_of_read? {f : Field} {s : String} (hf : ∀ v, f.read? v = v.text?.map .string)
    (h : (root.field? f).bind f.read? = some (.string s)) :
    (root.field? f).bind Value.text? = some s := by
  obtain ⟨x, hx, hread⟩ := Option.bind_eq_some_iff.mp h
  rw [hf] at hread
  obtain ⟨t, ht, hstring⟩ := Option.map_eq_some_iff.mp hread
  rw [hx, Option.bind_some, ht, Value.string.inj hstring]

theorem texts?_of_read? {ss : List String} {origin : Option String}
    (h : (root.field? .includes).bind (Field.read? .includes) =
      some (.array origin (ss.map .string))) :
    (root.field? .includes).bind Value.texts? = some ss := by
  obtain ⟨x, hx, hread⟩ := Option.bind_eq_some_iff.mp h
  obtain ⟨ts, hts, harray⟩ := Option.map_eq_some_iff.mp hread
  have hmap : ts.map Value.string = ss.map Value.string := (Value.array.inj harray).2
  rw [hx, Option.bind_some, hts, List.map_injective_iff.mpr (fun _ _ => Value.string.inj) hmap]

theorem Config.decode_of_read {c : Config}
    (h : ∀ f, ∃ origin, (root.field? f).bind f.read? = some (c.setting origin f)) :
    decode w root = .ok c := by
  have text {f : Field} {s : String} (hread : ∀ v, f.read? v = v.text?.map .string)
      (hs : ∀ origin, c.setting origin f = .string s) :
      (root.field? f).bind Value.text? = some s := by
    obtain ⟨origin, hf⟩ := h f
    exact text?_of_read? hread (hf.trans (congrArg some (hs origin)))
  obtain ⟨origin, hincludes⟩ := h .includes
  have hp : readSection root pathsLayout (PathSettings.decode w) = .ok (some c.paths) :=
    readSection_paths (text (fun _ => rfl) fun _ => rfl) (text (fun _ => rfl) fun _ => rfl)
  have hh : readSection root headerLayout (HeaderSettings.decode w) = .ok (some c.header) :=
    readSection_header (texts?_of_read? hincludes) (text (fun _ => rfl) fun _ => rfl)
  have hc : readSection root classLayout (ClassSettings.decode w) = .ok (some c.visitorClass) :=
    readSection_class (text (fun _ => rfl) fun _ => rfl) (text (fun _ => rfl) fun _ => rfl)
      (text (fun _ => rfl) fun _ => rfl) (text (fun _ => rfl) fun _ => rfl)
  have hmeet : meet w sectionNames (probe w root) root.entries = .ok () := by
    apply meet_eq_ok
    rintro (_ | _ | _ | i) hlt
    · rw [probe, hp]
      rfl
    · rw [probe, hh]
      rfl
    · rw [probe, hc]
      · rfl
      · simp
      · simp
    · change i + 3 < 3 at hlt
      omega
  simp only [decode, bind, Except.bind, hmeet, hp, hh, hc]
  rfl

theorem Config.decode_eq_ok {c : Config}
    (h : ∀ f, ∃ origin, root.field? f = some (c.setting origin f)) : decode w root = .ok c := by
  apply decode_of_read
  intro f
  obtain ⟨origin, hf⟩ := h f
  exact ⟨origin, by rw [hf, Option.bind_some, Field.read?_of_accepts (c.accepts_setting origin f)]⟩

/-- Settings of the right kinds are those of a configuration. -/
theorem Config.exists_setting {settings : Field → Value} (h : ∀ f : Field, f.accepts (settings f)) :
    ∃ c : Config, ∀ f, ∃ origin, settings f = c.setting origin f := by
  obtain ⟨input, hinput⟩ := Value.exists_of_isText (h .input)
  obtain ⟨output, houtput⟩ := Value.exists_of_isText (h .output)
  obtain ⟨origin, includes, hincludes⟩ := Field.exists_of_accepts_includes (h .includes)
  obtain ⟨namespaceName, hnamespace⟩ := Value.exists_of_isText (h .namespaceName)
  obtain ⟨name, hname⟩ := Value.exists_of_isText (h .className)
  obtain ⟨marker, hmarker⟩ := Value.exists_of_isText (h .markerInterface)
  obtain ⟨visitor, hvisitor⟩ := Value.exists_of_isText (h .visitorInterface)
  obtain ⟨method, hmethod⟩ := Value.exists_of_isText (h .visitMethod)
  refine ⟨⟨⟨input, output⟩, ⟨includes, namespaceName⟩, ⟨name, marker, visitor, method⟩⟩,
    fun f => ⟨origin, ?_⟩⟩
  cases f <;> assumption

theorem Layout.eq_some_of_require {α : Type} {l : Layout} {i : Nat} {found : Option α} {a : α}
    (h : l.require i found = .ok a) : found = some a := by
  cases found with
  | none => cases h
  | some b => exact congrArg some (Except.ok.inj h)

theorem PathSettings.read_of_decode {v : Value} {s : PathSettings} (h : decode w v = .ok s) :
    ∃ fields, pathsLayout.fieldsOf v = .ok fields ∧
      pathsLayout.read 0 decodeText fields = .ok (some s.input) ∧
      pathsLayout.read 1 decodeText fields = .ok (some s.output) := by
  obtain ⟨fields, hfields, h⟩ := exists_of_bind_eq_ok h
  obtain ⟨-, -, h⟩ := exists_of_bind_eq_ok h
  obtain ⟨input, hinput, h⟩ := exists_of_bind_eq_ok h
  obtain ⟨output, houtput, h⟩ := exists_of_bind_eq_ok h
  obtain ⟨i, hi, h⟩ := exists_of_bind_eq_ok h
  obtain ⟨o, ho, h⟩ := exists_of_bind_eq_ok h
  obtain rfl := Except.ok.inj h
  obtain rfl := Layout.eq_some_of_require hi
  obtain rfl := Layout.eq_some_of_require ho
  exact ⟨fields, hfields, hinput, houtput⟩

theorem HeaderSettings.read_of_decode {v : Value} {s : HeaderSettings} (h : decode w v = .ok s) :
    ∃ fields, headerLayout.fieldsOf v = .ok fields ∧
      headerLayout.read 0 decodeTexts fields = .ok (some s.includes) ∧
      headerLayout.read 1 decodeText fields = .ok (some s.namespaceName) := by
  obtain ⟨fields, hfields, h⟩ := exists_of_bind_eq_ok h
  obtain ⟨-, -, h⟩ := exists_of_bind_eq_ok h
  obtain ⟨includes, hincludes, h⟩ := exists_of_bind_eq_ok h
  obtain ⟨namespaceName, hnamespace, h⟩ := exists_of_bind_eq_ok h
  obtain ⟨i, hi, h⟩ := exists_of_bind_eq_ok h
  obtain ⟨n, hn, h⟩ := exists_of_bind_eq_ok h
  obtain rfl := Except.ok.inj h
  obtain rfl := Layout.eq_some_of_require hi
  obtain rfl := Layout.eq_some_of_require hn
  exact ⟨fields, hfields, hincludes, hnamespace⟩

theorem ClassSettings.read_of_decode {v : Value} {s : ClassSettings} (h : decode w v = .ok s) :
    ∃ fields, classLayout.fieldsOf v = .ok fields ∧
      classLayout.read 0 decodeText fields = .ok (some s.name) ∧
      classLayout.read 1 decodeText fields = .ok (some s.markerInterface) ∧
      classLayout.read 2 decodeText fields = .ok (some s.visitorInterface) ∧
      classLayout.read 3 decodeText fields = .ok (some s.visitMethod) := by
  obtain ⟨fields, hfields, h⟩ := exists_of_bind_eq_ok h
  obtain ⟨-, -, h⟩ := exists_of_bind_eq_ok h
  obtain ⟨name, hname, h⟩ := exists_of_bind_eq_ok h
  obtain ⟨marker, hmarker, h⟩ := exists_of_bind_eq_ok h
  obtain ⟨visitor, hvisitor, h⟩ := exists_of_bind_eq_ok h
  obtain ⟨method, hmethod, h⟩ := exists_of_bind_eq_ok h
  obtain ⟨n, hn, h⟩ := exists_of_bind_eq_ok h
  obtain ⟨m, hm, h⟩ := exists_of_bind_eq_ok h
  obtain ⟨w, hw, h⟩ := exists_of_bind_eq_ok h
  obtain ⟨x, hx, h⟩ := exists_of_bind_eq_ok h
  obtain rfl := Except.ok.inj h
  obtain rfl := Layout.eq_some_of_require hn
  obtain rfl := Layout.eq_some_of_require hm
  obtain rfl := Layout.eq_some_of_require hw
  obtain rfl := Layout.eq_some_of_require hx
  exact ⟨fields, hfields, hname, hmarker, hvisitor, hmethod⟩

variable {c : Config}

theorem exists_of_readSection {α : Type} {l : Layout} {decode : Value → Except LoadError α}
    {found : Option α} {a : α} (h : readSection root l decode = .ok found)
    (ha : requireSection l found = .ok a) : ∃ v, root.get? l.name = some v ∧ decode v = .ok a := by
  cases found with
  | none => cases ha
  | some b =>
      obtain rfl := Except.ok.inj ha
      rw [readSection] at h
      split at h
      next v hv =>
        cases hd : decode v with
        | error e =>
            rw [hd] at h
            cases h
        | ok b' =>
            rw [hd] at h
            obtain rfl := Option.some.inj (Except.ok.inj h)
            exact ⟨v, hv, hd⟩
      next => cases h

theorem Config.sections_of_decode (h : decode w root = .ok c) :
    (∃ v, root.get? pathsLayout.name = some v ∧ PathSettings.decode w v = .ok c.paths) ∧
      (∃ v, root.get? headerLayout.name = some v ∧ HeaderSettings.decode w v = .ok c.header) ∧
      ∃ v, root.get? classLayout.name = some v ∧ ClassSettings.decode w v = .ok c.visitorClass := by
  obtain ⟨-, -, h⟩ := exists_of_bind_eq_ok h
  obtain ⟨paths, hpaths, h⟩ := exists_of_bind_eq_ok h
  obtain ⟨header, hheader, h⟩ := exists_of_bind_eq_ok h
  obtain ⟨visitorClass, hclass, h⟩ := exists_of_bind_eq_ok h
  obtain ⟨p, hp, h⟩ := exists_of_bind_eq_ok h
  obtain ⟨q, hq, h⟩ := exists_of_bind_eq_ok h
  obtain ⟨r, hr, h⟩ := exists_of_bind_eq_ok h
  obtain rfl := Except.ok.inj h
  exact ⟨exists_of_readSection hpaths hp, exists_of_readSection hheader hq,
    exists_of_readSection hclass hr⟩

theorem Value.named_of_field? {f : Field} {x v : Value} {fields : Fields}
    (hx : root.field? f = some x) (hv : root.get? f.layout.name = some v)
    (hfields : f.layout.fieldsOf v = .ok fields) :
    ∃ entries, fields = .named entries ∧ Entries.get? entries f.name = some x := by
  obtain ⟨origin, entries, hsection, hget⟩ := exists_section hx
  obtain rfl := Option.some.inj (hv.symm.trans hsection)
  obtain rfl := Except.ok.inj hfields
  exact ⟨entries, rfl, (hget f rfl).symm.trans hx⟩

theorem get?_of_read {α : Type} {f : Field} {decode : String → Value → Except LoadError α}
    {get? : Value → Option α} {x v : Value} {fields : Fields} {a : α}
    (h : ∀ key v, (decode key v).toOption = get? v) (hx : root.field? f = some x)
    (hv : root.get? f.layout.name = some v) (hfields : f.layout.fieldsOf v = .ok fields)
    (hread : f.layout.read f.index decode fields = .ok (some a)) : get? x = some a := by
  obtain ⟨entries, rfl, hget⟩ := Value.named_of_field? hx hv hfields
  have ha := (read_eq_ok_iff h).mp hread
  rwa [hget] at ha

/-- A decoded configuration says of a field what the settings say that it was decoded from. -/
theorem Config.read?_of_decode (h : decode w root = .ok c) {f : Field} {x : Value}
    (hx : root.field? f = some x) : ∃ origin, f.read? x = some (c.setting origin f) := by
  obtain ⟨⟨p, hp, hpaths⟩, ⟨q, hq, hheader⟩, ⟨r, hr, hclass⟩⟩ := sections_of_decode h
  obtain ⟨_, hp', hinput, houtput⟩ := PathSettings.read_of_decode hpaths
  obtain ⟨_, hq', hincludes, hnamespace⟩ := HeaderSettings.read_of_decode hheader
  obtain ⟨_, hr', hname, hmarker, hvisitor, hmethod⟩ := ClassSettings.read_of_decode hclass
  have text {s : String} (hs : x.text? = some s) : x.text?.map Value.string = some (.string s) := by
    rw [hs]
    rfl
  cases f with
  | input => exact ⟨none, text (get?_of_read toOption_decodeText hx hp hp' hinput)⟩
  | output => exact ⟨none, text (get?_of_read toOption_decodeText hx hp hp' houtput)⟩
  | includes =>
      refine ⟨x.origin?, ?_⟩
      rw [Field.read?, get?_of_read toOption_decodeTexts hx hq hq' hincludes]
      rfl
  | namespaceName => exact ⟨none, text (get?_of_read toOption_decodeText hx hq hq' hnamespace)⟩
  | className => exact ⟨none, text (get?_of_read toOption_decodeText hx hr hr' hname)⟩
  | markerInterface => exact ⟨none, text (get?_of_read toOption_decodeText hx hr hr' hmarker)⟩
  | visitorInterface => exact ⟨none, text (get?_of_read toOption_decodeText hx hr hr' hvisitor)⟩
  | visitMethod => exact ⟨none, text (get?_of_read toOption_decodeText hx hr hr' hmethod)⟩

theorem Config.setting_of_decode (h : decode w root = .ok c) {f : Field} {x : Value}
    (hx : root.field? f = some x) (haccepts : f.accepts x) :
    ∃ origin, x = c.setting origin f := by
  obtain ⟨origin, hf⟩ := read?_of_decode h hx
  rw [Field.read?_of_accepts haccepts] at hf
  exact ⟨origin, Option.some.inj hf⟩

end VisitorHeader.Settings
