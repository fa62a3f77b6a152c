import VisitorHeader.Proofs.Files.Writing
import VisitorHeader.Proofs.Settings.Layering
import VisitorHeader.Proofs.Toml.Lines

namespace VisitorHeader.Settings

namespace Config

def lines (c : Config) : List Toml.Line := [
  .header "paths",
  .pair "input" (.text c.paths.input),
  .pair "output" (.text c.paths.output),
  .header "header",
  .pair "includes" (.texts c.header.includes),
  .pair "namespace" (.text c.header.namespaceName),
  .header "class",
  .pair "name" (.text c.visitorClass.name),
  .pair "marker_interface" (.text c.visitorClass.markerInterface),
  .pair "visitor_interface" (.text c.visitorClass.visitorInterface),
  .pair "visit_method" (.text c.visitorClass.visitMethod)]

def tables (c : Config) : List (String × Toml.Value) := [
  ("paths", .table [
    ("input", .string c.paths.input),
    ("output", .string c.paths.output)]),
  ("header", .table [
    ("includes", .array (c.header.includes.map .string)),
    ("namespace", .string c.header.namespaceName)]),
  ("class", .table [
    ("name", .string c.visitorClass.name),
    ("marker_interface", .string c.visitorClass.markerInterface),
    ("visitor_interface", .string c.visitorClass.visitorInterface),
    ("visit_method", .string c.visitorClass.visitMethod)])]

theorem isBareName_lines (c : Config) : ∀ l ∈ c.lines, Toml.isBareName l.name := by
  simp only [lines, List.forall_mem_cons, Toml.Line.name]
  decide

theorem parse?_lines (c : Config) (w : Toml.Spelling) :
    Toml.parse? (w.document c.lines) = some c.tables := by
  rw [w.parse?_document c.isBareName_lines]
  rfl

example : Toml.Spelling.escaped.document
    ((lines ⟨⟨"a\tb", ""⟩, ⟨["x.h", "\""], "N"⟩, ⟨"C", "M", "V", "v"⟩⟩).take 5) =
      "[paths]\ninput = \"a\\u0009b\"\noutput = \"\"\n[header]\nincludes = [\"x.h\", \"\\\"\"]\n" :=
  rfl

def layer (c : Config) (origin : Option String) : Layer := Value.entriesOfToml origin c.tables

variable (c : Config) (origin : Option String)

theorem itemsOfToml_map_string (ss : List String) :
    Value.itemsOfToml origin (ss.map .string) = ss.map .string := by
  induction ss with
  | nil => rfl
  | cons s ss ih =>
      rw [List.map_cons, Value.itemsOfToml, ih]
      rfl

theorem names_layer : (c.layer origin).map Prod.fst = ["paths", "header", "class"] := rfl

theorem lowerName_layer : ∀ n ∈ (c.layer origin).map Prod.fst, lowerName n = n := by
  rw [names_layer]
  decide

theorem section_layer (f : Field) :
    ∃ inner, Layer.get? (c.layer origin) f.layout.name = some (.table origin inner) ∧
      inner.map Prod.fst = f.layout.fields ∧
      Entries.get? inner f.name = some (c.setting origin f) := by
  rw [Layer.get?_of_lower (c.lowerName_layer origin)]
  cases f with
  | includes =>
      rw [setting, ← itemsOfToml_map_string origin]
      exact ⟨_, rfl, rfl, rfl⟩
  | input | output | namespaceName | className | markerInterface | visitorInterface
  | visitMethod => exact ⟨_, rfl, rfl, rfl⟩

theorem field?_layer (f : Field) :
    Layer.field? (c.layer origin) f = some (c.setting origin f) := by
  obtain ⟨inner, hsection, hnames, hfield⟩ := c.section_layer origin f
  have hlower : ∀ n ∈ inner.map Prod.fst, lowerName n = n := hnames ▸ f.lowerName_fields
  rw [Layer.field?, hsection]
  exact (Layer.get?_of_lower hlower f.name).trans hfield

theorem typed_layer : Layer.Typed (c.layer origin) where
  entry e he := by
    have hnames : ∀ n ∈ (c.layer origin).map Prod.fst, ¬ Key.isPath n := by
      rw [names_layer]
      decide
    exact hnames e.1 (List.mem_map_of_mem he)
  distinct := by
    apply Layer.distinct_of_lower (c.lowerName_layer origin)
    rw [names_layer]
    decide
  table f v hv := by
    obtain ⟨inner, hsection, hnames, -⟩ := c.section_layer origin f
    rw [hsection, Option.mem_some_iff] at hv
    rw [← hv]
    exact decide_eq_true (Layer.distinct_of_lower (hnames ▸ f.lowerName_fields)
      (hnames ▸ f.nodup_fields))
  field f x hx := by
    rw [field?_layer, Option.mem_some_iff] at hx
    rw [← hx]
    exact c.accepts_setting origin f

end Config

namespace Loader

variable {l l' : Loader} {w : Walk} {files : FileTree} {v : Value}

theorem build_layer {c : Config} {s : Source} {origin : Option String}
    (hv : l.layers w files = .ok v) (hs : s.collect files = .ok (c.layer origin))
    (hsources : l'.sources = l.sources ++ [s]) (hoverrides : l'.overrides = []) :
    l'.build w files = .ok c := by
  obtain ⟨u, hu, hfields⟩ := addLayer_typed (c.typed_layer origin) w v
  have hlayers : l'.layers w files = .ok u := by
    rw [layers_of_sources_concat hv hsources, hs, hu]
  have hnone : (w.order l'.overrides).foldlM (addOverride w) u = .ok u := by
    rw [hoverrides, (w.perm []).eq_nil]
    rfl
  refine build_of_fields (merged_eq_ok hlayers hnone) fun f => ⟨origin, ?_⟩
  rw [hfields, c.field?_layer, Option.some_or]

/-- A file that gives every field, added last, gives back every text as it was. -/
theorem build_document {path found : String} (c : Config) (spelling : Toml.Spelling)
    (hoverrides : l.overrides = []) (hv : l.layers w files = .ok v)
    (hfound : Source.find? files path = some found)
    (hcontent : files.readBytes found = .ok (spelling.document c.lines).toUTF8) :
    (l.withFile path).build w files = .ok c ∧ (l.withOptionalFile path).build w files = .ok c ∧
      c.template = {
        includes := c.header.includes
        namespaceName := c.header.namespaceName
        className := c.visitorClass.name
        markerInterface := c.visitorClass.markerInterface
        visitorInterface := c.visitorClass.visitorInterface
        visitMethod := c.visitorClass.visitMethod } := by
  have hcollect (required : Bool) : Source.collect files ⟨path, required⟩ =
      .ok (c.layer (some (Source.origin files found))) := by
    rw [Source.collect_of_text hfound hcontent, Source.entriesOf, c.parse?_lines spelling]
    rfl
  exact ⟨build_layer hv (hcollect true) rfl hoverrides,
    build_layer hv (hcollect false) rfl hoverrides, rfl⟩

def trickyConfig : Config where
  paths := ⟨"", "a \"b\" \\c\\"⟩
  header := ⟨["true", "", "1_0", "class.name[0]", "  "], "\n\t\r\x00\x7f"⟩
  visitorClass := ⟨"Ö🙂", "\"\"\"", "# nil", "[class]\nname = 1"⟩

def displacedFiles : FileTree :=
  .flat [("odd.toml", "class = \"gone\"\npaths = [1, 2]\n[header.includes]\nx = 1\n"),
    ("exact.toml", Toml.Spelling.escaped.document trickyConfig.lines)]

def oddLayer : Layer :=
  [("class", .string "gone"), ("paths", .array (some "odd.toml") [.integer 1, .integer 2]),
    ("header", .table (some "odd.toml")
      [("includes", .table (some "odd.toml") [("x", .integer 1)])])]

theorem build_document_displaced :
    ((new.withFile "odd").withOptionalFile "exact").build .written displacedFiles =
      .ok trickyConfig := by
  have hcollect : Source.collect displacedFiles ⟨"odd", true⟩ = .ok oddLayer :=
    Source.collect_of_chars "/w/odd.toml" rfl rfl rfl
  have hlayers : (new.withFile "odd").layers .written displacedFiles =
      .ok (.putAll oddLayer (defaults .written)) := by
    rw [layers_of_sources_singleton rfl, hcollect, addLayer,
      Value.assignAll_eq_putAll (by decide)]
    rfl
  have hfound : Source.find? displacedFiles "exact" = some "/w/exact.toml" := by
    rw [Source.find?_eq]
    rfl
  exact (build_document trickyConfig .escaped rfl hlayers hfound rfl).2.1

end Loader

end VisitorHeader.Settings
