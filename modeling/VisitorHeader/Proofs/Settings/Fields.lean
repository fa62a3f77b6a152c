import Mathlib.Data.Fintype.OfMap
import VisitorHeader.Proofs.Settings.Merging
import VisitorHeader.Settings.Config

namespace VisitorHeader.Settings

inductive Field where
  | input
  | output
  | includes
  | namespaceName
  | className
  | markerInterface
  | visitorInterface
  | visitMethod
deriving DecidableEq

instance : Fintype Field :=
  .ofList [.input, .output, .includes, .namespaceName, .className, .markerInterface,
    .visitorInterface, .visitMethod] (by intro f; cases f <;> decide)

namespace Value

def isText : Value → Bool
  | .string _ => true
  | _ => false

end Value

namespace Field

def layout : Field → Layout
  | input | output => pathsLayout
  | includes | namespaceName => headerLayout
  | className | markerInterface | visitorInterface | visitMethod => classLayout

def index : Field → Nat
  | input | includes | className => 0
  | output | namespaceName | markerInterface => 1
  | visitorInterface => 2
  | visitMethod => 3

def name (f : Field) : String := f.layout.fields.getD f.index ""

def key (f : Field) : Key := ⟨f.layout.name, [.entry f.name]⟩

def path (f : Field) : String := f.layout.name ++ "." ++ f.name

/-- The includes are texts in an array, every other field is a text. -/
def accepts : Field → Value → Bool
  | includes, .array _ items => items.all Value.isText
  | includes, _ => false
  | _, v => v.isText

theorem parse_path (f : Field) : Key.parse f.path = .ok f.key := by
  cases f <;> rfl

theorem lowerName_section (f : Field) : lowerName f.layout.name = f.layout.name := by
  cases f <;> rfl

theorem lowerName_name (f : Field) : lowerName f.name = f.name := by
  cases f <;> rfl

theorem lowerName_fields (f : Field) : ∀ n ∈ f.layout.fields, lowerName n = n := by
  revert f
  decide

theorem nodup_fields (f : Field) : f.layout.fields.Nodup := by
  revert f
  decide

theorem eq_of_names {f g : Field} (hs : f.layout.name = g.layout.name) (hn : f.name = g.name) :
    f = g := by
  revert hs hn
  cases f <;> cases g <;> decide

theorem key_injective {f g : Field} (h : f.key = g.key) : f = g := by
  obtain ⟨hs, hsteps⟩ := Key.mk.inj h
  exact eq_of_names hs (Step.entry.inj (List.cons.inj hsteps).1)

theorem path_injective {f g : Field} (h : f.path = g.path) : f = g := by
  have hkey : Key.parse f.path = Key.parse g.path := congrArg Key.parse h
  rw [f.parse_path, g.parse_path] at hkey
  exact key_injective (Except.ok.inj hkey)

end Field

namespace Value

def field? (v : Value) (f : Field) : Option Value := (v.get? f.layout.name).bind (·.get? f.name)

theorem onto_of_accepts {f : Field} {x : Value} (h : f.accepts x) (present : Option Value) :
    x.onto present = x := by
  cases x with
  | table => cases f <;> cases h
  | nil | boolean | integer | float | string | array => rfl

def setField (v : Value) (f : Field) (x : Value) : Value :=
  v.asTable.setEntry f.layout.name (put f.name x ((v.get? f.layout.name).getD .nil))

theorem assignKey_field (v : Value) (f : Field) (x : Value) :
    v.assignKey f.key x = .ok (v.setField f x) := by
  rw [setField, ← get?_asTable, ← f.lowerName_section]
  rfl

theorem field?_setField (v : Value) (f : Field) (x : Value) (g : Field) :
    (v.setField f x).field? g = if g = f then some (x.onto (v.field? f)) else v.field? g := by
  rw [setField, field?, get?_setEntry, get?_asTable]
  by_cases hs : g.layout.name = f.layout.name
  · have hinner : ((v.get? f.layout.name).getD .nil).get? g.name = v.field? g := by
      rw [field?, hs]
      cases v.get? f.layout.name <;> rfl
    rw [if_pos hs, Option.bind_some, get?_put, f.lowerName_name, hinner]
    by_cases hn : g.name = f.name
    · obtain rfl := Field.eq_of_names hs hn
      rw [if_pos rfl, if_pos rfl]
    · have hg : g ≠ f := fun h => hn (congrArg Field.name h)
      rw [if_neg hn, if_neg hg]
  · -- the field is in another section, which stays
    have hg : g ≠ f := fun h => hs (congrArg (·.layout.name) h)
    rw [if_neg hs, if_neg hg, field?]

end Value

namespace Layer

def field? (entries : Layer) (f : Field) : Option Value :=
  match get? entries f.layout.name with
  | some (.table _ inner) => get? inner f.name
  | _ => none

def isSection : Value → Bool
  | .table _ inner => decide (Distinct inner)
  | _ => false

/-- A layer whose sections are tables, without paths, and with one spelling for every name. -/
structure Tidy (entries : Layer) : Prop where
  entry : ∀ e ∈ entries, ¬ Key.isPath e.1
  distinct : Distinct entries
  table : ∀ f : Field, ∀ v ∈ get? entries f.layout.name, isSection v

instance (entries : Layer) : Decidable (Tidy entries) :=
  decidable_of_iff ((∀ e ∈ entries, ¬ Key.isPath e.1) ∧ Distinct entries ∧
      ∀ f : Field, ∀ v ∈ get? entries f.layout.name, isSection v)
    ⟨fun h => ⟨h.1, h.2.1, h.2.2⟩, fun h => ⟨h.entry, h.distinct, h.table⟩⟩

theorem field?_putAll {entries : Layer} (h : Tidy entries) (v : Value) (f : Field) :
    (Value.putAll entries v).field? f =
      match field? entries f with
      | some x => some (x.onto (v.field? f))
      | none => v.field? f := by
  rw [Value.field?, Value.get?_putAll h.distinct, field?]
  cases hs : get? entries f.layout.name with
  | none => rfl
  | some x =>
      have hx := h.table f x hs
      cases x with
      | table origin inner =>
          have hbelow : ((v.get? f.layout.name).getD .emptyTable).get? f.name = v.field? f := by
            rw [Value.field?]
            cases v.get? f.layout.name <;> rfl
          have hinner := Value.get?_putAll (of_decide_eq_true hx)
            ((v.get? f.layout.name).getD .emptyTable) f.name
          rw [hbelow] at hinner
          exact hinner
      | nil | boolean | integer | float | string | array => cases hx

end Layer

end VisitorHeader.Settings
