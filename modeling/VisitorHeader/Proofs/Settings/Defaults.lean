import VisitorHeader.Proofs.Settings.Collecting
import VisitorHeader.Proofs.Settings.Walking

namespace VisitorHeader.Settings

namespace Value

mutual
def same : Value → Value → Bool
  | .nil, .nil => true
  | .boolean a, .boolean b => a == b
  | .integer m, .integer n => m == n
  | .float x, .float y => decide (x = y)
  | .string s, .string t => s == t
  | .array o vs, .array p ws => o == p && sameItems vs ws
  | .table o es, .table p fs => o == p && sameEntries es fs
  | _, _ => false
def sameItems : List Value → List Value → Bool
  | [], [] => true
  | v :: vs, w :: ws => same v w && sameItems vs ws
  | _, _ => false
def sameEntries : List (String × Value) → List (String × Value) → Bool
  | [], [] => true
  | (m, v) :: es, (n, w) :: fs => m == n && same v w && sameEntries es fs
  | _, _ => false
end

mutual
theorem same_iff (v w : Value) : same v w = true ↔ v = w := by
  cases v with
  | array o vs =>
      cases w <;> simp [same, sameItems_iff vs]
  | table o es =>
      cases w <;> simp [same, sameEntries_iff es]
  | nil | boolean | integer | float | string =>
      cases w <;> simp [same]
theorem sameItems_iff (vs ws : List Value) : sameItems vs ws = true ↔ vs = ws := by
  cases vs with
  | nil => cases ws <;> simp [sameItems]
  | cons v vs => cases ws <;> simp [sameItems, same_iff v, sameItems_iff vs]
theorem sameEntries_iff (es fs : List (String × Value)) : sameEntries es fs = true ↔ es = fs := by
  cases es with
  | nil => cases fs <;> simp [sameEntries]
  | cons e es => cases fs <;> simp [sameEntries, Prod.ext_iff, same_iff e.2, sameEntries_iff es]
end

instance : DecidableEq Value := fun v w => decidable_of_iff (same v w = true) (same_iff v w)

end Value

def defaultsLayer : Layer := [
  ("paths", .table none [
    ("input", .string "NodesList.txt"),
    ("output", .string "AllNodesVisitor.h")]),
  ("header", .table none [
    ("includes", .array none [.string "ASTVisitor.h", .string "ASTNodes.h"]),
    ("namespace", .string "Ryntra::Compiler")]),
  ("class", .table none [
    ("name", .string "AllNodesVisitor"),
    ("marker_interface", .string "IVisitor"),
    ("visitor_interface", .string "Visitor"),
    ("visit_method", .string "visit")])]

theorem tidy_defaultsLayer : Layer.Tidy defaultsLayer := by decide

theorem eq_ok_of_toOption {α ε : Type} {r : Except ε α} {a : α} (h : r.toOption = some a) :
    r = .ok a := by
  cases r with
  | error e => cases h
  | ok b => exact congrArg Except.ok (Option.some.inj h)

theorem entriesOf_defaultsText : Source.entriesOf none defaultsText = .ok defaultsLayer := by
  refine Source.entriesOf_of_chars rfl ?_
  delta defaultsText
  repeat rw [String.toList_append]
  repeat rw [String.toList_ofList]
  decide +kernel

def defaults (w : Walk) : Value := .putAll (w.entries defaultsLayer) .emptyTable

theorem Loader.addLayer_defaultsText (w : Walk) :
    addLayer w .emptyTable (Source.entriesOf none defaultsText) = .ok (defaults w) := by
  rw [entriesOf_defaultsText, addLayer,
    Value.assignAll_eq_putAll (w.tidy_entries tidy_defaultsLayer).entry, defaults]

end VisitorHeader.Settings
