import Mathlib.Data.List.Basic
import VisitorHeader.Toml.Document

namespace VisitorHeader.Toml

def hexDigit (upper : Bool) (n : Nat) : Char :=
  if upper then (Nat.digitChar n).toUpper else Nat.digitChar n

def hexCode (upper : Bool) (n : Nat) : List Char :=
  [n / 4096, n / 256 % 16, n / 16 % 16, n % 16].map (hexDigit upper)

inductive Spells : Char → List Char → Prop
  | plain {c} (h : isBasic c) : Spells c [c]
  | backslash {c} (h : c = quote ∨ c = '\\') : Spells c ['\\', c]
  | code {c} (upper : Bool) (h : c.toNat < 65536) : Spells c ('\\' :: 'u' :: hexCode upper c.toNat)

structure Spelling where
  write : Char → List Char
  spells : ∀ c, Spells c (write c)

theorem toNat_lt_of_not_isPlain {c : Char} (h : ¬ isPlain c) : c.toNat < 65536 := by
  simp only [isPlain, Bool.or_eq_true, Bool.and_eq_true, decide_eq_true_eq, bne_iff_ne, not_or,
    not_and, not_not] at h
  by_cases hspace : 0x20 ≤ c.toNat
  · rw [h.2 hspace]
    decide
  · omega

def Spelling.escaped : Spelling where
  write c :=
    if c = quote ∨ c = '\\' then ['\\', c]
    else if c = '\t' ∨ ¬ isPlain c then '\\' :: 'u' :: hexCode false c.toNat
    else [c]
  spells c := by
    split
    next h => exact .backslash h
    next h =>
      rw [not_or] at h
      split
      next hcode =>
        apply Spells.code
        rcases hcode with rfl | hplain
        · decide
        · exact toNat_lt_of_not_isPlain hplain
      next hplain =>
        apply Spells.plain
        simp only [not_or, not_not] at hplain
        simp [isBasic, hplain.2, h.1, h.2]

theorem hexDigit?_hexDigit (upper : Bool) {n : Nat} (h : n < 16) :
    hexDigit? (hexDigit upper n) = some n := by
  revert n upper
  decide

theorem codePoint?_hexCode (upper : Bool) {c : Char} (h : c.toNat < 65536) :
    codePoint? (hexCode upper c.toNat) = some c := by
  have hnumber : hexNumber? (hexCode upper c.toNat) = some c.toNat := by
    have h3 := hexDigit?_hexDigit upper (n := c.toNat / 4096) (by omega)
    have h2 := hexDigit?_hexDigit upper (n := c.toNat / 256 % 16) (by omega)
    have h1 := hexDigit?_hexDigit upper (n := c.toNat / 16 % 16) (by omega)
    have h0 := hexDigit?_hexDigit upper (n := c.toNat % 16) (by omega)
    simp only [hexNumber?, hexCode, List.map_cons, List.map_nil, List.foldl_cons, List.foldl_nil,
      h3, h2, h1, h0, bind, Option.bind, pure]
    congr 1
    omega
  have hvalid : c.toNat.isValidChar := c.valid
  simp only [codePoint?, hnumber, bind, Option.bind, hvalid, if_true, Char.ofNat_toNat]

theorem ne_of_isBasic {c : Char} (h : isBasic c) : c ≠ quote ∧ c ≠ '\\' := by
  constructor
  · rintro rfl
    exact absurd h (by decide)
  · rintro rfl
    exact absurd h (by decide)

theorem basicTail_quote (rest : List Char) : basicTail (quote :: rest) = some ([], rest) := by
  rw [basicTail]
  · rfl
  all_goals
    intros
    contradiction

theorem basicTail_spell {c : Char} {cs : List Char} (h : Spells c cs) (rest : List Char) :
    basicTail (cs ++ rest) = (basicTail rest).map fun x => (c :: x.1, x.2) := by
  cases h with
  | plain h =>
      obtain ⟨hquote, hbackslash⟩ := ne_of_isBasic h
      rw [List.singleton_append, basicTail, if_neg (by simpa using hquote), if_pos h]
      · cases basicTail rest <;> rfl
      all_goals
        intros
        exact absurd ‹c = '\\'› hbackslash
  | backslash h =>
      have hescape : escape? c = some c := by rcases h with rfl | rfl <;> rfl
      change basicTail ('\\' :: c :: rest) = _
      rw [basicTail, hescape]
      · cases basicTail rest <;> rfl
      all_goals
        rintro _ _ _ _
        rcases h with rfl | rfl <;> simp [quote]
  | code upper h =>
      change basicTail ('\\' :: 'u' :: _ :: _ :: _ :: _ :: rest) = _
      rw [basicTail]
      change (codePoint? (hexCode upper c.toNat) >>= _) = _
      rw [codePoint?_hexCode upper h]
      cases basicTail rest <;> rfl

theorem string?_quote {cs : List Char} (h : ∀ r, cs ≠ quote :: quote :: r) :
    string? (quote :: cs) = (basicTail cs).map fun x => (.ofList x.1, x.2) := by
  have hmatch : string? (quote :: cs) = (basicTail cs >>= fun x => pure (.ofList x.1, x.2)) := by
    unfold string?
    split
    next r hr => exact absurd (List.cons.inj hr).2 (h r)
    next r _ hr => rw [(List.cons.inj hr).2]
    next hr => exact absurd (List.cons.inj hr).1 (by decide)
    next hr => exact absurd (List.cons.inj hr).1 (by decide)
    next hno _ _ => exact absurd rfl (hno cs)
  rw [hmatch]
  cases basicTail cs <;> rfl

theorem value?_quote (depth : Nat) (cs : List Char) :
    value? depth (quote :: cs) = (string? (quote :: cs)).map fun x => (.string x.1, x.2) := by
  have hvalue : value? depth (quote :: cs) = scalar? (quote :: cs) := by
    rw [value?]
    all_goals
      intro r hr
      exact absurd (List.cons.inj hr).1 (by decide)
  rw [hvalue, scalar?]
  · rfl
  all_goals
    intro r hr
    exact absurd hr (by decide)

theorem Spells.exists_cons {c : Char} {cs : List Char} (h : Spells c cs) :
    ∃ d ds, cs = d :: ds ∧ d ≠ quote := by
  cases h with
  | plain h => exact ⟨c, [], rfl, (ne_of_isBasic h).1⟩
  | backslash h => exact ⟨'\\', [c], rfl, by decide⟩
  | code upper h => exact ⟨'\\', _, rfl, by decide⟩

section Elements

variable {value : Reader Value} {bound : Nat} {cs cs' r : List Char} {v : Value}

theorem elements_end (h : skipTrivia false cs = ']' :: r) :
    elements value (bound + 1) cs = some ([], r) := by
  rw [elements, h]
  rfl

theorem elements_last (h : skipTrivia false cs = cs') (hcs' : cs'.head? ≠ some ']')
    (hv : value cs' = some (v, ']' :: r)) : elements value (bound + 1) cs = some ([v], r) := by
  rw [elements, h]
  split
  next => exact absurd rfl hcs'
  next =>
    rw [hv]
    rfl

theorem elements_comma (h : skipTrivia false cs = cs') (hcs' : cs'.head? ≠ some ']')
    (hv : value cs' = some (v, ',' :: r)) :
    elements value (bound + 1) cs =
      (elements value bound r).map fun x => (v :: x.1, x.2) := by
  rw [elements, h]
  split
  next => exact absurd rfl hcs'
  next =>
    rw [hv]
    change (elements value bound r >>= fun x => pure (v :: x.1, x.2)) = _
    cases elements value bound r <;> rfl

end Elements

namespace Spelling

def quoted (w : Spelling) (s : String) : List Char :=
  quote :: (s.toList.flatMap w.write ++ [quote])

def items (w : Spelling) (ss : List String) : List Char :=
  [',', ' '].intercalate (ss.map w.quoted)

variable (w : Spelling)

theorem basicTail_write (cs rest : List Char) :
    basicTail (cs.flatMap w.write ++ quote :: rest) = some (cs, rest) := by
  induction cs with
  | nil => exact basicTail_quote rest
  | cons c cs ih =>
      rw [List.flatMap_cons, List.append_assoc, basicTail_spell (w.spells c), ih]
      rfl

/-- An empty text must not be taken for the start of a long one. -/
theorem write_ne_quotes (cs : List Char) {rest : List Char} (hrest : rest.head? ≠ some quote)
    (r : List Char) : cs.flatMap w.write ++ quote :: rest ≠ quote :: quote :: r := by
  intro h
  cases cs with
  | nil =>
      rw [(List.cons.inj h).2] at hrest
      exact hrest rfl
  | cons c cs =>
      obtain ⟨d, ds, hd, hne⟩ := (w.spells c).exists_cons
      rw [List.flatMap_cons, hd] at h
      exact hne (List.cons.inj h).1

theorem quoted_append (s : String) (rest : List Char) :
    w.quoted s ++ rest = quote :: (s.toList.flatMap w.write ++ quote :: rest) := by
  simp [quoted]

theorem value?_quoted (depth : Nat) (s : String) {rest : List Char}
    (hrest : rest.head? ≠ some quote) :
    value? depth (w.quoted s ++ rest) = some (.string s, rest) := by
  rw [quoted_append, value?_quote, string?_quote (w.write_ne_quotes _ hrest), basicTail_write,
    Option.map_some, Option.map_some, String.ofList_toList]

theorem exists_items_cons (s : String) (ss : List String) :
    ∃ r, w.items (s :: ss) = quote :: r := by
  cases ss with
  | nil => exact ⟨_, by rw [items, List.map_singleton, List.intercalate_singleton, quoted]⟩
  | cons t ss =>
      exact ⟨_, by rw [items, List.map_cons, List.map_cons, List.intercalate_cons_cons,
        List.append_assoc, quoted_append]⟩

theorem skipTrivia_items (ss : List String) (rest : List Char) :
    skipTrivia false (w.items ss ++ ']' :: rest) = w.items ss ++ ']' :: rest := by
  cases ss with
  | nil => rfl
  | cons s ss =>
      obtain ⟨r, hr⟩ := w.exists_items_cons s ss
      rw [hr]
      rfl

/-- `cs` may have blanks in front, as behind a comma. -/
theorem elements_items (depth : Nat) {ss : List String} {bound : Nat} (h : ss.length < bound)
    {cs rest : List Char} (hcs : skipTrivia false cs = w.items ss ++ ']' :: rest) :
    elements (value? depth) bound cs = some (ss.map .string, rest) := by
  induction ss generalizing bound cs with
  | nil =>
      obtain ⟨bound, rfl⟩ := Nat.exists_eq_add_one.mpr h
      exact elements_end hcs
  | cons s ss ih =>
      obtain ⟨bound, rfl⟩ := Nat.exists_eq_add_one.mpr (Nat.zero_lt_of_lt h)
      cases ss with
      | nil =>
          rw [items, List.map_singleton, List.intercalate_singleton] at hcs
          refine elements_last hcs (by simp [quoted, quote]) ?_
          exact w.value?_quoted depth s (by simp [quote])
      | cons t ss =>
          have hitems : w.items (s :: t :: ss) ++ ']' :: rest =
              w.quoted s ++ (',' :: ' ' :: (w.items (t :: ss) ++ ']' :: rest)) := by
            simp [items, List.intercalate_cons_cons]
          have hblank : skipTrivia false (' ' :: (w.items (t :: ss) ++ ']' :: rest)) =
              w.items (t :: ss) ++ ']' :: rest := w.skipTrivia_items (t :: ss) rest
          rw [hitems] at hcs
          rw [elements_comma hcs (by simp [quoted, quote])
            (w.value?_quoted depth s (by simp [quote])), ih (Nat.lt_of_succ_lt_succ h) hblank]
          rfl

theorem length_le_items (ss : List String) : ss.length ≤ (w.items ss).length := by
  induction ss with
  | nil => exact Nat.zero_le _
  | cons s ss ih =>
      cases ss with
      | nil => simp [items, quoted]
      | cons t ss =>
          simp only [items, List.map_cons, List.intercalate_cons_cons, List.length_append,
            List.length_cons] at ih ⊢
          omega

end Spelling

end VisitorHeader.Toml
