import Mathlib.Computability.Language
import VisitorHeader.Node.List

namespace VisitorHeader

namespace Identifier

open scoped Computability

def segments : List Char → List (List Char)
  | [] => [[]]
  | ':' :: ':' :: r => [] :: segments r
  | c :: r => (segments r).modifyHead (c :: ·)

def unrooted : List Char → List Char
  | ':' :: ':' :: r => r
  | cs => cs

def IsLetter (c : Char) : Prop := 'A' ≤ c ∧ c ≤ 'Z' ∨ 'a' ≤ c ∧ c ≤ 'z'

def IsDigit (c : Char) : Prop := '0' ≤ c ∧ c ≤ '9'

def Opens (c : Char) : Prop := IsLetter c ∨ c = '_'

def Follows (c : Char) : Prop := IsLetter c ∨ IsDigit c ∨ c = '_'

def IsSegment : List Char → Prop
  | [] => False
  | c :: r => Opens c ∧ ∀ d ∈ r, Follows d

def Qualified (cs : List Char) : Prop := ∀ s ∈ segments (unrooted cs), IsSegment s

instance (c : Char) : Decidable (IsLetter c) := inferInstanceAs (Decidable (_ ∨ _))

instance (c : Char) : Decidable (IsDigit c) := inferInstanceAs (Decidable (_ ∧ _))

instance (c : Char) : Decidable (Opens c) := inferInstanceAs (Decidable (_ ∨ _))

instance (c : Char) : Decidable (Follows c) := inferInstanceAs (Decidable (_ ∨ _))

instance : DecidablePred IsSegment
  | [] => instDecidableFalse
  | c :: r => @instDecidableAnd (Opens c) (∀ d ∈ r, Follows d) _ (List.decidableBAll _ r)

instance (cs : List Char) : Decidable (Qualified cs) :=
  List.decidableBAll IsSegment (segments (unrooted cs))

def oneOf (p : Char → Prop) : Language Char := {w | ∃ c, p c ∧ w = [c]}

def colons : Language Char := {[':', ':']}

def segment : Language Char := oneOf Opens * (oneOf Follows)∗

/-- The regular expression `(::)?[A-Za-z_][A-Za-z0-9_]*(::[A-Za-z_][A-Za-z0-9_]*)*`. -/
def pattern : Language Char := (1 + colons) * (segment * (colons * segment)∗)

theorem isAlpha_iff (c : Char) : c.isAlpha ↔ IsLetter c := by
  change (decide ('A' ≤ c ∧ c ≤ 'Z') || decide ('a' ≤ c) && decide (c ≤ 'z')) = true ↔ _
  simp only [Bool.or_eq_true, Bool.and_eq_true, decide_eq_true_eq, IsLetter]

theorem isDigit_iff (c : Char) : c.isDigit ↔ IsDigit c := by
  change (decide ('0' ≤ c) && decide (c ≤ '9')) = true ↔ _
  simp only [Bool.and_eq_true, decide_eq_true_eq, IsDigit]

theorem isStart_iff (c : Char) : isStart c ↔ Opens c := by
  rw [isStart, Bool.or_eq_true, isAlpha_iff, beq_iff_eq, Opens]

theorem isPart_iff (c : Char) : isPart c ↔ Follows c := by
  change (c.isAlpha || c.isDigit || c == '_') = true ↔ _
  rw [Bool.or_eq_true, Bool.or_eq_true, isAlpha_iff, isDigit_iff, beq_iff_eq, Follows, or_assoc]

theorem Opens.follows {c : Char} (h : Opens c) : Follows c :=
  h.elim .inl fun h => .inr (.inr h)

theorem not_follows_colon : ¬ Follows ':' := by decide

theorem segments_cons {c : Char} {r : List Char} (h : ∀ r', c :: r ≠ ':' :: ':' :: r') :
    segments (c :: r) = (segments r).modifyHead (c :: ·) := by
  rw [segments]
  rintro r' rfl rfl
  exact h r' rfl

theorem exists_segments (cs : List Char) : ∃ s ss, segments cs = s :: ss := by
  fun_induction segments cs with
  | case1 => exact ⟨[], [], rfl⟩
  | case2 r => exact ⟨[], segments r, rfl⟩
  | case3 c r hc ih =>
      obtain ⟨s, ss, h⟩ := ih
      exact ⟨c :: s, ss, by rw [h]; rfl⟩

def Continues (cs : List Char) : Prop :=
  ∃ s ss, segments cs = s :: ss ∧ (∀ c ∈ s, Follows c) ∧ ∀ s' ∈ ss, IsSegment s'

theorem forall_segments_cons (c : Char) (r : List Char) :
    (∀ s ∈ segments (c :: r), IsSegment s) ↔ Opens c ∧ Continues r := by
  by_cases h : ∃ r', c :: r = ':' :: ':' :: r'
  · obtain ⟨r', h⟩ := h
    obtain ⟨rfl, rfl⟩ := List.cons.inj h
    constructor
    · intro hs
      exact (hs [] (by simp [segments])).elim
    · intro hc
      exact absurd hc.1.follows not_follows_colon
  · obtain ⟨s, ss, hr⟩ := exists_segments r
    rw [segments_cons (not_exists.1 h), hr]
    simp [IsSegment, Continues, hr, and_assoc]

theorem continues_cons {c : Char} {r : List Char} (h : ∀ d r', c :: r ≠ ':' :: ':' :: d :: r') :
    Continues (c :: r) ↔ Follows c ∧ Continues r := by
  by_cases hc : ∃ r', c :: r = ':' :: ':' :: r'
  · -- a double colon at the end leaves an empty segment
    obtain ⟨r', hr⟩ := hc
    obtain ⟨rfl, rfl⟩ := List.cons.inj hr
    cases r' with
    | nil => simp [Continues, segments, IsSegment, not_follows_colon]
    | cons d r' => exact absurd hr (h d r')
  · obtain ⟨s, ss, hr⟩ := exists_segments r
    simp [Continues, segments_cons (not_exists.1 hc), hr, and_assoc]

theorem continues_iff (cs : List Char) : continues cs ↔ Continues cs := by
  fun_induction continues cs with
  | case1 => simp [Continues, segments]
  | case2 c r ih =>
      rw [Bool.and_eq_true, isStart_iff, ih, ← forall_segments_cons]
      simp [Continues, segments]
  | case3 c r hc ih =>
      rw [Bool.and_eq_true, isPart_iff, ih, continues_cons]
      rintro d r' hr
      obtain ⟨rfl, rfl⟩ := List.cons.inj hr
      exact hc d r' rfl rfl

theorem starts_iff (cs : List Char) : starts cs ↔ ∀ s ∈ segments cs, IsSegment s := by
  cases cs with
  | nil => simp [starts, segments, IsSegment]
  | cons c r => rw [starts, Bool.and_eq_true, isStart_iff, continues_iff, forall_segments_cons]

theorem isQualified_eq_starts (cs : List Char) : isQualified cs = starts (unrooted cs) := by
  fun_cases isQualified cs with
  | case1 r => rfl
  | case2 cs hcs => rw [unrooted]; exact hcs

theorem isQualified_iff (cs : List Char) : isQualified cs ↔ Qualified cs := by
  rw [isQualified_eq_starts, starts_iff, Qualified]

example : Qualified "::ast::Expr".toList ∧ ¬ Qualified "ast:::Expr".toList := by decide

theorem mem_kstar_oneOf {p : Char → Prop} {w : List Char} : w ∈ (oneOf p)∗ ↔ ∀ c ∈ w, p c := by
  rw [Language.mem_kstar]
  constructor
  · rintro ⟨ws, rfl, hws⟩ c hc
    obtain ⟨v, hv, hc⟩ := List.mem_flatten.1 hc
    obtain ⟨d, hd, rfl⟩ := hws v hv
    exact List.mem_singleton.1 hc ▸ hd
  · intro h
    have hw : w = (w.map fun c => [c]).flatten := (List.flatMap_singleton' w).symm
    exact ⟨_, hw, List.forall_mem_map.2 fun c hc => ⟨c, h c hc, rfl⟩⟩

theorem mem_segment {w : List Char} : w ∈ segment ↔ IsSegment w := by
  rw [segment, Language.mem_mul]
  constructor
  · rintro ⟨_, ⟨c, hc, rfl⟩, r, hr, rfl⟩
    exact ⟨hc, mem_kstar_oneOf.1 hr⟩
  · intro h
    cases w with
    | nil => exact h.elim
    | cons c r => exact ⟨[c], ⟨c, h.1, rfl⟩, r, mem_kstar_oneOf.2 h.2, rfl⟩

theorem IsSegment.colon_notMem {s : List Char} (h : IsSegment s) : ':' ∉ s := by
  cases s with
  | nil => exact h.elim
  | cons c r =>
      intro hc
      rcases List.mem_cons.1 hc with rfl | hc
      · exact not_follows_colon h.1.follows
      · exact not_follows_colon (h.2 _ hc)

theorem segments_cons_of_ne {c : Char} (h : c ≠ ':') (r : List Char) :
    segments (c :: r) = (segments r).modifyHead (c :: ·) :=
  segments_cons fun _ hr => h (List.cons.inj hr).1

theorem segments_append {s : List Char} (h : ':' ∉ s) (r : List Char) :
    segments (s ++ ':' :: ':' :: r) = s :: segments r := by
  induction s with
  | nil => rfl
  | cons c s ih =>
      rw [List.mem_cons, not_or] at h
      rw [List.cons_append, segments_cons_of_ne (Ne.symm h.1), ih h.2, List.modifyHead_cons]

theorem segments_of_notMem {s : List Char} (h : ':' ∉ s) : segments s = [s] := by
  induction s with
  | nil => rfl
  | cons c s ih =>
      rw [List.mem_cons, not_or] at h
      rw [segments_cons_of_ne (Ne.symm h.1), ih h.2, List.modifyHead_cons]

theorem mem_colons_mul {w : List Char} :
    w ∈ colons * segment ↔ ∃ s, IsSegment s ∧ w = ':' :: ':' :: s := by
  rw [Language.mem_mul]
  constructor
  · rintro ⟨_, rfl, s, hs, rfl⟩
    exact ⟨s, mem_segment.1 hs, rfl⟩
  · rintro ⟨s, hs, rfl⟩
    exact ⟨[':', ':'], rfl, s, mem_segment.2 hs, rfl⟩

theorem forall_segments_append {s : List Char} (hs : IsSegment s) {ws : List (List Char)}
    (hws : ∀ w ∈ ws, w ∈ colons * segment) : ∀ s' ∈ segments (s ++ ws.flatten), IsSegment s' := by
  induction ws generalizing s with
  | nil =>
      rw [List.flatten_nil, List.append_nil, segments_of_notMem hs.colon_notMem]
      exact List.forall_mem_singleton.2 hs
  | cons w ws ih =>
      obtain ⟨hw, htail⟩ := List.forall_mem_cons.1 hws
      obtain ⟨s', hs', rfl⟩ := mem_colons_mul.1 hw
      have happend : segments (s ++ ((':' :: ':' :: s') :: ws).flatten) =
          s :: segments (s' ++ ws.flatten) := segments_append hs.colon_notMem _
      rw [happend]
      exact List.forall_mem_cons.2 ⟨hs, ih hs' htail⟩

/-- With double colons in between, the pieces give back the text. -/
theorem flatten_segments {cs s : List Char} {ss : List (List Char)} (h : segments cs = s :: ss) :
    s ++ (ss.map fun s => ':' :: ':' :: s).flatten = cs := by
  fun_induction segments cs generalizing s ss with
  | case1 =>
      obtain ⟨rfl, rfl⟩ := List.cons.inj h
      rfl
  | case2 r ih =>
      obtain ⟨rfl, rfl⟩ := List.cons.inj h
      obtain ⟨s, ss, hr⟩ := exists_segments r
      rw [hr, List.nil_append, List.map_cons, List.flatten_cons, List.cons_append, List.cons_append,
        ih hr]
  | case3 c r hc ih =>
      obtain ⟨s', ss', hr⟩ := exists_segments r
      rw [hr, List.modifyHead_cons] at h
      obtain ⟨rfl, rfl⟩ := List.cons.inj h
      rw [List.cons_append, ih hr]

theorem mem_segments_pattern {cs : List Char} :
    cs ∈ segment * (colons * segment)∗ ↔ ∀ s ∈ segments cs, IsSegment s := by
  rw [Language.mem_mul]
  constructor
  · rintro ⟨s, hs, r, hr, rfl⟩
    obtain ⟨ws, rfl, hws⟩ := Language.mem_kstar.1 hr
    exact forall_segments_append (mem_segment.1 hs) hws
  · intro h
    obtain ⟨s, ss, hcs⟩ := exists_segments cs
    rw [hcs] at h
    obtain ⟨hs, hss⟩ := List.forall_mem_cons.1 h
    refine ⟨s, mem_segment.2 hs, (ss.map fun s => ':' :: ':' :: s).flatten, ?_,
      flatten_segments hcs⟩
    exact Language.join_mem_kstar
      (List.forall_mem_map.2 fun s hs => mem_colons_mul.2 ⟨s, hss s hs, rfl⟩)

/-- Of the two ways to read a double colon at the start, as a root or as an empty segment and what
follows it, only the first can be right. -/
theorem mem_pattern_iff (cs : List Char) : cs ∈ pattern ↔ Qualified cs := by
  rw [pattern, Language.mem_mul, Qualified]
  constructor
  · rintro ⟨root, hroot, r, hr, rfl⟩
    rw [mem_segments_pattern] at hr
    rcases (Language.mem_add _ _ _).1 hroot with rfl | rfl
    · rw [List.nil_append]
      fun_cases unrooted r with
      | case1 r => exact (hr [] (by simp [segments])).elim
      | case2 r hcs => exact hr
    · exact hr
  · intro h
    rw [← mem_segments_pattern] at h
    fun_cases unrooted cs with
    | case1 r => exact ⟨[':', ':'], .inr rfl, r, h, rfl⟩
    | case2 cs hcs =>
        rw [unrooted] at h
        · exact ⟨[], .inl rfl, cs, h, rfl⟩
        · exact hcs

end Identifier

open Identifier

/-- The recogniser decides what qualified identifiers are, be they described by their segments or by
the regular expression, and a list's suspicious names are those that are none. -/
theorem NodeName.isIdentifier_iff_qualified :
    (∀ n : NodeName, n.isIdentifier = true ↔ Qualified n.text.toList) ∧
      (∀ n : NodeName, n.isIdentifier = true ↔ n.text.toList ∈ pattern) ∧
      ∀ l : NodeList, l.suspicious = l.names.filter fun n => ¬ Qualified n.text.toList := by
  have hname (n : NodeName) : n.isIdentifier = true ↔ Qualified n.text.toList :=
    isQualified_iff n.text.toList
  refine ⟨hname, fun n => ?_, fun l => List.filter_congr fun n _ => ?_⟩
  · rw [hname, mem_pattern_iff]
  · rw [decide_not, ← Bool.decide_coe n.isIdentifier, decide_eq_decide.2 (hname n)]

end VisitorHeader
