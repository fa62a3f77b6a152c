import Mathlib.Order.Basic
import VisitorHeader.Proofs.Header.Lines

namespace VisitorHeader.Template

open Text

variable {t t' : Template} {l l' : NodeList}

/-- The first element without a property lies at one place only. -/
theorem append_cons_unique {α : Type} {p : α → Prop} {xs ys : List α} {x y : α} {r r' : List α}
    (hxs : ∀ a ∈ xs, p a) (hys : ∀ a ∈ ys, p a) (hx : ¬ p x) (hy : ¬ p y)
    (h : xs ++ x :: r = ys ++ y :: r') : xs = ys ∧ x = y ∧ r = r' := by
  induction xs generalizing ys with
  | nil =>
      cases ys with
      | nil => simpa using h
      | cons b ys =>
          obtain ⟨rfl, -⟩ := List.cons.inj h
          exact absurd (hys x (by simp)) hx
  | cons a xs ih =>
      cases ys with
      | nil =>
          obtain ⟨rfl, -⟩ := List.cons.inj h
          exact absurd (hxs a (by simp)) hy
      | cons b ys =>
          obtain ⟨rfl, ht⟩ := List.cons.inj h
          obtain ⟨hs, hr⟩ := ih (List.forall_mem_cons.1 hxs).2 (List.forall_mem_cons.1 hys).2 ht
          exact ⟨by rw [hs], hr⟩

theorem includeLines_injective (h : t.includeLines = t'.includeLines) :
    t.includes = t'.includes := by
  refine List.map_injective_iff.2 ?_ h
  intro file file' he
  rw [String.append_left_inj, String.append_right_inj] at he
  exact he

theorem headerLines_sections (h : t.headerLines l = t'.headerLines l') :
    t.includeLines = t'.includeLines ∧ t.scopeLine = t'.scopeLine ∧ t.classLine = t'.classLine ∧
      l.names.map t.baseEntry = l'.names.map t'.baseEntry ∧
      t.destructorLine = t'.destructorLine ∧ t.stubLines l = t'.stubLines l' := by
  have scope (t : Template) : ¬ startsWith "#include " t.scopeLine := by
    rw [Bool.not_eq_true]
    exact startsWith_eq_false t.startsWith_scopeLine (by decide)
  -- the bases end where a line starts with a brace
  have bases (t : Template) (l : NodeList) : ∀ s ∈ t.baseLines l, startsWith "\x7b" s = false := by
    intro s hs
    rcases t.startsWith_baseLines hs with hs | hs
    · exact startsWith_eq_false hs (by decide)
    · exact startsWith_eq_false hs (by decide)
  obtain ⟨hi, hs, h⟩ := append_cons_unique t.startsWith_includeLines t'.startsWith_includeLines
    (scope t) (scope t') (List.cons.inj h).2
  obtain ⟨hb, -, h⟩ := append_cons_unique (bases t l) (bases t' l') (by decide) (by decide) h
  obtain ⟨hc, he⟩ := List.cons.inj (commaEnded_injective hb)
  obtain ⟨hd, h⟩ := List.cons.inj (List.cons.inj h).2
  exact ⟨hi, hs, hc, he, hd, List.append_cancel_right h⟩

theorem longer_tail {a : Char} {x x' s s' : List Char} (h : x ++ a :: s = x' ++ a :: s')
    (hl : s.length < s'.length) : ∃ u, s' = u ++ a :: s := by
  rcases List.append_eq_append_iff.1 h with ⟨as, -, hs⟩ | ⟨as, -, hs⟩
  · have hlen := congrArg List.length hs
    simp only [List.length_append, List.length_cons] at hlen
    omega
  · cases as with
    | nil =>
        obtain ⟨-, rfl⟩ := List.cons.inj hs
        omega
    | cons c u => exact ⟨u, (List.cons.inj hs).2⟩

/-- Of two texts that follow the mark `a` in one text and the mark `b` in another, the longer one
would hold both marks at one place. -/
theorem tail_unique {a b : Char} (hab : a ≠ b) {x x' y y' s s' : List Char}
    (h : x ++ a :: s = x' ++ a :: s') (h' : y ++ b :: s = y' ++ b :: s') : s = s' := by
  have clash {s s' : List Char} (ha : ∃ u, s' = u ++ a :: s) (hb : ∃ v, s' = v ++ b :: s) :
      False := by
    obtain ⟨u, rfl⟩ := ha
    obtain ⟨v, hv⟩ := hb
    exact hab (List.cons.inj (List.append_inj_right' hv rfl)).1
  rcases lt_trichotomy s.length s'.length with hl | hl | hl
  · exact (clash (longer_tail h hl) (longer_tail h' hl)).elim
  · exact (List.cons.inj (List.append_inj_right' h (by simp [hl]))).2
  · exact (clash (longer_tail h.symm hl) (longer_tail h'.symm hl)).elim

/-- A base entry and a stub together determine the name in them, and what stands around it. -/
theorem entry_injective {n n' : NodeName} (hb : t.baseEntry n = t'.baseEntry n')
    (hv : t.visitStub n = t'.visitStub n') :
    n = n' ∧ t.visitorInterface = t'.visitorInterface ∧ t.visitMethod = t'.visitMethod := by
  have base : t.visitorInterface.toList ++ '<' :: n.text.toList =
      t'.visitorInterface.toList ++ '<' :: n'.text.toList := by
    rw [baseEntry, baseEntry, String.append_left_inj] at hb
    simpa [← String.toList_inj] using hb
  have stub : t.visitMethod.toList ++ '(' :: n.text.toList =
      t'.visitMethod.toList ++ '(' :: n'.text.toList := by
    rw [visitStub_eq, visitStub_eq, String.append_left_inj] at hv
    simpa [stubOpening, ← String.toList_inj] using hv
  have hn : n.text.toList = n'.text.toList := tail_unique (by decide) base stub
  rw [hn, List.append_left_inj] at base stub
  exact ⟨NodeName.ext (String.toList_inj.1 hn), String.toList_inj.1 base, String.toList_inj.1 stub⟩

theorem entries_injective {ns ns' : List NodeName} (hb : ns.map t.baseEntry = ns'.map t'.baseEntry)
    (hv : ns.map t.visitStub = ns'.map t'.visitStub) :
    ns = ns' ∧ (ns ≠ [] →
      t.visitorInterface = t'.visitorInterface ∧ t.visitMethod = t'.visitMethod) := by
  induction ns generalizing ns' with
  | nil => exact ⟨(List.map_eq_nil_iff.1 hb.symm).symm, fun h => absurd rfl h⟩
  | cons n ns ih =>
      cases ns' with
      | nil => simp at hb
      | cons n' ns' =>
          obtain ⟨hn, hm⟩ := entry_injective (List.cons.inj hb).1 (List.cons.inj hv).1
          obtain ⟨hns, -⟩ := ih (List.cons.inj hb).2 (List.cons.inj hv).2
          exact ⟨by rw [hn, hns], fun _ => hm⟩

theorem stubLines_injective (hl : l.names.length = l'.names.length)
    (h : t.stubLines l = t'.stubLines l') :
    l.names.map t.visitStub = l'.names.map t'.visitStub := by
  rw [stubLines, stubLines] at h
  split at h
  next he =>
    have he' : l'.names = [] := List.length_eq_zero_iff.1 (by simp [← hl, he])
    rw [he, he']
    rfl
  next he =>
    have he' : l'.names ≠ [] := by
      rintro he'
      exact he (List.length_eq_zero_iff.1 (by simp [hl, he']))
    rwa [if_neg he'] at h

/-- The text of a header gives back the names and the template, except that without names it does
not show how they would be visited. -/
theorem render_injective (ht : t.OneLine) (ht' : t'.OneLine) (hl : l.OneLine) (hl' : l'.OneLine)
    (h : t.render l = t'.render l') :
    l = l' ∧ (l.names ≠ [] → t = t') ∧ t.includes = t'.includes ∧
      t.namespaceName = t'.namespaceName ∧ t.className = t'.className ∧
      t.markerInterface = t'.markerInterface := by
  rw [render_eq_ended, render_eq_ended] at h
  obtain ⟨hi, hs, hc, hb, hd, hv⟩ :=
    headerLines_sections (ended_injective (ht.headerLines hl) (ht'.headerLines hl') h)
  have includes := includeLines_injective hi
  have scope : t.namespaceName = t'.namespaceName := by
    rwa [scopeLine, scopeLine, String.append_left_inj, String.append_right_inj] at hs
  have name : t.className = t'.className := by
    rwa [destructorLine, destructorLine, String.append_left_inj, String.append_right_inj] at hd
  have marker : t.markerInterface = t'.markerInterface := by
    rwa [classLine, classLine, name, String.append_right_inj, markerEntry, markerEntry,
      String.append_right_inj] at hc
  have length : l.names.length = l'.names.length := by simpa using congrArg List.length hb
  obtain ⟨names, hm⟩ := entries_injective hb (stubLines_injective length hv)
  refine ⟨?_, fun hne => ?_, includes, scope, name, marker⟩
  · cases l
    cases l'
    exact congrArg NodeList.mk names
  · obtain ⟨visitor, method⟩ := hm hne
    cases t
    cases t'
    simp_all

/-- Two readings of names that hold marks of the template, told apart by their headers alone. -/
theorem render_injective_marks :
    conventional.render (.parse "A<B\r\n\x0bA(B") = conventional.render (.ofLines ["A<B\n", "A(B"]) ∧
      NodeList.parse "A<B\r\n\x0bA(B" = NodeList.ofLines ["A<B\n", "A(B"] :=
  have h : conventional.render (.parse "A<B\r\n\x0bA(B") =
      conventional.render (.ofLines ["A<B\n", "A(B"]) := by decide +kernel
  ⟨h, (render_injective oneLine_conventional oneLine_conventional (by decide) (by decide) h).1⟩

end VisitorHeader.Template
