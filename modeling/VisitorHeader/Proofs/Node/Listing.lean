import VisitorHeader.Node.List
import VisitorHeader.Proofs.Text.Trim

namespace VisitorHeader.NodeList

open Text

structure IsName (cs : List Char) : Prop where
  ne_nil : cs ≠ []
  unpadded : Unpadded cs
  unbroken : ∀ c ∈ cs, ¬ isLineEnd c

/-- A text of names, each followed by a gap of blanks, after a first gap. The gap between two names
has a line end in it; all other blanks are free. -/
structure Listing (lead : List Char) (entries : List (List Char × List Char))
    (source : List Char) : Prop where
  source_eq : source = lead ++ entries.flatMap fun e => e.1 ++ e.2
  lead_blank : Blank lead
  gap_blank : ∀ e ∈ entries, Blank e.2
  gap_broken : ∀ e ∈ entries.dropLast, ∃ c ∈ e.2, isLineEnd c
  name : ∀ e ∈ entries, IsName e.1

def trimmedLines (cs : List Char) : List (List Char) :=
  ((cs.splitOnP isLineEnd).map trimChars).filter (· ≠ [])

theorem isBlank_of_isLineEnd {c : Char} (h : isLineEnd c) : isBlank c := by
  simp only [isLineEnd, Bool.or_eq_true, beq_iff_eq] at h
  rcases h with rfl | rfl <;> decide

theorem text_ofLine? (cs : List Char) :
    (NodeName.ofLine? (.ofList cs)).map NodeName.text =
      if trimChars cs = [] then none else some (.ofList (trimChars cs)) := by
  by_cases h : trimChars cs = [] <;> simp [NodeName.ofLine?, trim, h]

theorem map_text_parse (source : String) :
    (parse source).names.map NodeName.text = (trimmedLines source.toList).map String.ofList := by
  rw [parse, lines, trimmedLines, List.map_filterMap, List.filterMap_map]
  simp only [Function.comp_def, text_ofLine?]
  induction source.toList.splitOnP isLineEnd with
  | nil => rfl
  | cons l ls ih => by_cases h : trimChars l = [] <;> simp [h, ih]

theorem trimmedLines_append {c : Char} (hc : isLineEnd c) (xs ys : List Char) :
    trimmedLines (xs ++ c :: ys) = trimmedLines xs ++ trimmedLines ys := by
  rw [trimmedLines, List.splitOnP_append_cons xs ys hc, List.map_append, List.filter_append]
  rfl

theorem trimmedLines_unbroken {cs : List Char} (h : ∀ c ∈ cs, ¬ isLineEnd c) :
    trimmedLines cs = if trimChars cs = [] then [] else [trimChars cs] := by
  rw [trimmedLines, List.splitOnP_eq_singleton fun c hc => by simpa using h c hc]
  by_cases ht : trimChars cs = [] <;> simp [ht]

/-- Blanks in front of a text are no part of its names, whether they end lines or not. -/
theorem trimmedLines_blank_append {u : List Char} (hu : Blank u) (cs : List Char) :
    trimmedLines (u ++ cs) = trimmedLines cs := by
  induction u with
  | nil => rfl
  | cons c u ih =>
      have hb : Blank [c] := fun d hd => hu d (by simp_all)
      rw [← ih fun d hd => hu d (List.mem_cons_of_mem c hd)]
      by_cases hc : isLineEnd c
      · exact trimmedLines_append hc [] (u ++ cs)
      · obtain ⟨l, ls, hl⟩ := List.exists_cons_of_ne_nil (List.splitOnP_ne_nil isLineEnd (u ++ cs))
        have ht : trimChars (c :: l) = trimChars l := trimChars_append_left hb
        simp [trimmedLines, List.splitOnP_cons_eq_if_modifyHead, hc, hl, ht]

theorem trimmedLines_name {n g rest : List Char} (hn : IsName n) (hg : Blank g)
    (hr : rest = [] ∨ ∃ c ∈ g, isLineEnd c) :
    trimmedLines (n ++ g ++ rest) = n :: trimmedLines rest := by
  have name (a : List Char) (ha : Blank a) (hu : ∀ c ∈ a, ¬ isLineEnd c) :
      trimmedLines (n ++ a) = [n] := by
    have ht : trimChars (n ++ a) = n := by
      rw [trimChars_append_right ha, (trimChars_eq_self_iff n).2 hn.unpadded]
    rw [trimmedLines_unbroken, ht, if_neg hn.ne_nil]
    intro c hc
    rcases List.mem_append.1 hc with hc | hc
    · exact hn.unbroken c hc
    · exact hu c hc
  cases hf : g.find? isLineEnd with
  | none =>
      have hu : ∀ c ∈ g, ¬ isLineEnd c := List.find?_eq_none.1 hf
      rcases hr with rfl | ⟨c, hc, he⟩
      · rw [List.append_nil, name g hg hu]
        rfl
      · exact absurd he (hu c hc)
  | some c =>
      -- the first line end of the gap ends the line of the name
      obtain ⟨hc, a, b, rfl, ha⟩ := List.find?_eq_some_iff_append.1 hf
      have hb : Blank b := fun d hd => hg d (by simp [hd])
      rw [show n ++ (a ++ c :: b) ++ rest = n ++ a ++ c :: (b ++ rest) by simp,
        trimmedLines_append hc, trimmedLines_blank_append hb,
        name a hg.of_append_left fun d hd => by simpa using ha d hd]
      rfl

theorem trimmedLines_entries (entries : List (List Char × List Char))
    (hb : ∀ e ∈ entries, Blank e.2) (hl : ∀ e ∈ entries.dropLast, ∃ c ∈ e.2, isLineEnd c)
    (hn : ∀ e ∈ entries, IsName e.1) :
    trimmedLines (entries.flatMap fun e => e.1 ++ e.2) = entries.map Prod.fst := by
  induction entries with
  | nil => rfl
  | cons e es ih =>
      rw [List.flatMap_cons, List.map_cons, trimmedLines_name (hn e (by simp)) (hb e (by simp)), ih]
      · exact fun d hd => hb d (by simp [hd])
      · cases es with
        | nil => simp
        | cons d ds => exact fun x hx => hl x (by simp [hx])
      · exact fun d hd => hn d (by simp [hd])
      · cases es with
        | nil => exact .inl rfl
        | cons d ds => exact .inr (hl e (by simp))

theorem Listing.trimmedLines_eq {lead source : List Char} {entries : List (List Char × List Char)}
    (h : Listing lead entries source) : trimmedLines source = entries.map Prod.fst := by
  rw [h.source_eq, trimmedLines_blank_append h.lead_blank,
    trimmedLines_entries entries h.gap_blank h.gap_broken h.name]

theorem isName_singleton {c : Char} (hc : ¬ isBlank c) : IsName [c] where
  ne_nil := List.cons_ne_nil c []
  unpadded := ⟨by simpa using hc, by simpa using hc⟩
  unbroken d hd := by
    rw [List.mem_singleton.1 hd]
    exact fun he => hc (isBlank_of_isLineEnd he)

theorem IsName.cons_append {c : Char} {u n : List Char} (hn : IsName n) (hc : ¬ isBlank c)
    (hu : ∀ d ∈ u, ¬ isLineEnd d) : IsName (c :: (u ++ n)) where
  ne_nil := List.cons_ne_nil c (u ++ n)
  unpadded := by
    refine ⟨by simpa using hc, fun d hd => hn.unpadded.last d ?_⟩
    obtain ⟨e, he⟩ := Option.ne_none_iff_exists'.1 (mt List.getLast?_eq_none_iff.1 hn.ne_nil)
    rwa [← List.cons_append, List.getLast?_append, he, Option.some_or, ← he] at hd
  unbroken d hd := by
    rcases List.mem_cons.1 hd with rfl | hd
    · exact fun he => hc (isBlank_of_isLineEnd he)
    · rcases List.mem_append.1 hd with hd | hd
      · exact hu d hd
      · exact hn.unbroken d hd

namespace Listing

variable {c : Char} {lead n g source : List Char} {entries : List (List Char × List Char)}

theorem cons_blank (h : Listing lead entries source) (hc : isBlank c) :
    Listing (c :: lead) entries (c :: source) where
  source_eq := by rw [h.source_eq]; rfl
  lead_blank d hd := by
    rcases List.mem_cons.1 hd with rfl | hd
    · exact hc
    · exact h.lead_blank d hd
  gap_blank := h.gap_blank
  gap_broken := h.gap_broken
  name := h.name

/-- A character in front of a gap that separates is a name of its own. -/
theorem cons_name (h : Listing lead entries source) (hc : ¬ isBlank c)
    (hs : entries = [] ∨ ∃ d ∈ lead, isLineEnd d) :
    Listing [] (([c], lead) :: entries) (c :: source) where
  source_eq := by rw [h.source_eq]; rfl
  lead_blank := by simp [Blank]
  gap_blank := List.forall_mem_cons.2 ⟨h.lead_blank, h.gap_blank⟩
  gap_broken := by
    rcases hs with rfl | hs
    · simp
    · cases entries with
      | nil => simp
      | cons e es => exact List.forall_mem_cons.2 ⟨hs, h.gap_broken⟩
  name := List.forall_mem_cons.2 ⟨isName_singleton hc, h.name⟩

/-- A character in front of blanks without a line end is part of the name behind them. -/
theorem cons_extend (h : Listing lead ((n, g) :: entries) source) (hc : ¬ isBlank c)
    (hu : ∀ d ∈ lead, ¬ isLineEnd d) :
    Listing [] ((c :: (lead ++ n), g) :: entries) (c :: source) where
  source_eq := by rw [h.source_eq]; simp
  lead_blank := by simp [Blank]
  gap_blank := List.forall_mem_cons.2 (List.forall_mem_cons.1 h.gap_blank)
  gap_broken := by
    cases entries with
    | nil => simp
    | cons e es => exact List.forall_mem_cons.2 (List.forall_mem_cons.1 h.gap_broken)
  name := by
    obtain ⟨hn, hes⟩ := List.forall_mem_cons.1 h.name
    exact List.forall_mem_cons.2 ⟨hn.cons_append hc hu, hes⟩

end Listing

/-- Every text lists some names. -/
theorem exists_listing (cs : List Char) : ∃ lead entries, Listing lead entries cs := by
  induction cs with
  | nil => exact ⟨[], [], ⟨rfl, by simp [Blank], by simp, by simp, by simp⟩⟩
  | cons c cs ih =>
      obtain ⟨lead, entries, h⟩ := ih
      by_cases hc : isBlank c
      · exact ⟨c :: lead, entries, h.cons_blank hc⟩
      · by_cases hs : ∃ d ∈ lead, isLineEnd d
        · exact ⟨[], ([c], lead) :: entries, h.cons_name hc (.inr hs)⟩
        · cases entries with
          | nil => exact ⟨[], [([c], lead)], h.cons_name hc (.inl rfl)⟩
          | cons e es =>
              have hu : ∀ d ∈ lead, ¬ isLineEnd d := fun d hd he => hs ⟨d, hd, he⟩
              exact ⟨[], (c :: (lead ++ e.1), e.2) :: es, h.cons_extend hc hu⟩

/-- Nothing but blanks names nothing. -/
theorem names_parse_eq_nil_iff (source : String) :
    (parse source).names = [] ↔ Blank source.toList := by
  obtain ⟨lead, entries, h⟩ := exists_listing source.toList
  have hnames : (parse source).names = [] ↔ entries = [] := by
    rw [← List.map_eq_nil_iff (f := NodeName.text), map_text_parse, h.trimmedLines_eq]
    simp
  rw [hnames]
  constructor
  · rintro rfl
    rw [h.source_eq, List.flatMap_nil, List.append_nil]
    exact h.lead_blank
  · intro hblank
    have ht : trimmedLines source.toList = trimmedLines [] := by
      rw [← trimmedLines_blank_append hblank [], List.append_nil]
    rw [h.trimmedLines_eq] at ht
    exact List.map_eq_nil_iff.1 ht

theorem isName_of_mem_parse {source : String} {n : NodeName} (hn : n ∈ (parse source).names) :
    IsName n.text.toList := by
  obtain ⟨lead, entries, h⟩ := exists_listing source.toList
  have ht : n.text ∈ (parse source).names.map NodeName.text := List.mem_map_of_mem hn
  rw [map_text_parse, h.trimmedLines_eq, List.map_map] at ht
  obtain ⟨e, he, hc⟩ := List.mem_map.1 ht
  rw [← hc, Function.comp_apply, String.toList_ofList]
  exact h.name e he

/-- A list of names is read from a text just when the text lists these names. -/
theorem names_parse_eq_iff (source : String) (names : List String) :
    (parse source).names.map NodeName.text = names ↔
      ∃ lead entries, Listing lead entries source.toList ∧
        names.map String.toList = entries.map Prod.fst := by
  constructor
  · rintro rfl
    obtain ⟨lead, entries, h⟩ := exists_listing source.toList
    refine ⟨lead, entries, h, ?_⟩
    rw [map_text_parse, h.trimmedLines_eq]
    simp [Function.comp_def]
  · rintro ⟨lead, entries, h, hn⟩
    rw [map_text_parse, h.trimmedLines_eq, ← hn]
    simp [Function.comp_def]

end VisitorHeader.NodeList
