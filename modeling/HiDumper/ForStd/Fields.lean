import Mathlib.Data.List.TakeWhile

/-!
# Fields of a list

The parts of a list between separators, without the empty ones: what a loop over
`stream >> word` reads, and what a split that drops empty parts returns. Separators at the
ends and several in a row make no fields, so a list may be cut at any separator and the
fields of the two sides put together.

## Key results

- `fields_append_sep`: the fields before and after a separator
- `fields_part_append`: a part that is not empty, at the beginning
- `fields_eq_nil_iff`: there are none only where all is separators
-/

namespace List

variable {α : Type*} (isSep : α → Bool)

/-- The parts between separators that are not empty. -/
def fields (l : List α) : List (List α) := (l.splitOnP isSep).filter (!·.isEmpty)

variable {isSep}

@[simp] theorem fields_nil : fields isSep [] = [] := rfl

/-- A separator ends a field, so the fields before and behind it are found apart. -/
theorem fields_append_sep (l : List α) {sep : α} (hsep : isSep sep = true) (rest : List α) :
    fields isSep (l ++ sep :: rest) = fields isSep l ++ fields isSep rest := by
  simp only [fields]
  rw [splitOnP_append_cons l rest hsep, filter_append]

/-- A separator at the begin makes no field. -/
theorem fields_cons_sep {sep : α} (hsep : isSep sep = true) (rest : List α) :
    fields isSep (sep :: rest) = fields isSep rest := by
  simpa using fields_append_sep [] hsep rest

/-- Separators in front. -/
theorem fields_seps_append {seps : List α} (hseps : ∀ c ∈ seps, isSep c = true) (rest : List α) :
    fields isSep (seps ++ rest) = fields isSep rest := by
  induction seps with
  | nil => rfl
  | cons sep seps ih =>
    rw [cons_append, fields_cons_sep (hseps sep mem_cons_self),
      ih fun c hc => hseps c (mem_cons_of_mem sep hc)]

/-- A part without separators is one field. -/
theorem fields_part {part : List α} (hne : part ≠ []) (hpart : ∀ c ∈ part, isSep c = false) :
    fields isSep part = [part] := by
  rw [fields, splitOnP_eq_singleton hpart]
  simp [hne]

/-- A part without separators, and a text that does not go on with it. -/
theorem fields_part_append {part rest : List α} (hne : part ≠ [])
    (hpart : ∀ c ∈ part, isSep c = false) (hrest : ∀ c, rest.head? = some c → isSep c = true) :
    fields isSep (part ++ rest) = part :: fields isSep rest := by
  cases rest with
  | nil => rw [append_nil, fields_part hne hpart, fields_nil]
  | cons sep rest =>
    have hsep := hrest sep rfl
    rw [fields_append_sep part hsep, fields_part hne hpart, fields_cons_sep hsep, singleton_append]

/-- Separators behind. -/
theorem fields_append_seps (l : List α) {seps : List α} (hseps : ∀ c ∈ seps, isSep c = true) :
    fields isSep (l ++ seps) = fields isSep l := by
  cases seps with
  | nil => rw [append_nil]
  | cons sep seps =>
    have hrest : fields isSep seps = [] := by
      simpa using fields_seps_append (fun c hc => hseps c (mem_cons_of_mem sep hc)) []
    rw [fields_append_sep l (hseps sep mem_cons_self), hrest, append_nil]

/-- Parts with a separator in between. -/
theorem fields_intercalate {sep : α} (hsep : isSep sep = true) {parts : List (List α)}
    (hparts : ∀ part ∈ parts, part ≠ [] ∧ ∀ c ∈ part, isSep c = false) :
    fields isSep ([sep].intercalate parts) = parts := by
  induction parts with
  | nil => rfl
  | cons part parts ih =>
    have hpart := hparts part mem_cons_self
    have hrest := ih fun p hp => hparts p (mem_cons_of_mem part hp)
    cases parts with
    | nil => simpa using fields_part hpart.1 hpart.2
    | cons next parts =>
      rw [intercalate_cons_of_ne_nil (cons_ne_nil _ _), append_assoc, singleton_append,
        fields_append_sep _ hsep, fields_part hpart.1 hpart.2, hrest, singleton_append]

/-- Fields are parts of the list that are not empty and hold no separator. -/
theorem of_mem_fields {l part : List α} (h : part ∈ fields isSep l) :
    part ≠ [] ∧ (∀ c ∈ part, isSep c = false) ∧ part <:+: l := by
  have hne : part ≠ [] := by
    have hpart := (mem_filter.mp h).2
    simpa using hpart
  refine ⟨hne, ?_⟩
  -- Cut the list at a separator, as long as there is one.
  induction hlen : l.length using Nat.strongRecOn generalizing l with
  | ind n ih =>
    by_cases hall : ∀ c ∈ l, isSep c = false
    · by_cases hl : l = []
      · rw [hl] at h
        exact absurd h not_mem_nil
      · rw [fields_part hl hall, mem_singleton] at h
        subst h
        exact ⟨hall, infix_refl part⟩
    · simp only [not_forall, Bool.not_eq_false] at hall
      obtain ⟨sep, hmem, hsep⟩ := hall
      obtain ⟨front, rest, rfl⟩ := append_of_mem hmem
      rw [fields_append_sep front hsep, mem_append] at h
      rcases h with hfront | hback
      · obtain ⟨hpart, hinfix⟩ := ih front.length (by simp [← hlen]) hfront rfl
        exact ⟨hpart, infix_append_of_infix_left hinfix⟩
      · obtain ⟨hpart, hinfix⟩ := ih rest.length (by simp [← hlen]; omega) hback rfl
        exact ⟨hpart, infix_append_of_infix_right (infix_cons hinfix)⟩

/-- All elements are separators if there are no fields. -/
theorem fields_eq_nil_iff {l : List α} : fields isSep l = [] ↔ ∀ c ∈ l, isSep c = true := by
  constructor
  · intro h
    induction l with
    | nil => simp
    | cons c l ih =>
      by_cases hc : isSep c = true
      · rw [fields_cons_sep hc] at h
        simpa [hc] using ih h
      · -- The part that begins with `c` would be a field.
        have htake : ∀ d ∈ (c :: l).takeWhile (!isSep ·), isSep d = false := fun d hd => by
          simpa using mem_takeWhile_imp hd
        have hhead : ∀ d, ((c :: l).dropWhile (!isSep ·)).head? = some d → isSep d = true := by
          intro d hd
          have hnot := head?_dropWhile_not (!isSep ·) (c :: l)
          rw [hd] at hnot
          simpa using hnot
        have hne : (c :: l).takeWhile (!isSep ·) ≠ [] := by simp [hc]
        rw [← takeWhile_append_dropWhile (p := (!isSep ·)) (l := c :: l),
          fields_part_append hne htake hhead] at h
        exact absurd h (cons_ne_nil _ _)
  · intro h
    simpa using fields_seps_append h []

end List
