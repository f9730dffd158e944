import HiDumper.Native.Executors
import Mathlib.Data.Nat.Basic

/-!
# What FilterControlChar leaves

The filter drops line breaks and control sequences: an ESC with a `[` right behind it and
everything up to the next letter. What stays is exactly the text outside of these. But the
text is read once only, and what is dropped can have stood between an ESC and a `[`: then
the result has a control sequence of its own. This is the one way in which a sequence is
left, and in which a second pass changes anything.

## Key results

- `filterControlChars_eq`: the characters that stay, by their positions
- `infix_filterControlChars_iff`: when an ESC and a `[` come together
- `filtersControlChars_iff`: when the result is free of control sequences
-/

namespace HiDumper.Spec

open HiDumper.Native

/-! ## Control sequences of a text -/

/-- An ESC with a `[` right behind it. -/
def StartsAt (s : List Char) (i : Nat) : Prop := s[i]? = some '\x1b' ∧ s[i + 1]? = some '['

/-- A letter, which ends a control sequence. -/
def LetterAt (s : List Char) (i : Nat) : Prop := s[i]?.any (·.isAlpha) = true

def LineBreakAt (s : List Char) (i : Nat) : Prop := s[i]? = some '\r' ∨ s[i]? = some '\n'

/-- A position from an ESC with a `[` behind it to the next letter, if there is one. -/
def InControlSequence (s : List Char) (i : Nat) : Prop :=
  ∃ j ≤ i, StartsAt s j ∧ ∀ k < i, j ≤ k → ¬LetterAt s k

/-- Outside of control sequences and line breaks. -/
def OutsideAt (s : List Char) (i : Nat) : Prop := ¬InControlSequence s i ∧ ¬LineBreakAt s i

/-- An ESC and a `[`, both outside of control sequences and with nothing but control
    sequences and line breaks between them. -/
def ComeTogether (s : List Char) : Prop :=
  ∃ i k, i < k ∧ s[i]? = some '\x1b' ∧ s[k]? = some '[' ∧ OutsideAt s i ∧ OutsideAt s k ∧
    ∀ m, i < m → m < k → ¬OutsideAt s m

instance (s : List Char) (i : Nat) : Decidable (StartsAt s i) :=
  inferInstanceAs (Decidable (_ ∧ _))

instance (s : List Char) (i : Nat) : Decidable (LetterAt s i) :=
  inferInstanceAs (Decidable (_ = _))

instance (s : List Char) (i : Nat) : Decidable (LineBreakAt s i) :=
  inferInstanceAs (Decidable (_ ∨ _))

instance (s : List Char) (i : Nat) : Decidable (InControlSequence s i) :=
  inferInstanceAs (Decidable (∃ j ≤ i, StartsAt s j ∧ ∀ k < i, j ≤ k → ¬LetterAt s k))

instance (s : List Char) (i : Nat) : Decidable (OutsideAt s i) :=
  inferInstanceAs (Decidable (_ ∧ _))

/-! ## The positions that stay -/

/-- A control sequence that begins before a position and has not ended there. -/
def IsOpenAt (s : List Char) (i : Nat) : Prop :=
  ∃ j < i, StartsAt s j ∧ ∀ k < i, j ≤ k → ¬LetterAt s k

/-- A position is in a control sequence if one is open there or starts there. -/
private theorem inControlSequence_iff {s : List Char} {i : Nat} :
    InControlSequence s i ↔ IsOpenAt s i ∨ StartsAt s i := by
  constructor
  · rintro ⟨j, hj, hstart, hletters⟩
    obtain hlt | rfl := Nat.lt_or_eq_of_le hj
    · exact .inl ⟨j, hlt, hstart, hletters⟩
    · exact .inr hstart
  · rintro (⟨j, hj, hstart, hletters⟩ | hstart)
    · exact ⟨j, Nat.le_of_lt hj, hstart, hletters⟩
    · exact ⟨i, Nat.le_refl i, hstart, fun k hk hik => by omega⟩

/-- A sequence stays open up to its first letter. -/
private theorem isOpenAt_succ_iff {s : List Char} {i : Nat} :
    IsOpenAt s (i + 1) ↔ InControlSequence s i ∧ ¬LetterAt s i := by
  constructor
  · rintro ⟨j, hj, hstart, hletters⟩
    refine ⟨⟨j, by omega, hstart, fun k hk => hletters k (by omega)⟩, ?_⟩
    exact hletters i (by omega) (by omega)
  · rintro ⟨⟨j, hj, hstart, hletters⟩, hletter⟩
    refine ⟨j, by omega, hstart, fun k hk hjk => ?_⟩
    by_cases hki : k = i
    · rwa [hki]
    · exact hletters k (by omega) hjk

/-- Inside the text, the flag of the loop says whether a control sequence is open. -/
theorem filterControlChars_eq (done rest : List Char) (skip : Bool)
    (hskip : skip = true ↔ IsOpenAt (done ++ rest) done.length) :
    filterControlChars skip rest =
      ((rest.zipIdx done.length).filter fun p => OutsideAt (done ++ rest) p.2).map (·.1) := by
  induction rest generalizing done skip with
  | nil => rfl
  | cons c cs ih =>
    have hshift : done ++ c :: cs = (done ++ [c]) ++ cs := by simp
    have hhere : (done ++ c :: cs)[done.length]? = some c := by simp
    have hnext : (done ++ c :: cs)[done.length + 1]? = cs.head? := by
      rw [List.getElem?_append_right (by omega), Nat.add_sub_cancel_left, List.head?_eq_getElem?]
      rfl
    have hletter : LetterAt (done ++ c :: cs) done.length ↔ c.isAlpha = true := by
      rw [LetterAt, hhere, Option.any_some]
    have hbreak : LineBreakAt (done ++ c :: cs) done.length ↔ c = '\r' ∨ c = '\n' := by
      rw [LineBreakAt, hhere, Option.some.injEq, Option.some.injEq]
    -- The flag after the look at the next character.
    generalize hflag :
      decide (if !skip && c = '\x1b' && cs ≠ [] then cs.head? = some '[' else skip) = flag
    have hin : flag = true ↔ InControlSequence (done ++ c :: cs) done.length := by
      rw [inControlSequence_iff, ← hskip, StartsAt, hhere, hnext, ← hflag]
      cases skip with
      | true => simp
      | false => cases cs <;> simp
    have hstep : ∀ next : Bool, (next = true ↔ flag = true ∧ ¬c.isAlpha = true) →
        filterControlChars next cs = ((cs.zipIdx (done.length + 1)).filter fun p =>
          OutsideAt (done ++ c :: cs) p.2).map (·.1) := by
      intro next hnext
      have hopen : next = true ↔ IsOpenAt ((done ++ [c]) ++ cs) (done ++ [c]).length := by
        rw [List.length_append, List.length_singleton, ← hshift, isOpenAt_succ_iff, ← hin, hletter]
        exact hnext
      have hrest := ih (done ++ [c]) next hopen
      rwa [List.length_append, List.length_singleton, ← hshift] at hrest
    have houtside : OutsideAt (done ++ c :: cs) done.length ↔
        ¬(flag || c = '\r' || c = '\n') = true := by
      rw [OutsideAt, ← hin, hbreak, ← not_or, Bool.or_eq_true, Bool.or_eq_true, or_assoc,
        decide_eq_true_iff, decide_eq_true_iff]
    rw [filterControlChars, hflag, List.zipIdx_cons, List.filter_cons]
    by_cases hend : (flag && c.isAlpha) = true
    · -- A letter ends the sequence and is part of it.
      rw [Bool.and_eq_true] at hend
      rw [if_pos (by simp [hend]), if_neg (by simp [houtside, hend.1])]
      exact hstep false (by simp [hend])
    · rw [Bool.and_eq_true, not_and] at hend
      by_cases hdrop : (flag || c = '\r' || c = '\n') = true
      · rw [if_neg (by simpa using hend), if_pos hdrop, if_neg]
        · exact hstep flag ⟨fun h => ⟨h, hend h⟩, fun h => h.1⟩
        · rw [decide_eq_true_iff, houtside]
          exact not_not.mpr hdrop
      · rw [if_neg (by simpa using hend), if_neg hdrop, if_pos, List.map_cons]
        · exact congrArg (c :: ·) (hstep flag ⟨fun h => ⟨h, hend h⟩, fun h => h.1⟩)
        · rw [decide_eq_true_iff, houtside]
          exact hdrop

/-- The characters that stay, with their positions. -/
def keptAt (s : List Char) : List (Char × Nat) := s.zipIdx.filter fun p => OutsideAt s p.2

/-- The filter keeps the characters at the positions outside, in order. -/
private theorem filterControlChars_false (s : List Char) :
    filterControlChars false s = (keptAt s).map (·.1) := by
  have hopen : false = true ↔ IsOpenAt ([] ++ s) ([] : List Char).length := by
    constructor
    · exact fun h => nomatch h
    · rintro ⟨j, hj, -⟩
      exact absurd hj (Nat.not_lt_zero j)
  exact filterControlChars_eq [] s false hopen

/-- A character is kept if its position is outside all control sequences. -/
private theorem mem_keptAt {s : List Char} {c : Char} {i : Nat} :
    (c, i) ∈ keptAt s ↔ s[i]? = some c ∧ OutsideAt s i := by
  rw [keptAt, List.mem_filter, List.mk_mem_zipIdx_iff_getElem?, decide_eq_true_iff]

/-! ## What comes together -/

/-- What stays is in the order of the text. -/
private theorem pairwise_keptAt (s : List Char) : (keptAt s).Pairwise fun p q => p.2 < q.2 := by
  apply List.Pairwise.filter
  rw [← List.pairwise_map, List.zipIdx_map_snd]
  exact List.pairwise_lt_range'

/-- An ESC and a `[` stand side by side in the result where they come together. -/
theorem infix_filterControlChars_iff (s : List Char) :
    ['\x1b', '['] <:+: filterControlChars false s ↔ ComeTogether s := by
  have hsorted := pairwise_keptAt s
  rw [filterControlChars_false]
  constructor
  · rintro ⟨before, after, hresult⟩
    rw [List.append_assoc, eq_comm, List.map_eq_append_iff] at hresult
    obtain ⟨kept, kept', hkept, -, hrest⟩ := hresult
    rw [List.cons_append, List.map_eq_cons_iff] at hrest
    obtain ⟨⟨esc, i⟩, rest, rfl, rfl, hrest⟩ := hrest
    rw [List.cons_append, List.map_eq_cons_iff] at hrest
    obtain ⟨⟨bracket, k⟩, rest, rfl, rfl, -⟩ := hrest
    have hesc := mem_keptAt.mp (hkept ▸ List.mem_append_right kept List.mem_cons_self)
    have hbracket := mem_keptAt.mp
      (hkept ▸ List.mem_append_right kept (List.mem_cons_of_mem _ List.mem_cons_self))
    rw [hkept, List.pairwise_append, List.pairwise_cons, List.pairwise_cons] at hsorted
    obtain ⟨-, ⟨hfirst, hsecond, -⟩, hcross⟩ := hsorted
    refine ⟨i, k, hfirst _ List.mem_cons_self, hesc.1, hbracket.1, hesc.2, hbracket.2, ?_⟩
    -- A character that stays between them would stand between them in the result.
    intro m him hmk houtside
    obtain ⟨hk, -⟩ := List.getElem?_eq_some_iff.mp hbracket.1
    have hmem : (s[m], m) ∈ keptAt s :=
      mem_keptAt.mpr ⟨List.getElem?_eq_getElem (by omega), houtside⟩
    rw [hkept, List.mem_append, List.mem_cons, List.mem_cons] at hmem
    obtain hmem | heq | heq | hmem := hmem
    · have hlt := hcross _ hmem _ List.mem_cons_self
      simp only at hlt
      omega
    · rw [Prod.mk.injEq] at heq
      omega
    · rw [Prod.mk.injEq] at heq
      omega
    · have hlt := hsecond _ hmem
      simp only at hlt
      omega
  · rintro ⟨i, k, hik, hesc, hbracket, houti, houtk, hbetween⟩
    obtain ⟨kept, rest, hkept⟩ := List.append_of_mem (mem_keptAt.mpr ⟨hesc, houti⟩)
    have hmem : ('[', k) ∈ keptAt s := mem_keptAt.mpr ⟨hbracket, houtk⟩
    rw [hkept, List.pairwise_append, List.pairwise_cons] at hsorted
    obtain ⟨-, ⟨hafter, hrest⟩, hcross⟩ := hsorted
    rw [hkept, List.mem_append, List.mem_cons] at hmem
    obtain hmem | heq | hmem := hmem
    · have hlt := hcross _ hmem _ List.mem_cons_self
      simp only at hlt
      omega
    · rw [Prod.mk.injEq] at heq
      omega
    · cases rest with
      | nil => exact nomatch hmem
      | cons p rest =>
        -- The next character that stays is the bracket.
        have hp : p = ('[', k) := by
          obtain heq | hlater := List.mem_cons.mp hmem
          · exact heq.symm
          · have hlt := (List.pairwise_cons.mp hrest).1 _ hlater
            have hgt := hafter p List.mem_cons_self
            have hstays := mem_keptAt.mp
              (hkept ▸ List.mem_append_right kept (List.mem_cons_of_mem _ List.mem_cons_self) :
                (p.1, p.2) ∈ keptAt s)
            exact absurd hstays.2 (hbetween p.2 hgt hlt)
        rw [hkept, hp]
        exact ⟨kept.map (·.1), rest.map (·.1), by simp⟩

/-! ## A second pass -/

/-- Where there are no line breaks, the filter leaves a text as it is exactly when no ESC
    stands before a `[`. -/
private theorem filterControlChars_eq_self_iff {s : List Char}
    (hbreaks : ∀ c ∈ s, c ≠ '\r' ∧ c ≠ '\n') :
    filterControlChars false s = s ↔ ¬['\x1b', '['] <:+: s := by
  have hself : filterControlChars false s = s ↔ ∀ i < s.length, OutsideAt s i := by
    rw [filterControlChars_false]
    constructor
    · intro heq i hi
      have hlength := congrArg List.length heq
      rw [List.length_map, keptAt, ← List.length_zipIdx (l := s) (i := 0)] at hlength
      have hall := List.length_filter_eq_length_iff.mp hlength (s[i], i)
        (List.mk_mem_zipIdx_iff_getElem?.mpr (List.getElem?_eq_getElem hi))
      exact of_decide_eq_true hall
    · intro hall
      have hfilter : keptAt s = s.zipIdx := by
        rw [keptAt, List.filter_eq_self]
        intro p hp
        have hi := (List.mem_zipIdx (x := p.1) (i := p.2) hp).2.1
        exact decide_eq_true (hall p.2 (by omega))
      rw [hfilter, List.zipIdx_map_fst]
  rw [hself]
  constructor
  · rintro hall ⟨before, after, rfl⟩
    -- The ESC would start a control sequence.
    have hstart : StartsAt (before ++ ['\x1b', '['] ++ after) before.length := by
      constructor
      · simp
      · rw [List.append_assoc, List.getElem?_append_right (by omega), Nat.add_sub_cancel_left]
        rfl
    refine (hall before.length (by simp)).1 ?_
    exact ⟨before.length, Nat.le_refl _, hstart, fun k hk hle => by omega⟩
  · intro hpair i hi
    refine ⟨?_, ?_⟩
    · rintro ⟨j, -, ⟨hesc, hbracket⟩, -⟩
      apply hpair
      obtain ⟨hj, hesc⟩ := List.getElem?_eq_some_iff.mp hesc
      obtain ⟨hj', hbracket⟩ := List.getElem?_eq_some_iff.mp hbracket
      refine ⟨s.take j, s.drop (j + 2), ?_⟩
      rw [List.append_assoc, ← hesc, ← hbracket, List.cons_append, List.cons_append,
        List.nil_append, ← List.drop_eq_getElem_cons, ← List.drop_eq_getElem_cons,
        List.take_append_drop]
    · rintro (hcr | hlf)
      · exact (hbreaks _ (List.mem_of_getElem? hcr)).1 rfl
      · exact (hbreaks _ (List.mem_of_getElem? hlf)).2 rfl

/-! ## The result -/

/-- What the filter is meant to do. -/
structure FiltersControlChars (str result : String) : Prop where
  noLineBreak : '\r' ∉ result.toList ∧ '\n' ∉ result.toList
  noSequence : ¬['\x1b', '['] <:+: result.toList
  stable : filterControlChar result = result
  /-- The result is the text at some positions in order, and these include all that are
      outside of control sequences and line breaks. -/
  keeps : ∃ positions : List Nat, positions.Pairwise (· < ·) ∧
    positions.map (str.toList[·]?) = result.toList.map some ∧
    ∀ i < str.toList.length, OutsideAt str.toList i → i ∈ positions

/-- The filter does what it is meant to do exactly where no ESC and `[` come together. -/
theorem filtersControlChars_iff (str : String) :
    FiltersControlChars str (filterControlChar str) ↔ ¬ComeTogether str.toList := by
  have htext : (filterControlChar str).toList = filterControlChars false str.toList :=
    String.toList_ofList
  have hkept := filterControlChars_false str.toList
  -- No line break is kept.
  have hbreaks : ∀ c ∈ filterControlChars false str.toList, c ≠ '\r' ∧ c ≠ '\n' := by
    intro c hc
    rw [hkept] at hc
    obtain ⟨⟨c, i⟩, hmem, rfl⟩ := List.mem_map.mp hc
    obtain ⟨hat, houtside⟩ := mem_keptAt.mp hmem
    constructor
    · exact fun heq => houtside.2 (.inl (heq ▸ hat))
    · exact fun heq => houtside.2 (.inr (heq ▸ hat))
  constructor
  · intro hfilters
    have hpair := hfilters.noSequence
    rwa [htext, infix_filterControlChars_iff] at hpair
  · intro hnot
    have hpair : ¬['\x1b', '['] <:+: filterControlChars false str.toList := by
      rwa [infix_filterControlChars_iff]
    constructor
    case noLineBreak =>
      rw [htext]
      exact ⟨fun h => (hbreaks _ h).1 rfl, fun h => (hbreaks _ h).2 rfl⟩
    case noSequence => rwa [htext]
    case stable =>
      apply String.ext
      rw [filterControlChar, htext, String.toList_ofList]
      exact (filterControlChars_eq_self_iff hbreaks).mpr hpair
    case keeps =>
      refine ⟨(keptAt str.toList).map (·.2), ?_, ?_, ?_⟩
      · exact List.pairwise_map.mpr (pairwise_keptAt str.toList)
      · rw [htext, hkept, List.map_map, List.map_map]
        apply List.map_congr_left
        rintro ⟨c, i⟩ hmem
        exact (mem_keptAt.mp hmem).1
      · intro i hi houtside
        exact List.mem_map.mpr ⟨(str.toList[i], i),
          mem_keptAt.mpr ⟨List.getElem?_eq_getElem hi, houtside⟩, rfl⟩

/-- A line break between an ESC and a `[`. -/
theorem not_filtersControlChars_splitEscape :
    ¬FiltersControlChars "\x1b\r[31mred" (filterControlChar "\x1b\r[31mred") := by
  intro hfilters
  have hresult : (filterControlChar "\x1b\r[31mred").toList = "\x1b[31mred".toList := by decide
  have hpair := hfilters.noSequence
  rw [hresult] at hpair
  exact hpair (by decide)

end HiDumper.Spec
