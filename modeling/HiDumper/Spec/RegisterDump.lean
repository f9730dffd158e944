import HiDumper.ForStd.Slices
import HiDumper.Native.HardwareInfo
import HiDumper.Spec.SplitTexts
import Mathlib.Tactic.Linarith
import Mathlib.Tactic.Ring

/-!
# Registers that xxd prints

What `GetHardwareInfo::RegStrToRegValue` adds up for the output of `xxd -g 4`. A line has an
offset, the bytes in up to four groups of hexadecimal digits, and the same bytes as text. The
fourth word of a line is taken for a number; `HexToDec` knows the digits and the letters in
upper case, while `xxd` prints them in lower case. On a line with fewer groups the text is
counted on, up to its first colon.

## Key results

- `hexToDec_eq`: `HexToDec` is Horner's scheme with its own weights
- `horner_hexWord`: what a group counts for
- `getValue_lineData_iff`: when one line adds the right number
- `addsFourthWords_iff`: the same for whole outputs
-/

namespace HiDumper.Spec

open HiDumper.Native StringUtils GetHardwareInfo Scanf

/-! ## The output of xxd -/

/-- A hexadecimal digit in lower case. -/
def hexChar (n : Nat) : Char := Char.ofNat (if n < 10 then 48 + n else 87 + n)

/-- The digits of some bytes. -/
def hexWord (bytes : List UInt8) : List Char :=
  bytes.flatMap fun b => [hexChar (b.toNat / 16), hexChar (b.toNat % 16)]

/-- The number that the digits stand for. -/
def wordValue (bytes : List UInt8) : Nat := bytes.foldl (fun n b => 256 * n + b.toNat) 0

/-- A byte in the text column. -/
def asciiChar (b : UInt8) : Char :=
  if 32 ≤ b.toNat ∧ b.toNat ≤ 126 then Char.ofNat b.toNat else '.'

/-- A line of `xxd -g 4`. -/
structure XxdLine where
  offset : HexNumeral
  bytes : List UInt8
  length_bytes : bytes.length ≤ 16

namespace XxdLine

/-- The bytes in groups of four; the last group may be shorter. -/
def groups (line : XxdLine) : List (List UInt8) :=
  (List.range ((line.bytes.length + 3) / 4)).map (List.slice 4 line.bytes)

/-- The column of the groups, 35 characters wide. -/
def hexColumn (line : XxdLine) : List Char :=
  let words := [' '].intercalate (line.groups.map hexWord)
  words ++ List.replicate (35 - words.length) ' '

/-- The column of the text. -/
def ascii (line : XxdLine) : List Char := line.bytes.map asciiChar

/-- Behind the colon of the offset. -/
def data (line : XxdLine) : List Char := ' ' :: (line.hexColumn ++ ' ' :: ' ' :: line.ascii)

def text (line : XxdLine) : String := String.ofList (line.offset.digits ++ ':' :: line.data)

/-- What the line should add: the number in its fourth group. -/
def fourthWord (line : XxdLine) : UInt64 :=
  match line.groups[3]? with
  | some group => UInt64.ofNat (wordValue group)
  | none => 0

end XxdLine

/-! ## Numbers -/

/-- Horner's scheme with the weights of `HexToDec`, as long as it does not get negative. -/
def horner : Int → List Char → Option Int
  | n, [] => some n
  | n, c :: str => if 0 ≤ 16 * n + hexDigit c then horner (16 * n + hexDigit c) str else none

/-- `HexToDec` goes on from a number whose last digits are still zeros. -/
theorem hexToDec_eq {str : List Char} (hstr : ∀ c ∈ str, hexDigit c ≤ 75) {n : Int} (hn : 0 ≤ n)
    (hfits : (n + 5) * 16 ^ str.length < UInt64.size) {value : UInt64}
    (hvalue : (value.toNat : Int) = n * 16 ^ str.length) :
    hexToDec str value = (horner n str).map fun n => UInt64.ofNat n.toNat := by
  induction str generalizing n value with
  | nil =>
    rw [List.length_nil, pow_zero, mul_one] at hvalue
    rw [hexToDec, horner, Option.map_some, ← hvalue, Int.toNat_natCast, UInt64.ofNat_toNat]
  | cons c str ih =>
    have hc := hstr c List.mem_cons_self
    have hpos : (0 : Int) < 16 ^ str.length := pow_pos (by decide) _
    have hnext : (value.toNat : Int) + hexDigit c * 16 ^ str.length =
        (16 * n + hexDigit c) * 16 ^ str.length := by
      rw [hvalue, List.length_cons, pow_succ]
      ring
    -- A character counts for at most 75, so five more than the number still fit.
    have hbound : (16 * n + hexDigit c + 5) * 16 ^ str.length < UInt64.size := by
      have hle : (16 * n + hexDigit c + 5) * 16 ^ str.length ≤
          (n + 5) * 16 ^ (c :: str).length := by
        rw [List.length_cons, pow_succ, show (n + 5) * (16 ^ str.length * 16) =
          (16 * n + 80) * 16 ^ str.length by ring]
        exact mul_le_mul_of_nonneg_right (by omega) hpos.le
      omega
    rw [hexToDec, hnext, horner]
    by_cases hsign : 0 ≤ 16 * n + hexDigit c
    · have hlt : (16 * n + hexDigit c) * 16 ^ str.length < UInt64.size := by
        have hadd : (16 * n + hexDigit c + 5) * 16 ^ str.length =
            (16 * n + hexDigit c) * 16 ^ str.length + 5 * 16 ^ str.length := by ring
        omega
      have hnonneg : 0 ≤ (16 * n + hexDigit c) * 16 ^ str.length := mul_nonneg hsign hpos.le
      rw [if_pos hsign, toUInt64, if_pos ⟨hnonneg, hlt⟩, Option.bind_some]
      apply ih (fun d hd => hstr d (List.mem_cons_of_mem c hd)) hsign hbound
      rw [UInt64.toNat_ofNat_of_lt' (by omega), Int.toNat_of_nonneg hnonneg]
    · -- A negative number is out of range whatever digits follow.
      have hneg : ¬0 ≤ (16 * n + hexDigit c) * 16 ^ str.length := by
        rw [not_le]
        exact mul_neg_of_neg_of_pos (by omega) hpos
      rw [if_neg hsign, toUInt64, if_neg fun h => hneg h.1]
      rfl

/-- Words of weights up to 75 do not get larger than numbers with the digit 5 in front. -/
private theorem of_horner_eq_some {str : List Char} (hstr : ∀ c ∈ str, hexDigit c ≤ 75) {n r : Int}
    (hn : 0 ≤ n) (h : horner n str = some r) : 0 ≤ r ∧ r + 5 ≤ (n + 5) * 16 ^ str.length := by
  induction str generalizing n with
  | nil =>
    rw [horner, Option.some.injEq] at h
    subst h
    simpa using hn
  | cons c str ih =>
    rw [horner] at h
    split at h
    · rename_i hsign
      have hc := hstr c List.mem_cons_self
      have hpos : (0 : Int) < 16 ^ str.length := pow_pos (by decide) _
      obtain ⟨hr, hle⟩ := ih (fun d hd => hstr d (List.mem_cons_of_mem c hd)) hsign h
      refine ⟨hr, ?_⟩
      -- A digit is at most 75, so `n + 5` grows at most by the factor 16.
      calc r + 5
        _ ≤ (16 * n + hexDigit c + 5) * 16 ^ str.length := hle
        _ ≤ (16 * n + 80) * 16 ^ str.length := mul_le_mul_of_nonneg_right (by omega) hpos.le
        _ = (n + 5) * 16 ^ (c :: str).length := by
          rw [List.length_cons, pow_succ]
          ring
    · exact absurd h (by simp)

/-- `HexToDec` of a word from the start, for words of up to 14 characters. -/
private theorem hexToDec_zero {str : List Char} (hstr : ∀ c ∈ str, hexDigit c ≤ 75)
    (hlen : str.length ≤ 14) :
    hexToDec str 0 = (horner 0 str).map fun n => UInt64.ofNat n.toNat := by
  have hpow : (16 : Int) ^ str.length ≤ 16 ^ 14 := pow_le_pow_right₀ (by decide) hlen
  have hsize : (UInt64.size : Int) = 18446744073709551616 := rfl
  apply hexToDec_eq hstr le_rfl
  · rw [hsize]
    norm_num at hpow ⊢
    omega
  · rw [zero_mul]
    rfl

/-! ## Groups -/

/-- 1 for a digit that is a letter. -/
def letter (n : Nat) : Nat := if n < 10 then 0 else 1

/-- The digits of some bytes that are letters, as the number with a 1 in their places. -/
def letters (bytes : List UInt8) : Nat :=
  bytes.foldl (fun n b => 256 * n + (16 * letter (b.toNat / 16) + letter (b.toNat % 16))) 0

/-- A hexadecimal digit in lower case counts 32 too much if it is a letter. -/
private theorem hexChar_of_lt {n : Nat} (hn : n < 16) :
    hexDigit (hexChar n) = n + 32 * (letter n : Nat) ∧ isSpace (hexChar n) = false ∧
      hexChar n ≠ ':' := by
  have hall : ∀ n < 16, hexDigit (hexChar n) = n + 32 * (letter n : Nat) ∧
      isSpace (hexChar n) = false ∧ hexChar n ≠ ':' := by decide
  exact hall n hn

/-- The words are made of digits. -/
private theorem mem_hexWord {bytes : List UInt8} {c : Char} (h : c ∈ hexWord bytes) :
    ∃ n < 16, c = hexChar n := by
  obtain ⟨b, -, hc⟩ := List.mem_flatMap.mp h
  have hb := b.toNat_lt_size
  simp only [UInt8.size] at hb
  simp only [List.mem_cons, List.not_mem_nil, or_false] at hc
  rcases hc with rfl | rfl
  · exact ⟨b.toNat / 16, by omega, rfl⟩
  · exact ⟨b.toNat % 16, Nat.mod_lt _ (by decide), rfl⟩

/-- Two digits for each byte. -/
private theorem length_hexWord (bytes : List UInt8) :
    (hexWord bytes).length = 2 * bytes.length := by
  induction bytes with
  | nil => rfl
  | cons b bytes ih =>
    have hcons : hexWord (b :: bytes) =
        hexChar (b.toNat / 16) :: hexChar (b.toNat % 16) :: hexWord bytes := rfl
    rw [hcons, List.length_cons, List.length_cons, List.length_cons, ih]
    omega

/-- In the weights of `HexToDec` a letter counts for 32 more than it should. -/
private theorem horner_hexWord_aux (bytes : List UInt8) (n m : Nat) :
    horner ((n + 32 * m : Nat) : Int) (hexWord bytes) =
      some ((bytes.foldl (fun n b => 256 * n + b.toNat) n +
        32 * bytes.foldl
          (fun n b => 256 * n + (16 * letter (b.toNat / 16) + letter (b.toNat % 16))) m : Nat) :
        Int) := by
  induction bytes generalizing n m with
  | nil => rfl
  | cons b bytes ih =>
    have hb := b.toNat_lt_size
    simp only [UInt8.size] at hb
    have hhigh := (hexChar_of_lt (show b.toNat / 16 < 16 by omega)).1
    have hlow := (hexChar_of_lt (show b.toNat % 16 < 16 by omega)).1
    have hcons : hexWord (b :: bytes) =
        hexChar (b.toNat / 16) :: hexChar (b.toNat % 16) :: hexWord bytes := rfl
    -- A byte is two digits, and `n` and `m` keep the number and the surplus apart.
    have hfirst : 16 * ((n + 32 * m : Nat) : Int) + hexDigit (hexChar (b.toNat / 16)) =
        ((16 * n + b.toNat / 16) + 32 * (16 * m + letter (b.toNat / 16)) : Nat) := by
      rw [hhigh]
      push_cast
      ring
    have hsecond : 16 * (((16 * n + b.toNat / 16) + 32 * (16 * m + letter (b.toNat / 16)) : Nat) :
        Int) + hexDigit (hexChar (b.toNat % 16)) =
        ((256 * n + b.toNat) +
          32 * (256 * m + (16 * letter (b.toNat / 16) + letter (b.toNat % 16))) : Nat) := by
      rw [hlow]
      omega
    rw [hcons, horner, hfirst, if_pos (Int.natCast_nonneg _), horner, hsecond,
      if_pos (Int.natCast_nonneg _), ih]
    rfl

/-- What `HexToDec` makes of a word: its value, and 32 times the weights of its letters. -/
theorem horner_hexWord (bytes : List UInt8) :
    horner 0 (hexWord bytes) = some ((wordValue bytes + 32 * letters bytes : Nat) : Int) :=
  horner_hexWord_aux bytes 0 0

/-- Bytes with weights below 256 stay below the power. -/
private theorem foldl_lt {f : UInt8 → Nat} (hf : ∀ b, f b < 256) (bytes : List UInt8) (n : Nat) :
    bytes.foldl (fun n b => 256 * n + f b) n < (n + 1) * 256 ^ bytes.length := by
  induction bytes generalizing n with
  | nil => simp
  | cons b bytes ih =>
    have hb := hf b
    calc bytes.foldl (fun n b => 256 * n + f b) (256 * n + f b)
      _ < (256 * n + f b + 1) * 256 ^ bytes.length := ih _
      _ ≤ (n + 1) * 256 * 256 ^ bytes.length := Nat.mul_le_mul_right _ (by omega)
      _ = (n + 1) * 256 ^ (b :: bytes).length := by
        rw [List.length_cons, pow_succ, Nat.mul_assoc, Nat.mul_comm 256]

/-- The letters weigh nothing exactly if there are none. -/
private theorem letters_eq_zero_iff (bytes : List UInt8) :
    letters bytes = 0 ↔ ∀ b ∈ bytes, b.toNat / 16 < 10 ∧ b.toNat % 16 < 10 := by
  have hletter : ∀ n, letter n = 0 ↔ n < 10 := by
    intro n
    unfold letter
    split <;> simp_all
  -- A sum of natural numbers is 0 only if each summand is.
  have hfold : ∀ m, bytes.foldl (fun n b => 256 * n +
      (16 * letter (b.toNat / 16) + letter (b.toNat % 16))) m = 0 ↔
      m = 0 ∧ ∀ b ∈ bytes, b.toNat / 16 < 10 ∧ b.toNat % 16 < 10 := by
    induction bytes with
    | nil => simp
    | cons b bytes ih =>
      intro m
      have hhigh := hletter (b.toNat / 16)
      have hlow := hletter (b.toNat % 16)
      rw [List.foldl_cons, ih, List.forall_mem_cons]
      constructor
      · intro ⟨hzero, hrest⟩
        exact ⟨by omega, ⟨hhigh.mp (by omega), hlow.mp (by omega)⟩, hrest⟩
      · intro ⟨hm, ⟨hh, hl⟩, hrest⟩
        exact ⟨by rw [hm, hhigh.mpr hh, hlow.mpr hl], hrest⟩
  rw [letters, hfold 0]
  simp

/-- `HexToDec` reads a group right just if there are no letters in it. -/
private theorem hexToDec_hexWord_iff {bytes : List UInt8} (hlen : bytes.length ≤ 4) :
    hexToDec (hexWord bytes) 0 = some (UInt64.ofNat (wordValue bytes)) ↔
      ∀ b ∈ bytes, b.toNat / 16 < 10 ∧ b.toNat % 16 < 10 := by
  have hdigits : ∀ c ∈ hexWord bytes, hexDigit c ≤ 75 := by
    intro c hc
    obtain ⟨n, hn, rfl⟩ := mem_hexWord hc
    rw [(hexChar_of_lt hn).1]
    unfold letter
    split <;> omega
  -- Both sums stay below 2^32, so nothing is lost and the surplus must be 0.
  have hpow : 256 ^ bytes.length ≤ 256 ^ 4 := Nat.pow_le_pow_right (by decide) hlen
  have hvalue : wordValue bytes < 256 ^ bytes.length := by
    have hlt := foldl_lt (fun b => b.toNat_lt_size) bytes 0
    rwa [Nat.zero_add, Nat.one_mul] at hlt
  have hletters : letters bytes < 256 ^ bytes.length := by
    have hdigit : ∀ n, letter n ≤ 1 := by
      intro n
      unfold letter
      split <;> omega
    have hlt := foldl_lt (f := fun b => 16 * letter (b.toNat / 16) + letter (b.toNat % 16))
      (fun b => by
        have hhigh := hdigit (b.toNat / 16)
        have hlow := hdigit (b.toNat % 16)
        omega) bytes 0
    rwa [Nat.zero_add, Nat.one_mul] at hlt
  rw [hexToDec_zero hdigits (by rw [length_hexWord]; omega), horner_hexWord, Option.map_some,
    Int.toNat_natCast, Option.some.injEq, ← letters_eq_zero_iff, ← UInt64.toNat_inj,
    UInt64.toNat_ofNat_of_lt' (by simp only [UInt64.size]; omega),
    UInt64.toNat_ofNat_of_lt' (by simp only [UInt64.size]; omega)]
  omega

/-! ## Lines -/

namespace XxdLine

/-- The words of the text, up to its first colon. -/
def asciiWords (line : XxdLine) : List (List Char) :=
  (line.ascii.takeWhile (· ≠ ':')).fields isSpace

/-- What is between the first colon of the line and the next. -/
def lineData (line : XxdLine) : List Char :=
  ' ' :: (line.hexColumn ++ ' ' :: ' ' :: line.ascii.takeWhile (· ≠ ':'))

/-- No letters in the fourth group; on a line with fewer groups the word of the text that is
    counted on to the fourth place, if there is one, adds up to 0. -/
def AddsRight (line : XxdLine) : Prop :=
  match line.groups[3]? with
  | some group => ∀ b ∈ group, b.toNat / 16 < 10 ∧ b.toNat % 16 < 10
  | none => ∀ word, line.asciiWords[3 - line.groups.length]? = some word →
      horner 0 word = some 0

/-- The number of groups on a line. -/
private theorem length_groups (line : XxdLine) :
    line.groups.length = (line.bytes.length + 3) / 4 := by
  rw [groups, List.length_map, List.length_range]

/-- Groups have one to four bytes. -/
private theorem length_of_mem_groups {line : XxdLine} {group : List UInt8}
    (h : group ∈ line.groups) :
    0 < group.length ∧ group.length ≤ 4 := by
  obtain ⟨i, hi, rfl⟩ := List.mem_map.mp h
  rw [List.mem_range] at hi
  rw [List.slice, List.length_take, List.length_drop]
  omega

/-- Words are not empty and have no white space. -/
private theorem of_mem_hexWords {line : XxdLine} {word : List Char}
    (h : word ∈ line.groups.map hexWord) :
    word ≠ [] ∧ ∀ c ∈ word, isSpace c = false := by
  obtain ⟨group, hgroup, rfl⟩ := List.mem_map.mp h
  have hlen := (length_of_mem_groups hgroup).1
  constructor
  · apply List.ne_nil_of_length_pos
    rw [length_hexWord]
    omega
  · intro c hc
    obtain ⟨n, hn, rfl⟩ := mem_hexWord hc
    exact (hexChar_of_lt hn).2.1

/-- The words of the column of groups. -/
private theorem fields_hexColumn (line : XxdLine) :
    line.hexColumn.fields isSpace = line.groups.map hexWord := by
  rw [hexColumn, List.fields_append_seps _ (isSpace_of_mem_replicate _)]
  exact List.fields_intercalate (by decide) fun _ hword => of_mem_hexWords hword

private theorem colon_not_mem_intercalate {words : List (List Char)}
    (h : ∀ word ∈ words, ':' ∉ word) :
    ':' ∉ [' '].intercalate words := by
  induction words with
  | nil => simp
  | cons word words ih =>
    have hrest := ih fun w hw => h w (List.mem_cons_of_mem word hw)
    have hword := h word List.mem_cons_self
    cases words with
    | nil => simpa using hword
    | cons next words =>
      rw [List.intercalate_cons_of_ne_nil (List.cons_ne_nil _ _)]
      simp [hword, hrest]

/-- There is no colon in it. -/
private theorem colon_not_mem_hexColumn (line : XxdLine) : ':' ∉ line.hexColumn := by
  have hwords : ':' ∉ [' '].intercalate (line.groups.map hexWord) := by
    apply colon_not_mem_intercalate
    intro word hword hmem
    obtain ⟨group, -, rfl⟩ := List.mem_map.mp hword
    obtain ⟨n, hn, heq⟩ := mem_hexWord hmem
    exact (hexChar_of_lt hn).2.2 heq.symm
  rw [hexColumn, List.mem_append, not_or]
  exact ⟨hwords, fun hpad => absurd (List.eq_of_mem_replicate hpad) (by decide)⟩

/-- Between the two colons is the column and the begin of the text. -/
private theorem takeWhile_data (line : XxdLine) :
    line.data.takeWhile (· ≠ ':') = line.lineData := by
  have hfront : ∀ c ∈ ' ' :: (line.hexColumn ++ [' ', ' ']), decide (c ≠ ':') = true := by
    intro c hc
    rw [decide_eq_true_eq]
    rintro rfl
    simp [line.colon_not_mem_hexColumn] at hc
  have hdata : line.data = ' ' :: (line.hexColumn ++ [' ', ' ']) ++ line.ascii := by simp [data]
  rw [hdata, List.takeWhile_append_of_pos hfront]
  simp [lineData]

/-- The second part of a line that is split at its colons. -/
theorem splitStr_text {strings : StringEx} (hstrings : SplitsParts strings) (line : XxdLine) :
    (strings.splitStr line.text ":" false false)[datasMinLen]? =
      some (String.ofList line.lineData) := by
  have hoffset : ':' ∉ line.offset.digits :=
    fun h => absurd (line.offset.isHexDigit ':' h) (by decide)
  have hback : line.data.takeWhile (· ≠ ':') ≠ [] := by
    rw [takeWhile_data]
    exact List.cons_ne_nil _ _
  rw [← takeWhile_data]
  exact hstrings.second line.offset.ne_nil hoffset hback

/-- The words that `GetValue` finds: the groups and the words of the text. -/
private theorem fields_lineData (line : XxdLine) :
    line.lineData.fields isSpace = line.groups.map hexWord ++ line.asciiWords := by
  rw [lineData, List.fields_cons_sep (by decide), List.fields_append_sep _ (by decide),
    List.fields_cons_sep (by decide), fields_hexColumn]
  rfl

end XxdLine

/-- The fourth word is read, if there is one. -/
private theorem getValue_ofList (str : List Char) :
    getValue (String.ofList str) =
      match (str.fields isSpace)[3]? with
      | none => some 0
      | some word => hexToDec word 0 := by
  unfold getValue wordSize
  rw [String.toList_ofList]
  by_cases hlen : 4 ≤ (str.fields isSpace).length
  · rw [if_pos hlen, List.getElem?_eq_getElem hlen]
    rfl
  · rw [if_neg hlen, List.getElem?_eq_none (by omega)]

/-- A character of the text counts at most 75. -/
private theorem hexDigit_asciiChar (b : UInt8) : hexDigit (asciiChar b) ≤ 75 := by
  have hall : ∀ n < 127, hexDigit (Char.ofNat n) ≤ 75 := by decide +kernel
  unfold asciiChar
  split
  · exact hall b.toNat (by omega)
  · decide

/-- `HexToDec` of a word of the text. -/
private theorem hexToDec_ascii {line : XxdLine} (hshort : line.bytes.length ≤ 12) {word : List Char}
    (h : word ∈ line.asciiWords) : hexToDec word 0 = some 0 ↔ horner 0 word = some 0 := by
  obtain ⟨-, -, hinfix⟩ := List.of_mem_fields h
  have hpart : word.Sublist line.ascii :=
    hinfix.sublist.trans (List.takeWhile_sublist _)
  -- A short line has at most 12 characters of text, which is too few to leave 64 bits.
  have hlen : word.length ≤ 12 := by
    have hle := hpart.length_le
    rw [XxdLine.ascii, List.length_map] at hle
    omega
  have hdigits : ∀ c ∈ word, hexDigit c ≤ 75 := by
    intro c hc
    obtain ⟨b, -, rfl⟩ := List.mem_map.mp (hpart.subset hc)
    exact hexDigit_asciiChar b
  rw [hexToDec_zero hdigits (by omega)]
  cases hhorner : horner 0 word with
  | none => simp
  | some n =>
    have hbound := of_horner_eq_some hdigits le_rfl hhorner
    have hpow : (16 : Int) ^ word.length ≤ 16 ^ 12 := pow_le_pow_right₀ (by decide) hlen
    norm_num at hbound hpow
    have hlt : n.toNat < UInt64.size := by
      simp only [UInt64.size]
      omega
    rw [Option.map_some, Option.some.injEq, Option.some.injEq, ← UInt64.toNat_inj,
      UInt64.toNat_ofNat_of_lt' hlt]
    show n.toNat = 0 ↔ n = 0
    omega

/-- A line adds the number in its fourth group exactly if it is one of the right ones. -/
theorem getValue_lineData_iff (line : XxdLine) :
    getValue (String.ofList line.lineData) = some line.fourthWord ↔ line.AddsRight := by
  rw [getValue_ofList, XxdLine.fields_lineData]
  unfold XxdLine.fourthWord XxdLine.AddsRight
  have hlen := line.length_groups
  have hbytes := line.length_bytes
  by_cases hfull : 3 < line.groups.length
  -- Four groups: the fourth word is the last of them.
  · have hgroup : line.groups[3]? = some line.groups[3] := List.getElem?_eq_getElem hfull
    have hword : (line.groups.map hexWord ++ line.asciiWords)[3]? =
        some (hexWord line.groups[3]) := by
      rw [List.getElem?_append_left (by rwa [List.length_map]), List.getElem?_map, hgroup]
      rfl
    rw [hword, hgroup]
    exact hexToDec_hexWord_iff (XxdLine.length_of_mem_groups (List.getElem_mem hfull)).2
  -- Fewer: the fourth word, if there is one, is of the text.
  · have hnone : line.groups[3]? = none := List.getElem?_eq_none (by omega)
    have hword : (line.groups.map hexWord ++ line.asciiWords)[3]? =
        line.asciiWords[3 - line.groups.length]? := by
      rw [List.getElem?_append_right (by rw [List.length_map]; omega), List.length_map]
    rw [hword, hnone]
    cases hget : line.asciiWords[3 - line.groups.length]? with
    | none => simp
    | some word =>
      have hiff : hexToDec word 0 = some 0 ↔ horner 0 word = some 0 :=
        hexToDec_ascii (by omega) (List.mem_of_getElem? hget)
      simpa using hiff

/-! ## Outputs -/

section Outputs

variable (src : HardwareSource)

/-- After every line of the output, `RegStrToRegValue` has succeeded and added the numbers in
    the fourth groups of the lines so far. -/
def AddsFourthWords (lines : List XxdLine) : Prop :=
  ∀ front, front <+: lines → ∀ value,
    regStrToRegValue src (front.map (·.text)) value =
      some (true, value + (front.map (·.fourthWord)).sum)

variable {src} (hstrings : SplitsParts src.strings)

include hstrings

/-- A line adds its value to the sum. -/
private theorem regStrToRegValue_cons (line : XxdLine) (infos : List String) (value : UInt64) :
    regStrToRegValue src (line.text :: infos) value =
      (getValue (String.ofList line.lineData)).bind fun tempValue =>
        regStrToRegValue src infos (value + tempValue) := by
  rw [regStrToRegValue, XxdLine.splitStr_text hstrings]
  rfl

/-- Right lines add up. -/
private theorem regStrToRegValue_lines {lines : List XxdLine} (h : ∀ line ∈ lines, line.AddsRight)
    (value : UInt64) :
    regStrToRegValue src (lines.map (·.text)) value =
      some (true, value + (lines.map (·.fourthWord)).sum) := by
  induction lines generalizing value with
  | nil => simp [regStrToRegValue]
  | cons line lines ih =>
    have hline := (getValue_lineData_iff line).mpr (h line List.mem_cons_self)
    rw [List.map_cons, regStrToRegValue_cons hstrings, hline, Option.bind_some,
      ih fun l hl => h l (List.mem_cons_of_mem line hl), List.map_cons, List.sum_cons,
      UInt64.add_assoc]

/-- Each line is the last one of some beginning of the output. -/
private theorem addsRight_of_addsFourthWords {lines : List XxdLine}
    (h : AddsFourthWords src lines) :
    ∀ line ∈ lines, line.AddsRight := by
  induction lines with
  | nil => simp
  | cons line lines ih =>
    have hline : getValue (String.ofList line.lineData) = some line.fourthWord := by
      -- The output may end behind this line.
      have hone := h [line] (by simp) 0
      rw [List.map_singleton, regStrToRegValue_cons hstrings] at hone
      cases hvalue : getValue (String.ofList line.lineData) with
      | none =>
        rw [hvalue] at hone
        exact absurd hone (by simp)
      | some value =>
        rw [hvalue] at hone
        simpa [regStrToRegValue] using hone
    have hrest : AddsFourthWords src lines := by
      intro front hfront value
      -- What the line adds is taken off the value at the start.
      have hcons := h (line :: front) (List.cons_prefix_cons.mpr ⟨rfl, hfront⟩)
        (value - line.fourthWord)
      rw [List.map_cons, regStrToRegValue_cons hstrings, hline, Option.bind_some, List.map_cons,
        List.sum_cons, ← UInt64.add_assoc, UInt64.sub_add_cancel] at hcons
      exact hcons
    rw [List.forall_mem_cons]
    exact ⟨(getValue_lineData_iff line).mp hline, ih hrest⟩

/-- `RegStrToRegValue` adds the fourth words of all lines, and nothing for lines with fewer,
    exactly if each line is a right one. -/
theorem addsFourthWords_iff (lines : List XxdLine) :
    AddsFourthWords src lines ↔ ∀ line ∈ lines, line.AddsRight := by
  constructor
  · exact addsRight_of_addsFourthWords hstrings
  · intro h front hfront value
    exact regStrToRegValue_lines hstrings (fun line hline => h line (hfront.subset hline)) value

/-- The register of a node whose output has right lines only. -/
theorem getResverRegValue_lines {path : String} {lines : List XxdLine}
    (hcmd : src.runCmd ("xxd -g 4 " ++ path) = some (lines.map (·.text)))
    (h : ∀ line ∈ lines, line.AddsRight) (value : UInt64) :
    getResverRegValue src path value =
      some (true, value + (lines.map (·.fourthWord)).sum) := by
  unfold getResverRegValue
  simp only [hcmd, regStrToRegValue_lines hstrings h value]
  rfl

end Outputs

/-- A device whose commands cannot be run; the texts are given. -/
def dumpSource : HardwareSource where
  strings := StringEx.simple
  runCmd _ := none
  hardwareThreads := 0

/-- A register with the size 0x1000. -/
def digitLine : XxdLine where
  offset := HexNumeral.of ['0', '0', '0', '0', '0', '0', '0', '0'] (by decide)
  bytes := [0, 0, 0, 0, 0x80, 0, 0, 0, 0, 0, 0, 0, 0, 0, 0x10, 0]
  length_bytes := by decide

/-- A line with one group of four bytes. -/
def shortLine : XxdLine where
  offset := HexNumeral.of ['0', '0', '0', '0', '0', '0', '1', '0'] (by decide)
  bytes := [0, 0, 0x10, 0]
  length_bytes := by decide

/-- A line with a fourth word and a line that has none and only one word of text. -/
theorem addsFourthWords_twoLines : AddsFourthWords dumpSource [digitLine, shortLine] := by
  apply (addsFourthWords_iff simple_splitsParts [digitLine, shortLine]).mpr
  intro line hline
  rcases List.mem_cons.mp hline with rfl | hline
  · show ∀ b ∈ ([0, 0, 0x10, 0] : List UInt8), b.toNat / 16 < 10 ∧ b.toNat % 16 < 10
    simp
  · rw [List.mem_singleton.mp hline]
    have hnone : shortLine.asciiWords[3 - shortLine.groups.length]? = none := by decide
    show ∀ word, shortLine.asciiWords[3 - shortLine.groups.length]? = some word →
      horner 0 word = some 0
    simp [hnone]

/-- A register with the size 0xa000. -/
def letterLine : XxdLine where
  offset := HexNumeral.of ['0', '0', '0', '0', '0', '0', '0', '0'] (by decide)
  bytes := [0, 0, 0, 0, 0x80, 0, 0, 0, 0, 0, 0, 0, 0, 0, 0xa0, 0]
  length_bytes := by decide

/-- The `a` counts for 42. -/
theorem not_addsFourthWords_letterLine :
    regStrToRegValue dumpSource [letterLine.text] 0 = some (true, 42 * 16 ^ 3) ∧
      letterLine.fourthWord = 10 * 16 ^ 3 ∧ ¬AddsFourthWords dumpSource [letterLine] := by
  have hvalue : regStrToRegValue dumpSource [letterLine.text] 0 = some (true, 42 * 16 ^ 3) := by
    rw [regStrToRegValue_cons simple_splitsParts, getValue_ofList, XxdLine.fields_lineData]
    decide
  refine ⟨hvalue, by decide, ?_⟩
  intro h
  have hright := addsRight_of_addsFourthWords simple_splitsParts h letterLine List.mem_cons_self
  exact absurd (hright 0xa0 (by decide)) (by decide)

end HiDumper.Spec
