import Mathlib.Data.Nat.Digits.Defs
import SchemaAccess.Json.Reader
import SchemaAccess.Json.Writer

namespace SchemaAccess

namespace Text

theorem hexNumber?_concat (cs : List Char) (c : Char) :
    hexNumber? (cs ++ [c]) = (hexNumber? cs).bind fun n => (hexValue? c).map (16 * n + ·) := by
  simp [hexNumber?]

theorem hexValue?_digitChar {d : Nat} (h : d < 16) : hexValue? (Nat.digitChar d) = some d := by
  revert d
  decide

theorem hexNumber?_toDigits (n : Nat) : hexNumber? (Nat.toDigits 16 n) = some n := by
  induction n using Nat.strongRecOn with
  | ind n ih =>
    by_cases h : n < 16
    · rw [Nat.toDigits_of_lt_base h]
      have hdigit := hexNumber?_concat [] n.digitChar
      rw [hexValue?_digitChar h] at hdigit
      simpa [hexNumber?] using hdigit
    · have hlast : n % 16 < 16 := Nat.mod_lt n (by decide)
      rw [Nat.toDigits_of_base_le (by decide) (by omega), hexNumber?_concat, ih (n / 16) (by omega),
        hexValue?_digitChar hlast]
      simp
      omega

theorem hexNumber?_padLeft (width : Nat) (cs : List Char) :
    hexNumber? (padLeft width '0' cs) = hexNumber? cs := by
  have hzero : ∀ k : Nat, (List.replicate k '0').foldl
      (fun acc c => acc.bind fun n => (hexValue? c).map (16 * n + ·)) (some 0) = some 0 := by
    intro k
    induction k with
    | zero => rfl
    | succ k ih => exact ih
  rw [padLeft, hexNumber?, List.foldl_append, hzero]
  rfl

theorem hexNumber?_hexLower (width n : Nat) : hexNumber? (hexLower width n).toList = some n := by
  rw [hexLower, String.toList_ofList, hexNumber?_padLeft, hexNumber?_toDigits]

theorem joinSurrogates_surrogates {n : Nat} (h : 0x10000 ≤ n) :
    joinSurrogates (surrogates n).1 (surrogates n).2 = n := by
  have hdiv := Nat.div_add_mod (n - 0x10000) 0x400
  change 0x10000 + (0xD800 + (n - 0x10000) / 0x400 - 0xD800) * 0x400 +
    (0xDC00 + (n - 0x10000) % 0x400 - 0xDC00) = n
  rw [Nat.add_sub_cancel_left, Nat.add_sub_cancel_left]
  omega

end Text

namespace Json

theorem unit?_hexLower {n : Nat} (h : n < 0x10000) {rest : List Char} (hrest : rest ≠ []) :
    unit? ((Text.hexLower 4 n).toList ++ rest) = some (n, rest) := by
  have hnumber := Text.hexNumber?_hexLower 4 n
  have hdigits : (Nat.toDigits 16 n).length ≤ 4 := (Nat.length_toDigits_le_iff (by decide) (by decide)).2 h
  have hlength := Text.length_hexLower hdigits
  obtain ⟨e, rest, rfl⟩ := List.exists_cons_of_ne_nil hrest
  generalize (Text.hexLower 4 n).toList = cs at hnumber hlength
  obtain ⟨a, b, c, d, rfl⟩ : ∃ a b c d, cs = [a, b, c, d] := by
    match cs, hlength with
    | [a, b, c, d], _ => exact ⟨a, b, c, d, rfl⟩
  simp [unit?, hnumber]

theorem toList_escapedUnit (n : Nat) :
    (escapedUnit n).toList = '\\' :: 'u' :: (Text.hexLower 4 n).toList := by
  rw [escapedUnit, String.toList_append]
  rfl

theorem string_unit {n : Nat} (h : n < 0xD800 ∨ 0xDFFF < n ∧ n < 0x10000) {rest : List Char}
    (hrest : rest ≠ []) (whole : List Char) (fuel : Nat) (acc : List Text.Glyph) :
    string whole (fuel + 1) ((escapedUnit n).toList ++ rest) acc =
      string whole fuel rest (.char (Char.ofNat n) :: acc) := by
  have hunit := unit?_hexLower (n := n) (by omega) hrest
  rw [toList_escapedUnit, List.cons_append, List.cons_append, string, hunit]
  dsimp only
  rw [if_neg (by omega), if_neg (by omega)]

theorem string_escape {c d : Char} (h : escape? d = some c) (hd : d ≠ 'u') (rest : List Char)
    (whole : List Char) (fuel : Nat) (acc : List Text.Glyph) :
    string whole (fuel + 1) ('\\' :: d :: rest) acc = string whole fuel rest (.char c :: acc) := by
  rw [string]
  · rw [h]
  · simp [hd]

theorem string_plain {c : Char} (hquote : c ≠ '\x22') (hslash : c ≠ '\\') (hlow : 0x20 ≤ c.toNat)
    (rest whole : List Char) (fuel : Nat) (acc : List Text.Glyph) :
    string whole (fuel + 1) (c :: rest) acc = string whole fuel rest (.char c :: acc) := by
  rw [string]
  · simp [hquote, hlow]
  · simp [hslash]
  · simp [hslash]
  · simp [hslash]

theorem trailing?_of_unit? {cs : List Char} {found : Nat × List Char} (h : unit? cs = some found) :
    trailing? ('\\' :: 'u' :: cs) = some (some found) := by
  unfold unit? at h
  split at h
  · rw [trailing?, unit?, h]
  · contradiction

theorem string_surrogates {n : Nat} (hlow : 0x10000 ≤ n) (hhigh : n < 0x110000) {rest : List Char}
    (hrest : rest ≠ []) (whole : List Char) (fuel : Nat) (acc : List Text.Glyph) :
    string whole (fuel + 1)
        ((escapedUnit (Text.surrogates n).1 ++ escapedUnit (Text.surrogates n).2).toList ++ rest) acc =
      string whole fuel rest (.char (Char.ofNat n) :: acc) := by
  have hjoin := Text.joinSurrogates_surrogates hlow
  rcases hpair : Text.surrogates n with ⟨high, low⟩
  have hhalves : 0xD800 ≤ high ∧ high ≤ 0xDBFF ∧ 0xDC00 ≤ low ∧ low ≤ 0xDFFF := by
    rw [Text.surrogates, Prod.mk.injEq] at hpair
    omega
  rw [hpair] at hjoin
  dsimp only at hjoin ⊢
  have htail := unit?_hexLower (n := low) (by omega) hrest
  have hlist : (escapedUnit high ++ escapedUnit low).toList ++ rest =
      '\\' :: 'u' :: ((Text.hexLower 4 high).toList ++
        '\\' :: 'u' :: ((Text.hexLower 4 low).toList ++ rest)) := by
    simp [escapedUnit]
  have htrailing := trailing?_of_unit? htail
  rw [hlist, string, unit?_hexLower (by omega) (List.cons_ne_nil _ _)]
  dsimp only
  rw [if_pos ⟨hhalves.1, hhalves.2.1⟩, htrailing]
  dsimp only
  rw [if_pos hhalves.2.2, hjoin]

/-- However a character is escaped, it is read back. Something has to follow it. -/
theorem string_escaped (c : Char) {rest : List Char} (hrest : rest ≠ []) (whole : List Char) (fuel : Nat)
    (acc : List Text.Glyph) : string whole (fuel + 1) ((escaped c).toList ++ rest) acc =
      string whole fuel rest (.char c :: acc) := by
  have hvalid : c.toNat < 0xD800 ∨ 0xDFFF < c.toNat ∧ c.toNat < 0x110000 := c.valid
  have hchar : Char.ofNat c.toNat = c := Char.ofNat_toNat c
  unfold escaped
  simp only [beq_iff_eq]
  split_ifs with hquote hslash hfeed hreturn htab hform hback hascii hshort
  · subst hquote
    exact string_escape rfl (by decide) rest whole fuel acc
  · subst hslash
    exact string_escape rfl (by decide) rest whole fuel acc
  · subst hfeed
    exact string_escape rfl (by decide) rest whole fuel acc
  · subst hreturn
    exact string_escape rfl (by decide) rest whole fuel acc
  · subst htab
    exact string_escape rfl (by decide) rest whole fuel acc
  · subst hform
    exact string_escape rfl (by decide) rest whole fuel acc
  · subst hback
    exact string_escape rfl (by decide) rest whole fuel acc
  · rw [String.toList_singleton]
    exact string_plain hquote hslash hascii.1 rest whole fuel acc
  · have hunit := string_unit (n := c.toNat) (by omega) hrest whole fuel acc
    rwa [hchar] at hunit
  · have hpair := string_surrogates (n := c.toNat) (by omega) (by omega) hrest whole fuel acc
    rwa [hchar] at hpair

theorem toList_writtenString (s : String) : (writtenString s).toList =
    '\x22' :: (s.toList.flatMap (fun c => (escaped c).toList) ++ ['\x22']) := by
  rw [writtenString, String.toList_append, String.toList_append, String.toList_join, List.flatMap_map]
  rfl

theorem string_flatMap_escaped (cs : List Char) (rest whole : List Char) {fuel : Nat} (h : cs.length < fuel)
    (acc : List Text.Glyph) :
    string whole fuel (cs.flatMap (fun c => (escaped c).toList) ++ '\x22' :: rest) acc =
      .ok (acc.reverse ++ cs.map .char, rest) := by
  induction cs generalizing fuel acc with
  | nil =>
    obtain ⟨fuel, rfl⟩ := Nat.exists_eq_add_of_lt h
    simp [string]
  | cons c cs ih =>
    obtain ⟨fuel, rfl⟩ : ∃ m, fuel = m + 1 := ⟨fuel - 1, by simp at h; omega⟩
    rw [List.flatMap_cons, List.append_assoc, string_escaped c (by simp), ih (by simpa using h)]
    simp

theorem escaped_ne_nil (c : Char) : (escaped c).toList ≠ [] := by
  unfold escaped
  split_ifs
  all_goals first
    | rw [toList_escapedUnit]; exact List.cons_ne_nil _ _
    | rw [String.toList_append, toList_escapedUnit]; exact List.cons_ne_nil _ _
    | exact List.cons_ne_nil _ _
    | simp

theorem length_le_length_flatMap (cs : List Char) :
    cs.length ≤ (cs.flatMap fun c => (escaped c).toList).length := by
  induction cs with
  | nil => exact Nat.zero_le _
  | cons c cs ih =>
    have hc := List.length_pos_iff.2 (escaped_ne_nil c)
    rw [List.flatMap_cons, List.length_append, List.length_cons]
    omega

theorem string_writtenString (s : String) (rest : List Char) : ∃ tail,
    (writtenString s).toList ++ rest = '\x22' :: tail ∧
      string ('\x22' :: tail) ('\x22' :: tail).length tail [] = .ok (s.toList.map .char, rest) := by
  refine ⟨s.toList.flatMap (fun c => (escaped c).toList) ++ '\x22' :: rest, ?_, ?_⟩
  · rw [toList_writtenString, List.cons_append, List.append_assoc]
    rfl
  · have hlength := length_le_length_flatMap s.toList
    apply string_flatMap_escaped
    simp only [List.length_cons, List.length_append]
    omega

theorem text?_char (cs : List Char) : Text.Glyph.text? (cs.map .char) = some (String.ofList cs) := by
  have hmap : (cs.map Text.Glyph.char).mapM Text.Glyph.char? = some cs := by
    induction cs with
    | nil => rfl
    | cons c cs ih =>
      rw [List.map_cons, List.mapM_cons, ih]
      rfl
  rw [Text.Glyph.text?, hmap]
  rfl

theorem ofGlyphs_char (s : String) : Value.ofGlyphs (s.toList.map .char) = .string s := by
  rw [Value.ofGlyphs, text?_char, String.ofList_toList]

theorem replaced_char (s : String) : Text.Glyph.replaced (s.toList.map .char) = s := by
  rw [Text.Glyph.replaced, List.map_map]
  exact (congrArg String.ofList (List.map_id s.toList)).trans String.ofList_toList

end Json

end SchemaAccess
