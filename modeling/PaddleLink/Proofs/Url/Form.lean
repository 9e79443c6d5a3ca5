import PaddleLink.Url.Parser

namespace PaddleLink.Url

def plusToSpace (c : Char) : Char :=
  if c = '+' then ' ' else c

def readFormText? (cs : List Char) : Option String :=
  String.fromUTF8? (decodeBytes (cs.map plusToSpace)).toByteArray

def readFormPair? (cs : List Char) : Option (String × String) := do
  let name ← readFormText? (splitAtFirst '=' cs).1
  let value ← readFormText? ((splitAtFirst '=' cs).2.getD [])
  return (name, value)

/-- The pairs of a form; nothing between two ampersands is no pair. -/
def readForm? (cs : List Char) : Option (List (String × String)) :=
  ((cs.splitOn '&').filter fun piece => !piece.isEmpty).mapM readFormPair?

theorem hexValue?_upperHexDigit : ∀ d < 16, Text.hexValue? (Text.upperHexDigit d) = some d := by
  decide

theorem upperHexDigit_ne_plus : ∀ d < 16, Text.upperHexDigit d ≠ '+' := by
  decide

/-- A byte that stands for itself is the only byte of its character. -/
theorem formPlain_spec : ∀ n < 256, isFormPlain (.ofNat n) = true →
    Char.ofNat n ≠ '%' ∧ Char.ofNat n ≠ '+' ∧ String.utf8EncodeChar (Char.ofNat n) = [.ofNat n] := by
  decide +kernel

def formMarks : List Char :=
  ['&', '=', '#']

/-- No escaped byte holds a mark. -/
theorem formByte_marks : ∀ n < 256, (formByte (.ofNat n)).all (fun c => decide (c ∉ formMarks)) = true := by
  decide +kernel

theorem decodeBytes_of_ne {c : Char} (h : c ≠ '%') (cs : List Char) :
    decodeBytes (c :: cs) = String.utf8EncodeChar c ++ decodeBytes cs := by
  rw [decodeBytes]
  intro a b rest he
  exact absurd he h

theorem decodeBytes_percentByte (b : UInt8) (cs : List Char) :
    decodeBytes (percentByte b ++ cs) = b :: decodeBytes cs := by
  have hb : b.toNat < 256 := b.toNat_lt
  have hhigh := hexValue?_upperHexDigit (b.toNat / 16) (by omega)
  have hlow := hexValue?_upperHexDigit (b.toNat % 16) (by omega)
  have hvalue : 16 * (b.toNat / 16) + b.toNat % 16 = b.toNat := Nat.div_add_mod b.toNat 16
  simp only [percentByte, List.cons_append, List.nil_append, decodeBytes, hhigh, hlow, hvalue, UInt8.ofNat_toNat]

theorem map_plusToSpace_percentByte (b : UInt8) : (percentByte b).map plusToSpace = percentByte b := by
  have hb : b.toNat < 256 := b.toNat_lt
  have hhigh := upperHexDigit_ne_plus (b.toNat / 16) (by omega)
  have hlow := upperHexDigit_ne_plus (b.toNat % 16) (by omega)
  simp [percentByte, plusToSpace, hhigh, hlow]

/-- A byte of a form is read as it was written. -/
theorem decodeBytes_formByte (b : UInt8) (cs : List Char) :
    decodeBytes ((formByte b).map plusToSpace ++ cs) = b :: decodeBytes cs := by
  unfold formByte
  split
  · rename_i hplain
    have hspec := formPlain_spec b.toNat b.toNat_lt
    rw [UInt8.ofNat_toNat] at hspec
    obtain ⟨hpercent, hplus, hbytes⟩ := hspec hplain
    have hsame : plusToSpace (Char.ofNat b.toNat) = Char.ofNat b.toNat := if_neg hplus
    rw [List.map_singleton, List.singleton_append, hsame, decodeBytes_of_ne hpercent, hbytes, List.singleton_append]
  · split
    · rename_i hspace
      rw [hspace]
      exact decodeBytes_of_ne (by decide) cs
    · rw [map_plusToSpace_percentByte, decodeBytes_percentByte]

theorem decodeBytes_formBytes (bs : List UInt8) : decodeBytes ((bs.flatMap formByte).map plusToSpace) = bs := by
  induction bs with
  | nil => rfl
  | cons b bs ih => rw [List.flatMap_cons, List.map_append, decodeBytes_formByte, ih]

theorem formText_eq (s : String) : formText s = (s.toList.flatMap String.utf8EncodeChar).flatMap formByte :=
  List.flatMap_assoc.symm

theorem fromUTF8?_bytes (s : String) :
    String.fromUTF8? (s.toList.flatMap String.utf8EncodeChar).toByteArray = some s := by
  have hbytes : (s.toList.flatMap String.utf8EncodeChar).toByteArray = s.toByteArray :=
    calc (s.toList.flatMap String.utf8EncodeChar).toByteArray
        = (String.ofList s.toList).toByteArray := String.toByteArray_ofList.symm
      _ = s.toByteArray := by rw [String.ofList_toList]
  rw [hbytes, String.fromUTF8?, dif_pos s.isValidUTF8]
  rfl

theorem readFormText?_formText (s : String) : readFormText? (formText s) = some s := by
  rw [readFormText?, formText_eq, decodeBytes_formBytes, fromUTF8?_bytes]

/-- No name and no value holds a mark. -/
theorem not_mem_formText (mark : Char) (h : mark ∈ formMarks) (s : String) : mark ∉ formText s := by
  rw [formText_eq, List.mem_flatMap (f := formByte)]
  rintro ⟨b, -, hmark⟩
  have hall := formByte_marks b.toNat b.toNat_lt
  rw [UInt8.ofNat_toNat, List.all_eq_true] at hall
  exact of_decide_eq_true (hall mark hmark) h

theorem splitAtFirst_of_not_mem {c : Char} {front : List Char} (h : c ∉ front) (rest : List Char) :
    splitAtFirst c (front ++ c :: rest) = (front, some rest) := by
  have hfront : ∀ d ∈ front, decide (d ≠ c) = true := by
    intro d hd
    rw [decide_eq_true_eq]
    rintro rfl
    exact h hd
  unfold splitAtFirst
  rw [List.dropWhile_append_of_pos hfront, List.takeWhile_append_of_pos hfront]
  simp

theorem readFormPair?_formPair (p : String × String) : readFormPair? (formPair p) = some p := by
  have hsplit := splitAtFirst_of_not_mem (not_mem_formText '=' (by decide) p.1) (formText p.2)
  simp only [readFormPair?, formPair, hsplit, Option.getD_some, readFormText?_formText]
  rfl

theorem not_mem_formPair (mark : Char) (h : mark ∈ formMarks) (hmark : mark ≠ '=') (p : String × String) :
    mark ∉ formPair p := by
  simp [formPair, not_mem_formText mark h, hmark]

theorem isEmpty_formPair (p : String × String) : (formPair p).isEmpty = false := by
  simp [formPair]

/-- No fragment begins inside of a form. -/
theorem not_mem_formPairs (ps : List (String × String)) : '#' ∉ formPairs ps := by
  have hpair := not_mem_formPair '#' (by decide) (by decide)
  induction ps with
  | nil => exact List.not_mem_nil
  | cons p ps ih =>
    cases ps with
    | nil => simpa [formPairs] using hpair p
    | cons q ps =>
      have hmore : formPairs (p :: q :: ps) = formPair p ++ '&' :: formPairs (q :: ps) := by
        simp [formPairs, List.intercalate]
      rw [hmore, List.mem_append, List.mem_cons, not_or, not_or]
      exact ⟨hpair p, by decide, ih⟩

/-- The pieces of a form are its pairs. -/
theorem splitOn_formPairs (ps : List (String × String)) :
    ((formPairs ps).splitOn '&').filter (fun piece => !piece.isEmpty) = ps.map formPair := by
  have hspec : ∀ piece ∈ ps.map formPair, '&' ∉ piece ∧ piece.isEmpty = false := by
    intro piece hpiece
    obtain ⟨p, -, rfl⟩ := List.mem_map.mp hpiece
    exact ⟨not_mem_formPair '&' (by decide) (by decide) p, isEmpty_formPair p⟩
  cases ps with
  | nil => rfl
  | cons p ps =>
    rw [formPairs, List.splitOn_intercalate '&' (fun piece h => (hspec piece h).1) (by simp)]
    exact List.filter_eq_self.mpr fun piece h => by rw [(hspec piece h).2, Bool.not_false]

/-- A form is read as it was written, whatever stands in its names and values. -/
theorem readForm?_formPairs (ps : List (String × String)) : readForm? (formPairs ps) = some ps := by
  have hpair : readFormPair? ∘ formPair = some := funext readFormPair?_formPair
  have hall : ps.mapM some = some (ps.map id) := List.mapM_pure
  rw [readForm?, splitOn_formPairs, List.mapM_map, hpair, hall, List.map_id]

end PaddleLink.Url
