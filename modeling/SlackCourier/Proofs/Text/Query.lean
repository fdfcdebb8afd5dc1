import SlackCourier.Proofs.Text.Pieces
import SlackCourier.Proofs.Text.Utf8
import SlackCourier.Text.Query
import Mathlib.Data.List.TakeWhile

/-!
# Query strings are read back

Names and values in the form encoding are read back as they were, but for halves of pairs that stood
alone.  Nothing that is written for a name or a value has a meaning of its own in a query or in a
URL, so the pieces of a query are cut where they were joined, and the query is cut from its URL
where the question mark was put.
-/

namespace SlackCourier.Text

/-- Whether a text is a sequence of characters: no half of a pair stands alone in it. -/
def IsWhole (text : Text) : Prop := ∃ cs, text = ofChars cs

theorem isWhole_ofChars (cs : List Char) : (ofChars cs).IsWhole := ⟨cs, rfl⟩

theorem isWhole_ofString (s : String) : (ofString s).IsWhole := isWhole_ofChars s.toList

theorem isWhole_iff_mended {text : Text} : text.IsWhole ↔ text.mended = text := by
  constructor
  · rintro ⟨cs, rfl⟩
    exact congrArg ofChars (chars_ofChars cs)
  · exact fun h => ⟨text.chars, h.symm⟩

instance (text : Text) : Decidable text.IsWhole := decidable_of_iff' _ isWhole_iff_mended

theorem ofChars_append (front back : List Char) :
    ofChars (front ++ back) = ofChars front ++ ofChars back :=
  congrArg mk List.flatMap_append

/-- The characters that are written in the form encoding but do not stand for themselves. -/
def formMarks : List Char := ['+', '%']

/-- Whether a character is one of those that names and values are written with. -/
def IsFormWritten (c : Char) : Prop := isFormSafe c = true ∨ c ∈ formMarks

instance (c : Char) : Decidable (IsFormWritten c) := inferInstanceAs (Decidable (_ ∨ _))

theorem isFormSafe_hexDigitUpper : ∀ n < 16, isFormSafe (hexDigitUpper n) = true := by decide

theorem isFormWritten_of_mem_percentByte {b : UInt8} {c : Char} (h : c ∈ percentByte b) :
    IsFormWritten c := by
  have hb := b.toNat_lt
  simp only [percentByte, byteHexUpper, List.mem_cons, List.not_mem_nil, or_false] at h
  rcases h with rfl | rfl | rfl
  · decide
  · exact .inl (isFormSafe_hexDigitUpper _ (by omega))
  · exact .inl (isFormSafe_hexDigitUpper _ (by omega))

theorem isFormWritten_of_mem_formChar {c d : Char} (h : d ∈ formChar c) : IsFormWritten d := by
  unfold formChar at h
  split_ifs at h with hspace hsafe
  · rw [List.mem_singleton.mp h]
    decide
  · rw [List.mem_singleton.mp h]
    exact .inl hsafe
  · obtain ⟨b, -, hd⟩ := List.mem_flatMap.mp h
    exact isFormWritten_of_mem_percentByte hd

theorem isFormWritten_of_mem_formList {cs : List Char} {d : Char} (h : d ∈ formList cs) :
    IsFormWritten d := by
  obtain ⟨c, -, hd⟩ := List.mem_flatMap.mp h
  exact isFormWritten_of_mem_formChar hd

theorem notMem_formList {d : Char} (hd : ¬ IsFormWritten d) (cs : List Char) : d ∉ formList cs :=
  fun h => hd (isFormWritten_of_mem_formList h)

theorem notMem_formPair {d : Char} (hd : ¬ IsFormWritten d) (hne : d ≠ '=')
    (pair : Text × Text) : d ∉ formPair pair := by
  simp only [formPair, List.mem_append, List.mem_cons, not_or]
  exact ⟨notMem_formList hd _, hne, notMem_formList hd _⟩

/-- In a query there is no character but those of names and values, and the two that join them. -/
theorem notMem_joinList_formPair {d : Char} (hd : ¬ IsFormWritten d) (hne : d ≠ '=')
    (hjoint : d ≠ '&') (pairs : List (Text × Text)) :
    d ∉ joinList ['&'] (pairs.map formPair) := by
  induction pairs with
  | nil => simp [joinList]
  | cons pair rest ih =>
    have hpair := notMem_formPair hd hne pair
    cases rest with
    | nil => exact hpair
    | cons next rest =>
      simp only [List.map_cons, joinList, List.mem_append, List.mem_singleton, not_or]
      exact ⟨⟨hpair, hjoint⟩, ih⟩

theorem percentBytes_cons {c : Char} (h : c ≠ '%') (rest : List Char) :
    percentBytes (c :: rest) = String.utf8EncodeChar c ++ percentBytes rest := by
  rw [percentBytes]
  rintro high low more rfl -
  exact h rfl

theorem percentBytes_percentByte (b : UInt8) (rest : List Char) :
    percentBytes (percentByte b ++ rest) = b :: percentBytes rest := by
  have hb := b.toNat_lt
  have hhigh := hexValue?_hexDigitUpper (b.toNat / 16) (by omega)
  have hlow := hexValue?_hexDigitUpper (b.toNat % 16) (by omega)
  have hback : UInt8.ofNat (b.toNat / 16 * 16 + b.toNat % 16) = b := by
    rw [Nat.div_add_mod' b.toNat 16, UInt8.ofNat_toNat]
  simp only [percentByte, byteHexUpper, List.cons_append, List.nil_append, percentBytes, hhigh,
    hlow, hback]

theorem percentBytes_flatMap (bytes : Bytes) (rest : List Char) :
    percentBytes (bytes.flatMap percentByte ++ rest) = bytes ++ percentBytes rest := by
  induction bytes with
  | nil => rfl
  | cons b bytes ih =>
    rw [List.flatMap_cons, List.append_assoc, percentBytes_percentByte, ih, List.cons_append]

/-- A character as it is read: a plus is a space. -/
def spaced (c : Char) : Char := if c = '+' then ' ' else c

theorem spaced_of_ne {c : Char} (h : c ≠ '+') : spaced c = c := if_neg h

theorem map_spaced_of_notMem {cs : List Char} (h : '+' ∉ cs) : cs.map spaced = cs := by
  refine List.map_congr_left (g := id) (fun c hc => ?_) |>.trans (List.map_id cs)
  exact spaced_of_ne fun hplus => h (hplus ▸ hc)

theorem plus_notMem_percentBytes (bytes : Bytes) : '+' ∉ bytes.flatMap percentByte := by
  have hdigit : ∀ n < 16, hexDigitUpper n ≠ '+' := by decide
  intro h
  obtain ⟨b, -, hb⟩ := List.mem_flatMap.mp h
  have hlt := b.toNat_lt
  simp only [percentByte, byteHexUpper, List.mem_cons, List.not_mem_nil, or_false] at hb
  rcases hb with hb | hb | hb
  · exact absurd hb (by decide)
  · exact hdigit _ (by omega) hb.symm
  · exact hdigit _ (by omega) hb.symm

theorem percentBytes_formChar (c : Char) (rest : List Char) :
    percentBytes ((formChar c).map spaced ++ rest) =
      String.utf8EncodeChar c ++ percentBytes rest := by
  unfold formChar
  split_ifs with hspace hsafe
  · subst hspace
    exact percentBytes_cons (by decide) rest
  · have hplus : c ≠ '+' := by rintro rfl; exact absurd hsafe (by decide)
    have hpercent : c ≠ '%' := by rintro rfl; exact absurd hsafe (by decide)
    rw [List.map_singleton, spaced_of_ne hplus]
    exact percentBytes_cons hpercent rest
  · rw [map_spaced_of_notMem (plus_notMem_percentBytes _), percentBytes_flatMap]

theorem percentBytes_formList (cs : List Char) :
    percentBytes ((formList cs).map spaced) = encodeList cs := by
  induction cs with
  | nil => rfl
  | cons c rest ih =>
    show percentBytes ((formChar c ++ formList rest).map spaced) =
      String.utf8EncodeChar c ++ encodeList rest
    rw [List.map_append, percentBytes_formChar, ih]

theorem formText_formList (cs : List Char) : formText (formList cs) = ofChars cs := by
  show decodeUtf8 (percentBytes ((formList cs).map spaced)) = ofChars cs
  rw [percentBytes_formList, decodeUtf8, decodeFrom_encodeList]

/-- A name and its value with every lonely half in them replaced. -/
def mendedPair (pair : Text × Text) : Text × Text := (pair.1.mended, pair.2.mended)

theorem formUnpair_formPair (pair : Text × Text) :
    formUnpair (formPair pair) = mendedPair pair := by
  have hname : ∀ c ∈ formList pair.1.chars, (c != '=') = true := by
    intro c hc
    rw [bne_iff_ne]
    rintro rfl
    exact notMem_formList (by decide) _ hc
  unfold formUnpair formPair
  simp only [List.takeWhile_append_of_pos hname, List.dropWhile_append_of_pos hname]
  simp [formText_formList, mendedPair, mended]

theorem formDecode_formEncode (pairs : List (Text × Text)) :
    formDecode (formEncode pairs) = pairs.map mendedPair := by
  unfold formDecode formEncode
  rw [chars_ofChars]
  cases pairs with
  | nil => rfl
  | cons pair rest =>
    have hjoint : ∀ piece ∈ (pair :: rest).map formPair, '&' ∉ piece := by
      intro piece hpiece
      obtain ⟨one, -, rfl⟩ := List.mem_map.mp hpiece
      exact notMem_formPair (by decide) (by decide) one
    have hfull : ∀ piece ∈ (pair :: rest).map formPair, (piece != []) = true := by
      intro piece hpiece
      obtain ⟨one, -, rfl⟩ := List.mem_map.mp hpiece
      simp [formPair]
    rw [splitList_joinList (by simp) hjoint, List.filter_eq_self.2 hfull, List.map_map]
    exact List.map_congr_left fun one _ => formUnpair_formPair one

example : formEncode [("a b", "1+1=2"), ("é", "&")] = "a+b=1%2B1%3D2&%C3%A9=%26" := by decide

theorem formDecode_formEncode_of_whole {pairs : List (Text × Text)}
    (h : ∀ pair ∈ pairs, pair.1.IsWhole ∧ pair.2.IsWhole) :
    formDecode (formEncode pairs) = pairs := by
  rw [formDecode_formEncode]
  refine (List.map_congr_left (g := id) fun pair hpair => ?_).trans (List.map_id pairs)
  obtain ⟨hname, hvalue⟩ := h pair hpair
  exact Prod.ext (isWhole_iff_mended.1 hname) (isWhole_iff_mended.1 hvalue)

/-- The characters of a URL ahead of its fragment. -/
def beforeFragment (url : Text) : List Char := url.chars.takeWhile (· != '#')

def beforeQuery (url : Text) : Text := ofChars (url.beforeFragment.takeWhile (· != '?'))

/-- The query of a URL, still encoded: what stands between the first question mark and the
fragment. -/
def queryOf (url : Text) : Text := ofChars ((url.beforeFragment.dropWhile (· != '?')).drop 1)

section

variable {address : List Char}

theorem beforeFragment_of_query (hfragment : '#' ∉ address) (pairs : List (Text × Text)) :
    (ofChars address ++ "?" ++ formEncode pairs).beforeFragment =
      address ++ '?' :: joinList ['&'] (pairs.map formPair) := by
  have hurl : ofChars address ++ "?" ++ formEncode pairs =
      ofChars (address ++ '?' :: joinList ['&'] (pairs.map formPair)) := by
    rw [List.append_cons, ofChars_append, ofChars_append]
    rfl
  have hquery : '#' ∉ joinList ['&'] (pairs.map formPair) :=
    notMem_joinList_formPair (by decide) (by decide) (by decide) pairs
  unfold beforeFragment
  rw [hurl, chars_ofChars, List.takeWhile_eq_self_iff]
  intro c hc
  rw [bne_iff_ne]
  rintro rfl
  simp only [List.mem_append, List.mem_cons] at hc
  rcases hc with hc | hc | hc
  · exact hfragment hc
  · exact absurd hc (by decide)
  · exact hquery hc

theorem cut_of_query (hquestion : '?' ∉ address) (hfragment : '#' ∉ address)
    (pairs : List (Text × Text)) :
    (ofChars address ++ "?" ++ formEncode pairs).beforeQuery = ofChars address ∧
      (ofChars address ++ "?" ++ formEncode pairs).queryOf = formEncode pairs := by
  have haddress : ∀ c ∈ address, (c != '?') = true := by
    intro c hc
    rw [bne_iff_ne]
    rintro rfl
    exact hquestion hc
  unfold beforeQuery queryOf
  rw [beforeFragment_of_query hfragment, List.takeWhile_append_of_pos haddress,
    List.dropWhile_append_of_pos haddress]
  simp [formEncode]

end

end SlackCourier.Text
