import Backtrack.Text.Blank
import Backtrack.Text.Offset
import Backtrack.Text.Utf8

/-! # Texts in octets

    Octets are text if they are the octets of a text, which is then the only
    one. An ASCII character behind octets is a character of its own: it ends
    no other, so the octets in front of it are text if all of them are.

    * `decode?_eq_some_iff`: what is decoded.
    * `decode?_append_ascii`: an ASCII character at the end.
    * `mem_of_ascii_mem_encode`: an ASCII character anywhere.
    * `trim_append_blank`: a blank at the end. -/

namespace Backtrack.Text

variable {octets : List UInt8} {text : Text} {c d : Char}

/-! ## §1. Decoding -/

theorem encode_append (front behind : Text) :
    encode (front ++ behind) = encode front ++ encode behind :=
  List.flatMap_append

theorem encode_singleton (c : Char) : encode [c] = String.utf8EncodeChar c :=
  List.flatMap_singleton _ c

/-- A text is given back by its octets as an array. -/
theorem utf8Encode_eq (text : Text) : text.utf8Encode = ⟨(encode text).toArray⟩ :=
  ByteArray.ext List.data_toByteArray

/-- Octets are decoded into the text that they encode. -/
theorem decode?_eq_some_iff : decode? octets = some text ↔ encode text = octets := by
  unfold decode? String.fromUTF8?
  rw [Option.map_eq_some_iff]
  constructor
  · rintro ⟨string, hstring, rfl⟩
    split at hstring
    · cases hstring
      have hencode := String.utf8Encode_toList (b := .fromUTF8 ⟨octets.toArray⟩ ‹_›)
      rw [utf8Encode_eq] at hencode
      exact List.toArray_inj (congrArg ByteArray.data hencode)
    · cases hstring
  · rintro rfl
    rw [← utf8Encode_eq, dif_pos (ByteArray.IsValidUTF8.intro text rfl)]
    exact ⟨String.ofList text, rfl, String.toList_ofList⟩

/-! ## §2. An ASCII character at the end -/

/-- The last octet of a character is one of ASCII only if it is the first as well, and the character
that one. -/
theorem exists_last_octet (c : Char) :
    ∃ front last, String.utf8EncodeChar c = front ++ [last] ∧
      (last < 128 → front = [] ∧ last = UInt8.ofNat c.toNat ∧ c.toNat < 128) := by
  have hhigh (n : Nat) : ¬ UInt8.ofNat (n % 64 + 128) < 128 := by
    have hbound : (128 : UInt8).toNat = 128 := rfl
    rw [UInt8.lt_iff_toNat_lt, UInt8.toNat_ofNat', hbound]
    omega
  unfold String.utf8EncodeChar
  simp only
  split
  · exact ⟨[], _, rfl, fun _ => ⟨rfl, rfl, by unfold Char.toNat; omega⟩⟩
  · split
    · exact ⟨[_], _, rfl, fun h => absurd h (hhigh _)⟩
    · split
      · exact ⟨[_, _], _, rfl, fun h => absurd h (hhigh _)⟩
      · exact ⟨[_, _, _], _, rfl, fun h => absurd h (hhigh _)⟩

/-- An ASCII character behind octets is decoded behind them. -/
theorem decode?_append_ascii (hc : c.toNat < 128) :
    decode? (octets ++ [UInt8.ofNat c.toNat]) = (decode? octets).map (· ++ [c]) := by
  have hencode : String.utf8EncodeChar c = [UInt8.ofNat c.toNat] := by
    unfold String.utf8EncodeChar
    exact if_pos (Nat.le_of_lt_succ hc)
  have hvalue (c : Char) (hc : c.toNat < 128) : (UInt8.ofNat c.toNat).toNat = c.toNat := by
    rw [UInt8.toNat_ofNat']
    omega
  refine Option.ext fun text => ?_
  rw [decode?_eq_some_iff, Option.map_eq_some_iff]
  constructor
  · intro h
    obtain rfl | ⟨before, d, rfl⟩ := text.eq_nil_or_concat
    · simp [encode] at h
    obtain ⟨front, last, hd, hlast⟩ := exists_last_octet d
    rw [List.concat_eq_append, encode_append, encode_singleton, hd, ← List.append_assoc] at h
    obtain ⟨hfront, hoctet⟩ := List.append_inj' h rfl
    obtain rfl : last = UInt8.ofNat c.toNat := List.singleton_inj.1 hoctet
    have hlow : UInt8.ofNat c.toNat < 128 := by
      rw [UInt8.lt_iff_toNat_lt, hvalue c hc]
      exact hc
    obtain ⟨rfl, hsame, hd128⟩ := hlast hlow
    have hcd : c.toNat = d.toNat := by rw [← hvalue c hc, hsame, hvalue d hd128]
    have hchar : c = d := by rw [← Char.ofNat_toNat c, hcd, Char.ofNat_toNat]
    refine ⟨before, decode?_eq_some_iff.2 ?_, ?_⟩
    · rw [← hfront, List.append_nil]
    · rw [hchar, List.concat_eq_append]
  · rintro ⟨before, hbefore, rfl⟩
    rw [encode_append, decode?_eq_some_iff.1 hbefore, encode_singleton, hencode]

/-! ## §3. ASCII characters anywhere -/

/-- The octets of other characters are all above those of ASCII. -/
theorem eq_of_ascii_mem_utf8EncodeChar (hc : c.toNat < 128)
    (h : UInt8.ofNat c.toNat ∈ String.utf8EncodeChar d) : d = c := by
  have hlow (n : Nat) (heq : UInt8.ofNat c.toNat = UInt8.ofNat n) : n % 256 = c.toNat := by
    have hvalues := congrArg UInt8.toNat heq
    rw [UInt8.toNat_ofNat', UInt8.toNat_ofNat'] at hvalues
    omega
  have hhigh (n : Nat) (hn : 128 ≤ n % 256) : UInt8.ofNat c.toNat ≠ UInt8.ofNat n := by
    intro heq
    have hvalue := hlow n heq
    omega
  unfold String.utf8EncodeChar at h
  simp only at h
  split at h
  · have hvalue := hlow _ (List.mem_singleton.1 h)
    have hsame : d.toNat = c.toNat := by
      unfold Char.toNat at hvalue ⊢
      omega
    rw [← Char.ofNat_toNat d, hsame, Char.ofNat_toNat]
  -- Every octet of a longer character has its highest bit.
  · split at h
    · simp only [List.mem_cons, List.not_mem_nil, or_false] at h
      rcases h with h | h <;> exact absurd h (hhigh _ (by omega))
    · split at h
      · simp only [List.mem_cons, List.not_mem_nil, or_false] at h
        rcases h with h | h | h <;> exact absurd h (hhigh _ (by omega))
      · simp only [List.mem_cons, List.not_mem_nil, or_false] at h
        rcases h with h | h | h | h <;> exact absurd h (hhigh _ (by omega))

/-- An octet of ASCII in a text stands for its character. -/
theorem mem_of_ascii_mem_encode (hc : c.toNat < 128) (h : UInt8.ofNat c.toNat ∈ encode text) :
    c ∈ text := by
  obtain ⟨d, hmem, hoctet⟩ := List.mem_flatMap.1 h
  rw [← eq_of_ascii_mem_utf8EncodeChar hc hoctet]
  exact hmem

/-! ## §4. Blanks -/

/-- A blank behind a text is cut off with the blanks around it. -/
theorem trim_append_blank (hc : isBlank c = true) (text : Text) :
    trim (text ++ [c]) = trim text := by
  have hend (front : Text) : trimEnd (front ++ [c]) = trimEnd front := by
    unfold trimEnd
    rw [List.reverse_append, List.reverse_singleton, List.singleton_append,
      List.dropWhile_cons_of_pos hc]
  unfold trim trimStart
  rw [List.dropWhile_append]
  split
  · next hall =>
    rw [List.dropWhile_cons_of_pos hc, List.isEmpty_iff.1 hall]
    rfl
  · exact hend _

end Backtrack.Text
