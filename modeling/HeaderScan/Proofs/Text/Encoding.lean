import Mathlib.Data.List.Basic
import HeaderScan.Text.Utf8

namespace HeaderScan
namespace Text

/-!
Texts and their bytes.

The first byte of a character tells how many there are, and those behind it are high.  So the byte
of an ASCII character stands for nothing but this character, and what is searched for among the
bytes of a text is found where it stands among the characters.
-/

/-! ## One character -/

/-- The bytes of a character: a first one that announces their number, and is the character itself
if that is in ASCII, and high ones behind it. -/
structure IsEncoded (c : Char) (first : UInt8) (others : List UInt8) : Prop where
  bytes : String.utf8EncodeChar c = first :: others
  width : sequenceWidth first = others.length + 1
  ascii : first < 0x80 ∨ c.toNat < 0x80 -> first.toNat = c.toNat ∧ others = []
  high : ∀ byte ∈ others, 0x80 ≤ byte

private theorem sequenceWidth_ofNat {code : Nat} (small : code < 256) :
    sequenceWidth (UInt8.ofNat code) =
      if code < 0xC0 then 1 else if code < 0xE0 then 2 else if code < 0xF0 then 3
      else if code < 0xF8 then 4 else 1 := by
  simp [sequenceWidth, UInt8.lt_iff_toNat_lt, Nat.mod_eq_of_lt small]

private theorem high_ofNat {code : Nat} (small : code < 64) : 0x80 ≤ UInt8.ofNat (code + 128) := by
  rw [UInt8.le_iff_toNat_le, UInt8.toNat_ofNat', Nat.mod_eq_of_lt (by omega)]
  exact Nat.le_add_left 128 code

/-- Several bytes, the first of which is as high as they are many. -/
private theorem isEncoded_long {c : Char} {code : Nat} {others : List UInt8}
    (long : 0x80 ≤ c.toNat) (bytes : String.utf8EncodeChar c = UInt8.ofNat code :: others)
    (bounds : 0xC0 ≤ code ∧ code < 0xF8)
    (width : sequenceWidth (UInt8.ofNat code) = others.length + 1)
    (high : ∀ byte ∈ others, 0x80 ≤ byte) : IsEncoded c (UInt8.ofNat code) others where
  bytes := bytes
  width := width
  ascii := by
    have isCode : (0x80 : UInt8).toNat = 128 := rfl
    rw [UInt8.lt_iff_toNat_lt, UInt8.toNat_ofNat', Nat.mod_eq_of_lt (by omega), isCode]
    omega
  high := high

theorem exists_isEncoded (c : Char) : ∃ first others, IsEncoded c first others := by
  have bytes : String.utf8EncodeChar c =
      if c.toNat ≤ 0x7F then [UInt8.ofNat c.toNat]
      else if c.toNat ≤ 0x7FF then
        [UInt8.ofNat (c.toNat / 64 % 32 + 192), UInt8.ofNat (c.toNat % 64 + 128)]
      else if c.toNat ≤ 0xFFFF then
        [UInt8.ofNat (c.toNat / 4096 % 16 + 224), UInt8.ofNat (c.toNat / 64 % 64 + 128),
          UInt8.ofNat (c.toNat % 64 + 128)]
      else
        [UInt8.ofNat (c.toNat / 262144 % 8 + 240), UInt8.ofNat (c.toNat / 4096 % 64 + 128),
          UInt8.ofNat (c.toNat / 64 % 64 + 128), UInt8.ofNat (c.toNat % 64 + 128)] := rfl
  have allHigh : ∀ codes : List Nat,
      ∀ byte ∈ codes.map fun code => UInt8.ofNat (code % 64 + 128), 0x80 ≤ byte := by
    intro codes byte member
    rcases List.mem_map.mp member with ⟨code, _, rfl⟩
    exact high_ofNat (Nat.mod_lt code (by decide))
  split at bytes
  next short =>
    refine ⟨_, _, bytes, ?_, fun _ => ⟨?_, rfl⟩, by simp⟩
    · rw [sequenceWidth_ofNat (by omega), if_pos (by omega)]
      rfl
    · exact Nat.mod_eq_of_lt (by omega)
  next long =>
    split at bytes
    · refine ⟨_, _, isEncoded_long (by omega) bytes (by omega) ?_ (allHigh [_])⟩
      rw [sequenceWidth_ofNat (by omega), if_neg (by omega), if_pos (by omega)]
      rfl
    split at bytes
    · refine ⟨_, _, isEncoded_long (by omega) bytes (by omega) ?_ (allHigh [_, _])⟩
      rw [sequenceWidth_ofNat (by omega), if_neg (by omega), if_neg (by omega), if_pos (by omega)]
      rfl
    · refine ⟨_, _, isEncoded_long (by omega) bytes (by omega) ?_ (allHigh [_, _, _])⟩
      rw [sequenceWidth_ofNat (by omega), if_neg (by omega), if_neg (by omega), if_neg (by omega),
        if_pos (by omega)]
      rfl

namespace IsEncoded

variable {c : Char} {first : UInt8} {others : List UInt8}

theorem size (encoded : IsEncoded c first others) : c.utf8Size = others.length + 1 := by
  rw [← String.length_utf8EncodeChar c, encoded.bytes, List.length_cons]

variable {byte : UInt8} {letter : Char}

/-- An ASCII character is its own byte. -/
theorem of_isByte (encoded : IsEncoded letter first others) (isByte : byte.toNat = letter.toNat)
    (low : byte < 0x80) : first = byte ∧ others = [] := by
  have isLow : letter.toNat < 0x80 := by
    rw [← isByte]
    exact UInt8.lt_iff_toNat_lt.mp low
  rcases encoded.ascii (Or.inr isLow) with ⟨same, short⟩
  exact ⟨UInt8.toNat_inj.mp (same.trans isByte.symm), short⟩

/-- The byte of an ASCII character comes first, and in no other character. -/
theorem first_eq_iff (encoded : IsEncoded c first others) (isByte : byte.toNat = letter.toNat)
    (low : byte < 0x80) : first = byte ↔ c = letter := by
  constructor
  · rintro rfl
    have same := (encoded.ascii (Or.inl low)).1
    exact Char.toNat_inj.mp (same.symm.trans isByte)
  · rintro rfl
    exact (encoded.of_isByte isByte low).1

theorem notMem_others (encoded : IsEncoded c first others) (low : byte < 0x80) :
    byte ∉ others :=
  fun member => UInt8.not_lt.mpr (encoded.high byte member) low

end IsEncoded

/-! ## Texts -/

theorem bytes_cons {c : Char} {first : UInt8} {others : List UInt8}
    (encoded : IsEncoded c first others) (later : List Char) :
    bytes (c :: later) = first :: (others ++ bytes later) := by
  rw [← List.cons_append, ← encoded.bytes]
  rfl

theorem bytes_append (front back : List Char) : bytes (front ++ back) = bytes front ++ bytes back :=
  List.flatMap_append

theorem length_bytes (text : List Char) : (bytes text).length = byteLength text := by
  induction text with
  | nil => rfl
  | cons c later inductionHypothesis =>
    have shape : bytes (c :: later) = String.utf8EncodeChar c ++ bytes later := rfl
    rw [shape, List.length_append, String.length_utf8EncodeChar, inductionHypothesis,
      byteLength_cons]

variable {byte : UInt8} {letter : Char}

/-- An ASCII character is as often among the bytes of a text as among its characters. -/
theorem count_bytes_of_ascii (isByte : byte.toNat = letter.toNat) (low : byte < 0x80)
    (text : List Char) : (bytes text).count byte = text.count letter := by
  induction text with
  | nil => rfl
  | cons c later inductionHypothesis =>
    rcases exists_isEncoded c with ⟨first, others, encoded⟩
    rw [bytes_cons encoded, List.count_cons, List.count_append,
      List.count_eq_zero.mpr (encoded.notMem_others low), inductionHypothesis, List.count_cons]
    simp only [beq_iff_eq, encoded.first_eq_iff isByte low, Nat.zero_add]

/-- There are as many line feeds among the bytes of a text as among its characters. -/
theorem count_bytes (text : List Char) : (bytes text).count 0x0A = text.count '\n' :=
  count_bytes_of_ascii rfl (by decide) text

/-- What is not there at first is found as far behind as it is among the others. -/
private theorem idxOf?_append_of_notMem {front : List UInt8} (absent : byte ∉ front)
    (back : List UInt8) :
    (front ++ back).idxOf? byte = (back.idxOf? byte).map (· + front.length) := by
  rw [List.idxOf?, List.findIdx?_append, ← List.idxOf?, List.idxOf?_eq_none_iff.mpr absent]
  rfl

/-- An ASCII character is found first among the bytes of a text where it is found first among its
characters. -/
theorem idxOf?_bytes (isByte : byte.toNat = letter.toNat) (low : byte < 0x80) (text : List Char) :
    (bytes text).idxOf? byte =
      (text.idxOf? letter).map fun index => byteLength (text.take index) := by
  induction text with
  | nil => rfl
  | cons c later inductionHypothesis =>
    rcases exists_isEncoded c with ⟨first, others, encoded⟩
    rw [bytes_cons encoded, List.idxOf?_cons, List.idxOf?_cons,
      idxOf?_append_of_notMem (encoded.notMem_others low), inductionHypothesis]
    simp only [beq_iff_eq, encoded.first_eq_iff isByte low]
    split
    · rfl
    · simp only [Option.map_map]
      congr 1
      funext index
      simp only [Function.comp_apply, List.take_succ_cons, byteLength_cons, encoded.size]
      omega

/-- What begins with the byte of an ASCII character stands at the front of a text where this
character does and the others stand behind it. -/
theorem cons_isPrefix_bytes_iff (isByte : byte.toNat = letter.toNat) (low : byte < 0x80)
    {piece : List UInt8} {text : List Char} :
    byte :: piece <+: bytes text ↔ ∃ later, text = letter :: later ∧ piece <+: bytes later := by
  cases text with
  | nil => simp [bytes]
  | cons c later =>
    rcases exists_isEncoded c with ⟨first, others, encoded⟩
    rw [bytes_cons encoded, List.cons_prefix_cons, eq_comm, encoded.first_eq_iff isByte low]
    constructor
    · rintro ⟨rfl, stands⟩
      rw [(encoded.of_isByte isByte low).2] at stands
      exact ⟨later, rfl, stands⟩
    · rintro ⟨behind, shape, stands⟩
      rcases List.cons.inj shape with ⟨rfl, rfl⟩
      rw [(encoded.of_isByte isByte low).2]
      exact ⟨rfl, stands⟩

end Text
end HeaderScan
