import KernelForge.Proofs.Disk.Segments

/-!
# Texts that are read back

Bytes are read as text even where some of them are none. The bytes of a text read back as the text:
the first byte of every character promises what the others keep. Main statement: `text_utf8`.
-/

namespace KernelForge

namespace Utf8

variable {b second tails bits used scalar v : Nat} {rest : Bytes}

theorem toNat_byte (hb : b < 256) : (UInt8.ofNat b).toNat = b := UInt8.toNat_ofNat_of_lt' hb

/-- What follows a first byte is read six bits at a time. -/
theorem follow_succ (hv : v < 64)
    (h : follow tails 0x80 0xBF (bits * 64 + v) rest = (used, some scalar)) :
    follow (tails + 1) 0x80 0xBF bits (UInt8.ofNat (v + 128) :: rest) =
      (used + 1, some scalar) := by
  rw [follow, toNat_byte (by omega), if_pos (by omega), Nat.add_sub_cancel, h]

/-- A first byte promises a character of more bytes, of which `second` may be the next. -/
def Promises (b tails bits second : Nat) : Prop :=
  ∃ low high, lead? b = some ⟨tails, low, high, bits⟩ ∧ low ≤ second ∧ second ≤ high

/-- A promise that is kept gives a character. -/
theorem decodeLossy_of_promises (hb : b < 256) (hsecond : second < 256)
    (hp : Promises b (tails + 1) bits second)
    (h : follow tails 0x80 0xBF (bits * 64 + (second - 0x80)) rest = (used, some scalar)) :
    decodeLossy (UInt8.ofNat b :: UInt8.ofNat second :: rest) =
      Char.ofNat scalar :: decodeLossy (rest.drop used) := by
  obtain ⟨low, high, hlead, hlow, hhigh⟩ := hp
  rw [decodeLossy, toNat_byte hb, hlead]
  simp only [follow, toNat_byte hsecond, if_pos (And.intro hlow hhigh), h, List.drop_succ_cons]

theorem promises_two (hlow : 127 < v) (hhigh : v ≤ 2047) :
    Promises (v / 64 % 32 + 192) 1 (v / 64) (v % 64 + 128) := by
  have hbits : v / 64 % 32 + 192 - 0xC0 = v / 64 := by omega
  unfold Promises lead?
  rw [if_neg (by omega), if_neg (by omega), if_pos (by omega), hbits]
  exact ⟨0x80, 0xBF, rfl, by omega, by omega⟩

/-- Three bytes are promised where neither a shorter form nor a surrogate is meant. -/
theorem promises_three (hlow : 2047 < v) (hhigh : v ≤ 65535) (hvalid : v < 0xD800 ∨ 0xDFFF < v) :
    Promises (v / 4096 % 16 + 224) 2 (v / 4096) (v / 64 % 64 + 128) := by
  unfold Promises lead?
  rw [if_neg (by omega), if_neg (by omega), if_neg (by omega)]
  by_cases hfirst : v / 4096 % 16 + 224 = 0xE0
  · have hbits : v / 4096 = 0 := by omega
    exact ⟨0xA0, 0xBF, by rw [if_pos hfirst, hbits], by omega, by omega⟩
  rw [if_neg hfirst]
  by_cases hlast : v / 4096 % 16 + 224 = 0xED
  · have hbits : v / 4096 = 0xD := by omega
    exact ⟨0x80, 0x9F, by rw [if_pos hlast, hbits], by omega, by omega⟩
  · have hbits : v / 4096 % 16 + 224 - 0xE0 = v / 4096 := by omega
    exact ⟨0x80, 0xBF, by rw [if_neg hlast, if_pos (by omega), hbits], by omega, by omega⟩

/-- Four bytes are promised where neither a shorter form is meant nor more than the last
character. -/
theorem promises_four (hlow : 65535 < v) (hhigh : v < 0x110000) :
    Promises (v / 262144 % 8 + 240) 3 (v / 262144) (v / 4096 % 64 + 128) := by
  unfold Promises lead?
  rw [if_neg (by omega), if_neg (by omega), if_neg (by omega), if_neg (by omega), if_neg (by omega),
    if_neg (by omega)]
  by_cases hfirst : v / 262144 % 8 + 240 = 0xF0
  · have hbits : v / 262144 = 0 := by omega
    exact ⟨0x90, 0xBF, by rw [if_pos hfirst, hbits], by omega, by omega⟩
  rw [if_neg hfirst]
  by_cases hlast : v / 262144 % 8 + 240 = 0xF4
  · have hbits : v / 262144 = 4 := by omega
    exact ⟨0x80, 0x8F, by rw [if_neg (by omega), if_pos hlast, hbits], by omega, by omega⟩
  · have hbits : v / 262144 % 8 + 240 - 0xF0 = v / 262144 := by omega
    exact ⟨0x80, 0xBF, by rw [if_pos (by omega), hbits], by omega, by omega⟩

/-- The bytes of a character are read as the character. -/
theorem decodeLossy_utf8EncodeChar (c : Char) (rest : Bytes) :
    decodeLossy (String.utf8EncodeChar c ++ rest) = c :: decodeLossy rest := by
  have hc : Char.ofNat c.val.toNat = c := Char.ofNat_toNat c
  have hvalid := c.valid
  rw [UInt32.isValidChar, Nat.isValidChar] at hvalid
  rw [String.utf8EncodeChar]
  generalize c.val.toNat = v at hc hvalid
  subst hc
  split
  · have hlead : lead? v = some ⟨0, 0, 0, v⟩ := if_pos (by omega)
    rw [List.singleton_append, decodeLossy, toNat_byte (by omega), hlead]
    rfl
  split
  · have hscalar : v / 64 * 64 + (v % 64 + 128 - 0x80) = v := by omega
    have hfollow : follow 0 0x80 0xBF (v / 64 * 64 + (v % 64 + 128 - 0x80)) rest = (0, some v) := by
      rw [hscalar, follow]
    exact decodeLossy_of_promises (by omega) (by omega) (promises_two (by omega) (by omega)) hfollow
  split
  · have hscalar : (v / 4096 * 64 + (v / 64 % 64 + 128 - 0x80)) * 64 + v % 64 = v := by omega
    have hfollow := follow_succ (v := v % 64) (by omega)
      (show follow 0 0x80 0xBF _ rest = (0, some v) by rw [hscalar, follow])
    exact decodeLossy_of_promises (by omega) (by omega)
      (promises_three (by omega) (by omega) (by omega)) hfollow
  · have hscalar : ((v / 262144 * 64 + (v / 4096 % 64 + 128 - 0x80)) * 64 + v / 64 % 64) * 64 +
        v % 64 = v := by omega
    have hlast := follow_succ (v := v % 64) (by omega)
      (show follow 0 0x80 0xBF _ rest = (0, some v) by rw [hscalar, follow])
    have hfollow := follow_succ (v := v / 64 % 64) (by omega) hlast
    exact decodeLossy_of_promises (by omega) (by omega) (promises_four (by omega) (by omega))
      hfollow

/-- The bytes of a text read back as the text. -/
theorem text_utf8 (s : String) : text (utf8 s) = s := by
  have hchars : ∀ cs : List Char, decodeLossy (cs.flatMap String.utf8EncodeChar) = cs := by
    intro cs
    induction cs with
    | nil => rw [List.flatMap_nil, decodeLossy]
    | cons c rest ih => rw [List.flatMap_cons, decodeLossy_utf8EncodeChar, ih]
  rw [text, utf8_eq_flatMap, hchars, String.ofList_toList]

end Utf8

/-- A path that is made of a text shows it. -/
theorem Path.text_ofString (s : String) : (Path.ofString s).text = s := Utf8.text_utf8 s

end KernelForge
