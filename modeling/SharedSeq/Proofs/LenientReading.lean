import SharedSeq.Text.Utf8

/-!
# Lenient reading of UTF-8

What `Text.decodeLossy` makes of any bytes, told without its state (`Text.ReadsAs`): whole characters are read as they are,
and each ill-formed run as one replacement character. Such a run is one byte that begins no character, or all bytes that
begin one whose next byte is missing.

* A begun character admits an interval of code points. They are those of the characters that begin with the bytes read so
  far (`Begun.Follows`), and each byte of its range narrows the interval (`Begun.Follows.next`).
* So bytes are read as `ReadsAs` says (`readsAs_decodeLossy`), and the UTF-8 of a text as that text (`decodeLossy_encode`).
  Bytes without a replacement character in their reading are well-formed (`ReadsAs.encode_eq`).
* A byte below 128 is a character of its own wherever it stands, so that well-formed bytes may be cut around it
  (`wellFormed_append_cons_iff`).
-/

namespace SharedSeq.Text

open String (utf8EncodeChar)

/-! ## The bytes of a character -/

/-- A number without its `n` lowest groups of six bits. -/
def above : Nat → Nat → Nat
  | 0, v => v
  | n + 1, v => above n v / 64

/-- The bytes that continue a character: one for each of the `n` lowest groups of six bits, the highest first. -/
def continuation : Nat → Nat → List UInt8
  | 0, _ => []
  | n + 1, v => UInt8.ofNat (above n v % 64 + 0x80) :: continuation n v

section Characters

theorem exists_above : ∀ n w : Nat, ∃ v, above n v = w
  | 0, w => ⟨w, rfl⟩
  | n + 1, w => by
    obtain ⟨v, hv⟩ := exists_above n (w * 64)
    exact ⟨v, by rw [above, hv, Nat.mul_div_cancel _ (by decide)]⟩

theorem isValidChar_toNat (c : Char) : c.toNat < 0xD800 ∨ 0xDFFF < c.toNat ∧ c.toNat < 0x110000 := c.valid

theorem toNat_ofNat_of_isValidChar {v : Nat} (h : v.isValidChar) : (Char.ofNat v).toNat = v := by
  rw [Char.ofNat, dif_pos h]
  rfl

/-- A character is one byte, or a first byte, which tells how many follow and has the highest bits, and these. -/
theorem utf8EncodeChar_eq (c : Char) :
    utf8EncodeChar c =
      if c.toNat ≤ 0x7F then [UInt8.ofNat c.toNat]
      else if c.toNat ≤ 0x7FF then UInt8.ofNat (above 1 c.toNat + 0xC0) :: continuation 1 c.toNat
      else if c.toNat ≤ 0xFFFF then UInt8.ofNat (above 2 c.toNat + 0xE0) :: continuation 2 c.toNat
      else UInt8.ofNat (above 3 c.toNat + 0xF0) :: continuation 3 c.toNat := by
  have hvalid := isValidChar_toNat c
  have hval : c.val.toNat = c.toNat := rfl
  unfold utf8EncodeChar
  simp only [hval, continuation, above]
  generalize c.toNat = v at hvalid
  have htwo : v / 64 / 64 = v / 4096 := by omega
  have hthree : v / 64 / 64 / 64 = v / 262144 := by omega
  rw [hthree, htwo]
  split
  · rfl
  · split
    · rw [Nat.mod_eq_of_lt (by omega : v / 64 < 32)]
    · split
      · rw [Nat.mod_eq_of_lt (by omega : v / 4096 < 16)]
      · rw [Nat.mod_eq_of_lt (by omega : v / 262144 < 8)]

theorem singleton_isPrefix_cons {b b' : UInt8} {bs : List UInt8} : [b] <+: b' :: bs ↔ b.toNat = b'.toNat := by
  rw [List.cons_prefix_cons, UInt8.toNat_inj]
  simp

/-- The first byte of a character, by the number of those that follow. -/
theorem first_byte_cases {b : UInt8} {c : Char} (h : [b] <+: utf8EncodeChar c) :
    c.toNat ≤ 0x7F ∧ b.toNat = c.toNat ∨
    0x7F < c.toNat ∧ c.toNat ≤ 0x7FF ∧ b.toNat = above 1 c.toNat + 0xC0 ∨
    0x7FF < c.toNat ∧ c.toNat ≤ 0xFFFF ∧ b.toNat = above 2 c.toNat + 0xE0 ∨
    0xFFFF < c.toNat ∧ b.toNat = above 3 c.toNat + 0xF0 := by
  have hvalid := isValidChar_toNat c
  rw [utf8EncodeChar_eq] at h
  generalize c.toNat = v at hvalid h
  simp only [above] at h ⊢
  split at h
  · rw [singleton_isPrefix_cons, UInt8.toNat_ofNat'] at h
    omega
  · split at h
    · rw [singleton_isPrefix_cons, UInt8.toNat_ofNat'] at h
      omega
    · split at h
      · rw [singleton_isPrefix_cons, UInt8.toNat_ofNat'] at h
        omega
      · rw [singleton_isPrefix_cons, UInt8.toNat_ofNat'] at h
        omega

theorem le_of_mem_continuation {b : UInt8} {v : Nat} : ∀ {n : Nat}, b ∈ continuation n v → 0x80 ≤ b.toNat
  | n + 1, h => by
    rcases List.mem_cons.1 h with rfl | h
    · rw [UInt8.toNat_ofNat']
      omega
    · exact le_of_mem_continuation h

variable {b : UInt8} (hb : b.toNat < 0x80)
include hb

theorem utf8EncodeChar_ofNat : utf8EncodeChar (Char.ofNat b.toNat) = [b] := by
  have hchar : (Char.ofNat b.toNat).toNat = b.toNat := toNat_ofNat_of_isValidChar (Or.inl (by omega))
  rw [utf8EncodeChar_eq, hchar, if_pos (by omega), UInt8.ofNat_toNat]

/-- Only one character has a byte below 128. -/
theorem eq_ofNat_of_mem {c : Char} (h : b ∈ utf8EncodeChar c) : c = Char.ofNat b.toNat := by
  have hlead : ∀ {n k : Nat}, 0x80 ≤ k → k ≤ 0xFF → b ∉ UInt8.ofNat k :: continuation n c.toNat := by
    intro n k hk hk' hmem
    rcases List.mem_cons.1 hmem with rfl | hmem
    · rw [UInt8.toNat_ofNat'] at hb
      omega
    · have := le_of_mem_continuation hmem
      omega
  have hvalid := isValidChar_toNat c
  rw [utf8EncodeChar_eq] at h
  split at h
  · have hbyte : b.toNat = c.toNat := by
      rw [List.mem_singleton.1 h, UInt8.toNat_ofNat']
      omega
    rw [hbyte, Char.ofNat_toNat]
  · exfalso
    split at h
    · exact hlead (by omega) (by simp only [above]; omega) h
    · split at h
      · exact hlead (by omega) (by simp only [above]; omega) h
      · exact hlead (by omega) (by simp only [above]; omega) h

end Characters

/-! ## Begun characters -/

/-- The bytes begin the UTF-8 of a character. -/
def Begins (bs : List UInt8) : Prop := ∃ c, bs <+: utf8EncodeChar c

namespace Begun

/-- The code point has the bits of the begun character, and its next byte is of the range. -/
def Admits (p : Begun) (v : Nat) : Prop :=
  p.bits * 64 + (p.low.toNat - 0x80) ≤ above p.after v ∧ above p.after v ≤ p.bits * 64 + (p.high.toNat - 0x80)

/-- The bytes have been read of the begun character: it admits the characters that begin with them. -/
structure Follows (p : Begun) (read : List UInt8) : Prop where
  range : 0x80 ≤ p.low.toNat ∧ p.low.toNat ≤ p.high.toNat ∧ p.high.toNat ≤ 0xBF
  valid : ∀ v, p.Admits v → v.isValidChar
  bytes_eq : ∀ c : Char, p.Admits c.toNat → utf8EncodeChar c = read ++ continuation (p.after + 1) c.toNat
  admits : ∀ c : Char, read <+: utf8EncodeChar c → p.Admits c.toNat

variable {p : Begun} {read : List UInt8} {b : UInt8}

section Feed

theorem feed_last (hb : p.low ≤ b ∧ b ≤ p.high) (h : p.after = 0) :
    feed (some p) b = ([Char.ofNat (p.bits * 64 + (b.toNat - 0x80))], none) := by
  rw [feed, if_pos hb, h]

theorem feed_more {n : Nat} (hb : p.low ≤ b ∧ b ≤ p.high) (h : p.after = n + 1) :
    feed (some p) b = ([], some ⟨p.bits * 64 + (b.toNat - 0x80), 0x80, 0xBF, n⟩) := by
  rw [feed, if_pos hb, h]

theorem feed_other (hb : ¬ (p.low ≤ b ∧ b ≤ p.high)) : feed (some p) b = (replacement :: (start b).1, (start b).2) := by
  rw [feed, if_neg hb]

end Feed

namespace Follows

section Next

/-- The next byte of an admitted character has its next six bits. -/
theorem isPrefix_iff (h : p.Follows read) (c : Char) :
    read ++ [b] <+: utf8EncodeChar c ↔ p.Admits c.toNat ∧ b.toNat = above p.after c.toNat % 64 + 0x80 := by
  have hbyte : (UInt8.ofNat (above p.after c.toNat % 64 + 0x80)).toNat = above p.after c.toNat % 64 + 0x80 := by
    rw [UInt8.toNat_ofNat']
    omega
  constructor
  · intro hc
    have hadmits := h.admits c ((List.prefix_append read [b]).trans hc)
    rw [h.bytes_eq c hadmits, List.prefix_append_right_inj, continuation, singleton_isPrefix_cons, hbyte] at hc
    exact ⟨hadmits, hc⟩
  · rintro ⟨hadmits, hb⟩
    rw [h.bytes_eq c hadmits, List.prefix_append_right_inj, continuation, singleton_isPrefix_cons, hbyte]
    exact hb

/-- A byte outside of the range does not continue the character. -/
theorem not_begins (h : p.Follows read) (hb : ¬ (p.low ≤ b ∧ b ≤ p.high)) : ¬ Begins (read ++ [b]) := by
  rintro ⟨c, hc⟩
  obtain ⟨hadmits, hbyte⟩ := (h.isPrefix_iff c).1 hc
  have hrange := h.range
  rw [UInt8.le_iff_toNat_le, UInt8.le_iff_toNat_le] at hb
  unfold Admits at hadmits
  omega

theorem mem_range (h : p.Follows read) {v : Nat} (hv : p.Admits v) (hb : b.toNat = above p.after v % 64 + 0x80) :
    (p.low ≤ b ∧ b ≤ p.high) ∧ p.bits * 64 + (b.toNat - 0x80) = above p.after v := by
  have hrange := h.range
  rw [UInt8.le_iff_toNat_le, UInt8.le_iff_toNat_le]
  unfold Admits at hv
  omega

/-- A byte of the range leads to the code points with its bits. -/
theorem admits_of_mem_range (h : p.Follows read) (hb : p.low ≤ b ∧ b ≤ p.high) {v : Nat}
    (hv : above p.after v = p.bits * 64 + (b.toNat - 0x80)) : p.Admits v ∧ b.toNat = above p.after v % 64 + 0x80 := by
  have hrange := h.range
  rw [UInt8.le_iff_toNat_le, UInt8.le_iff_toNat_le] at hb
  unfold Admits
  omega

/-- The last byte makes a character of what has been read. -/
theorem utf8EncodeChar_last (h : p.Follows read) (hb : p.low ≤ b ∧ b ≤ p.high) (hafter : p.after = 0) :
    utf8EncodeChar (Char.ofNat (p.bits * 64 + (b.toNat - 0x80))) = read ++ [b] := by
  have habove : above p.after (p.bits * 64 + (b.toNat - 0x80)) = p.bits * 64 + (b.toNat - 0x80) := by rw [hafter, above]
  obtain ⟨hadmits, hbyte⟩ := h.admits_of_mem_range hb habove
  have hchar := toNat_ofNat_of_isValidChar (h.valid _ hadmits)
  have hbytes := h.bytes_eq (Char.ofNat (p.bits * 64 + (b.toNat - 0x80))) (by rw [hchar]; exact hadmits)
  rw [hbytes, hchar, continuation, ← hbyte, UInt8.ofNat_toNat, hafter, continuation]

/-- Any other byte leaves one byte less to come, whose range is the full one. -/
theorem next (h : p.Follows read) (hb : p.low ≤ b ∧ b ≤ p.high) {n : Nat} (hafter : p.after = n + 1) :
    Follows ⟨p.bits * 64 + (b.toNat - 0x80), 0x80, 0xBF, n⟩ (read ++ [b]) := by
  have hadmits : ∀ v, Admits ⟨p.bits * 64 + (b.toNat - 0x80), 0x80, 0xBF, n⟩ v ↔
      above p.after v = p.bits * 64 + (b.toNat - 0x80) := by
    intro v
    rw [hafter, above]
    simp only [Admits, UInt8.reduceToNat]
    omega
  have hfull : 0x80 ≤ (0x80 : UInt8).toNat ∧ (0x80 : UInt8).toNat ≤ (0xBF : UInt8).toNat ∧ (0xBF : UInt8).toNat ≤ 0xBF := by
    decide
  refine ⟨hfull, fun v hv => ?_, fun c hc => ?_, fun c hc => ?_⟩
  · exact h.valid v (h.admits_of_mem_range hb ((hadmits v).1 hv)).1
  · obtain ⟨hold, hbyte⟩ := h.admits_of_mem_range hb ((hadmits c.toNat).1 hc)
    rw [h.bytes_eq c hold, hafter, continuation, ← hafter, ← hbyte, UInt8.ofNat_toNat, List.append_assoc]
    rfl
  · obtain ⟨hold, hbyte⟩ := (h.isPrefix_iff c).1 hc
    rw [hadmits]
    exact (h.mem_range hold hbyte).2.symm

/-- What has been read begins a character and is none. -/
theorem begins (h : p.Follows read) : Begins read ∧ ∀ c, utf8EncodeChar c ≠ read := by
  constructor
  · obtain ⟨v, hv⟩ := exists_above p.after (p.bits * 64 + (p.low.toNat - 0x80))
    have hrange := h.range
    have hadmits : p.Admits v := by
      unfold Admits
      omega
    have hchar := toNat_ofNat_of_isValidChar (h.valid v hadmits)
    exact ⟨Char.ofNat v, _, (h.bytes_eq (Char.ofNat v) (hchar.symm ▸ hadmits)).symm⟩
  · intro c hc
    have hbytes := h.bytes_eq c (h.admits c (hc ▸ List.prefix_rfl))
    have hlength := congrArg List.length hbytes
    simp [hc, continuation] at hlength

/-- An admitted character is read to its end. -/
theorem decodeFrom_continuation {c : Char} (bs : List UInt8) (h : p.Follows read) (hc : p.Admits c.toNat) :
    decodeFrom (some p) (continuation (p.after + 1) c.toNat ++ bs) = c :: decodeFrom none bs := by
  generalize hafter : p.after = n
  induction n generalizing p read with
  | zero =>
    have hbyte : (UInt8.ofNat (above 0 c.toNat % 64 + 0x80)).toNat = above p.after c.toNat % 64 + 0x80 := by
      rw [hafter, UInt8.toNat_ofNat']
      omega
    obtain ⟨hrange, hbits⟩ := h.mem_range hc hbyte
    have hchar : Char.ofNat (above p.after c.toNat) = c := by rw [hafter, above, Char.ofNat_toNat]
    rw [continuation, List.cons_append, decodeFrom, feed_last hrange hafter, hbits, hchar]
    rfl
  | succ n ih =>
    have hbyte : (UInt8.ofNat (above (n + 1) c.toNat % 64 + 0x80)).toNat = above p.after c.toNat % 64 + 0x80 := by
      rw [hafter, UInt8.toNat_ofNat']
      omega
    obtain ⟨hrange, hbits⟩ := h.mem_range hc hbyte
    have hnext := h.next hrange hafter
    have hadmits := hnext.admits c ((h.isPrefix_iff c).2 ⟨hc, hbyte⟩)
    rw [continuation, List.cons_append, decodeFrom, feed_more hrange hafter]
    exact ih hnext hadmits rfl

end Next

/-! ## First bytes -/

section First

/-- A first byte is followed by the characters that have it, if these are the ones between two code points and it admits
those of them that have its bits. -/
theorem first (p : Begun) (mark least most : Nat)
    (hrange : 0x80 ≤ p.low.toNat ∧ p.low.toNat ≤ p.high.toNat ∧ p.high.toNat ≤ 0xBF)
    (hwritten : ∀ c : Char, least ≤ c.toNat → c.toNat ≤ most →
      utf8EncodeChar c = UInt8.ofNat (above (p.after + 1) c.toNat + mark) :: continuation (p.after + 1) c.toNat)
    (hfirst : ∀ c : Char, [b] <+: utf8EncodeChar c →
      least ≤ c.toNat ∧ c.toNat ≤ most ∧ above (p.after + 1) c.toNat + mark = b.toNat)
    (hadmits : ∀ v, p.Admits v ↔ (v < 0xD800 ∨ 0xDFFF < v ∧ v < 0x110000) ∧
      least ≤ v ∧ v ≤ most ∧ above (p.after + 1) v + mark = b.toNat) : p.Follows [b] where
  range := hrange
  valid v hv := ((hadmits v).1 hv).1
  bytes_eq c hc := by
    obtain ⟨-, hleast, hmost, hbyte⟩ := (hadmits c.toNat).1 hc
    rw [hwritten c hleast hmost, hbyte, UInt8.ofNat_toNat]
    rfl
  admits c hc := (hadmits c.toNat).2 ⟨isValidChar_toNat c, hfirst c hc⟩

theorem first_of_two (h : 0xC2 ≤ b.toNat) (h' : b.toNat < 0xE0) : Follows ⟨b.toNat - 0xC0, 0x80, 0xBF, 0⟩ [b] := by
  refine first _ 0xC0 0x80 0x7FF ?_ ?_ ?_ ?_
  · simp only [UInt8.reduceToNat]
    omega
  · intro c hleast hmost
    rw [utf8EncodeChar_eq, if_neg (by omega), if_pos hmost]
  · intro c hc
    have hcases := first_byte_cases hc
    simp only [above] at hcases ⊢
    omega
  · intro v
    simp only [Admits, above, UInt8.reduceToNat]
    omega

variable {low high : UInt8}

theorem first_of_three (h : 0xE0 ≤ b.toNat) (h' : b.toNat < 0xF0)
    (hlow : b.toNat = 0xE0 ∧ low.toNat = 0xA0 ∨ b.toNat ≠ 0xE0 ∧ low.toNat = 0x80)
    (hhigh : b.toNat = 0xED ∧ high.toNat = 0x9F ∨ b.toNat ≠ 0xED ∧ high.toNat = 0xBF) :
    Follows ⟨b.toNat - 0xE0, low, high, 1⟩ [b] := by
  refine first _ 0xE0 0x800 0xFFFF ?_ ?_ ?_ ?_
  · simp only
    omega
  · intro c hleast hmost
    rw [utf8EncodeChar_eq, if_neg (by omega), if_neg (by omega), if_pos hmost]
  · intro c hc
    have hcases := first_byte_cases hc
    have hvalid := isValidChar_toNat c
    simp only [above] at hcases ⊢
    omega
  · intro v
    simp only [Admits, above]
    omega

theorem first_of_four (h : 0xF0 ≤ b.toNat) (h' : b.toNat < 0xF5)
    (hlow : b.toNat = 0xF0 ∧ low.toNat = 0x90 ∨ b.toNat ≠ 0xF0 ∧ low.toNat = 0x80)
    (hhigh : b.toNat = 0xF4 ∧ high.toNat = 0x8F ∨ b.toNat ≠ 0xF4 ∧ high.toNat = 0xBF) :
    Follows ⟨b.toNat - 0xF0, low, high, 2⟩ [b] := by
  refine first _ 0xF0 0x10000 0x10FFFF ?_ ?_ ?_ ?_
  · simp only
    omega
  · intro c hleast hmost
    rw [utf8EncodeChar_eq, if_neg (by omega), if_neg (by omega), if_neg (by omega)]
  · intro c hc
    have hcases := first_byte_cases hc
    have hvalid := isValidChar_toNat c
    simp only [above] at hcases ⊢
    omega
  · intro v
    simp only [Admits, above]
    omega

end First

end Follows

end Begun

section Start

variable {b : UInt8}

theorem toNat_ite (b x y z : UInt8) :
    b.toNat = x.toNat ∧ (if b = x then y else z).toNat = y.toNat ∨
      b.toNat ≠ x.toNat ∧ (if b = x then y else z).toNat = z.toNat := by
  by_cases h : b = x
  · simp [h]
  · simp [h, UInt8.toNat_inj]

/-- Between two characters, a byte is one by itself, or it begins none, or it is the first one of some. -/
theorem start_cases (b : UInt8) :
    (start b = ([Char.ofNat b.toNat], none) ∧ b.toNat < 0x80) ∨
    (start b = ([replacement], none) ∧ ¬ Begins [b]) ∨
    ∃ p, start b = ([], some p) ∧ p.Follows [b] := by
  have hnone : (0x80 ≤ b.toNat ∧ b.toNat < 0xC2 ∨ 0xF5 ≤ b.toNat) → ¬ Begins [b] := by
    rintro hb ⟨c, hc⟩
    have hcases := first_byte_cases hc
    have hvalid := isValidChar_toNat c
    simp only [above] at hcases
    omega
  unfold start
  simp only [UInt8.lt_iff_toNat_lt, UInt8.reduceToNat]
  split
  · exact .inl ⟨rfl, ‹_›⟩
  · split
    · exact .inr (.inl ⟨rfl, hnone (by omega)⟩)
    · split
      · exact .inr (.inr ⟨_, rfl, .first_of_two (by omega) (by omega)⟩)
      · split
        · refine .inr (.inr ⟨_, rfl, .first_of_three (by omega) (by omega) ?_ ?_⟩)
          · exact toNat_ite b 0xE0 0xA0 0x80
          · exact toNat_ite b 0xED 0x9F 0xBF
        · split
          · refine .inr (.inr ⟨_, rfl, .first_of_four (by omega) (by omega) ?_ ?_⟩)
            · exact toNat_ite b 0xF0 0x90 0x80
            · exact toNat_ite b 0xF4 0x8F 0xBF
          · exact .inr (.inl ⟨rfl, hnone (by omega)⟩)

end Start

/-! ## Whole readings -/

/-- The bytes are no character, and neither are they with what follows: one byte that begins none, or all bytes that begin
one whose next byte is missing. -/
def IllFormed (bs rest : List UInt8) : Prop :=
  (∃ b, bs = [b] ∧ ¬ Begins [b]) ∨
  (bs ≠ [] ∧ Begins bs ∧ (∀ c, utf8EncodeChar c ≠ bs) ∧ ∀ b ∈ rest.head?, ¬ Begins (bs ++ [b]))

/-- The characters are what the bytes are read as: each character as it is, and each ill-formed run as one replacement. -/
inductive ReadsAs : List UInt8 → List Char → Prop
  | nil : ReadsAs [] []
  | char {bs : List UInt8} {cs : List Char} (c : Char) : ReadsAs bs cs → ReadsAs (utf8EncodeChar c ++ bs) (c :: cs)
  | illFormed {run bs : List UInt8} {cs : List Char} :
      IllFormed run bs → ReadsAs bs cs → ReadsAs (run ++ bs) (replacement :: cs)

section Reading

variable {bs : List UInt8} {cs : List Char}

theorem Begun.Follows.illFormed {p : Begun} {read rest : List UInt8} (h : p.Follows read) (hread : read ≠ [])
    (hrest : ∀ b ∈ rest.head?, ¬ (p.low ≤ b ∧ b ≤ p.high)) : IllFormed read rest :=
  .inr ⟨hread, h.begins.1, h.begins.2, fun b hb => h.not_begins (hrest b hb)⟩

/-- Reading goes on from a begun character as `ReadsAs` says. A byte that does not continue it is read afresh, so that the
case without one comes first. -/
theorem readsAs_decodeFrom : ∀ bs : List UInt8, ReadsAs bs (decodeFrom none bs) ∧
    ∀ {p : Begun} {read : List UInt8}, p.Follows read → read ≠ [] → ReadsAs (read ++ bs) (decodeFrom (some p) bs)
  | [] => ⟨.nil, fun h hread => .illFormed (h.illFormed hread fun _ hb => by cases hb) .nil⟩
  | b :: bs => by
    obtain ⟨hnone, hsome⟩ := readsAs_decodeFrom bs
    have hfresh : ReadsAs (b :: bs) (decodeFrom none (b :: bs)) := by
      rw [decodeFrom, feed]
      rcases start_cases b with ⟨hstart, hb⟩ | ⟨hstart, hb⟩ | ⟨p, hstart, hp⟩
      · rw [hstart]
        have hread := ReadsAs.char (Char.ofNat b.toNat) hnone
        rw [utf8EncodeChar_ofNat hb] at hread
        exact hread
      · rw [hstart]
        exact .illFormed (.inl ⟨b, rfl, hb⟩) hnone
      · rw [hstart]
        exact hsome hp (List.cons_ne_nil b [])
    refine ⟨hfresh, fun {p read} h hread => ?_⟩
    by_cases hb : p.low ≤ b ∧ b ≤ p.high
    · cases hafter : p.after with
      | zero =>
        have hread' := ReadsAs.char (Char.ofNat (p.bits * 64 + (b.toNat - 0x80))) hnone
        rw [h.utf8EncodeChar_last hb hafter, List.append_assoc] at hread'
        rw [decodeFrom, Begun.feed_last hb hafter]
        exact hread'
      | succ n =>
        have hread' := hsome (h.next hb hafter) (by simp)
        rw [List.append_assoc] at hread'
        rw [decodeFrom, Begun.feed_more hb hafter]
        exact hread'
    · have hill : IllFormed read (b :: bs) := h.illFormed hread fun b' hb' => by
        cases hb'
        exact hb
      rw [decodeFrom, Begun.feed_other hb]
      exact .illFormed hill hfresh

theorem readsAs_decodeLossy (bs : List UInt8) : ReadsAs bs (decodeLossy bs) := (readsAs_decodeFrom bs).1

/-- Without a replacement character, the bytes are those of the characters. -/
theorem ReadsAs.encode_eq (h : ReadsAs bs cs) (hcs : replacement ∉ cs) : encode cs = bs := by
  induction h with
  | nil => rfl
  | char c _ ih =>
    have hrest := ih fun hmem => hcs (List.mem_cons_of_mem c hmem)
    rw [encode_cons, hrest]
  | illFormed _ _ _ => exact absurd List.mem_cons_self hcs

/-- A character is read as it is, whatever follows. -/
theorem decodeLossy_utf8EncodeChar_append (c : Char) (bs : List UInt8) :
    decodeLossy (utf8EncodeChar c ++ bs) = c :: decodeLossy bs := by
  cases hbytes : utf8EncodeChar c with
  | nil => exact absurd hbytes String.utf8EncodeChar_ne_nil
  | cons b rest =>
    have hfirst : [b] <+: utf8EncodeChar c := hbytes ▸ ⟨rest, rfl⟩
    rw [decodeLossy, List.cons_append, decodeFrom, feed]
    rcases start_cases b with ⟨hstart, hb⟩ | ⟨-, hb⟩ | ⟨p, hstart, hp⟩
    · obtain rfl := eq_ofNat_of_mem hb (hbytes ▸ List.mem_cons_self : b ∈ utf8EncodeChar c)
      rw [utf8EncodeChar_ofNat hb] at hbytes
      rw [hstart, ← (List.cons.inj hbytes).2]
      rfl
    · exact absurd ⟨c, hfirst⟩ hb
    · have hadmits := hp.admits c hfirst
      have hrest : b :: rest = b :: continuation (p.after + 1) c.toNat := hbytes.symm.trans (hp.bytes_eq c hadmits)
      rw [hstart, (List.cons.inj hrest).2]
      exact hp.decodeFrom_continuation bs hadmits

theorem decodeLossy_encode (cs : List Char) : decodeLossy (encode cs) = cs := by
  induction cs with
  | nil => rfl
  | cons c cs ih =>
    rw [encode_cons, decodeLossy_utf8EncodeChar_append, ih]

end Reading

/-! ## Well-formed bytes -/

section WellFormed

variable {as bs : List UInt8}

theorem wellFormed_iff : WellFormed bs ↔ encode (decodeLossy bs) = bs := by
  constructor
  · rintro ⟨cs, rfl⟩
    rw [decodeLossy_encode]
  · intro h
    exact ⟨decodeLossy bs, h.symm⟩

instance (bs : List UInt8) : Decidable (WellFormed bs) := decidable_of_iff _ wellFormed_iff.symm

/-- What is ill-formed shows in the reading. -/
theorem replacement_mem_decodeLossy (h : ¬ WellFormed bs) : replacement ∈ decodeLossy bs := by
  apply Decidable.byContradiction
  intro hmem
  apply h
  rw [wellFormed_iff]
  exact (readsAs_decodeLossy bs).encode_eq hmem

theorem WellFormed.append (has : WellFormed as) (hbs : WellFormed bs) : WellFormed (as ++ bs) := by
  obtain ⟨cs, rfl⟩ := has
  obtain ⟨ds, rfl⟩ := hbs
  exact ⟨cs ++ ds, (encode_append cs ds).symm⟩

theorem wellFormed_utf8EncodeChar (c : Char) : WellFormed (utf8EncodeChar c) := ⟨[c], (List.append_nil _).symm⟩

/-- Well-formed bytes may be cut around a byte below 128: no character goes across it. -/
theorem wellFormed_of_append_cons {b : UInt8} (hb : b.toNat < 0x80) : ∀ {as : List UInt8} (cs : List Char),
    encode cs = as ++ b :: bs → WellFormed as ∧ WellFormed bs
  | as, [], h => by
    have hlength := congrArg List.length h
    simp [encode] at hlength
  | as, c :: cs, h => by
    rw [encode_cons] at h
    rcases List.append_eq_append_iff.1 h with ⟨rest, rfl, hrest⟩ | ⟨rest, hc, hrest⟩
    · -- the first character ends before the byte
      obtain ⟨has, hbs⟩ := wellFormed_of_append_cons hb cs hrest
      exact ⟨(wellFormed_utf8EncodeChar c).append has, hbs⟩
    · cases rest with
      | nil =>
        have hfirst : encode cs = [] ++ b :: bs := hrest.symm
        obtain ⟨-, hbs⟩ := wellFormed_of_append_cons hb cs hfirst
        rw [List.append_nil] at hc
        exact ⟨hc ▸ wellFormed_utf8EncodeChar c, hbs⟩
      | cons b' rest =>
        -- the byte is one of the first character, hence all of it
        obtain ⟨rfl, hbs⟩ := List.cons.inj hrest
        obtain rfl := eq_ofNat_of_mem hb (hc ▸ List.mem_append_right as List.mem_cons_self : b ∈ utf8EncodeChar c)
        rw [utf8EncodeChar_ofNat hb] at hc
        cases as with
        | nil =>
          obtain rfl : [] = rest := (List.cons.inj hc).2
          exact ⟨⟨[], rfl⟩, cs, hbs⟩
        | cons a as =>
          have hlength := congrArg List.length hc
          simp at hlength

theorem wellFormed_append_cons_iff {b : UInt8} (hb : b.toNat < 0x80) :
    WellFormed (as ++ b :: bs) ↔ WellFormed as ∧ WellFormed bs := by
  constructor
  · rintro ⟨cs, hcs⟩
    exact wellFormed_of_append_cons hb cs hcs.symm
  · rintro ⟨has, hbs⟩
    have hbyte : WellFormed ([b] ++ bs) := (utf8EncodeChar_ofNat hb ▸ wellFormed_utf8EncodeChar _ : WellFormed [b]).append hbs
    exact has.append hbyte

end WellFormed

end SharedSeq.Text
