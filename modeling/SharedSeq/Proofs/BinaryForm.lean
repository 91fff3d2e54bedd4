import SharedSeq.Proofs.Readers

/-!
# Reading undoes writing

A snapshot `Fits` if its strings and lists are shorter than the largest count. Such a snapshot is read back from its
binary form, whatever follows (`readSnapshot_encode`). All that is read fits, and it was written just so
(`faithful_readSnapshot`). Hence a snapshot is read from exactly those bytes that begin with its binary form
(`readSnapshot_eq_ok_iff`), and no binary form begins with another (`eq_of_encode_isPrefix`).
-/

namespace SharedSeq.Snapshot

open Bytes

/-! ## Counts that fit -/

mutual

/-- Every string and list in the snapshot has fewer items than eight bytes can count. -/
def Fits : Snapshot → Prop
  | int _ | bool _ => True
  | string bytes => bytes.length < 2 ^ 64
  | list items => items.length < 2 ^ 64 ∧ FitsAll items

/-- The same for several snapshots. -/
def FitsAll : List Snapshot → Prop
  | [] => True
  | t :: ts => t.Fits ∧ FitsAll ts

end

mutual

/-- Whether the counts of a snapshot fit. -/
def decidableFits : (t : Snapshot) → Decidable t.Fits
  | int _ | bool _ => .isTrue trivial
  | string bytes => inferInstanceAs (Decidable (bytes.length < 2 ^ 64))
  | list items =>
    let _ := decidableFitsAll items
    inferInstanceAs (Decidable (items.length < 2 ^ 64 ∧ FitsAll items))

/-- Whether the counts of several snapshots fit. -/
def decidableFitsAll : (ts : List Snapshot) → Decidable (FitsAll ts)
  | [] => .isTrue trivial
  | t :: ts =>
    let _ := decidableFits t
    let _ := decidableFitsAll ts
    inferInstanceAs (Decidable (t.Fits ∧ FitsAll ts))

end

instance : DecidablePred Fits := decidableFits

/-! ## What is written is read -/

section Writing

variable {inner : Reader Snapshot} {tag : Nat}

theorem readNode_tag (h : tag < 256 ^ 4) (bs : List UInt8) :
    readNode inner (toLittleEndian 4 tag ++ bs) = readBody inner tag bs :=
  andThen_of_ok (readWord_toLittleEndian h bs)

theorem length_encode_pos (t : Snapshot) : 0 < t.encode.length := by
  cases t <;>
    simp only [encode_int, encode_bool, encode_string, encode_list, List.length_append, length_toLittleEndian] <;> omega

/-- The signed number behind a word of four bytes. -/
theorem toInt32_ofNat_toNat (n : Int32) : (UInt32.ofNat n.toUInt32.toNat).toInt32 = n := by
  simp

theorem toNat_toUInt32_toInt32 {n : Nat} (h : n < 256 ^ 4) : (UInt32.ofNat n).toInt32.toUInt32.toNat = n := by
  rw [UInt32.toUInt32_toInt32, UInt32.toNat_ofNat']
  exact Nat.mod_eq_of_lt h

mutual

/-- A snapshot is read back from its binary form. The bytes of the form are enough for the depth. -/
theorem readSnapshot_encode (rest : List UInt8) : ∀ (t : Snapshot) (depth : Nat), t.Fits →
    t.encode.length ≤ depth → readSnapshot depth (t.encode ++ rest) = .ok (t, rest)
  | t, 0, _, hd => absurd (length_encode_pos t) (by omega)
  | int n, depth + 1, _, _ => by
    have hn : n.toUInt32.toNat < 256 ^ 4 := n.toUInt32.toNat_lt
    rw [encode_int, List.append_assoc, readSnapshot, readNode_tag (by decide), readBody,
      andThen_of_ok (readWord_toLittleEndian hn rest), toInt32_ofNat_toNat]
    rfl
  | bool b, depth + 1, _, _ => by
    have hb : b.toNat < 256 ^ 1 := by cases b <;> decide
    rw [encode_bool, List.append_assoc, readSnapshot, readNode_tag (by decide), readBody,
      andThen_of_ok (readWord_toLittleEndian hb rest)]
    cases b <;> rfl
  | string bytes, depth + 1, hfit, _ => by
    rw [encode_string, List.append_assoc, List.append_assoc, readSnapshot, readNode_tag (by decide), readBody,
      andThen_of_ok (readWord_toLittleEndian hfit _), andThen_of_ok (readBytes_append bytes rest)]
    rfl
  | list items, depth + 1, hfit, hd => by
    have hlen : (encodeAll items).length ≤ depth := by
      simp only [encode_list, List.length_append, length_toLittleEndian] at hd
      omega
    rw [encode_list, List.append_assoc, List.append_assoc, readSnapshot, readNode_tag (by decide), readBody,
      andThen_of_ok (readWord_toLittleEndian hfit.1 _),
      andThen_of_ok (readMany_encodeAll rest items depth hfit.2 hlen)]
    rfl

/-- Several snapshots are read back from their binary forms. -/
theorem readMany_encodeAll (rest : List UInt8) : ∀ (ts : List Snapshot) (depth : Nat), FitsAll ts →
    (encodeAll ts).length ≤ depth → readMany (readSnapshot depth) ts.length (encodeAll ts ++ rest) = .ok (ts, rest)
  | [], _, _, _ => rfl
  | t :: ts, depth, hfit, hd => by
    rw [encodeAll_cons, List.length_append] at hd
    rw [encodeAll_cons, List.append_assoc, List.length_cons, readMany,
      andThen_of_ok (readSnapshot_encode _ t depth hfit.1 (by omega)),
      andThen_of_ok (readMany_encodeAll rest ts depth hfit.2 (by omega))]
    rfl

end

end Writing

/-! ## What is read was written -/

section Reading

variable {inner : Reader Snapshot}

/-- The reader gives back only snapshots that fit, from their binary forms. -/
def Faithful (r : Reader Snapshot) : Prop :=
  ∀ bs rest t, r bs = .ok (t, rest) → t.Fits ∧ bs = t.encode ++ rest

theorem Faithful.readMany (hr : Faithful inner) : ∀ {n : Nat} {bs rest : List UInt8} {ts : List Snapshot},
    readMany inner n bs = .ok (ts, rest) → ts.length = n ∧ FitsAll ts ∧ bs = encodeAll ts ++ rest
  | 0, _, _, _, h => by cases h; exact ⟨rfl, trivial, rfl⟩
  | n + 1, _, _, _, h => by
    obtain ⟨t, mid, ht, h⟩ := andThen_eq_ok h
    obtain ⟨ts, mid', hts, h⟩ := andThen_eq_ok h
    cases h
    obtain ⟨hfit, rfl⟩ := hr _ _ _ ht
    obtain ⟨hlen, hfits, rfl⟩ := hr.readMany hts
    exact ⟨by rw [List.length_cons, hlen], ⟨hfit, hfits⟩, by rw [encodeAll_cons, List.append_assoc]⟩

/-- What stands behind a tag, by the tag. -/
theorem Faithful.readBody (hr : Faithful inner) : ∀ {tag : Nat} {bs rest : List UInt8} {t : Snapshot},
    readBody inner tag bs = .ok (t, rest) → t.Fits ∧ toLittleEndian 4 tag ++ bs = t.encode ++ rest
  | 0, _, _, _, h => by
    obtain ⟨n, mid, hword, h⟩ := andThen_eq_ok h
    cases h
    obtain ⟨hn, rfl⟩ := readWord_eq_ok_iff.1 hword
    exact ⟨trivial, by rw [encode_int, toNat_toUInt32_toInt32 hn, List.append_assoc]⟩
  | 1, _, _, _, h => by
    obtain ⟨n, mid, hword, h⟩ := andThen_eq_ok h
    obtain ⟨hn, rfl⟩ := readWord_eq_ok_iff.1 hword
    match n, h with
    | 0, h | 1, h =>
      cases h
      exact ⟨trivial, by rw [encode_bool, List.append_assoc]; rfl⟩
  | 2, _, _, _, h => by
    obtain ⟨n, mid, hword, h⟩ := andThen_eq_ok h
    obtain ⟨bytes, mid', hbytes, h⟩ := andThen_eq_ok h
    cases h
    obtain ⟨hn, rfl⟩ := readWord_eq_ok_iff.1 hword
    obtain ⟨rfl, rfl⟩ := readBytes_eq_ok_iff.1 hbytes
    exact ⟨hn, by rw [encode_string, List.append_assoc, List.append_assoc]⟩
  | 3, _, _, _, h => by
    obtain ⟨n, mid, hword, h⟩ := andThen_eq_ok h
    obtain ⟨ts, mid', hts, h⟩ := andThen_eq_ok h
    cases h
    obtain ⟨hn, rfl⟩ := readWord_eq_ok_iff.1 hword
    obtain ⟨rfl, hfits, rfl⟩ := hr.readMany hts
    exact ⟨⟨hn, hfits⟩, by rw [encode_list, List.append_assoc, List.append_assoc]⟩

theorem Faithful.readNode (hr : Faithful inner) : Faithful (readNode inner) := by
  intro bs rest t h
  obtain ⟨tag, mid, htag, hbody⟩ := andThen_eq_ok h
  obtain ⟨-, rfl⟩ := readWord_eq_ok_iff.1 htag
  exact hr.readBody hbody

theorem faithful_readSnapshot : ∀ depth : Nat, Faithful (readSnapshot depth)
  | 0 => fun _ _ _ h => by cases h
  | depth + 1 => (faithful_readSnapshot depth).readNode

end Reading

/-! ## The bytes that hold a snapshot -/

section Bytes

variable {bs rest : List UInt8} {t u : Snapshot}

/-- A snapshot is read exactly from its binary form, and what is left over is what stands behind it. -/
theorem readSnapshot_eq_ok_iff :
    readSnapshot (bs.length + 1) bs = .ok (t, rest) ↔ t.Fits ∧ bs = t.encode ++ rest := by
  refine ⟨faithful_readSnapshot _ _ _ _, ?_⟩
  rintro ⟨hfit, rfl⟩
  exact readSnapshot_encode rest t _ hfit (by rw [List.length_append]; omega)

theorem decode_eq_ok_iff : decode bs = .ok t ↔ ∃ rest, readSnapshot (bs.length + 1) bs = .ok (t, rest) := by
  unfold decode
  cases readSnapshot (bs.length + 1) bs with
  | error fault => exact ⟨fun h => (by cases h), fun ⟨_, h⟩ => (by cases h)⟩
  | ok part =>
    obtain ⟨t', rest'⟩ := part
    exact ⟨fun h => ⟨rest', by cases h; rfl⟩, fun ⟨_, h⟩ => by cases h; rfl⟩

theorem decode_eq_ok_iff_isPrefix : decode bs = .ok t ↔ t.Fits ∧ t.encode <+: bs := by
  rw [decode_eq_ok_iff]
  constructor
  · rintro ⟨rest, h⟩
    obtain ⟨hfit, hbs⟩ := readSnapshot_eq_ok_iff.1 h
    exact ⟨hfit, rest, hbs.symm⟩
  · rintro ⟨hfit, rest, hbs⟩
    exact ⟨rest, readSnapshot_eq_ok_iff.2 ⟨hfit, hbs.symm⟩⟩

/-- No binary form begins with that of another snapshot: from the longer one both would be read. -/
theorem eq_of_encode_isPrefix (ht : t.Fits) (hu : u.Fits) (h : t.encode <+: u.encode) : t = u := by
  have hread := decode_eq_ok_iff_isPrefix.2 ⟨ht, h⟩
  rw [decode_eq_ok_iff_isPrefix.2 ⟨hu, List.prefix_refl _⟩] at hread
  exact (Except.ok.inj hread).symm

end Bytes

/-- **Reading and writing.** A snapshot is read exactly from the bytes that begin with its binary form. So it is read back
whatever follows, all that is read was written just so in the bytes that were used up, and no binary form begins with that
of another snapshot. -/
theorem decode_iff_begins_with_encode (t : Snapshot) (bs : List UInt8) :
    (decode bs = .ok t ↔ t.Fits ∧ t.encode <+: bs) ∧
    (t.Fits → ∀ rest, decode (t.encode ++ rest) = .ok t) ∧
    (decode bs = .ok t → ∃ rest, readSnapshot (bs.length + 1) bs = .ok (t, rest) ∧ bs = t.encode ++ rest) ∧
    ∀ u, t.Fits → u.Fits → t.encode <+: u.encode → t = u := by
  refine ⟨decode_eq_ok_iff_isPrefix, fun hfit rest => ?_, fun h => ?_, fun u => eq_of_encode_isPrefix⟩
  · exact decode_eq_ok_iff_isPrefix.2 ⟨hfit, List.prefix_append t.encode rest⟩
  · obtain ⟨rest, hread⟩ := decode_eq_ok_iff.1 h
    exact ⟨rest, hread, (readSnapshot_eq_ok_iff.1 hread).2⟩

/-- A nested list with a negative number, a byte that is no text and an empty list, and bytes after it. -/
theorem decode_nested_list_before_junk :
    decode ((list [int (-1), string [255], list []]).encode ++ [7, 0]) = .ok (list [int (-1), string [255], list []]) :=
  (decode_iff_begins_with_encode (list [int (-1), string [255], list []]) []).2.1 (by decide) [7, 0]

end SharedSeq.Snapshot
