import SharedSeq.Proofs.SliceWindows

/-!
# Reading one element

There are several ways to read an element of a list at a position: as it is, through the engine of sequences, as the only
one of a slice, and as one of a given kind. All of them agree on where the position points and on what is wrong with it.

* `indexAt` is the index that a position counts to, over the integers, also outside of the container. It is computed without
  wrapping around (`toInt_index`), and decides alone whether there is an element (`locate_eq_ok`, `locate_eq_error`).
* `Spine.ReadsAt` and `Spine.MissesAt` say of all ways at once that they read an element, or fail with one fault. An element
  of the wrong kind is told with the position as it was given, a missing one with its index.
-/

namespace SharedSeq

/-- The index that a position counts to, also outside of the container: from the end if the position is negative. -/
def indexAt (length : Nat) (pos : Int64) : Int := if pos.toInt < 0 then length + pos.toInt else pos.toInt

/-! ## Positions -/

section Positions

variable {container : Container} {length : Nat} {pos i : Int64}

/-- The index is computed as if over the integers. -/
theorem toInt_index (hlen : length < 2 ^ 63) (pos : Int64) :
    (if pos < 0 then Int64.ofNat length + pos else pos).toInt = indexAt length pos := by
  have hneg : pos < 0 ↔ pos.toInt < 0 := Int64.lt_iff_toInt_lt
  unfold indexAt
  by_cases hpos : pos < 0
  · rw [if_pos hpos, if_pos (hneg.1 hpos), Walk.toInt_length_add hlen hpos]
  · rw [if_neg hpos, if_neg (mt hneg.2 hpos)]

theorem exists_word_index (hlen : length < 2 ^ 63) (pos : Int64) : ∃ i : Int64, i.toInt = indexAt length pos :=
  ⟨_, toInt_index hlen pos⟩

theorem locate_eq_ok (hlen : length < 2 ^ 63) (hi : i.toInt = indexAt length pos) (hlow : 0 ≤ i.toInt)
    (hhigh : i.toInt < length) : locate container length pos = .ok i.toInt.toNat := by
  rw [locate_eq_ok_iff hlen]
  unfold indexAt at hi
  unfold CountsTo
  split at hi
  · omega
  · omega

theorem locate_eq_error (hlen : length < 2 ^ 63) (hi : i.toInt = indexAt length pos)
    (h : ¬ (0 ≤ i.toInt ∧ i.toInt < length)) : locate container length pos = .error (.indexOutOfRange container i length) := by
  have hlength : (Int64.ofNat length).toInt = length := Int64.toInt_ofNat_of_lt hlen
  have hzero : (0 : Int64).toInt = 0 := rfl
  have hword : (if pos < 0 then Int64.ofNat length + pos else pos) = i :=
    Int64.toInt_inj.1 ((toInt_index hlen pos).trans hi.symm)
  unfold locate
  dsimp only
  rw [hword, if_pos]
  rw [Int64.lt_iff_toInt_lt, Int64.le_iff_toInt_le, hlength, hzero]
  omega

/-- To count from the end instead stays within 64 bits. -/
theorem toInt_sub_length (hlen : length < 2 ^ 63) (hi : 0 ≤ i.toInt) : (i - Int64.ofNat length).toInt = i.toInt - length := by
  have hlength : (Int64.ofNat length).toInt = length := Int64.toInt_ofNat_of_lt hlen
  have hlt := Int64.toInt_lt i
  rw [Int64.toInt_sub, hlength, Int.bmod_eq_of_le] <;> omega

/-- Counted from the end, an element has the same index. -/
theorem locate_sub_length (hlen : length < 2 ^ 63) (hlow : 0 ≤ i.toInt) (hhigh : i.toInt < length) :
    locate container length (i - Int64.ofNat length) = locate container length i := by
  have hsub := toInt_sub_length hlen hlow
  have hfront : i.toInt = indexAt length i := by
    rw [indexAt, if_neg (by omega)]
  have hback : i.toInt = indexAt length (i - Int64.ofNat length) := by
    rw [indexAt, hsub, if_pos (by omega)]
    omega
  rw [locate_eq_ok hlen hfront hlow hhigh, locate_eq_ok hlen hback hlow hhigh]

end Positions

/-! ## Sequences -/

namespace Sequence

variable {σ α : Type} [Sequence σ α] {x : σ} {pos i : Int64} {a : α}

section Items

theorem item_eq_error (hlen : length x < 2 ^ 63) (hi : i.toInt = indexAt (length x) pos)
    (h : ¬ (0 ≤ i.toInt ∧ i.toInt < length x)) : item x pos = .error (.indexOutOfRange (container σ) i (length x)) := by
  unfold item
  rw [locate_eq_error hlen hi h]

/-- Counted from the end, an item is the same one. -/
theorem item_sub_length (hlen : length x < 2 ^ 63) (hlow : 0 ≤ i.toInt) (hhigh : i.toInt < length x) :
    item x (i - Int64.ofNat (length x)) = item x i := by
  unfold item
  rw [locate_sub_length hlen hlow hhigh]

variable [Lawful σ]

/-- The item is read that stands at the index. -/
theorem exists_item (hx : Whole x) (hlen : length x < 2 ^ 63) (hi : i.toInt = indexAt (length x) pos) (hlow : 0 ≤ i.toInt)
    (hhigh : i.toInt < length x) : ∃ a, (items x)[i.toInt.toNat]? = some a ∧ item x pos = .ok a := by
  have hlt : i.toInt.toNat < (items x).length := by
    rw [hx.length_eq] at hhigh
    omega
  obtain ⟨a, ha⟩ : ∃ a, (items x)[i.toInt.toNat]? = some a := ⟨_, List.getElem?_eq_getElem hlt⟩
  have hat : itemAt? x i.toInt.toNat = some a := (itemAt?_eq x _).trans ha
  refine ⟨a, ha, ?_⟩
  unfold item
  rw [locate_eq_ok hlen hi hlow hhigh]
  dsimp only
  rw [hat]

/-- The slice from an index to the next one has the one item there. -/
theorem slice_one (hx : Whole x) (hlen : length x < 2 ^ 63) (hlow : 0 ≤ i.toInt) (ha : (items x)[i.toInt.toNat]? = some a) :
    slice x ⟨i, i + 1, 1⟩ = .ok (ofItems [a]) := by
  have hlt : i.toInt.toNat < (items x).length := (List.getElem?_eq_some_iff.1 ha).1
  have hstep : (⟨i, i + 1, 1⟩ : Range).step ≠ 0 := (by decide : (1 : Int64) ≠ 0)
  rw [slice_eq hx hlen hstep, Range.select_one]
  rw [hx.length_eq] at hlen
  have hone : (1 : Int64).toInt = 1 := rfl
  have hnext : (i + 1).toInt = i.toInt + 1 := by
    rw [Int64.toInt_add, hone, Int.bmod_eq_of_le] <;> omega
  have hlow' : (⟨i, i + 1, 1⟩ : Range).low = i.toInt := Int.max_eq_left hlow
  have hhigh : (⟨i, i + 1, 1⟩ : Range).high (items x).length = i.toInt + 1 := by
    rw [Range.high, hnext, if_pos (by omega)]
    omega
  refine congrArg (fun as => Except.ok (ofItems as)) (List.ext_getElem? fun k => ?_)
  rw [Range.getElem?_window, hlow', hhigh]
  cases k with
  | zero =>
    rw [if_pos (by omega), Int.natCast_zero, Int.add_zero, ha]
    rfl
  | succ k =>
    rw [if_neg (by omega)]
    rfl

end Items

end Sequence

/-! ## Lists -/

namespace Spine

variable {s : Spine Value} {pos i : Int64} {v : Value} {fault : Fault}

/-- The element at a position, which has to be of the given kind. -/
def getKind (kind : Kind) (s : Spine Value) (pos : Int64) : Except Fault Value :=
  match kind with
  | .int => .int <$> s.getInt pos
  | .bool => .bool <$> s.getBool pos
  | .list => .list <$> s.getList pos
  | .string => .string <$> s.getString pos

/-- All ways read the element. Only as one of its own kind is it read; any other kind is told with the position as it was
given. -/
structure ReadsAt (s : Spine Value) (pos : Int64) (v : Value) : Prop where
  get : s.get pos = .ok v
  item : Sequence.item s pos = .ok v
  kind : ∀ kind, s.getKind kind pos = if kind = v.kind then .ok v else .error (.typeMismatch pos kind v.kind)

/-- All ways fail with the fault. -/
structure MissesAt (s : Spine Value) (pos : Int64) (fault : Fault) : Prop where
  get : s.get pos = .error fault
  item : Sequence.item s pos = .error fault
  kind : ∀ kind, s.getKind kind pos = .error fault

section Reading

/-- A payload that is found exactly in the values of one kind, and is all of them, is read as such an element. -/
theorem map_getAs {β : Type} {expected : Kind} {payload : Value → Option β} {wrap : β → Value} (h : s.get pos = .ok v)
    (hpayload : (payload v).map wrap = if expected = v.kind then some v else none) :
    wrap <$> s.getAs expected payload pos =
      if expected = v.kind then .ok v else .error (.typeMismatch pos expected v.kind) := by
  unfold getAs
  rw [h]
  dsimp only
  cases hv : payload v with
  | none =>
    rw [hv] at hpayload
    split at hpayload
    · cases hpayload
    · rw [if_neg ‹_›]
      rfl
  | some b =>
    rw [hv] at hpayload
    split at hpayload
    · rw [if_pos ‹_›, ← Option.some.inj hpayload]
      rfl
    · cases hpayload

theorem getKind_of_get (h : s.get pos = .ok v) (kind : Kind) :
    s.getKind kind pos = if kind = v.kind then .ok v else .error (.typeMismatch pos kind v.kind) := by
  cases kind with
  | int => exact map_getAs h (by cases v <;> rfl)
  | bool => exact map_getAs h (by cases v <;> rfl)
  | list => exact map_getAs h (by cases v <;> rfl)
  | string => exact map_getAs h (by cases v <;> rfl)

theorem getAs_of_get_error {β : Type} {expected : Kind} {payload : Value → Option β} (h : s.get pos = .error fault) :
    s.getAs expected payload pos = .error fault := by
  unfold getAs
  rw [h]

theorem getKind_of_get_error (h : s.get pos = .error fault) (kind : Kind) : s.getKind kind pos = .error fault := by
  cases kind with
  | int => exact congrArg (Functor.map Value.int) (getAs_of_get_error h)
  | bool => exact congrArg (Functor.map Value.bool) (getAs_of_get_error h)
  | list => exact congrArg (Functor.map Value.list) (getAs_of_get_error h)
  | string => exact congrArg (Functor.map Value.string) (getAs_of_get_error h)

theorem Sound.exists_readsAt (hs : s.Sound) (hlen : s.length < 2 ^ 63) (hi : i.toInt = indexAt s.length pos)
    (hlow : 0 ≤ i.toInt) (hhigh : i.toInt < s.length) : ∃ v, s.toList[i.toInt.toNat]? = some v ∧ s.ReadsAt pos v := by
  obtain ⟨v, hv, -, -, hget, hitem⟩ := hs.reads_of_locate (locate_eq_ok hlen hi hlow hhigh)
  exact ⟨v, hv, hget, hitem, getKind_of_get hget⟩

theorem missesAt (hlen : s.length < 2 ^ 63) (hi : i.toInt = indexAt s.length pos)
    (h : ¬ (0 ≤ i.toInt ∧ i.toInt < s.length)) : s.MissesAt pos (.indexOutOfRange .list i s.length) := by
  have hget : s.get pos = .error (.indexOutOfRange .list i s.length) := by
    unfold get
    rw [locate_eq_error hlen hi h]
  exact ⟨hget, Sequence.item_eq_error hlen hi h, getKind_of_get_error hget⟩

theorem foldl_push : ∀ (vs : List Value) (s : Spine Value), vs.foldl push s = s.append vs
  | [], s => by simp [append]
  | v :: vs, s => by
    rw [List.foldl_cons, foldl_push vs]
    simp [push, append, Nat.add_comm, Nat.add_left_comm]

/-- A list is the one to which its elements are pushed one by one. -/
theorem Sound.eq_foldl_push (hs : s.Sound) : s = s.toList.foldl Spine.push empty := by
  rw [foldl_push]
  exact hs.eq_ofList

theorem get_sub_length (hlen : s.length < 2 ^ 63) (hlow : 0 ≤ i.toInt) (hhigh : i.toInt < s.length) :
    s.get (i - Int64.ofNat s.length) = s.get i := by
  unfold get
  rw [locate_sub_length hlen hlow hhigh]

end Reading

end Spine

theorem Script.State.element_eq_getKind (st : Script.State) (kind : Kind) (id : ListId) (pos : Int64) :
    st.element kind id pos = (st.store.list id).getKind kind pos := by
  cases kind <;> rfl

/-! ## Strings -/

namespace Buffer

variable {b : Buffer} {pos i : Int64} {byte : UInt8} {fault : Fault}

/-- Both ways read the byte, and in a store the string of this one byte is a new one. -/
structure ReadsAt (b : Buffer) (pos : Int64) (byte : UInt8) : Prop where
  item : Sequence.item b pos = .ok byte
  charAt : b.charAt pos = .ok (.ofBytes [byte])
  made : ∀ (s : Store) (id : StringId), s.string id = b →
    ∃ made, s.charAt id pos = .ok made ∧ ¬ s.Has (.string made.1) ∧ made.2.string made.1 = .ofBytes [byte]

/-- Both ways fail with the fault. -/
structure MissesAt (b : Buffer) (pos : Int64) (fault : Fault) : Prop where
  item : Sequence.item b pos = .error fault
  charAt : b.charAt pos = .error fault
  made : ∀ (s : Store) (id : StringId), s.string id = b → s.charAt id pos = .error fault

section Reading

theorem readsAt_of_item (h : Sequence.item b pos = .ok byte) : b.ReadsAt pos byte := by
  have hchar : b.charAt pos = .ok (.ofBytes [byte]) := by
    unfold charAt
    rw [h]
  refine ⟨h, hchar, fun s id hid => ⟨s.newString (.ofBytes [byte]), ?_, Nat.lt_irrefl _, Store.string_newString_self s _⟩⟩
  unfold Store.charAt
  rw [hid, hchar]

theorem missesAt_of_item (h : Sequence.item b pos = .error fault) : b.MissesAt pos fault := by
  have hchar : b.charAt pos = .error fault := by
    unfold charAt
    rw [h]
  refine ⟨h, hchar, fun s id hid => ?_⟩
  unfold Store.charAt
  rw [hid, hchar]

theorem charAt_sub_length (hlen : b.length < 2 ^ 63) (hlow : 0 ≤ i.toInt) (hhigh : i.toInt < b.length) :
    b.charAt (i - Int64.ofNat b.length) = b.charAt i := by
  have hitem : Sequence.item b (i - Int64.ofNat b.length) = Sequence.item b i := Sequence.item_sub_length hlen hlow hhigh
  unfold charAt
  rw [hitem]

end Reading

end Buffer

/-! ## All ways agree -/

theorem Store.made_of_leads {s : Store} (h : Store.empty.Leads s) (id : ListId) : (s.list id).Made :=
  Spine.made_iff_sound.2 (h.sound Store.sound_empty id)

namespace Sequence

open Spine in
/-- **Access.** Let a position count to the index `i`, which is always a 64-bit integer. If there is an element at `i`, then
it is the one that was pushed there: reading it as it is and through the engine of sequences gives it, the slice from `i` to
`i + 1` is the list of it alone, and of the four ways to read it as one of a kind only that of its own kind gives it, the
others fail with the position as it was given and both kinds. If there is none, all ways fail with the index, the length and
the container, whatever the kind. The same holds of strings, where the string of one byte is a new one. So an element is read
alike from the front and from the end. -/
theorem elements_read_alike :
    (∀ s : Store, Store.empty.Leads s → ∀ id, (s.list id).Made) ∧
    (∀ (st : Script.State) (kind : Kind) (id : ListId) (pos : Int64),
      st.element kind id pos = (st.store.list id).getKind kind pos) ∧
    (∀ s : Spine Value, s.Made → s.length < 2 ^ 63 →
      s = s.toList.foldl push .empty ∧
      (∀ pos, ∃ i : Int64, i.toInt = indexAt s.length pos ∧
        if 0 ≤ i.toInt ∧ i.toInt < s.length then
          ∃ v, s.toList[i.toInt.toNat]? = some v ∧ s.ReadsAt pos v ∧ slice s ⟨i, i + 1, 1⟩ = .ok (.ofList [v])
        else s.MissesAt pos (.indexOutOfRange .list i s.length)) ∧
      ∀ i : Int64, 0 ≤ i.toInt → i.toInt < s.length → s.get (i - Int64.ofNat s.length) = s.get i) ∧
    ∀ b : Buffer, b.length < 2 ^ 63 →
      (∀ pos, ∃ i : Int64, i.toInt = indexAt b.length pos ∧
        if 0 ≤ i.toInt ∧ i.toInt < b.length then
          ∃ byte, b.bytes[i.toInt.toNat]? = some byte ∧ b.ReadsAt pos byte ∧ slice b ⟨i, i + 1, 1⟩ = .ok (.ofBytes [byte])
        else b.MissesAt pos (.indexOutOfRange .string i b.length)) ∧
      ∀ i : Int64, 0 ≤ i.toInt → i.toInt < b.length →
        item b (i - Int64.ofNat b.length) = item b i ∧ b.charAt (i - Int64.ofNat b.length) = b.charAt i := by
  refine ⟨fun s => Store.made_of_leads, Script.State.element_eq_getKind, fun s hmade hlen => ?_, fun b hlen => ?_⟩
  · have hs := hmade.sound
    refine ⟨hs.eq_foldl_push, fun pos => ?_, fun i => get_sub_length hlen⟩
    obtain ⟨i, hi⟩ := exists_word_index hlen pos
    refine ⟨i, hi, ?_⟩
    split
    · rename_i hinside
      obtain ⟨v, hv, hreads⟩ := hs.exists_readsAt hlen hi hinside.1 hinside.2
      exact ⟨v, hv, hreads, slice_one hs.whole hlen hinside.1 hv⟩
    · rename_i houtside
      exact missesAt hlen hi houtside
  · refine ⟨fun pos => ?_, fun i hlow hhigh => ⟨item_sub_length hlen hlow hhigh, Buffer.charAt_sub_length hlen hlow hhigh⟩⟩
    obtain ⟨i, hi⟩ := exists_word_index hlen pos
    refine ⟨i, hi, ?_⟩
    split
    · rename_i hinside
      obtain ⟨byte, hbyte, hitem⟩ := exists_item b.whole hlen hi hinside.1 hinside.2
      exact ⟨byte, hbyte, Buffer.readsAt_of_item hitem, slice_one b.whole hlen hinside.1 hbyte⟩
    · rename_i houtside
      exact Buffer.missesAt_of_item (item_eq_error hlen hi houtside)

/-- A number and then a list, which may be the one that holds it. -/
def numberAndList : Spine Value := (Spine.empty.push (.int 7)).push (.list ⟨0⟩)

/-- Of the two elements the last is read as a list only, and one before the first is missing under every kind. The last byte
of a string of two is read from the end. -/
theorem numberAndList_read :
    numberAndList.Made ∧ numberAndList.length < 2 ^ 63 ∧ numberAndList.ReadsAt (-1) (.list ⟨0⟩) ∧
    numberAndList.MissesAt (-3) (.indexOutOfRange .list (-1) 2) ∧
    (Buffer.ofBytes [104, 105]).length < 2 ^ 63 ∧ (Buffer.ofBytes [104, 105]).ReadsAt (-1) 105 := by
  have hmade : numberAndList.Made := (Spine.Made.empty.push _).push _
  have hlen : numberAndList.length < 2 ^ 63 := by decide
  have hbytes : (Buffer.ofBytes [104, 105]).length < 2 ^ 63 := by decide
  obtain ⟨-, -, hlists, hstrings⟩ := elements_read_alike
  obtain ⟨-, hlist, -⟩ := hlists numberAndList hmade hlen
  obtain ⟨hstring, -⟩ := hstrings (.ofBytes [104, 105]) hbytes
  refine ⟨hmade, hlen, ?_, ?_, hbytes, ?_⟩
  · obtain ⟨i, hi, hreads⟩ := hlist (-1)
    obtain rfl : i = 1 := Int64.toInt_inj.1 hi
    obtain ⟨v, hv, hread, -⟩ := hreads
    obtain rfl : .list ⟨0⟩ = v := Option.some.inj hv
    exact hread
  · obtain ⟨i, hi, hmisses⟩ := hlist (-3)
    obtain rfl : i = -1 := Int64.toInt_inj.1 hi
    exact hmisses
  · obtain ⟨i, hi, hreads⟩ := hstring (-1)
    obtain rfl : i = 1 := Int64.toInt_inj.1 hi
    obtain ⟨byte, hbyte, hread, -⟩ := hreads
    obtain rfl : 105 = byte := Option.some.inj hbyte
    exact hread

end Sequence

end SharedSeq
