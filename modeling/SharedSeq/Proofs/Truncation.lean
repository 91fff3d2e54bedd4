import SharedSeq.Proofs.BinaryForm

/-!
# Bytes that hold no snapshot

The reader of snapshots goes through the bytes once and stops at the first word that it cannot go on with.

* It is prompt (`prompt_readSnapshot`): an outcome other than an early end is settled by a first part of the bytes, and a
  fault names the last word of that part.
* Bytes that end too early can be completed (`completes_readSnapshot`): an unfinished tag to one that no kind has, all else
  with zeros, up to the tag that is missing next.
* A depth above the number of bytes is no restriction (`readSnapshot_eq_of_le`).
* A fault is reported exactly if the reader comes to a word that calls for it (`readSnapshot_eq_error_iff`), wherever in
  nested lists that is (`Opens`) and whatever follows.
-/

namespace SharedSeq.Snapshot

open Bytes

variable {inner : Reader Snapshot} {bound : Nat}

/-! ## Faults are found at once -/

theorem prompt_readBody (hr : Prompt [] inner) : ∀ {tag : Nat}, tag < 256 ^ 4 →
    Prompt (toLittleEndian 4 tag) (readBody inner tag)
  | 0, _ => (prompt_readWord 4).andThen fun _ _ _ => prompt_done _
  | 1, _ => (prompt_readWord 1).andThen fun q n hset =>
    match n, hset with
    | 0, _ => prompt_done _
    | 1, _ => prompt_done _
    | n + 2, hset => by
      obtain ⟨hn, rfl⟩ := hset.eq_toLittleEndian
      exact prompt_fail ⟨by omega, hn, List.suffix_append _ _⟩
  | 2, _ => (prompt_readWord 8).andThen fun _ n _ => (prompt_readBytes n).andThen fun _ _ _ => prompt_done _
  | 3, _ => (prompt_readWord 8).andThen fun _ n _ =>
    ((hr.readMany n).behind _).andThen fun _ _ _ => prompt_done _
  | _ + 4, h => prompt_fail ⟨by omega, h, List.suffix_refl _⟩

theorem prompt_readNode (hr : Prompt [] inner) : Prompt [] (readNode inner) :=
  (prompt_readWord 4).andThen fun q tag hset => by
    obtain ⟨htag, rfl⟩ := hset.eq_toLittleEndian
    exact prompt_readBody hr htag

theorem prompt_readSnapshot : ∀ depth : Nat, Prompt [] (readSnapshot depth)
  | 0 => fun _ h => absurd rfl h
  | depth + 1 => prompt_readNode (prompt_readSnapshot depth)

/-! ## Early ends can be completed -/

theorem completes_readBody (h : Completes bound inner) (hr : Prompt [] inner) : ∀ tag : Nat,
    Completes bound (readBody inner tag)
  | 0 => (completes_readWord 4).andThen (prompt_readWord 4 : Prompt [] _) fun _ => completes_done _
  | 1 => (completes_readWord 1).andThen (prompt_readWord 1 : Prompt [] _) fun n =>
    match n with
    | 0 => completes_done _
    | 1 => completes_done _
    | _ + 2 => completes_fail (by simp)
  | 2 => (completes_readWord 8).andThen (prompt_readWord 8 : Prompt [] _) fun n =>
    (completes_readBytes n).andThen (prompt_readBytes n : Prompt [] _) fun _ => completes_done _
  | 3 => (completes_readWord 8).andThen (prompt_readWord 8 : Prompt [] _) fun n =>
    (h.readMany hr n).andThen (hr.readMany n) fun _ => completes_done _
  | _ + 4 => completes_fail (by simp)

theorem ofLittleEndian_append (bs cs : List UInt8) :
    ofLittleEndian (bs ++ cs) = ofLittleEndian bs + 256 ^ bs.length * ofLittleEndian cs := by
  induction bs with
  | nil => simp [ofLittleEndian]
  | cons b bs ih =>
    rw [List.cons_append, ofLittleEndian, ih, ofLittleEndian, List.length_cons, Nat.pow_succ]
    grind

/-- A tag of fewer than four bytes is the beginning of one that no kind has. -/
theorem exists_unknownTag {bs : List UInt8} (h : bs.length < 4) :
    ∃ more tag, 4 ≤ tag ∧ readWord 4 (bs ++ more) = .ok (tag, []) := by
  refine ⟨List.replicate (4 - bs.length) 255, ofLittleEndian (bs ++ List.replicate (4 - bs.length) 255), ?_, ?_⟩
  · obtain ⟨k, hk⟩ : ∃ k, 4 - bs.length = k + 1 := ⟨3 - bs.length, by omega⟩
    have hpos : 0 < 256 ^ bs.length := Nat.pow_pos (by decide)
    rw [ofLittleEndian_append, hk, List.replicate_succ, ofLittleEndian]
    have := Nat.le_mul_of_pos_left (UInt8.toNat 255 + 256 * ofLittleEndian (List.replicate k 255)) hpos
    have : UInt8.toNat 255 = 255 := rfl
    omega
  · have hlen : (bs ++ List.replicate (4 - bs.length) 255).length = 4 := by
      rw [List.length_append, List.length_replicate]
      omega
    have hread := readBytes_eq_ok_iff.2 ⟨(List.append_nil _).symm, hlen⟩
    rw [readWord, andThen_of_ok hread]
    rfl

theorem readBody_unknownTag {tag : Nat} (h : 4 ≤ tag) : readBody inner tag = .fail (.unknownTag tag) := by
  obtain ⟨n, rfl⟩ : ∃ n, tag = n + 4 := ⟨tag - 4, by omega⟩
  rfl

/-- The tag takes up bytes, so that `inner` has to be completed on fewer. An unfinished tag needs no completion of `inner`
at all. -/
theorem completes_readNode (h : Completes bound inner) (hr : Prompt [] inner) :
    Completes (bound + 1) (readNode inner) := by
  intro bs hlen hbs
  by_cases h4 : bs.length < 4
  · obtain ⟨more, tag, htag, hread⟩ := exists_unknownTag h4
    refine ⟨more, .inl ⟨.unknownTag tag, by simp, ?_⟩⟩
    rw [readNode, andThen_of_ok hread, readBody_unknownTag htag]
    rfl
  · have htake : (bs.take 4).length = 4 := by rw [List.length_take]; omega
    have hword : readWord 4 bs = .ok (ofLittleEndian (bs.take 4), bs.drop 4) := by
      have hread := readBytes_eq_ok_iff.2 ⟨(List.take_append_drop 4 bs).symm, htake⟩
      rw [readWord, andThen_of_ok hread]
      rfl
    have hdrop : (bs.drop 4).length < bound := by rw [List.length_drop]; omega
    rw [readNode, andThen_of_ok hword] at hbs
    obtain ⟨more, hmore⟩ := completes_readBody h hr _ _ hdrop (hbs.imp_right fun hnil => by rw [hnil]; rfl)
    refine ⟨more, ?_⟩
    rw [readNode, andThen_of_ok ((prompt_readWord 4 : Prompt [] _).append_of_ok hword more)]
    exact hmore

theorem completes_readSnapshot : ∀ depth : Nat, Completes depth (readSnapshot depth)
  | 0 => fun _ hlen _ => absurd hlen (Nat.not_lt_zero _)
  | depth + 1 => completes_readNode (completes_readSnapshot depth) (prompt_readSnapshot depth)

/-! ## The depth -/

theorem extends_readBody {inner' : Reader Snapshot} (h : Extends bound inner inner') (hr : Prompt [] inner) :
    ∀ tag : Nat, Extends bound (readBody inner tag) (readBody inner' tag)
  | 0 | 1 | 2 | _ + 4 => .refl _
  | 3 => by
    refine Extends.andThen (k := 0) (.refl _) (fun _ _ _ => (prompt_readWord 8 : Prompt [] _).length_le) fun n => ?_
    exact Extends.andThen (k := 0) (h.readMany hr n) (fun _ _ _ => (hr.readMany n).length_le) fun _ => .refl _

theorem extends_readNode {inner' : Reader Snapshot} (h : Extends bound inner inner') (hr : Prompt [] inner) :
    Extends (bound + 1) (readNode inner) (readNode inner') := by
  refine Extends.andThen (.refl _) (fun bs tag rest hword => ?_) (extends_readBody h hr)
  obtain ⟨-, rfl⟩ := readWord_eq_ok_iff.1 hword
  rw [List.length_append, length_toLittleEndian]
  omega

theorem extends_readSnapshot : ∀ depth : Nat, Extends depth (readSnapshot depth) (readSnapshot (depth + 1))
  | 0 => fun _ h => h.elim (absurd rfl) fun hlen => absurd hlen (Nat.not_lt_zero _)
  | depth + 1 => extends_readNode (extends_readSnapshot depth) (prompt_readSnapshot depth)

section Depth

variable {bs : List UInt8} {depth depth' : Nat}

/-- A greater depth changes only an early end, and that only on many bytes. -/
theorem readSnapshot_eq_of_le (hle : depth ≤ depth')
    (h : readSnapshot depth bs ≠ .error .unexpectedEnd ∨ bs.length < depth) :
    readSnapshot depth' bs = readSnapshot depth bs := by
  induction hle with
  | refl => rfl
  | @step m hm ih =>
    rw [← ih]
    apply extends_readSnapshot m bs
    rw [ih]
    exact h.imp_right fun hlen => Nat.lt_of_lt_of_le hlen hm

/-- The outcome at any depth that is enough. -/
theorem decode_eq_map (h : readSnapshot depth bs ≠ .error .unexpectedEnd ∨ bs.length < depth) :
    decode bs = (readSnapshot depth bs).map Prod.fst := by
  have hdepth : readSnapshot (bs.length + 1) bs = readSnapshot depth bs := by
    rcases Nat.le_total depth (bs.length + 1) with hle | hle
    · exact readSnapshot_eq_of_le hle h
    · exact (readSnapshot_eq_of_le hle (.inr (Nat.lt_succ_self _))).symm
  rw [← hdepth, decode]
  cases readSnapshot (bs.length + 1) bs <;> rfl

theorem readSnapshot_of_decode (h : decode bs = .error .unexpectedEnd) :
    readSnapshot (bs.length + 1) bs = .error .unexpectedEnd := by
  rw [decode_eq_map (.inr (Nat.lt_succ_self _))] at h
  cases hr : readSnapshot (bs.length + 1) bs with
  | ok part => rw [hr] at h; cases h
  | error fault => rw [hr] at h; cases h; rfl

end Depth

/-! ## The outcome of reading -/

section Outcome

variable {bs : List UInt8}

/-- The outcome is settled by a first part of the bytes, at which a fault is found. -/
theorem exists_prefix_of_decode (h : decode bs ≠ .error .unexpectedEnd) :
    ∃ q, q <+: bs ∧ (∀ rest, decode (q ++ rest) = decode bs) ∧
      (∀ p, p <+: q → p ≠ q → decode p = .error .unexpectedEnd) ∧
      ∀ fault, decode bs = .error fault → Blames fault q := by
  have hne : readSnapshot (bs.length + 1) bs ≠ .error .unexpectedEnd := by
    intro hr
    rw [decode_eq_map (.inr (Nat.lt_succ_self _)), hr] at h
    exact h rfl
  obtain ⟨q, o, hq, hset, hblame⟩ := prompt_readSnapshot _ bs hne
  have hdecode : ∀ rest, decode (q ++ rest) = o := by
    intro rest
    have hout := hset.outcome rest
    have hdepth : readSnapshot (bs.length + 1) (q ++ rest) ≠ .error .unexpectedEnd := by
      rw [hout]
      cases o with
      | ok t => intro h; cases h
      | error fault => intro h; cases h; exact hblame .unexpectedEnd rfl
    rw [decode_eq_map (.inl hdepth), hout]
    cases o <;> rfl
  obtain ⟨mid, rfl⟩ := hq
  refine ⟨q, List.prefix_append q mid, fun rest => ?_, fun p hp hpq => ?_, fun fault ho => ?_⟩
  · rw [hdecode, hdecode]
  · have hlen : p.length < (q ++ mid).length + 1 := by
      have := hp.length_le
      rw [List.length_append]
      omega
    rw [decode_eq_map (.inr hlen), hset.early p hp hpq]
    rfl
  · rw [hdecode] at ho
    exact hblame fault ho

/-- Some bytes that follow an early end change the outcome. -/
theorem exists_decode_append_ne (h : decode bs = .error .unexpectedEnd) :
    ∃ more, decode (bs ++ more) ≠ .error .unexpectedEnd := by
  have hr := readSnapshot_of_decode h
  obtain ⟨more, ⟨fault, hne, hmore⟩ | ⟨t, hmore⟩⟩ := completes_readSnapshot _ bs (Nat.lt_succ_self _) (.inl hr)
  · refine ⟨more, ?_⟩
    have hne' : Except.error fault ≠ (.error .unexpectedEnd : Except DecodeFault (Snapshot × List UInt8)) :=
      fun h => hne (Except.error.inj h)
    rw [decode_eq_map (.inl (by rw [hmore]; exact hne')), hmore]
    exact fun h => hne (Except.error.inj h)
  · refine ⟨more, ?_⟩
    rw [decode_eq_map (.inl (by rw [hmore]; simp)), hmore]
    intro h
    cases h

end Outcome

/-! ## The word that is reported -/

/-- Behind these bytes a snapshot is to begin: at the front, and in a list of `n` items behind fewer than `n` of them. -/
inductive Opens : List UInt8 → Prop
  | start : Opens []
  | item {n : Nat} {ts : List Snapshot} {before : List UInt8} : n < 2 ^ 64 → ts.length < n → FitsAll ts → Opens before →
      Opens (toLittleEndian 4 3 ++ (toLittleEndian 8 n ++ (encodeAll ts ++ before)))

/-- The bytes of a snapshot up to a word that no snapshot has, and the fault that names the word. -/
inductive Spoils : DecodeFault → List UInt8 → Prop
  | unknownTag {tag : Nat} : 4 ≤ tag → tag < 2 ^ 32 → Spoils (.unknownTag tag) (toLittleEndian 4 tag)
  | invalidBool {byte : Nat} : 2 ≤ byte → byte < 2 ^ 8 →
      Spoils (.invalidBool byte) (toLittleEndian 4 1 ++ toLittleEndian 1 byte)

/-- Where a snapshot is to begin, the bytes have a word that no snapshot has. -/
def Encounters (fault : DecodeFault) (bs : List UInt8) : Prop :=
  ∃ before word rest, Opens before ∧ Spoils fault word ∧ bs = before ++ (word ++ rest)

section Words

variable {fault : DecodeFault} {bs word : List UInt8} {depth : Nat}

theorem Spoils.readNode_eq (h : Spoils fault word) (rest : List UInt8) : readNode inner (word ++ rest) = .error fault := by
  cases h with
  | unknownTag hlow hhigh =>
    rw [readNode_tag hhigh, readBody_unknownTag hlow]
    rfl
  | @invalidBool byte hlow hhigh =>
    obtain ⟨n, rfl⟩ : ∃ n, byte = n + 2 := ⟨byte - 2, by omega⟩
    rw [List.append_assoc, readNode_tag (by decide), readBody, andThen_of_ok (readWord_toLittleEndian hhigh rest)]
    rfl

/-- Items are read until one has a fault. -/
theorem readMany_of_error {mid : List UInt8} (hmid : readSnapshot depth mid = .error fault) :
    ∀ {ts : List Snapshot} {n : Nat}, FitsAll ts → ts.length < n → (encodeAll ts).length ≤ depth →
      readMany (readSnapshot depth) n (encodeAll ts ++ mid) = .error fault
  | _, 0, _, hlt, _ => absurd hlt (Nat.not_lt_zero _)
  | [], n + 1, _, _, _ => andThen_of_error hmid
  | t :: ts, n + 1, hfit, hlt, hd => by
    rw [encodeAll_cons, List.length_append] at hd
    have hrest := readMany_of_error hmid hfit.2 (Nat.lt_of_succ_lt_succ hlt) (by omega)
    rw [encodeAll_cons, List.append_assoc, readMany, andThen_of_ok (readSnapshot_encode _ t depth hfit.1 (by omega)),
      andThen_of_error hrest]

/-- The reader comes through the lists that are open to the word, and stops there. -/
theorem readSnapshot_of_opens {before : List UInt8} (h : Opens before) (hword : Spoils fault word) (rest : List UInt8) :
    ∀ {depth : Nat}, before.length < depth → readSnapshot depth (before ++ (word ++ rest)) = .error fault := by
  induction h with
  | start =>
    intro depth hlen
    obtain ⟨d, rfl⟩ := Nat.exists_eq_add_one_of_ne_zero (Nat.ne_zero_of_lt hlen)
    exact hword.readNode_eq rest
  | @item n ts before hn hlt hfits _ ih =>
    intro depth hlen
    obtain ⟨d, rfl⟩ := Nat.exists_eq_add_one_of_ne_zero (Nat.ne_zero_of_lt hlen)
    simp only [List.length_append, length_toLittleEndian] at hlen
    have hitems := readMany_of_error (ih (by omega : before.length < d)) hfits hlt (by omega)
    simp only [List.append_assoc]
    rw [readSnapshot, readNode_tag (by decide), readBody, andThen_of_ok (readWord_toLittleEndian hn _),
      andThen_of_error hitems]

/-- Where items are read in vain, one of them is, and those before it were read. -/
theorem exists_item_of_readMany_error (hr : Faithful inner) : ∀ {n : Nat} {bs : List UInt8},
    readMany inner n bs = .error fault →
      ∃ ts mid, ts.length < n ∧ FitsAll ts ∧ bs = encodeAll ts ++ mid ∧ inner mid = .error fault
  | 0, _, h => by cases h
  | n + 1, bs, h => by
    rcases andThen_eq_error h with hfirst | ⟨t, mid, ht, hothers⟩
    · exact ⟨[], bs, Nat.succ_pos n, trivial, rfl, hfirst⟩
    · obtain ⟨ts, mid', hlt, hfits, rfl, hmid⟩ := exists_item_of_readMany_error hr (andThen_done_eq_error hothers)
      obtain ⟨hfit, rfl⟩ := hr _ _ _ ht
      exact ⟨t :: ts, mid', Nat.succ_lt_succ hlt, ⟨hfit, hfits⟩, by rw [encodeAll_cons, List.append_assoc], hmid⟩

/-- The fault of a body is an early end, the word at hand, or a fault of an item of a list. -/
theorem encounters_of_readBody (hne : fault ≠ .unexpectedEnd) (hr : Faithful inner)
    (hinner : ∀ mid, inner mid = .error fault → Encounters fault mid) : ∀ {tag : Nat} {bs : List UInt8}, tag < 2 ^ 32 →
      readBody inner tag bs = .error fault → Encounters fault (toLittleEndian 4 tag ++ bs)
  | 0, _, _, h => absurd (readWord_eq_error (andThen_done_eq_error h)) hne
  | 1, _, _, h => by
    obtain ⟨byte, mid, hlt, rfl, hbyte⟩ := exists_word_of_error hne h
    match byte, hbyte with
    | n + 2, hbyte =>
      cases hbyte
      exact ⟨[], _, mid, .start, .invalidBool (Nat.le_add_left 2 n) hlt, by rw [List.nil_append, List.append_assoc]⟩
  | 2, _, _, h => by
    obtain ⟨n, mid, -, -, hbytes⟩ := exists_word_of_error hne h
    exact absurd (readBytes_eq_error (andThen_done_eq_error hbytes)) hne
  | 3, _, _, h => by
    obtain ⟨n, mid, hn, rfl, hitems⟩ := exists_word_of_error hne h
    obtain ⟨ts, mid', hlt, hfits, rfl, hmid⟩ := exists_item_of_readMany_error hr (andThen_done_eq_error hitems)
    obtain ⟨before, word, rest, hopens, hspoils, rfl⟩ := hinner mid' hmid
    exact ⟨_, word, rest, .item hn hlt hfits hopens, hspoils, by simp only [List.append_assoc]⟩
  | n + 4, _, htag, h => by
    cases h
    exact ⟨[], _, _, .start, .unknownTag (Nat.le_add_left 4 n) htag, rfl⟩

theorem encounters_of_readSnapshot (hne : fault ≠ .unexpectedEnd) : ∀ {depth : Nat} {bs : List UInt8},
    readSnapshot depth bs = .error fault → Encounters fault bs
  | 0, _, h => by
    cases h
    exact absurd rfl hne
  | depth + 1, _, h => by
    obtain ⟨tag, mid, htag, rfl, hbody⟩ := exists_word_of_error hne h
    exact encounters_of_readBody hne (faithful_readSnapshot depth) (fun _ => encounters_of_readSnapshot hne) htag hbody

/-- A fault is found exactly where the bytes have a word that calls for it. -/
theorem readSnapshot_eq_error_iff (hne : fault ≠ .unexpectedEnd) :
    readSnapshot (bs.length + 1) bs = .error fault ↔ Encounters fault bs := by
  refine ⟨encounters_of_readSnapshot hne, ?_⟩
  rintro ⟨before, word, rest, hopens, hspoils, rfl⟩
  refine readSnapshot_of_opens hopens hspoils rest ?_
  rw [List.length_append]
  omega

theorem decode_eq_error_iff (hne : fault ≠ .unexpectedEnd) : decode bs = .error fault ↔ Encounters fault bs := by
  rw [← readSnapshot_eq_error_iff hne, decode_eq_map (.inr (Nat.lt_succ_self _))]
  cases readSnapshot (bs.length + 1) bs <;> simp [Except.map]

end Words

/-- **Early ends and faults.** Reading ends at every depth above the number of bytes with the same outcome. The outcome is an
early end exactly if some bytes that follow change it. Any other outcome is settled by a first part of the bytes: it is the
outcome of that part whatever follows, and every shorter part ends too early. An unknown tag or an invalid boolean is the
last word of that part. A fault is reported exactly if the reader comes to a word that calls for it: a tag of four or more, or
a boolean of two or more, where a snapshot is to begin, at the front or behind the items of a list that were read, whatever
follows. -/
theorem decode_stops_at_first_fault (bs : List UInt8) :
    (∀ depth, bs.length < depth → (readSnapshot depth bs).map Prod.fst = decode bs) ∧
    (decode bs = .error .unexpectedEnd ↔ ∃ rest, decode (bs ++ rest) ≠ decode bs) ∧
    (decode bs ≠ .error .unexpectedEnd →
      ∃ q, q <+: bs ∧ (∀ rest, decode (q ++ rest) = decode bs) ∧
        (∀ p, p <+: q → p ≠ q → decode p = .error .unexpectedEnd) ∧
        (∀ tag, decode bs = .error (.unknownTag tag) → 4 ≤ tag ∧ tag < 2 ^ 32 ∧ toLittleEndian 4 tag <:+ q) ∧
        ∀ byte, decode bs = .error (.invalidBool byte) → 2 ≤ byte ∧ byte < 2 ^ 8 ∧ [UInt8.ofNat byte] <:+ q) ∧
    ∀ fault, fault ≠ .unexpectedEnd → (decode bs = .error fault ↔
      ∃ before word rest, Opens before ∧ Spoils fault word ∧ bs = before ++ (word ++ rest)) := by
  refine ⟨fun depth hlen => (decode_eq_map (.inr hlen)).symm, ⟨fun h => ?_, fun ⟨rest, hrest⟩ => ?_⟩, fun h => ?_,
    fun fault hne => decode_eq_error_iff hne⟩
  · obtain ⟨more, hmore⟩ := exists_decode_append_ne h
    exact ⟨more, by rw [h]; exact hmore⟩
  · apply Classical.byContradiction
    intro h
    obtain ⟨q, ⟨mid, rfl⟩, hq, -⟩ := exists_prefix_of_decode h
    exact hrest (by rw [List.append_assoc, hq, hq])
  · obtain ⟨q, hq, hout, hearly, hblame⟩ := exists_prefix_of_decode h
    exact ⟨q, hq, hout, hearly, fun tag ho => hblame _ ho, fun byte ho => hblame _ ho⟩

/-- A list of three items, with a number, then a tag that no kind has, and two bytes of a third item. -/
def unknownSecond : List UInt8 :=
  toLittleEndian 4 3 ++ (toLittleEndian 8 3 ++ (encodeAll [int 7] ++ (toLittleEndian 4 9 ++ [1, 0])))

/-- The tag is reported, though bytes are missing after it. It is the last word of the part that settles this, and without
its last byte the bytes end too early. -/
theorem decode_unknownSecond :
    decode unknownSecond = .error (.unknownTag 9) ∧ decode unknownSecond ≠ .error .unexpectedEnd ∧
    decode (unknownSecond.take 23) = .error .unexpectedEnd ∧
    (∃ rest, decode (unknownSecond.take 23 ++ rest) ≠ decode (unknownSecond.take 23)) ∧
    ∃ q, q <+: unknownSecond ∧ toLittleEndian 4 9 <:+ q ∧ ∀ rest, decode (q ++ rest) = .error (.unknownTag 9) := by
  obtain ⟨-, -, hsettled, hreported⟩ := decode_stops_at_first_fault unknownSecond
  have hunknown : decode unknownSecond = .error (.unknownTag 9) := by
    refine (hreported _ (by decide)).2 ⟨toLittleEndian 4 3 ++ (toLittleEndian 8 3 ++ (encodeAll [int 7] ++ [])),
      toLittleEndian 4 9, [1, 0], ?_, .unknownTag (by decide) (by decide), by decide⟩
    exact .item (by decide) (by decide) ⟨trivial, trivial⟩ .start
  have hne : decode unknownSecond ≠ .error .unexpectedEnd := by
    rw [hunknown]
    simp
  have hcut : decode (unknownSecond.take 23) = .error .unexpectedEnd := rfl
  obtain ⟨q, hq, hout, -, htag, -⟩ := hsettled hne
  refine ⟨hunknown, hne, hcut, (decode_stops_at_first_fault (unknownSecond.take 23)).2.1.1 hcut, q, hq,
    (htag 9 hunknown).2.2, fun rest => (hout rest).trans hunknown⟩

end SharedSeq.Snapshot
