import Mathlib.Algebra.Group.Nat.Defs
import SharedSeq.Snapshot.Codec

/-!
# Readers

What a reader does with the bytes after the part that it reads, and with a part that is cut off.

* `Settles r q o`: at `q` the reader `r` comes to the outcome `o`, whatever follows, and at no earlier point.
* `Prompt before r`: behind the bytes `before`, all outcomes of `r` but an early end are settled by a first part of the
  bytes, and a fault names the word that this part ends with (`Blames`).
* `Completes bound r`: fewer than `bound` bytes that end too early can be completed, to a fault or to a part with nothing
  left over.
* `Extends bound r r'`: `r'` does what `r` does, apart from `bound` bytes or more that end too early for `r`.

Each of them passes through `Reader.andThen` and `readMany`.
-/

namespace SharedSeq.Bytes

/-! ## Words that fit -/

/-- A number that fits is read back. -/
theorem ofLittleEndian_toLittleEndian {width n : Nat} (h : n < 256 ^ width) :
    ofLittleEndian (toLittleEndian width n) = n := by
  induction width generalizing n with
  | zero => simp at h; simp [toLittleEndian, ofLittleEndian, h]
  | succ width ih =>
    have hdiv : n / 256 < 256 ^ width := by
      rw [Nat.pow_succ] at h
      exact Nat.div_lt_of_lt_mul (by omega)
    rw [toLittleEndian, ofLittleEndian, ih hdiv, UInt8.toNat_ofNat']
    omega

/-- Bytes stand for a number that fits into as many bytes. -/
theorem ofLittleEndian_lt (bs : List UInt8) : ofLittleEndian bs < 256 ^ bs.length := by
  induction bs with
  | nil => simp [ofLittleEndian]
  | cons b bs ih =>
    have hb := b.toNat_lt
    rw [ofLittleEndian, List.length_cons, Nat.pow_succ]
    omega

end SharedSeq.Bytes

namespace SharedSeq.Snapshot

open Bytes

variable {α β : Type}

/-! ## Composition -/

section Composition

variable {r : Reader α} {next : α → Reader β} {bs rest : List UInt8}

theorem andThen_of_ok {a : α} {mid : List UInt8} (h : r bs = .ok (a, mid)) : r.andThen next bs = next a mid := by
  simp only [Reader.andThen, h]

theorem andThen_of_error {fault : DecodeFault} (h : r bs = .error fault) : r.andThen next bs = .error fault := by
  simp only [Reader.andThen, h]

theorem andThen_eq_ok {b : β} (h : r.andThen next bs = .ok (b, rest)) :
    ∃ a mid, r bs = .ok (a, mid) ∧ next a mid = .ok (b, rest) := by
  cases hr : r bs with
  | error fault => rw [andThen_of_error hr] at h; cases h
  | ok part =>
    obtain ⟨a, mid⟩ := part
    rw [andThen_of_ok hr] at h
    exact ⟨a, mid, rfl, h⟩

theorem andThen_eq_error {fault : DecodeFault} (h : r.andThen next bs = .error fault) :
    r bs = .error fault ∨ ∃ a mid, r bs = .ok (a, mid) ∧ next a mid = .error fault := by
  cases hr : r bs with
  | error fault' =>
    rw [andThen_of_error hr] at h
    exact .inl (congrArg Except.error (Except.error.inj h))
  | ok part =>
    rw [andThen_of_ok hr] at h
    exact .inr ⟨part.1, part.2, rfl, h⟩

/-- What is made of a part that was read has no fault of its own. -/
theorem andThen_done_eq_error {make : α → β} {fault : DecodeFault}
    (h : (r.andThen fun a => .done (make a)) bs = .error fault) : r bs = .error fault := by
  rcases andThen_eq_error h with hr | ⟨_, _, _, hdone⟩
  · exact hr
  · cases hdone

end Composition

/-! ## Bytes and words -/

section Words

variable {n width : Nat} {bs part rest : List UInt8}

theorem readBytes_append (part rest : List UInt8) : readBytes part.length (part ++ rest) = .ok (part, rest) := by
  simp [readBytes]

theorem readBytes_of_length_lt (h : bs.length < n) : readBytes n bs = .error .unexpectedEnd := by
  have hne : (bs.take n).length ≠ n := by rw [List.length_take]; omega
  simp only [readBytes, if_neg hne]

theorem readBytes_eq_ok_iff : readBytes n bs = .ok (part, rest) ↔ bs = part ++ rest ∧ part.length = n := by
  constructor
  · intro h
    by_cases hlen : bs.length < n
    · rw [readBytes_of_length_lt hlen] at h; cases h
    · have htake : (bs.take n).length = n := by rw [List.length_take]; omega
      simp only [readBytes, if_pos htake] at h
      cases h
      exact ⟨(List.take_append_drop n bs).symm, htake⟩
  · rintro ⟨rfl, rfl⟩
    exact readBytes_append part rest

theorem readWord_eq_ok_iff : readWord width bs = .ok (n, rest) ↔
    n < 256 ^ width ∧ bs = toLittleEndian width n ++ rest := by
  constructor
  · intro h
    obtain ⟨part, mid, hpart, h⟩ := andThen_eq_ok h
    cases h
    obtain ⟨rfl, rfl⟩ := readBytes_eq_ok_iff.1 hpart
    exact ⟨ofLittleEndian_lt part, by rw [toLittleEndian_ofLittleEndian]⟩
  · rintro ⟨hn, rfl⟩
    have hread : readBytes width (toLittleEndian width n ++ rest) = .ok (toLittleEndian width n, rest) :=
      readBytes_eq_ok_iff.2 ⟨rfl, length_toLittleEndian width n⟩
    rw [readWord, andThen_of_ok hread, ofLittleEndian_toLittleEndian hn]
    rfl

theorem readWord_toLittleEndian (hn : n < 256 ^ width) (rest : List UInt8) :
    readWord width (toLittleEndian width n ++ rest) = .ok (n, rest) := readWord_eq_ok_iff.2 ⟨hn, rfl⟩

/-- Bytes and words are refused only if there are too few bytes. -/
theorem readBytes_eq_error {fault : DecodeFault} (h : readBytes n bs = .error fault) : fault = .unexpectedEnd := by
  unfold readBytes at h
  dsimp only at h
  split at h <;> cases h
  rfl

theorem readWord_eq_error {fault : DecodeFault} (h : readWord width bs = .error fault) : fault = .unexpectedEnd :=
  readBytes_eq_error (andThen_done_eq_error h)

/-- A fault behind a word is no early end of the word. -/
theorem exists_word_of_error {next : Nat → Reader β} {fault : DecodeFault} (hne : fault ≠ .unexpectedEnd)
    (h : (readWord width).andThen next bs = .error fault) :
    ∃ n mid, n < 256 ^ width ∧ bs = toLittleEndian width n ++ mid ∧ next n mid = .error fault := by
  rcases andThen_eq_error h with hword | ⟨n, mid, hword, hnext⟩
  · exact absurd (readWord_eq_error hword) hne
  · obtain ⟨hn, hbs⟩ := readWord_eq_ok_iff.1 hword
    exact ⟨n, mid, hn, hbs, hnext⟩

end Words

/-! ## Outcomes that more bytes do not change -/

/-- The reader comes to the outcome `o` at `q`, whatever follows, and at no earlier point. -/
structure Settles (r : Reader α) (q : List UInt8) (o : Except DecodeFault α) : Prop where
  outcome : ∀ rest, r (q ++ rest) = o.map (·, rest)
  early : ∀ p, p <+: q → p ≠ q → r p = .error .unexpectedEnd

/-- The fault is found at the last word of the bytes, which is the word that it names. -/
def Blames : DecodeFault → List UInt8 → Prop
  | .unexpectedEnd, _ => False
  | .unknownTag tag, q => 4 ≤ tag ∧ tag < 256 ^ 4 ∧ toLittleEndian 4 tag <:+ q
  | .invalidBool byte, q => 2 ≤ byte ∧ byte < 256 ^ 1 ∧ toLittleEndian 1 byte <:+ q

theorem Blames.append {fault : DecodeFault} {q : List UInt8} (h : Blames fault q) (before : List UInt8) :
    Blames fault (before ++ q) := by
  cases fault with
  | unexpectedEnd => exact h
  | unknownTag tag => exact ⟨h.1, h.2.1, h.2.2.trans (List.suffix_append before q)⟩
  | invalidBool byte => exact ⟨h.1, h.2.1, h.2.2.trans (List.suffix_append before q)⟩

/-- Behind the bytes `before`, the reader comes to every outcome but an early end at a first part of the bytes, and a
fault is found there. -/
def Prompt (before : List UInt8) (r : Reader α) : Prop :=
  ∀ bs, r bs ≠ .error .unexpectedEnd →
    ∃ q o, q <+: bs ∧ Settles r q o ∧ ∀ fault, o = .error fault → Blames fault (before ++ q)

section Prompt

variable {before : List UInt8} {r : Reader α}

theorem Prompt.behind (h : Prompt [] r) (before : List UInt8) : Prompt before r := by
  intro bs hbs
  obtain ⟨q, o, hq, hset, hblame⟩ := h bs hbs
  exact ⟨q, o, hq, hset, fun fault ho => (hblame fault ho).append before⟩

theorem prompt_done (a : α) : Prompt before (.done a) := by
  intro bs _
  refine ⟨[], .ok a, List.nil_prefix, ⟨fun rest => rfl, fun p hp hne => ?_⟩, fun fault h => by cases h⟩
  exact absurd (List.prefix_nil.1 hp) hne

theorem prompt_fail {fault : DecodeFault} (h : Blames fault before) : Prompt before (.fail fault : Reader α) := by
  intro bs _
  refine ⟨[], .error fault, List.nil_prefix, ⟨fun rest => rfl, fun p hp hne => ?_⟩, fun fault' ho => ?_⟩
  · exact absurd (List.prefix_nil.1 hp) hne
  · cases ho
    rw [List.append_nil]
    exact h

theorem prompt_readBytes (n : Nat) : Prompt before (readBytes n) := by
  intro bs hbs
  have hn : n ≤ bs.length := Nat.le_of_not_lt fun hlt => hbs (readBytes_of_length_lt hlt)
  have htake : (bs.take n).length = n := by rw [List.length_take]; omega
  refine ⟨bs.take n, .ok (bs.take n), List.take_prefix n bs, ⟨fun rest => ?_, fun p hp hne => ?_⟩, fun fault h => by cases h⟩
  · exact readBytes_eq_ok_iff.2 ⟨rfl, htake⟩
  · refine readBytes_of_length_lt (Nat.lt_of_le_of_ne (htake ▸ hp.length_le) fun hlen => hne ?_)
    exact hp.eq_of_length (hlen.trans htake.symm)

/-- A part of the bytes that comes before the end of two parts ends in the first or in the second. -/
theorem isPrefix_append_cases {p q q' : List UInt8} (h : p <+: q ++ q') (hne : p ≠ q ++ q') :
    (p <+: q ∧ p ≠ q) ∨ ∃ p', p = q ++ p' ∧ p' <+: q' ∧ p' ≠ q' := by
  rcases List.prefix_or_prefix_of_prefix h (List.prefix_append q q') with hp | ⟨p', rfl⟩
  · by_cases hpq : p = q
    · subst hpq
      exact .inr ⟨[], by simp, List.nil_prefix, fun h => hne (by simp [← h])⟩
    · exact .inl ⟨hp, hpq⟩
  · exact .inr ⟨p', rfl, (List.prefix_append_right_inj q).1 h, fun h => hne (by rw [h])⟩

/-- Two readers in a row are settled where the second is, or at a fault of the first. -/
theorem Prompt.andThen {next : α → Reader β} (hr : Prompt before r)
    (hnext : ∀ q a, Settles r q (.ok a) → Prompt (before ++ q) (next a)) : Prompt before (r.andThen next) := by
  intro bs hbs
  have hne : r bs ≠ .error .unexpectedEnd := fun h => hbs (andThen_of_error h)
  obtain ⟨q, o, ⟨mid, rfl⟩, hset, hblame⟩ := hr bs hne
  cases o with
  | error fault =>
    refine ⟨q, .error fault, List.prefix_append q mid, ⟨fun rest => ?_, fun p hp hpq => ?_⟩, fun fault' ho => ?_⟩
    · exact andThen_of_error (hset.outcome rest)
    · exact andThen_of_error (hset.early p hp hpq)
    · cases ho
      exact hblame fault rfl
  | ok a =>
    rw [andThen_of_ok (hset.outcome mid)] at hbs
    obtain ⟨q', o, ⟨rest', rfl⟩, hset', hblame'⟩ := hnext q a hset mid hbs
    refine ⟨q ++ q', o, ⟨rest', by simp⟩, ⟨fun rest => ?_, fun p hp hpq => ?_⟩, fun fault ho => ?_⟩
    · rw [List.append_assoc, andThen_of_ok (hset.outcome (q' ++ rest))]
      exact hset'.outcome rest
    · rcases isPrefix_append_cases hp hpq with ⟨hp, hpq⟩ | ⟨p', rfl, hp', hpq'⟩
      · exact andThen_of_error (hset.early p hp hpq)
      · rw [andThen_of_ok (hset.outcome p')]
        exact hset'.early p' hp' hpq'
    · rw [← List.append_assoc]
      exact hblame' fault ho

theorem prompt_readWord (width : Nat) : Prompt before (readWord width) :=
  (prompt_readBytes width).andThen fun _ _ _ => prompt_done _

/-- A word is settled at its own bytes. -/
theorem Settles.eq_toLittleEndian {width n : Nat} {q : List UInt8} (h : Settles (readWord width) q (.ok n)) :
    n < 256 ^ width ∧ q = toLittleEndian width n := by
  obtain ⟨hn, hq⟩ := readWord_eq_ok_iff.1 (h.outcome [])
  exact ⟨hn, by simpa using hq⟩

theorem Prompt.readMany (hr : Prompt [] r) : ∀ n : Nat, Prompt [] (readMany r n)
  | 0 => prompt_done _
  | n + 1 => hr.andThen fun _ _ _ => ((hr.readMany n).behind _).andThen fun _ _ _ => prompt_done _

variable (hr : Prompt before r) {bs rest : List UInt8} {a : α}
include hr

/-- What was read is read again when more bytes follow. -/
theorem Prompt.append_of_ok (h : r bs = .ok (a, rest)) (more : List UInt8) :
    r (bs ++ more) = .ok (a, rest ++ more) := by
  obtain ⟨q, o, ⟨mid, rfl⟩, hset, -⟩ := hr bs (by rw [h]; simp)
  rw [hset.outcome mid] at h
  cases o with
  | error fault => cases h
  | ok a' =>
    cases h
    rw [List.append_assoc, hset.outcome]
    rfl

/-- A reader leaves no more bytes than there were. -/
theorem Prompt.length_le (h : r bs = .ok (a, rest)) : rest.length ≤ bs.length := by
  obtain ⟨q, o, ⟨mid, rfl⟩, hset, -⟩ := hr bs (by rw [h]; simp)
  rw [hset.outcome mid] at h
  cases o with
  | error fault => cases h
  | ok a' =>
    cases h
    rw [List.length_append]
    omega

end Prompt

/-! ## Bytes that end too early -/

/-- Fewer than `bound` bytes that end too early, and no bytes at all, can be completed to a fault or to a part with nothing
left over. -/
def Completes (bound : Nat) (r : Reader α) : Prop :=
  ∀ bs, bs.length < bound → r bs = .error .unexpectedEnd ∨ bs = [] →
    ∃ more, (∃ fault, fault ≠ .unexpectedEnd ∧ r (bs ++ more) = .error fault) ∨ ∃ a, r (bs ++ more) = .ok (a, [])

section Completes

variable {bound : Nat} {r : Reader α}

theorem completes_done (a : α) : Completes bound (.done a) := by
  rintro bs _ (h | rfl)
  · cases h
  · exact ⟨[], .inr ⟨a, rfl⟩⟩

theorem completes_fail {fault : DecodeFault} (hne : fault ≠ .unexpectedEnd) :
    Completes bound (.fail fault : Reader α) := fun _ _ _ => ⟨[], .inl ⟨fault, hne, rfl⟩⟩

/-- Zeros complete what has a fixed number of bytes. -/
theorem completes_readBytes (n : Nat) : Completes bound (readBytes n) := by
  intro bs _ hbs
  have hn : bs.length ≤ n := by
    rcases hbs with hbs | rfl
    · refine Nat.le_of_not_lt fun hn => ?_
      have htake : (bs.take n).length = n := by rw [List.length_take]; omega
      rw [readBytes_eq_ok_iff.2 ⟨(List.take_append_drop n bs).symm, htake⟩] at hbs
      cases hbs
    · exact Nat.zero_le n
  refine ⟨List.replicate (n - bs.length) 0, .inr ⟨_, readBytes_eq_ok_iff.2 ⟨(List.append_nil _).symm, ?_⟩⟩⟩
  rw [List.length_append, List.length_replicate]
  omega

/-- Two readers in a row are completed one after the other: once the first is complete nothing is left over, and the second
starts on no bytes. -/
theorem Completes.andThen {before : List UInt8} {next : α → Reader β} (h : Completes bound r) (hr : Prompt before r)
    (hnext : ∀ a, Completes bound (next a)) : Completes bound (r.andThen next) := by
  intro bs hlen hbs
  cases hrbs : r bs with
  | ok part =>
    obtain ⟨a, mid⟩ := part
    have hmid := hr.length_le hrbs
    rw [andThen_of_ok hrbs] at hbs
    obtain ⟨more, hmore⟩ := hnext a mid (by omega) (hbs.imp_right fun hnil => by
      rw [hnil] at hmid
      exact List.eq_nil_of_length_eq_zero (Nat.le_zero.1 hmid))
    refine ⟨more, ?_⟩
    rw [andThen_of_ok (hr.append_of_ok hrbs more)]
    exact hmore
  | error fault =>
    by_cases hfault : fault = .unexpectedEnd
    · subst hfault
      obtain ⟨more, ⟨fault, hne, hfault⟩ | ⟨a, ha⟩⟩ := h bs hlen (.inl hrbs)
      · exact ⟨more, .inl ⟨fault, hne, andThen_of_error hfault⟩⟩
      · obtain ⟨more', hmore'⟩ := hnext a [] (Nat.zero_lt_of_lt hlen) (.inr rfl)
        refine ⟨more ++ more', ?_⟩
        rw [← List.append_assoc, andThen_of_ok (hr.append_of_ok ha more')]
        exact hmore'
    · refine ⟨[], .inl ⟨fault, hfault, ?_⟩⟩
      rw [List.append_nil]
      exact andThen_of_error hrbs

theorem completes_readWord (width : Nat) : Completes bound (readWord width) :=
  (completes_readBytes width).andThen (prompt_readBytes width : Prompt [] _) fun _ => completes_done _

theorem Completes.readMany (h : Completes bound r) (hr : Prompt [] r) : ∀ n : Nat, Completes bound (readMany r n)
  | 0 => completes_done _
  | n + 1 => h.andThen hr fun _ => (h.readMany hr n).andThen (hr.readMany n) fun _ => completes_done _

end Completes

/-! ## Readers that go deeper -/

/-- The second reader does what the first does, apart from `bound` bytes or more that end too early for the first. -/
def Extends (bound : Nat) (r r' : Reader α) : Prop :=
  ∀ bs, r bs ≠ .error .unexpectedEnd ∨ bs.length < bound → r' bs = r bs

section Extends

variable {bound : Nat} {r r' : Reader α}

theorem Extends.refl (r : Reader α) : Extends bound r r := fun _ _ => rfl

/-- If the first readers take up `k` bytes, the second ones have to agree only on as many bytes less. -/
theorem Extends.andThen {k : Nat} {next next' : α → Reader β} (h : Extends (bound + k) r r')
    (hk : ∀ bs a rest, r bs = .ok (a, rest) → rest.length + k ≤ bs.length)
    (hnext : ∀ a, Extends bound (next a) (next' a)) : Extends (bound + k) (r.andThen next) (r'.andThen next') := by
  intro bs hbs
  have hr : r bs ≠ .error .unexpectedEnd ∨ bs.length < bound + k :=
    hbs.imp_left fun hne h => hne (andThen_of_error h)
  cases hrbs : r bs with
  | error fault => rw [andThen_of_error hrbs, andThen_of_error ((h bs hr).trans hrbs)]
  | ok part =>
    obtain ⟨a, mid⟩ := part
    rw [andThen_of_ok hrbs] at hbs
    rw [andThen_of_ok hrbs, andThen_of_ok ((h bs hr).trans hrbs)]
    have hmid := hk bs a mid hrbs
    exact hnext a mid (hbs.imp_right fun hlen => by omega)

theorem Extends.readMany (h : Extends bound r r') (hr : Prompt [] r) : ∀ n : Nat,
    Extends bound (readMany r n) (readMany r' n)
  | 0 => .refl _
  | n + 1 => by
    refine Extends.andThen (k := 0) h (fun _ _ _ => hr.length_le) fun a => ?_
    exact Extends.andThen (k := 0) (h.readMany hr n) (fun _ _ _ => (hr.readMany n).length_le) fun _ => .refl _

end Extends

end SharedSeq.Snapshot
