import SharedSeq.Proofs.ContentEquality

/-!
# Renderings without strings are read in one way

The rendering of a value in which there is no string tells its contents.

* The first byte tells the kind (`Snapshot.kind_eq_of_append`). An integer ends where its digits end, a boolean is one of two
  words, and a list ends at its own bracket.
* So the rendering of a snapshot is told apart from what follows it, if that is nothing, a separator or a closing bracket
  (`Snapshot.Ends`): two such texts that are the same begin with the same snapshot and go on in the same way
  (`Snapshot.rendered_append_inj`).
-/

namespace SharedSeq

/-! ## Runs of digits -/

namespace Text

/-- The byte of a decimal digit. -/
def isDigitByte (b : UInt8) : Bool := 48 ≤ b && b ≤ 57

/-- The number that bytes spell, read as decimal digits. -/
def readDigits (bs : List UInt8) : Nat := Nat.ofDigitChars 10 (bs.map fun b => Char.ofNat b.toNat) 0

section Digits

/-- A digit is one byte, and tells which digit it is. -/
theorem utf8EncodeChar_of_isDigit {c : Char} (h : c.isDigit) :
    ∃ b, String.utf8EncodeChar c = [b] ∧ isDigitByte b ∧ Char.ofNat b.toNat = c := by
  have hlow : 48 ≤ c.val.toNat := by
    simp only [Char.isDigit, Bool.and_eq_true, decide_eq_true_eq] at h
    exact UInt32.le_iff_toNat_le.1 h.1
  have hhigh : c.val.toNat ≤ 57 := by
    simp only [Char.isDigit, Bool.and_eq_true, decide_eq_true_eq] at h
    exact UInt32.le_iff_toNat_le.1 h.2
  have hbyte : (UInt8.ofNat c.val.toNat).toNat = c.val.toNat := Nat.mod_eq_of_lt (by omega)
  refine ⟨UInt8.ofNat c.val.toNat, ?_, ?_, ?_⟩
  · unfold String.utf8EncodeChar
    exact if_pos (by omega)
  · simp only [isDigitByte, Bool.and_eq_true, decide_eq_true_eq, UInt8.le_iff_toNat_le, hbyte]
    exact ⟨hlow, hhigh⟩
  · rw [hbyte]
    exact Char.ofNat_toNat c

/-- Digits are written as bytes of digits, and read back from them. -/
theorem encode_of_isDigit : ∀ {cs : List Char}, (∀ c ∈ cs, c.isDigit) →
    (∀ b ∈ encode cs, isDigitByte b) ∧ (encode cs).map (fun b => Char.ofNat b.toNat) = cs
  | [], _ => ⟨fun _ hb => (by cases hb), rfl⟩
  | c :: cs, h => by
    obtain ⟨b, hb, hdigit, hback⟩ := utf8EncodeChar_of_isDigit (h c List.mem_cons_self)
    obtain ⟨hdigits, hrest⟩ := encode_of_isDigit fun d hd => h d (List.mem_cons_of_mem c hd)
    rw [encode_cons, hb]
    constructor
    · intro d hd
      rcases List.mem_cons.1 hd with rfl | hd
      · exact hdigit
      · exact hdigits d hd
    · rw [List.singleton_append, List.map_cons, hback, hrest]

theorem isDigit_of_mem_digits {n : Nat} {c : Char} (h : c ∈ digits n) : c.isDigit :=
  Nat.isDigit_of_mem_toDigits (by decide) (by decide) h

theorem isDigitByte_of_mem {n : Nat} {b : UInt8} (h : b ∈ encode (digits n)) : isDigitByte b :=
  (encode_of_isDigit fun _ => isDigit_of_mem_digits).1 b h

theorem readDigits_encode (n : Nat) : readDigits (encode (digits n)) = n := by
  rw [readDigits, (encode_of_isDigit fun _ => isDigit_of_mem_digits).2]
  exact Nat.ofDigitChars_toDigits (by decide) (by decide)

theorem exists_encode_digits (n : Nat) : ∃ b bs, encode (digits n) = b :: bs ∧ isDigitByte b := by
  cases hbs : encode (digits n) with
  | nil =>
    have hback := (encode_of_isDigit fun _ => isDigit_of_mem_digits (n := n)).2
    rw [hbs] at hback
    exact absurd hback.symm Nat.toDigits_ne_nil
  | cons b bs => exact ⟨b, bs, rfl, isDigitByte_of_mem (hbs ▸ List.mem_cons_self)⟩

end Digits

end Text

/-- A run of one sort is told apart from what follows it, if that begins with none of the sort. -/
theorem append_inj_of_head {α : Type} {p : α → Bool} {as bs k l : List α} (has : ∀ a ∈ as, p a) (hbs : ∀ b ∈ bs, p b)
    (hk : ∀ a ∈ k.head?, ¬ p a) (hl : ∀ a ∈ l.head?, ¬ p a) (h : as ++ k = bs ++ l) : as = bs ∧ k = l := by
  have hnone : ∀ {k : List α}, (∀ a ∈ k.head?, ¬ p a) → k.takeWhile p = [] := by
    intro k hk
    cases k with
    | nil => rfl
    | cons a k => simp [hk a rfl]
  have hrun := congrArg (List.takeWhile p) h
  rw [List.takeWhile_append_of_pos has, List.takeWhile_append_of_pos hbs, hnone hk, hnone hl, List.append_nil,
    List.append_nil] at hrun
  subst hrun
  exact ⟨rfl, List.append_cancel_left h⟩

namespace Snapshot

/-! ## What follows a rendering -/

/-- Nothing, a separator or a closing bracket. -/
def Ends (k : List UInt8) : Prop := ∀ b ∈ k.head?, b = 44 ∨ b = 93

section Ends

theorem ends_nil : Ends [] := fun _ h => by cases h

theorem ends_close (k : List UInt8) : Ends (93 :: k) := fun _ h => .inr (Option.some.inj h).symm

theorem ends_comma (k : List UInt8) : Ends (44 :: k) := fun _ h => .inl (Option.some.inj h).symm

theorem Ends.not_digit {k : List UInt8} (h : Ends k) : ∀ b ∈ k.head?, ¬ Text.isDigitByte b := by
  intro b hb
  rcases h b hb with rfl | rfl <;> decide

end Ends

/-! ## Scalars -/

section Scalars

variable {k l : List UInt8}

theorem renderInt_eq (n : Int32) :
    renderInt n = if n.toInt < 0 then 45 :: Text.encode (Text.digits n.toInt.natAbs)
      else Text.encode (Text.digits n.toInt.natAbs) := by
  unfold renderInt Text.decimal
  split
  · rw [Text.encode_cons]
    rfl
  · rfl

theorem digits_append_inj {m n : Nat} (hk : Ends k) (hl : Ends l)
    (h : Text.encode (Text.digits m) ++ k = Text.encode (Text.digits n) ++ l) : m = n ∧ k = l := by
  obtain ⟨hdigits, hrest⟩ := append_inj_of_head (fun _ => Text.isDigitByte_of_mem) (fun _ => Text.isDigitByte_of_mem)
    hk.not_digit hl.not_digit h
  have hread := congrArg Text.readDigits hdigits
  rw [Text.readDigits_encode, Text.readDigits_encode] at hread
  exact ⟨hread, hrest⟩

theorem minus_ne_digits (n : Nat) : 45 :: k ≠ Text.encode (Text.digits n) ++ l := by
  intro h
  obtain ⟨b, bs, hbs, hdigit⟩ := Text.exists_encode_digits n
  rw [hbs] at h
  cases h
  cases hdigit

/-- An integer is told by its sign and its digits. -/
theorem renderInt_append_inj {m n : Int32} (hk : Ends k) (hl : Ends l) (h : renderInt m ++ k = renderInt n ++ l) :
    m = n ∧ k = l := by
  rw [renderInt_eq, renderInt_eq] at h
  split at h <;> split at h
  · obtain ⟨habs, hrest⟩ := digits_append_inj hk hl (List.cons.inj h).2
    exact ⟨Int32.toInt_inj.1 (by omega), hrest⟩
  · exact absurd h (minus_ne_digits _)
  · exact absurd h.symm (minus_ne_digits _)
  · obtain ⟨habs, hrest⟩ := digits_append_inj hk hl h
    exact ⟨Int32.toInt_inj.1 (by omega), hrest⟩

theorem renderBool_append_inj {a b : Bool} (h : renderBool a ++ k = renderBool b ++ l) : a = b ∧ k = l := by
  have htrue : renderBool true = [84, 114, 117, 101] := rfl
  have hfalse : renderBool false = [70, 97, 108, 115, 101] := rfl
  cases a <;> cases b <;> simp_all

end Scalars

/-! ## Kinds -/

mutual

/-- There is no string in the snapshot. -/
def Stringless : Snapshot → Prop
  | int _ | bool _ => True
  | string _ => False
  | list items => StringlessAll items

/-- There is no string in any of the snapshots. -/
def StringlessAll : List Snapshot → Prop
  | [] => True
  | t :: ts => Stringless t ∧ StringlessAll ts

end

/-- The kind that a first byte tells. No other byte begins a rendering, if there is no string. -/
def kindOfFirst (b : UInt8) : Kind :=
  if b = 91 then .list else if b = 84 ∨ b = 70 then .bool else if b = 45 ∨ Text.isDigitByte b then .int else .string

section Kinds

variable {t u : Snapshot} {k l : List UInt8}

theorem kindOfFirst_of_digit {b : UInt8} (h : Text.isDigitByte b) : kindOfFirst b = .int := by
  have hlist : b ≠ 91 := by rintro rfl; cases h
  have htrue : b ≠ 84 := by rintro rfl; cases h
  have hfalse : b ≠ 70 := by rintro rfl; cases h
  simp [kindOfFirst, hlist, htrue, hfalse, h]

/-- Without strings there is always a first byte, and it tells the kind. -/
theorem exists_first (ht : t.Stringless) : ∃ b bs, t.rendered = b :: bs ∧ kindOfFirst b = t.kind := by
  cases t with
  | int n =>
    rw [rendered, renderInt_eq]
    split
    · exact ⟨_, _, rfl, rfl⟩
    · obtain ⟨b, bs, hbs, hdigit⟩ := Text.exists_encode_digits n.toInt.natAbs
      exact ⟨b, bs, hbs, kindOfFirst_of_digit hdigit⟩
  | bool b => cases b <;> exact ⟨_, _, by rw [rendered]; rfl, rfl⟩
  | string bytes => exact ht.elim
  | list items => exact ⟨_, _, by rw [rendered]; rfl, rfl⟩

theorem kind_eq_of_append (ht : t.Stringless) (hu : u.Stringless) (h : t.rendered ++ k = u.rendered ++ l) :
    t.kind = u.kind := by
  obtain ⟨b, bs, hb, hkind⟩ := exists_first ht
  obtain ⟨c, cs, hc, hkind'⟩ := exists_first hu
  rw [hb, hc] at h
  rw [← hkind, ← hkind', (List.cons.inj h).1]

/-- No rendering begins with a closing bracket. -/
theorem rendered_ne_close (ht : t.Stringless) : t.rendered ++ k ≠ 93 :: l := by
  intro h
  obtain ⟨b, bs, hb, hkind⟩ := exists_first ht
  rw [hb] at h
  cases h
  cases t with
  | string bytes => exact ht
  | int n => cases hkind
  | bool b => cases hkind
  | list items => cases hkind

end Kinds

/-! ## Lists -/

/-- What the rendering of a list has after its first item: nothing, or a separator and the other items. -/
def renderedRest : List Snapshot → List UInt8
  | [] => []
  | t :: ts => 44 :: 32 :: renderedAll (t :: ts)

section Lists

theorem rendered_list_append (ts : List Snapshot) (k : List UInt8) :
    (list ts).rendered ++ k = 91 :: (renderedAll ts ++ 93 :: k) := by
  rw [rendered, List.append_assoc, List.append_assoc]
  rfl

theorem renderedAll_cons_append (t : Snapshot) (ts : List Snapshot) (k : List UInt8) :
    renderedAll (t :: ts) ++ k = t.rendered ++ (renderedRest ts ++ k) := by
  cases ts with
  | nil => rw [renderedAll, renderedRest, List.nil_append]
  | cons u us =>
    rw [renderedAll, renderedRest, List.append_assoc, List.append_assoc]
    rfl

theorem ends_renderedRest (ts : List Snapshot) (k : List UInt8) : Ends (renderedRest ts ++ 93 :: k) := by
  cases ts with
  | nil => exact ends_close k
  | cons t ts => exact ends_comma _

mutual

/-- A rendering without strings is told apart from what follows it, and tells its snapshot. -/
theorem rendered_append_inj : ∀ {t u : Snapshot} {k l : List UInt8}, t.Stringless → u.Stringless → Ends k → Ends l →
    t.rendered ++ k = u.rendered ++ l → t = u ∧ k = l
  | .int m, .int n, _, _, _, _, hk, hl, h => by
    rw [rendered, rendered] at h
    obtain ⟨rfl, hrest⟩ := renderInt_append_inj hk hl h
    exact ⟨rfl, hrest⟩
  | .bool a, .bool b, _, _, _, _, _, _, h => by
    rw [rendered, rendered] at h
    obtain ⟨rfl, hrest⟩ := renderBool_append_inj h
    exact ⟨rfl, hrest⟩
  | .list ts, .list us, _, _, ht, hu, _, _, h => by
    rw [rendered_list_append, rendered_list_append] at h
    obtain ⟨rfl, hrest⟩ := renderedAll_append_inj ht hu (List.cons.inj h).2
    exact ⟨rfl, hrest⟩
  | .int _, .bool _, _, _, ht, hu, _, _, h | .int _, .list _, _, _, ht, hu, _, _, h
  | .bool _, .int _, _, _, ht, hu, _, _, h | .bool _, .list _, _, _, ht, hu, _, _, h
  | .list _, .int _, _, _, ht, hu, _, _, h | .list _, .bool _, _, _, ht, hu, _, _, h =>
    absurd (kind_eq_of_append ht hu h) (by simp [kind])
  | .string _, _, _, _, ht, _, _, _, _ => ht.elim
  | .int _, .string _, _, _, _, hu, _, _, _ | .bool _, .string _, _, _, _, hu, _, _, _
  | .list _, .string _, _, _, _, hu, _, _, _ => hu.elim

/-- The items of a list are told apart from each other and from the bracket behind them. -/
theorem renderedAll_append_inj : ∀ {ts us : List Snapshot} {k l : List UInt8}, StringlessAll ts → StringlessAll us →
    renderedAll ts ++ 93 :: k = renderedAll us ++ 93 :: l → ts = us ∧ k = l
  | [], [], _, _, _, _, h => ⟨rfl, (List.cons.inj h).2⟩
  | [], _ :: _, _, _, _, hus, h => by
    rw [renderedAll_cons_append] at h
    exact absurd h.symm (rendered_ne_close hus.1)
  | _ :: _, [], _, _, hts, _, h => by
    rw [renderedAll_cons_append] at h
    exact absurd h (rendered_ne_close hts.1)
  | t :: ts, u :: us, k, l, hts, hus, h => by
    rw [renderedAll_cons_append, renderedAll_cons_append] at h
    obtain ⟨rfl, hrest⟩ := rendered_append_inj hts.1 hus.1 (ends_renderedRest ts k) (ends_renderedRest us l) h
    -- the byte after the first item tells whether there is another one
    cases ts with
    | nil =>
      cases us with
      | nil => exact ⟨rfl, (List.cons.inj hrest).2⟩
      | cons u' us => exact absurd (List.cons.inj hrest).1 (by decide)
    | cons t' ts =>
      cases us with
      | nil => exact absurd (List.cons.inj hrest).1 (by decide)
      | cons u' us =>
        obtain ⟨heq, hend⟩ := renderedAll_append_inj hts.2 hus.2 (List.cons.inj (List.cons.inj hrest).2).2
        exact ⟨congrArg (t :: ·) heq, hend⟩

end

/-- Without strings, snapshots with the same rendering are the same. -/
theorem rendered_inj {t u : Snapshot} (ht : t.Stringless) (hu : u.Stringless) : t.rendered = u.rendered ↔ t = u := by
  constructor
  · intro h
    have happend : t.rendered ++ [] = u.rendered ++ [] := congrArg (· ++ []) h
    exact (rendered_append_inj ht hu ends_nil ends_nil happend).1
  · rintro rfl
    rfl

end Lists

end Snapshot

/-! ## Values -/

namespace Store

open Snapshot (StringlessAll)

/-- No string is reached from the value. -/
def NoString (s : Store) (v : Value) : Prop := ∀ a, ¬ s.ReachesString v a

variable {s s' : Store} {v w : Value}

section Values

mutual

/-- What a value holds has no string if none is reached from the value. -/
theorem Unfolds.stringless {v : Value} {t : Snapshot} : s.Unfolds v t → s.NoString v → t.Stringless
  | .int _, _ | .bool _, _ => trivial
  | .string id, h => h id (.inl rfl)
  | .list hall, h => UnfoldsAll.stringlessAll hall fun _ hv a ha => h a (ha.of_mem hv)

theorem UnfoldsAll.stringlessAll {vs : List Value} {ts : List Snapshot} :
    s.UnfoldsAll vs ts → (∀ v ∈ vs, s.NoString v) → StringlessAll ts
  | .nil, _ => trivial
  | .cons h hs, hvs => ⟨Unfolds.stringless h (hvs _ List.mem_cons_self),
      UnfoldsAll.stringlessAll hs fun v hv => hvs v (List.mem_cons_of_mem _ hv)⟩

end

/-- Values without strings have the same rendering exactly if they have the same contents. -/
theorem rendering_eq_iff {t u : Snapshot} (hv : s.Unfolds v t) (hw : s'.Unfolds w u) (hsv : s.NoString v)
    (hsw : s'.NoString w) : s.rendering v = s'.rendering w ↔ t = u := by
  rw [rendering_eq_rendered hv, rendering_eq_rendered hw]
  exact Snapshot.rendered_inj (hv.stringless hsv) (hw.stringless hsw)

end Values

/-- **Readability.** Values that contain no loop and no string, in one store or in two, have the same rendering only if they
have the same contents: the same kind, the same integers and booleans, nested alike and in the same order. In a sound store,
and every store that runs lead to is sound, they have the same rendering exactly if they are equal. -/
theorem rendering_tells_contents :
    (∀ s, empty.Leads s → s.Sound) ∧
    (∀ (s s' : Store) (v w : Value), ¬ s.ReachesLoop v → ¬ s'.ReachesLoop w → s.NoString v → s'.NoString w →
      s.rendering v = s'.rendering w → v.kind = w.kind ∧ ∃ t, s.snapshot v = .ok t ∧ s'.snapshot w = .ok t) ∧
    ∀ s : Store, s.Sound → ∀ v w, ¬ s.ReachesLoop v → ¬ s.ReachesLoop w → s.NoString v → s.NoString w →
      (s.rendering v = s.rendering w ↔ s.equal v w = some true) := by
  refine ⟨fun s h => h.sound sound_empty, fun s s' v w hv hw hsv hsw h => ?_, fun s hs v w hv hw hsv hsw => ?_⟩
  · obtain ⟨t, ht⟩ := exists_unfolds_of_not_reachesLoop hv
    obtain ⟨u, hu⟩ := exists_unfolds_of_not_reachesLoop hw
    obtain rfl : t = u := (rendering_eq_iff ht hu hsv hsw).1 h
    exact ⟨ht.kind_eq.trans hu.kind_eq.symm, t, snapshot_eq_ok_iff.2 ht, snapshot_eq_ok_iff.2 hu⟩
  · obtain ⟨t, ht⟩ := exists_unfolds_of_not_reachesLoop hv
    obtain ⟨u, hu⟩ := exists_unfolds_of_not_reachesLoop hw
    rw [rendering_eq_iff ht hu hsv hsw, equal_eq_true_iff hs ht hu]

/-- With strings it is not so: a string may spell a separator. -/
example : (Snapshot.list [.int 1, .int 2]).rendered = (Snapshot.list [.string [49, 44, 32, 50]]).rendered := by decide

/-- A list that holds one list twice, where another one holds two lists of the same elements. -/
def sameSpelling : Store :=
  (Script.State.initial.run
    [.assign "inner" (.list [.int (-12), .list []]), .assign "twice" (.list [.var "inner", .bool true, .var "inner"]),
      .assign "apart" (.list [.list [.int (-12), .list []], .bool true, .list [.int (-12), .list []]])]).2.store

/-- The two lists have the same rendering, so that they are equal. -/
theorem sameSpelling_equal :
    empty.Leads sameSpelling ∧ ¬ sameSpelling.ReachesLoop (.list ⟨2⟩) ∧ ¬ sameSpelling.ReachesLoop (.list ⟨7⟩) ∧
    sameSpelling.NoString (.list ⟨2⟩) ∧ sameSpelling.NoString (.list ⟨7⟩) ∧
    sameSpelling.rendering (.list ⟨2⟩) = sameSpelling.rendering (.list ⟨7⟩) ∧
    sameSpelling.equal (.list ⟨2⟩) (.list ⟨7⟩) = some true ∧
    ∃ t, sameSpelling.snapshot (.list ⟨2⟩) = .ok t ∧ sameSpelling.snapshot (.list ⟨7⟩) = .ok t := by
  have hleads : empty.Leads sameSpelling := .script .initial _ .refl
  have hclosed : sameSpelling.Closed := by decide
  have hnone : ∀ id, sameSpelling.NoString (.list id) := by
    rintro id a (h | ⟨b, -, hb⟩)
    · cases h
    · exact absurd (hclosed b _ hb) (Nat.not_lt_zero _)
  have inner (id none : ListId) (h : sameSpelling.items id = [.int (-12), .list none]) (hn : sameSpelling.items none = []) :
      sameSpelling.Unfolds (.list id) (.list [.int (-12), .list []]) :=
    .list (h ▸ .cons (.int (-12)) (.cons (.list (hn ▸ .nil)) .nil))
  have htwice : sameSpelling.Unfolds (.list ⟨2⟩)
      (.list [.list [.int (-12), .list []], .bool true, .list [.int (-12), .list []]]) :=
    .list (.cons (inner ⟨1⟩ ⟨0⟩ (by decide) (by decide)) (.cons (.bool true)
      (.cons (inner ⟨1⟩ ⟨0⟩ (by decide) (by decide)) .nil)))
  have hapart : sameSpelling.Unfolds (.list ⟨7⟩)
      (.list [.list [.int (-12), .list []], .bool true, .list [.int (-12), .list []]]) :=
    .list (.cons (inner ⟨4⟩ ⟨3⟩ (by decide) (by decide)) (.cons (.bool true)
      (.cons (inner ⟨6⟩ ⟨5⟩ (by decide) (by decide)) .nil)))
  have hspelling : sameSpelling.rendering (.list ⟨2⟩) = sameSpelling.rendering (.list ⟨7⟩) :=
    (rendering_eq_rendered htwice).trans (rendering_eq_rendered hapart).symm
  obtain ⟨hsound, hcontents, hequal⟩ := rendering_tells_contents
  have hsame := hcontents _ _ _ _ htwice.not_reachesLoop hapart.not_reachesLoop (hnone _) (hnone _) hspelling
  exact ⟨hleads, htwice.not_reachesLoop, hapart.not_reachesLoop, hnone _, hnone _, hspelling,
    (hequal _ (hsound _ hleads) _ _ htwice.not_reachesLoop hapart.not_reachesLoop (hnone _) (hnone _)).1 hspelling, hsame.2⟩

end Store

end SharedSeq
