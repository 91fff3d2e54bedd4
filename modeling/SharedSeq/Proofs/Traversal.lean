import SharedSeq.Proofs.Selections

/-!
# Three ways to an element

A list keeps its length beside its chain, and there are three ways to an element: a cursor that goes through the chain and
counts down, following links from the front, and a table of all elements from which a slice picks.

* `Spine.Made` are the spines that the operations make. They are the sound ones (`Spine.made_iff_sound`).
* One call of a cursor whose count is right leaves it right (`Cursor.Exact.next`), and so do any number of calls
  (`Cursor.Exact.after`). The count never goes below zero, and it is zero exactly where the elements end.
* So all three ways lead to the same element at every position that is located or that a slice visits
  (`Spine.Sound.reads_of_locate`, `Spine.Sound.picks`).
* A slice of images is the image of the slice (`Walk.pickFrom_map`).
-/

namespace SharedSeq

/-! ## Cursors -/

namespace Cursor

variable {α : Type}

/-- The traversal after `k` calls. -/
def after : Nat → Cursor α → Cursor α
  | 0, c => c
  | k + 1, c => (after k c).next.2

/-- The count is the number of elements that are not yet visited. -/
def Exact (c : Cursor α) : Prop := c.remaining = c.rest.length

section Calls

variable {c : Cursor α}

theorem next_fst (c : Cursor α) : c.next.1 = c.rest[0]? := by
  obtain ⟨rest, remaining⟩ := c
  cases rest <;> rfl

theorem rest_next (c : Cursor α) : c.next.2.rest = c.rest.drop 1 := by
  obtain ⟨rest, remaining⟩ := c
  cases rest <;> rfl

/-- A call that gives an element counts it off, and one that gives none changes nothing. -/
theorem Exact.next (h : c.Exact) :
    c.next.2.Exact ∧ ∀ a, c.next.1 = some a → c.next.2.remaining + 1 = c.remaining := by
  obtain ⟨rest, remaining⟩ := c
  unfold Exact at h ⊢
  cases rest with
  | nil => exact ⟨h, fun a ha => by cases ha⟩
  | cons b rest =>
    simp only [List.length_cons] at h
    constructor
    · simp only [Cursor.next]
      omega
    · intro a _
      simp only [Cursor.next]
      omega

theorem Exact.after (h : c.Exact) : ∀ k, (c.after k).Exact
  | 0 => h
  | k + 1 => (h.after k).next.1

theorem rest_after (c : Cursor α) : ∀ k, (c.after k).rest = c.rest.drop k
  | 0 => rfl
  | k + 1 => by rw [Cursor.after, rest_next, rest_after c k, List.drop_drop]

theorem next_after (c : Cursor α) (k : Nat) : (c.after k).next.1 = c.rest[k]? := by
  rw [next_fst, rest_after, List.getElem?_drop, Nat.add_zero]

/-- After `k` calls as many are left as were left at first, less `k`. -/
theorem Exact.remaining_after (h : c.Exact) {k : Nat} (hk : k ≤ c.remaining) : (c.after k).remaining + k = c.remaining := by
  have hleft : (c.after k).remaining = c.rest.length - k := by
    rw [h.after k, rest_after, List.length_drop]
  have hall : c.remaining = c.rest.length := h
  omega

/-- There is no next element exactly if none is left. -/
theorem Exact.next_eq_none_iff (h : c.Exact) (k : Nat) : (c.after k).next.1 = none ↔ (c.after k).remaining = 0 := by
  rw [h.after k, next_fst, List.getElem?_eq_none_iff]
  omega

/-- The traversal to the end gives what the calls give, one by one. -/
theorem snd_trail : ∀ (rest : List α) (remaining : Nat), (trail ⟨rest, remaining⟩).1.map Prod.snd = rest
  | [], _ => by rw [trail]; rfl
  | a :: rest, remaining => by
    rw [trail, List.map_cons, snd_trail rest (remaining - 1)]

theorem Exact.left_trail : ∀ {c : Cursor α}, c.Exact → c.trail.2 = 0
  | ⟨[], _⟩, h => by rw [trail]; exact h
  | ⟨a :: rest, remaining⟩, h => by
    rw [trail]
    exact left_trail (c := ⟨rest, remaining - 1⟩) h.next.1
termination_by c => c.rest.length

end Calls

end Cursor

/-! ## Spines -/

namespace Walk

variable {α β : Type}

/-- A slice of images is the image of the slice. -/
theorem pickFrom_map (w : Walk) (f : α → β) (items : List α) : w.pickFrom (items.map f) = (w.pickFrom items).map f := by
  rw [pickFrom_eq_pick, pickFrom_eq_pick, pick, pick, List.map_filterMap]
  simp only [List.getElem?_map]

end Walk

namespace Spine

variable {α : Type} {s t : Spine α}

/-- The spines that the operations make. The spine that extends another may be the same. -/
inductive Made : Spine α → Prop
  | empty : Made empty
  | push {s : Spine α} (a : α) : Made s → Made (s.push a)
  | extend {s t : Spine α} : Made s → Made t → Made (s.append t.toList)
  | concat {s t : Spine α} : Made s → Made t → Made (s.concat t)
  | slice {s t : Spine α} (r : Range) : Made s → Sequence.slice s r = .ok t → Made t
  | clone {s : Spine α} : Made s → Made s.clone
  | ofList (as : List α) : Made (ofList as)

section Made

/-- Every operation restores the length. -/
theorem Made.sound (h : s.Made) : s.Sound := by
  induction h with
  | empty => exact sound_empty
  | push a _ ih => exact ih.push a
  | extend _ _ ih _ => exact ih.append _
  | concat _ _ _ _ => exact sound_concat _ _
  | slice r _ hslice _ => exact (mem_of_slice hslice).1
  | clone _ _ => exact sound_clone _
  | ofList as => exact sound_ofList as

theorem Sound.eq_ofList (h : s.Sound) : s = ofList s.toList := by
  obtain ⟨length, chain⟩ := s
  have hlength : length = chain.length := h
  simp [ofList, Spine.append, Spine.empty, toList, hlength]

theorem made_iff_sound : s.Made ↔ s.Sound :=
  ⟨Made.sound, fun h => h.eq_ofList ▸ .ofList s.toList⟩

end Made

section Reading

theorem exact_cursor (h : s.Sound) : s.cursor.Exact := h

/-- The cursor, the links and the engine of sequences find the same element where a position is located, and the two ways to
fail behind `locate` are not taken. -/
theorem Sound.reads_of_locate (h : s.Sound) {pos : Int64} {i : Nat} (hi : locate .list s.length pos = .ok i) :
    ∃ a, s.toList[i]? = some a ∧ s.cursor.nth i = some a ∧ s.itemAt? i = some a ∧ s.get pos = .ok a ∧
      Sequence.item s pos = .ok a := by
  have hlt : i < s.toList.length := h ▸ lt_of_locate hi
  obtain ⟨a, ha⟩ : ∃ a, s.toList[i]? = some a := ⟨_, List.getElem?_eq_getElem hlt⟩
  have hnth : s.cursor.nth i = some a := (Cursor.nth_eq_getElem? i _).trans ha
  have hitem : s.itemAt? i = some a := (itemAt?_eq_getElem? s i).trans ha
  refine ⟨a, ha, hnth, hitem, ?_, ?_⟩
  · unfold get
    rw [hi]
    simp only [hnth]
  · have hlocate : locate (Sequence.container (Spine α)) (Sequence.length s) pos = .ok i := hi
    have hat : Sequence.itemAt? s i = some a := hitem
    unfold Sequence.item
    rw [hlocate]
    dsimp only
    rw [hat]

/-- The table of all elements holds one at each position that a slice visits, and it is the one that the links lead to. -/
theorem Sound.picks (h : s.Sound) {r : Range} (hstep : r.step ≠ 0) :
    ∃ w, Walk.ofRange s.length r = .ok w ∧ Sequence.slice s r = .ok (ofList (w.pickFrom s.toList)) ∧
      (∀ i ∈ w.positions, i < s.toList.length) ∧ (w.pickFrom s.toList).map some = w.positions.map s.itemAt? ∧
      w.pickFrom s.toList = w.pick s.itemAt? ∧ Sequence.gather s w = w.pick (Sequence.itemAt? s) := by
  obtain ⟨w, hw⟩ := Walk.exists_ofRange hstep s.length
  have hwalk : Walk.ofRange s.toList.length r = .ok w := h ▸ hw
  have hitems : s.itemAt? = fun i => s.toList[i]? := funext (itemAt?_eq_getElem? s)
  refine ⟨w, hw, ?_, fun i hi => Walk.lt_of_mem_positions hwalk hi, ?_, s.pickFrom_toList w, s.pickFrom_toList w⟩
  · simp only [Sequence.slice, Sequence.length, hw]
    rfl
  · rw [hitems]
    exact Walk.map_some_pickFrom hwalk

end Reading

end Spine

/-! ## Bytes as integers -/

namespace Buffer

/-- The list of the bytes of a string, each as an integer. -/
def ints (b : Buffer) : Spine Value := .ofList (b.bytes.map fun byte => .int (Int32.ofNat byte.toNat))

/-- To slice the list is to slice the string. -/
theorem slice_ints (b : Buffer) (r : Range) : Sequence.slice b.ints r = ints <$> Sequence.slice b r := by
  have hlength : Sequence.length b.ints = Sequence.length b := by
    show b.ints.length = b.bytes.length
    rw [ints, Spine.sound_ofList, Spine.toList_ofList, List.length_map]
  unfold Sequence.slice
  rw [hlength]
  cases Walk.ofRange (Sequence.length b) r with
  | error fault => rfl
  | ok w =>
    have hpick := w.pickFrom_map (fun byte : UInt8 => Value.int (Int32.ofNat byte.toNat)) b.bytes
    rw [← b.gather_eq_pickFrom] at hpick
    exact congrArg (fun vs => Except.ok (Spine.ofList vs)) hpick

end Buffer

/-! ## All ways agree -/

namespace Spine

/-- **Traversal.** Every list that a run leads to is made by the operations. The length of such a list is the number of
elements that a traversal gives. Each call of its cursor that gives an element counts it off, so that after `k` of them `k`
fewer are left, and there is no next element exactly if none is left. Following links, reading at a position and the engine
of sequences all find the element that the cursor gives there, as long as the length is a 64-bit integer; where a position is
located, whatever the length, none of them fails. A slice reads the table of all elements only where it has one, and picks
what following links for each position would give. So to slice the list of the bytes of a string is to slice the string. -/
theorem ways_to_elements_agree :
    (∀ s : Store, Store.empty.Leads s → ∀ id, (s.list id).Made) ∧
    (∀ (α : Type) (s : Spine α), s.Made →
      s.length = s.cursor.trail.1.length ∧ s.cursor.trail.2 = 0 ∧
      (∀ k, (s.cursor.trail.1.map Prod.snd)[k]? = (s.cursor.after k).next.1) ∧
      (∀ k ≤ s.length, (s.cursor.after k).remaining + k = s.length) ∧
      (∀ k a, (s.cursor.after k).next.1 = some a → (s.cursor.after (k + 1)).remaining + 1 = (s.cursor.after k).remaining) ∧
      (∀ k, (s.cursor.after k).next.1 = none ↔ (s.cursor.after k).remaining = 0) ∧
      (∀ i < s.length, ∃ a, (s.cursor.after i).next.1 = some a ∧ s.itemAt? i = some a ∧
        (s.length < 2 ^ 63 → ∀ pos : Int64, pos.toInt = i → s.get pos = .ok a)) ∧
      (∀ pos i, locate .list s.length pos = .ok i → ∃ a, (s.cursor.after i).next.1 = some a ∧ s.cursor.nth i = some a ∧
        s.itemAt? i = some a ∧ s.get pos = .ok a ∧ Sequence.item s pos = .ok a) ∧
      ∀ r : Range, r.step ≠ 0 → ∃ w, Walk.ofRange s.length r = .ok w ∧
        Sequence.slice s r = .ok (ofList (w.pickFrom s.toList)) ∧ (∀ i ∈ w.positions, i < s.toList.length) ∧
        (w.pickFrom s.toList).map some = w.positions.map s.itemAt? ∧ w.pickFrom s.toList = w.pick s.itemAt? ∧
        Sequence.gather s w = w.pick (Sequence.itemAt? s)) ∧
    ∀ (b : Buffer) (r : Range), Sequence.slice b.ints r = Buffer.ints <$> Sequence.slice b r := by
  refine ⟨fun s hleads id => made_iff_sound.2 (hleads.sound Store.sound_empty id), fun α s hmade => ?_, Buffer.slice_ints⟩
  have hs := hmade.sound
  have hcursor := exact_cursor hs
  have htrail : s.cursor.trail.1.map Prod.snd = s.toList := Cursor.snd_trail s.chain s.length
  have hnext : ∀ k, (s.cursor.after k).next.1 = s.toList[k]? := s.cursor.next_after
  refine ⟨?_, hcursor.left_trail, fun k => by rw [htrail, hnext], fun k hk => hcursor.remaining_after hk,
    fun k a ha => (hcursor.after k).next.2 a ha, hcursor.next_eq_none_iff, fun i hi => ?_, fun pos i hi => ?_,
    fun r hstep => hs.picks hstep⟩
  · have hlength := congrArg List.length htrail
    rw [List.length_map] at hlength
    rw [hlength]
    exact hs
  · obtain ⟨a, ha⟩ : ∃ a, s.toList[i]? = some a := ⟨_, List.getElem?_eq_getElem (hs ▸ hi)⟩
    refine ⟨a, (hnext i).trans ha, (itemAt?_eq_getElem? s i).trans ha, fun hlen pos hpos => ?_⟩
    exact (get_eq_ok_iff hs hlen).2 ⟨i, .inl hpos, ha⟩
  · obtain ⟨a, ha, hread⟩ := hs.reads_of_locate hi
    exact ⟨a, (hnext i).trans ha, hread⟩

/-- A list of two numbers, extended by itself. -/
def doubledPair : Spine Nat := ((empty.push 5).push 7).append ((empty.push 5).push 7).toList

/-- Its last element is found in each way, one is left before it, and a slice backwards in steps of three picks what the
links lead to. -/
theorem doubledPair_reads :
    doubledPair.Made ∧ doubledPair.length < 2 ^ 63 ∧ locate .list doubledPair.length (-1) = .ok 3 ∧
    doubledPair.get (-1) = .ok 7 ∧ doubledPair.get 3 = .ok 7 ∧ (doubledPair.cursor.after 3).remaining = 1 ∧
    ∃ w, Walk.ofRange doubledPair.length ⟨0, 4, -3⟩ = .ok w ∧ w.positions = [3, 0] ∧
      w.pickFrom doubledPair.toList = w.pick doubledPair.itemAt? ∧
      Sequence.slice doubledPair ⟨0, 4, -3⟩ = .ok (ofList [7, 5]) := by
  have hpair : ((empty.push 5).push 7 : Spine Nat).Made := (Made.empty.push 5).push 7
  have hmade : doubledPair.Made := hpair.extend hpair
  have hlast : locate .list doubledPair.length (-1) = .ok 3 := by decide
  obtain ⟨-, -, -, hleft, -, -, hitem, hlocated, hslice⟩ := ways_to_elements_agree.2.1 Nat doubledPair hmade
  obtain ⟨a, ha, -, hfront⟩ := hitem 3 (by decide)
  obtain rfl : 7 = a := Option.some.inj ha
  obtain ⟨b, hb, -, -, hend, -⟩ := hlocated (-1) 3 hlast
  obtain rfl : 7 = b := Option.some.inj hb
  have hcount : (doubledPair.cursor.after 3).remaining + 3 = 4 := hleft 3 (by decide)
  obtain ⟨w, hw, hmakes, -, -, hpick, -⟩ := hslice ⟨0, 4, -3⟩ (by decide)
  refine ⟨hmade, by decide, hlast, hend, hfront (by decide) 3 (by decide), by omega, w, hw, ?_, hpick, ?_⟩
  · cases hw
    decide
  · cases hw
    exact hmakes

end Spine

end SharedSeq
