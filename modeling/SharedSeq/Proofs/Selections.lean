import SharedSeq.Proofs.Growth
import SharedSeq.Proofs.Places
import SharedSeq.Proofs.Separation

/-!
# Selections share what they hold and nothing else

Joining, slicing and cloning make a container of items that others hold. `Shelf` is what lists and strings have in common
for this: how they are named, and that what they hold is a list of items which only appending to them changes.

* A selection is new, no other container has changed, and its items are those at the places that were selected
  (`Shelf.Selects`), one by one.
* What stands at two places that correspond is the same ever after (`Shelf.Selects.later`).
* A run appends to a container only if one of its steps names it as a target (`Store.LeadsSparing.keeps`). So a selection
  and its sources go their own ways (`Shelf.Selects.separate`).
-/

namespace SharedSeq

/-! ## Positions -/

namespace Walk

variable {r : Range} {w : Walk} {length : Nat}

theorem exists_ofRange (hstep : r.step ≠ 0) (length : Nat) : ∃ w, ofRange length r = .ok w := by
  cases h : ofRange length r with
  | ok w => exact ⟨w, rfl⟩
  | error fault => exact absurd (ofRange_eq_error_iff.1 h).1 hstep

theorem exists_word_of_mem_visit {i : Nat} : ∀ {n : Nat} {w : Walk}, i ∈ (w.visit n).1 → ∃ j : Int64, i = j.toNatClampNeg
  | 0, _, h => by cases h
  | n + 1, w, h => by
    rw [visit, next] at h
    cases hahead : w.ahead with
    | none =>
      simp only [hahead] at h
      cases h
    | some j =>
      simp only [hahead] at h
      by_cases hj : w.inWindow j
      · simp only [hj, if_true] at h
        rcases List.mem_cons.1 h with rfl | h
        · exact ⟨j, rfl⟩
        · exact exists_word_of_mem_visit h
      · simp only [hj] at h
        cases h

/-- What a slice visits lies in the container, also if that is longer than positions can tell. -/
theorem lt_of_mem_positions (h : ofRange length r = .ok w) {i : Nat} (hi : i ∈ w.positions) : i < length := by
  by_cases hlen : length < 2 ^ 63
  · have hstep : r.step ≠ 0 := by
      intro hzero
      rw [ofRange_eq_error_iff.2 ⟨hzero, rfl⟩] at h
      cases h
    obtain ⟨k, hk⟩ := List.mem_iff_getElem?.1 hi
    have hnext := next_after hlen hstep h k
    rw [← getElem?_positions hlen hstep h, hk] at hnext
    split at hnext
    · rename_i hvisits
      have hbounds := hvisits.bounds
      rw [Option.map_some, Option.some.injEq, Int.ofNat_eq_natCast] at hnext
      omega
    · cases hnext
  · obtain ⟨j, rfl⟩ := exists_word_of_mem_visit hi
    have hword := j.toNatClampNeg_lt
    omega

/-- The positions are the progression, as long as the length is a 64-bit integer. -/
theorem getElem?_positions_eq (hlen : length < 2 ^ 63) (hstep : r.step ≠ 0) (h : ofRange length r = .ok w) (k : Nat) :
    w.positions[k]? = if r.Visits length k then some (r.place length k).toNat else none := by
  have hnext := next_after hlen hstep h k
  rw [← getElem?_positions hlen hstep h] at hnext
  by_cases hvisits : r.Visits length k
  · rw [if_pos hvisits] at hnext ⊢
    obtain ⟨i, hi, hplace⟩ := Option.map_eq_some_iff.1 hnext
    rw [hi, ← hplace]
    rfl
  · rw [if_neg hvisits] at hnext ⊢
    exact Option.map_eq_none_iff.1 hnext

end Walk

/-- If there is something at each of them, nothing is left out. -/
theorem map_some_filterMap {α β : Type} {f : α → Option β} : ∀ {as : List α}, (∀ a ∈ as, (f a).isSome) →
    (as.filterMap f).map some = as.map f
  | [], _ => rfl
  | a :: as, h => by
    obtain ⟨b, hb⟩ := Option.isSome_iff_exists.1 (h a List.mem_cons_self)
    have hrest := map_some_filterMap fun c hc => h c (List.mem_cons_of_mem a hc)
    rw [List.filterMap_cons_some hb, List.map_cons, List.map_cons, hrest, hb]

theorem Walk.map_some_pickFrom {α : Type} {r : Range} {w : Walk} {items : List α} (h : ofRange items.length r = .ok w) :
    (w.pickFrom items).map some = w.positions.map fun i => items[i]? := by
  rw [pickFrom_eq_pick, pick]
  refine map_some_filterMap fun i hi => ?_
  simp [lt_of_mem_positions h hi]

theorem lt_of_locate {container : Container} {length i : Nat} {pos : Int64} (h : locate container length pos = .ok i) :
    i < length := by
  by_cases hlen : length < 2 ^ 63
  · exact ((locate_eq_ok_iff hlen).1 h).1
  · rw [locate] at h
    generalize (if pos < 0 then Int64.ofNat length + pos else pos) = index at h
    split at h
    · cases h
    · cases h
      have hword := index.toNatClampNeg_lt
      omega

/-! ## Runs that spare a container -/

namespace View

variable {w w' : View} {fp : Footprint} {c : Value}

/-- A step leaves a container as it is that is not its target. -/
theorem Does.keeps_of_not_target (h : w.Does fp w') (hc : w.store.Has c) (ht : ¬ w.Target fp c) :
    w.store.Keeps w'.store (· = c) where
  list_eq _ hid := h.changes.list_eq (hid ▸ hc) (hid ▸ ht)
  string_eq _ hid := h.changes.string_eq (hid ▸ hc) (hid ▸ ht)

end View

namespace Script.State

/-- No step of a script appends to the container. -/
def Spares (c : Value) : State → List Step → Prop
  | _, [] => True
  | st, step :: steps => ¬ st.view.Target step.footprint c ∧ Spares c (st.step step).2 steps

theorem keeps_of_spares {c : Value} : ∀ {st : State} (steps : List Step), st.store.Has c → Spares c st steps →
    st.store.Keeps (st.run steps).2.store (· = c) ∧ (st.run steps).2.store.Has c
  | st, [], hc, _ => ⟨.refl st.store _, hc⟩
  | st, step :: steps, hc, ⟨hstep, hsteps⟩ => by
    have hdoes := does_step st step
    obtain ⟨hkeeps, hhas⟩ := keeps_of_spares steps (hdoes.changes.has hc) hsteps
    exact ⟨(hdoes.keeps_of_not_target hc hstep).trans hkeeps, hhas⟩

end Script.State

namespace Program.State

/-- No command that is run appends to the container. -/
def Spares (c : Value) (rule : NullRule) : State → List Command → Prop
  | _, [] => True
  | st, cmd :: cmds => ¬ st.view.Target cmd.footprint c ∧
    match st.step rule cmd with
    | .ended _ _ => True
    | .answered _ st' => Spares c rule st' cmds

theorem keeps_of_spares {c : Value} {rule : NullRule} : ∀ {st : State} (cmds : List Command), st.session.store.Has c →
    Spares c rule st cmds → st.session.store.Keeps (st.run rule cmds).2.2.session.store (· = c) ∧
      (st.run rule cmds).2.2.session.store.Has c
  | st, [], hc, _ => ⟨.refl st.session.store _, hc⟩
  | st, cmd :: cmds, hc, ⟨hcmd, hcmds⟩ => by
    have hdoes := does_step st rule cmd
    have hkeeps := hdoes.keeps_of_not_target hc hcmd
    have hhas := hdoes.changes.has hc
    rw [run]
    generalize st.step rule cmd = progress at hkeeps hhas hcmds ⊢
    cases progress with
    | ended e st' => exact ⟨hkeeps, hhas⟩
    | answered a st' =>
      obtain ⟨hkeeps', hhas'⟩ := keeps_of_spares cmds hhas hcmds
      exact ⟨hkeeps.trans hkeeps', hhas'⟩

end Program.State

namespace Store

variable {s s' : Store} {c : Value}

/-- What a store becomes by runs of scripts and of programs, one after another, none of which appends to the container. -/
inductive LeadsSparing (c : Value) (s : Store) : Store → Prop
  | refl : LeadsSparing c s s
  | script (st : Script.State) (steps : List Script.Step) : LeadsSparing c s st.store → st.Spares c steps →
      LeadsSparing c s (st.run steps).2.store
  | program (rule : Program.NullRule) (st : Program.State) (cmds : List Program.Command) :
      LeadsSparing c s st.session.store → st.Spares c rule cmds → LeadsSparing c s (st.run rule cmds).2.2.session.store

theorem LeadsSparing.keeps (h : s.LeadsSparing c s') (hc : s.Has c) : s.Keeps s' (· = c) ∧ s'.Has c := by
  induction h with
  | refl => exact ⟨.refl s _, hc⟩
  | script st steps _ hspares ih =>
    obtain ⟨hkeeps, hhas⟩ := Script.State.keeps_of_spares steps ih.2 hspares
    exact ⟨ih.1.trans hkeeps, hhas⟩
  | program rule st cmds _ hspares ih =>
    obtain ⟨hkeeps, hhas⟩ := Program.State.keeps_of_spares cmds ih.2 hspares
    exact ⟨ih.1.trans hkeeps, hhas⟩

theorem Leads.has (h : s.Leads s') (hc : s.Has c) : s'.Has c := by
  induction h with
  | refl => exact hc
  | script st steps _ ih => exact (Script.State.runs st steps).induct (fun hdoes => hdoes.changes.has) ih
  | program rule st cmds _ ih => exact (Program.State.runs rule st cmds).induct (fun hdoes => hdoes.changes.has) ih

end Store

/-! ## Selections -/

open Store (Keeps Prolongs Grows)

/-- Containers that hold items in a row. -/
structure Shelf (ι α : Type) where
  name : ι → Value
  read : Store → ι → List α
  read_eq : ∀ {s s' : Store} {a : ι}, s.Keeps s' (· = name a) → read s' a = read s a
  isPrefix_read : ∀ {s s' : Store}, s.Prolongs s' → ∀ a, read s a <+: read s' a

namespace Shelf

/-- The lists, which hold values. -/
def lists : Shelf ListId Value where
  name := .list
  read := Store.items
  read_eq h := congrArg Spine.toList (h.list_eq _ rfl)
  isPrefix_read h := h.items

/-- The strings, which hold bytes. -/
def strings : Shelf StringId UInt8 where
  name := .string
  read s id := (s.string id).bytes
  read_eq h := congrArg Buffer.bytes (h.string_eq _ rfl)
  isPrefix_read h := h.bytes

variable {ι α : Type} {shelf : Shelf ι α} {s : Store} {origin : List (ι × Nat)} {made : ι × Store}

/-- The item at a place: in which container, and at which index. -/
def itemAt? (shelf : Shelf ι α) (s : Store) (place : ι × Nat) : Option α := (shelf.read s place.1)[place.2]?

/-- All places of a container, in order. -/
def places (shelf : Shelf ι α) (s : Store) (a : ι) : List (ι × Nat) := (List.range (shelf.read s a).length).map (a, ·)

/-- A container that was not there is made, all others are as before, and it holds what stands at the places. -/
structure Selects (shelf : Shelf ι α) (s : Store) (origin : List (ι × Nat)) (made : ι × Store) : Prop where
  fresh : ¬ s.Has (shelf.name made.1)
  has : made.2.Has (shelf.name made.1)
  grows : s.Grows made.2
  items : (shelf.read made.2 made.1).map some = origin.map (shelf.itemAt? s)

/-- In every later run, appending to other containers does not change the new one, and appending to others, as the new one,
does not change one that was there before. -/
structure Separate (shelf : Shelf ι α) (s : Store) (made : ι × Store) : Prop where
  new : ∀ s' s'', made.2.Leads s' → s'.LeadsSparing (shelf.name made.1) s'' → shelf.read s'' made.1 = shelf.read s' made.1
  old : ∀ a, s.Has (shelf.name a) → a ≠ made.1 ∧
    ∀ s' s'', made.2.Leads s' → s'.LeadsSparing (shelf.name a) s'' → shelf.read s'' a = shelf.read s' a

section Selects

/-- What corresponds is the same, at once and ever after. -/
theorem Selects.later (h : shelf.Selects s origin made) {s' : Store} (hlater : made.2.Leads s') {k : Nat} {place : ι × Nat}
    (hk : origin[k]? = some place) :
    ∃ a, shelf.itemAt? s place = some a ∧ shelf.itemAt? s' (made.1, k) = some a ∧ shelf.itemAt? s' place = some a := by
  have hitem : ((shelf.read made.2 made.1).map some)[k]? = some (shelf.itemAt? s place) := by
    rw [h.items, List.getElem?_map, hk]
    rfl
  rw [List.getElem?_map] at hitem
  obtain ⟨a, ha, hplace⟩ := Option.map_eq_some_iff.1 hitem
  have hsource := h.grows.prolongs.trans hlater.prolongs
  refine ⟨a, hplace.symm, ?_, ?_⟩
  · exact Store.getElem?_of_isPrefix (shelf.isPrefix_read hlater.prolongs _) ha
  · exact Store.getElem?_of_isPrefix (shelf.isPrefix_read hsource _) hplace.symm

theorem Selects.separate (h : shelf.Selects s origin made) : shelf.Separate s made where
  new s' s'' hlater hspares := shelf.read_eq (hspares.keeps (hlater.has h.has)).1
  old a ha := by
    refine ⟨fun he => h.fresh (he ▸ ha), fun s' s'' hlater hspares => ?_⟩
    exact shelf.read_eq (hspares.keeps (hlater.has (h.grows.has ha))).1

/-- A container holds what stands at all its places. -/
theorem map_some_read (shelf : Shelf ι α) (s : Store) (a : ι) :
    (shelf.read s a).map some = (shelf.places s a).map (shelf.itemAt? s) := by
  apply List.ext_getElem?
  intro k
  by_cases hk : k < (shelf.read s a).length
  · simp [places, itemAt?, hk]
  · simp [places, hk]

end Selects

end Shelf

/-! ## The operations -/

namespace Shelf

open Store (list_newList_self size_lists_newList grows_newList string_newString_self size_strings_newString grows_newString)

variable (s : Store)

/-- The slice succeeds, with a selection of the places that its walk visits. These are the progression, as long as the length
is a 64-bit integer. -/
def Slices {ι α : Type} (shelf : Shelf ι α) (a : ι) (r : Range) (result : Except Fault (ι × Store)) : Prop :=
  ∃ w made, Walk.ofRange (shelf.read s a).length r = .ok w ∧ result = .ok made ∧
    shelf.Selects s (w.positions.map (a, ·)) made ∧
    ((shelf.read s a).length < 2 ^ 63 → ∀ k, w.positions[k]? =
      if r.Visits (shelf.read s a).length k then some (r.place (shelf.read s a).length k).toNat else none)

section Lists

theorem selects_newList {spine : Spine Value} {origin : List (ListId × Nat)}
    (h : spine.toList.map some = origin.map (lists.itemAt? s)) : lists.Selects s origin (s.newList spine) where
  fresh hlt := absurd hlt (Nat.lt_irrefl _)
  has := by
    show s.lists.size < (s.newList spine).2.lists.size
    rw [size_lists_newList]
    omega
  grows := grows_newList s spine
  items := by
    show ((s.newList spine).2.list (s.newList spine).1).toList.map some = origin.map (lists.itemAt? s)
    rw [list_newList_self]
    exact h

theorem selects_concatLists (a b : ListId) :
    lists.Selects s (lists.places s a ++ lists.places s b) (s.concatLists a b) := by
  apply selects_newList
  rw [Spine.toList_concat, List.map_append, List.map_append, ← lists.map_some_read, ← lists.map_some_read]
  rfl

theorem selects_cloneList (a : ListId) : lists.Selects s (lists.places s a) (s.cloneList a) :=
  selects_newList s (lists.map_some_read s a)

theorem slices_sliceList (hs : s.Sound) (a : ListId) {r : Range} (hstep : r.step ≠ 0) :
    lists.Slices s a r (s.sliceList a r) := by
  obtain ⟨w, hw⟩ := Walk.exists_ofRange hstep (s.items a).length
  have hlength : Walk.ofRange (s.list a).length r = .ok w := (hs a).symm ▸ hw
  have hslice : Sequence.slice (s.list a) r = .ok (.ofList (w.pickFrom (s.items a))) := by
    simp only [Sequence.slice, Sequence.length, hlength]
    rfl
  refine ⟨w, _, hw, by rw [Store.sliceList, hslice], selects_newList s ?_, fun hlen k => ?_⟩
  · rw [Spine.toList_ofList, Walk.map_some_pickFrom hw, List.map_map]
    rfl
  · exact Walk.getElem?_positions_eq hlen hstep hw k

end Lists

section Strings

theorem selects_newString {buffer : Buffer} {origin : List (StringId × Nat)}
    (h : buffer.bytes.map some = origin.map (strings.itemAt? s)) : strings.Selects s origin (s.newString buffer) where
  fresh hlt := absurd hlt (Nat.lt_irrefl _)
  has := by
    show s.strings.size < (s.newString buffer).2.strings.size
    rw [size_strings_newString]
    omega
  grows := grows_newString s buffer
  items := by
    show ((s.newString buffer).2.string (s.newString buffer).1).bytes.map some = origin.map (strings.itemAt? s)
    rw [string_newString_self]
    exact h

theorem selects_concatStrings (a b : StringId) :
    strings.Selects s (strings.places s a ++ strings.places s b) (s.concatStrings a b) := by
  apply selects_newString
  rw [List.map_append, ← strings.map_some_read, ← strings.map_some_read, ← List.map_append, Buffer.bytes_concat]
  rfl

theorem selects_cloneString (a : StringId) : strings.Selects s (strings.places s a) (s.cloneString a) :=
  selects_newString s (strings.map_some_read s a)

theorem slices_sliceString (a : StringId) {r : Range} (hstep : r.step ≠ 0) :
    strings.Slices s a r (s.sliceString a r) := by
  obtain ⟨w, hw⟩ := Walk.exists_ofRange hstep (s.string a).bytes.length
  have hslice : Sequence.slice (s.string a) r = .ok (.ofBytes (w.pickFrom (s.string a).bytes)) := by
    have hlength : Walk.ofRange (Sequence.length (s.string a)) r = .ok w := hw
    simp only [Sequence.slice, hlength, Buffer.gather_eq_pickFrom]
    rfl
  refine ⟨w, _, hw, by rw [Store.sliceString, hslice], selects_newString s ?_, fun hlen k => ?_⟩
  · rw [Buffer.bytes_ofBytes, Walk.map_some_pickFrom hw, List.map_map]
    rfl
  · exact Walk.getElem?_positions_eq hlen hstep hw k

theorem charAt_eq_ok {b : Buffer} {pos : Int64} {i : Nat} {byte : UInt8} (h : locate .string b.length pos = .ok i)
    (hbyte : b.bytes[i]? = some byte) : b.charAt pos = .ok (.ofBytes [byte]) := by
  have hlocate : locate (Sequence.container Buffer) (Sequence.length b) pos = .ok i := h
  have hitem : Sequence.itemAt? b i = some byte := (b.itemAt?_eq_getElem? i).trans hbyte
  have hread : Sequence.item b pos = .ok byte := by
    unfold Sequence.item
    rw [hlocate]
    dsimp only
    rw [hitem]
  unfold Buffer.charAt
  rw [hread]

theorem selects_charAt {a : StringId} {pos : Int64} {i : Nat} (h : locate .string (s.string a).length pos = .ok i) :
    ∃ made, s.charAt a pos = .ok made ∧ strings.Selects s [(a, i)] made := by
  have hi : i < (s.string a).bytes.length := lt_of_locate h
  obtain ⟨byte, hbyte⟩ : ∃ byte, (s.string a).bytes[i]? = some byte := ⟨_, List.getElem?_eq_getElem hi⟩
  have hselects : strings.Selects s [(a, i)] (s.newString (.ofBytes [byte])) := by
    apply selects_newString
    show [some byte] = [(s.string a).bytes[i]?]
    rw [hbyte]
  refine ⟨_, ?_, hselects⟩
  unfold Store.charAt
  rw [charAt_eq_ok h hbyte]

end Strings

theorem shares_self_iff (v : Value) : v.shares v ↔ v.kind = .list ∨ v.kind = .string := by
  cases v <;> simp [Value.shares, Value.kind]

theorem step_resolve_ne_zero {b : Bounds} (h : b.step ≠ some 0) : b.resolve.step ≠ 0 := by
  obtain ⟨start, stop, step⟩ := b
  cases step with
  | none => simp [Bounds.resolve]
  | some n => exact fun hzero => h (congrArg some hzero)

/-- A list that holds a number, another list and itself. -/
def tied : Script.State :=
  (Script.State.initial.run
    [.assign "inner" (.list [.int 1]), .assign "outer" (.list [.int 7, .var "inner"]), .push "outer" (.var "outer")]).2

end Shelf

end SharedSeq
