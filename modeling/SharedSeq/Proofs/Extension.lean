import Mathlib.Algebra.Group.Nat.Defs
import Mathlib.Logic.Function.Iterate
import SharedSeq.Proofs.Growth

/-!
# Extending a list, also by itself

To extend a list appends the elements that the other list had before, whether it is the same list or not, and changes
nothing else (`Store.Appended`).

* A list and itself: all elements are read first, and then they are appended, as if pushed one by one (`foldl_push`).
* A list and another one: the other one is read while the first one grows. `Store.drawn` counts the rounds. What is pushed in
  the rounds before does not move the elements that are still to be read (`drawn_eq_appendItems`), and after the last of them
  there is no further round (`drawn_of_ne`).
* A list that was read while it grows itself would have a next element in every round (`exists_drawn_self`), so that what it
  had has to be read first.
* To extend a list by itself `n` times gives `2 ^ n` copies of it (`iterate_extend_self`).
-/

namespace SharedSeq.Store

variable {s : Store} {dest src : ListId}

/-! ## Appending -/

/-- The list holds the values after what it held, no container is made, and every other one is as before. -/
structure Appended (s : Store) (dest : ListId) (vs : List Value) (s' : Store) : Prop where
  items : s'.items dest = s.items dest ++ vs
  length : (s'.list dest).length = (s.list dest).length + vs.length
  list_eq : ∀ id, id ≠ dest → s'.list id = s.list id
  string_eq : ∀ id, s'.string id = s.string id
  size_lists : s'.lists.size = s.lists.size
  size_strings : s'.strings.size = s.strings.size

section Append

theorem appended_appendItems (h : s.Has (.list dest)) (vs : List Value) : s.Appended dest vs (s.appendItems dest vs) where
  items := by rw [items, list_appendItems_self s vs h, Spine.toList_append, items]
  length := by rw [list_appendItems_self s vs h, Spine.append]
  list_eq _ hne := list_appendItems_of_ne s vs hne
  string_eq _ := rfl
  size_lists := size_lists_appendItems s dest vs
  size_strings := rfl

/-- To push values one by one is to append them. -/
theorem foldl_push (dest : ListId) : ∀ (vs : List Value) (s : Store),
    vs.foldl (fun s' v => s'.push dest v) s = s.appendItems dest vs
  | [], s => (appendItems_nil s dest).symm
  | v :: vs, s => by rw [List.foldl_cons, foldl_push dest vs, push, appendItems_appendItems, List.singleton_append]

end Append

/-! ## Reading while the list grows -/

/-- The store after `n` rounds of reading `src` while `dest` grows, if there was an element to read in each of them. -/
def drawn (s : Store) (dest src : ListId) : Nat → Option Store
  | 0 => some s
  | n + 1 => (s.drawn dest src n).bind fun s' => s'.draw dest src n

section Drawn

/-- What is appended in the rounds before does not move the elements that are still to be read. -/
theorem drawn_eq_appendItems : ∀ {n : Nat}, n ≤ (s.items src).length →
    s.drawn dest src n = some (s.appendItems dest ((s.items src).take n))
  | 0, _ => by rw [drawn, List.take_zero, appendItems_nil]
  | n + 1, hn => by
    have ih := drawn_eq_appendItems (Nat.le_of_succ_le hn)
    have hold : (s.items src)[n]? = some (s.items src)[n] := List.getElem?_eq_getElem hn
    have hnow := (prolongs_appendItems s dest ((s.items src).take n)).getElem? hold
    rw [drawn, ih, Option.bind_some, draw_eq_some_iff.2 ⟨_, hnow, rfl⟩, push, appendItems_appendItems, List.take_add_one,
      hold, Option.toList_some]

theorem drawn_length (s : Store) (dest src : ListId) :
    s.drawn dest src (s.items src).length = some (s.extend dest src) := by
  rw [drawn_eq_appendItems (Nat.le_refl _), List.take_length, extend_eq_appendItems]

/-- A list that does not grow itself has no element to read after those that it had. -/
theorem drawn_of_ne (hne : src ≠ dest) : ∀ k, s.drawn dest src ((s.items src).length + k + 1) = none
  | 0 => by
    have hsame : (s.extend dest src).items src = s.items src := by
      rw [extend_eq_appendItems]
      exact congrArg Spine.toList (list_appendItems_of_ne s (s.items src) hne)
    rw [drawn, drawn_length, Option.bind_some]
    exact draw_eq_none_iff.2 (Nat.le_of_eq (congrArg List.length hsame))
  | k + 1 => by rw [← Nat.add_assoc, drawn, drawn_of_ne hne k, Option.bind_none]

/-- A list that grows itself is ahead of its reader by as many elements as it had, in every round. -/
theorem exists_drawn_self (h : s.Has (.list dest)) (hne : s.items dest ≠ []) : ∀ n, ∃ s', s.drawn dest dest n = some s' ∧
    s'.Has (.list dest) ∧ (s'.items dest).length = (s.items dest).length + n
  | 0 => ⟨s, rfl, h, rfl⟩
  | n + 1 => by
    obtain ⟨s', hdrawn, hhas, hlength⟩ := exists_drawn_self h hne n
    have hpos : 0 < (s.items dest).length := List.length_pos_iff.2 hne
    obtain ⟨v, hnext⟩ : ∃ v, (s'.items dest)[n]? = some v := ⟨_, List.getElem?_eq_getElem (by omega)⟩
    refine ⟨s'.push dest v, ?_, hhas.appendItems dest _, ?_⟩
    · rw [drawn, hdrawn, Option.bind_some, draw_eq_some_iff]
      exact ⟨v, hnext, rfl⟩
    · rw [push, (appended_appendItems hhas [v]).items, List.length_append, hlength]
      rfl

end Drawn

/-! ## Extending -/

section Extend

theorem appended_extend (h : s.Has (.list dest)) (src : ListId) : s.Appended dest (s.items src) (s.extend dest src) := by
  rw [extend_eq_appendItems]
  exact appended_appendItems h (s.items src)

/-- To extend by a clone that was made before gives the same lists. -/
theorem list_extend_clone (h : s.Has (.list dest)) (src : ListId) {id : ListId} (hid : s.Has (.list id)) :
    ((s.cloneList src).2.extend dest (s.cloneList src).1).list id = (s.extend dest src).list id := by
  have hitems : (s.cloneList src).2.items (s.cloneList src).1 = s.items src := by
    rw [cloneList, items, list_newList_self, Spine.toList_clone, items]
  have hold : ∀ {a : ListId}, s.Has (.list a) → (s.cloneList src).2.list a = s.list a := list_newList_of_lt s _
  rw [extend_eq_appendItems, extend_eq_appendItems, hitems]
  by_cases he : id = dest
  · subst he
    have hlater : (s.cloneList src).2.Has (.list id) := h.newList _
    rw [list_appendItems_self _ _ hlater, list_appendItems_self s _ h, hold h]
  · rw [list_appendItems_of_ne _ _ he, list_appendItems_of_ne s _ he, hold hid]

theorem append_copies (n : Nat) (vs : List Value) :
    vs ++ (List.replicate (2 ^ n - 1) vs).flatten = (List.replicate (2 ^ n) vs).flatten := by
  have hpos : 0 < 2 ^ n := Nat.two_pow_pos n
  rw [← List.flatten_cons, ← List.replicate_succ, Nat.sub_add_cancel hpos]

/-- To extend a list by itself `n` times appends all but one of `2 ^ n` copies. -/
theorem iterate_extend_self (h : s.Has (.list dest)) : ∀ n : Nat,
    (fun s' : Store => s'.extend dest dest)^[n] s =
      s.appendItems dest (List.replicate (2 ^ n - 1) (s.items dest)).flatten
  | 0 => by
    rw [Function.iterate_zero_apply]
    exact (appendItems_nil s dest).symm
  | n + 1 => by
    have hpos : 0 < 2 ^ n := Nat.two_pow_pos n
    have hcount : 2 ^ (n + 1) - 1 = 2 ^ n - 1 + 2 ^ n := by
      rw [Nat.pow_succ]
      omega
    rw [Function.iterate_succ_apply', iterate_extend_self h n, extend_eq_appendItems, (appended_appendItems h _).items, append_copies,
      appendItems_appendItems, ← List.flatten_append, List.replicate_append_replicate, ← hcount]

/-- **Extension.** In a sound store, and every store that runs lead to is sound, to extend a list appends the old elements of
the other list in order, and changes nothing else, whatever the two hold and whether or not they are the same. The length
becomes the sum of the old lengths, which is also what a script is told. Extending by a clone of the other list, whether only
its spine is cloned or a list is made of it before, gives the same. So does reading all its elements first and pushing them
one by one, and so does reading it while the first one grows, for as many rounds as it had elements: after `n` of them its
first `n` elements are appended. A list that does not grow itself ends there, and one that does would never end. To extend a
list by itself `n` times gives `2 ^ n` copies of its elements. -/
theorem extension_appends_old_elements :
    (∀ s, empty.Leads s → s.Sound) ∧
    ∀ s : Store, s.Sound → ∀ dest, s.Has (.list dest) →
      (∀ src, s.Appended dest (s.items src) (s.extend dest src) ∧
        ((s.extend dest src).list dest).length = (s.list dest).length + (s.list src).length ∧
        s.extendCopy dest src = s.extend dest src ∧
        (∀ id, s.Has (.list id) →
          ((s.cloneList src).2.extend dest (s.cloneList src).1).list id = (s.extend dest src).list id) ∧
        (s.items src).foldl (fun s' v => s'.push dest v) s = s.extend dest src ∧
        s.drawn dest src (s.list src).length = some (s.extend dest src) ∧
        (∀ n ≤ (s.list src).length, ∃ s', s.drawn dest src n = some s' ∧ s.Appended dest ((s.items src).take n) s') ∧
        (src ≠ dest → ∀ n, (s.list src).length < n → s.drawn dest src n = none) ∧
        (∀ (st : Script.State) (x y : String), st.store = s → st.list x = .ok dest → st.list y = .ok src →
          st.step (.extend x y) =
            (.ok (.count ((s.list dest).length + (s.list src).length)), ⟨st.vars, s.extend dest src⟩)) ∧
        ∀ session : Session, session.store = s →
          session.call (.extendList dest src) = (.returned .nothing, { session with store := s.extend dest src })) ∧
      (s.items dest ≠ [] → ∀ n, (s.drawn dest dest n).isSome) ∧
      ∀ n, ∃ s', (fun s : Store => s.extend dest dest)^[n] s = s' ∧
        s.Appended dest (List.replicate (2 ^ n - 1) (s.items dest)).flatten s' ∧
        s'.items dest = (List.replicate (2 ^ n) (s.items dest)).flatten ∧
        (s'.list dest).length = 2 ^ n * (s.list dest).length := by
  refine ⟨fun s h => h.sound sound_empty, fun s hs dest hdest => ⟨fun src => ?_, fun hne n => ?_, fun n => ?_⟩⟩
  · have hlength : (s.list src).length = (s.items src).length := hs src
    have happended := appended_extend hdest src
    have hsum : ((s.extend dest src).list dest).length = (s.list dest).length + (s.list src).length := by
      rw [happended.length, hlength]
    refine ⟨happended, hsum, s.extendCopy_eq_extend dest src, fun id => list_extend_clone hdest src, ?_, ?_,
      fun n hn => ?_, fun hne n hn => ?_, fun st x y hst hx hy => ?_, fun session hsession => ?_⟩
    · rw [foldl_push, extend_eq_appendItems]
    · rw [hlength, drawn_length]
    · exact ⟨_, drawn_eq_appendItems (hlength ▸ hn), appended_appendItems hdest _⟩
    · obtain ⟨k, rfl⟩ := Nat.exists_eq_add_of_lt hn
      rw [hlength, drawn_of_ne hne k]
    · subst hst
      have hperform : st.perform (.extend x y) = .ok (st.grownList dest (st.store.extend dest src)) :=
        bind_eq_ok.2 ⟨dest, hx, bind_eq_ok.2 ⟨src, hy, rfl⟩⟩
      rw [Script.State.step, hperform, Script.State.grownList, hsum]
    · subst hsession
      rfl
  · obtain ⟨s', hdrawn, -⟩ := exists_drawn_self hdest hne n
    rw [hdrawn, Option.isSome_some]
  · have happended := appended_appendItems hdest (List.replicate (2 ^ n - 1) (s.items dest)).flatten
    have hitems := happended.items.trans (append_copies n (s.items dest))
    refine ⟨_, iterate_extend_self hdest n, happended, hitems, ?_⟩
    have hlength := hs.appendItems dest (List.replicate (2 ^ n - 1) (s.items dest)).flatten dest
    have hold : (s.list dest).length = (s.items dest).length := hs dest
    rw [hlength, hold, ← items, hitems]
    simp

end Extend

/-- A list that holds a number and itself, and a list that holds that one. -/
def heldByItself : Store :=
  (Script.State.initial.run
    [.assign "ring" (.list [.int 1]), .push "ring" (.var "ring"), .assign "outer" (.list [.var "ring"])]).2.store

/-- Extended by itself three times it has eight copies of its two elements, and the other list is as before. Extended by the
other one it holds itself once more. -/
theorem heldByItself_extended :
    empty.Leads heldByItself ∧ heldByItself.Has (.list ⟨0⟩) ∧ heldByItself.items ⟨0⟩ = [.int 1, .list ⟨0⟩] ∧
    (heldByItself.extend ⟨0⟩ ⟨1⟩).items ⟨0⟩ = [.int 1, .list ⟨0⟩, .list ⟨0⟩] ∧
    ∃ s', (fun s : Store => s.extend ⟨0⟩ ⟨0⟩)^[3] heldByItself = s' ∧
      s'.items ⟨0⟩ = (List.replicate 8 [.int 1, .list ⟨0⟩]).flatten ∧ s'.list ⟨1⟩ = heldByItself.list ⟨1⟩ := by
  have hleads : empty.Leads heldByItself := .script .initial _ .refl
  have hhas : heldByItself.Has (.list ⟨0⟩) := by decide
  have hring : heldByItself.items ⟨0⟩ = [.int 1, .list ⟨0⟩] := by decide
  have houter : heldByItself.items ⟨1⟩ = [.list ⟨0⟩] := by decide
  obtain ⟨hsound, hstore⟩ := extension_appends_old_elements
  obtain ⟨hextend, -, hcopies⟩ := hstore heldByItself (hsound _ hleads) ⟨0⟩ hhas
  obtain ⟨s', hs', happended, hitems, -⟩ := hcopies 3
  refine ⟨hleads, hhas, hring, ?_, s', hs', ?_, happended.list_eq ⟨1⟩ (by decide)⟩
  · rw [(hextend ⟨1⟩).1.items, hring, houter]
    rfl
  · rw [hitems, hring]
    rfl

end SharedSeq.Store
