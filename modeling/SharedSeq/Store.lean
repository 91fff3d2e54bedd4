import SharedSeq.Buffer
import SharedSeq.Value

/-!
# The store of lists and strings

A `Store` holds all lists and strings that were ever made. Elements refer to nested containers by
name, so that a container may be an element of several lists, twice of one list, or of itself.

There are four ways to change a store, and every operation is made of them: a new list, a new string
(`newList`, `newString`), and appending to one container (`appendItems`, `appendBytes`).
-/

namespace SharedSeq

/-- All lists and strings, each at the index of its name. -/
structure Store where
  lists : Array (Spine Value)
  strings : Array Buffer
  deriving DecidableEq, Repr

namespace Store

def empty : Store := ⟨#[], #[]⟩

def list (s : Store) (id : ListId) : Spine Value := s.lists[id.index]?.getD .empty

def items (s : Store) (id : ListId) : List Value := (s.list id).toList

def string (s : Store) (id : StringId) : Buffer := s.strings[id.index]?.getD .empty

/-- Only a list of the store has elements. -/
theorem index_lt_of_mem_items {s : Store} {id : ListId} {v : Value} (h : v ∈ s.items id) :
    id.index < s.lists.size := by
  apply Decidable.byContradiction
  intro hi
  simp [items, list, Array.getElem?_eq_none (Nat.le_of_not_lt hi)] at h

/-- A depth of nesting that is reached only by a list that contains itself: one level for each list,
and one more. -/
def maxDepth (s : Store) : Nat := s.lists.size + 1

/-! ## The four changes -/

def newList (s : Store) (spine : Spine Value) : ListId × Store :=
  (⟨s.lists.size⟩, { s with lists := s.lists.push spine })

def newString (s : Store) (buffer : Buffer) : StringId × Store :=
  (⟨s.strings.size⟩, { s with strings := s.strings.push buffer })

def appendItems (s : Store) (id : ListId) (vs : List Value) : Store :=
  { s with lists := s.lists.modify id.index (·.append vs) }

def appendBytes (s : Store) (id : StringId) (bytes : List UInt8) : Store :=
  { s with strings := s.strings.modify id.index (·.append bytes) }

section Changes

variable (s : Store)

@[simp] theorem list_newList_self (spine : Spine Value) :
    (s.newList spine).2.list (s.newList spine).1 = spine := by
  simp [newList, list]

theorem list_newList_of_lt (spine : Spine Value) {id : ListId} (h : id.index < s.lists.size) :
    (s.newList spine).2.list id = s.list id := by
  simp [newList, list, Array.getElem?_push, Nat.ne_of_lt h]

@[simp] theorem string_newList (spine : Spine Value) (id : StringId) :
    (s.newList spine).2.string id = s.string id := rfl

@[simp] theorem string_newString_self (buffer : Buffer) :
    (s.newString buffer).2.string (s.newString buffer).1 = buffer := by
  simp [newString, string]

theorem string_newString_of_lt (buffer : Buffer) {id : StringId} (h : id.index < s.strings.size) :
    (s.newString buffer).2.string id = s.string id := by
  simp [newString, string, Array.getElem?_push, Nat.ne_of_lt h]

@[simp] theorem list_newString (buffer : Buffer) (id : ListId) :
    (s.newString buffer).2.list id = s.list id := rfl

theorem list_appendItems_self {id : ListId} (vs : List Value) (h : id.index < s.lists.size) :
    (s.appendItems id vs).list id = (s.list id).append vs := by
  simp [appendItems, list, Array.getElem?_modify, Array.getElem?_eq_getElem h]

theorem list_appendItems_of_ne {id other : ListId} (vs : List Value) (h : other ≠ id) :
    (s.appendItems id vs).list other = s.list other := by
  have hi : id.index ≠ other.index := fun e => h (by cases id; cases other; simp_all)
  simp [appendItems, list, Array.getElem?_modify, hi]

@[simp] theorem string_appendItems (id : ListId) (vs : List Value) (other : StringId) :
    (s.appendItems id vs).string other = s.string other := rfl

theorem appendItems_nil (id : ListId) : s.appendItems id [] = s := by
  obtain ⟨lists, strings⟩ := s
  have hlists : lists.modify id.index (·.append []) = lists := by
    apply Array.ext_getElem?
    intro i
    rw [Array.getElem?_modify]
    split
    · cases lists[i]? with
      | none => rfl
      | some spine => simp [Spine.append]
    · rfl
  simp only [appendItems, hlists]

/-- To append twice is to append all at once. -/
theorem appendItems_appendItems (id : ListId) (vs ws : List Value) :
    (s.appendItems id vs).appendItems id ws = s.appendItems id (vs ++ ws) := by
  obtain ⟨lists, strings⟩ := s
  have hlists : (lists.modify id.index (·.append vs)).modify id.index (·.append ws) =
      lists.modify id.index (·.append (vs ++ ws)) := by
    apply Array.ext_getElem?
    intro i
    simp only [Array.getElem?_modify]
    split
    · cases lists[i]? with
      | none => rfl
      | some spine => simp [Spine.append, Nat.add_assoc]
    · rfl
  simp only [appendItems, hlists]

theorem string_appendBytes_self {id : StringId} (bytes : List UInt8) (h : id.index < s.strings.size) :
    (s.appendBytes id bytes).string id = (s.string id).append bytes := by
  simp [appendBytes, string, Array.getElem?_modify, Array.getElem?_eq_getElem h]

theorem string_appendBytes_of_ne {id other : StringId} (bytes : List UInt8) (h : other ≠ id) :
    (s.appendBytes id bytes).string other = s.string other := by
  have hi : id.index ≠ other.index := fun e => h (by cases id; cases other; simp_all)
  simp [appendBytes, string, Array.getElem?_modify, hi]

@[simp] theorem list_appendBytes (id : StringId) (bytes : List UInt8) (other : ListId) :
    (s.appendBytes id bytes).list other = s.list other := rfl

end Changes

/-! ## Operations on lists -/

def push (s : Store) (id : ListId) (v : Value) : Store := s.appendItems id [v]

theorem items_push_of_ne (s : Store) {dest src : ListId} (hne : dest ≠ src) (v : Value) :
    (s.push dest v).items src = s.items src :=
  congrArg Spine.toList (list_appendItems_of_ne s [v] hne.symm)

/-- One round of reading `src` while `dest` grows: the element at the index, as `src` is now, is pushed onto `dest`. -/
def draw (s : Store) (dest src : ListId) (n : Nat) : Option Store :=
  match (s.list src).itemAt? n with
  | some v => some (s.push dest v)
  | none => none

theorem draw_eq_some_iff {s s' : Store} {dest src : ListId} {n : Nat} :
    s.draw dest src n = some s' ↔ ∃ v, (s.items src)[n]? = some v ∧ s.push dest v = s' := by
  rw [draw, Spine.itemAt?_eq_getElem?, ← items]
  cases (s.items src)[n]? <;> simp

theorem draw_eq_none_iff {s : Store} {dest src : ListId} {n : Nat} :
    s.draw dest src n = none ↔ (s.items src).length ≤ n := by
  rw [draw, Spine.itemAt?_eq_getElem?, ← items, ← List.getElem?_eq_none_iff]
  cases (s.items src)[n]? <;> simp

/-- Reads `src` from the index on, round by round, until it has no next element. That there is an end to it is owed to
the list that grows being another one. -/
def drain (s : Store) (dest src : ListId) (hne : dest ≠ src) (n : Nat) : Store :=
  match h : s.draw dest src n with
  | none => s
  | some s' => s'.drain dest src hne (n + 1)
termination_by (s.items src).length - n
decreasing_by
  obtain ⟨v, hv, rfl⟩ := draw_eq_some_iff.1 h
  have hn : n < (s.items src).length := (List.getElem?_eq_some_iff.1 hv).1
  rw [items_push_of_ne s hne]
  omega

/-- Appends the elements of `src` to `dest`. If the two are one list, all of them are read before it grows. -/
def extend (s : Store) (dest src : ListId) : Store :=
  if h : dest = src then s.appendItems dest (s.items dest) else s.drain dest src h 0

/-- Appends the elements of a copy of the spine of `src` to `dest`. -/
def extendCopy (s : Store) (dest src : ListId) : Store :=
  s.appendItems dest (s.list src).clone.toList

section Extend

variable (s : Store) {dest src : ListId}

/-- What is pushed on the way does not move the elements that are still to be read. -/
theorem drain_eq_appendItems (hne : dest ≠ src) (n : Nat) :
    s.drain dest src hne n = s.appendItems dest ((s.items src).drop n) := by
  fun_induction drain s dest src hne n with
  | case1 s n h => rw [List.drop_of_length_le (draw_eq_none_iff.1 h), appendItems_nil]
  | case2 s n s' h ih =>
    obtain ⟨v, hv, rfl⟩ := draw_eq_some_iff.1 h
    obtain ⟨hn, rfl⟩ := List.getElem?_eq_some_iff.1 hv
    rw [ih, items_push_of_ne s hne, push, appendItems_appendItems, List.drop_eq_getElem_cons hn, List.singleton_append]

/-- Either way the elements that `src` had before are appended. -/
theorem extend_eq_appendItems (dest src : ListId) : s.extend dest src = s.appendItems dest (s.items src) := by
  rw [extend]
  split
  · rename_i h
    rw [h]
  · rw [drain_eq_appendItems, List.drop_zero]

theorem extendCopy_eq_extend (dest src : ListId) : s.extendCopy dest src = s.extend dest src := by
  rw [extend_eq_appendItems, extendCopy, Spine.toList_clone, items]

end Extend

def concatLists (s : Store) (a b : ListId) : ListId × Store :=
  s.newList ((s.list a).concat (s.list b))

def cloneList (s : Store) (id : ListId) : ListId × Store := s.newList (s.list id).clone

def sliceList (s : Store) (id : ListId) (r : Range) : Except Fault (ListId × Store) :=
  match Sequence.slice (s.list id) r with
  | .error fault => .error fault
  | .ok spine => .ok (s.newList spine)

/-- A list with a value as its only element. -/
def wrap (s : Store) (v : Value) : ListId × Store := s.newList (.ofList [v])

/-! ## Operations on strings -/

def concatStrings (s : Store) (a b : StringId) : StringId × Store :=
  s.newString ((s.string a).concat (s.string b))

def cloneString (s : Store) (id : StringId) : StringId × Store := s.newString (s.string id)

def sliceString (s : Store) (id : StringId) (r : Range) : Except Fault (StringId × Store) :=
  match Sequence.slice (s.string id) r with
  | .error fault => .error fault
  | .ok buffer => .ok (s.newString buffer)

/-- A new string of the one byte at a position. -/
def charAt (s : Store) (id : StringId) (pos : Int64) : Except Fault (StringId × Store) :=
  match (s.string id).charAt pos with
  | .error fault => .error fault
  | .ok buffer => .ok (s.newString buffer)

end Store

end SharedSeq
