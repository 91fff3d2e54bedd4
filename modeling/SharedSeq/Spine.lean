import SharedSeq.Sequence

/-!
# Spines

A `Spine` is the body of a list: a chain of elements, which grows only at its end, and its length,
which is kept beside the chain and not counted. A `Cursor` goes once through a chain and knows how
many elements are left. `Spine.toList` is the view of a spine, and a spine is `Sound` if its length is
that of the view; every operation makes sound spines.
-/

namespace SharedSeq

structure Spine (α : Type) where
  length : Nat
  chain : List α
  deriving DecidableEq, Repr

/-- One traversal of a chain. -/
structure Cursor (α : Type) where
  /-- The part of the chain that is not yet visited. -/
  rest : List α
  remaining : Nat
  deriving DecidableEq, Repr

namespace Cursor

variable {α : Type}

/-- The next element, if there is one, and the traversal after it. -/
def next (c : Cursor α) : Option α × Cursor α :=
  match c.rest with
  | [] => (none, c)
  | a :: rest => (some a, ⟨rest, c.remaining - 1⟩)

/-- The element after `n` others. -/
def nth : Nat → Cursor α → Option α
  | 0, c => c.next.1
  | n + 1, c =>
    match c.next with
    | (none, _) => none
    | (some _, c) => nth n c

/-- The traversal to its end: each element with the number that was left before it, and the number
that is left at the end. -/
def trail : Cursor α → List (Nat × α) × Nat
  | ⟨[], remaining⟩ => ([], remaining)
  | ⟨a :: rest, remaining⟩ =>
    let (visited, left) := trail ⟨rest, remaining - 1⟩
    ((remaining, a) :: visited, left)
termination_by c => c.rest.length

end Cursor

namespace Spine

variable {α : Type}

def empty : Spine α := ⟨0, []⟩

/-- A traversal from the front. -/
def cursor (s : Spine α) : Cursor α := ⟨s.chain, s.length⟩

def toList (s : Spine α) : List α := s.chain

def isEmpty (s : Spine α) : Bool := s.length == 0

/-- Links elements after the last one. -/
def append (s : Spine α) (as : List α) : Spine α := ⟨s.length + as.length, s.chain ++ as⟩

def push (s : Spine α) (a : α) : Spine α := s.append [a]

def ofList (as : List α) : Spine α := empty.append as

def clone (s : Spine α) : Spine α := ofList s.toList

def concat (s t : Spine α) : Spine α := (empty.append s.toList).append t.toList

def get (s : Spine α) (pos : Int64) : Except Fault α :=
  match locate .list s.length pos with
  | .error fault => .error fault
  | .ok index =>
    match s.cursor.nth index with
    | some a => .ok a
    | none => .error (.indexOutOfRange .list (Int64.ofNat index) s.length)

/-- The element that is reached by following `n` links. -/
def itemAt? (s : Spine α) (n : Nat) : Option α := (s.chain.drop n).head?

/-! ## The view -/

@[simp] theorem toList_empty : (empty : Spine α).toList = [] := rfl

@[simp] theorem toList_append (s : Spine α) (as : List α) : (s.append as).toList = s.toList ++ as := rfl

@[simp] theorem toList_push (s : Spine α) (a : α) : (s.push a).toList = s.toList ++ [a] := rfl

@[simp] theorem toList_ofList (as : List α) : (ofList as).toList = as := rfl

@[simp] theorem toList_clone (s : Spine α) : s.clone.toList = s.toList := rfl

@[simp] theorem toList_concat (s t : Spine α) : (s.concat t).toList = s.toList ++ t.toList := rfl

@[simp] theorem itemAt?_eq_getElem? (s : Spine α) (n : Nat) : s.itemAt? n = s.toList[n]? := by
  simp [itemAt?, toList, List.head?_drop]

/-- One traversal finds what the links lead to from the front for each position. -/
theorem pickFrom_toList (s : Spine α) (w : Walk) : w.pickFrom s.toList = w.pick s.itemAt? := by
  rw [Walk.pickFrom_eq_pick]
  exact congrArg w.pick (funext fun i => (itemAt?_eq_getElem? s i).symm)

/-! ## The length -/

/-- The length is the number of elements. -/
def Sound (s : Spine α) : Prop := s.length = s.toList.length

theorem sound_empty : (empty : Spine α).Sound := rfl

theorem Sound.append {s : Spine α} (h : s.Sound) (as : List α) : (s.append as).Sound := by
  simp only [Sound, toList_append, List.length_append] at *
  simp [Spine.append, h]

theorem Sound.push {s : Spine α} (h : s.Sound) (a : α) : (s.push a).Sound := h.append [a]

theorem sound_ofList (as : List α) : (ofList as).Sound := sound_empty.append as

theorem sound_clone (s : Spine α) : s.clone.Sound := sound_ofList s.toList

theorem sound_concat (s t : Spine α) : (s.concat t).Sound := (sound_empty.append s.toList).append t.toList

instance : Sequence (Spine α) α where
  container := .list
  length := length
  itemAt? := itemAt?
  items := toList
  ofItems := ofList
  -- a traversal for each position would be slow
  gather s w := w.pickFrom s.toList

end Spine

end SharedSeq
