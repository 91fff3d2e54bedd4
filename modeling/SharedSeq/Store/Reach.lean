import SharedSeq.Store

/-!
# Reachability

Lists refer to lists through their elements (`Store.Holds`). `Store.Reaches` follows such references any
number of times, and a list `Loops` if it comes back to itself after at least one. A store is `Acyclic`
if no list does.
-/

namespace SharedSeq.Store

variable {s : Store}

def Holds (s : Store) (a b : ListId) : Prop := Value.list b ∈ s.items a

/-- `b` is reached from `a` through elements of lists, `a` itself included. -/
inductive Reaches (s : Store) (a : ListId) : ListId → Prop
  | refl : Reaches s a a
  | tail {b c : ListId} : Reaches s a b → s.Holds b c → Reaches s a c

theorem Reaches.trans {a b c : ListId} (h : s.Reaches a b) (h' : s.Reaches b c) : s.Reaches a c := by
  induction h' with
  | refl => exact h
  | tail _ hold ih => exact ih.tail hold

theorem Holds.reaches {a b : ListId} (h : s.Holds a b) : s.Reaches a b := Reaches.refl.tail h

theorem Reaches.head {a b c : ListId} (h : s.Holds a b) (h' : s.Reaches b c) : s.Reaches a c := h.reaches.trans h'

/-- What a list reaches is the list itself or reached from one of its elements. -/
theorem Reaches.eq_or_holds {a c : ListId} (h : s.Reaches a c) : a = c ∨ ∃ b, s.Holds a b ∧ s.Reaches b c := by
  induction h with
  | refl => exact .inl rfl
  | @tail b c _ hold ih =>
    rcases ih with rfl | ⟨d, hd, hdb⟩
    · exact .inr ⟨c, hold, .refl⟩
    · exact .inr ⟨d, hd, hdb.tail hold⟩

/-- A list comes back to itself through one element or more. -/
def Loops (s : Store) (a : ListId) : Prop := ∃ b, s.Holds a b ∧ s.Reaches b a

def Acyclic (s : Store) : Prop := ∀ a, ¬ s.Loops a

/-- The list `a` is the value or is reached from it. -/
def ReachesList (s : Store) : Value → ListId → Prop
  | .list root, a => s.Reaches root a
  | _, _ => False

/-- The string `a` is the value or an element of a list that is reached from it. -/
def ReachesString (s : Store) (v : Value) (a : StringId) : Prop :=
  v = .string a ∨ ∃ b, s.ReachesList v b ∧ Value.string a ∈ s.items b

section Elements

variable {id : ListId} {v : Value} (hv : v ∈ s.items id)
include hv

/-- What is reached from an element is reached from the list. -/
theorem ReachesList.of_mem {a : ListId} (h : s.ReachesList v a) : s.ReachesList (.list id) a := by
  cases v with
  | list root => exact .head hv h
  | int n => exact h.elim
  | bool b => exact h.elim
  | string c => exact h.elim

theorem ReachesString.of_mem {a : StringId} (h : s.ReachesString v a) : s.ReachesString (.list id) a := by
  rcases h with rfl | ⟨b, hb, ha⟩
  · exact .inr ⟨id, .refl, hv⟩
  · exact .inr ⟨b, hb.of_mem hv, ha⟩

end Elements

/-- A list that contains itself is reached from the value. -/
def ReachesLoop (s : Store) (v : Value) : Prop := ∃ a, s.ReachesList v a ∧ s.Loops a

end SharedSeq.Store
