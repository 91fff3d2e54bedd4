/-!
# Named things

A `Scope` gives names to values of one type. A name stands for one of them at a time.
-/

namespace SharedSeq

structure Scope (α : Type) where
  entries : List (String × α)
  deriving DecidableEq, Repr

namespace Scope

variable {α : Type}

def empty : Scope α := ⟨[]⟩

def find? (s : Scope α) (name : String) : Option α := s.entries.lookup name

def erase (s : Scope α) (name : String) : Scope α := ⟨s.entries.filter fun e => e.1 != name⟩

/-- Lets a name stand for something, in place of what it stood for. -/
def bind (s : Scope α) (name : String) (a : α) : Scope α := ⟨(name, a) :: (s.erase name).entries⟩

def bind? (s : Scope α) (name : Option String) (a : α) : Scope α :=
  match name with
  | none => s
  | some name => s.bind name a

@[simp] theorem find?_empty (name : String) : (empty : Scope α).find? name = none := rfl

@[simp] theorem find?_bind_self (s : Scope α) (name : String) (a : α) :
    (s.bind name a).find? name = some a := by
  simp [bind, find?]

theorem find?_erase_of_ne (s : Scope α) {name other : String} (h : other ≠ name) :
    (s.erase name).find? other = s.find? other := by
  obtain ⟨entries⟩ := s
  simp only [erase, find?]
  induction entries with
  | nil => rfl
  | cons e entries ih =>
    obtain ⟨key, a⟩ := e
    by_cases hk : key = name
    · subst hk
      have ho : (other == key) = false := by simpa using h
      simpa [List.lookup_cons, ho] using ih
    · cases ho : other == key <;> simp [hk, List.lookup_cons, ho, ih]

theorem find?_bind_of_ne (s : Scope α) {name other : String} (a : α) (h : other ≠ name) :
    (s.bind name a).find? other = s.find? other := by
  have ho : (other == name) = false := by simpa using h
  rw [← find?_erase_of_ne s h]
  simp [bind, find?, List.lookup_cons, ho]

@[simp] theorem find?_erase_self (s : Scope α) (name : String) : (s.erase name).find? name = none := by
  obtain ⟨entries⟩ := s
  simp only [erase, find?]
  induction entries with
  | nil => rfl
  | cons e entries ih =>
    obtain ⟨key, a⟩ := e
    by_cases hk : key = name
    · simpa [hk] using ih
    · have ho : (name == key) = false := by simpa using Ne.symm hk
      simpa [hk, List.lookup_cons, ho] using ih

/-- What is found after a name is bound is what it was bound to, or was found before. -/
theorem eq_or_find?_of_bind {s : Scope α} {name other : String} {a b : α} (h : (s.bind name a).find? other = some b) :
    b = a ∨ s.find? other = some b := by
  by_cases ho : other = name
  · subst ho
    rw [find?_bind_self] at h
    cases h
    exact .inl rfl
  · rw [find?_bind_of_ne _ _ ho] at h
    exact .inr h

theorem eq_or_find?_of_bind? {s : Scope α} {name : Option String} {other : String} {a b : α}
    (h : (s.bind? name a).find? other = some b) : b = a ∨ s.find? other = some b := by
  cases name with
  | none => exact .inr h
  | some name => exact eq_or_find?_of_bind h

/-- What is found after a name is forgotten was found before. -/
theorem find?_of_erase {s : Scope α} {name other : String} {a : α} (h : (s.erase name).find? other = some a) :
    s.find? other = some a := by
  by_cases ho : other = name
  · subst ho
    rw [find?_erase_self] at h
    cases h
  · rw [find?_erase_of_ne _ ho] at h
    exact h

end Scope

end SharedSeq
