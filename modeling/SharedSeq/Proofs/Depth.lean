import SharedSeq.Proofs.Growth
import SharedSeq.Proofs.Unfolding

/-!
# Depth

How deep lists are nested in a snapshot. The elements of a list are nested less deep than the list (`Unfolds.exists_of_mem`),
and a value that contains no loop goes down through lists that differ, so it is nested less deep than a reader can go
(`Unfolds.depth_le_maxDepth`).
-/

namespace SharedSeq

namespace Snapshot

mutual

/-- How deep lists are nested. -/
def depth : Snapshot → Nat
  | int _ | bool _ | string _ => 0
  | list items => depthAll items + 1

/-- How deep lists are nested in several snapshots. -/
def depthAll : List Snapshot → Nat
  | [] => 0
  | t :: ts => max (depth t) (depthAll ts)

end

theorem depth_le_depthAll {t : Snapshot} : ∀ {ts : List Snapshot}, t ∈ ts → t.depth ≤ depthAll ts
  | u :: us, h => by
    rw [depthAll]
    rcases List.mem_cons.1 h with rfl | h
    · exact Nat.le_max_left _ _
    · exact Nat.le_trans (depth_le_depthAll h) (Nat.le_max_right _ _)

end Snapshot

namespace Store

open Snapshot (depth depthAll)

variable {s : Store} {v : Value} {t : Snapshot}

theorem UnfoldsAll.exists_mem {vs : List Value} {ts : List Snapshot} (hv : v ∈ vs) :
    s.UnfoldsAll vs ts → ∃ t ∈ ts, s.Unfolds v t
  | .nil => by cases hv
  | .cons (t := t) h hs => by
    rcases List.mem_cons.1 hv with rfl | hv
    · exact ⟨t, List.mem_cons_self, h⟩
    · obtain ⟨u, hu, hunfolds⟩ := UnfoldsAll.exists_mem hv hs
      exact ⟨u, List.mem_cons_of_mem t hu, hunfolds⟩

/-- The elements of a list are nested less deep than the list. -/
theorem Unfolds.exists_of_mem {id : ListId} (h : s.Unfolds (.list id) t) (hv : v ∈ s.items id) :
    ∃ u, s.Unfolds v u ∧ u.depth < t.depth := by
  cases h with
  | list hall =>
    obtain ⟨u, hu, hunfolds⟩ := hall.exists_mem hv
    exact ⟨u, hunfolds, Nat.lt_succ_of_le (Snapshot.depth_le_depthAll hu)⟩

mutual

/-- A value goes down through lists that differ from each other and from those that are open, and perhaps into one that is
not there and holds nothing. -/
theorem Unfolds.depth_le {within : List ListId} {v : Value} {t : Snapshot} :
    s.Unfolds v t → (∀ a, s.ReachesList v a → a ∉ within) → t.depth ≤ s.unopened within + 1
  | .int _, _ | .bool _, _ | .string _, _ => Nat.zero_le _
  | @Unfolds.list _ id ts h, hfree => by
    have hloop := (Unfolds.list h).not_reachesLoop
    have hitems : ∀ v ∈ s.items id, ∀ a, s.ReachesList v a → a ∉ id :: within := by
      intro v hv a ha hmem
      rcases List.mem_cons.1 hmem with rfl | hmem
      · cases v with
        | list b => exact hloop ⟨a, .refl, b, hv, ha⟩
        | string b => exact ha.elim
        | int n => exact ha.elim
        | bool b => exact ha.elim
      · exact hfree a (ha.of_mem hv) hmem
    rw [depth]
    by_cases hid : s.Has (.list id)
    · have hlt := unopened_cons_lt hid (hfree id .refl)
      have hle := UnfoldsAll.depthAll_le h hitems
      omega
    · rw [items_eq_nil hid] at h
      cases h
      simp [depthAll]

theorem UnfoldsAll.depthAll_le {within : List ListId} {vs : List Value} {ts : List Snapshot} :
    s.UnfoldsAll vs ts → (∀ v ∈ vs, ∀ a, s.ReachesList v a → a ∉ within) → depthAll ts ≤ s.unopened within + 1
  | .nil, _ => Nat.zero_le _
  | .cons h hs, hfree => by
    rw [depthAll]
    exact Nat.max_le.2 ⟨Unfolds.depth_le h (hfree _ List.mem_cons_self),
      UnfoldsAll.depthAll_le hs fun v hv => hfree v (List.mem_cons_of_mem _ hv)⟩

end

theorem unopened_nil (s : Store) : s.unopened [] = s.lists.size := by
  rw [unopened, List.filter_eq_self.2 (by simp), List.length_range]

/-- A value that contains no loop is nested less deep than a reader can go. -/
theorem Unfolds.depth_le_maxDepth (h : s.Unfolds v t) : t.depth ≤ s.maxDepth := by
  have hle : t.depth ≤ s.unopened [] + 1 := h.depth_le fun _ _ => List.not_mem_nil
  rw [unopened_nil] at hle
  exact hle

end Store

end SharedSeq
