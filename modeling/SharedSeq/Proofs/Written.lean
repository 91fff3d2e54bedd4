import SharedSeq.Proofs.Depth
import SharedSeq.Rendering

/-!
# Rendering writes the bytes of the contents

A value is rendered piece by piece, and its sink may stop in the middle of any piece. To write one piece after another is
the same, on every sink, as to write all their bytes at once (`Writing.bytes_append`). So a value that contains no loop is
rendered by one writing of the bytes that its contents spell (`Snapshot.rendered`, `render_eq_bytes`), and printed by one
more byte (`print_eq_bytes`).
-/

namespace SharedSeq

/-! ## Pieces in a row -/

namespace Writing

theorem bytes_nil : bytes [] = pure () := by
  funext ⟨taken, limit⟩
  cases limit with
  | none => simp [bytes, pure, EStateM.pure]
  | some limit => simp [bytes, pure, EStateM.pure]

theorem taken_append (taken : Array UInt8) (as bs : List UInt8) : taken ++ as ++ bs = taken ++ (as ++ bs) := by
  apply Array.toList_inj.1
  simp

/-- Two pieces in a row are one piece of their bytes, wherever the sink stops. -/
theorem bytes_append (as bs : List UInt8) : (do bytes as; bytes bs) = bytes (as ++ bs) := by
  funext ⟨taken, limit⟩
  cases limit with
  | none => simp [bytes, bind, EStateM.bind, taken_append]
  | some limit =>
    obtain ⟨n, refusal⟩ := limit
    by_cases has : as.length ≤ n
    · by_cases hbs : bs.length ≤ n - as.length
      · have hall : as.length + bs.length ≤ n := by omega
        have hrest : n - as.length - bs.length = n - (as.length + bs.length) := by omega
        simp [bytes, bind, EStateM.bind, has, hbs, hall, hrest, taken_append]
      · have hall : ¬ as.length + bs.length ≤ n := by omega
        simp [bytes, bind, EStateM.bind, has, hbs, hall, taken_append, List.take_append, List.take_of_length_le has]
    · have hall : ¬ as.length + bs.length ≤ n := by omega
      have hnone : n - as.length = 0 := by omega
      simp [bytes, bind, EStateM.bind, has, hall, List.take_append, hnone]

end Writing

/-! ## The bytes of the contents -/

namespace Snapshot

mutual

/-- The rendering of a snapshot. -/
def rendered : Snapshot → List UInt8
  | int n => renderInt n
  | bool b => renderBool b
  | string bytes => bytes
  | list items => Text.encode ['['] ++ (renderedAll items ++ Text.encode [']'])

/-- The renderings of several snapshots, divided by a comma and a blank. -/
def renderedAll : List Snapshot → List UInt8
  | [] => []
  | [t] => rendered t
  | t :: u :: ts => rendered t ++ (Text.encode [',', ' '] ++ renderedAll (u :: ts))

end

end Snapshot

namespace Store

open Writing (bytes bytes_append bytes_nil)
open Snapshot (depth depthAll rendered renderedAll)

variable {s : Store}

mutual

/-- Rendering writes the bytes of the contents, at every depth that is deep enough. -/
theorem renderWithin_eq_bytes : ∀ {d : Nat} {v : Value} {t : Snapshot}, s.Unfolds v t → t.depth ≤ d →
    s.renderWithin d v = bytes t.rendered
  | _, _, _, .int n, _ => by rw [renderWithin, rendered]
  | _, _, _, .bool b, _ => by rw [renderWithin, rendered]
  | _, _, _, .string id, _ => by rw [renderWithin, rendered]
  | 0, _, _, .list _, hd => absurd hd (Nat.not_succ_le_zero _)
  | d + 1, _, _, .list h, hd => by
    have hitems := separated_eq_bytes h (Nat.le_of_succ_le_succ hd)
    rw [renderWithin, rendered, hitems, bytes_append, bytes_append]

theorem separated_eq_bytes : ∀ {d : Nat} {vs : List Value} {ts : List Snapshot}, s.UnfoldsAll vs ts → depthAll ts ≤ d →
    Writing.separated (Text.encode [',', ' ']) (s.renderWithin d) vs = bytes (renderedAll ts)
  | _, _, _, .nil, _ => bytes_nil.symm
  | _, _, _, .cons h .nil, hd => by
    rw [depthAll] at hd
    rw [Writing.separated, renderedAll, renderWithin_eq_bytes h (Nat.le_trans (Nat.le_max_left _ _) hd)]
  | d, _, _, @UnfoldsAll.cons _ v t _ _ h (@UnfoldsAll.cons _ v' t' vs ts h' hs), hd => by
    rw [depthAll] at hd
    have hfirst := renderWithin_eq_bytes h (Nat.le_trans (Nat.le_max_left _ _) hd)
    have hrest := separated_eq_bytes (.cons h' hs) (Nat.le_trans (Nat.le_max_right _ _) hd)
    rw [Writing.separated, renderedAll, hfirst, hrest, bytes_append, bytes_append]
    intro h
    cases h

end

section Whole

variable {v : Value} {t : Snapshot}

theorem render_eq_bytes (h : s.Unfolds v t) : s.render v = bytes t.rendered :=
  renderWithin_eq_bytes h h.depth_le_maxDepth

theorem rendering_eq_rendered (h : s.Unfolds v t) : s.rendering v = t.rendered := by
  rw [rendering, render_eq_bytes h]
  simp [Writing.written, bytes, Sink.unbounded, Sink.bytes]

/-- A value that contains no loop is printed by one writing of its rendering and the end of the line. -/
theorem print_eq_bytes (h : ¬ s.ReachesLoop v) : s.print v = bytes (s.rendering v ++ Text.encode ['\n']) := by
  obtain ⟨t, ht⟩ := exists_unfolds_of_not_reachesLoop h
  rw [print, render_eq_bytes ht, rendering_eq_rendered ht, bytes_append]

end Whole

end Store

end SharedSeq
