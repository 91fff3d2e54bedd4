import SharedSeq.Proofs.ScriptSteps
import SharedSeq.Proofs.Written

/-!
# Output that is cut off

A value is printed piece by piece to a sink that may have room for a part of it only. The sink is left with the beginning of
the line that fits, wherever in a number, a string, a separator or a bracket that ends, and writing fails exactly if something
was left out. Pieces without bytes always fit. After a failure the sink takes nothing more (`Writing.refuses_of_full`).
-/

namespace SharedSeq

/-! ## Sinks with little room -/

namespace Writing

/-- The bytes that are in the sink after an action. -/
def leaves (action : Writing Unit) (sink : Sink) : List UInt8 :=
  match action sink with
  | .ok _ sink | .error _ sink => sink.bytes

/-- Why an action stopped, if it did. -/
def stop? (action : Writing Unit) (sink : Sink) : Option Stop :=
  match action sink with
  | .ok _ _ => none
  | .error stop _ => some stop

section Room

variable (bs : List UInt8) (taken : Array UInt8) (room : Nat) (refusal : String)

/-- What fits is left in the sink. -/
theorem leaves_bytes : (bytes bs).leaves ⟨taken, some ⟨room, refusal⟩⟩ = taken.toList ++ bs.take room := by
  by_cases h : bs.length ≤ room
  · simp [leaves, bytes, h, Sink.bytes, List.take_of_length_le h]
  · simp [leaves, bytes, h, Sink.bytes]

/-- Writing fails exactly if not all fits. -/
theorem stop?_bytes : (bytes bs).stop? ⟨taken, some ⟨room, refusal⟩⟩ =
    if room < bs.length then some (.full refusal) else none := by
  by_cases h : bs.length ≤ room
  · simp [stop?, bytes, h, Nat.not_lt.2 h]
  · simp [stop?, bytes, h, Nat.lt_of_not_le h]

end Room

/-- A sink that has refused bytes takes none ever after. -/
theorem refuses_of_full {bs cs : List UInt8} {sink sink' : Sink} {refusal : String}
    (h : bytes bs sink = .error (.full refusal) sink') (hne : cs ≠ []) : bytes cs sink' = .error (.full refusal) sink' := by
  obtain ⟨taken, limit⟩ := sink
  cases limit with
  | none => cases h
  | some limit =>
    by_cases hroom : bs.length ≤ limit.room
    · simp [bytes, hroom] at h
    · simp only [bytes, hroom, if_false, EStateM.Result.error.injEq, Stop.full.injEq] at h
      obtain ⟨rfl, rfl⟩ := h
      simp [bytes, hne]

end Writing

namespace Store

/-- The rendering of a value and the end of the line. -/
def line (s : Store) (v : Value) : List UInt8 := s.rendering v ++ Text.encode ['\n']

end Store

/-! ## Scripts -/

namespace Script.State

/-- A step that prints to a sink with little room tells what the sink took, and whether it refused something. -/
theorem step_printCapped {st : State} {x : String} {v : Value} (hx : st.value x = .ok v) (hv : ¬ st.store.ReachesLoop v)
    (cap : Nat) :
    st.step (.printCapped x cap) =
      (.ok (.capped ((st.store.print v).leaves (.capped cap Answer.refusal))
        ((st.store.print v).stop? (.capped cap Answer.refusal)).isSome), st) := by
  obtain ⟨t, ht⟩ := Store.exists_unfolds_of_not_reachesLoop hv
  have hsnapshot : st.snapshot v = .ok t := mapError_eq_ok.2 (Store.snapshot_eq_ok_iff.2 ht)
  have hperform : st.perform (.printCapped x cap) =
      .ok (.capped ((st.store.print v).leaves (.capped cap Answer.refusal))
        ((st.store.print v).stop? (.capped cap Answer.refusal)).isSome, st) := by
    refine bind_eq_ok.2 ⟨v, hx, bind_eq_ok.2 ⟨t, hsnapshot, ?_⟩⟩
    unfold Writing.leaves Writing.stop?
    cases st.store.print v (.capped cap Answer.refusal) <;> rfl
  rw [step, hperform]

end Script.State

namespace Store

open Writing (leaves stop? leaves_bytes stop?_bytes refuses_of_full)

/-- **Cut output.** A value that contains no loop is printed to a sink with room for `cap` bytes. The sink is left with the
first `cap` bytes of the line after what it had, and with the whole line if that is shorter; printing fails exactly if the
line is longer, and always because the sink is full, with what the sink says of that. After that the sink takes nothing more.
A script is told the same. -/
theorem print_cut_at_capacity (s : Store) (v : Value) (hv : ¬ s.ReachesLoop v) (cap : Nat) (refusal : String) :
    (s.print v).leaves (.capped cap refusal) = (s.line v).take (min cap (s.line v).length) ∧
    ((s.print v).stop? (.capped cap refusal) = some (.full refusal) ↔ cap < (s.line v).length) ∧
    ((s.print v).stop? (.capped cap refusal) = none ↔ (s.line v).length ≤ cap) ∧
    (∀ taken, (s.print v).leaves ⟨taken, some ⟨cap, refusal⟩⟩ =
        taken.toList ++ (s.line v).take (min cap (s.line v).length) ∧
      (s.print v).stop? ⟨taken, some ⟨cap, refusal⟩⟩ =
        if cap < (s.line v).length then some (.full refusal) else none) ∧
    (∀ sink, s.print v (.capped cap refusal) = .error (.full refusal) sink →
      ∀ bs, bs ≠ [] → Writing.bytes bs sink = .error (.full refusal) sink) ∧
    ∀ (st : Script.State) (x : String), st.store = s → st.value x = .ok v →
      st.step (.printCapped x cap) =
        (.ok (.capped ((s.line v).take (min cap (s.line v).length)) (decide (cap < (s.line v).length))), st) := by
  have hprint : s.print v = Writing.bytes (s.line v) := print_eq_bytes hv
  have htake : (s.line v).take cap = (s.line v).take (min cap (s.line v).length) := List.take_eq_take_min
  have hleaves : ∀ taken refusal, (s.print v).leaves ⟨taken, some ⟨cap, refusal⟩⟩ =
      taken.toList ++ (s.line v).take (min cap (s.line v).length) := by
    intro taken refusal
    rw [hprint, leaves_bytes, htake]
  have hstop : ∀ taken refusal, (s.print v).stop? ⟨taken, some ⟨cap, refusal⟩⟩ =
      if cap < (s.line v).length then some (.full refusal) else none := by
    intro taken refusal
    rw [hprint, stop?_bytes]
  have hleft : ∀ refusal, (s.print v).leaves (.capped cap refusal) = (s.line v).take (min cap (s.line v).length) :=
    hleaves #[]
  have hends : ∀ refusal, (s.print v).stop? (.capped cap refusal) =
      if cap < (s.line v).length then some (.full refusal) else none := hstop #[]
  refine ⟨hleft refusal, ?_, ?_, fun taken => ⟨hleaves taken refusal, hstop taken refusal⟩, fun sink hfull bs hne => ?_,
    fun st x hst hx => ?_⟩
  · simp [hends]
  · simp [hends]
  · rw [hprint] at hfull
    exact refuses_of_full hfull hne
  · subst hst
    rw [Script.State.step_printCapped hx hv, hleft, hends]
    by_cases hcap : cap < (st.store.line v).length <;> simp [hcap]

/-- A list of a list, which holds a number and an empty string, and of a boolean. -/
def emptyWithin : Script.State :=
  (Script.State.initial.run [.assign "xs" (.list [.list [.int (-7), .string []], .bool true])]).2

theorem unfolds_emptyWithin :
    emptyWithin.store.Unfolds (.list ⟨1⟩) (.list [.list [.int (-7), .string []], .bool true]) :=
  .list (.cons (.list (.cons (.int (-7)) (.cons (.string ⟨0⟩) .nil))) (.cons (.bool true) .nil))

/-- A sink that is full before the empty string takes the separator in front of it and refuses the bracket behind it. With
room for the whole line, and no more, nothing is refused. -/
theorem emptyWithin_cut :
    ¬ emptyWithin.store.ReachesLoop (.list ⟨1⟩) ∧
    emptyWithin.store.line (.list ⟨1⟩) = Text.encode "[[-7, ], True]\n".toList ∧
    (emptyWithin.store.print (.list ⟨1⟩)).leaves (.capped 6 "full") = Text.encode "[[-7, ".toList ∧
    (emptyWithin.store.print (.list ⟨1⟩)).stop? (.capped 6 "full") = some (.full "full") ∧
    (emptyWithin.store.print (.list ⟨1⟩)).stop? (.capped 15 "full") = none := by
  have hv := unfolds_emptyWithin.not_reachesLoop
  have hline : emptyWithin.store.line (.list ⟨1⟩) = Text.encode "[[-7, ], True]\n".toList := by
    rw [line, rendering_eq_rendered unfolds_emptyWithin]
    decide
  obtain ⟨hleft, hfull, -⟩ := print_cut_at_capacity emptyWithin.store (.list ⟨1⟩) hv 6 "full"
  obtain ⟨-, -, hwhole, -⟩ := print_cut_at_capacity emptyWithin.store (.list ⟨1⟩) hv 15 "full"
  rw [hline] at hleft hfull hwhole
  refine ⟨hv, hline, hleft.trans (by decide), hfull.2 (by decide), hwhole.2 (by decide)⟩

end Store

end SharedSeq
