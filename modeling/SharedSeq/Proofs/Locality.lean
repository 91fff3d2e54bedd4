import SharedSeq.Equality
import SharedSeq.Proofs.Separation
import SharedSeq.Proofs.Written

/-!
# Readers look only inside

Snapshots, rendering and equality look at nothing but the containers of a value.

* A reader can go deeper than a value is nested that contains no loop. So it finds the same in every store in which the
  containers of the value are the same (`render_eq_of_keeps`, `equal_eq_of_keeps`), however many other lists there are.
* An operation that appends to one container leaves all others as they are (`Mutates.keeps`), and so does a step of a script
  or a command of a program (`View.Does.keeps`).
-/

namespace SharedSeq

/-! ## Readers -/

namespace Store

variable {s s' : Store} {v w : Value}

section Readers

theorem Keeps.of_mem {id : ListId} (h : s.Keeps s' (s.Contains (.list id))) (hv : v ∈ s.items id) :
    s.Keeps s' (s.Contains v) :=
  h.mono fun _ hc => hc.of_mem hv

theorem Keeps.list_eq_self {id : ListId} (h : s.Keeps s' (s.Contains (.list id))) : s'.list id = s.list id :=
  h.list_eq id (Reaches.refl : s.Reaches id id)

theorem Keeps.items_eq_self {id : ListId} (h : s.Keeps s' (s.Contains (.list id))) : s'.items id = s.items id :=
  congrArg Spine.toList h.list_eq_self

theorem Keeps.string_eq_self {id : StringId} (h : s.Keeps s' (s.Contains (.string id))) : s'.string id = s.string id :=
  h.string_eq id (.inl rfl)

theorem compareItems_congr {equal equal' : Value → Value → Option Bool} : ∀ {vs ws : List Value},
    (∀ v ∈ vs, ∀ w ∈ ws, equal v w = equal' v w) → compareItems equal vs ws = compareItems equal' vs ws
  | [], [], _ | [], _ :: _, _ | _ :: _, [], _ => rfl
  | v :: vs, w :: ws, h => by
    have hrest : compareItems equal vs ws = compareItems equal' vs ws :=
      compareItems_congr fun a ha b hb => h a (List.mem_cons_of_mem v ha) b (List.mem_cons_of_mem w hb)
    rw [compareItems, compareItems, h v List.mem_cons_self w List.mem_cons_self, hrest]

/-- Equality is the same at every depth that is deep enough, in every store that has the containers of the values. -/
theorem equalWithin_eq : ∀ {d d' : Nat} {v w : Value} {t : Snapshot}, s.Unfolds v t → s.Keeps s' (s.Contains v) →
    s.Keeps s' (s.Contains w) → t.depth ≤ d → t.depth ≤ d' → s'.equalWithin d' v w = s.equalWithin d v w
  | d, d', .int n, w, _, _, _, _, _, _ => by cases w <;> simp only [equalWithin]
  | d, d', .bool b, w, _, _, _, _, _, _ => by cases w <;> simp only [equalWithin]
  | d, d', .string a, w, _, _, hv, hw, _, _ => by
    cases w with
    | string b => simp only [equalWithin, hv.string_eq_self, hw.string_eq_self]
    | list b => simp only [equalWithin]
    | int n => simp only [equalWithin]
    | bool b => simp only [equalWithin]
  | 0, _, .list _, _, _, .list _, _, _, hd, _ => absurd hd (Nat.not_succ_le_zero _)
  | _ + 1, 0, .list _, _, _, .list _, _, _, _, hd' => absurd hd' (Nat.not_succ_le_zero _)
  | d + 1, d' + 1, .list a, .list b, t, h, hv, hw, hd, hd' => by
    have hitems : ∀ v ∈ s.items a, ∀ w ∈ s.items b, s'.equalWithin d' v w = s.equalWithin d v w := by
      intro v hmem w hmem'
      obtain ⟨u, hu, hlt⟩ := h.exists_of_mem hmem
      exact equalWithin_eq hu (hv.of_mem hmem) (hw.of_mem hmem') (by omega) (by omega)
    rw [equalWithin, equalWithin, hv.list_eq_self, hw.list_eq_self, hv.items_eq_self, hw.items_eq_self,
      compareItems_congr hitems]
  | d + 1, d' + 1, .list a, .string _, _, _, _, _, _, _ | d + 1, d' + 1, .list a, .int _, _, _, _, _, _, _
  | d + 1, d' + 1, .list a, .bool _, _, _, _, _, _, _ => by simp only [equalWithin]

theorem render_eq_of_keeps (h : s.Keeps s' (s.Contains v)) (hv : ¬ s.ReachesLoop v) : s'.render v = s.render v := by
  obtain ⟨t, ht⟩ := exists_unfolds_of_not_reachesLoop hv
  have ht' : s'.Unfolds v t := ht.congr (fun a ha => h.list_eq a ha) fun a ha => h.string_eq a ha
  rw [render_eq_bytes ht, render_eq_bytes ht']

theorem equal_eq_of_keeps (h : s.Keeps s' (s.Contains v)) (h' : s.Keeps s' (s.Contains w)) (hv : ¬ s.ReachesLoop v) :
    s'.equal v w = s.equal v w := by
  obtain ⟨t, ht⟩ := exists_unfolds_of_not_reachesLoop hv
  have ht' : s'.Unfolds v t := ht.congr (fun a ha => h.list_eq a ha) fun a ha => h.string_eq a ha
  exact equalWithin_eq ht h h' ht.depth_le_maxDepth ht'.depth_le_maxDepth

end Readers

/-! ## Operations that mutate a container -/

/-- An operation that appends to the container gets from one store to the other. -/
inductive Mutates (s : Store) : Value → Store → Prop
  | push (x : ListId) (v : Value) : Mutates s (.list x) (s.push x v)
  | extend (x y : ListId) : Mutates s (.list x) (s.extend x y)
  | extendCopy (x y : ListId) : Mutates s (.list x) (s.extendCopy x y)
  | appendBytes (x : StringId) (bytes : List UInt8) : Mutates s (.string x) (s.appendBytes x bytes)

/-- The readers find the same in both stores: the snapshot of each value and, for one without a loop, its rendering and how
it compares to any other. -/
structure ReadsSame (s s' : Store) (among : Value → Prop) : Prop where
  snapshot : ∀ v, among v → s'.snapshot v = s.snapshot v
  render : ∀ v, among v → ¬ s.ReachesLoop v → s'.render v = s.render v
  equal : ∀ v w, among v → among w → ¬ s.ReachesLoop v → s'.equal v w = s.equal v w

section Mutates

theorem keeps_appendItems {x : ListId} (vs : List Value) (hx : ¬ s.Contains v (.list x)) :
    s.Keeps (s.appendItems x vs) (s.Contains v) where
  list_eq _ hid := list_appendItems_of_ne s vs fun he => hx (he ▸ hid)
  string_eq _ _ := rfl

theorem keeps_appendBytes {x : StringId} (bytes : List UInt8) (hx : ¬ s.Contains v (.string x)) :
    s.Keeps (s.appendBytes x bytes) (s.Contains v) where
  list_eq _ _ := rfl
  string_eq _ hid := string_appendBytes_of_ne s bytes fun he => hx (he ▸ hid)

/-- A value that does not contain what is mutated keeps its containers. -/
theorem Mutates.keeps {c : Value} (h : s.Mutates c s') (hc : ¬ s.Contains v c) : s.Keeps s' (s.Contains v) := by
  cases h with
  | push x u => exact keeps_appendItems [u] hc
  | extend x y => exact s.extend_eq_appendItems x y ▸ keeps_appendItems _ hc
  | extendCopy x y => exact keeps_appendItems _ hc
  | appendBytes x bytes => exact keeps_appendBytes bytes hc

theorem readsSame_of_keeps {among : Value → Prop} (h : ∀ v, among v → s.Keeps s' (s.Contains v)) :
    s.ReadsSame s' among where
  snapshot v hv := (h v hv).snapshot_eq fun _ hc => hc
  render v hv hloop := render_eq_of_keeps (h v hv) hloop
  equal v w hv hw hloop := equal_eq_of_keeps (h v hv) (h w hw) hloop

end Mutates

end Store

/-! ## Steps -/

namespace View

variable {w w' : View} {fp : Footprint}

/-- A value that was there and does not contain what the step appends to. -/
def Untouched (w : View) (fp : Footprint) (v : Value) : Prop :=
  w.store.Has v ∧ ∀ c, w.Target fp c → ¬ w.store.Contains v c

/-- A step leaves the containers of an untouched value as they are. -/
theorem Does.keeps (h : w.Does fp w') (hw : w.Closed) {v : Value} (hv : w.Untouched fp v) :
    w.store.Keeps w'.store (w.store.Contains v) where
  list_eq _ hid := h.changes.list_eq (hid.owns hw.store hv.1) fun ht => hv.2 _ ht hid
  string_eq _ hid := h.changes.string_eq (hid.owns hw.store hv.1) fun ht => hv.2 _ ht hid

theorem Does.readsSame (h : w.Does fp w') (hw : w.Closed) : w.store.ReadsSame w'.store (w.Untouched fp) :=
  Store.readsSame_of_keeps fun _ hv => h.keeps hw hv

end View

namespace Store

/-- **Locality.** A mutated container matters only to the values that contain it. All others have the same snapshot as
before, also if that is to tell of a loop, and if they contain no loop, the same rendering and the same answer when they are
compared. So it is after every step of a script and every command of a program, whatever else these make, from a closed
state, as every one is that runs come to. -/
theorem readers_look_only_inside :
    (∀ (s s' : Store) (c : Value), s.Mutates c s' → s.ReadsSame s' fun v => ¬ s.Contains v c) ∧
    (∀ w : View, w.Arises → w.Closed) ∧
    (∀ st : Script.State, st.view.Closed →
      ∀ step, st.store.ReadsSame (st.step step).2.store (st.view.Untouched step.footprint)) ∧
    (∀ st : Program.State, st.view.Closed →
      ∀ rule cmd, st.session.store.ReadsSame (st.step rule cmd).state.session.store (st.view.Untouched cmd.footprint)) := by
  refine ⟨fun s s' c h => ?_, fun _ hw => hw.closed, fun st hst step => ?_, fun st hst rule cmd => ?_⟩
  · exact readsSame_of_keeps fun v hv => h.keeps hv
  · exact (Script.State.does_step st step).readsSame hst
  · exact (Program.State.does_step st rule cmd).readsSame hst

/-- A list of two lists that hold the same string. -/
def sharedText : Store :=
  ⟨#[.ofList [.list ⟨1⟩, .list ⟨2⟩], .ofList [.string ⟨0⟩], .ofList [.string ⟨0⟩]], #[.ofBytes [104, 105]]⟩

/-- The outer list is made an element of itself, and the inner ones read as before. -/
theorem sharedText_reads_same :
    (sharedText.push ⟨0⟩ (.list ⟨0⟩)).snapshot (.list ⟨0⟩) = .error .cyclicList ∧
    (sharedText.push ⟨0⟩ (.list ⟨0⟩)).snapshot (.list ⟨1⟩) = .ok (.list [.string [104, 105]]) ∧
    (sharedText.push ⟨0⟩ (.list ⟨0⟩)).render (.list ⟨1⟩) = sharedText.render (.list ⟨1⟩) ∧
    (sharedText.push ⟨0⟩ (.list ⟨0⟩)).equal (.list ⟨1⟩) (.list ⟨2⟩) = some true := by
  have houtside : ∀ v, v ≠ .list ⟨0⟩ → ¬ sharedText.Contains v (.list ⟨0⟩) := by
    intro v hv hcontains
    refine hcontains.induct (motive := (· ≠ .list ⟨0⟩)) hv ?_ rfl
    rintro ⟨i⟩ w - hw rfl
    have hi : i < 3 := index_lt_of_mem_items hw
    rcases (by omega : i = 0 ∨ i = 1 ∨ i = 2) with rfl | rfl | rfl <;> exact absurd hw (by decide)
  have hunfolds : sharedText.Unfolds (.list ⟨1⟩) (.list [.string [104, 105]]) := .list (.cons (.string ⟨0⟩) .nil)
  have hreads := readers_look_only_inside.1 sharedText _ _ (.push ⟨0⟩ (.list ⟨0⟩))
  have h₁ : ¬ sharedText.Contains (.list ⟨1⟩) (.list ⟨0⟩) := houtside _ (by decide)
  have h₂ : ¬ sharedText.Contains (.list ⟨2⟩) (.list ⟨0⟩) := houtside _ (by decide)
  refine ⟨?_, ?_, hreads.render _ h₁ hunfolds.not_reachesLoop, ?_⟩
  · exact snapshot_eq_error_iff.2 ⟨⟨0⟩, Reaches.refl, ⟨0⟩, (by decide : Value.list ⟨0⟩ ∈ _), .refl⟩
  · rw [hreads.snapshot _ h₁]
    exact snapshot_eq_ok_iff.2 hunfolds
  · rw [hreads.equal _ _ h₁ h₂ hunfolds.not_reachesLoop]
    decide

end Store

end SharedSeq
