import SharedSeq.Proofs.LenientReading
import SharedSeq.Proofs.Written

/-!
# What is displayed

A value is displayed as its rendering is read, all strings at once and leniently.

* Brackets and separators are bytes below 128, so no character goes across them: a rendering is well-formed exactly if all
  strings in it are (`Snapshot.wellFormed_rendered_iff`).
* So the displayed text is the rendering exactly if every string that is reached is well-formed
  (`Store.encode_display_eq_iff`).
* A string that is made of texts is displayed as these texts one after another (`Buffer.Spells.text_eq`).
-/

namespace SharedSeq

open Text (encode WellFormed)

/-! ## Strings in snapshots -/

namespace Snapshot

mutual

/-- All strings in the snapshot have the property. -/
def AllStrings (P : List UInt8 → Prop) : Snapshot → Prop
  | int _ | bool _ => True
  | string bytes => P bytes
  | list items => AllStringsOf P items

/-- All strings in the snapshots have the property. -/
def AllStringsOf (P : List UInt8 → Prop) : List Snapshot → Prop
  | [] => True
  | t :: ts => AllStrings P t ∧ AllStringsOf P ts

end

mutual

/-- A rendering is well-formed exactly if all strings in it are. -/
theorem wellFormed_rendered_iff : ∀ t : Snapshot, WellFormed t.rendered ↔ t.AllStrings WellFormed
  | .int n => by
    rw [rendered, AllStrings]
    exact iff_true_intro ⟨_, rfl⟩
  | .bool b => by
    rw [rendered, AllStrings]
    exact iff_true_intro ⟨_, rfl⟩
  | .string bytes => by rw [rendered, AllStrings]
  | .list items => by
    have hopen : Text.encode ['['] ++ (renderedAll items ++ Text.encode [']']) = [] ++ 91 :: (renderedAll items ++ 93 :: []) := rfl
    have hnil : WellFormed [] := ⟨[], rfl⟩
    rw [rendered, AllStrings, hopen, Text.wellFormed_append_cons_iff (by decide), Text.wellFormed_append_cons_iff (by decide),
      wellFormed_renderedAll_iff items]
    simp [hnil]

theorem wellFormed_renderedAll_iff : ∀ ts : List Snapshot, WellFormed (renderedAll ts) ↔ AllStringsOf WellFormed ts
  | [] => by
    rw [renderedAll, AllStringsOf]
    exact iff_true_intro ⟨[], rfl⟩
  | [t] => by
    rw [renderedAll, AllStringsOf, AllStringsOf, wellFormed_rendered_iff t, and_true]
  | t :: u :: ts => by
    have hcomma : t.rendered ++ (Text.encode [',', ' '] ++ renderedAll (u :: ts)) =
        t.rendered ++ 44 :: ([] ++ 32 :: renderedAll (u :: ts)) := rfl
    have hnil : WellFormed [] := ⟨[], rfl⟩
    rw [renderedAll, AllStringsOf, hcomma, Text.wellFormed_append_cons_iff (by decide),
      Text.wellFormed_append_cons_iff (by decide), wellFormed_rendered_iff t, wellFormed_renderedAll_iff (u :: ts)]
    simp [hnil]

end

end Snapshot

/-! ## Strings that are reached -/

namespace Store

open Snapshot (AllStrings AllStringsOf)

variable {s : Store} {v : Value} {t : Snapshot} {P : List UInt8 → Prop}

section Reached

/-- What a list reaches is reached from one of its elements. -/
theorem ReachesString.exists_mem {id : ListId} {a : StringId} (h : s.ReachesString (.list id) a) :
    ∃ v ∈ s.items id, s.ReachesString v a := by
  rcases h with h | ⟨b, hb, ha⟩
  · cases h
  · rcases Reaches.eq_or_holds hb with rfl | ⟨c, hc, hcb⟩
    · exact ⟨.string a, ha, .inl rfl⟩
    · exact ⟨.list c, hc, .inr ⟨b, hcb, ha⟩⟩

mutual

/-- The strings in what a value holds are those that are reached from it. -/
theorem Unfolds.allStrings_iff {v : Value} {t : Snapshot} :
    s.Unfolds v t → (t.AllStrings P ↔ ∀ a, s.ReachesString v a → P (s.string a).bytes)
  | .int n => by
    rw [AllStrings]
    exact iff_of_true trivial fun a ha => by rcases ha with h | ⟨_, h, _⟩ <;> cases h
  | .bool b => by
    rw [AllStrings]
    exact iff_of_true trivial fun a ha => by rcases ha with h | ⟨_, h, _⟩ <;> cases h
  | .string id => by
    rw [AllStrings]
    constructor
    · rintro hP a (h | ⟨_, h, _⟩)
      · cases h
        exact hP
      · cases h
    · intro h
      exact h id (.inl rfl)
  | .list hall => by
    rw [AllStrings, UnfoldsAll.allStringsOf_iff hall]
    constructor
    · intro h a ha
      obtain ⟨v, hv, hva⟩ := ha.exists_mem
      exact h v hv a hva
    · intro h v hv a ha
      exact h a (ha.of_mem hv)

theorem UnfoldsAll.allStringsOf_iff {vs : List Value} {ts : List Snapshot} :
    s.UnfoldsAll vs ts → (AllStringsOf P ts ↔ ∀ v ∈ vs, ∀ a, s.ReachesString v a → P (s.string a).bytes)
  | .nil => by
    rw [AllStringsOf]
    exact iff_of_true trivial fun v hv => by cases hv
  | .cons h hs => by
    rw [AllStringsOf, Unfolds.allStrings_iff h, UnfoldsAll.allStringsOf_iff hs, List.forall_mem_cons]

end

/-- The rendering is well-formed exactly if every string that is reached is. -/
theorem wellFormed_rendering_iff (h : ¬ s.ReachesLoop v) :
    WellFormed (s.rendering v) ↔ ∀ a, s.ReachesString v a → WellFormed (s.string a).bytes := by
  obtain ⟨t, ht⟩ := exists_unfolds_of_not_reachesLoop h
  rw [rendering_eq_rendered ht, Snapshot.wellFormed_rendered_iff, ht.allStrings_iff]

theorem encode_display_eq_iff (h : ¬ s.ReachesLoop v) :
    encode (s.display v) = s.rendering v ↔ ∀ a, s.ReachesString v a → WellFormed (s.string a).bytes := by
  rw [← wellFormed_rendering_iff h]
  exact Text.wellFormed_iff.symm

end Reached

end Store

/-! ## Strings that are made of texts -/

namespace Buffer

/-- The string is made of texts: of one text, by adding a text at its end, or by joining two such strings. The characters
are those of the texts in their order. -/
inductive Spells : Buffer → List Char → Prop
  | ofText (text : String) : Spells (ofText text) text.toList
  | append {b : Buffer} {cs : List Char} (text : String) :
      Spells b cs → Spells (b.append (Buffer.ofText text).bytes) (cs ++ text.toList)
  | concat {a b : Buffer} {cs ds : List Char} : Spells a cs → Spells b ds → Spells (a.concat b) (cs ++ ds)

theorem Spells.bytes_eq {b : Buffer} {cs : List Char} (h : b.Spells cs) : b.bytes = encode cs := by
  induction h with
  | ofText text => rfl
  | append text _ ih =>
    rw [bytes_append, ih, Text.encode_append, Buffer.ofText, bytes_ofBytes]
  | concat _ _ iha ihb => rw [bytes_concat, iha, ihb, Text.encode_append]

theorem Spells.text_eq {b : Buffer} {cs : List Char} (h : b.Spells cs) : b.text = cs := by
  rw [text, h.bytes_eq, Text.decodeLossy_encode]

end Buffer

namespace Store

/-- A string is displayed as it reads by itself. -/
theorem display_string (s : Store) (id : StringId) : s.display (.string id) = (s.string id).text := by
  rw [display, rendering_eq_rendered (.string id), Snapshot.rendered, Buffer.text]

/-- **Display.** Bytes are read leniently as `ReadsAs` says. A value that contains no loop is displayed as a text whose UTF-8
is its rendering exactly if every string that is reached from it is well-formed. Otherwise there is a replacement character
in the text, and its UTF-8 is not the rendering. A string that is made of texts is displayed as these, one after another,
and reads as these. -/
theorem displayed_as_rendered_iff :
    (∀ bs, Text.ReadsAs bs (Text.decodeLossy bs)) ∧
    (∀ (s : Store) (v : Value), ¬ s.ReachesLoop v →
      (encode (s.display v) = s.rendering v ↔ ∀ a, s.ReachesString v a → WellFormed (s.string a).bytes) ∧
      (¬ (∀ a, s.ReachesString v a → WellFormed (s.string a).bytes) →
        Text.replacement ∈ s.display v ∧ encode (s.display v) ≠ s.rendering v)) ∧
    ∀ (b : Buffer) (cs : List Char), b.Spells cs →
      b.text = cs ∧ ∀ (s : Store) (id : StringId), s.string id = b → s.display (.string id) = cs := by
  refine ⟨Text.readsAs_decodeLossy, fun s v hv => ⟨encode_display_eq_iff hv, fun hnot => ⟨?_, ?_⟩⟩, fun b cs hb => ?_⟩
  · apply Text.replacement_mem_decodeLossy
    rw [wellFormed_rendering_iff hv]
    exact hnot
  · rw [ne_eq, encode_display_eq_iff hv]
    exact hnot
  · refine ⟨hb.text_eq, fun s id hid => ?_⟩
    rw [display_string, hid, hb.text_eq]

/-- A list that holds the two bytes of one character in two strings. -/
def cutCharacter : Store :=
  (Script.State.initial.run [.assign "pair" (.list [.string [0xC3], .list [.string [0xA9]]])]).2.store

/-- The two strings do not make up the character. Joined with others, the character is what it was. -/
theorem cutCharacter_displayed :
    ¬ cutCharacter.ReachesLoop (.list ⟨1⟩) ∧
    ¬ (∀ a, cutCharacter.ReachesString (.list ⟨1⟩) a → WellFormed (cutCharacter.string a).bytes) ∧
    Text.replacement ∈ cutCharacter.display (.list ⟨1⟩) ∧
    encode (cutCharacter.display (.list ⟨1⟩)) ≠ cutCharacter.rendering (.list ⟨1⟩) ∧
    (((Buffer.ofText "caf").append (Buffer.ofText "é").bytes).concat (.ofText "😀")).text = ['c', 'a', 'f', 'é', '😀'] := by
  have hunfolds : cutCharacter.Unfolds (.list ⟨1⟩) (.list [.string [0xC3], .list [.string [0xA9]]]) :=
    .list (.cons (.string ⟨0⟩) (.cons (.list (.cons (.string ⟨1⟩) .nil)) .nil))
  have hcut : ¬ (∀ a, cutCharacter.ReachesString (.list ⟨1⟩) a → WellFormed (cutCharacter.string a).bytes) := by
    intro h
    exact absurd (h ⟨0⟩ (.inr ⟨⟨1⟩, .refl, by decide⟩)) (by decide)
  obtain ⟨-, hvalues, hstrings⟩ := displayed_as_rendered_iff
  obtain ⟨hreplaced, hdiffers⟩ := (hvalues cutCharacter (.list ⟨1⟩) hunfolds.not_reachesLoop).2 hcut
  have hspells := ((Buffer.Spells.ofText "caf").append "é").concat (.ofText "😀")
  exact ⟨hunfolds.not_reachesLoop, hcut, hreplaced, hdiffers, (hstrings _ _ hspells).1⟩

end Store

end SharedSeq
