import SharedSeq.Log.Filter

/-!
# Filters of one rule

The simplest filters are one rule: events whose target begins with some text are logged up to some level. A rule is written as
a level, which holds for every target, or as a target and a level. A text that is no filter stands for a rule as well, the
default.

* `LogFilter.OneRule` are the texts of these three forms, each with the target and the level of its rule.
* They are read as that rule (`LogFilter.OneRule.ofText_eq`): the word for a level has only letters, digits and perhaps a plus
  sign in it (`Directive.mem_of_level?`), so that there is nothing to cut it at, and no directive begins with white space
  (`Directive.isBlank_of_isFirst`).
* A rule enables an event by the beginning of its target and by its level (`LogFilter.enables_ofTarget_iff`).
-/

namespace SharedSeq

/-! ## Characters -/

namespace Text

theorem trim_eq_self {cs : List Char} (h : ∀ c ∈ cs, isBlank c = false) : trim cs = cs := by
  have hdrop : ∀ as : List Char, (∀ c ∈ as, isBlank c = false) → as.dropWhile isBlank = as
    | [], _ => rfl
    | c :: as, h => List.dropWhile_cons_of_neg (by simp [h c List.mem_cons_self])
  rw [trim, hdrop cs h, hdrop cs.reverse fun c hc => h c (List.mem_reverse.1 hc), List.reverse_reverse]

end Text

namespace Directive

open Text (isBlank)

variable {word : List Char} {level : Option Level} {c : Char}

section Characters

/-- No directive begins with white space. -/
theorem isBlank_of_isFirst (h : isFirst c = true) : isBlank c = false := by
  -- the blanks are few, so each of them is looked for among the letters and numbers
  have hblanks : ∀ p ∈ Text.blanks, ∀ i < p.2 + 1 - p.1, isFirst (Char.ofNat (p.1 + i)) = false := by decide +kernel
  rw [Bool.eq_false_iff]
  intro hblank
  obtain ⟨⟨low, high⟩, hmem, hrange⟩ := List.any_eq_true.1 hblank
  rw [Bool.and_eq_true, decide_eq_true_eq, decide_eq_true_eq] at hrange
  have hnot := hblanks (low, high) hmem (c.toNat - low) (by dsimp only; omega)
  rw [Nat.add_sub_of_le hrange.1, Char.ofNat_toNat, h] at hnot
  cases hnot

theorem isFirst_of_isAlphanum (h : c.isAlphanum = true) : isFirst c = true := by
  have halnum : Text.isAlphanumeric c = true := by
    rcases Bool.or_eq_true_iff.1 h with halpha | hdigit
    · exact Bool.or_eq_true_iff.2 (.inl (Text.isAlphabetic_of_isAlpha halpha))
    · exact Bool.or_eq_true_iff.2 (.inr (Text.isNumeric_of_isDigit hdigit))
  simp [isFirst, halnum]

/-- Only letters become letters of lower case. -/
theorem isAlpha_of_toLower (h : c.toLower.isAlpha = true) : c.isAlpha = true := by
  by_cases hupper : c.val ≥ 'A'.val ∧ c.val ≤ 'Z'.val
  · exact Bool.or_eq_true_iff.2 (.inl (decide_eq_true hupper))
  · have hsame : c.toLower = c := dif_neg hupper
    rw [hsame] at h
    exact h

end Characters

/-! ## Words for levels -/

section Words

theorem mem_of_number? {n : Nat} (h : number? word = some n) : ∀ c ∈ word, c = '+' ∨ c.isDigit = true := by
  have hdigits : ∀ {ds : List Char} {m : Nat}, (if !ds.isEmpty && ds.all Char.isDigit then some m else none) = some n →
      ∀ c ∈ ds, c.isDigit = true := by
    intro ds m h
    split at h
    · rename_i hall
      exact List.all_eq_true.1 (Bool.and_eq_true_iff.1 hall).2
    · cases h
  unfold number? at h
  dsimp only at h
  intro c hc
  split at h
  · rcases List.mem_cons.1 hc with rfl | hc
    · exact .inl rfl
    · exact .inr (hdigits h c hc)
  · exact .inr (hdigits h c hc)

/-- The word for a level is made of letters and digits, perhaps after a plus sign. -/
theorem mem_of_level? (h : level? word = some level) : ∀ c ∈ word, c = '+' ∨ c.isAlphanum = true := by
  intro c hc
  unfold level? at h
  split at h
  · rename_i hnumber
    exact (mem_of_number? hnumber c hc).imp_right fun hdigit => Bool.or_eq_true_iff.2 (.inr hdigit)
  · have hnames : (levels.all fun p => p.1.toList.all Char.isAlpha) = true := by decide
    obtain ⟨_, _, hlevels, -⟩ := List.lookup_eq_some_iff.1 h
    have hname := List.all_eq_true.1 hnames _ (hlevels ▸ List.mem_append_right _ List.mem_cons_self)
    have hlower := List.all_eq_true.1 hname c.toLower (by simpa using ⟨c, hc, rfl⟩)
    exact .inr (Bool.or_eq_true_iff.2 (.inl (isAlpha_of_toLower hlower)))

theorem ne_nil_of_level? (h : level? word = some level) : word ≠ [] := by
  rintro rfl
  have hnone : level? [] = none := by decide
  rw [hnone] at h
  cases h

/-- There is no sign in it that the reader of filters looks for. -/
theorem ne_sign_of_level? (h : level? word = some level) (hc : c ∈ word) : c ≠ '=' ∧ c ≠ '[' ∧ c ≠ ',' := by
  refine ⟨?_, ?_, ?_⟩
  all_goals
    rintro rfl
    exact absurd (mem_of_level? h _ hc) (by decide)

/-- A level alone is read as a rule for every target. -/
theorem read_of_level? (h : level? word = some level) (hplus : word.head? ≠ some '+') : read word = .ok (ofTarget [] level) := by
  obtain ⟨c, cs, rfl⟩ := List.exists_cons_of_ne_nil (ne_nil_of_level? h)
  have hfirst : isFirst c = true := by
    rcases mem_of_level? h c List.mem_cons_self with rfl | halnum
    · exact absurd rfl hplus
    · exact isFirst_of_isAlphanum halnum
  have hblank : ∀ a ∈ c :: cs, isBlank a = false := by
    intro a ha
    rcases mem_of_level? h a ha with rfl | halnum
    · decide
    · exact isBlank_of_isFirst (isFirst_of_isAlphanum halnum)
  have hother : ∀ a ∈ c :: cs, (a != '=' && a != '[') = true := by
    intro a ha
    obtain ⟨hequals, hbracket, -⟩ := ne_sign_of_level? h ha
    simp [hequals, hbracket]
  have hsigns : (c :: cs).dropWhile (fun a => a != '=' && a != '[') = [] := by
    rw [← List.append_nil (c :: cs), List.dropWhile_append_of_pos hother]
    rfl
  have hbare : bare (c :: cs) = ofTarget [] level := by
    unfold bare
    rw [h]
  rw [read, Text.trim_eq_self hblank]
  split
  · contradiction
  · rename_i heq
    exact absurd (List.cons.inj heq).1 (ne_sign_of_level? h List.mem_cons_self).2.1
  · rename_i heq
    obtain ⟨rfl, rfl⟩ := List.cons.inj heq
    simp only [hfirst, ↓reduceIte, hsigns, hbare]

/-- A target and a level are read as a rule for this target. -/
theorem read_of_target {cs : List Char} (hfirst : isFirst c = true) (hsigns : ∀ a ∈ c :: cs, a ≠ '=' ∧ a ≠ '[')
    (h : level? word = some level) : read (c :: cs ++ '=' :: word) = .ok (ofTarget (c :: cs) level) := by
  rw [read_directive hfirst (isBlank_of_isFirst hfirst) hsigns, withLevel, if_neg, h]
  · rfl
  · rw [List.isEmpty_iff]
    exact ne_nil_of_level? h

end Words

end Directive

/-! ## Rules -/

namespace LogFilter

open Directive (ofTarget level? isFirst)

/-- A rule lets events of a target and a level through: the target begins as it says, and the level is important enough. -/
def Admits (target : List Char) (level : Option Level) (eventTarget : String) (eventLevel : Level) : Prop :=
  target <+: eventTarget.toList ∧ ∃ l ∈ level, eventLevel.rank ≤ l.rank

instance (target : List Char) (level : Option Level) (eventTarget : String) (eventLevel : Level) :
    Decidable (Admits target level eventTarget eventLevel) := inferInstanceAs (Decidable (_ ∧ _))

/-- The text of a filter that is one rule, with the target and the level of this rule. -/
inductive OneRule : String → List Char → Option Level → Prop
  /-- A level holds for every target. There is no plus sign before it. -/
  | level {word : List Char} {level : Option Level} : level? word = some level → word.head? ≠ some '+' →
      OneRule (String.ofList word) [] level
  /-- A target and a level. -/
  | target {c : Char} {cs word : List Char} {level : Option Level} : isFirst c = true →
      (∀ a ∈ c :: cs, a ≠ '=' ∧ a ≠ '[' ∧ a ≠ ',') → level? word = some level →
      OneRule (String.ofList (c :: cs ++ '=' :: word)) (c :: cs) level
  /-- A text that is no filter stands for the default. -/
  | invalid {text : String} : read text = .error .invalid → OneRule text "pyc_runtime".toList (some .warn)

variable {text : String} {cs target : List Char} {level : Option Level} {d : Directive} {e : LogEvent}

section Rules

/-- A text without a comma is read as one directive. -/
theorem read_of_read (hne : cs ≠ []) (hcomma : ',' ∉ cs) (h : Directive.read cs = .ok d) :
    read (String.ofList cs) = .ok ⟨[d]⟩ := by
  have hparts : (parts (String.ofList cs).toList).filter (!·.isEmpty) = [cs] := by
    rw [String.toList_ofList, parts_of_not_mem hcomma]
    simp [hne]
  rw [read, hparts, List.mapM_cons, h]
  rfl

theorem ofText_of_read {f : LogFilter} (h : read text = .ok f) : ofText text = .ok f := by
  rw [ofText, h]

/-- A text of one rule is read as this rule. -/
theorem OneRule.ofText_eq (h : OneRule text target level) : ofText text = .ok ⟨[ofTarget target level]⟩ := by
  cases h with
  | level hlevel hplus =>
    have hcomma : ',' ∉ _ := fun hmem => (Directive.ne_sign_of_level? hlevel hmem).2.2 rfl
    exact ofText_of_read (read_of_read (Directive.ne_nil_of_level? hlevel) hcomma (Directive.read_of_level? hlevel hplus))
  | @target c cs word _ hfirst hsigns hlevel =>
    have hcomma : ',' ∉ c :: cs ++ '=' :: word := by
      intro hmem
      rcases List.mem_append.1 hmem with hmem | hmem
      · exact (hsigns _ hmem).2.2 rfl
      · rcases List.mem_cons.1 hmem with hsign | hmem
        · exact absurd hsign (by decide)
        · exact (Directive.ne_sign_of_level? hlevel hmem).2.2 rfl
    exact ofText_of_read (read_of_read (by simp) hcomma
      (Directive.read_of_target hfirst (fun a ha => ⟨(hsigns a ha).1, (hsigns a ha).2.1⟩) hlevel))
  | invalid hread =>
    rw [ofText, hread]
    rfl

theorem concerns_ofTarget_iff : (ofTarget target level).concerns e = true ↔ target <+: e.target.toList := by
  simp [Directive.concerns, ofTarget]

/-- A rule enables an event by the beginning of its target and by its level. -/
theorem enables_ofTarget_iff :
    (⟨[ofTarget target level]⟩ : LogFilter).enables e = true ↔ Admits target level e.target e.level := by
  unfold enables Admits
  by_cases hprefix : target <+: e.target.toList
  · have hfilter : [ofTarget target level].filter (·.concerns e) = [ofTarget target level] :=
      List.filter_cons_of_pos (concerns_ofTarget_iff.2 hprefix)
    rw [hfilter]
    cases level with
    | none => simp [mostSpecific?, ofTarget]
    | some l => simp [mostSpecific?, ofTarget, hprefix]
  · have hfilter : [ofTarget target level].filter (·.concerns e) = [] :=
      List.filter_cons_of_neg (mt concerns_ofTarget_iff.1 hprefix)
    rw [hfilter]
    simp [mostSpecific?, hprefix]

end Rules

end LogFilter

end SharedSeq
