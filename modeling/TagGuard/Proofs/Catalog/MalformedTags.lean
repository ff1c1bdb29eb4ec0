import TagGuard.Proofs.Catalog.Session
import TagGuard.Proofs.Formula.Notation
import TagGuard.Proofs.Formula.Polarity
import TagGuard.Proofs.Text.Lowercase

namespace TagGuard

open Grammar Text

namespace Tags

variable {ts : Tags} {s t tag : String}

def Malformed (tag : String) : Prop :=
  tag = "" ∨ ∃ x ∈ tag.toList, isSeparator x ∨ isReserved x

instance : DecidablePred Malformed := fun tag =>
  decidable_of_iff (tag = "" ∨ tag.toList.any fun x => isSeparator x || isReserved x)
    (by simp [Malformed])

def wellFormed (ts : Tags) : Tags where
  toList := ts.toList.filter (¬Malformed ·)

theorem not_malformed_of_isWord (h : IsWord tag.toList) : ¬Malformed tag := by
  rintro (rfl | ⟨x, hx, hm⟩)
  · exact h.ne_nil rfl
  · simpa [isWordChar_eq_false_iff.mpr hm] using h.chars x hx

-- What makes a tag malformed is still there when case does not count.
theorem malformed_iff_foldCase : Malformed tag ↔
    foldCase tag = [] ∨ ∃ x ∈ foldCase tag, isSeparator x ∨ isReserved x := by
  have h : (∃ x ∈ foldCase tag, isSeparator x ∨ isReserved x) ↔
      ∃ x ∈ tag.toList, isSeparator x ∨ isReserved x :=
    exists_congr fun _ => and_congr_left fun hm =>
      mem_foldCase_iff (isWordChar_eq_false_iff.mpr hm)
  rw [h, foldCase_eq_nil_iff, Malformed]

theorem malformed_congr (h : sameIgnoringCase s t) : Malformed s ↔ Malformed t := by
  rw [malformed_iff_foldCase, sameIgnoringCase_iff.mp h, ← malformed_iff_foldCase]

theorem contains_wellFormed (h : ¬Malformed tag) :
    ts.wellFormed.contains tag = ts.contains tag := by
  apply Bool.eq_iff_iff.mpr
  simp only [contains_iff, wellFormed, List.mem_filter, decide_eq_true_eq]
  constructor
  · rintro ⟨t, ⟨ht, _⟩, he⟩
    exact ⟨t, ht, he⟩
  · rintro ⟨t, ht, he⟩
    exact ⟨t, ⟨ht, mt (malformed_congr he).mp h⟩, he⟩

theorem wellFormed_insert (h : Malformed tag) : (ts.insert tag).wellFormed = ts.wellFormed := by
  simp [wellFormed, h]

end Tags

open Tags

theorem Formula.eval_wellFormed {f : Formula} {ts : Tags} (h : f.Writable) :
    f.eval ts.wellFormed = f.eval ts :=
  eval_congr fun value hv => contains_wellFormed (not_malformed_of_isWord (h value hv))

theorem Rule.admits_wellFormed (r : Rule) (ts : Option Tags) :
    r.admits (ts.map wellFormed) = r.admits ts := by
  have ⟨_, hp⟩ := r.parsed
  cases ts
  case none => rfl
  case some => exact Formula.eval_wellFormed (Formula.writable_of_parse hp)

theorem Rule.admits_insert (r : Rule) {ts : Tags} {tag : String} (h : Malformed tag) :
    r.admits (some (ts.insert tag)) = r.admits (some ts) := by
  rw [← r.admits_wellFormed, Option.map_some, wellFormed_insert h, ← Option.map_some,
    r.admits_wellFormed]

namespace Catalog

-- A catalog sees only which rules admit the tags.
theorem answers_congr {ts us : Option Tags} (h : ∀ r : Rule, r.admits ts = r.admits us)
    (c : Catalog) : (∀ n, c.isEnabled n ts = c.isEnabled n us) ∧ c.enabled ts = c.enabled us := by
  constructor
  · intro n
    simp only [isEnabled, h]
  · simp only [enabled, h]

theorem malformed_tags_do_nothing :
    (∀ (source : String) (limits : Limits) (f : Formula),
      Formula.parse source limits = .ok f → ∀ ts : Tags, f.eval ts.wellFormed = f.eval ts) ∧
    (∀ (c : Catalog) (ts : Option Tags),
      (∀ n, c.isEnabled n (ts.map wellFormed) = c.isEnabled n ts) ∧
      c.enabled (ts.map wellFormed) = c.enabled ts) ∧
    ∀ (c : Catalog) (ts : Tags) (tag : String), Malformed tag →
      (∀ n, c.isEnabled n (some (ts.insert tag)) = c.isEnabled n (some ts)) ∧
      c.enabled (some (ts.insert tag)) = c.enabled (some ts) := by
  refine ⟨fun source limits f h ts => ?_, fun c ts => ?_, fun c ts tag h => ?_⟩
  · exact Formula.eval_wellFormed (Formula.writable_of_parse h)
  · exact answers_congr (fun r => r.admits_wellFormed ts) c
  · exact answers_congr (fun r => r.admits_insert h) c

-- Neither `b c` nor `B,` is the tag that the source does not want.
theorem malformed_tags_do_nothing_semicolons :
    Formula.parse "A.!B" {} = .ok (.and (.word "A") (.not (.word "B"))) ∧
    (ofDelimited "a; b c;B," ';').toList = ["a", "b c", "B,"] ∧
    (Formula.and (.word "A") (.not (.word "B"))).eval (ofDelimited "a; b c;B," ';') =
      (Formula.and (.word "A") (.not (.word "B"))).eval ⟨["a"]⟩ ∧
    (after [.add "p" "A.!B"]).enabled (some (Tags.insert ⟨["a"]⟩ "B,")) = ["p"] := by
  have hp : Formula.parse "A.!B" {} = .ok (.and (.word "A") (.not (.word "B"))) := by
    decide +kernel
  have hw : (ofDelimited "a; b c;B," ';').wellFormed = ⟨["a"]⟩ := by decide +kernel
  obtain ⟨he, _, hc⟩ := malformed_tags_do_nothing
  refine ⟨hp, by decide +kernel, ?_, ?_⟩
  · rw [← he _ _ _ hp, hw]
  · rw [(hc _ _ "B," (by decide)).right]
    decide +kernel

end Catalog
end TagGuard
