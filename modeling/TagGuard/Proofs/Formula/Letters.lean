import TagGuard.Proofs.Formula.Parse
import TagGuard.Proofs.Grammar.Relettering

namespace TagGuard.Formula

open Grammar

variable {source : String} {limits : Limits} {a : Except SyntaxError Formula} {m : Char → Char}

-- The answer to a source with other letters in its words.
def mapAnswer (m : Char → Char) : Except SyntaxError Formula → Except SyntaxError Formula
  | .ok f    => .ok (f.mapChars m)
  | .error e => .error (e.mapFound m)

-- How long a source is does not depend on its letters, and neither do the places in it.
theorem Verdict.map (h : Verdict source limits a) (hm : Relettering m) :
    Verdict (source.map m) limits (mapAnswer m a) := by
  have hc : limits.checkLength (source.map m) = limits.checkLength source := by
    simp [Limits.checkLength]
  cases h
  case empty h      => exact .empty (by simp [h])
  case tooLong hl h => exact .tooLong hl (by simpa using h)
  case formula hl h =>
    refine .formula (hc.trans hl) ?_
    simpa using h.map hm
  case stops ne hl le h =>
    refine .stops (by simpa using ne) (hc.trans hl) (by simpa using le) ?_
    simpa [List.map_take, List.map_drop] using h.map hm

-- Words can be written in other letters, however many bytes these take.
theorem parse_map (hm : Relettering m) (source : String) (limits : Limits) :
    parse (source.map m) limits = mapAnswer m (parse source limits) :=
  parse_eq_of_verdict ((parse_eq_iff.mp rfl).map hm)

theorem parse_map_four_bytes :
    parse "(é a" { maxLength := some 4 } = .error ⟨3, .unexpected .closeParenthesis (some 'a')⟩ ∧
    parse "(é 😀" { maxLength := some 4 } =
      .error ⟨3, .unexpected .closeParenthesis (some '😀')⟩ := by
  have h : parse "(é a" { maxLength := some 4 } =
      .error ⟨3, .unexpected .closeParenthesis (some 'a')⟩ := by decide +kernel
  have hm : Relettering fun c => if c = 'a' then '😀' else c := .replace rfl rfl
  have hs : "(é a".map (fun c => if c = 'a' then '😀' else c) = "(é 😀" := by decide +kernel
  have hp := parse_map hm "(é a" { maxLength := some 4 }
  rw [hs, h] at hp
  exact ⟨h, hp⟩

end TagGuard.Formula
