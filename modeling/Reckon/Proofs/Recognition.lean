import Reckon.Proofs.Refit

/-! Reading accepts what the grammar spells, and nothing else. The tokens of a line fall apart into
chains in one way or in none; in the first case reading gives their trees, and in the second it
reports a token. -/
namespace Reckon.Recognition
open Grammar Reading
open Token (Settled)

/-- Reading the tokens of a line succeeds with the trees of the one way in which they fall apart
into chains, and reports a reading error if they do not. -/
theorem read_recognizes (valid : precision.Valid) (line : Int) (code : String)
    (scanned : Token.tokenize line code = .ok tokens) :
    (∀ trees, Reading.read precision tokens = .ok trees ↔
      ∃ pieces, Splits precision tokens pieces ∧ pieces.map Prod.snd = trees) ∧
    (∀ pieces others, Splits precision tokens pieces → Splits precision tokens others →
      pieces = others) ∧
    ((∀ pieces, ¬ Splits precision tokens pieces) →
      ∃ e, Reading.read precision tokens = .error (.reading e)) := by
  have settled := Token.tokenize_settled scanned
  refine ⟨?_, ?_, ?_⟩
  · intro trees
    exact read_ok_iff valid settled
  · intro pieces others split split'
    exact splits_unique valid split split'
  · intro apart
    cases result : Reading.read precision tokens with
    | ok trees =>
      obtain ⟨pieces, split, _⟩ := (read_ok_iff valid settled).1 result
      exact absurd split (apart pieces)
    | error reported =>
      obtain ⟨e, rfl⟩ := read_error valid settled result
      exact ⟨e, rfl⟩

def sample : List Token := [
  ⟨.ln, "ln", 1, 0, true⟩, ⟨.minus, "-", 1, 3, true⟩, ⟨.integer, "1", 1, 4, true⟩,
  ⟨.bar, "|", 1, 5, true⟩, ⟨.e, "e", 1, 6, true⟩, ⟨.bar, "|", 1, 7, true⟩]

/-- The first bar does not close anything, so it ends the argument and opens a second tree. -/
theorem read_recognizes_bars : Precision.Valid (some 3) ∧
    Token.tokenize 1 "ln -1|e|" = .ok sample ∧
    Reading.read (some 3) sample = .ok [
      .unary "ln" (.binary .sub (.value (.integer 0)) (.value (.integer 1))),
      .magnitude (.constant "e")] := by
  have valid : Precision.Valid (some 3) := Precision.valid_some_iff.2 (by decide)
  have scanned : Token.tokenize 1 "ln -1|e|" = .ok sample :=
    eq_ok_of_toOption (by decide +kernel)
  have one : Literal.integer "1" = .ok 1 := eq_ok_of_toOption (by decide +kernel)
  have logarithm : Spells (some 3) .operand (sample.take 3) (sample.drop 3)
      (.unary "ln" (.binary .sub (.value (.integer 0)) (.value (.integer 1)))) :=
    .unary (by decide)
      (.single (.negation rfl (.literal (.integer rfl one))) (by simp [sample, operators]))
  have magnitude : Spells (some 3) .operand (sample.drop 3) [] (.magnitude (.constant "e")) :=
    .magnitude rfl (.single (.constant (by decide)) (by simp [operators])) rfl
  have split := Splits.cons (.single logarithm (by simp [sample, operators]))
    (.cons (.single magnitude ends_nil) .nil)
  exact ⟨valid, scanned, ((read_recognizes valid 1 "ln -1|e|" scanned).1 _).2 ⟨_, split, rfl⟩⟩

end Reckon.Recognition
