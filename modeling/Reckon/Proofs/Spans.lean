import Mathlib.Data.List.Sort
import Mathlib.Data.List.TakeWhile
import Reckon.Proofs.Token

/-! The stretches of a line that its tokens stand for. Each is as long as its class of characters
lasts and none is left out, and because the classes have no character in common, there is only one
way to take a line apart like this: the one that scanning finds. -/
namespace Reckon

namespace Text

/-- Whether no run of ten code points meets one of the ranges. Both are taken in order, and a run
that a range has left behind is not looked at again. -/
def clear : List Nat → Ranges → Bool
  | _, [] => true
  | firsts, range :: ranges =>
    let ahead := firsts.dropWhile (· + 10 ≤ range.1)
    ahead.head?.all (range.2 < ·) && clear ahead ranges

theorem clear_apart {firsts : List Nat} (runs : firsts.Pairwise (· ≤ ·))
    (order : ranges.Pairwise fun range range' : Nat × Nat => range.1 ≤ range'.1)
    (clears : clear firsts ranges = true) :
    ∀ first ∈ firsts, ∀ range ∈ ranges, range.2 < first ∨ first + 10 ≤ range.1 := by
  induction ranges generalizing firsts with
  | nil => simp
  | cons range ranges ih =>
    intro first member range' member'
    simp only [clear, Bool.and_eq_true] at clears
    obtain ⟨here, later⟩ := clears
    obtain ⟨least, order⟩ := List.pairwise_cons.1 order
    rw [← List.takeWhile_append_dropWhile (p := (· + 10 ≤ range.1)) (l := firsts)] at member runs
    obtain ⟨_, runs, _⟩ := List.pairwise_append.1 runs
    rcases List.mem_append.1 member with behind | ahead
    · have passed : first + 10 ≤ range.1 := by
        simpa using List.mem_takeWhile_imp behind
      rcases List.mem_cons.1 member' with rfl | member'
      · exact .inr passed
      · exact .inr (passed.trans (least range' member'))
    · rcases List.mem_cons.1 member' with rfl | member'
      · generalize firsts.dropWhile (· + 10 ≤ range'.1) = left at here ahead runs
        cases left with
        | nil => simp at ahead
        | cons next left =>
          have first_le : next ≤ first := by
            rcases List.mem_cons.1 ahead with rfl | ahead
            · exact Nat.le_refl _
            · exact (List.pairwise_cons.1 runs).1 first ahead
          have : range'.2 < next := by simpa using here
          omega
      · exact ih runs order later first ahead range' member'

/-- The tables of digits and of letters have no code point in common. -/
theorem zeros_apart : ∀ first ∈ zeros, ∀ range ∈ letters,
    range.2 < first ∨ first + 10 ≤ range.1 := by
  have runs : zeros.Pairwise (· ≤ ·) := by decide +kernel
  have order : (letters.map Prod.fst).IsChain (· ≤ ·) := by decide +kernel
  have clears : clear zeros letters = true := by decide +kernel
  exact clear_apart runs (List.pairwise_map.1 (List.isChain_iff_pairwise.1 order)) clears

theorem isDecimal_iff :
    isDecimal c = true ↔ ∃ first ∈ zeros, first ≤ c.toNat ∧ c.toNat < first + 10 := by
  simp [isDecimal, digitValue?]

theorem isLetter_of_isDecimal (decimal : isDecimal c = true) : isLetter c = false := by
  obtain ⟨first, member, low, high⟩ := isDecimal_iff.1 decimal
  apply Bool.eq_false_iff.2
  intro letter
  obtain ⟨range, within, low', high'⟩ := Ranges.has_iff.1 letter
  have := zeros_apart first member range within
  omega

end Text

namespace Token

/-- The characters that scanned tokens of a kind are made of. -/
def Kind.accepts : Kind → Char → Bool
  | .operator => isOperator
  | .number => isNumeric
  | .word => Text.isLetter
  | _ => fun _ => false

def isAccepted (c : Char) : Bool := isOperator c || isNumeric c || Text.isLetter c

theorem accepts_iff {kind : Kind} : kind.accepts c = true ↔
    kind = .operator ∧ isOperator c = true ∨ kind = .number ∧ isNumeric c = true ∨
      kind = .word ∧ Text.isLetter c = true := by
  cases kind <;> simp [Kind.accepts]

theorem isAccepted_iff : isAccepted c = true ↔ ∃ kind : Kind, kind.accepts c = true := by
  simp only [isAccepted, Bool.or_eq_true, accepts_iff, exists_or, exists_eq_left, or_assoc]

theorem operator_alone (operator : isOperator c = true) :
    isNumeric c = false ∧ Text.isLetter c = false := by
  simp only [isOperator, operator?] at operator
  split at operator <;> first | decide +kernel | cases operator

theorem isLetter_of_isNumeric (numeric : isNumeric c = true) : Text.isLetter c = false := by
  simp only [isNumeric, Bool.or_eq_true, decide_eq_true_eq] at numeric
  rcases numeric with decimal | rfl
  · exact Text.isLetter_of_isDecimal decimal
  · decide +kernel

/-- A character belongs to one class at most. -/
theorem accepts_unique {kind kind' : Kind} (accepts : kind.accepts c = true)
    (accepts' : kind'.accepts c = true) : kind = kind' := by
  rcases accepts_iff.1 accepts with ⟨rfl, operator⟩ | ⟨rfl, numeric⟩ | ⟨rfl, letter⟩ <;>
    rcases accepts_iff.1 accepts' with ⟨rfl, operator'⟩ | ⟨rfl, numeric'⟩ | ⟨rfl, letter'⟩
  case inl.inl | inr.inl.inr.inl | inr.inr.inr.inr => rfl
  case inl.inr.inl => simp [(operator_alone operator).1] at numeric'
  case inl.inr.inr => simp [(operator_alone operator).2] at letter'
  case inr.inl.inl => simp [(operator_alone operator').1] at numeric
  case inr.inl.inr.inr => simp [isLetter_of_isNumeric numeric] at letter'
  case inr.inr.inl => simp [(operator_alone operator').2] at letter
  case inr.inr.inr.inl => simp [isLetter_of_isNumeric numeric'] at letter

/-- The place after the last character of the lexeme. -/
def stop (token : Token) : Nat := token.position + token.lexeme.length

/-- The token stands for the character at this place, among others. -/
def Covers (token : Token) (place : Nat) : Prop := token.position ≤ place ∧ place < token.stop

/-- The token stands for a stretch of the line, and unless it is an operator, the characters next to
the stretch are of another class or none. -/
structure Stands (line : Int) (code : List Char) (token : Token) : Prop where
  scanned : Scanned line token
  nonempty : token.lexeme ≠ ""
  quoted : token.lexeme.toList = (code.drop token.position).take token.lexeme.length
  before : token.kind ≠ .operator → 0 < token.position →
    ∀ c, code[token.position - 1]? = some c → token.kind.accepts c = false
  after : token.kind ≠ .operator →
    ∀ c, code[token.stop]? = some c → token.kind.accepts c = false

/-- The tokens stand for stretches of the line one after another, and these leave out no character
that a token can be made of. -/
structure Exhausts (line : Int) (code : List Char) (tokens : List Token) : Prop where
  stands : ∀ token ∈ tokens, Stands line code token
  ordered : tokens.Pairwise fun first second => first.position < second.position
  apart : tokens.Pairwise fun first second => first.stop ≤ second.position
  covered : ∀ place c, code[place]? = some c →
    (isAccepted c = true ↔ ∃! token, token ∈ tokens ∧ token.Covers place)

variable {line : Int} {code : List Char}

theorem Scanned.accepts (scanned : Scanned line token) :
    ∀ c ∈ token.lexeme.toList, token.kind.accepts c = true := by
  cases scanned with
  | operator known => simp [Kind.accepts, isOperator, known]
  | number numeric => simpa [Kind.accepts] using numeric
  | word letters => simpa [Kind.accepts] using letters

theorem Scanned.length_operator (scanned : Scanned line token) (operator : token.kind = .operator) :
    token.lexeme.length = 1 := by
  cases scanned with
  | operator known => simp
  | number numeric | word letters => cases operator

theorem Stands.covers_position (stands : Stands line code token) : token.Covers token.position := by
  have : token.lexeme.length ≠ 0 := by simpa using stands.nonempty
  simp only [Covers, stop]
  omega

theorem Stands.char (stands : Stands line code token) (covers : token.Covers place) :
    ∃ c, code[place]? = some c ∧ token.kind.accepts c = true := by
  obtain ⟨low, high⟩ := covers
  simp only [stop] at high
  have within : place - token.position < token.lexeme.toList.length := by
    rw [String.length_toList]
    omega
  refine ⟨token.lexeme.toList[place - token.position], ?_,
    stands.scanned.accepts _ (List.getElem_mem within)⟩
  rw [← List.getElem?_eq_getElem within, stands.quoted, List.getElem?_take_of_lt (by omega),
    List.getElem?_drop, Nat.add_sub_cancel' low]

/-- Neither of two stretches of a class begins inside the other. -/
theorem Stands.position_le (one : Stands line code a) (two : Stands line code b)
    (same : a.kind = b.kind) (run : b.kind ≠ .operator) (covers : a.Covers place)
    (covers' : b.Covers place) : b.position ≤ a.position := by
  by_contra inside
  simp only [Covers] at covers covers'
  have shared : a.Covers (b.position - 1) := by
    simp only [Covers]
    omega
  obtain ⟨c, here, accepts⟩ := one.char shared
  have refused := two.before run (by omega) c here
  rw [same, refused] at accepts
  cases accepts

theorem Stands.stop_le (one : Stands line code a) (two : Stands line code b)
    (same : a.kind = b.kind) (run : b.kind ≠ .operator) (covers : a.Covers place)
    (covers' : b.Covers place) : a.stop ≤ b.stop := by
  by_contra inside
  simp only [Covers] at covers covers'
  have shared : a.Covers b.stop := by
    simp only [Covers]
    omega
  obtain ⟨c, here, accepts⟩ := one.char shared
  have refused := two.after run c here
  rw [same, refused] at accepts
  cases accepts

/-- Only one token can stand for a character. -/
theorem Stands.unique (one : Stands line code a) (two : Stands line code b)
    (covers : a.Covers place) (covers' : b.Covers place) : a = b := by
  have kind : a.kind = b.kind := by
    obtain ⟨c, here, accepts⟩ := one.char covers
    obtain ⟨d, here', accepts'⟩ := two.char covers'
    obtain rfl : c = d := Option.some.inj (here.symm.trans here')
    exact accepts_unique accepts accepts'
  have extent : a.position = b.position ∧ a.lexeme.length = b.lexeme.length := by
    by_cases operator : b.kind = .operator
    · have single := one.scanned.length_operator (kind.trans operator)
      have single' := two.scanned.length_operator operator
      simp only [Covers, stop] at covers covers'
      omega
    · have first := one.position_le two kind operator covers covers'
      have first' := two.position_le one kind.symm (kind ▸ operator) covers' covers
      have last := one.stop_le two kind operator covers covers'
      have last' := two.stop_le one kind.symm (kind ▸ operator) covers' covers
      simp only [stop] at last last'
      omega
  have lexeme : a.lexeme = b.lexeme := by
    apply String.toList_injective
    rw [one.quoted, two.quoted, extent.1, extent.2]
  have rest : a.line = b.line ∧ a.resolved = b.resolved := by
    cases one.scanned <;> cases two.scanned <;> exact ⟨rfl, rfl⟩
  cases a
  cases b
  simp_all

theorem Exhausts.nonempty (exhausts : Exhausts line code tokens) (member : token ∈ tokens) :
    ∃ c, code[token.position]? = some c ∧ isAccepted c = true := by
  obtain ⟨c, here, accepts⟩ := (exhausts.stands token member).char
    (exhausts.stands token member).covers_position
  exact ⟨c, here, isAccepted_iff.2 ⟨_, accepts⟩⟩

theorem Exhausts.subset (one : Exhausts line code tokens) (two : Exhausts line code tokens') :
    tokens ⊆ tokens' := by
  intro token member
  have stands := one.stands token member
  obtain ⟨c, here, accepted⟩ := one.nonempty member
  obtain ⟨other, ⟨member', covers⟩, _⟩ := (two.covered token.position c here).1 accepted
  rwa [stands.unique (two.stands other member') stands.covers_position covers]

/-- A line is taken apart in one way only. -/
theorem Exhausts.unique (one : Exhausts line code tokens) (two : Exhausts line code tokens') :
    tokens = tokens' := by
  have : Std.Antisymm fun first second : Token => first.position < second.position :=
    ⟨fun _ _ lt gt => absurd gt (Nat.lt_asymm lt)⟩
  have : Std.Irrefl fun first second : Token => first.position < second.position :=
    ⟨fun token => Nat.lt_irrefl token.position⟩
  exact one.ordered.eq_of_mem_iff two.ordered fun _ =>
    ⟨fun member => one.subset two member, fun member => two.subset one member⟩

/-- No run of a class goes on across the place. -/
def Breaks (code : List Char) (place : Nat) : Prop :=
  ∀ kind : Kind, kind ≠ .operator → ∀ c d, 0 < place → code[place - 1]? = some c →
    code[place]? = some d → kind.accepts d = true → kind.accepts c = false

variable {run rest : List Char}

theorem drop_run (here : code.drop place = run ++ rest) :
    code.drop (place + run.length) = rest := by
  rw [← List.drop_drop, here, List.drop_left]

theorem split_run (accepts : Char → Bool) (here : code.drop place = c :: cs) :
    code.drop place = (c :: cs.takeWhile accepts) ++ cs.dropWhile accepts := by
  rw [here, List.cons_append, List.takeWhile_append_dropWhile]

theorem get_run (here : code.drop place = run ++ rest) (i : Nat) :
    code[place + i]? = (run ++ rest)[i]? := by
  rw [← here, List.getElem?_drop]

/-- After a run of a class that does not go on, whatever class comes next. -/
theorem breaks_run {kind : Kind} (here : code.drop place = run ++ rest) (given : run ≠ [])
    (inside : ∀ c ∈ run, kind.accepts c = true)
    (ends : kind ≠ .operator → ∀ c, rest.head? = some c → kind.accepts c = false) :
    Breaks code (place + run.length) := by
  intro other proper c d _ last next accepts
  have length := List.length_pos_iff.2 given
  have member : c ∈ run := by
    rw [Nat.add_sub_assoc (by omega), get_run here, List.getElem?_append_left (by omega)] at last
    exact List.mem_of_getElem? last
  have first : rest.head? = some d := by
    rw [get_run here, List.getElem?_append_right (Nat.le_refl _), Nat.sub_self] at next
    rwa [List.head?_eq_getElem?]
  apply Bool.eq_false_iff.2
  intro accepts'
  obtain rfl := accepts_unique (inside c member) accepts'
  rw [ends proper d first] at accepts
  cases accepts

/-- A token is cut from the line where a run of its class begins, as far as it goes. -/
theorem stands_run (line : Int) {kind : Kind} (here : code.drop place = run ++ rest)
    (given : run ≠ []) (breaks : Breaks code place) (inside : ∀ c ∈ run, kind.accepts c = true)
    (ends : kind ≠ .operator → ∀ c, rest.head? = some c → kind.accepts c = false)
    (scanned : Scanned line ⟨kind, String.ofList run, line, place, false⟩) :
    Stands line code ⟨kind, String.ofList run, line, place, false⟩ where
  scanned := scanned
  nonempty := by simpa using given
  quoted := by simp [here]
  before := by
    intro run' positive c last
    obtain ⟨d, run, rfl⟩ := List.exists_cons_of_ne_nil given
    refine breaks kind run' c d positive last ?_ (inside d (by simp))
    simpa using get_run here 0
  after := by
    intro run' c next
    apply ends run'
    rw [stop, String.length_ofList, get_run here, List.getElem?_append_right (Nat.le_refl _),
      Nat.sub_self] at next
    rwa [List.head?_eq_getElem?]

theorem head_dropWhile (accepts : Char → Bool) (cs : List Char) (c : Char)
    (head : (cs.dropWhile accepts).head? = some c) : accepts c = false := by
  have := List.head?_dropWhile_not accepts cs
  simpa [head] using this

theorem takeWhile_accepts (kind : Kind) (c : Char) (cs : List Char)
    (first : kind.accepts c = true) :
    ∀ d ∈ c :: cs.takeWhile kind.accepts, kind.accepts d = true := by
  intro d member
  rcases List.mem_cons.1 member with rfl | member
  · exact first
  · exact List.mem_takeWhile_imp member

theorem scanFrom_stands (line : Int) (place : Nat) (cs : List Char) (here : code.drop place = cs)
    (breaks : Breaks code place) :
    ∀ token ∈ scanFrom line place cs, Stands line code token := by
  fun_induction scanFrom line place cs with
  | case1 => simp
  | case2 place c cs operator ih =>
    have split : code.drop place = [c] ++ cs := here
    have inside : ∀ d ∈ [c], Kind.operator.accepts d = true := by
      simpa [Kind.accepts] using operator
    obtain ⟨final, known⟩ := Option.isSome_iff_exists.1 operator
    have single := stands_run line split (by simp) breaks inside (by simp) (.operator known)
    have broken := breaks_run split (by simp) inside (by simp)
    exact List.forall_mem_cons.2 ⟨single, ih (drop_run split) broken⟩
  | case3 place c cs _ numeric run ih =>
    have split := split_run isNumeric here
    have inside := takeWhile_accepts .number c cs numeric
    have ends (_ : Kind.number ≠ .operator) := head_dropWhile isNumeric cs
    have longest := stands_run line split (by simp) breaks inside ends (.number inside)
    have broken := breaks_run split (by simp) inside ends
    exact List.forall_mem_cons.2 ⟨longest, ih (drop_run split) broken⟩
  | case4 place c cs _ _ letter run ih =>
    have split := split_run Text.isLetter here
    have inside := takeWhile_accepts .word c cs letter
    have ends (_ : Kind.word ≠ .operator) := head_dropWhile Text.isLetter cs
    have longest := stands_run line split (by simp) breaks inside ends (.word inside)
    have broken := breaks_run split (by simp) inside ends
    exact List.forall_mem_cons.2 ⟨longest, ih (drop_run split) broken⟩
  | case5 place c cs operator numeric letter ih =>
    have split : code.drop place = [c] ++ cs := here
    have skipped (kind : Kind) : kind.accepts c = false := by
      rw [Bool.eq_false_iff, ne_eq, accepts_iff]
      simp [operator, numeric, letter]
    refine ih (drop_run split) ?_
    intro kind _ d e _ last
    have first : code[place]? = some c := by simpa using get_run split 0
    obtain rfl : c = d := by simpa [first] using last
    exact fun _ _ => skipped kind

theorem scanFrom_position (line : Int) (place : Nat) (cs : List Char) :
    ∀ token ∈ scanFrom line place cs, place ≤ token.position := by
  fun_induction scanFrom line place cs with
  | case1 => simp
  | case2 place c cs operator ih | case3 place c cs _ numeric run ih
  | case4 place c cs _ _ letter run ih =>
    refine List.forall_mem_cons.2 ⟨Nat.le_refl _, fun token member => ?_⟩
    have := ih token member
    omega
  | case5 place c cs _ _ _ ih =>
    intro token member
    have := ih token member
    omega

theorem scanFrom_apart (line : Int) (place : Nat) (cs : List Char) :
    (scanFrom line place cs).Pairwise fun first second => first.stop ≤ second.position := by
  fun_induction scanFrom line place cs with
  | case1 => exact .nil
  | case2 place c cs operator ih | case3 place c cs _ numeric run ih
  | case4 place c cs _ _ letter run ih =>
    refine List.pairwise_cons.2 ⟨fun token member => ?_, ih⟩
    have := scanFrom_position line _ _ token member
    simpa [stop] using this
  | case5 place c cs _ _ _ ih => exact ih

theorem covers_cons {token : Token} {tokens : List Token}
    (inside : token.position = place ∧ token.stop = later) (after : place ≤ i)
    (beyond : later ≤ i → ∃ other ∈ tokens, other.Covers i) :
    ∃ other ∈ token :: tokens, other.Covers i := by
  by_cases short : i < later
  · refine ⟨token, List.mem_cons_self, ?_⟩
    simp only [Covers]
    omega
  · obtain ⟨other, member, covers⟩ := beyond (by omega)
    exact ⟨other, List.mem_cons_of_mem token member, covers⟩

theorem scanFrom_covers (line : Int) (place : Nat) (cs : List Char) (here : code.drop place = cs)
    (after : place ≤ i) (given : code[i]? = some d) (accepted : isAccepted d = true) :
    ∃ token ∈ scanFrom line place cs, token.Covers i := by
  fun_induction scanFrom line place cs with
  | case1 =>
    have := List.drop_eq_nil_iff.1 here
    have := (List.getElem?_eq_some_iff.1 given).1
    omega
  | case2 place c cs operator ih =>
    have split : code.drop place = [c] ++ cs := here
    exact covers_cons ⟨rfl, by simp [stop]⟩ after (ih (drop_run split))
  | case3 place c cs _ numeric run ih =>
    have split := split_run isNumeric here
    exact covers_cons ⟨rfl, by simp [stop]⟩ after (ih (drop_run split))
  | case4 place c cs _ _ letter run ih =>
    have split := split_run Text.isLetter here
    exact covers_cons ⟨rfl, by simp [stop]⟩ after (ih (drop_run split))
  | case5 place c cs operator numeric letter ih =>
    have split : code.drop place = [c] ++ cs := here
    by_cases first : i = place
    · subst first
      have same : code[i]? = some c := by simpa using get_run split 0
      obtain rfl : c = d := by simpa [same] using given
      simp [isAccepted, operator, numeric, letter] at accepted
    · exact ih (drop_run split) (by omega)

theorem scanFrom_exhausts (line : Int) (code : List Char) :
    Exhausts line code (scanFrom line 0 code) := by
  have breaks : Breaks code 0 := by
    intro kind _ c d positive
    exact absurd positive (Nat.lt_irrefl 0)
  have stands := scanFrom_stands line 0 code rfl breaks
  have apart := scanFrom_apart line 0 code
  refine ⟨stands, ?_, apart, ?_⟩
  · refine apart.imp_of_mem fun {first second} member _ before => ?_
    exact Nat.lt_of_lt_of_le (stands first member).covers_position.2 before
  · intro place c given
    constructor
    · intro accepted
      obtain ⟨token, member, covers⟩ :=
        scanFrom_covers line 0 code rfl (Nat.zero_le place) given accepted
      refine ⟨token, ⟨member, covers⟩, ?_⟩
      rintro other ⟨member', covers'⟩
      exact (stands other member').unique (stands token member) covers' covers
    · rintro ⟨token, ⟨member, covers⟩, _⟩
      obtain ⟨d, here, accepts⟩ := (stands token member).char covers
      obtain rfl : c = d := Option.some.inj (given.symm.trans here)
      exact isAccepted_iff.2 ⟨_, accepts⟩

/-- Scanning takes a line apart into the longest stretches of each class, and there is no other way
to do so. -/
theorem scan_exhausts_iff (line : Int) (code : String) (tokens : List Token) :
    tokens = scan line code ↔ Exhausts line code.toList tokens := by
  have exhausts := scanFrom_exhausts line code.toList
  exact ⟨fun same => same ▸ exhausts, fun other => other.unique exhausts⟩

end Token
end Reckon
